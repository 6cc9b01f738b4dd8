import GoIndex.Data.Yaml.Meaning
import GoIndex.Proofs.Data.Merge

/-!
# Keys in a YAML document

In a text a key may stand twice in a mapping, be it written twice or taken over from elsewhere, but
in what the text stands for it stands once. The entries of a mapping are set one by one, and setting
an entry never repeats a key (`nodup_keysOf_setEntry`). That every mapping made so far has each key
once (`Making.Distinct`) is therefore kept by every step of making values, and holds of the document
in the end (`nodup_keysOf_entriesAt`). Down to any depth its entries are a proper map
(`Document.proper_entries`).
-/

namespace GoIndex.Data.Yaml

/-! ### What a computation yields -/

/-- Whether everything that a computation can give has a property. -/
def Yields {ε α : Type} (x : Except ε α) (p : α → Prop) : Prop :=
  ∀ a, x = .ok a → p a

theorem yields_ok {ε α : Type} {p : α → Prop} {a : α} (h : p a) :
    Yields (.ok a : Except ε α) p := by
  intro b hb
  cases hb
  exact h

theorem yields_error {ε α : Type} {p : α → Prop} (e : ε) : Yields (.error e : Except ε α) p :=
  nofun

theorem yields_true {ε α : Type} (x : Except ε α) : Yields x fun _ => True :=
  fun _ _ => trivial

theorem Yields.bind {ε α β : Type} {x : Except ε α} {f : α → Except ε β} {p : α → Prop}
    {q : β → Prop} (hx : Yields x p) (hf : ∀ a, p a → Yields (f a) q) : Yields (x >>= f) q := by
  intro b hb
  cases x with
  | error e => cases hb
  | ok a => exact hf a (hx a rfl) b hb

/-! ### Making values -/

namespace Making

/-- Every mapping that has been made has each key once. -/
def Distinct (m : Making) : Prop :=
  ∀ n entries, m.item? n = some (.map entries) → (keysOf entries).Nodup

variable {m : Making}

theorem Distinct.put (h : m.Distinct) (n : Nat) {item : Item}
    (hitem : ∀ entries, item = .map entries → (keysOf entries).Nodup) :
    (m.put n item).Distinct := by
  intro k entries hk
  rw [item?, Making.put, Array.getElem?_setIfInBounds] at hk
  split at hk
  · split at hk
    · exact hitem entries (Option.some.inj hk)
    · cases hk
  · exact h k entries hk

/-- A node that is made is made empty or without parts. -/
theorem Distinct.make (h : m.Distinct) (n : Nat) : Yields (m.make n) Distinct := by
  unfold Making.make
  split
  · exact yields_ok h
  · split
    case h_6 =>
      refine (yields_true _).bind fun text _ => ?_
      split
      · exact yields_error _
      · exact (yields_true _).bind fun value _ => yields_ok (h.put n nofun)
    all_goals exact yields_ok (h.put n nofun)

theorem Distinct.makeAll (h : m.Distinct) (numbers : List Nat) :
    Yields (m.makeAll numbers) Distinct := by
  unfold Making.makeAll
  induction numbers generalizing m with
  | nil => exact yields_ok h
  | cons n numbers ih =>
    rw [List.foldlM_cons]
    exact (h.make n).bind fun next hnext => ih hnext

/-- Entries are set one by one, so that no key stands twice. -/
theorem Distinct.makeEntries {entries : List (Scalar × Nat)} (hentries : (keysOf entries).Nodup)
    (pairs : List (Nat × Nat)) (h : m.Distinct) :
    Yields (makeEntries entries pairs m) fun r => (keysOf r.1).Nodup ∧ r.2.Distinct := by
  induction pairs generalizing entries m with
  | nil => exact yields_ok ⟨hentries, h⟩
  | cons pair pairs ih =>
    unfold Making.makeEntries
    refine (h.make pair.1).bind fun next hnext => ?_
    split
    · refine (hnext.make pair.2).bind fun last hlast => ?_
      exact ih (nodup_keysOf_setEntry hentries _ _) hlast
    · exact yields_error _

theorem Distinct.makeMap (h : m.Distinct) (n : Nat) :
    Yields (m.makeMap n) fun r => (keysOf r.1).Nodup ∧ r.2.Distinct := by
  unfold Making.makeMap
  split
  · refine (yields_true _).bind fun nodes _ => ?_
    refine Distinct.makeEntries ?_ _ h
    exact List.nodup_nil
  · exact yields_error _

theorem Distinct.makePairs (pairs : List (Nat × Nat)) (numbers : List Nat) (h : m.Distinct) :
    Yields (makePairs pairs numbers m) fun r => r.2.Distinct := by
  induction numbers generalizing pairs m with
  | nil => exact yields_ok h
  | cons n numbers ih =>
    unfold Making.makePairs
    refine (yields_true _).bind fun pair _ => ?_
    exact (h.makeAll _).bind fun next hnext => ih _ hnext

/-- Filling a collection keeps what has been made as it should be. -/
theorem Distinct.fill (h : m.Distinct) (n : Nat) : Yields (m.fill n) Distinct := by
  unfold Making.fill
  split
  · exact (h.makeAll _).bind fun next hnext => yields_ok (hnext.put n nofun)
  · refine (h.makeMap n).bind fun r hr => yields_ok (hr.2.put n ?_)
    intro entries hentries
    cases hentries
    exact hr.1
  · exact (h.makeMap n).bind fun r hr => yields_ok (hr.2.put n nofun)
  · exact (Distinct.makePairs _ _ h).bind fun r hr => yields_ok (hr.put n nofun)
  · exact (Distinct.makePairs _ _ h).bind fun r hr => yields_ok (hr.put n nofun)
  · exact yields_error _

theorem Distinct.fillAll (fuel : Nat) (h : m.Distinct) : Yields (fillAll fuel m) Distinct := by
  induction fuel generalizing m with
  | zero => exact yields_error _
  | succ fuel ih =>
    unfold Making.fillAll
    split
    · exact yields_ok h
    · rename_i n waiting _
      have hrest : ({ m with waiting := waiting } : Making).Distinct := h
      exact (hrest.fill n).bind fun next hnext => ih hnext

end Making

/-! ### Documents -/

/-- In what a text stands for, no key stands twice in a mapping. -/
theorem nodup_keysOf_entriesAt {source : Source} {d : Document} (h : parse source = .ok d)
    (n : Nat) : (keysOf (d.entriesAt n)).Nodup := by
  have hmade : Yields (parse source) fun d : Document =>
      ∀ (n : Nat) entries, d.items[n]?.join = some (Item.map entries) → (keysOf entries).Nodup := by
    refine (yields_true _).bind fun graph _ => ?_
    have hstart : (⟨graph.nodes, Array.replicate graph.nodes.size none, []⟩ : Making).Distinct := by
      intro k entries hk
      rw [Making.item?, Array.getElem?_replicate] at hk
      split at hk <;> cases hk
    refine (hstart.make graph.root).bind fun m hm => ?_
    exact (Making.Distinct.fillAll _ hm).bind fun last hlast => yields_ok hlast
  unfold Document.entriesAt
  split
  · rename_i entries hentries
    exact hmade d h n entries hentries
  · exact List.nodup_nil

namespace Document

variable {d : Document}

theorem keysOf_map (entries : List (Scalar × Nat)) (f : Nat → Value) :
    keysOf (entries.map fun entry => (entry.1, f entry.2)) = keysOf entries := by
  rw [keysOf, List.map_map]
  rfl

/-- Where no key stands twice, every value is proper, however deep it is looked at. -/
theorem proper_unfold (h : ∀ n, (keysOf (d.entriesAt n)).Nodup) (depth n : Nat) :
    (d.unfold depth n).Proper := by
  induction depth generalizing n with
  | zero =>
    unfold unfold
    split
    · exact .scalar _
    · exact .map List.nodup_nil nofun
    · exact .list _
  | succ depth ih =>
    unfold unfold
    split
    · exact .scalar _
    · rename_i entries hentries
      have hn : d.entriesAt n = entries := by rw [entriesAt, hentries]
      refine .map (by rw [keysOf_map, ← hn]; exact h n) fun entry hentry => ?_
      obtain ⟨source, -, rfl⟩ := List.mem_map.mp hentry
      exact ih source.2
    all_goals exact .list _

/-- The entries of a document are a proper map. -/
theorem proper_entries (h : ∀ n, (keysOf (d.entriesAt n)).Nodup) (depth : Nat) :
    (Value.map (d.entries depth)).Proper := by
  refine .map (by rw [entries, keysOf_map]; exact h d.root) fun entry hentry => ?_
  obtain ⟨source, -, rfl⟩ := List.mem_map.mp hentry
  exact proper_unfold h depth source.2

end Document

end GoIndex.Data.Yaml
