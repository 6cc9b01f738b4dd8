import GoIndex.Data.Value

/-!
# Maps laid over each other

`mergeEntries base upper` is told here by what paths of keys lead to (`Value.at?`). Everything
follows from one equation for a single key (`valueAt?_mergeEntries`): under a key of the upper map
stands its value, laid over what was there, and under any other key what was there.

* Along a path of the upper map (`Value.at?_over_of_some`) its value is met, laid over what the same
  path leads to below. So it is the value itself, unless both are maps.
* Where the upper map has nothing, and no value without entries bars the way, the path leads to what
  it led to below (`Value.at?_over_of_none`).
* Laying the same map over the result once more changes nothing, not even the order of the entries
  (`mergeEntries_mergeEntries`), and the empty map changes nothing on either side.

All this asks of the upper map that no key stands in it twice, at any depth (`Value.Proper`). A map
laid over another that is proper too gives a proper one (`Value.proper_over`).
-/

namespace GoIndex.Data

/-! ### Keys -/

/-- A key that is added behind others, unless it is there, repeats none. -/
theorem nodup_ite_concat {κ : Type} [DecidableEq κ] {keys : List κ} (h : keys.Nodup) (key : κ) :
    (if key ∈ keys then keys else keys ++ [key]).Nodup := by
  split
  · exact h
  · rename_i hkey
    refine List.nodup_append.mpr ⟨h, by simp, ?_⟩
    intro other hother last hlast heq
    rw [List.mem_singleton] at hlast
    exact hkey (hlast ▸ heq ▸ hother)

section Keys

variable {α : Type}

/-- The keys of entries, by what stands for all that are the same key. -/
def keysOf (entries : List (Scalar × α)) : List Scalar :=
  entries.map (·.1.asKey)

@[simp]
theorem keysOf_cons (entry : Scalar × α) (entries : List (Scalar × α)) :
    keysOf (entry :: entries) = entry.1.asKey :: keysOf entries :=
  rfl

/-- Setting an entry adds its key behind all others, unless it is there. -/
theorem keysOf_setEntry (key : Scalar) (value : α) (entries : List (Scalar × α)) :
    keysOf (setEntry key value entries) =
      if key.asKey ∈ keysOf entries then keysOf entries else keysOf entries ++ [key.asKey] := by
  induction entries with
  | nil => rfl
  | cons entry entries ih =>
    by_cases hkey : entry.1.asKey = key.asKey
    · simp [setEntry, hkey]
    · have hne : key.asKey ≠ entry.1.asKey := fun heq => hkey heq.symm
      simp only [setEntry, hkey, if_false, keysOf_cons, ih, List.mem_cons, hne, false_or]
      split <;> rfl

theorem nodup_keysOf_setEntry {entries : List (Scalar × α)} (h : (keysOf entries).Nodup)
    (key : Scalar) (value : α) : (keysOf (setEntry key value entries)).Nodup := by
  rw [keysOf_setEntry]
  exact nodup_ite_concat h key.asKey

/-- A new key goes behind all others. -/
theorem setEntry_of_not_mem {key : Scalar} {entries : List (Scalar × α)}
    (h : key.asKey ∉ keysOf entries) (value : α) :
    setEntry key value entries = entries ++ [(key, value)] := by
  induction entries with
  | nil => rfl
  | cons entry entries ih =>
    rw [keysOf_cons, List.mem_cons, not_or] at h
    obtain ⟨hne, hrest⟩ := h
    rw [setEntry, if_neg (Ne.symm hne), ih hrest, List.cons_append]

theorem mem_setEntry {key : Scalar} {value : α} {entries : List (Scalar × α)} {entry : Scalar × α}
    (h : entry ∈ setEntry key value entries) : entry ∈ entries ∨ entry.2 = value := by
  induction entries with
  | nil =>
    obtain rfl := List.mem_singleton.mp h
    exact .inr rfl
  | cons first entries ih =>
    rw [setEntry] at h
    split at h
    · rcases List.mem_cons.mp h with rfl | hmem
      · exact .inr rfl
      · exact .inl (List.mem_cons_of_mem _ hmem)
    · rcases List.mem_cons.mp h with rfl | hmem
      · exact .inl List.mem_cons_self
      · exact (ih hmem).imp_left (List.mem_cons_of_mem _)

end Keys

/-! ### Values under keys -/

section ValueAt

variable {key other : Scalar} {value : Value} {entries : Entries}

theorem valueAt?_congr (h : key.asKey = other.asKey) (entries : Entries) :
    valueAt? key entries = valueAt? other entries := by
  induction entries with
  | nil => rfl
  | cons entry entries ih => rw [valueAt?, valueAt?, h, ih]

theorem valueAt?_eq_none_iff : valueAt? key entries = none ↔ key.asKey ∉ keysOf entries := by
  induction entries with
  | nil => simp [valueAt?, keysOf]
  | cons entry entries ih =>
    rw [valueAt?, keysOf_cons, List.mem_cons, not_or, ← ih]
    split
    · rename_i hkey
      simp [hkey]
    · rename_i hkey
      simp [Ne.symm hkey]

theorem mem_of_valueAt? (h : valueAt? key entries = some value) :
    ∃ entry ∈ entries, entry.2 = value := by
  induction entries with
  | nil => cases h
  | cons entry entries ih =>
    rw [valueAt?] at h
    split at h
    · exact ⟨entry, List.mem_cons_self, Option.some.inj h⟩
    · obtain ⟨found, hfound, hvalue⟩ := ih h
      exact ⟨found, List.mem_cons_of_mem _ hfound, hvalue⟩

/-- Where no key stands twice, every entry is found under its key. -/
theorem valueAt?_of_mem (h : (keysOf entries).Nodup) {entry : Scalar × Value}
    (hentry : entry ∈ entries) : valueAt? entry.1 entries = some entry.2 := by
  induction entries with
  | nil => cases hentry
  | cons first entries ih =>
    obtain ⟨hfirst, hrest⟩ : first.1.asKey ∉ keysOf entries ∧ (keysOf entries).Nodup :=
      List.nodup_cons.mp h
    rcases List.mem_cons.mp hentry with rfl | hmem
    · simp [valueAt?]
    · have hne : first.1.asKey ≠ entry.1.asKey := by
        intro heq
        have hkey : entry.1.asKey ∈ keysOf entries := List.mem_map_of_mem hmem
        exact hfirst (heq ▸ hkey)
      rw [valueAt?, if_neg hne, ih hrest hmem]

/-- Setting what is there changes nothing. -/
theorem setEntry_of_valueAt? (h : valueAt? key entries = some value) :
    setEntry key value entries = entries := by
  induction entries with
  | nil => cases h
  | cons entry entries ih =>
    rw [valueAt?] at h
    rw [setEntry]
    split at h
    · rename_i hkey
      rw [if_pos hkey, ← Option.some.inj h]
    · rename_i hkey
      rw [if_neg hkey, ih h]

end ValueAt

/-! ### Paths -/

namespace Value

/-- Whether a value is a map. -/
def isMap : Value → Bool
  | .map _ => true
  | _ => false

/-- What a path of keys leads to. Only maps lead on. -/
def at? : (path : List Scalar) → Value → Option Value
  | [], value => some value
  | key :: path, value => (valueAt? key value.entries).bind (at? path)

/-- A value in which no map that a path leads to has a key twice. -/
inductive Proper : Value → Prop
  | scalar (value : Scalar) : Proper (.scalar value)
  | list (items : List Value) : Proper (.list items)
  | map {entries : Entries} (keys : (keysOf entries).Nodup)
    (values : ∀ entry ∈ entries, entry.2.Proper) : Proper (.map entries)

theorem Proper.of_valueAt? {entries : Entries} {key : Scalar} {value : Value}
    (h : (Value.map entries).Proper) (hvalue : valueAt? key entries = some value) :
    value.Proper := by
  obtain ⟨entry, hentry, rfl⟩ := mem_of_valueAt? hvalue
  cases h with
  | map _ values => exact values entry hentry

theorem Proper.of_at? {value inner : Value} (h : value.Proper) {path : List Scalar}
    (hinner : at? path value = some inner) : inner.Proper := by
  induction path generalizing value with
  | nil => exact Option.some.inj hinner ▸ h
  | cons key path ih =>
    obtain ⟨next, hnext, hpath⟩ := Option.bind_eq_some_iff.mp hinner
    cases value with
    | scalar _ => cases hnext
    | list _ => cases hnext
    | map entries => exact ih (h.of_valueAt? hnext) hpath

theorem Proper.nodup_keysOf {entries : Entries} (h : (Value.map entries).Proper) :
    (keysOf entries).Nodup := by
  cases h with
  | map keys _ => exact keys

theorem at?_map_cons (key : Scalar) (path : List Scalar) (entries : Entries) :
    at? (key :: path) (.map entries) = (valueAt? key entries).bind (at? path) :=
  rfl

/-! ### Laying a value over another -/

theorem over_map_map (entries base : Entries) :
    (Value.map entries).over (some (.map base)) = .map (mergeEntries base entries) := by
  rw [Value.over]

/-- Only a map laid over a map is changed. -/
theorem over_eq_self {upper : Value} {lower : Option Value}
    (h : upper.isMap → ∀ base, lower ≠ some (.map base)) : upper.over lower = upper := by
  rw [Value.over]
  rintro entries base rfl hlower
  exact h rfl base hlower

/-- What a map laid over something gives: two maps are merged, and nothing else changes it. -/
theorem map_over_cases (entries : Entries) (lower : Option Value) :
    (∃ base, lower = some (.map base) ∧
      (Value.map entries).over lower = .map (mergeEntries base entries)) ∨
    (∀ base, lower ≠ some (.map base)) ∧ (Value.map entries).over lower = .map entries := by
  by_cases hlower : ∃ base, lower = some (.map base)
  · obtain ⟨base, rfl⟩ := hlower
    exact .inl ⟨base, rfl, over_map_map entries base⟩
  · have hnot : ∀ base, lower ≠ some (.map base) := fun base hbase => hlower ⟨base, hbase⟩
    exact .inr ⟨hnot, over_eq_self fun _ => hnot⟩

theorem over_scalar (value : Scalar) (lower : Option Value) :
    (Value.scalar value).over lower = .scalar value :=
  over_eq_self nofun

theorem over_list (items : List Value) (lower : Option Value) :
    (Value.list items).over lower = .list items :=
  over_eq_self nofun

@[simp]
theorem over_none (upper : Value) : upper.over none = upper :=
  over_eq_self fun _ _ => nofun

end Value

theorem mergeEntries_nil (base : Entries) : mergeEntries base [] = base := by
  rw [mergeEntries]

theorem mergeEntries_cons (base : Entries) (entry : Scalar × Value) (upper : Entries) :
    mergeEntries base (entry :: upper) =
      mergeEntries (setEntry entry.1 (entry.2.over (valueAt? entry.1 base)) base) upper := by
  rw [mergeEntries]

/-- **One key**: under a key of the upper map stands its value, laid over what was there; under any
other key stands what was there. -/
theorem valueAt?_mergeEntries {upper : Entries} (h : (keysOf upper).Nodup) (base : Entries)
    (key : Scalar) :
    valueAt? key (mergeEntries base upper) =
      ((valueAt? key upper).map (·.over (valueAt? key base))).or (valueAt? key base) := by
  induction upper generalizing base with
  | nil => rw [mergeEntries_nil]; rfl
  | cons entry upper ih =>
    obtain ⟨hentry, hupper⟩ := List.nodup_cons.mp h
    rw [mergeEntries_cons, ih hupper, valueAt?]
    by_cases hkey : entry.1.asKey = key.asKey
    · -- the key does not stand in the upper map again
      have hnone : valueAt? key upper = none := valueAt?_eq_none_iff.mpr (hkey ▸ hentry)
      rw [hnone, if_pos hkey, valueAt?_setEntry_of_eq hkey.symm, valueAt?_congr hkey]
      rfl
    · rw [if_neg hkey, valueAt?_setEntry_of_ne (Ne.symm hkey)]

/-- The keys of a merged map are those of both. -/
theorem isSome_valueAt?_mergeEntries {upper : Entries} (h : (keysOf upper).Nodup) (base : Entries)
    (key : Scalar) :
    (valueAt? key (mergeEntries base upper)).isSome ↔
      (valueAt? key base).isSome ∨ (valueAt? key upper).isSome := by
  rw [valueAt?_mergeEntries h, Option.isSome_or, Option.isSome_map, Bool.or_eq_true, or_comm]

/-! ### Along paths -/

namespace Value

/-- A path with a key in it leads nowhere from what is no map. -/
theorem bind_at?_cons_of_forall_ne {lower : Option Value} (h : ∀ base, lower ≠ some (.map base))
    (key : Scalar) (path : List Scalar) : lower.bind (at? (key :: path)) = none := by
  refine Option.bind_eq_none_iff.mpr fun value hvalue => ?_
  cases value with
  | scalar _ => rfl
  | list _ => rfl
  | map base => exact absurd hvalue (h base)

/-- **Where the upper value has something**, this is met, laid over what the path leads to below. -/
theorem at?_over_of_some {upper value : Value} (h : upper.Proper) {path : List Scalar}
    (hvalue : at? path upper = some value) (lower : Option Value) :
    at? path (upper.over lower) = some (value.over (lower.bind (at? path))) := by
  induction path generalizing upper lower with
  | nil =>
    obtain rfl := Option.some.inj hvalue
    cases lower <;> rfl
  | cons key path ih =>
    cases upper with
    | scalar _ => cases hvalue
    | list _ => cases hvalue
    | map entries =>
      obtain ⟨next, hnext, hpath⟩ := Option.bind_eq_some_iff.mp hvalue
      have hproper : next.Proper := h.of_valueAt? hnext
      obtain ⟨base, rfl, hover⟩ | ⟨hnot, hover⟩ := map_over_cases entries lower
      · have hupper : valueAt? key entries = some next := hnext
        have hmerged : valueAt? key (mergeEntries base entries) =
            some (next.over (valueAt? key base)) := by
          rw [valueAt?_mergeEntries h.nodup_keysOf, hupper, Option.map_some, Option.some_or]
        rw [hover, at?_map_cons, hmerged, Option.bind_some, ih hproper hpath, Option.bind_some,
          at?_map_cons]
      · rw [hover, bind_at?_cons_of_forall_ne hnot, over_none, hvalue]

/-- **Where the upper value has nothing**, and no other value than a map bars the way, the path
leads to what it led to below. -/
theorem at?_over_of_none {upper : Value} (h : upper.Proper) {path : List Scalar}
    (hnone : at? path upper = none)
    (hway : ∀ front value, front <+: path → front ≠ path → at? front upper = some value →
      value.isMap) (lower : Option Value) :
    at? path (upper.over lower) = lower.bind (at? path) := by
  induction path generalizing upper lower with
  | nil => cases hnone
  | cons key path ih =>
    have hupper : upper.isMap := hway [] upper List.nil_prefix (by simp) rfl
    cases upper with
    | scalar _ => cases hupper
    | list _ => cases hupper
    | map entries =>
      obtain ⟨base, rfl, hover⟩ | ⟨hnot, hover⟩ := map_over_cases entries lower
      · rw [hover, at?_map_cons, valueAt?_mergeEntries h.nodup_keysOf, Option.bind_some,
          at?_map_cons]
        cases hnext : valueAt? key entries with
        | none => rfl
        | some next =>
          have hpath : at? path next = none := by
            rwa [at?_map_cons, hnext, Option.bind_some] at hnone
          rw [Option.map_some, Option.some_or, Option.bind_some]
          refine ih (h.of_valueAt? hnext) hpath (fun front value hfront hne hvalue => ?_) _
          refine hway (key :: front) value (List.cons_prefix_cons.mpr ⟨rfl, hfront⟩) ?_ ?_
          · exact fun heq => hne (List.cons.inj heq).2
          · rw [at?_map_cons, hnext, Option.bind_some, hvalue]
      · rw [hover, bind_at?_cons_of_forall_ne hnot, hnone]

end Value

/-- What it is, path by path, to be a map with another one laid over it. -/
structure LaidOver (base upper merged : Entries) : Prop where
  /-- What the upper map has stands, unless both have a map there. -/
  upper_wins : ∀ path value, Value.at? path (.map upper) = some value →
    (value.isMap = false ∨ ∀ entries, Value.at? path (.map base) ≠ some (.map entries)) →
    Value.at? path (.map merged) = some value
  /-- Where both have a map, a map stands that has the keys of both. -/
  maps_meet : ∀ path below above, Value.at? path (.map base) = some (.map below) →
    Value.at? path (.map upper) = some (.map above) →
    ∃ entries, Value.at? path (.map merged) = some (.map entries) ∧
      ∀ key, (valueAt? key entries).isSome ↔
        (valueAt? key below).isSome ∨ (valueAt? key above).isSome
  /-- Where the upper map has nothing, nor anything but maps on the way, all is as it was. -/
  base_stays : ∀ path, Value.at? path (.map upper) = none →
    (∀ front value, front <+: path → front ≠ path → Value.at? front (.map upper) = some value →
      value.isMap) → Value.at? path (.map merged) = Value.at? path (.map base)

theorem laidOver_mergeEntries {upper : Entries} (h : (Value.map upper).Proper) (base : Entries) :
    LaidOver base upper (mergeEntries base upper) := by
  have hmerged : Value.map (mergeEntries base upper) = (Value.map upper).over (some (.map base)) :=
    (Value.over_map_map upper base).symm
  refine ⟨fun path value hvalue hnot => ?_, fun path below above hbelow habove => ?_,
    fun path hnone hway => ?_⟩
  · rw [hmerged, Value.at?_over_of_some h hvalue, Option.bind_some, Value.over_eq_self]
    intro hmap
    exact hnot.resolve_left (by simp [hmap])
  · have hkeys : (keysOf above).Nodup := (h.of_at? habove).nodup_keysOf
    refine ⟨mergeEntries below above, ?_, isSome_valueAt?_mergeEntries hkeys below⟩
    rw [hmerged, Value.at?_over_of_some h habove, Option.bind_some, hbelow, Value.over_map_map]
  · rw [hmerged, Value.at?_over_of_none h hnone hway, Option.bind_some]

/-! ### Once more, and with nothing -/

/-- Entries that are there already, laid over what there is, change nothing. -/
theorem mergeEntries_eq_self {base upper : Entries}
    (h : ∀ entry ∈ upper, ∃ value, valueAt? entry.1 base = some value ∧
      entry.2.over (some value) = value) : mergeEntries base upper = base := by
  induction upper with
  | nil => exact mergeEntries_nil base
  | cons entry upper ih =>
    obtain ⟨value, hvalue, hover⟩ := h entry List.mem_cons_self
    rw [mergeEntries_cons, hvalue, hover, setEntry_of_valueAt? hvalue]
    exact ih fun next hnext => h next (List.mem_cons_of_mem _ hnext)

/-- A value laid over the result of laying it over another changes nothing more. -/
theorem Value.Proper.over_over {upper : Value} (h : upper.Proper) (lower : Option Value) :
    upper.over (some (upper.over lower)) = upper.over lower := by
  -- by induction on how proper values are made, which goes down to the values of the entries
  induction h generalizing lower with
  | scalar value => rw [over_scalar, over_scalar]
  | list items => rw [over_list, over_list]
  | @map entries keys values ih =>
    obtain ⟨base, rfl, hover⟩ | ⟨-, hover⟩ := map_over_cases entries lower
    · rw [hover, over_map_map, mergeEntries_eq_self]
      intro entry hentry
      refine ⟨entry.2.over (valueAt? entry.1 base), ?_, ih entry hentry _⟩
      rw [valueAt?_mergeEntries keys, valueAt?_of_mem keys hentry, Option.map_some, Option.some_or]
    · rw [hover, over_map_map, mergeEntries_eq_self]
      intro entry hentry
      have hentries := ih entry hentry none
      rw [over_none] at hentries
      exact ⟨entry.2, valueAt?_of_mem keys hentry, hentries⟩

/-- **Once is enough.** -/
theorem mergeEntries_mergeEntries {upper : Entries} (h : (Value.map upper).Proper)
    (base : Entries) :
    mergeEntries (mergeEntries base upper) upper = mergeEntries base upper := by
  have hover := h.over_over (some (.map base))
  rw [Value.over_map_map, Value.over_map_map] at hover
  exact Value.map.inj hover

/-- Entries under new keys are put behind those that are there. -/
theorem mergeEntries_of_disjoint {base upper : Entries} (h : (keysOf upper).Nodup)
    (hnew : ∀ key ∈ keysOf upper, key ∉ keysOf base) :
    mergeEntries base upper = base ++ upper := by
  induction upper generalizing base with
  | nil => rw [mergeEntries_nil, List.append_nil]
  | cons entry upper ih =>
    obtain ⟨hentry, hupper⟩ := List.nodup_cons.mp h
    have hkey : entry.1.asKey ∉ keysOf base := hnew _ List.mem_cons_self
    rw [mergeEntries_cons, valueAt?_eq_none_iff.mpr hkey, Value.over_none,
      setEntry_of_not_mem hkey, ih hupper, List.append_assoc, List.singleton_append]
    intro key hmem hbase
    rw [keysOf, List.map_append, List.mem_append] at hbase
    rcases hbase with hbase | hlast
    · exact hnew key (List.mem_cons_of_mem _ hmem) hbase
    · obtain rfl : key = entry.1.asKey := by simpa using hlast
      exact hentry hmem

theorem mergeEntries_nil_left {upper : Entries} (h : (keysOf upper).Nodup) :
    mergeEntries [] upper = upper :=
  mergeEntries_of_disjoint h fun _ _ => nofun

/-! ### Proper maps -/

theorem Value.Proper.setEntry {base : Entries} {value : Value} (hbase : (Value.map base).Proper)
    (hvalue : value.Proper) (key : Scalar) :
    (Value.map (setEntry key value base)).Proper := by
  cases hbase with
  | map keys values =>
    refine .map (nodup_keysOf_setEntry keys key value) fun entry hentry => ?_
    rcases mem_setEntry hentry with hmem | hnew
    · exact values entry hmem
    · exact hnew ▸ hvalue

/-- A map stays proper while entries are laid over it, if each of them gives proper values. -/
theorem Value.Proper.mergeEntries {base upper : Entries} (hbase : (Value.map base).Proper)
    (hupper : ∀ entry ∈ upper, ∀ lower : Option Value, (∀ value ∈ lower, value.Proper) →
      (entry.2.over lower).Proper) : (Value.map (mergeEntries base upper)).Proper := by
  induction upper generalizing base with
  | nil => rwa [mergeEntries_nil]
  | cons entry upper ih =>
    have hentry : (entry.2.over (valueAt? entry.1 base)).Proper :=
      hupper entry List.mem_cons_self _ fun value hvalue => hbase.of_valueAt? hvalue
    rw [mergeEntries_cons]
    exact ih (hbase.setEntry hentry entry.1) fun next hnext =>
      hupper next (List.mem_cons_of_mem _ hnext)

/-- **Proper over proper** is proper. -/
theorem Value.proper_over {upper : Value} (h : upper.Proper) {lower : Option Value}
    (hlower : ∀ value ∈ lower, value.Proper) : (upper.over lower).Proper := by
  induction h generalizing lower with
  | scalar value =>
    rw [over_scalar]
    exact .scalar value
  | list items =>
    rw [over_list]
    exact .list items
  | @map entries keys values ih =>
    obtain ⟨base, rfl, hover⟩ | ⟨-, hover⟩ := map_over_cases entries lower
    · rw [hover]
      exact (hlower _ rfl).mergeEntries fun entry hentry lower => ih entry hentry
    · rw [hover]
      exact .map keys values

end GoIndex.Data
