import GoIndex.Proofs.Catalog.Order

/-!
# The ranking of a catalog

A search ranks the declarations within a scope and keeps the best. It could as well rank the whole
catalog and look for those in scope afterwards (`Catalog.search_restricts_ranking`), since hits are
sorted stably and a stable sort commutes with every filter (`filter_mergeSort`).

Terms count separately (`Catalog.terms_count_separately`). What a term adds to a declaration are
its **marks**, and neither the sum of their weights nor the set of their labels sees an order.
Therefore two arrangements of one list of terms give every declaration the same score, and the
ranking is the same list of declarations, sorted once (`Catalog.hits_eq_map`) and rated twice.
-/

namespace GoIndex

open Text

/-! ### Stable sorting -/

section StableSorting

variable {α κ : Type} [LinearOrder κ] {before : α → α → Bool} {key : α → κ}

/-- A list is cut in one way only into a part where a property holds nowhere and a part where it
holds everywhere. -/
theorem append_inj_of_forall {p : α → Bool} {front back front' back' : List α}
    (h : front ++ back = front' ++ back') (hfront : ∀ a ∈ front, p a = false)
    (hback : ∀ a ∈ back, p a) (hfront' : ∀ a ∈ front', p a = false) (hback' : ∀ a ∈ back', p a) :
    front = front' ∧ back = back' := by
  -- what one cut has in front and the other behind would have the property and not have it
  have hnone : ∀ middle : List α, (∀ a ∈ middle, p a = false) → (∀ a ∈ middle, p a) →
      middle = [] := by
    intro middle hfalse htrue
    refine List.eq_nil_iff_forall_not_mem.mpr fun a ha => ?_
    exact Bool.false_ne_true ((hfalse a ha).symm.trans (htrue a ha))
  rcases List.append_eq_append_iff.mp h with ⟨middle, rfl, rfl⟩ | ⟨middle, rfl, rfl⟩
  · obtain rfl := hnone middle (fun a ha => hfront' a (List.mem_append_right _ ha))
      fun a ha => hback a (List.mem_append_left _ ha)
    simp
  · obtain rfl := hnone middle (fun a ha => hfront a (List.mem_append_right _ ha))
      fun a ha => hback' a (List.mem_append_left _ ha)
    simp

/-- The first element of a list is sorted in behind all that have to stand before it and before all
others. -/
theorem exists_mergeSort_cons (hbefore : ∀ a b, before a b = true ↔ key a ≤ key b) (x : α)
    (xs : List α) :
    ∃ front back, (x :: xs).mergeSort before = front ++ x :: back ∧
      xs.mergeSort before = front ++ back ∧
      (∀ a ∈ front, before x a = false) ∧ ∀ a ∈ back, before x a := by
  have htrans : ∀ a b c, before a b = true → before b c = true → before a c = true := by
    intro a b c hab hbc
    rw [hbefore] at hab hbc ⊢
    exact hab.trans hbc
  have htotal : ∀ a b, (before a b || before b a) = true := by
    intro a b
    rw [Bool.or_eq_true, hbefore, hbefore]
    exact le_total _ _
  obtain ⟨front, back, hcons, hrest, hfront⟩ := List.mergeSort_cons htrans htotal x xs
  refine ⟨front, back, hcons, hrest, fun a ha => by simpa using hfront a ha, fun a ha => ?_⟩
  have hsorted := List.pairwise_mergeSort htrans htotal (x :: xs)
  rw [hcons] at hsorted
  exact (List.pairwise_cons.mp (List.pairwise_append.mp hsorted).2.1).1 a ha

/-- **A stable sort commutes with filtering.** -/
theorem filter_mergeSort (hbefore : ∀ a b, before a b = true ↔ key a ≤ key b) (p : α → Bool)
    (xs : List α) : (xs.mergeSort before).filter p = (xs.filter p).mergeSort before := by
  induction xs with
  | nil => simp
  | cons x xs ih =>
    obtain ⟨front, back, hcons, hrest, hfront, hback⟩ := exists_mergeSort_cons hbefore x xs
    rw [hrest, List.filter_append] at ih
    rw [hcons, List.filter_append]
    by_cases hx : p x
    · -- both sides put `x` in at the same place of the sorted rest
      rw [List.filter_cons_of_pos hx, List.filter_cons_of_pos hx]
      obtain ⟨front', back', hcons', hrest', hfront', hback'⟩ :=
        exists_mergeSort_cons hbefore x (xs.filter p)
      obtain ⟨rfl, rfl⟩ := append_inj_of_forall (ih.trans hrest')
        (fun a ha => hfront a (List.mem_of_mem_filter ha))
        (fun a ha => hback a (List.mem_of_mem_filter ha)) hfront' hback'
      exact hcons'.symm
    · rw [List.filter_cons_of_neg hx, List.filter_cons_of_neg hx]
      exact ih

/-- **A stable sort keeps the order among equals**: elements with one key stay as they stood. -/
theorem pairwise_mergeSort_of_pairwise (hbefore : ∀ a b, before a b = true ↔ key a ≤ key b)
    {r : α → α → Prop} {xs : List α} (h : xs.Pairwise r) :
    (xs.mergeSort before).Pairwise fun a b => key a < key b ∨ key a = key b ∧ r a b := by
  induction xs with
  | nil => simp
  | cons x xs ih =>
    obtain ⟨hx, hxs⟩ := List.pairwise_cons.mp h
    obtain ⟨front, back, hcons, hrest, hfront, hback⟩ := exists_mergeSort_cons hbefore x xs
    have hsorted := ih hxs
    rw [hrest, List.pairwise_append] at hsorted
    obtain ⟨hsortedFront, hsortedBack, hacross⟩ := hsorted
    have hbefore_x : ∀ a ∈ front, key a < key x := by
      intro a ha
      have hnot := hfront a ha
      rw [← Bool.not_eq_true, hbefore] at hnot
      exact lt_of_not_ge hnot
    have hbehind_x : ∀ a ∈ back, key x < key a ∨ key x = key a ∧ r x a := by
      intro a ha
      have hmem : a ∈ xs.mergeSort before := by
        rw [hrest]
        exact List.mem_append_right front ha
      have hle := (hbefore x a).mp (hback a ha)
      exact hle.lt_or_eq.imp_right fun heq => ⟨heq, hx a (List.mem_mergeSort.mp hmem)⟩
    rw [hcons, List.pairwise_append, List.pairwise_cons]
    refine ⟨hsortedFront, ⟨hbehind_x, hsortedBack⟩, fun a ha b hb => ?_⟩
    rcases List.mem_cons.mp hb with rfl | hb
    · exact .inl (hbefore_x a ha)
    · exact hacross a ha b hb

end StableSorting

/-! ### Distinct members -/

section Distinct

variable {α : Type} [BEq α] [LawfulBEq α]

/-- Filtering and keeping one of each can change places. -/
theorem filter_eraseDups (p : α → Bool) (xs : List α) :
    xs.eraseDups.filter p = (xs.filter p).eraseDups := by
  match xs with
  | [] => rfl
  | x :: xs =>
    have ih := filter_eraseDups p (xs.filter fun y => !y == x)
    rw [List.filter_filter] at ih
    rw [List.eraseDups_cons]
    by_cases hx : p x
    · rw [List.filter_cons_of_pos hx, List.filter_cons_of_pos hx, List.eraseDups_cons, ih,
        List.filter_filter]
      simp only [Bool.and_comm]
    · rw [List.filter_cons_of_neg hx, List.filter_cons_of_neg hx, ih]
      congr 1
      refine List.filter_congr fun y _ => ?_
      -- what passes is not `x`
      by_cases hy : p y
      · have hne : y ≠ x := by
          rintro rfl
          exact hx hy
        simp [hy, hne]
      · simp [hy]
termination_by xs.length
decreasing_by exact Nat.lt_succ_of_le (List.length_filter_le _ _)

theorem nodup_eraseDups (xs : List α) : xs.eraseDups.Nodup := by
  match xs with
  | [] => exact .nil
  | x :: xs =>
    rw [List.eraseDups_cons, List.nodup_cons]
    refine ⟨fun hx => ?_, nodup_eraseDups _⟩
    rw [List.mem_eraseDups, List.mem_filter] at hx
    simp at hx
termination_by xs.length
decreasing_by exact Nat.lt_succ_of_le (List.length_filter_le _ _)

end Distinct

/-! ### Scores and labels of marks -/

theorem scoreOf_append (marks more : List Mark) :
    scoreOf (marks ++ more) = scoreOf marks + scoreOf more := by
  induction marks with
  | nil => simp [scoreOf]
  | cons mark marks ih =>
    calc scoreOf (mark :: (marks ++ more))
        = mark.weight + (scoreOf marks + scoreOf more) := congrArg (mark.weight + ·) ih
      _ = scoreOf (mark :: marks) + scoreOf more := (Nat.add_assoc _ _ _).symm

theorem scoreOf_of_perm {marks others : List Mark} (h : marks.Perm others) :
    scoreOf marks = scoreOf others := by
  induction h with
  | nil => rfl
  | cons mark _ ih => exact congrArg (mark.weight + ·) ih
  | swap mark other rest => exact Nat.add_left_comm _ _ _
  | trans _ _ ih ih' => exact ih.trans ih'

theorem mem_labelsOf {label : Label} {marks : List Mark} :
    label ∈ labelsOf marks ↔ ∃ mark ∈ marks, mark.label = label := by
  rw [labelsOf, List.mem_eraseDups, List.mem_map]

theorem nodup_labelsOf (marks : List Mark) : (labelsOf marks).Nodup :=
  nodup_eraseDups _

theorem labelsOf_eq_nil_iff {marks : List Mark} : labelsOf marks = [] ↔ marks = [] := by
  constructor
  · intro h
    refine List.eq_nil_iff_forall_not_mem.mpr fun mark hmark => ?_
    have hmem := mem_labelsOf.mpr ⟨mark, hmark, rfl⟩
    rw [h] at hmem
    cases hmem
  · rintro rfl
    rfl

/-- More marks add the labels that are not there yet. -/
theorem labelsOf_append (marks more : List Mark) :
    labelsOf (marks ++ more) =
      labelsOf marks ++ (labelsOf more).filter (· ∉ labelsOf marks) := by
  rw [labelsOf, List.map_append, List.eraseDups_append, ← labelsOf, List.removeAll,
    ← filter_eraseDups, ← labelsOf]
  congr 1
  refine List.filter_congr fun label _ => ?_
  rw [List.elem_eq_mem, ← decide_not, decide_eq_decide, labelsOf, List.mem_eraseDups]

/-! ### Terms -/

theorem Label.weight_pos (label : Label) : 0 < label.weight := by
  cases label <;> decide

/-- A term that leaves a mark adds to the score. -/
theorem SearchText.score_marks_eq_zero_iff (text : SearchText) (term : List Char) :
    scoreOf (text.marks term) = 0 ↔ text.marks term = [] := by
  have hname : scoreOf (nameMarks text.name term) = 0 ↔ nameMarks text.name term = [] := by
    rw [nameMarks]
    split
    · exact ⟨nofun, nofun⟩
    · split
      · exact ⟨nofun, nofun⟩
      · exact ⟨fun _ => rfl, fun _ => rfl⟩
  have hfields : ∀ fields : List (Label × List Char),
      scoreOf (fields.map (Mark.of ·.1)) = 0 ↔ fields.map (Mark.of ·.1) = [] := by
    intro fields
    cases fields with
    | nil => exact ⟨fun _ => rfl, fun _ => rfl⟩
    | cons field fields =>
      have hpos := field.1.weight_pos
      simp only [List.map_cons, scoreOf, List.foldr_cons, Mark.of, reduceCtorEq, iff_false]
      omega
  rw [marks, scoreOf_append, Nat.add_eq_zero_iff, List.append_eq_nil_iff, hname, hfields]

namespace Hit

variable (s t : List (List Char)) (d : Declaration)

/-- The marks that all terms leave. -/
private theorem marks_append :
    (s ++ t).flatMap d.searchText.marks =
      s.flatMap d.searchText.marks ++ t.flatMap d.searchText.marks :=
  List.flatMap_append

/-- **Scores add up.** -/
theorem score_append : (Hit.of (s ++ t) d).score = (Hit.of s d).score + (Hit.of t d).score := by
  simp only [Hit.of, marks_append, scoreOf_append]

/-- **Labels are added once.** -/
theorem labels_append :
    (Hit.of (s ++ t) d).labels =
      (Hit.of s d).labels ++ (Hit.of t d).labels.filter (· ∉ (Hit.of s d).labels) := by
  simp only [Hit.of, marks_append]
  exact labelsOf_append _ _

/-- A score is zero when there is no label, and only then. -/
theorem score_eq_zero_iff : (Hit.of s d).score = 0 ↔ (Hit.of s d).labels = [] := by
  rw [Hit.of, labelsOf_eq_nil_iff]
  induction s with
  | nil => exact ⟨fun _ => rfl, fun _ => rfl⟩
  | cons term s ih =>
    rw [List.flatMap_cons, scoreOf_append, Nat.add_eq_zero_iff, List.append_eq_nil_iff,
      SearchText.score_marks_eq_zero_iff, ih]

theorem nodup_labels : (Hit.of s d).labels.Nodup :=
  nodup_labelsOf _

variable {s t}

theorem score_of_perm (h : s.Perm t) : (Hit.of s d).score = (Hit.of t d).score :=
  scoreOf_of_perm (h.flatMap_right _)

theorem mem_labels_of_perm (h : s.Perm t) (label : Label) :
    label ∈ (Hit.of s d).labels ↔ label ∈ (Hit.of t d).labels := by
  have hmarks := h.flatMap_right d.searchText.marks
  simp only [Hit.of, mem_labelsOf, hmarks.mem_iff]

/-- Whether two hits rate one declaration alike, be it with the labels in another order. -/
structure Alike (a b : Hit) : Prop where
  declaration : a.declaration = b.declaration
  score : a.score = b.score
  labels : ∀ label, label ∈ a.labels ↔ label ∈ b.labels

theorem alike_of_perm (h : s.Perm t) : (Hit.of s d).Alike (Hit.of t d) where
  declaration := rfl
  score := score_of_perm d h
  labels := mem_labels_of_perm d h

end Hit

/-! ### Rankings -/

namespace Catalog

/-- Whether terms rate a declaration at all; no terms rate every one. -/
def rates (terms : List (List Char)) (d : Declaration) : Bool :=
  terms.isEmpty || (Hit.of terms d).score != 0

theorem rates_of_perm {s t : List (List Char)} (h : s.Perm t) : rates s = rates t := by
  have hempty : s.isEmpty = t.isEmpty := by
    rw [Bool.eq_iff_iff, List.isEmpty_iff, List.isEmpty_iff]
    exact ⟨fun hs => (hs ▸ h).nil_eq.symm, fun ht => (ht ▸ h).eq_nil⟩
  funext d
  rw [rates, rates, hempty, Hit.score_of_perm d h]

variable (catalog : Catalog)

/-- The hits are declarations that were sorted first and rated afterwards. -/
theorem hits_eq_map (terms : List (List Char)) :
    catalog.hits terms =
      ((List.filter (rates terms) catalog).mergeSort fun d e =>
        (Hit.of terms d).before (Hit.of terms e)).map (Hit.of terms) := by
  rw [hits, List.filter_map]
  refine (List.map_mergeSort ?_).symm
  intro d _ e _
  rfl

theorem perm_hits (terms : List (List Char)) :
    (catalog.hits terms).Perm ((List.filter (rates terms) catalog).map (Hit.of terms)) := by
  rw [hits_eq_map]
  exact (List.mergeSort_perm _ _).map _

/-- The hits within a scope are those among all hits. -/
theorem hits_filter (p : Declaration → Bool) (terms : List (List Char)) :
    Catalog.hits (List.filter p catalog) terms =
      (catalog.hits terms).filter fun hit => p hit.declaration := by
  have hscope : (List.map (Hit.of terms) catalog).filter (fun hit => p hit.declaration) =
      (List.filter p catalog).map (Hit.of terms) := List.filter_map
  rw [hits, hits, filter_mergeSort Hit.before_iff, List.filter_comm, hscope]

theorem length_hits_le (terms : List (List Char)) : (catalog.hits terms).length ≤ catalog.length :=
  calc (catalog.hits terms).length
      = (List.filter (rates terms) catalog).length := by
        rw [(catalog.perm_hits terms).length_eq, List.length_map]
    _ ≤ catalog.length := List.length_filter_le _ _

/-- A search without a scope and with room for everything gives all hits. -/
theorem search_of_length_le {full : Int} (hfull : catalog.length ≤ full) (query : String) :
    catalog.search query full {} = catalog.hits (termsOf query) := by
  have hadmits : List.filter (Scope.admits {}) catalog = catalog :=
    List.filter_eq_self.mpr fun _ _ => rfl
  have hlength := catalog.length_hits_le (termsOf query)
  rw [search, hadmits, atMost, List.take_of_length_le]
  omega

end Catalog

/-- A scope admits the declarations of its module, in any case, and of its kind; an empty module
name admits those of all modules. -/
theorem Scope.admits_iff {scope : Scope} {d : Declaration} :
    scope.admits d ↔
      (∀ m, scope.module = some m → m ≠ "" → lower d.module = lower m) ∧
        ∀ kind, scope.kind = some kind → d.kind = kind := by
  obtain ⟨module, kind⟩ := scope
  rw [Scope.admits, Bool.and_eq_true, Option.all_eq_true, Option.all_eq_true]
  simp only [Bool.or_eq_true, String.isEmpty_iff, beq_iff_eq, ne_eq, or_iff_not_imp_left]

namespace Catalog

/-- **Ranking and restricting can change places.** A search within a scope gives the first of the
hits that a search of the whole catalog finds in the scope. That search, given room for everything,
lists every declaration with a positive score, or all of them when there are no terms, each with its
own score and labels, by falling score, then by name, file and line. -/
theorem search_restricts_ranking (catalog : Catalog) (query : String) (limit : Int) (scope : Scope)
    {full : Int} (hfull : catalog.length ≤ full) :
    catalog.search query limit scope =
      ((catalog.search query full {}).filter fun hit => scope.admits hit.declaration).take
        (max 1 limit).toNat ∧
    (∀ d, scope.admits d ↔
      (∀ m, scope.module = some m → m ≠ "" → lower d.module = lower m) ∧
        ∀ kind, scope.kind = some kind → d.kind = kind) ∧
    (catalog.search query full {}).Perm
      ((List.filter (fun d => termsOf query = [] ∨ 0 < (Hit.of (termsOf query) d).score)
        catalog).map (Hit.of (termsOf query))) ∧
    ((catalog.search query full {}).map Hit.key).Pairwise (· ≤ ·) := by
  rw [catalog.search_of_length_le hfull]
  refine ⟨?_, fun d => Scope.admits_iff, ?_, ?_⟩
  · rw [search, hits_filter, atMost]
  · have hrates : (fun d => decide (termsOf query = [] ∨ 0 < (Hit.of (termsOf query) d).score)) =
        rates (termsOf query) := by
      funext d
      rw [Bool.eq_iff_iff, decide_eq_true_iff, rates, Bool.or_eq_true, List.isEmpty_iff,
        bne_iff_ne, Nat.pos_iff_ne_zero]
    rw [hrates]
    exact catalog.perm_hits _
  · exact pairwise_key_mergeSort Hit.before_iff _

private theorem mergeSort_pair {α : Type} (before : α → α → Bool) (a b : α) :
    [a, b].mergeSort before = if before a b then [a, b] else [b, a] := by
  simp [List.mergeSort, List.MergeSort.Internal.splitInTwo, List.merge]

/-- A function of a module. -/
private def getter (module : String) (documentation : Option String) : Declaration where
  name := "Get"
  kind := .function
  sourceFile := module ++ "/get.go"
  module := module
  signature := "func Get()"
  lineNumber := 1
  documentation := documentation

/-- Two functions of one name in two modules, of which only the second has documentation. -/
private def getters : Catalog :=
  [getter "os" none, getter "net" (some "Finds a host.")]

/-- A query that both answer finds the second first, if it is the better one. -/
private theorem search_getters (query : String) (limit : Int)
    (hrates : ∀ d ∈ getters, rates (termsOf query) d)
    (hbetter : (Hit.of (termsOf query) (getter "os" none)).before
      (Hit.of (termsOf query) (getter "net" (some "Finds a host."))) = false) :
    getters.search query limit {} =
      atMost limit [Hit.of (termsOf query) (getter "net" (some "Finds a host.")),
        Hit.of (termsOf query) (getter "os" none)] := by
  have hall : List.filter (Scope.admits {}) getters = getters :=
    List.filter_eq_self.mpr fun _ _ => rfl
  rw [search, hall, hits_eq_map, List.filter_eq_self.mpr hrates, getters, mergeSort_pair,
    hbetter, if_neg Bool.false_ne_true]
  rfl

/-- The better of the two stands in another module than the one that is asked for. -/
theorem search_restricts_ranking_of_getters :
    (getters.search "find GET" 2 {}).map (·.declaration.module) = ["net", "os"] ∧
    (getters.search "find GET" 0 { module := some "OS" }).map (·.declaration.module) = ["os"] ∧
    getters.search "find GET" 0 { module := some "OS" } =
      ((getters.search "find GET" 2 {}).filter fun hit =>
        Scope.admits { module := some "OS" } hit.declaration).take 1 := by
  have hboth := search_getters "find GET" 2 (by decide +kernel) (by decide +kernel)
  have hscope : getters.search "find GET" 0 { module := some "OS" } =
      ((getters.search "find GET" 2 {}).filter fun hit =>
        Scope.admits { module := some "OS" } hit.declaration).take 1 :=
    (search_restricts_ranking getters "find GET" 0 { module := some "OS" } (by decide)).1
  refine ⟨?_, ?_, hscope⟩
  · rw [hboth]
    decide +kernel
  · rw [hscope, hboth]
    decide +kernel

/-! ### Terms in another order -/

/-- The ranking is the same for any order of the terms. -/
theorem forall₂_hits_of_perm (catalog : Catalog) {s t : List (List Char)} (h : s.Perm t) :
    List.Forall₂ Hit.Alike (catalog.hits s) (catalog.hits t) := by
  have hbefore : (fun d e => (Hit.of s d).before (Hit.of s e)) =
      fun d e => (Hit.of t d).before (Hit.of t e) := by
    funext d e
    simp only [Hit.before, Hit.score_of_perm _ h]
    rfl
  rw [hits_eq_map, hits_eq_map, hbefore, rates_of_perm h, List.forall₂_map_left_iff,
    List.forall₂_map_right_iff, List.forall₂_same]
  exact fun d _ => Hit.alike_of_perm d h

/-- **Terms count separately.** Queries with the same terms in any order find the same declarations
with the same scores and the same sets of labels, in the same order. The score for two lists of
terms is the sum of their scores, and the second list adds the labels that are not there yet. A
score is zero when there is no label, and only then, and no label stands twice. -/
theorem terms_count_separately (catalog : Catalog) :
    (∀ query other, (termsOf query).Perm (termsOf other) → ∀ limit scope,
      List.Forall₂ Hit.Alike (catalog.search query limit scope)
        (catalog.search other limit scope)) ∧
    ∀ (d : Declaration) (s t : List (List Char)),
      (Hit.of (s ++ t) d).score = (Hit.of s d).score + (Hit.of t d).score ∧
      (Hit.of (s ++ t) d).labels =
        (Hit.of s d).labels ++ (Hit.of t d).labels.filter (· ∉ (Hit.of s d).labels) ∧
      ((Hit.of s d).score = 0 ↔ (Hit.of s d).labels = []) ∧ (Hit.of s d).labels.Nodup := by
  refine ⟨fun query other hterms limit scope => ?_, fun d s t => ?_⟩
  · rw [search, search, atMost, atMost]
    exact List.forall₂_take _ (forall₂_hits_of_perm _ hterms)
  · exact ⟨Hit.score_append s t d, Hit.labels_append s t d, Hit.score_eq_zero_iff s d,
      Hit.nodup_labels s d⟩

/-- In another order the terms leave the same labels, but in another order. -/
theorem terms_count_separately_of_getters :
    (getters.search "find Get" 1 {}).map (·.labels) =
      [[.docs, .nameExact, .name, .signature, .file]] ∧
    (getters.search "get\tFIND" 1 {}).map (·.labels) =
      [[.nameExact, .name, .signature, .file, .docs]] ∧
    List.Forall₂ Hit.Alike (getters.search "find Get" 1 {}) (getters.search "get\tFIND" 1 {}) := by
  have hfirst := search_getters "find Get" 1 (by decide +kernel) (by decide +kernel)
  have hsecond := search_getters "get\tFIND" 1 (by decide +kernel) (by decide +kernel)
  refine ⟨?_, ?_,
    (terms_count_separately getters).1 "find Get" "get\tFIND" (by decide +kernel) 1 {}⟩
  · rw [hfirst]
    decide +kernel
  · rw [hsecond]
    decide +kernel

end Catalog

end GoIndex
