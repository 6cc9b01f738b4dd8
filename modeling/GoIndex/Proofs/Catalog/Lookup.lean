import GoIndex.Proofs.Catalog.Ranking
import GoIndex.Proofs.Catalog.Relations

/-!
# Looking up and searching

A name is matched in two places that know nothing of each other: a look-up goes through the catalog
in order, once for the exact name and once more in lower case, and a search rates every declaration
by the terms of a query and sorts what it finds. They agree on names
(`Catalog.named?_agrees_with_search`).

A name without white space is a query of a single term (`termsOf_eq_singleton`), and a single term
leaves the label of an exact name where the lower case of a name is the term
(`Hit.nameExact_mem_labels_iff`). A look-up finds something under exactly these names.
-/

namespace GoIndex

open Text

/-! ### Queries of one term -/

theorem lowerChar_ne_nil (before : List Char) (c : Char) (after : List Char) :
    lowerChar before c after ≠ [] := by
  unfold lowerChar
  repeat' split
  all_goals exact List.cons_ne_nil _ _

theorem lowerChars_ne_nil {text : List Char} (h : text ≠ []) : lowerChars text ≠ [] := by
  obtain ⟨c, rest, rfl⟩ := List.exists_cons_of_ne_nil h
  rw [lowerChars, lowerFrom_cons]
  exact List.append_ne_nil_of_left_ne_nil (lowerChar_ne_nil [] c rest) _

/-- A text without white space is one word. -/
theorem words_eq_singleton {text : List Char} (hne : text ≠ [])
    (hblank : ∀ c ∈ text, isBlank c = false) : words text = [text] := by
  have hsplit : text.splitOnP isBlank = [text] := by
    refine List.splitOnP_eq_singleton ?_
    intro c hc
    simp [hblank c hc]
  rw [words, hsplit, List.filter_cons_of_pos (by simpa using hne), List.filter_nil]

/-- A name without white space is a query of one term: its lower case. -/
theorem termsOf_eq_singleton {name : String} (hname : name ≠ "")
    (hblank : ∀ c ∈ lowerChars name.toList, isBlank c = false) :
    termsOf name = [lowerChars name.toList] := by
  have hchars : name.toList ≠ [] := by simpa using hname
  exact words_eq_singleton (lowerChars_ne_nil hchars) hblank

/-! ### Exact names -/

namespace Hit

variable {term : List Char} {d : Declaration}

/-- The marks that a single term leaves on a declaration: those on its name, then those on its other
texts. -/
theorem marks_singleton (term : List Char) (d : Declaration) :
    [term].flatMap d.searchText.marks =
      nameMarks (lowerChars d.name.toList) term ++
        (d.searchText.fields.filter (occursIn term ·.2)).map (Mark.of ·.1) :=
  List.append_nil _

/-- The label of an exact name is left on names only. -/
theorem nameExact_mem_labels_iff :
    Label.nameExact ∈ (Hit.of [term] d).labels ↔ lowerChars d.name.toList = term := by
  have hfields : ∀ field ∈ d.searchText.fields, field.1 ≠ Label.nameExact := by
    simp [Declaration.searchText]
  simp only [Hit.of, marks_singleton, mem_labelsOf, List.mem_append]
  constructor
  · rintro ⟨mark, hmark | hmark, hlabel⟩
    · rw [nameMarks] at hmark
      split at hmark
      · assumption
      · -- a part of a name has another label
        split at hmark
        · obtain rfl := List.mem_singleton.mp hmark
          cases hlabel
        · cases hmark
    · obtain ⟨field, hfield, rfl⟩ := List.mem_map.mp hmark
      exact absurd hlabel (hfields field (List.mem_of_mem_filter hfield))
  · intro hname
    refine ⟨.of .nameExact, .inl ?_, rfl⟩
    rw [nameMarks, if_pos hname]
    exact List.mem_cons_self

/-- An exact name alone brings its whole weight. -/
theorem le_score_of_eq (h : lowerChars d.name.toList = term) : 25 ≤ (Hit.of [term] d).score := by
  have hname : scoreOf (nameMarks (lowerChars d.name.toList) term) = 25 := by
    rw [nameMarks, if_pos h]
    rfl
  simp only [Hit.of, marks_singleton, scoreOf_append, hname]
  exact Nat.le_add_right 25 _

end Hit

namespace Catalog

variable {catalog : Catalog} {name : String} {d : Declaration}

theorem mem_hits_iff {terms : List (List Char)} {hit : Hit} :
    hit ∈ catalog.hits terms ↔ ∃ d ∈ catalog, rates terms d ∧ Hit.of terms d = hit := by
  rw [(catalog.perm_hits terms).mem_iff, List.mem_map]
  simp only [List.mem_filter, and_assoc]

/-- A declaration that has the exact name is a hit. -/
theorem hit_mem_hits {term : List Char} (hd : d ∈ catalog) (h : lowerChars d.name.toList = term) :
    Hit.of [term] d ∈ catalog.hits [term] := by
  have hscore := Hit.le_score_of_eq h
  refine mem_hits_iff.mpr ⟨d, hd, ?_, rfl⟩
  rw [rates, Bool.or_eq_true, bne_iff_ne]
  exact .inr (by omega)

/-! ### Looking up -/

/-- Whether a declaration is the first of a catalog that has a property. -/
def IsFirst (catalog : Catalog) (p : Declaration → Prop) (d : Declaration) : Prop :=
  p d ∧ ∃ front back, catalog = front ++ d :: back ∧ ∀ e ∈ front, ¬ p e

theorem find?_eq_some_iff_isFirst {p : Declaration → Bool} :
    List.find? p catalog = some d ↔ catalog.IsFirst (fun e => p e) d := by
  simp [List.find?_eq_some_iff_append, IsFirst]

/-- A look-up finds the first declaration of the exact name, and when there is none, the first with
that name in another case. -/
theorem named?_eq_some_iff :
    catalog.named? name = some d ↔
      catalog.IsFirst (·.name = name) d ∨
        (∀ e ∈ catalog, e.name ≠ name) ∧ catalog.IsFirst (lower ·.name = lower name) d := by
  have hexact : List.find? (·.name == name) catalog = some d ↔
      catalog.IsFirst (·.name = name) d := by
    simp [find?_eq_some_iff_isFirst]
  have hother : List.find? (lower ·.name == lower name) catalog = some d ↔
      catalog.IsFirst (lower ·.name = lower name) d := by
    simp [find?_eq_some_iff_isFirst]
  rw [named?, ← hexact, ← hother]
  cases hfind : List.find? (·.name == name) catalog with
  | none =>
    have hnone : ∀ e ∈ catalog, e.name ≠ name := by simpa [List.find?_eq_none] using hfind
    exact ⟨fun h => .inr ⟨hnone, h⟩, fun h => (h.resolve_left (by simp)).2⟩
  | some found =>
    have hname : found.name = name := by simpa using List.find?_some hfind
    have hsome : ¬ ∀ e ∈ catalog, e.name ≠ name := fun hnone =>
      hnone found (List.mem_of_find?_eq_some hfind) hname
    exact ⟨.inl, fun h => h.resolve_right fun hrest => hsome hrest.1⟩

/-- A name is found exactly when it is some declaration's name up to case. -/
theorem isSome_named?_iff :
    (catalog.named? name).isSome ↔
      ∃ d ∈ catalog, lowerChars d.name.toList = lowerChars name.toList := by
  rw [Option.isSome_iff_ne_none, ne_eq, named?_eq_none_iff]
  simp only [lower, String.ofList_inj, ne_eq, not_forall, not_not, exists_prop]

/-- **Looking up and searching agree** on names, where a name is not empty and has no white space in
its lower case, and the search has room for everything.

* A name is found when some hit is labelled as an exact name, and only then.
* What is found is the first declaration of that very name, else the first of that name in another
  case.
* What is found is itself such a hit, with a score of at least 25.
* Relations are known of the names that are found, and they are those of what is found. -/
theorem named?_agrees_with_search (catalog : Catalog) {name : String} (hname : name ≠ "")
    (hblank : ∀ c ∈ lowerChars name.toList, isBlank c = false) {limit : Int}
    (hlimit : catalog.length ≤ limit) :
    ((catalog.named? name).isSome ↔
      ∃ hit ∈ catalog.search name limit {}, Label.nameExact ∈ hit.labels) ∧
    (∀ d, catalog.named? name = some d →
      (catalog.IsFirst (·.name = name) d ∨
        (∀ e ∈ catalog, e.name ≠ name) ∧ catalog.IsFirst (lower ·.name = lower name) d) ∧
      ∃ hit ∈ catalog.search name limit {},
        hit.declaration = d ∧ Label.nameExact ∈ hit.labels ∧ 25 ≤ hit.score) ∧
    (catalog.relations? name = none ↔ catalog.named? name = none) ∧
    ∀ r, catalog.relations? name = some r → catalog.named? name = some r.target := by
  have hsearch : catalog.search name limit {} = catalog.hits [lowerChars name.toList] := by
    rw [catalog.search_of_length_le hlimit, termsOf_eq_singleton hname hblank]
  rw [hsearch]
  refine ⟨?_, fun d hd => ⟨named?_eq_some_iff.mp hd, ?_⟩, Option.map_eq_none_iff,
    fun r hr => (of_relations?_eq_some hr).1⟩
  · rw [isSome_named?_iff]
    constructor
    · rintro ⟨d, hd, hequal⟩
      exact ⟨_, hit_mem_hits hd hequal, Hit.nameExact_mem_labels_iff.mpr hequal⟩
    · rintro ⟨hit, hhit, hlabel⟩
      obtain ⟨d, hd, -, rfl⟩ := mem_hits_iff.mp hhit
      exact ⟨d, hd, Hit.nameExact_mem_labels_iff.mp hlabel⟩
  · obtain ⟨hmem, hlower⟩ := of_named?_eq_some hd
    have hequal : lowerChars d.name.toList = lowerChars name.toList := String.ofList_inj.mp hlower
    exact ⟨_, hit_mem_hits hmem hequal, rfl, Hit.nameExact_mem_labels_iff.mpr hequal,
      Hit.le_score_of_eq hequal⟩

/-- Three functions whose names differ in case only. -/
private def spellings : Catalog :=
  let function (name : String) (line : Int) : Declaration :=
    { name := name, kind := .function, sourceFile := "get.go", module := "root",
      signature := "func " ++ name ++ "()", lineNumber := line }
  [function "GET" 1, function "Get" 2, function "get" 3]

/-- The exact name goes before, wherever it stands; a name that is spelled in no such way finds the
first. All three are hits. -/
theorem named?_agrees_with_search_of_spellings :
    (spellings.named? "Get").map (·.lineNumber) = some 2 ∧
    (spellings.named? "gEt").map (·.lineNumber) = some 1 ∧
    ∃ hit ∈ spellings.search "gEt" 3 {},
      hit.declaration.lineNumber = 1 ∧ Label.nameExact ∈ hit.labels ∧ 25 ≤ hit.score := by
  refine ⟨by decide +kernel, by decide +kernel, ?_⟩
  obtain ⟨-, hfound, -, -⟩ :=
    named?_agrees_with_search spellings (show "gEt" ≠ "" by decide) (by decide +kernel)
      (show (spellings.length : Int) ≤ 3 by decide)
  obtain ⟨hit, hhit, hdeclaration, hrest⟩ :=
    (hfound _ (show spellings.named? "gEt" = some _ from rfl)).2
  exact ⟨hit, hhit, by rw [hdeclaration], hrest⟩

end Catalog

end GoIndex
