import GoIndex.Proofs.Catalog.Ranking
import GoIndex.Proofs.Command.Refusal

/-!
# How many entries a command shows

Three commands show entries: the hits of a search, the hits of a topic and the highlights of a
module. `Verb.entries` lists all that there are, best first, and a run shows the first of them, as
many as its limit says (`Reaches.shown?_run`). A negative limit counts as one.

A limit of zero does not: it counts as none, and the run shows as many entries as it would without a
limit. `World.limit_honoured_iff` says for every integer whether the limit is honoured, and
`World.zero_limit_shows_more` that zero may show more than one does.
-/

namespace GoIndex

open Data Text

/-- The items of a list. -/
def Data.Value.items? : Value → Option (List Value)
  | .list items => some items
  | _ => none

/-- The declarations of a module by falling interest, then by name. -/
def Catalog.byInterest (catalog : Catalog) (module : String) : List Declaration :=
  (catalog.inModule module).mergeSort fun a b => a.highlightKey ≤ b.highlightKey

theorem Catalog.highlights_summary (catalog : Catalog) (module : String) (limit : Int) :
    (catalog.summary module limit).highlights = atMost limit (catalog.byInterest module) := by
  have hbefore : Declaration.outshines = fun a b => decide (a.highlightKey ≤ b.highlightKey) := by
    funext a b
    rw [Bool.eq_iff_iff, decide_eq_true_iff]
    exact Declaration.outshines_iff a b
  rw [byInterest, ← hbefore]
  rfl

/-- A longer limit shows as much at least. -/
theorem length_atMost_le {α : Type} {limit other : Int} (h : max 1 limit ≤ max 1 other)
    (xs : List α) : (atMost limit xs).length ≤ (atMost other xs).length := by
  simp only [atMost, List.length_take]
  omega

/-- Two limits show the same when both are one at most, or all is shown by either. -/
theorem atMost_eq_atMost_one_iff {α : Type} {limit : Int} {xs : List α} :
    atMost limit xs = atMost 1 xs ↔ limit ≤ 1 ∨ xs.length ≤ 1 := by
  constructor
  · intro h
    have hlength := congrArg List.length h
    simp only [atMost, List.length_take] at hlength
    omega
  · rintro (hlimit | hlength)
    · rw [atMost, atMost, max_eq_left hlimit, max_self]
    · rw [atMost, atMost, List.take_of_length_le (by omega), List.take_of_length_le (by omega)]

namespace Command

/-! ### One more option -/

section Items

variable {items : List Item} {name key value : String}

theorem valueOf_concat_of_ne (h : key ≠ name) :
    valueOf name (items ++ [.option key value]) = valueOf name items := by
  simp [valueOf, Item.value?, h]

theorem valueOf_concat_self : valueOf key (items ++ [.option key value]) = some value := by
  simp [valueOf, Item.value?]

theorem textOf_concat : textOf (items ++ [.option key value]) = textOf items := by
  rw [textOf, textOf, List.filterMap_append]
  exact congrArg _ (List.append_nil _)

end Items

/-! ### Entries -/

/-- The scope that items restrict a search to. -/
def scopeOf (items : List Item) : Scope :=
  ⟨valueOf "module" items, (valueOf "kind" items).bind Kind.ofLabel?⟩

namespace Verb

/-- How many entries a command shows when it is given no limit, if it shows entries at all. -/
def usualLimit? (settings : SearchSettings) : Verb → Option Int
  | .search => some settings.defaultLimit
  | .module => some settings.highlightCount
  | .topic => some settings.topicLimit
  | .find | .stats | .deps | .relations => none

/-- All entries that a command has to show about the items behind it, best first. -/
def entries (items : List Item) (catalog : Catalog) : Verb → List Value
  | .search => ((catalog.hits (termsOf (textOf items))).filter fun hit =>
      (scopeOf items).admits hit.declaration).map Hit.report
  | .module => (catalog.byInterest (textOf items)).map Declaration.report
  | .topic => (catalog.hits (termsOf (textOf items))).map Hit.report
  | .find | .stats | .deps | .relations => []

/-- The entries in the report of a command. -/
def shown? (value : Value) : Verb → Option (List Value)
  | .search => value.items?
  | .module => (value.field? "highlights").bind Value.items?
  | .topic => (value.field? "results").bind Value.items?
  | .find | .stats | .deps | .relations => none

end Verb

/-- The entries that an outcome shows; only a report shows any. -/
def Outcome.shown? (verb : Verb) : Outcome → Option (List Value)
  | .report value => verb.shown? value
  | .help | .refused _ | .aborted _ => none

/-! ### What a report shows -/

theorem shown?_search_report (hits : List Hit) :
    Verb.search.shown? (.list (hits.map Hit.report)) = some (hits.map Hit.report) := rfl

theorem shown?_module_report (summary : ModuleSummary) :
    Verb.module.shown? (summary.report Declaration.report) =
      some (summary.highlights.map Declaration.report) := rfl

theorem shown?_topic_report (topic : Topic) :
    Verb.topic.shown? (topic.report Hit.report) = some (topic.hits.map Hit.report) := rfl

section Run

variable {verb : Verb} {items : List Item} {settings : SearchSettings} {index : Index}
  {tree : Node} {catalog : Catalog} {usual : Int}

theorem map_atMost {α β : Type} (f : α → β) (limit : Int) (xs : List α) :
    (atMost limit xs).map f = atMost limit (xs.map f) :=
  List.map_take

theorem kindOf_ofItems (command : String) (haccepts : ¬ Verb.search.Rejects items index tree) :
    kindOf (.ofItems command items) = .ok (scopeOf items).kind := by
  rw [kindOf, option?_ofItems, scopeOf]
  cases hlabel : valueOf "kind" items with
  | none => rfl
  | some label =>
    cases hkind : Kind.ofLabel? label with
    | none => exact absurd ⟨label, hlabel, Kind.ofLabel?_eq_none_iff.mp hkind⟩ haccepts
    | some kind => simp [hkind]

/-- A command that shows entries shows the first of them. -/
theorem Verb.exists_run_eq (command : String) (limit : Option Int)
    (husual : verb.usualLimit? settings = some usual) (hcatalog : index.catalog tree = .ok catalog)
    (haccepts : ¬ verb.Rejects items index tree) :
    ∃ value, verb.run (.ofItems command items) limit settings index tree = .ok (.ok value) ∧
      verb.shown? value = some (atMost (limitOr limit usual) (verb.entries items catalog)) := by
  cases verb with
  | search =>
    obtain rfl := Option.some.inj husual
    refine ⟨searchReport catalog (textOf items) (limitOr limit settings.defaultLimit)
      (scopeOf items), ?_, ?_⟩
    · simp only [Verb.run, kindOf_ofItems command haccepts, hcatalog, text_ofItems, option?_ofItems]
      rfl
    · rw [searchReport, shown?_search_report, Catalog.search, Catalog.hits_filter, map_atMost]
      rfl
  | module =>
    obtain rfl := Option.some.inj husual
    let summary := catalog.summary (textOf items) (limitOr limit settings.highlightCount)
    have htotal : summary.total ≠ 0 := by
      rw [ne_eq, Catalog.total_summary_eq_zero_iff]
      exact fun hnone => haccepts ⟨catalog, hcatalog, hnone⟩
    have hreport : moduleReport catalog (textOf items) (limitOr limit settings.highlightCount) =
        .ok (summary.report Declaration.report) := if_neg htotal
    refine ⟨summary.report Declaration.report, ?_, ?_⟩
    · simp only [Verb.run, hcatalog, text_ofItems, ← hreport]
      rfl
    · rw [shown?_module_report, Catalog.highlights_summary, map_atMost]
      rfl
  | topic =>
    obtain rfl := Option.some.inj husual
    refine ⟨(catalog.topic (textOf items) (limitOr limit settings.topicLimit)).report Hit.report,
      ?_, ?_⟩
    · simp only [Verb.run, hcatalog, text_ofItems]
      rfl
    · have hall : List.filter (Scope.admits {}) catalog = catalog :=
        List.filter_eq_self.mpr fun _ _ => rfl
      rw [shown?_topic_report, Catalog.topic, Catalog.search, hall, map_atMost]
      rfl
  | find => cases husual
  | stats => cases husual
  | deps => cases husual
  | relations => cases husual

end Run

/-! ### A limit at the end of the line -/

namespace Verb

variable (verb : Verb) (items : List Item) (limit : String)

theorem entries_concat_limit (catalog : Catalog) :
    verb.entries (items ++ [.option "limit" limit]) catalog = verb.entries items catalog := by
  have hscope : scopeOf (items ++ [.option "limit" limit]) = scopeOf items := by
    rw [scopeOf, valueOf_concat_of_ne (by decide), valueOf_concat_of_ne (by decide), scopeOf]
  cases verb <;> simp only [entries, textOf_concat, hscope]

theorem rejects_concat_limit (index : Index) (tree : Node) :
    verb.Rejects (items ++ [.option "limit" limit]) index tree ↔ verb.Rejects items index tree := by
  have hkind : valueOf "kind" (items ++ [.option "limit" limit]) = valueOf "kind" items :=
    valueOf_concat_of_ne (by decide)
  cases verb <;> simp only [Rejects, textOf_concat, hkind]

end Verb

namespace World

section Limit

variable {world : World} {verb : Verb} {command start limit : String} {items : List Item}
  {settings : Settings} {index : Index} {catalog : Catalog} {usual : Int}

/-- The limit has no part in how far a run gets. -/
theorem Reaches.concat_limit
    (h : world.Reaches (command :: spell items) (.ofItems command items) start settings index)
    (limit : String) :
    world.Reaches (command :: spell (items ++ [.option "limit" limit]))
      (.ofItems command (items ++ [.option "limit" limit])) start settings index where
  notHelp := h.notHelp
  parsed := parse?_eq_ok_iff.mpr ⟨_, rfl, rfl⟩
  found := by
    obtain ⟨environment, henvironment, hstart⟩ := h.found
    refine ⟨environment, henvironment, ?_⟩
    rw [← hstart, startOf, startOf, option?_ofItems, option?_ofItems,
      valueOf_concat_of_ne (by decide)]
  loaded := h.loaded
  opened := h.opened

/-- A limit that cannot be read is refused. -/
theorem Reaches.run_of_readInteger?_eq_none
    (h : world.Reaches (command :: spell items) (.ofItems command items) start settings index)
    (hlimit : readInteger? world.platform.digitLimit limit = none) :
    world.run (command :: spell (items ++ [.option "limit" limit])) =
      .refused (.invalidLimit limit) := by
  have hrefused : limitOf world.platform.digitLimit
      (.ofItems command (items ++ [.option "limit" limit])) = .error (.invalidLimit limit) := by
    simp only [limitOf, option?_ofItems, valueOf_concat_self, hlimit]
  rw [(h.concat_limit limit).run_eq, execute, hrefused]
  rfl

/-- A run with a limit that can be read shows the first entries. -/
theorem Reaches.shown?_run
    (h : world.Reaches (verb.word :: spell items) (.ofItems verb.word items) start settings index)
    (hcatalog : index.catalog world.tree = .ok catalog)
    (husual : verb.usualLimit? settings.search = some usual)
    (haccepts : ¬ verb.Rejects items index world.tree) {n : Int}
    (hlimit : readInteger? world.platform.digitLimit limit = some n) :
    (world.run (verb.word :: spell (items ++ [.option "limit" limit]))).shown? verb =
      some (atMost (limitOr (some n) usual) (verb.entries items catalog)) := by
  have hread : limitOf world.platform.digitLimit
      (.ofItems verb.word (items ++ [.option "limit" limit])) = .ok (some n) := by
    simp only [limitOf, option?_ofItems, valueOf_concat_self, hlimit]
  rw [← verb.rejects_concat_limit items limit] at haccepts
  obtain ⟨value, hvalue, hshown⟩ :=
    verb.exists_run_eq verb.word (some n) husual hcatalog haccepts
  rw [(h.concat_limit limit).run_eq, execute, hread, command_ofItems,
    Verb.ofWord?_eq_some_iff.mpr rfl]
  simp only [hvalue, Outcome.of, Outcome.shown?, hshown, verb.entries_concat_limit]

/-- **Which limits are honoured.** Let a run get as far as a command that shows entries and accepts
what it is asked. A limit that is an integer in more digits than are allowed, if there is a bound on
them at all, is refused. With any other integer the run shows the first entries, as many as the
integer says and one at least. Zero alone counts as no limit: there the run does so only if it shows
one entry without a limit, or has no more than one. From every integer but zero on, a greater one
never shows fewer entries. -/
theorem limit_honoured_iff
    (h : world.Reaches (verb.word :: spell items) (.ofItems verb.word items) start settings index)
    (hcatalog : index.catalog world.tree = .ok catalog)
    (husual : verb.usualLimit? settings.search = some usual)
    (haccepts : ¬ verb.Rejects items index world.tree) :
    let run (limit : String) := world.run (verb.word :: spell (items ++ [.option "limit" limit]))
    let entries := verb.entries items catalog
    let allowed := world.platform.digitLimit
    (∀ limit negative digits, WritesInteger limit.toList negative digits →
      let n := signed negative (ofDigits 10 digits)
      (allowsDigits allowed digits.length = false → run limit = .refused (.invalidLimit limit)) ∧
      (allowsDigits allowed digits.length →
        (run limit).shown? verb =
          some (entries.take (max 1 (if n = 0 then usual else n)).toNat) ∧
        ((run limit).shown? verb = some (entries.take (max 1 n).toNat) ↔
          n ≠ 0 ∨ usual ≤ 1 ∨ entries.length ≤ 1))) ∧
    ∀ limit other n m, readInteger? allowed limit = some n → readInteger? allowed other = some m →
      n ≠ 0 → n ≤ m →
      ∃ shown more, (run limit).shown? verb = some shown ∧ (run other).shown? verb = some more ∧
        shown.length ≤ more.length := by
  intro run entries allowed
  have hshown {limit : String} {n : Int} (hlimit : readInteger? allowed limit = some n) :
      (run limit).shown? verb = some (atMost (if n = 0 then usual else n) entries) :=
    h.shown?_run hcatalog husual haccepts hlimit
  refine ⟨fun limit negative digits hwrites => ?_, fun limit other n m hn hm hne hle => ?_⟩
  · intro n
    refine ⟨fun hlong => ?_, fun hshort => ?_⟩
    · refine h.run_of_readInteger?_eq_none ?_
      rw [readInteger?_of_writes hwrites, if_neg (by simp [allowed, hlong])]
    · have hread : readInteger? allowed limit = some n := by
        rw [readInteger?_of_writes hwrites, if_pos hshort]
      refine ⟨hshown hread, ?_⟩
      rw [hshown hread, Option.some_inj]
      change atMost _ entries = atMost n entries ↔ _
      by_cases hzero : n = 0
      · -- at zero the law asks for one entry
        have hone : atMost n entries = atMost 1 entries := by rw [hzero]; rfl
        rw [if_pos hzero, hone, atMost_eq_atMost_one_iff]
        simp [hzero]
      · simp [hzero]
  · refine ⟨_, _, hshown hn, hshown hm, length_atMost_le ?_ entries⟩
    rw [if_neg hne]
    split <;> omega

end Limit

/-! ### Zero -/

/-- A tree with one file that declares two types. -/
def twoTypes : World where
  tree := .directory [("a.go", .file (.readable "type A int\ntype B int\n".toUTF8.data.toList))]
  directory := []

/-- The index of that tree. -/
def twoTypesIndex : Index where
  root := []
  settings := {}

theorem twoTypes_reaches :
    twoTypes.Reaches ["search"] (.ofItems "search" []) "." {} twoTypesIndex where
  notHelp := rfl
  parsed := parse?_eq_ok_iff.mpr ⟨_, rfl, rfl⟩
  found := ⟨.of [] none, rfl, rfl⟩
  loaded := by rfl
  opened := by rfl

theorem catalog_twoTypes :
    twoTypesIndex.catalog twoTypes.tree = .ok (twoTypesIndex.snapshot twoTypes.tree) := by
  rw [Index.catalog_of_kept_none rfl]
  exact Index.scanAll_of_scans (by decide +kernel)

theorem twoTypes_accepts : ¬ Verb.search.Rejects [] twoTypesIndex twoTypes.tree := by
  rintro ⟨label, hlabel, -⟩
  cases hlabel

/-- Without terms every declaration is a hit. -/
theorem length_entries_twoTypes :
    (Verb.search.entries [] (twoTypesIndex.snapshot twoTypes.tree)).length = 2 := by
  have hterms : termsOf (textOf []) = [] := by decide +kernel
  have hscope (hits : List Hit) :
      hits.filter (fun hit => (scopeOf []).admits hit.declaration) = hits :=
    List.filter_eq_self.mpr fun _ _ => rfl
  have hrates : List.filter (Catalog.rates []) (twoTypesIndex.snapshot twoTypes.tree) =
      twoTypesIndex.snapshot twoTypes.tree := List.filter_eq_self.mpr fun _ _ => rfl
  rw [Verb.entries, hterms, hscope, List.length_map, (Catalog.perm_hits _ []).length_eq, hrates,
    List.length_map]
  decide +kernel

theorem limit_honoured_iff_of_two_types :
    let run (limit : String) := twoTypes.run ["search", "--limit", limit]
    let entries := Verb.search.entries [] (twoTypesIndex.snapshot twoTypes.tree)
    entries.length = 2 ∧
    (run " -3\t").shown? .search = some (entries.take 1) ∧
    (run "0").shown? .search = some (entries.take 20) ∧
    (run "0").shown? .search ≠ some (entries.take 1) := by
  intro run entries
  obtain ⟨hlimits, -⟩ :=
    limit_honoured_iff twoTypes_reaches catalog_twoTypes rfl twoTypes_accepts
  obtain ⟨negative, digits, hwrites, hdigits, hvalue⟩ :=
    readInteger?_eq_some_iff.mp
      (show readInteger? (some maxDigits) " -3\t" = some (-3) by decide +kernel)
  obtain ⟨negative', digits', hwrites', hdigits', hvalue'⟩ :=
    readInteger?_eq_some_iff.mp
      (show readInteger? (some maxDigits) "0" = some 0 by decide +kernel)
  have hthree := (hlimits _ _ _ hwrites).2 hdigits
  have hzero := (hlimits _ _ _ hwrites').2 hdigits'
  rw [← hvalue] at hthree
  rw [← hvalue'] at hzero
  refine ⟨length_entries_twoTypes, hthree.1, hzero.1, mt hzero.2.mp ?_⟩
  have hlength := length_entries_twoTypes
  rintro (hne | husual | hshort)
  · exact hne rfl
  · exact absurd husual (by decide)
  · omega

/-- A limit of zero shows two entries where a limit of one shows one. -/
theorem zero_limit_shows_more :
    let shown (limit : String) := (twoTypes.run ["search", "--limit", limit]).shown? .search
    WritesInteger "0".toList false [0] ∧
      (shown "0").map List.length = some 2 ∧ (shown "1").map List.length = some 1 := by
  have hshown {limit : String} {n : Int} (hlimit : readInteger? (some maxDigits) limit = some n) :=
    twoTypes_reaches.shown?_run catalog_twoTypes rfl twoTypes_accepts hlimit
  have hlength := length_entries_twoTypes
  refine ⟨?_, ?_, ?_⟩
  · have hdigit : decimalDigit? '0' = some 0 := by decide
    exact writesInteger_replicate hdigit one_ne_zero
  · have hzero := hshown (show readInteger? _ "0" = some 0 by decide +kernel)
    exact (congrArg _ hzero).trans (by simp [atMost, limitOr, hlength])
  · have hone := hshown (show readInteger? _ "1" = some 1 by decide +kernel)
    exact (congrArg _ hone).trans (by simp [atMost, limitOr, hlength])

end World

end Command

end GoIndex
