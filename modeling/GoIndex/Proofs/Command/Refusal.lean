import GoIndex.Proofs.Catalog.Relations
import GoIndex.Proofs.Command.Arguments
import GoIndex.Proofs.Command.Console
import GoIndex.Proofs.Command.Run
import GoIndex.Proofs.Report
import GoIndex.Proofs.Text.Integer

/-!
# Which command lines are refused

A run that is not cut short ends in one of two ways: it prints one JSON value, or it prints nothing
but a message on standard error. `Refuses` says in terms of the items of a command line and of the
declarations in the tree when it is the second (`World.display_answers_or_refuses`). An answer that
is empty, such as a search without a hit, is no refusal. What is printed is printed by a console,
and is JSON or a message as far as the console keeps its promises.

A limit has to be an integer, and one that can be read: an integer in too many digits is refused
like a text that is none (`World.refuses_overlong_integer`).
-/

namespace GoIndex

open Data Text

/-! ### Looking up -/

theorem Catalog.total_summary_eq_zero_iff {catalog : Catalog} {module : String} (limit : Int) :
    (catalog.summary module limit).total = 0 ↔ ∀ d ∈ catalog, lower d.module ≠ lower module := by
  simp [Catalog.summary, Catalog.inModule]

theorem Kind.ofLabel?_eq_none_iff {label : String} :
    Kind.ofLabel? label = none ↔ ∀ kind : Kind, kind.label ≠ label := by
  simp [Kind.ofLabel?, List.find?_eq_none, Kind.mem_all]

namespace Command

/-! ### What is refused -/

/-- The word for a command. -/
def Verb.word : Verb → String
  | .find => "find"
  | .search => "search"
  | .module => "module"
  | .stats => "stats"
  | .deps => "deps"
  | .relations => "relations"
  | .topic => "topic"

/-- Whether a command has nothing to say about the items behind it: there is no such name, no such
module or no such kind. -/
def Verb.Rejects (verb : Verb) (items : List Item) (index : Index) (tree : Node) : Prop :=
  match verb with
  | .find | .relations =>
    ∃ catalog, index.catalog tree = .ok catalog ∧
      ∀ d ∈ catalog, lower d.name ≠ lower (textOf items)
  | .search => ∃ label, valueOf "kind" items = some label ∧ ∀ kind : Kind, kind.label ≠ label
  | .module =>
    ∃ catalog, index.catalog tree = .ok catalog ∧
      ∀ d ∈ catalog, lower d.module ≠ lower (textOf items)
  | .stats | .deps | .topic => False

/-- Whether a command with items behind it is refused, given which texts can be limits. -/
inductive Refuses (isLimit : String → Prop) (command : String) (items : List Item) (index : Index)
    (tree : Node) : Prop
  | limit {text : String} (hlimit : valueOf "limit" items = some text) (htext : ¬ isLimit text)
  | command (hcommand : ∀ verb : Verb, verb.word ≠ command)
  | verb {verb : Verb} (hverb : verb.word = command) (hrejects : verb.Rejects items index tree)

theorem Verb.ofWord?_eq_some_iff {word : String} {verb : Verb} :
    Verb.ofWord? word = some verb ↔ verb.word = word := by
  constructor
  · intro h
    unfold Verb.ofWord? at h
    split at h <;> cases h <;> rfl
  · rintro rfl
    cases verb <;> rfl

theorem Verb.ofWord?_eq_none_iff {word : String} :
    Verb.ofWord? word = none ↔ ∀ verb : Verb, verb.word ≠ word := by
  simp [Option.eq_none_iff_forall_ne_some, Verb.ofWord?_eq_some_iff]

/-! ### Options that are read -/

theorem exists_limitOf_eq_error_iff {digitLimit : Option Nat} {arguments : Arguments} :
    (∃ refusal, limitOf digitLimit arguments = .error refusal) ↔
      ∃ text, arguments.option? "limit" = some text ∧ ¬ IsReadableInteger digitLimit text := by
  simp only [← readInteger?_eq_none_iff]
  rw [limitOf]
  cases arguments.option? "limit" with
  | none => simp
  | some text => cases hread : readInteger? digitLimit text <;> simp [hread]

theorem exists_kindOf_eq_error_iff {arguments : Arguments} :
    (∃ refusal, kindOf arguments = .error refusal) ↔
      ∃ label, arguments.option? "kind" = some label ∧ ∀ kind : Kind, kind.label ≠ label := by
  simp only [← Kind.ofLabel?_eq_none_iff]
  rw [kindOf]
  cases arguments.option? "kind" with
  | none => simp
  | some label => cases hkind : Kind.ofLabel? label <;> simp [hkind]

/-! ### Carrying a command out -/

/-- A result is a refusal where something is wrong, and a plain report where nothing is. -/
def Settles (result : Except Refusal Value) (wrong : Prop) : Prop :=
  match result with
  | .error _ => wrong
  | .ok value => value.Plain ∧ ¬ wrong

theorem settles_findReport (catalog : Catalog) (name : String) :
    Settles (findReport catalog name) (∀ d ∈ catalog, lower d.name ≠ lower name) := by
  rw [findReport, ← Catalog.named?_eq_none_iff]
  cases catalog.named? name <;> simp [Settles]

theorem settles_relationsReport (catalog : Catalog) (name : String) :
    Settles (relationsReport catalog name) (∀ d ∈ catalog, lower d.name ≠ lower name) := by
  rw [relationsReport, Catalog.relations?, ← Catalog.named?_eq_none_iff]
  cases catalog.named? name <;> simp [Settles]

theorem settles_moduleReport (catalog : Catalog) (module : String) (limit : Int) :
    Settles (moduleReport catalog module limit)
      (∀ d ∈ catalog, lower d.module ≠ lower module) := by
  rw [moduleReport, ← Catalog.total_summary_eq_zero_iff limit]
  by_cases htotal : (catalog.summary module limit).total = 0 <;> simp [Settles, htotal]

section Execute

variable {digitLimit : Option Nat} {command : String} {items : List Item} {limit : Option Int}
  {settings : SearchSettings} {index : Index} {tree : Node} {result : Except Refusal Value}

/-- A command refuses exactly what it has nothing to say about. -/
theorem Verb.settles_run {verb : Verb}
    (h : verb.run (.ofItems command items) limit settings index tree = .ok result) :
    Settles result (verb.Rejects items index tree) := by
  cases verb with
  | find =>
    obtain ⟨catalog, hcatalog, rfl⟩ := bind_pure_eq_ok_iff.mp h
    simpa [Verb.Rejects, hcatalog] using settles_findReport catalog (textOf items)
  | search =>
    cases hkind : kindOf (.ofItems command items) with
    | error refusal =>
      have hrejects := exists_kindOf_eq_error_iff.mp ⟨refusal, hkind⟩
      simp only [Verb.run, hkind] at h
      obtain rfl := Except.ok.inj h
      simpa [Settles, Verb.Rejects] using hrejects
    | ok kind =>
      have hrejects : ¬ ∃ refusal, kindOf (.ofItems command items) = .error refusal := by
        simp [hkind]
      simp only [Verb.run, hkind] at h
      obtain ⟨catalog, -, rfl⟩ := bind_pure_eq_ok_iff.mp h
      simpa [Settles, Verb.Rejects, searchReport, exists_kindOf_eq_error_iff] using hrejects
  | module =>
    obtain ⟨catalog, hcatalog, rfl⟩ := bind_pure_eq_ok_iff.mp h
    simpa [Verb.Rejects, hcatalog] using settles_moduleReport catalog (textOf items) _
  | stats =>
    obtain ⟨catalog, -, rfl⟩ := bind_pure_eq_ok_iff.mp h
    simp [Settles, Verb.Rejects]
  | deps =>
    obtain ⟨dependencies, -, rfl⟩ := bind_pure_eq_ok_iff.mp h
    simp [Settles, Verb.Rejects]
  | relations =>
    obtain ⟨catalog, hcatalog, rfl⟩ := bind_pure_eq_ok_iff.mp h
    simpa [Verb.Rejects, hcatalog] using settles_relationsReport catalog (textOf items)
  | topic =>
    obtain ⟨catalog, -, rfl⟩ := bind_pure_eq_ok_iff.mp h
    simp [Settles, Verb.Rejects]

/-- With nothing wrong about its limit, a command is refused by what it finds itself. -/
theorem refuses_iff_rejects {isLimit : String → Prop} {verb : Verb} (hverb : verb.word = command)
    (hlimit : ¬ ∃ text, valueOf "limit" items = some text ∧ ¬ isLimit text) :
    Refuses isLimit command items index tree ↔ verb.Rejects items index tree := by
  constructor
  · rintro (⟨hgiven, htext⟩ | hcommand | ⟨hother, hrejects⟩)
    · exact absurd ⟨_, hgiven, htext⟩ hlimit
    · exact absurd hverb (hcommand verb)
    · rw [← Verb.ofWord?_eq_some_iff] at hverb hother
      obtain rfl := Option.some.inj (hverb.symm.trans hother)
      exact hrejects
  · exact .verb hverb

/-- A command line that is carried out is refused exactly where `Refuses` says so. -/
theorem settles_execute
    (h : execute digitLimit (.ofItems command items) settings index tree = .ok result) :
    Settles result (Refuses (IsReadableInteger digitLimit) command items index tree) := by
  cases hlimit : limitOf digitLimit (.ofItems command items) with
  | error refusal =>
    obtain ⟨text, htext, hinvalid⟩ := exists_limitOf_eq_error_iff.mp ⟨refusal, hlimit⟩
    simp only [execute, hlimit] at h
    obtain rfl := Except.ok.inj h
    exact .limit (by simpa using htext) hinvalid
  | ok limit =>
    have hvalid : ¬ ∃ text, valueOf "limit" items = some text ∧
        ¬ IsReadableInteger digitLimit text := by
      have hnot : ¬ ∃ refusal, limitOf digitLimit (.ofItems command items) = .error refusal := by
        simp [hlimit]
      simpa [exists_limitOf_eq_error_iff] using hnot
    cases hverb : Verb.ofWord? command with
    | none =>
      simp only [execute, hlimit, command_ofItems, hverb] at h
      obtain rfl := Except.ok.inj h
      exact .command (Verb.ofWord?_eq_none_iff.mp hverb)
    | some verb =>
      simp only [execute, hlimit, command_ofItems, hverb] at h
      rw [refuses_iff_rejects (Verb.ofWord?_eq_some_iff.mp hverb) hvalid]
      exact Verb.settles_run h

end Execute

/-! ### How a run ends -/

namespace Display

/-- One JSON value is printed, and nothing else. -/
structure Answers (display : Display) : Prop where
  output : ∃ value, JsonText value display.output.toList
  complaint : display.complaint = ""
  status : display.status = 0

/-- Nothing is printed but a message on standard error, which begins with a letter. -/
structure Complains (display : Display) : Prop where
  output : display.output = ""
  complaint : ∃ c : Char, display.complaint.toList.head? = some c ∧ c.isAlpha
  status : display.status = 1

end Display

theorem head?_toList_append {s : String} {c : Char} (t : String) (h : s.toList.head? = some c) :
    (s ++ t).toList.head? = some c := by
  rw [String.toList_append, List.head?_append, h, Option.some_or]

/-- Every message begins with words of its own. -/
theorem Refusal.exists_head?_message (refusal : Refusal) :
    ∃ c : Char, refusal.message.toList.head? = some c ∧ c.isAlpha := by
  cases refusal with
  | missingValue option => exact ⟨'M', head?_toList_append _ (by decide), by decide⟩
  | invalidLimit limit =>
    exact ⟨'I', head?_toList_append _ (head?_toList_append _ (by decide)), by decide⟩
  | unknownSymbol name suggestions =>
    exact ⟨'S', head?_toList_append _ (head?_toList_append _ (head?_toList_append _ (by decide))),
      by decide⟩
  | invalidKind kind =>
    exact ⟨'I', head?_toList_append _ (head?_toList_append _ (head?_toList_append _ (by decide))),
      by decide⟩
  | emptyModule module known =>
    exact ⟨'M', head?_toList_append _ (head?_toList_append _ (head?_toList_append _ (by decide))),
      by decide⟩
  | unknownType name =>
    exact ⟨'T', head?_toList_append _ (head?_toList_append _ (by decide)), by decide⟩
  | unknownCommand command =>
    exact ⟨'U', head?_toList_append _ (head?_toList_append _ (by decide)), by decide⟩

namespace Outcome

variable {console : Console} {display : Display}

theorem complains_of_display_refused (hletter : console.KeepsFirstLetter) {refusal : Refusal}
    (h : (refused refusal).display console = .ok display) : display.Complains := by
  obtain ⟨c, hhead, hc⟩ := refusal.exists_head?_message
  obtain ⟨shown, hmessage, rfl⟩ := map_eq_ok_iff.mp h
  exact ⟨rfl, ⟨c, hletter _ _ _ hhead hc hmessage, hc⟩, rfl⟩

/-- The printed form of a plain report is JSON. -/
theorem answers_of_display_report (hjson : console.WritesJson) {value : Value}
    (hplain : value.Plain) (h : (report value).display console = .ok display) :
    display.Answers := by
  obtain rfl := Except.ok.inj h
  refine ⟨⟨value, hjson _ _ ?_⟩, rfl, rfl⟩
  simpa [Value.json] using JsonText.padded isGap_nil (hplain.spells .indented 0) isGap_nil

end Outcome

namespace World

variable {world : World} {command : String} {rest : List String} {display : Display}

/-- A run that reaches its command and is not cut short there is refused where `Refuses` says so,
and answers where it does not. -/
theorem Reaches.refuses_or_answers {line : List String} {items : List Item} {start : String}
    {settings : Settings} {index : Index} (hjson : world.platform.console.WritesJson)
    (hletter : world.platform.console.KeepsFirstLetter)
    (h : world.Reaches line (.ofItems command items) start settings index)
    (hdisplay : world.display line = .ok display) :
    let isLimit := IsReadableInteger world.platform.digitLimit
    display.Complains ∧ Refuses isLimit command items index world.tree ∨
      display.Answers ∧ ¬ Refuses isLimit command items index world.tree := by
  rw [World.display, h.run_eq] at hdisplay
  cases hexecute : execute world.platform.digitLimit (.ofItems command items) settings.search index
      world.tree with
  | error fault =>
    rw [hexecute] at hdisplay
    cases hdisplay
  | ok result =>
    have hsettles := settles_execute hexecute
    rw [hexecute] at hdisplay
    cases result with
    | error refusal =>
      exact .inl ⟨Outcome.complains_of_display_refused hletter hdisplay, hsettles⟩
    | ok value =>
      exact .inr ⟨Outcome.answers_of_display_report hjson hsettles.1 hdisplay, hsettles.2⟩

/-- **A run answers or refuses**: it prints one JSON value, or nothing but a message. It refuses
exactly when its command line ends in a flag without a value, or gives a limit that is no integer of
few enough digits, or names no command, or its command has nothing to say. -/
theorem display_answers_or_refuses (hjson : world.platform.console.WritesJson)
    (hletter : world.platform.console.KeepsFirstLetter) (hhelp : isHelp command = false)
    (hdisplay : world.display (command :: rest) = .ok display) :
    (display.Answers ∨ display.Complains) ∧
      (display.status = 1 ↔
        EndsInFlag rest ∨
          ∃ items start settings index, rest = spell items ∧
            world.Reaches (command :: rest) (.ofItems command items) start settings index ∧
            Refuses (IsReadableInteger world.platform.digitLimit) command items index
              world.tree) := by
  have hline : (command :: rest).head?.all isHelp = false := by simpa using hhelp
  obtain ⟨fault, hrun⟩ | ⟨flag, hparse, hrun⟩ | ⟨arguments, start, settings, index, hreaches⟩ :=
    world.run_cases hline
  · rw [World.display, hrun] at hdisplay
    cases hdisplay
  · have hends : EndsInFlag rest := by
      obtain ⟨hflag, items, hrest⟩ := readArguments_eq_error_iff.mp (Option.some.inj hparse)
      exact ⟨items, flag, hflag, hrest⟩
    rw [World.display, hrun] at hdisplay
    have hcomplains := Outcome.complains_of_display_refused hletter hdisplay
    exact ⟨.inr hcomplains, iff_of_true hcomplains.status (.inl hends)⟩
  · obtain ⟨items, hitems, rfl⟩ := parse?_eq_ok_iff.mp hreaches.parsed
    obtain ⟨hcomplains, hrefuses⟩ | ⟨hanswers, -⟩ :=
      hreaches.refuses_or_answers hjson hletter hdisplay
    · refine ⟨.inr hcomplains, iff_of_true hcomplains.status (.inr ?_)⟩
      exact ⟨items, start, settings, index, hitems, hreaches, hrefuses⟩
    · refine ⟨.inl hanswers, iff_of_false (by simp [hanswers.status]) ?_⟩
      -- whatever items the line is written with, its one run has answered
      rintro (hends | ⟨items', start', settings', index', -, hreaches', hrefuses⟩)
      · exact not_endsInFlag_of_parse?_eq_ok hreaches.parsed hends
      · obtain ⟨hcomplains, -⟩ | ⟨-, hnot⟩ :=
          hreaches'.refuses_or_answers hjson hletter hdisplay
        · have hstatus := hanswers.status.symm.trans hcomplains.status
          cases hstatus
        · exact hnot hrefuses

/-- A tree with one file that declares a type. -/
def oneType : World where
  tree := .directory [("a.go", .file (.readable "type A int\n".toUTF8.data.toList))]
  directory := []

theorem display_answers_or_refuses_in_other_case :
    ∃ display, oneType.display ["find", "a", "--limit", "3"] = .ok display ∧ display.status = 0 ∧
      (display.Answers ∨ display.Complains) ∧
      (display.status = 1 ↔
        EndsInFlag ["a", "--limit", "3"] ∨
          ∃ items start settings index, ["a", "--limit", "3"] = spell items ∧
            oneType.Reaches ["find", "a", "--limit", "3"] (.ofItems "find" items) start settings
              index ∧
            Refuses (IsReadableInteger (some maxDigits)) "find" items index oneType.tree) := by
  have hstatus : (oneType.display ["find", "a", "--limit", "3"]).toOption.map (·.status) =
      some 0 := by decide +kernel
  obtain ⟨display, hsome, hzero⟩ := Option.map_eq_some_iff.mp hstatus
  have hdisplay := toOption_eq_some_iff.mp hsome
  exact ⟨display, hdisplay, hzero, display_answers_or_refuses Console.writesJson_markup
    Console.keepsFirstLetter_markup (by decide) hdisplay⟩

/-- A world with nothing in it. -/
def bare : World where
  tree := .directory []
  directory := []

theorem bare_reaches (limit : String) :
    bare.Reaches ["stats", "--limit", limit] (.ofItems "stats" [.option "limit" limit]) "." {}
      { root := [], settings := {} } where
  notHelp := rfl
  parsed := parse?_eq_ok_iff.mpr ⟨_, rfl, rfl⟩
  found := ⟨.of [] none, rfl, rfl⟩
  loaded := by rfl
  opened := by rfl

/-- An integer in too many digits is refused as a limit, although nothing is wrong with the rest of
the command line. -/
theorem refuses_overlong_integer :
    let limit := String.ofList (List.replicate (maxDigits + 1) '1')
    (∃ refusal, bare.run ["stats", "--limit", limit] = .refused refusal) ∧
      ¬ EndsInFlag ["--limit", limit] ∧
      ∀ items index, ["--limit", limit] = spell items →
        ¬ Refuses IsInteger "stats" items index bare.tree := by
  intro limit
  have hwrites : WritesInteger limit.toList false (List.replicate (maxDigits + 1) 1) := by
    rw [String.toList_ofList]
    exact writesInteger_replicate (by decide) (by decide)
  refine ⟨?_, not_endsInFlag_of_parse?_eq_ok (bare_reaches limit).parsed, ?_⟩
  · have hunread : readInteger? bare.platform.digitLimit limit = none := by
      rw [readInteger?_of_writes hwrites, if_neg (by simp [bare, allowsDigits])]
    obtain ⟨refusal, hrefusal⟩ : ∃ refusal, limitOf bare.platform.digitLimit
        (.ofItems "stats" [.option "limit" limit]) = .error refusal :=
      exists_limitOf_eq_error_iff.mpr
        ⟨limit, option?_ofItems _ _ _, readInteger?_eq_none_iff.mp hunread⟩
    refine ⟨refusal, ?_⟩
    rw [(bare_reaches limit).run_eq, execute, hrefusal]
    rfl
  · intro items index hitems
    -- the line can be read in no other way
    obtain rfl : [.option "limit" limit] = items := spell_injective hitems
    have hlimit : ¬ ∃ text, valueOf "limit" [.option "limit" limit] = some text ∧
        ¬ IsInteger text := by
      rintro ⟨text, hgiven, htext⟩
      obtain rfl := Option.some.inj hgiven
      exact htext ⟨_, _, hwrites⟩
    have hverb : Verb.stats.word = "stats" := rfl
    rw [refuses_iff_rejects hverb hlimit]
    exact id

end World

end Command

end GoIndex
