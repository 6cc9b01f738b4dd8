import Mathlib.Logic.ExistsUnique
import GoIndex.Proofs.Command.Arguments
import GoIndex.Proofs.Command.Console
import GoIndex.Proofs.Command.Run
import GoIndex.Proofs.Data.Merge

/-!
# Writing a command line and taking it apart

Taking a command line apart inverts writing it out (`parse?_inverts_spell`). A command with items
written behind it is read as that command, the words among the items in order, and the options as a
map that sends each name to its last value. Whether a word is an option, a value or a word of its
own depends on everything before it; still every command line is written from one command and one
row of items, or else it is written that way up to a last word that is a flag. In the second case,
and only there, the run ends with a complaint about that flag.

That no other refusal looks like this one is seen from the commands: they refuse for reasons of
their own (`execute_ne_missingValue`).

The complaint names the flag, but it is a message, and a console reads the markup in it. So the flag
is seen in it where it has no markup and the line is long enough, and not in general: a tag in the
flag is left out, and one that closes nothing ends the run with a fault
(`tag_in_flag_is_not_shown`).
-/

namespace GoIndex.Command

open Data

/-! ### Options as a map -/

/-- Setting an option adds its name behind all others, unless it is there. -/
theorem map_fst_setOption (name value : String) (options : List (String × String)) :
    (setOption name value options).map Prod.fst =
      if name ∈ options.map Prod.fst then options.map Prod.fst
      else options.map Prod.fst ++ [name] := by
  induction options with
  | nil => rfl
  | cons option options ih =>
    by_cases hname : option.1 = name
    · simp [setOption, hname]
    · have hne : name ≠ option.1 := fun heq => hname heq.symm
      simp only [setOption, hname, if_false, List.map_cons, ih, List.mem_cons, hne, false_or]
      split <;> rfl

/-- No option is set twice. -/
theorem nodup_setOption {options : List (String × String)} (h : (options.map Prod.fst).Nodup)
    (name value : String) : ((setOption name value options).map Prod.fst).Nodup := by
  rw [map_fst_setOption]
  exact nodup_ite_concat h name

theorem nodup_options_foldl_add {arguments : Arguments}
    (h : (arguments.options.map Prod.fst).Nodup) (items : List Item) :
    ((items.foldl Arguments.add arguments).options.map Prod.fst).Nodup := by
  induction items generalizing arguments with
  | nil => exact h
  | cons item items ih =>
    rw [List.foldl_cons]
    refine ih ?_
    cases item with
    | word text plain => exact h
    | option name value => exact nodup_setOption h name value

/-! ### The two ways of a command line -/

/-- Whether a command line ends in a flag that has no value. -/
def LacksValue (line : List String) (flag : String) : Prop :=
  isFlag flag = true ∧ ∃ command items, line = command :: (spell items ++ [flag])

theorem parse?_eq_error_iff {line : List String} {flag : String} :
    Arguments.parse? line = some (.error flag) ↔ LacksValue line flag := by
  constructor
  · intro h
    obtain ⟨command, words, rfl⟩ : ∃ command words, line = command :: words := by
      refine List.exists_cons_of_ne_nil ?_
      rintro rfl
      cases h
    obtain ⟨hflag, items, rfl⟩ := readArguments_eq_error_iff.mp (Option.some.inj h)
    exact ⟨hflag, command, items, rfl⟩
  · rintro ⟨hflag, command, items, rfl⟩
    exact congrArg some (readArguments_eq_error_iff.mpr ⟨hflag, items, rfl⟩)

/-- A command line is written from a command and items in at most one way. -/
theorem eq_of_cons_spell_eq {written other : String × List Item}
    (h : written.1 :: spell written.2 = other.1 :: spell other.2) : written = other := by
  obtain ⟨hcommand, hitems⟩ := List.cons.inj h
  exact Prod.ext hcommand (spell_injective hitems)

/-- A command line that does not end in a flag without a value is written from a command and
items. -/
theorem exists_written_iff {line : List String} (h : line ≠ []) :
    (∃ written : String × List Item, line = written.1 :: spell written.2) ↔
      ¬ ∃ flag, LacksValue line flag := by
  obtain ⟨command, words, rfl⟩ := List.exists_cons_of_ne_nil h
  constructor
  · rintro ⟨⟨other, items⟩, hline⟩ ⟨flag, hlacks⟩
    have hok : Arguments.parse? (command :: words) = some (.ok (.ofItems command items)) :=
      parse?_eq_ok_iff.mpr ⟨items, (List.cons.inj hline).2, rfl⟩
    rw [parse?_eq_error_iff.mpr hlacks] at hok
    cases hok
  · intro hnone
    cases hread : readArguments { command := command } words with
    | error flag =>
      have hparse : Arguments.parse? (command :: words) = some (.error flag) := congrArg some hread
      exact absurd ⟨flag, parse?_eq_error_iff.mp hparse⟩ hnone
    | ok arguments =>
      obtain ⟨items, rfl, -⟩ := readArguments_eq_ok_iff.mp hread
      exact ⟨(command, items), rfl⟩

/-! ### Refusals of commands -/

section Refusals

variable {digitLimit : Option Nat} {arguments : Arguments} {flag : String}

theorem limitOf_ne_missingValue : limitOf digitLimit arguments ≠ .error (.missingValue flag) := by
  intro h
  unfold limitOf at h
  split at h
  · cases h
  · split at h <;> cases h

theorem kindOf_ne_missingValue : kindOf arguments ≠ .error (.missingValue flag) := by
  intro h
  unfold kindOf at h
  split at h
  · cases h
  · split at h <;> cases h

theorem Verb.run_ne_missingValue (verb : Verb) (limit : Option Int) (settings : SearchSettings)
    (index : Index) (tree : Node) :
    verb.run arguments limit settings index tree ≠ .ok (.error (.missingValue flag)) := by
  intro h
  cases verb with
  | find =>
    obtain ⟨catalog, -, hreport⟩ := bind_pure_eq_ok_iff.mp h
    unfold findReport at hreport
    split at hreport <;> cases hreport
  | search =>
    simp only [Verb.run] at h
    split at h
    · rename_i hkind
      cases h
      exact kindOf_ne_missingValue hkind
    · obtain ⟨catalog, -, hreport⟩ := bind_pure_eq_ok_iff.mp h
      cases hreport
  | module =>
    obtain ⟨catalog, -, hreport⟩ := bind_pure_eq_ok_iff.mp h
    unfold moduleReport at hreport
    dsimp only at hreport
    split at hreport <;> cases hreport
  | relations =>
    obtain ⟨catalog, -, hreport⟩ := bind_pure_eq_ok_iff.mp h
    unfold relationsReport at hreport
    split at hreport <;> cases hreport
  | stats | deps | topic =>
    obtain ⟨answer, -, hreport⟩ := bind_pure_eq_ok_iff.mp h
    cases hreport

/-- No command complains about an option without a value. -/
theorem execute_ne_missingValue (settings : SearchSettings) (index : Index) (tree : Node) :
    execute digitLimit arguments settings index tree ≠ .ok (.error (.missingValue flag)) := by
  intro h
  unfold execute at h
  split at h
  · rename_i hlimit
    cases h
    exact limitOf_ne_missingValue hlimit
  · split at h
    · cases h
    · exact Verb.run_ne_missingValue _ _ _ _ _ h

end Refusals

/-- A run complains about a flag without a value exactly when its command line ends in that flag. -/
theorem World.run_eq_missingValue_iff {world : World} {line : List String} {flag : String}
    (henvironment : ∃ environment, world.environment = .ok environment)
    (hhelp : line.head?.all isHelp = false) :
    world.run line = .refused (.missingValue flag) ↔ LacksValue line flag := by
  rw [← parse?_eq_error_iff]
  constructor
  · intro h
    obtain ⟨fault, hrun⟩ | ⟨other, hparse, hrun⟩ | ⟨arguments, start, settings, index, hreaches⟩ :=
      world.run_cases hhelp
    · cases hrun.symm.trans h
    · cases hrun.symm.trans h
      exact hparse
    · rw [hreaches.run_eq] at h
      have hexecute : execute world.platform.digitLimit arguments settings.search index
          world.tree = .ok (.error (.missingValue flag)) := by
        unfold Outcome.of at h
        split at h
        · cases h
        · rename_i refusal hrefusal
          cases h
          exact hrefusal
        · cases h
      exact absurd hexecute (execute_ne_missingValue _ _ _)
  · intro hparse
    obtain ⟨environment, hok⟩ := henvironment
    simp [World.run, hhelp, hok, hparse]

section MissingValue

variable {world : World} {line : List String} {flag : String}

/-- What a run leaves behind that complains about a flag is the console's view of the complaint. -/
theorem World.display_of_lacksValue
    (henvironment : ∃ environment, world.environment = .ok environment)
    (hhelp : line.head?.all isHelp = false) (h : LacksValue line flag) :
    world.display line = (world.platform.console.message ("Missing value for " ++ flag)).map
      fun text => { complaint := text, status := 1 } := by
  rw [World.display, (World.run_eq_missingValue_iff henvironment hhelp).mpr h]
  rfl

theorem map_complaint_eq_ok_iff {result : Except Fault String} {text : String} :
    result.map (fun text => ({ complaint := text, status := 1 } : Display)) =
      .ok { complaint := text, status := 1 } ↔ result = .ok text := by
  simp [map_eq_ok_iff]

/-- The complaint about a flag without markup is written as it is, if it fits into a line. -/
theorem Console.WritesPlain.message_missingValue {console : Console} {width : Nat}
    (h : console.WritesPlain width) (hplain : ∀ c ∈ flag.toList, Text.Markup.isPlain c)
    (hwidth : ("Missing value for " ++ flag).length ≤ width) :
    console.message ("Missing value for " ++ flag) =
      .ok ("Missing value for " ++ flag ++ "\n") := by
  refine h _ (fun c hc => ?_) hwidth
  rw [String.toList_append, List.mem_append] at hc
  rcases hc with hc | hc
  · have hwords : ∀ c ∈ "Missing value for ".toList, Text.Markup.isPlain c := by decide
    exact hwords c hc
  · exact hplain c hc

end MissingValue

/-- **Taking a command line apart inverts writing it out.**

* A command with items behind it is read as that command, the words among the items in order, and a
  map that sends each name to the value of its last option.
* Every command line with a command is written from exactly one command and row of items, or it is
  so written up to a last word that is a flag, and never both.
* Reading fails in the second case and only there, about that flag, and so does the run of a world
  whose variables can be read.
* Such a run prints the complaint about the flag, with status one, exactly when the console writes
  that message as it is. A console that does so with plain messages does so with this one, if the
  flag is plain and the message fits into a line. -/
theorem parse?_inverts_spell (world : World) :
    (∀ command items, ∃ arguments,
      Arguments.parse? (command :: spell items) = some (.ok arguments) ∧
        arguments.command = command ∧ arguments.words = items.filterMap Item.word? ∧
        (arguments.options.map Prod.fst).Nodup ∧
        ∀ name, arguments.option? name = valueOf name items) ∧
    (∀ line, line ≠ [] →
      ((∃! written : String × List Item, line = written.1 :: spell written.2) ↔
        ¬ ∃ flag, LacksValue line flag)) ∧
    (∀ line flag, Arguments.parse? line = some (.error flag) ↔ LacksValue line flag) ∧
    ((∃ environment, world.environment = .ok environment) →
      ∀ line flag, line.head?.all isHelp = false →
        let console := world.platform.console
        let message := "Missing value for " ++ flag
        (world.run line = .refused (.missingValue flag) ↔ LacksValue line flag) ∧
        (LacksValue line flag →
          (world.display line = .ok { complaint := message ++ "\n", status := 1 } ↔
            console.message message = .ok (message ++ "\n")) ∧
          ∀ width, console.WritesPlain width → (∀ c ∈ flag.toList, Text.Markup.isPlain c) →
            message.length ≤ width →
            world.display line = .ok { complaint := message ++ "\n", status := 1 })) := by
  refine ⟨fun command items => ?_, fun line hline => ?_, fun line flag => parse?_eq_error_iff,
    fun henvironment line flag hhelp => ?_⟩
  · have hwords : (Arguments.ofItems command items).words = items.filterMap Item.word? := by
      rw [Arguments.ofItems, words_foldl_add, List.nil_append]
    have hnodup : ((Arguments.ofItems command items).options.map Prod.fst).Nodup := by
      refine nodup_options_foldl_add ?_ items
      exact List.nodup_nil
    exact ⟨.ofItems command items, parse?_eq_ok_iff.mpr ⟨items, rfl, rfl⟩,
      command_ofItems command items, hwords, hnodup, fun name => option?_ofItems command name items⟩
  · rw [← exists_written_iff hline]
    constructor
    · rintro ⟨written, hwritten, -⟩
      exact ⟨written, hwritten⟩
    · rintro ⟨written, hwritten⟩
      refine ⟨written, hwritten, fun other hother => ?_⟩
      exact eq_of_cons_spell_eq (hother.symm.trans hwritten)
  · -- the run is the same for all consoles; what is seen of it is up to this one
    intro console message
    refine ⟨World.run_eq_missingValue_iff henvironment hhelp, fun hlacks => ?_⟩
    rw [World.display_of_lacksValue henvironment hhelp hlacks, map_complaint_eq_ok_iff]
    exact ⟨Iff.rfl, fun width hwrites => hwrites.message_missingValue⟩

/-- A world with nothing in it. -/
private def emptyWorld : World where
  tree := .directory []
  directory := []

/-- A value may look like a flag; the same word at the end of the line lacks a value. -/
theorem parse?_inverts_spell_of_flag_as_value :
    (∃! written : String × List Item, ["find", "--a", "--b", "c"] = written.1 :: spell written.2) ∧
      LacksValue ["find", "--a", "--b", "--b"] "--b" ∧
      emptyWorld.run ["find", "--a", "--b", "--b"] = .refused (.missingValue "--b") ∧
      emptyWorld.display ["find", "--a", "--b", "--b"] =
        .ok { complaint := "Missing value for --b\n", status := 1 } := by
  obtain ⟨-, hwritten, herror, hrun⟩ := parse?_inverts_spell emptyWorld
  have hlacks : LacksValue ["find", "--a", "--b", "--b"] "--b" :=
    ⟨by decide, "find", [.option "a" "--b"], rfl⟩
  obtain ⟨hrefused, hshown⟩ := hrun ⟨_, rfl⟩ ["find", "--a", "--b", "--b"] "--b" (by decide)
  refine ⟨(hwritten _ (by decide)).mpr ?_, hlacks, hrefused.mpr hlacks, ?_⟩
  · rintro ⟨flag, hflag⟩
    have hparse := (herror _ flag).mpr hflag
    cases hparse
  · exact (hshown hlacks).2 80 (Console.writesPlain_markup 80) (by decide) (by decide)

/-- A tag in a flag is left out of the complaint, and one that closes nothing ends the run with a
fault. -/
theorem tag_in_flag_is_not_shown :
    LacksValue ["find", "--[bold]"] "--[bold]" ∧
      emptyWorld.display ["find", "--[bold]"] =
        .ok { complaint := "Missing value for --\n", status := 1 } ∧
      LacksValue ["find", "--[/x]"] "--[/x]" ∧
      emptyWorld.display ["find", "--[/x]"] = .error .strayTag := by
  have hbold : LacksValue ["find", "--[bold]"] "--[bold]" := ⟨by decide, "find", [], rfl⟩
  have hclosing : LacksValue ["find", "--[/x]"] "--[/x]" := ⟨by decide, "find", [], rfl⟩
  have hshown : Text.Markup.read? ("Missing value for " ++ "--[bold]").toList =
      some "Missing value for --".toList := by decide +kernel
  have hstray : Text.Markup.read? ("Missing value for " ++ "--[/x]").toList = none := by
    decide +kernel
  refine ⟨hbold, ?_, hclosing, ?_⟩
  · rw [World.display_of_lacksValue ⟨_, rfl⟩ (by decide) hbold]
    exact congrArg _ (Console.message_markup_of_eq_some hshown)
  · rw [World.display_of_lacksValue ⟨_, rfl⟩ (by decide) hclosing]
    exact congrArg _ (Console.message_markup_of_eq_none hstray)

end GoIndex.Command
