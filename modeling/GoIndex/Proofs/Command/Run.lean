import GoIndex.Command.Run
import GoIndex.Proofs.Index.Scan

/-!
# The ways of a run

A run that is neither a request for help nor cut short takes its command line apart, finds out what
it is about, loads the settings and opens an index; then it carries the command out on this index.
`World.Reaches` says that a run gets that far, and with what. Every other run ends before any
command is looked at (`World.run_cases`).
-/

namespace GoIndex.Command

open Data

theorem bind_eq_ok_iff {ε α β : Type} {x : Except ε α} {f : α → Except ε β} {b : β} :
    x >>= f = .ok b ↔ ∃ a, x = .ok a ∧ f a = .ok b := by
  cases x <;> simp [bind, Except.bind]

theorem bind_pure_eq_ok_iff {ε α β : Type} {x : Except ε α} {f : α → β} {b : β} :
    (x >>= fun a => pure (f a)) = .ok b ↔ ∃ a, x = .ok a ∧ f a = b := by
  cases x <;> simp [bind, Except.bind, pure, Except.pure]

theorem toOption_eq_some_iff {ε α : Type} {x : Except ε α} {a : α} :
    x.toOption = some a ↔ x = .ok a := by
  cases x with
  | error e => exact iff_of_false nofun nofun
  | ok b => exact ⟨fun h => congrArg _ (Option.some.inj h), fun h => congrArg _ (Except.ok.inj h)⟩

/-- How a run ends, by what comes of its command. -/
def Outcome.of : Except Fault (Except Refusal Value) → Outcome
  | .error fault => .aborted fault
  | .ok (.error refusal) => .refused refusal
  | .ok (.ok value) => .report value

namespace World

/-- The run of a command line gets as far as its command: with these arguments, about `start`, with
these settings and on this index. -/
structure Reaches (world : World) (line : List String) (arguments : Arguments) (start : String)
    (settings : Settings) (index : Index) : Prop where
  notHelp : line.head?.all isHelp = false
  parsed : Arguments.parse? line = some (.ok arguments)
  found : ∃ environment, world.environment = .ok environment ∧ startOf environment arguments = start
  loaded : world.settings start = .ok settings
  opened : Index.openAt world.tree world.directory start settings.scan = .ok index

variable {world : World} {line : List String}

theorem runArguments_eq (start : String) (arguments : Arguments) :
    world.runArguments start arguments = .of (world.carryOut start arguments) := by
  rw [runArguments]
  rcases world.carryOut start arguments with fault | refusal | value <;> rfl

/-- A run that reaches its command ends the way the command does. -/
theorem Reaches.run_eq {arguments : Arguments} {start : String} {settings : Settings}
    {index : Index} (h : world.Reaches line arguments start settings index) :
    world.run line =
      .of (execute world.platform.digitLimit arguments settings.search index world.tree) := by
  obtain ⟨environment, henvironment, rfl⟩ := h.found
  have hcarry : world.carryOut (startOf environment arguments) arguments =
      execute world.platform.digitLimit arguments settings.search index world.tree := by
    simp only [carryOut, bind, Except.bind, h.loaded, h.opened]
  simp only [run, h.notHelp, henvironment, h.parsed, runArguments_eq, hcarry, Bool.false_eq_true,
    if_false]

/-- A run about `start` that is not cut short loads settings and opens an index. -/
theorem exists_index_of_carryOut {start : String} {arguments : Arguments}
    {result : Except Refusal Value} (h : world.carryOut start arguments = .ok result) :
    ∃ settings index, world.settings start = .ok settings ∧
      Index.openAt world.tree world.directory start settings.scan = .ok index := by
  obtain ⟨settings, hsettings, h⟩ := bind_eq_ok_iff.mp h
  obtain ⟨index, hindex, -⟩ := bind_eq_ok_iff.mp h
  exact ⟨settings, index, hsettings, hindex⟩

/-- **What a run can do** when it is not asked for help: it is cut short, it finds an option without
a value, or it reaches its command. -/
theorem run_cases (world : World) {line : List String} (hhelp : line.head?.all isHelp = false) :
    (∃ fault, world.run line = .aborted fault) ∨
      (∃ flag, Arguments.parse? line = some (.error flag) ∧
        world.run line = .refused (.missingValue flag)) ∨
      ∃ arguments start settings index, world.Reaches line arguments start settings index := by
  cases henvironment : world.environment with
  | error fault => exact .inl ⟨fault, by simp [run, hhelp, henvironment]⟩
  | ok environment =>
    obtain ⟨result, hparse⟩ : ∃ result, Arguments.parse? line = some result := by
      cases line with
      | nil => simp at hhelp
      | cons command rest => exact ⟨_, rfl⟩
    cases result with
    | error flag => exact .inr (.inl ⟨flag, hparse, by simp [run, hhelp, henvironment, hparse]⟩)
    | ok arguments =>
      cases hcarry : world.carryOut (startOf environment arguments) arguments with
      | error fault =>
        exact .inl ⟨fault, by
          simp [run, hhelp, henvironment, hparse, runArguments_eq, hcarry, Outcome.of]⟩
      | ok result =>
        obtain ⟨settings, index, hsettings, hindex⟩ := exists_index_of_carryOut hcarry
        exact .inr (.inr ⟨arguments, _, settings, index, hhelp, hparse,
          ⟨environment, henvironment, rfl⟩, hsettings, hindex⟩)

end World

end GoIndex.Command
