import GoIndex.Settings.Load
import GoIndex.Text.Markup

/-!
# What a run relies on

Some of what a run does is not its own doing: how a console writes a text, how settings files are
loaded, how many digits an integer may have, and what a level of log lines is called. All this is a
parameter of a run, with a default that it has unless something else is said.
-/

namespace GoIndex.Command

open Text

/-! ### Consoles -/

/-- What a run writes with. -/
structure Console where
  /-- What is written for a text that is laid out already. -/
  report : String → String
  /-- What is written for a message, unless the markup in it cannot be read. -/
  message : String → Except Fault String

/-- A console of any width, which reads markup. -/
def Console.markup : Console where
  report text := text ++ "\n"
  message text :=
    match Markup.read? text.toList with
    | some shown => .ok (String.ofList shown ++ "\n")
    | none => .error .strayTag

/-! ### Log lines -/

/-- The levels of log lines. -/
def levelNames : List String :=
  ["CRITICAL", "FATAL", "ERROR", "WARN", "WARNING", "INFO", "DEBUG", "NOTSET"]

/-- A letter in upper case, as far as this is a letter of ASCII. -/
def upperChar (c : Char) : Char :=
  if c == 'ı' then 'I' else if c == 'ſ' then 'S' else c.toUpper

/-- The level of log lines that a text names in any case. -/
def readLevel (text : String) : Except Fault String :=
  let level := String.ofList (text.toList.map upperChar)
  if levelNames.contains level then .ok level else .error (.unknownLevel level)

/-! ### Platforms -/

/-- What a run relies on. -/
structure Platform where
  console : Console := .markup
  /-- Loads the settings in the user's file and in the project's. -/
  load : (user project : Option Node) → Except Fault Settings := Settings.load
  /-- How many digits an integer may have on the command line, if there is a limit. -/
  digitLimit : Option Nat := some maxDigits
  /-- Whether log lines have a place to go already. Then their level is not looked at. -/
  hasLog : Bool := false

end GoIndex.Command
