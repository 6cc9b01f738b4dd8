/-!
# Arguments

A command line is a command followed by words and options. An option is a word that starts with two
dashes, and the word behind it is its value, whatever it is. Of two options with one name the last
counts. A word with two dashes at the very end has no value and is refused.
-/

namespace GoIndex.Command

/-- A command line taken apart. -/
structure Arguments where
  command : String
  words : List String := []
  options : List (String × String) := []
  deriving DecidableEq, Repr

/-- Whether a word is the name of an option. -/
def isFlag (word : String) : Bool :=
  ['-', '-'].isPrefixOf word.toList

/-- The name of an option without its dashes. -/
def flagName (word : String) : String :=
  String.ofList (word.toList.drop 2)

/-- The options with one more set: in place of one of the same name, or behind all. -/
def setOption (name value : String) : List (String × String) → List (String × String)
  | [] => [(name, value)]
  | option :: options =>
    if option.1 = name then (name, value) :: options else option :: setOption name value options

/-- The arguments with one more word. -/
def Arguments.addWord (arguments : Arguments) (word : String) : Arguments :=
  { arguments with words := arguments.words ++ [word] }

/-- The arguments with one more option. -/
def Arguments.addOption (arguments : Arguments) (name value : String) : Arguments :=
  { arguments with options := setOption name value arguments.options }

/-- The value of an option. -/
def Arguments.option? (arguments : Arguments) (name : String) : Option String :=
  arguments.options.lookup name

/-- The words put together with spaces. -/
def Arguments.text (arguments : Arguments) : String :=
  " ".intercalate arguments.words

/-- Reads the arguments behind the command; the error is the option that has no value. -/
def readArguments (arguments : Arguments) : List String → Except String Arguments
  | [] => .ok arguments
  | [word] => if isFlag word then .error word else .ok (arguments.addWord word)
  | word :: next :: rest =>
    if isFlag word then readArguments (arguments.addOption (flagName word) next) rest
    else readArguments (arguments.addWord word) (next :: rest)

/-- Takes a command line apart; there is none without a command. -/
def Arguments.parse? : List String → Option (Except String Arguments)
  | [] => none
  | command :: rest => some (readArguments { command := command } rest)

end GoIndex.Command
