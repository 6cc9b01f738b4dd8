import GoIndex.Text.Lower
import GoIndex.Text.Quoted

/-!
# Texts with halves of characters

A text may be given by codes, and a code may be that of half of a character. Such a text is no
sequence of characters, yet it can be kept, compared, lower-cased and shown. A half belongs to no
word: what stands on its two sides is lower-cased apart.
-/

namespace GoIndex.Text

/-- A part of a text: a character, or half of one by its code. -/
inductive Letter where
  | char (c : Char)
  | half (code : Nat)
  deriving DecidableEq, Repr

/-- A text that may have halves of characters. -/
abbrev Letters := List Letter

/-- The character of a letter. -/
def Letter.char? : Letter → Option Char
  | .char c => some c
  | .half _ => none

namespace Letters

/-- The letters of characters. -/
def ofChars (text : List Char) : Letters :=
  text.map .char

/-- The letters of a text. -/
def ofString (text : String) : Letters :=
  ofChars text.toList

/-- The characters of a text, where a half stands as the null character. -/
def chars (text : Letters) : List Char :=
  text.map fun letter => letter.char?.getD (Char.ofNat 0)

/-- The text that the letters are, unless there are halves among them. -/
def toString? (text : Letters) : Option String :=
  (text.mapM Letter.char?).map String.ofList

/-- The text as the name of a file. No file has a name with half of a character, and none has one
with the null character. -/
def fileName (text : Letters) : String :=
  String.ofList text.chars

/-- The lower case of a text behind characters, last first, that belong to the same words. -/
def lowerBehind (before : List Char) : Letters → Letters
  | [] => ofChars (lowerChars before.reverse)
  | .char c :: text => lowerBehind (c :: before) text
  | .half code :: text => ofChars (lowerChars before.reverse) ++ .half code :: lowerBehind [] text

/-- The lower case of a text. -/
def lower (text : Letters) : Letters :=
  lowerBehind [] text

/-- A letter inside quotes `quote`. -/
def quotedLetter (quote : Char) : Letter → List Char
  | .char c => quotedChar quote c
  | .half code => '\\' :: 'u' :: hexDigits 4 code

/-- A text in quotes, as messages show it. -/
def quoted (text : Letters) : String :=
  let quote := quoteFor text.chars
  String.ofList (quote :: text.flatMap (quotedLetter quote) ++ [quote])

end Letters

end GoIndex.Text
