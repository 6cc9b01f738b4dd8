import GoIndex.Data.Value
import GoIndex.Settings.Basic
import GoIndex.Text.LooseInteger
import GoIndex.Text.Undecodable

/-!
# Validation of settings

Settings are read from the entries of a map. A field that is missing has its default, a field that
is unknown is passed over, and every field that does not fit is reported, in the order in which the
fields are declared.

An integer may be given as an integer, a truth value, a number without a fraction that fits into
sixty-four bits, or a text that writes an integer. A text may be given as its bytes.
-/

namespace GoIndex

open Data Text

/-! ### Issues -/

/-- Why a value does not fit. -/
inductive Flaw where
  | notMap
  | notText
  | notList
  | notInteger
  | notIntegerText
  | notWhole
  | notFinite
  | tooLarge
  | notUnicode
  deriving DecidableEq, Repr

/-- How a flaw is reported. -/
def Flaw.label : Flaw → String
  | .notMap => "model_type"
  | .notText => "string_type"
  | .notList => "list_type"
  | .notInteger => "int_type"
  | .notIntegerText => "int_parsing"
  | .notWhole => "int_from_float"
  | .notFinite => "finite_number"
  | .tooLarge => "int_parsing_size"
  | .notUnicode => "string_unicode"

/-- A flaw and the way to the value that has it. -/
structure Issue where
  location : List String
  flaw : Flaw
  deriving DecidableEq, Repr

/-- The location of an issue, with dots between its parts. -/
def Issue.place (issue : Issue) : String :=
  ".".intercalate issue.location

/-- The issue as seen from a value that has the flawed one under a name. -/
def Issue.under (name : String) (issue : Issue) : Issue :=
  { issue with location := name :: issue.location }

/-- A value that fits, or all issues. -/
abbrev Checked := Except (List Issue)

namespace Checked

/-- A single flaw at the value itself. -/
def flawed {α : Type} (flaw : Flaw) : Checked α :=
  .error [⟨[], flaw⟩]

/-- A function and its argument checked together: the issues of both are kept. -/
def ap {α β : Type} (f : Checked (α → β)) (x : Checked α) : Checked β :=
  match f, x with
  | .ok f, .ok x => .ok (f x)
  | .ok _, .error issues => .error issues
  | .error issues, .ok _ => .error issues
  | .error first, .error second => .error (first ++ second)

/-- The issues as seen from above. -/
def under {α : Type} (name : String) : Checked α → Checked α
  | .ok x => .ok x
  | .error issues => .error (issues.map (Issue.under name))

/-- Every item checked at its position. -/
def items {α : Type} (check : Value → Checked α) : (position : Nat) → List Value → Checked (List α)
  | _, [] => .ok []
  | position, item :: rest =>
    (ap ((under (toString position) (check item)).map List.cons) (items check (position + 1) rest))

/-- The field of a map under a name, or its default. -/
def field {α : Type} (entries : Entries) (name : String) (default : α)
    (check : Value → Checked α) : Checked α :=
  match valueAt? (.text name) entries with
  | none => .ok default
  | some value => under name (check value)

end Checked

/-! ### Values that fit -/

/-- Whether an integer lies strictly between the bounds of sixty-four bits. -/
def fitsWord (n : Int) : Bool :=
  -9223372036854775808 < n && n < 9223372036854775808

/-- A number with a point as an integer. -/
def integerOfNumber (number : Binary64) : Checked Int :=
  match number, number.whole? with
  | .finite _ _ _, some n => if fitsWord n then .ok n else .flawed .tooLarge
  | .finite _ _ _, none => .flawed .notWhole
  | _, _ => .flawed .notFinite

/-- A text as an integer. -/
def integerOfText (text : String) : Checked Int :=
  if startsTooLong text.toList then .flawed .tooLarge
  else
    match looseInteger? text.toList with
    | some n => .ok n
    | none => .flawed .notIntegerText

/-- A value as an integer. -/
def integerOf : Value → Checked Int
  | .scalar (.int n) => .ok n
  | .scalar (.bool b) => .ok (if b then 1 else 0)
  | .scalar (.number n) => integerOfNumber n
  | .scalar (.text text) => integerOfText text
  | .scalar (.broken _) => .flawed .notUnicode
  | .scalar (.bytes bytes) =>
    match decodeStrictly bytes with
    | .ok text => integerOfText (String.ofList text)
    | .error _ => .flawed .notIntegerText
  | _ => .flawed .notInteger

/-- A value as a text. -/
def textOf : Value → Checked Letters
  | .scalar (.text text) => .ok (.ofString text)
  | .scalar (.broken text) => .ok text
  | .scalar (.bytes bytes) =>
    match decodeStrictly bytes with
    | .ok text => .ok (.ofChars text)
    | .error _ => .flawed .notUnicode
  | _ => .flawed .notText

/-- A value as a list of texts. -/
def textsOf : Value → Checked (List Letters)
  | .list items => .items textOf 0 items
  | _ => .flawed .notList

/-! ### Settings -/

/-- The scan settings in the entries of a map. -/
def ScanSettings.ofEntries (entries : Entries) : Checked ScanSettings :=
  let default : ScanSettings := {}
  let build : Checked (Letters → Letters → List Letters → Letters → Int → ScanSettings) :=
    .ok .mk
  ((((build.ap (.field entries "source_suffix" default.sourceSuffix textOf)).ap
    (.field entries "test_suffix" default.testSuffix textOf)).ap
    (.field entries "skip_dirs" default.skipDirs textsOf)).ap
    (.field entries "root_marker" default.rootMarker textOf)).ap
    (.field entries "max_signature_lines" default.maxSignatureLines integerOf)

/-- The search settings in the entries of a map. -/
def SearchSettings.ofEntries (entries : Entries) : Checked SearchSettings :=
  let default : SearchSettings := {}
  let build : Checked (Int → Int → Int → SearchSettings) := .ok .mk
  ((build.ap (.field entries "default_limit" default.defaultLimit integerOf)).ap
    (.field entries "highlight_count" default.highlightCount integerOf)).ap
    (.field entries "topic_limit" default.topicLimit integerOf)

/-- A section of settings, which has to be a map. -/
def sectionOf {α : Type} (read : Entries → Checked α) : Value → Checked α
  | .map entries => read entries
  | _ => .flawed .notMap

/-- The settings in the entries of a map. -/
def Settings.ofEntries (entries : Entries) : Checked Settings :=
  let build : Checked (ScanSettings → SearchSettings → Settings) := .ok .mk
  (build.ap (.field entries "scan" {} (sectionOf ScanSettings.ofEntries))).ap
    (.field entries "search" {} (sectionOf SearchSettings.ofEntries))

end GoIndex
