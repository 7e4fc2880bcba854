import StructureGrader.Json.Value
import StructureGrader.Number.Amount
import StructureGrader.Number.Reading
import StructureGrader.Text.Quoted

/-!
# Settings

The settings of a comparison and of the service around it. They are checked when they are made, in
a fixed order, and the first one out of range is named (`Settings.checked`). They come from values
(`Settings.make`) or from the environment (`Settings.ofEnvironment`), and a command or a request may
ask for others in their place (`Settings.override`, `Settings.forRequest`).
-/

namespace StructureGrader

/-- Why settings are refused. -/
inductive SettingsError
  /-- The threshold is no number; its text as shown. -/
  | thresholdNotNumber (shown : String)
  | thresholdOutOfRange (value : Amount)
  | timeoutNotPositive (value : Amount)
  | tooFewAnalyses (value : Int)
  | uploadLimitNotPositive (value : Int)
  /-- A variable of the environment should be a number with a point. -/
  | variableNotReal (text : String)
  /-- A variable of the environment should be a whole number. -/
  | variableNotWhole (text : String)
  /-- The whole number of a variable of the environment has too many digits. -/
  | variableTooLong (digits : Nat)
  /-- The threshold of a request is no number. -/
  | requestThresholdNotNumber (text : String)
deriving Repr

/-- The wording of a refusal. -/
def SettingsError.message : SettingsError → String
  | .thresholdNotNumber shown => "similarity_threshold must be a number, got " ++ shown
  | .thresholdOutOfRange value =>
    "similarity_threshold must be within [0, 1], got " ++ value.text
  | .timeoutNotPositive value => "timeout_seconds must be positive, got " ++ value.text
  | .tooFewAnalyses value =>
    "max_concurrent_analyses must be at least 1, got " ++ toString value
  | .uploadLimitNotPositive value => "max_upload_bytes must be positive, got " ++ toString value
  | .variableNotReal text =>
    "Invalid grader environment setting: could not convert string to float: " ++ Text.quoted text
  | .variableNotWhole text =>
    "Invalid grader environment setting: invalid literal for int() with base 10: " ++
      Text.quoted text
  | .variableTooLong digits =>
    "Invalid grader environment setting: Exceeds the limit (" ++ toString Number.digitLimit ++
      " digits) for integer string conversion: value has " ++ toString digits ++
      " digits; use sys.set_int_max_str_digits() to increase the limit"
  | .requestThresholdNotNumber text => "threshold must be a number, got " ++ Text.quoted text

mutual

/-- How a value that is no number is shown. -/
def shownValue : Json → String
  | .null => "None"
  | .bool b => if b then "True" else "False"
  | .int n => toString n
  | .real x => Number.floatText x
  | .text s => Text.quoted s
  | .list [] => "[]"
  | .list (item :: items) => "[" ++ shownValue item ++ shownItems items ++ "]"
  | .object [] => "\x7b\x7d"
  | .object ((name, value) :: fields) =>
    "\x7b" ++ Text.quoted name ++ ": " ++ shownValue value ++ shownFields fields ++ "\x7d"

/-- The items of a list after its first, as shown. -/
def shownItems : List Json → String
  | [] => ""
  | item :: items => ", " ++ shownValue item ++ shownItems items

/-- The fields of an object after its first, as shown. -/
def shownFields : List (String × Json) → String
  | [] => ""
  | (name, value) :: fields =>
    ", " ++ Text.quoted name ++ ": " ++ shownValue value ++ shownFields fields

end

/-- The settings of a comparison and of the service. -/
structure Settings where
  /-- The score from which on elements are paired in the approximate pass. -/
  threshold : Amount
  /-- The seconds that a comparison may take. -/
  timeout : Option Amount
  /-- How many comparisons may run at a time. -/
  maxAnalyses : Int
  /-- How large an archive may be, in bytes. -/
  maxUploadBytes : Int
deriving Repr

namespace Settings

/-- The settings used unless others are given. -/
def default : Settings :=
  { threshold := .real 0.7
    timeout := none
    maxAnalyses := 5
    maxUploadBytes := 50 * 1024 * 1024 }

/-- The first fault of some settings. -/
def fault? (s : Settings) : Option SettingsError :=
  if !s.threshold.isShare then some (.thresholdOutOfRange s.threshold)
  else
    match s.timeout.filter Amount.isNotPositive with
    | some t => some (.timeoutNotPositive t)
    | none =>
      if s.maxAnalyses < 1 then some (.tooFewAnalyses s.maxAnalyses)
      else if s.maxUploadBytes < 1 then some (.uploadLimitNotPositive s.maxUploadBytes)
      else none

/-- Settings without a fault. -/
def checked (s : Settings) : Except SettingsError Settings :=
  match s.fault? with
  | some e => .error e
  | none => .ok s

/-- The number that a value is. -/
def amountOf? : Json → Option Amount
  | .int n => some (.whole n)
  | .real x => some (.real x)
  | _ => none

/-- Settings from values, of which the threshold may be anything. -/
def make (threshold : Json) (timeout : Option Amount) (maxAnalyses maxUploadBytes : Int) :
    Except SettingsError Settings :=
  match amountOf? threshold with
  | none => .error (.thresholdNotNumber (shownValue threshold))
  | some t => checked ⟨t, timeout, maxAnalyses, maxUploadBytes⟩

/-- The settings with another threshold and another time limit. -/
def override (s : Settings) (threshold : Option Float) (timeout : Option Float) :
    Except SettingsError Settings :=
  checked { s with
    threshold := (threshold.map Amount.real).getD s.threshold
    timeout := (timeout.map Amount.real).or s.timeout }

/-- The settings for a request that may name a threshold of its own; an empty one counts as none. -/
def forRequest (s : Settings) (threshold : Option String) : Except SettingsError Settings :=
  match threshold with
  | none => .ok s
  | some text =>
    if text == "" then .ok s
    else
      match Number.realNumber? text with
      | none => .error (.requestThresholdNotNumber text)
      | some x => checked { s with threshold := .real x }

/-! ## The environment -/

/-- Variables with their values. -/
abbrev Environment := List (String × String)

/-- The value of a variable. -/
def valueOf? (env : Environment) (name : String) : Option String :=
  (env.find? fun v => v.1 == name).map Prod.snd

/-- The double that a text writes. -/
def realNumber (text : String) : Except SettingsError Amount :=
  match Number.realNumber? text with
  | some x => .ok (.real x)
  | none => .error (.variableNotReal text)

/-- The double that a variable writes, or the default without the variable. -/
def realVariable (text : Option String) (otherwise : Amount) : Except SettingsError Amount :=
  match text with
  | none => .ok otherwise
  | some text => realNumber text

/-- The time limit that a variable writes; without the variable there is none, and an empty one is
none. -/
def timeoutVariable (text : Option String) : Except SettingsError (Option Amount) :=
  match text with
  | none => .ok none
  | some text => if text == "" then .ok none else (realNumber text).map some

/-- The whole number that a variable writes, or the default without the variable. -/
def wholeVariable (text : Option String) (otherwise : Int) : Except SettingsError Int :=
  match text with
  | none => .ok otherwise
  | some text =>
    match Number.wholeNumber? text, Number.excessDigits? text with
    | some n, _ => .ok n
    | none, some digits => .error (.variableTooLong digits)
    | none, none => .error (.variableNotWhole text)

/-- The settings that the environment names. -/
def ofEnvironment (env : Environment) : Except SettingsError Settings := do
  let threshold ← realVariable (valueOf? env "GRADER_SIMILARITY_THRESHOLD") default.threshold
  let timeout ← timeoutVariable (valueOf? env "GRADER_ANALYSIS_TIMEOUT")
  let maxAnalyses ←
    wholeVariable (valueOf? env "GRADER_MAX_CONCURRENT_ANALYSES") default.maxAnalyses
  let maxUploadBytes ←
    wholeVariable (valueOf? env "GRADER_MAX_UPLOAD_BYTES") default.maxUploadBytes
  checked ⟨threshold, timeout, maxAnalyses, maxUploadBytes⟩

end Settings

end StructureGrader
