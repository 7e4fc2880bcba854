import StructureGrader.CommandLine.Command
import StructureGrader.Proofs.Number.Order
import StructureGrader.Proofs.Sequence

/-!
# Which settings are accepted

Settings reach their check from the environment, from the words of a command and from the threshold
of a request. `Settings.InRange` says what the check lets pass (`checked_eq_ok_iff`), and
`Settings.WrittenIn` which settings the variables of an environment write. Settings are accepted
from each of the three exactly when the texts can be read and what they write is in range
(`accepted_iff`).

The check of the threshold asks that two comparisons hold and the check of the time limit that one
fails. A double that is no number fails every comparison, so it is refused as a threshold but
accepted as a time limit (`accepted_timeout_isNaN`); this is the one value out of range that is ever
accepted.
-/

namespace StructureGrader

/-! ## Doubles that are no number -/

namespace Number

open Float.Model (UnpackedFloat)

/-- A double has no place where it is not a number. -/
theorem place?_eq_none (x : UnpackedFloat) : place? x = none ↔ x.isNaN = true := by
  rcases x with (_ | _) | _ | _ | ⟨_ | _, _, _, _⟩
  case notANumber => exact ⟨fun _ => rfl, fun _ => rfl⟩
  all_goals exact ⟨nofun, nofun⟩

/-- A double is comparable with itself unless it is no number. -/
theorem le_self_iff (x : Float) : x ≤ x ↔ x.isNaN = false := by
  have hnan : x.isNaN = x.toModel.unpack.isNaN := rfl
  rw [le_iff_place, hnan, ← Bool.not_eq_true, ← place?_eq_none]
  cases place? x.toModel.unpack with
  | none => simp
  | some p => simp

/-- What is not at most a number is above it, or it is no number. -/
theorem not_le_iff {x y : Float} (hy : y ≤ y) : ¬ x ≤ y ↔ y < x ∨ x.isNaN = true := by
  constructor
  · intro hnot
    by_cases hx : x ≤ x
    · exact Or.inl (ScoreOrder.lt_of_not_le hx hy hnot)
    · rw [le_self_iff, Bool.not_eq_false] at hx
      exact Or.inr hx
  · rintro (hlt | hnan) hle
    · exact (ScoreOrder.lt_iff.1 hlt).2 hle
    · have hx : x ≤ x := (ScoreOrder.le_self hle).1
      rw [le_self_iff, hnan] at hx
      exact Bool.noConfusion hx

end Number

namespace Amount

/-- A number between zero and one, both included. -/
def InUnit : Amount → Prop
  | whole n => 0 ≤ n ∧ n ≤ 1
  | real x => 0.0 ≤ x ∧ x ≤ 1.0

/-- A number above zero. -/
def Positive : Amount → Prop
  | whole n => 0 < n
  | real x => 0.0 < x

/-- The double that is no number. -/
def IsNaN : Amount → Prop
  | whole _ => False
  | real x => x.isNaN = true

/-- A number is a share where it lies between 0 and 1. -/
theorem isShare_iff (a : Amount) : a.isShare = true ↔ a.InUnit := by
  cases a with
  | whole n => simp [isShare, InUnit]
  | real x => simp [isShare, InUnit]

/-- Not to be at most zero is to be positive, or to be no number. -/
theorem isNotPositive_eq_false_iff (a : Amount) :
    a.isNotPositive = false ↔ a.Positive ∨ a.IsNaN := by
  cases a with
  | whole n => simp [isNotPositive, Positive, IsNaN]
  | real x =>
    have hzero : (0.0 : Float) ≤ 0.0 := by decide
    rw [isNotPositive, decide_eq_false_iff_not]
    exact Number.not_le_iff hzero

end Amount

namespace Settings

/-! ## The check -/

/-- Settings with nothing out of range, but for a time limit that is no number. -/
structure InRange (s : Settings) : Prop where
  threshold : s.threshold.InUnit
  timeout : ∀ t ∈ s.timeout, t.Positive ∨ t.IsNaN
  analyses : 1 ≤ s.maxAnalyses
  uploadBytes : 1 ≤ s.maxUploadBytes

/-- There is no time limit at or below zero exactly when each one is positive or no number. -/
theorem filter_isNotPositive_eq_none (timeout : Option Amount) :
    timeout.filter Amount.isNotPositive = none ↔ ∀ t ∈ timeout, t.Positive ∨ t.IsNaN := by
  rw [Option.filter_eq_none_iff]
  simp only [Bool.not_eq_true, Amount.isNotPositive_eq_false_iff, Option.mem_def]

/-- Settings have no fault where all of them lie in their ranges. -/
theorem fault?_eq_none_iff (s : Settings) : s.fault? = none ↔ s.InRange := by
  have hinrange : s.InRange ↔ s.threshold.isShare = true ∧
      s.timeout.filter Amount.isNotPositive = none ∧ 1 ≤ s.maxAnalyses ∧ 1 ≤ s.maxUploadBytes := by
    rw [Amount.isShare_iff, filter_isNotPositive_eq_none]
    exact ⟨fun h => ⟨h.1, h.2, h.3, h.4⟩, fun h => ⟨h.1, h.2.1, h.2.2.1, h.2.2.2⟩⟩
  rw [hinrange, fault?]
  cases s.threshold.isShare with
  | false => simp
  | true =>
    cases s.timeout.filter Amount.isNotPositive with
    | some t => simp
    | none =>
      by_cases hanalyses : s.maxAnalyses < 1
      · simp [hanalyses]
      · by_cases hbytes : s.maxUploadBytes < 1
        · simp [hanalyses, hbytes]
        · simp only [Bool.not_true, Bool.false_eq_true, hanalyses, hbytes, if_false, true_and,
            true_iff]
          omega

/-- The check lets settings pass as they are, if they are in range. -/
theorem checked_eq_ok_iff {s accepted : Settings} :
    s.checked = .ok accepted ↔ accepted = s ∧ s.InRange := by
  rw [checked, ← fault?_eq_none_iff]
  cases s.fault? with
  | none => simp [eq_comm]
  | some e => simp

/-! ## What is written -/

/-- A value is what a text is read as, or the default where there is no text. -/
def Given {α : Type} (read : String → Option α) (otherwise : α) : Option String → α → Prop
  | none, value => value = otherwise
  | some text, value => read text = some value

/-- The double that a text writes. -/
def readReal (text : String) : Option Amount :=
  (Number.realNumber? text).map .real

/-- The time limit that a text writes; an empty one writes that there is none. -/
def readTimeout (text : String) : Option (Option Amount) :=
  if text = "" then some none else (readReal text).map some

/-- The settings that the variables of an environment write. -/
structure WrittenIn (env : Environment) (s : Settings) : Prop where
  threshold :
    Given readReal default.threshold (valueOf? env "GRADER_SIMILARITY_THRESHOLD") s.threshold
  timeout : Given readTimeout none (valueOf? env "GRADER_ANALYSIS_TIMEOUT") s.timeout
  analyses :
    Given Number.wholeNumber? default.maxAnalyses
      (valueOf? env "GRADER_MAX_CONCURRENT_ANALYSES") s.maxAnalyses
  uploadBytes :
    Given Number.wholeNumber? default.maxUploadBytes
      (valueOf? env "GRADER_MAX_UPLOAD_BYTES") s.maxUploadBytes

/-- A text is taken as a number where it can be read as one. -/
theorem realNumber_eq_ok_iff {text : String} {value : Amount} :
    realNumber text = .ok value ↔ readReal text = some value := by
  rw [realNumber, readReal]
  cases Number.realNumber? text with
  | none => simp
  | some x => simp

/-- A variable is taken as a number where its text can be read as one, and has its default where
there is none. -/
theorem realVariable_eq_ok_iff {text : Option String} {otherwise value : Amount} :
    realVariable text otherwise = .ok value ↔ Given readReal otherwise text value := by
  cases text with
  | none => simp [realVariable, Given, eq_comm]
  | some text => exact realNumber_eq_ok_iff

/-- A variable is taken as a time limit where its text can be read as one, and there is none by default.
-/
theorem timeoutVariable_eq_ok_iff {text : Option String} {value : Option Amount} :
    timeoutVariable text = .ok value ↔ Given readTimeout none text value := by
  cases text with
  | none => simp [timeoutVariable, Given, eq_comm]
  | some text =>
    rw [timeoutVariable, Given, readTimeout]
    by_cases hempty : text = ""
    · simp [hempty]
    · simp only [beq_iff_eq, hempty, if_false, realNumber, readReal]
      cases Number.realNumber? text with
      | none => simp [Except.map]
      | some x => simp [Except.map]

/-- A variable is taken as a whole number where its text can be read as one, and has its default
where there is none. -/
theorem wholeVariable_eq_ok_iff {text : Option String} {otherwise value : Int} :
    wholeVariable text otherwise = .ok value ↔
      Given Number.wholeNumber? otherwise text value := by
  cases text with
  | none => simp [wholeVariable, Given, eq_comm]
  | some text =>
    rw [wholeVariable, Given]
    cases Number.wholeNumber? text with
    | none => cases Number.excessDigits? text <;> simp
    | some n => simp

/-- The environment is accepted when its variables can be read and write settings in range. -/
theorem ofEnvironment_eq_ok_iff {env : Environment} {s : Settings} :
    ofEnvironment env = .ok s ↔ s.WrittenIn env ∧ s.InRange := by
  unfold ofEnvironment
  simp only [bind_eq_ok_iff, realVariable_eq_ok_iff, timeoutVariable_eq_ok_iff,
    wholeVariable_eq_ok_iff, checked_eq_ok_iff]
  constructor
  · rintro ⟨threshold, h1, timeout, h2, analyses, h3, bytes, h4, rfl, hrange⟩
    exact ⟨⟨h1, h2, h3, h4⟩, hrange⟩
  · rintro ⟨⟨h1, h2, h3, h4⟩, hrange⟩
    exact ⟨s.threshold, h1, s.timeout, h2, s.maxAnalyses, h3, s.maxUploadBytes, h4, rfl, hrange⟩

/-! ## What is asked for -/

/-- The settings with the numbers that a command asks for in place of some. -/
def replaced (s : Settings) (threshold timeout : Option Float) : Settings :=
  { s with
    threshold := (threshold.map Amount.real).getD s.threshold
    timeout := (timeout.map Amount.real).or s.timeout }

/-- Settings are accepted for a request where, with its threshold and its time limit in them, they
lie in their ranges. -/
theorem override_eq_ok_iff {s accepted : Settings} {threshold timeout : Option Float} :
    s.override threshold timeout = .ok accepted ↔
      accepted = s.replaced threshold timeout ∧ accepted.InRange := by
  rw [override, checked_eq_ok_iff]
  constructor
  · rintro ⟨rfl, hrange⟩
    exact ⟨rfl, hrange⟩
  · rintro ⟨rfl, hrange⟩
    exact ⟨rfl, hrange⟩

/-- The settings that a request asks for with its threshold, of which an empty one counts as none.
-/
def AskedFor (s : Settings) : Option String → Settings → Prop
  | none, asked => asked = s
  | some text, asked =>
    if text = "" then asked = s
    else ∃ x, Number.realNumber? text = some x ∧ asked = { s with threshold := .real x }

/-- Of settings in range a request is given those that it asks for, if they are in range. -/
theorem forRequest_eq_ok_iff {s accepted : Settings} (hs : s.InRange) {threshold : Option String} :
    s.forRequest threshold = .ok accepted ↔ s.AskedFor threshold accepted ∧ accepted.InRange := by
  -- Without a threshold nothing is checked, and what is given are the settings in range.
  have hsame : (.ok s : Except SettingsError Settings) = .ok accepted ↔
      accepted = s ∧ accepted.InRange := by
    rw [Except.ok.injEq, eq_comm]
    constructor
    · rintro rfl
      exact ⟨rfl, hs⟩
    · exact And.left
  cases threshold with
  | none => exact hsame
  | some text =>
    rw [forRequest, AskedFor]
    by_cases hempty : text = ""
    · simpa [hempty] using hsame
    · simp only [beq_iff_eq, hempty, if_false]
      cases Number.realNumber? text with
      | none => simp
      | some x =>
        rw [checked_eq_ok_iff]
        simp only [Option.some.injEq, exists_eq_left']
        constructor
        · rintro ⟨rfl, hrange⟩
          exact ⟨rfl, hrange⟩
        · rintro ⟨rfl, hrange⟩
          exact ⟨rfl, hrange⟩

/-! ## All ways to settings -/

/-- The settings that are accepted from an environment, from the words of a command in it and from a
request to a service that was opened with them: those that are written or asked for, if they are in
range. -/
theorem accepted_iff (env : Environment) :
    (∀ s, ofEnvironment env = .ok s ↔ s.WrittenIn env ∧ s.InRange) ∧
    (∀ (around : CommandLine.Surroundings) (a : CommandLine.Arguments) (s : Settings),
      around.environment = env →
        (CommandLine.settingsFor around a = .ok s ↔
          ∃ general : Settings, general.WrittenIn env ∧ general.InRange ∧
            s = general.replaced a.threshold a.timeout ∧ s.InRange)) ∧
    (∀ (general : Settings) (threshold : Option String) (s : Settings),
      ofEnvironment env = .ok general →
        (general.forRequest threshold = .ok s ↔
          general.AskedFor threshold s ∧ s.InRange)) := by
  refine ⟨fun s => ofEnvironment_eq_ok_iff, ?_, ?_⟩
  · rintro around a s rfl
    rw [CommandLine.settingsFor, bind_eq_ok_iff]
    simp only [ofEnvironment_eq_ok_iff, override_eq_ok_iff, and_assoc]
  · intro general threshold s hgeneral
    exact forRequest_eq_ok_iff (ofEnvironment_eq_ok_iff.1 hgeneral).2

/-- The three ways in an environment that names a number of slots in digits of another script: a
command that asks for a time limit without end, and a request with a threshold of its own. -/
theorem accepted_iff_digits :
    let env := [("GRADER_MAX_CONCURRENT_ANALYSES", " ٣ ")]
    let general := { default with maxAnalyses := 3 }
    let around : CommandLine.Surroundings := ⟨⟨.empty, []⟩, env, fun _ => 0, [], toString, {}, []⟩
    let words : CommandLine.Arguments :=
      ⟨"s.zip", "r.zip", none, some (1.0 / 0.0), none, none⟩
    (ofEnvironment env = .ok general ∧ general.InRange) ∧
      (∃ s, CommandLine.settingsFor around words = .ok s ∧ s.InRange) ∧
      ∃ s, general.forRequest (some "1_0e-1") = .ok s ∧ s.InRange := by
  intro env general around words
  obtain ⟨henv, hcommand, hrequest⟩ := accepted_iff env
  have hgeneral : ofEnvironment env = .ok general := rfl
  have hwords : CommandLine.settingsFor around words =
      .ok (general.replaced none (some (1.0 / 0.0))) := rfl
  have hrequested : general.forRequest (some "1_0e-1") = .ok { general with threshold := .real 1 } :=
    rfl
  obtain ⟨-, -, -, -, hlimit⟩ := (hcommand around words _ rfl).1 hwords
  exact ⟨⟨hgeneral, ((henv general).1 hgeneral).2⟩, ⟨_, hwords, hlimit⟩,
    _, hrequested, ((hrequest general _ _ hgeneral).1 hrequested).2⟩

/-- The text for the double that is no number is accepted as a time limit, which is then not above
zero; as a threshold it is refused. -/
theorem accepted_timeout_isNaN :
    ∃ s, ofEnvironment [("GRADER_ANALYSIS_TIMEOUT", "nan")] = .ok s ∧
      (∃ t ∈ s.timeout, ¬ t.Positive) ∧
      ∀ r, ofEnvironment [("GRADER_SIMILARITY_THRESHOLD", "nan")] ≠ .ok r := by
  have haccepted : ofEnvironment [("GRADER_ANALYSIS_TIMEOUT", "nan")] =
      .ok { default with timeout := some (.real (0.0 / 0.0)) } := rfl
  have hrefused : ofEnvironment [("GRADER_SIMILARITY_THRESHOLD", "nan")] =
      .error (.thresholdOutOfRange (.real (0.0 / 0.0))) := rfl
  refine ⟨_, haccepted, ⟨_, rfl, ?_⟩, ?_⟩
  · show ¬ (0.0 : Float) < 0.0 / 0.0
    decide
  · intro r hr
    rw [hrefused] at hr
    cases hr

end Settings

end StructureGrader
