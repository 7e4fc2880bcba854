import StructureGrader.Number.Reading

/-!
# The words of a command

The words are read in two passes. The first one says of each word what it is (`Mark`), by its own
spelling alone: an option, possibly cut short, the separator after which there are no options, or a
value. The second one (`Draft.take`) goes through the words in order, gives values to the options
that need one, and takes the other values as submissions.
-/

namespace StructureGrader.CommandLine

/-- What an option asks for. -/
inductive Choice
  | help
  | threshold
  | timeout
  | json
  | html
  | verbose
deriving DecidableEq, Repr

/-- Whether an option is followed by a value. -/
def Choice.takesValue : Choice → Bool
  | .help | .verbose => false
  | .threshold | .timeout | .json | .html => true

/-- The options by their spellings. -/
def spellings : List (String × Choice) :=
  [("-h", .help), ("--help", .help), ("--threshold", .threshold), ("--timeout", .timeout),
    ("--json", .json), ("--html", .html), ("-v", .verbose), ("--verbose", .verbose)]

/-- The option with a spelling. -/
def choice? (spelling : String) : Option Choice :=
  (spellings.find? fun s => s.1 == spelling).map Prod.snd

/-- Why a command cannot be carried out as it is written. -/
inductive UsageError
  /-- An option is cut so short that it could be several. -/
  | ambiguous (word : String)
  | valueMissing (spelling : String)
  /-- A value is attached to an option that takes none. -/
  | valueNotWanted (spelling : String)
  | notNumber (value : String)
  | submissionMissing
  | tooManyWords
deriving DecidableEq, Repr

/-- The wording of a fault of usage. -/
def UsageError.message : UsageError → String
  | .ambiguous word => "ambiguous option: " ++ word
  | .valueMissing spelling => "expected a value after " ++ spelling
  | .valueNotWanted spelling => "no value goes with " ++ spelling
  | .notNumber value => "not a number: " ++ value
  | .submissionMissing => "a submission and a reference are required"
  | .tooManyWords => "words that mean nothing here"

/-! ## What a word is -/

/-- What a word is by its spelling. -/
inductive Mark
  | value
  /-- The separator after which there are no options. -/
  | separator
  /-- An option and the value that an equals sign attaches to it. -/
  | option (choice : Choice) (spelling : String) (attached : Option String)
  /-- An option of one letter and the letters that follow it behind the same dash. -/
  | letters (first : Choice) (spelling : String) (more : List Char)
  /-- An option that there is not. -/
  | unknown
deriving DecidableEq, Repr

/-- The parts of a word before and after its first equals sign. -/
def splitAtEquals? (word : String) : Option (String × String) :=
  let cs := word.toList
  match cs.dropWhile (· != '=') with
  | [] => none
  | _ :: attached => some (String.ofList (cs.takeWhile (· != '=')), String.ofList attached)

/-- The spellings that start with a text. -/
def spellingsFrom (start : String) : List (String × Choice) :=
  spellings.filter fun s => start.toList.isPrefixOf s.1.toList

/-- What a word is, by each of the options that it could be short for. -/
def candidates (word : String) : List Mark :=
  match word.toList with
  | '-' :: '-' :: _ =>
    match splitAtEquals? word with
    | some (start, attached) =>
      (spellingsFrom start).map fun (s, c) => .option c s (some attached)
    | none => (spellingsFrom word).map fun (s, c) => .option c s none
  | dash :: letter :: more =>
    let spelling := String.ofList [dash, letter]
    ((choice? spelling).map fun c => .letters c spelling more).toList
  | _ => []

/-- Whether the characters after a dash write a number: digits, or digits after a point. -/
def isNumeral (cs : List Char) : Bool :=
  let digits (cs : List Char) : Bool := !cs.isEmpty && cs.all fun c => (Text.digitValue? c).isSome
  match cs.dropWhile fun c => (Text.digitValue? c).isSome with
  | [] => digits cs
  | '.' :: places => digits places
  | _ => false

/-- What a word is that spells an option in full. -/
def markInFull? (word : String) : Option Mark :=
  match choice? word with
  | some choice => some (.option choice word none)
  | none => do
    let (spelling, attached) ← splitAtEquals? word
    let choice ← choice? spelling
    some (.option choice spelling (some attached))

/-- What a word is, before any separator. -/
def markOf (word : String) : Except UsageError Mark :=
  match word.toList with
  | '-' :: c :: rest =>
    match markInFull? word with
    | some mark => .ok mark
    | none =>
      match candidates word with
      | [mark] => .ok mark
      | _ :: _ :: _ => .error (.ambiguous word)
      | [] =>
        if isNumeral (c :: rest) || (c :: rest).contains ' ' then .ok .value else .ok .unknown
  | _ => .ok .value

/-- The words with what they are. -/
def marked : List String → Except UsageError (List (String × Mark))
  | [] => .ok []
  | word :: words =>
    if word == "--" then .ok ((word, .separator) :: words.map fun w => (w, .value))
    else do
      let mark ← markOf word
      let rest ← marked words
      .ok ((word, mark) :: rest)

/-! ## What a command asks for -/

/-- What a command asks for. -/
structure Arguments where
  student : String
  reference : String
  threshold : Option Float
  timeout : Option Float
  /-- Where the report is written as JSON. -/
  json : Option String
  /-- Where the report is written as a web page. -/
  html : Option String
deriving Repr

/-- How a command ends before anything is done. -/
inductive EarlyEnd
  | help
  | usage (error : UsageError)
deriving DecidableEq, Repr

/-- What has been read of a command. -/
structure Draft where
  submissions : List String := []
  threshold : Option Float := none
  timeout : Option Float := none
  json : Option String := none
  html : Option String := none
  /-- Whether there was a word that means nothing. -/
  excess : Bool := false
  /-- Whether the last word was taken as a submission. -/
  afterSubmission : Bool := false

namespace Draft

/-- How many submissions a command names. -/
def wanted : Nat := 2

/-- The draft with an option set to a value. -/
def set (d : Draft) (choice : Choice) (value : String) : Except EarlyEnd Draft :=
  let number : Except EarlyEnd Float :=
    match Number.realNumber? value with
    | some x => .ok x
    | none => .error (.usage (.notNumber value))
  let d := { d with afterSubmission := false }
  match choice with
  | .threshold => number.map fun x => { d with threshold := some x }
  | .timeout => number.map fun x => { d with timeout := some x }
  | .json => .ok { d with json := some value }
  | .html => .ok { d with html := some value }
  | .help => .error .help
  | .verbose => .ok d

/-- The draft with a value taken as a submission. -/
def addValue (d : Draft) (value : String) : Draft :=
  if d.submissions.length < wanted then
    { d with submissions := d.submissions ++ [value], afterSubmission := true }
  else { d with excess := true, afterSubmission := false }

/-- The draft after the separator, which goes with the submission before or after it. -/
def addSeparator (d : Draft) : Draft :=
  if d.afterSubmission || d.submissions.length < wanted then { d with afterSubmission := false }
  else { d with excess := true }

/-- The draft after a word that means nothing. -/
def addExcess (d : Draft) : Draft :=
  { d with excess := true, afterSubmission := false }

/-- The options of one letter that letters behind one dash stand for, up to a letter that is none,
and whether there is such a letter. -/
def cluster (spelling : String) : List Char → Except EarlyEnd (List Choice × Bool)
  | [] => .ok ([], false)
  | letter :: more =>
    if letter == '=' || letter == '-' then .error (.usage (.valueNotWanted spelling))
    else
      match choice? (String.ofList ['-', letter]) with
      | some choice => (cluster spelling more).map fun (cs, cut) => (choice :: cs, cut)
      | none => .ok ([], true)

/-- The draft after letters behind one dash; what follows a letter that is no option means
nothing. -/
def addLetters (d : Draft) (first : Choice) (spelling : String) (more : List Char) :
    Except EarlyEnd Draft := do
  let (choices, cut) ← cluster spelling more
  let d ← (first :: choices).foldlM (fun d c => d.set c "") d
  .ok (if cut then d.addExcess else d)

/-- The draft after all words; `waiting` is the option that the next word is the value of. -/
def take (d : Draft) (waiting : Option (Choice × String)) :
    List (String × Mark) → Except EarlyEnd Draft
  | [] =>
    match waiting with
    | some (_, spelling) => .error (.usage (.valueMissing spelling))
    | none => .ok d
  | (word, mark) :: rest =>
    match waiting, mark with
    | some (choice, _), .value => do (← d.set choice word).take none rest
    | some (_, spelling), _ => .error (.usage (.valueMissing spelling))
    | none, .value => (d.addValue word).take none rest
    | none, .separator => d.addSeparator.take none rest
    | none, .unknown => d.addExcess.take none rest
    | none, .letters first spelling more => do
      (← d.addLetters first spelling more).take none rest
    | none, .option choice spelling attached =>
      match choice.takesValue, attached with
      | true, some value => do (← d.set choice value).take none rest
      | false, none => do (← d.set choice "").take none rest
      | true, none => { d with afterSubmission := false }.take (some (choice, spelling)) rest
      | false, some _ => .error (.usage (.valueNotWanted spelling))

/-- What a draft asks for. -/
def finish (d : Draft) : Except EarlyEnd Arguments :=
  match d.submissions with
  | [student, reference] =>
    if d.excess then .error (.usage .tooManyWords)
    else .ok ⟨student, reference, d.threshold, d.timeout, d.json, d.html⟩
  | _ => .error (.usage .submissionMissing)

end Draft

/-- What the words of a command ask for. -/
def argumentsOf (words : List String) : Except EarlyEnd Arguments :=
  match marked words with
  | .error e => .error (.usage e)
  | .ok ws => do (← Draft.take {} none ws).finish

end StructureGrader.CommandLine
