import StructureGrader.CommandLine.Command

/-!
# The program

Reads what a command needs from the disk, carries the command out, and writes what it leaves. All
decisions are made in `CommandLine.perform`.
-/

namespace StructureGrader.CommandLine

/-! ## Reading the disk -/

/-- The entry at a path, with everything in it when `deep`. There is none where nothing can be
read. -/
partial def loadEntry (deep : Bool) (path : String) : IO (Option Entry) := do
  try
    let place ← IO.FS.realPath path
    if ← place.isDir then
      let mut entries : List (String × Entry) := []
      if deep then
        for e in ← place.readDir do
          match ← loadEntry true (path ++ "/" ++ e.fileName) with
          | some entry => entries := (e.fileName, entry) :: entries
          | none => pure ()
      return some (.folder entries.reverse)
    else if deep then return some (.file (← IO.FS.readBinFile path))
    else return some (.file ByteArray.empty)
  catch _ => return none

/-- The disk with an entry at the place of a path. -/
def withEntry (d : Disk) (p : Path) (entry : Entry) : Disk :=
  match Entry.put (fun _ => .ok entry) (d.placeOf p) d.root with
  | .ok root => { d with root := root }
  | .error _ => d

/-- The disk with what a path needs: the folders on its way, and the entry that it leads to. -/
def loadPath (deep : Bool) (d : Disk) (text : String) : IO Disk := do
  let p := Path.ofText text
  let mut d := d
  for n in List.range p.parts.length do
    let front : Path := { p with parts := p.parts.take n }
    if (d.find front).isOk then continue
    match ← loadEntry false front.text with
    | some entry => d := withEntry d front entry
    | none => pure ()
  match ← loadEntry deep p.text with
  | some entry => return withEntry d p entry
  | none => return d

/-- The variables that settings are read from. -/
def settingNames : List String :=
  ["GRADER_SIMILARITY_THRESHOLD", "GRADER_ANALYSIS_TIMEOUT", "GRADER_MAX_CONCURRENT_ANALYSES",
    "GRADER_MAX_UPLOAD_BYTES"]

/-- The environment as far as settings are read from it. -/
def loadEnvironment : IO Settings.Environment :=
  settingNames.filterMapM fun name => do
    return (← IO.getEnv name).map fun value => (name, value)

/-! ## The clock -/

/-- The time in seconds. -/
def now : IO Float := do
  return (← IO.monoNanosNow).toFloat * 1e-9

/-- The readings of the clock at the start of a comparison and before each of its passes. -/
def readings (p : Plan) : IO (List Float) := do
  let start ← now
  let session : Session Float := .fresh (p.students ++ p.references).toArray
  let matcher := session.matcher p.settings.threshold.toFloat
  let places := List.range (p.students.length + p.references.length)
  let (students, references) :=
    (places.take p.students.length, places.drop p.students.length)
  let mut all := [start]
  for kind in ElementKind.all do
    all := all ++ [← now]
    let _ ← IO.lazyPure fun _ => (matcher.runKind students references kind).pairings.length
  return all

/-! ## Carrying out -/

/-- Writes a report to the disk when the command has written one. -/
def saveReport (before after : Disk) (path : Option String) : IO Unit := do
  match path with
  | none => pure ()
  | some path =>
    let p := Path.ofText path
    match before.bytesAt p, after.bytesAt p with
    | .ok old, .ok new => if old.data != new.data then IO.FS.writeBinFile p.text new
    | .error _, .ok new => IO.FS.writeBinFile p.text new
    | _, .error _ => pure ()

/-- Everything that a command finds around it. -/
def loadSurroundings (a : Arguments) : IO Surroundings := do
  let home := (Path.ofText (← IO.currentDir).toString).parts
  let mut d : Disk := withEntry ⟨.empty, home⟩ ⟨"", []⟩ .empty
  for report in [a.json, a.html] do
    match report with
    | some path => d ← loadPath false d path
    | none => pure ()
  for source in [a.student, a.reference] do
    d ← loadPath true d source
  let around : Surroundings :=
    { files := d, environment := ← loadEnvironment, clock := fun _ => 0.0 }
  match ((plan around a).run (.start around)).1 with
  | .error _ => return around
  | .ok p =>
    let times ← readings p
    return { around with clock := fun n => times.getD n 0.0 }

/-- Carries out a command with these words. -/
def main (words : List String) : IO UInt32 := do
  let empty : Surroundings :=
    { files := ⟨.empty, []⟩, environment := [], clock := fun _ => 0.0 }
  let around ←
    match argumentsOf words with
    | .ok a => loadSurroundings a
    | .error _ => pure empty
  let result := perform around words
  match argumentsOf words with
  | .ok a =>
    for report in [a.json, a.html] do
      saveReport around.files result.files report
  | .error _ => pure ()
  IO.print result.ending.output
  IO.eprint result.ending.errorText
  return UInt32.ofNat result.ending.exitCode

end StructureGrader.CommandLine

/-- The program. -/
def main (words : List String) : IO UInt32 :=
  StructureGrader.CommandLine.main words
