import StructureGrader.Files.Path
import StructureGrader.Json.Value
import StructureGrader.Json.Reader
import StructureGrader.Text.Encoding

/-!
# Requests and responses

What the service is asked and what it answers. A request is sorted by its path alone (`routeOf`);
a path is unescaped before its components are looked at, so an escaped slash separates components
like any other.
-/

namespace StructureGrader.Service

/-- A file that is sent. -/
structure Upload where
  fileName : String
  bytes : ByteArray

/-- What is sent to be compared. -/
structure Form where
  uploads : List (String × Upload)
  values : List (String × String)
  /-- The length of the whole request in bytes. -/
  size : Nat

/-- An answer: its status, and its value unless it is not JSON. -/
structure Response where
  status : Nat
  body : Option Json
deriving Repr

/-- An answer that is an error text. -/
def Response.error (status : Nat) (message : String) : Response :=
  ⟨status, some (.object [("error", .text message)])⟩

/-- The answer where there is nothing. -/
def Response.nothing : Response := ⟨404, none⟩

/-- The file that is sent under a name. -/
def Form.upload? (f : Form) (name : String) : Option Upload :=
  (f.uploads.find? fun u => u.1 == name).map Prod.snd

/-- The value that is sent under a name. -/
def Form.value? (f : Form) (name : String) : Option String :=
  (f.values.find? fun v => v.1 == name).map Prod.snd

/-! ## Paths -/

/-- What a request is for. -/
inductive Route
  | health
  | compare
  | report (id : String)
  | unknown
deriving DecidableEq, Repr

/-- The bytes of a path with its escapes undone. -/
def unescaped : List Char → List UInt8
  | [] => []
  | '%' :: a :: b :: cs =>
    match Json.hexValue? a, Json.hexValue? b with
    | some x, some y => UInt8.ofNat (16 * x + y) :: unescaped cs
    | _, _ => 37 :: unescaped (a :: b :: cs)
  | c :: cs => (String.singleton c).toUTF8.toList ++ unescaped cs

/-- What a request with this path is for. -/
def routeOf (path : String) : Route :=
  let front := path.toList.takeWhile fun c => c != '?' && c != '#'
  match Path.pieces (Text.ofBytes ⟨(unescaped front).toArray⟩) with
  | ["", "health"] => .health
  | ["", "compare"] => .compare
  | ["", "download", "report", id] => if id == "" then .unknown else .report id
  | _ => .unknown

end StructureGrader.Service
