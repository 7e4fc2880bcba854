import StructureGrader.Syntax.Token
import StructureGrader.Text.Identifier

/-!
# Cutting a source text into tokens

`tokenize?` reads a source text from left to right; each step drops the trivia in front and takes
the longest token that starts there. It answers `none` where no token starts. The symbols that
begin with `>` are left single, because two closing angle brackets may stand together; the grammar
joins them where they mean one operator. Inside a template the lexer counts open braces, and the
brace that closes an embedded expression takes up the text again.
-/

namespace StructureGrader.Syntax

open StructureGrader.Text (isIdentifierStart isIdentifierPart)

/-! ## Trivia -/

/-- White space between tokens. -/
def isSpace (c : Char) : Bool :=
  c == ' ' || (9 ≤ c.toNat && c.toNat ≤ 13)

/-- The inside of a block comment up to and with its end, and what follows. -/
def blockComment? : List Char → Option (List Char × List Char)
  | '*' :: '/' :: cs => some (['*', '/'], cs)
  | c :: cs => (blockComment? cs).map fun r => (c :: r.1, r.2)
  | [] => none

/-- The trivia at the front of a text, and what follows; `fuel` bounds the number of pieces. -/
def leadOf : Nat → List Char → List Trivia × List Char
  | 0, cs => ([], cs)
  | fuel + 1, cs =>
    match cs with
    | '/' :: '/' :: rest =>
      let body := rest.takeWhile (· != '\n')
      let (more, rest) := leadOf fuel (rest.dropWhile (· != '\n'))
      (.comment (String.ofList ('/' :: '/' :: body)) :: more, rest)
    | '/' :: '*' :: rest =>
      match blockComment? rest with
      | some (body, rest) =>
        let (more, rest) := leadOf fuel rest
        (.comment (String.ofList ('/' :: '*' :: body)) :: more, rest)
      | none => ([], cs)
    | c :: _ =>
      if isSpace c then
        let (more, rest) := leadOf fuel (cs.dropWhile isSpace)
        (.blank (String.ofList (cs.takeWhile isSpace)) :: more, rest)
      else ([], cs)
    | [] => ([], [])

/-! ## Numbers -/

/-- The characters of the class at the front, with runs of underscores between two of them, and
what follows. -/
def digitsOf (p : Char → Bool) : List Char → List Char × List Char
  | [] => ([], [])
  | c :: cs =>
    if p c then
      let (more, rest) := digitsOf p cs
      (c :: more, rest)
    else if c == '_' then
      match digitsOf p cs with
      | ([], _) => ([], c :: cs)
      | (more, rest) => (c :: more, rest)
    else ([], c :: cs)

/-- Digits of the class, the first of which must be a digit; `none` when there is none. -/
def digits? (p : Char → Bool) (cs : List Char) : Option (List Char × List Char) :=
  match cs with
  | c :: _ => if p c then some (digitsOf p cs) else none
  | [] => none

/-- One character of the class, if it stands at the front. -/
def optionalOf (p : Char → Bool) : List Char → List Char × List Char
  | c :: cs => if p c then ([c], cs) else ([], c :: cs)
  | [] => ([], [])

def isHexDigit (c : Char) : Bool :=
  c.isDigit || ('a' ≤ c && c ≤ 'f') || ('A' ≤ c && c ≤ 'F')

def isOctalDigit (c : Char) : Bool := '0' ≤ c && c ≤ '7'

def isLongMark (c : Char) : Bool := c == 'l' || c == 'L'

def isFloatMark (c : Char) : Bool := c == 'f' || c == 'F' || c == 'd' || c == 'D'

/-- An exponent: one of the two marks, an optional sign and digits; empty when it is not
complete. -/
def exponentOf (mark : Char → Bool) (cs : List Char) : List Char × List Char :=
  match cs with
  | e :: rest =>
    if mark e then
      let (sign, rest) := optionalOf (fun c => c == '+' || c == '-') rest
      match digits? Char.isDigit rest with
      | some (ds, rest) => (e :: (sign ++ ds), rest)
      | none => ([], cs)
    else ([], cs)
  | [] => ([], [])

/-- What may follow the digits of a decimal number: a fraction, an exponent, a type mark. -/
def decimalTail (cs : List Char) : List Char × List Char :=
  let isExponentMark (c : Char) : Bool := c == 'e' || c == 'E'
  match cs with
  | '.' :: rest =>
    let (fraction, rest) := (digits? Char.isDigit rest).getD ([], rest)
    let (exponent, rest) := exponentOf isExponentMark rest
    let (mark, rest) := optionalOf isFloatMark rest
    ('.' :: (fraction ++ exponent ++ mark), rest)
  | _ =>
    let (exponent, rest) := exponentOf isExponentMark cs
    let (mark, rest) :=
      optionalOf (fun c => isFloatMark c || (exponent.isEmpty && isLongMark c)) rest
    (exponent ++ mark, rest)

/-- What may follow the digits of a hexadecimal number: a fraction with or without a binary
exponent, an exponent alone, or the mark of a long number. -/
def hexTail (cs : List Char) : List Char × List Char :=
  let isExponentMark (c : Char) : Bool := c == 'p' || c == 'P'
  match cs with
  | '.' :: rest =>
    let (fraction, rest) := (digits? isHexDigit rest).getD ([], rest)
    let (exponent, rest) := exponentOf isExponentMark rest
    let (mark, rest) :=
      if exponent.isEmpty then ([], rest) else optionalOf isFloatMark rest
    ('.' :: (fraction ++ exponent ++ mark), rest)
  | _ =>
    match exponentOf isExponentMark cs with
    | ([], rest) => optionalOf isLongMark rest
    | (exponent, rest) =>
      let (mark, rest) := optionalOf isFloatMark rest
      (exponent ++ mark, rest)

/-- Digits of the class and what may follow them. -/
def wholeNumber? (p : Char → Bool) (tail : List Char → List Char × List Char) (cs : List Char) :
    Option (List Char × List Char) :=
  (digits? p cs).map fun (ds, rest) =>
    let (end_, rest) := tail rest
    (ds ++ end_, rest)

/-- A number that starts with a point: a digit of the class stands behind it. -/
def pointNumber? (p : Char → Bool) (tail : List Char → List Char × List Char) (cs : List Char) :
    Option (List Char × List Char) :=
  match cs with
  | '.' :: d :: _ => if p d then some (tail cs) else none
  | _ => none

/-- A number whose whole part may be left out. -/
def realNumber? (p : Char → Bool) (tail : List Char → List Char × List Char) (cs : List Char) :
    Option (List Char × List Char) :=
  (wholeNumber? p tail cs).or (pointNumber? p tail cs)

/-- What stands behind a zero and a base mark. -/
def afterBaseMark? (mark : Char) : List Char → Option (List Char × List Char) :=
  if mark == 'x' || mark == 'X' then realNumber? isHexDigit hexTail
  else if mark == 'b' || mark == 'B' then
    wholeNumber? (fun c => c == '0' || c == '1') (optionalOf isLongMark)
  else if mark == 'o' || mark == 'O' then wholeNumber? isOctalDigit (optionalOf isLongMark)
  else fun _ => none

/-- A number with a base mark behind its zero. -/
def basedNumber? (cs : List Char) : Option (List Char × List Char) :=
  match cs with
  | '0' :: mark :: rest =>
    (afterBaseMark? mark rest).map fun (t, rest) => ('0' :: mark :: t, rest)
  | _ => none

/-- A number at the front of a text, and what follows. -/
def number? (cs : List Char) : Option (List Char × List Char) :=
  (basedNumber? cs).or (realNumber? Char.isDigit decimalTail cs)

/-! ## Literals in quotes -/

/-- The inside of a character literal with its closing quote, and what follows. -/
def characterTail? : List Char → Option (List Char × List Char)
  | '\\' :: c :: cs => (characterTail? cs).map fun r => ('\\' :: c :: r.1, r.2)
  | '\'' :: cs => some (['\''], cs)
  | c :: cs =>
    if c == '\n' || c == '\\' then none
    else (characterTail? cs).map fun r => (c :: r.1, r.2)
  | [] => none

/-- A character literal: at least one character between quotes. -/
def character? : List Char → Option (List Char × List Char)
  | '\'' :: c :: cs =>
    if c == '\'' then none
    else (characterTail? (c :: cs)).map fun r => ('\'' :: r.1, r.2)
  | _ => none

/-- How a piece of text between quotes ends. -/
inductive TextEnd
  /-- At the closing quotes. -/
  | closed
  /-- At the start of an embedded expression. -/
  | embedded
deriving DecidableEq, Repr

/-- Whether an escape may go on this way after its backslash: `\x` needs two hexadecimal digits and
`\u` four, or any number in braces; every other character may be escaped. -/
def escapeFits (cs : List Char) : Bool :=
  match cs with
  | 'x' :: rest => 2 ≤ (rest.takeWhile isHexDigit).length
  | 'u' :: '\x7b' :: rest =>
    0 < (rest.takeWhile isHexDigit).length &&
      (rest.dropWhile isHexDigit).head? == some '\x7d'
  | 'u' :: rest => 4 ≤ (rest.takeWhile isHexDigit).length
  | [] => false
  | _ => true

/-- The text up to the closing quotes or the next embedded expression, with its end, and what
follows; `block` says that three quotes close it. -/
def textTail? (block : Bool) : List Char → Option (List Char × TextEnd × List Char)
  | '\\' :: '\x7b' :: cs => some (['\\', '\x7b'], .embedded, cs)
  | '\\' :: c :: cs =>
    if escapeFits (c :: cs) then
      (textTail? block cs).map fun r => ('\\' :: c :: r.1, r.2)
    else none
  | '"' :: cs =>
    if block then
      match cs with
      | '"' :: '"' :: rest => some (['"', '"', '"'], .closed, rest)
      | _ => (textTail? block cs).map fun r => ('"' :: r.1, r.2)
    else some (['"'], .closed, cs)
  | c :: cs => if c == '\\' then none else (textTail? block cs).map fun r => (c :: r.1, r.2)
  | [] => none

/-! ## Symbols -/

/-- The symbols of more than one character, longer ones before their beginnings. -/
def longSymbols : List String :=
  ["@interface", "...", "<<=", "->", "::", "++", "--", "&&", "||", "==", "!=", "<=", "+=", "-=",
    "*=", "/=", "&=", "|=", "^=", "%=", "<<"]

/-- The symbols of one character. -/
def shortSymbols : List Char :=
  "()\x7b\x7d[];,.@=<>!~?:+-*/&|^%".toList

/-- The longest symbol at the front of a text, and what follows. -/
def symbol? (cs : List Char) : Option (List Char × List Char) :=
  match longSymbols.find? (fun s => s.toList.isPrefixOf cs) with
  | some s => some (s.toList, cs.drop s.length)
  | none =>
    match cs with
    | c :: rest => if shortSymbols.contains c then some ([c], rest) else none
    | [] => none

/-! ## Tokens -/

/-- The embedded expressions the lexer is inside of: for each, whether its template is a text
block, and how many braces are open in it. -/
abbrev Embedding := List (Bool × Nat)

/-- A token without its lead, the embedding after it, and what follows. -/
structure Step where
  tokenClass : TokenClass
  text : List Char
  embedding : Embedding
  rest : List Char

/-- The class of a token, and the embedding after it. -/
abbrev Role := TokenClass × Embedding

/-- What a piece of text is that starts with quotes, by how it ends. -/
def roleOfLiteral (block : Bool) (emb : Embedding) : TextEnd → Role
  | .closed => (.text, emb)
  | .embedded => (.templateOpen, (block, 0) :: emb)

/-- What a piece of text is that goes on behind an embedded expression, by how it ends. -/
def roleOfPiece (block : Bool) (outer : Embedding) : TextEnd → Role
  | .closed => (.templateClose, outer)
  | .embedded => (.templateMiddle, (block, 0) :: outer)

/-- A piece of text behind what starts it, `front`. -/
def textStep? (block : Bool) (front : List Char) (role : TextEnd → Role) (cs : List Char) :
    Option Step :=
  (textTail? block cs).map fun (body, ending, rest) =>
    ⟨(role ending).1, front ++ body, (role ending).2, rest⟩

/-- The embedding after a symbol: an opening brace is counted, a closing one taken back. -/
def embeddingAfter (symbol : List Char) (emb : Embedding) : Embedding :=
  match symbol, emb with
  | ['\x7b'], (block, n) :: outer => (block, n + 1) :: outer
  | ['\x7d'], (block, n) :: outer => (block, n - 1) :: outer
  | _, _ => emb

/-- The longest word, number or symbol at the front of a text. -/
def codeStep? (emb : Embedding) (cs : List Char) : Option Step :=
  match cs with
  | c :: rest =>
    if isIdentifierStart c then
      some ⟨.word, c :: rest.takeWhile isIdentifierPart, emb, rest.dropWhile isIdentifierPart⟩
    else
      match number? cs with
      | some (t, rest) => some ⟨.number, t, emb, rest⟩
      | none => (symbol? cs).map fun (t, rest) => ⟨.symbol, t, embeddingAfter t emb, rest⟩
  | [] => none

/-- The longest token at the front of a text that starts with no trivia. A comment that is not
closed starts no token. -/
def step? (emb : Embedding) (cs : List Char) : Option Step :=
  match cs, emb with
  | '\x7d' :: rest, (block, 0) :: outer => textStep? block ['\x7d'] (roleOfPiece block outer) rest
  | '"' :: '"' :: '"' :: rest, _ => textStep? true ['"', '"', '"'] (roleOfLiteral true emb) rest
  | '"' :: rest, _ => textStep? false ['"'] (roleOfLiteral false emb) rest
  | '\'' :: _, _ => (character? cs).map fun (t, rest) => ⟨.character, t, emb, rest⟩
  | '/' :: '*' :: _, _ => none
  | _, _ => codeStep? emb cs

/-- The tokens of a text, with the trivia after the last one. -/
structure Tokens where
  tokens : List Token
  tail : List Trivia
deriving DecidableEq, Repr

/-- Reads tokens until the text ends; `fuel` bounds their number, and `done` holds the tokens read
so far in reverse order. -/
def tokensFrom : Nat → Embedding → List Token → List Char → Option Tokens
  | 0, _, _, _ => none
  | fuel + 1, emb, done, cs =>
    let (lead, cs) := leadOf (fuel + 1) cs
    match cs with
    | [] => some ⟨done.reverse, lead⟩
    | _ =>
      match step? emb cs with
      | some s =>
        let token : Token := ⟨lead, s.tokenClass, String.ofList s.text⟩
        tokensFrom fuel s.embedding (token :: done) s.rest
      | none => none

/-- The character that ends texts for the system; no token and no comment may hold it. -/
def nul : Char := Char.ofNat 0

/-- The byte order mark in front of a text as a piece of trivia, if there is one, and what follows.
-/
def byteOrderMark (cs : List Char) : List Trivia × List Char :=
  match cs with
  | c :: rest => if c.toNat == 0xFEFF then ([.blank (String.singleton c)], rest) else ([], cs)
  | [] => ([], [])

/-- Tokens with more trivia in front. -/
def Tokens.behind (front : List Trivia) (ts : Tokens) : Tokens :=
  match ts.tokens with
  | t :: more => ⟨{ t with lead := front ++ t.lead } :: more, ts.tail⟩
  | [] => ⟨[], front ++ ts.tail⟩

/-- The tokens of a source text, or `none` where some character starts no token. A byte order mark
in front counts as a blank. -/
def tokenize? (source : String) : Option Tokens :=
  let (mark, cs) := byteOrderMark source.toList
  if cs.contains nul then none
  else (tokensFrom (cs.length + 1) [] [] cs).map (Tokens.behind mark)

end StructureGrader.Syntax
