/-!
# Tokens

A source text is cut into tokens without loss: every token keeps the blanks and comments that stand
before it (its `lead`), so that the text of a list of tokens, `textOf`, is the source again up to
the trivia at its end. What a token *is* for the grammar is its kind and its own text only; the
lead matters in one place, where the grammar asks that two symbols touch (`isGlued`).
-/

namespace StructureGrader.Syntax

/-- What stands between two tokens. -/
inductive Trivia
  /-- A run of white space. -/
  | blank (text : String)
  /-- A comment with its delimiters. -/
  | comment (text : String)
deriving DecidableEq, Repr

/-- The text of one piece of trivia. -/
def Trivia.text : Trivia → String
  | .blank s => s
  | .comment s => s

/-- The text of a comment, or nothing for white space. -/
def Trivia.comment? : Trivia → Option String
  | .blank _ => none
  | .comment s => some s

/-- The classes of tokens. -/
inductive TokenClass
  /-- An identifier or a keyword: which of the two depends on the place. -/
  | word
  /-- A number. -/
  | number
  /-- A character literal. -/
  | character
  /-- A string literal or text block without an embedded expression. -/
  | text
  /-- The part of a template before its first embedded expression. -/
  | templateOpen
  /-- The part of a template between two embedded expressions. -/
  | templateMiddle
  /-- The part of a template after its last embedded expression. -/
  | templateClose
  /-- An operator or a delimiter. -/
  | symbol
deriving DecidableEq, Repr

/-- A token with the trivia before it. -/
structure Token where
  /-- The blanks and comments before the token. -/
  lead : List Trivia
  /-- The class of the token. -/
  tokenClass : TokenClass
  /-- The characters of the token itself. -/
  text : String
deriving DecidableEq, Repr

/-- Whether the token follows the one before without anything in between. -/
def Token.isGlued (t : Token) : Bool :=
  t.lead.isEmpty

/-- The text of the trivia in order. -/
def leadText (lead : List Trivia) : String :=
  String.join (lead.map Trivia.text)

/-- The token's text with the trivia before it. -/
def Token.fullText (t : Token) : String :=
  leadText t.lead ++ t.text

/-- The text of a list of tokens, trivia included. -/
def textOf (ts : List Token) : String :=
  String.join (ts.map Token.fullText)

/-- The comments before the token, in order. -/
def Token.comments (t : Token) : List String :=
  t.lead.filterMap Trivia.comment?

end StructureGrader.Syntax
