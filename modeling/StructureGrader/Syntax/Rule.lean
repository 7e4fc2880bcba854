import StructureGrader.Syntax.Tree

/-!
# Grammar rules and how they read tokens

A grammar gives every phrase a rule; `Rule.run` reads a rule from the front of a list of tokens and
builds trees. A choice is ordered: the first alternative that fits is taken and not revisited. Left
recursion is written with `extend`, which takes the tree built last as the first child of the new
one, so that chains of calls, array types and operators lean to the left; an operator that binds
tighter than the one before it moves into that one's right side (`Tree.attach`). A rule looks at
nothing of a token but its class, its text and whether it touches the token before.
-/

namespace StructureGrader.Syntax

/-! ## Tests on one token -/

/-- A test that a token passes or fails. -/
inductive Shape
  /-- This operator or delimiter. -/
  | symbol (text : String)
  /-- This operator or delimiter, right after the token before. -/
  | gluedSymbol (text : String)
  /-- This word. -/
  | word (text : String)
  /-- This word, right after the token before. -/
  | gluedWord (text : String)
  /-- One of these operators or delimiters. -/
  | symbolIn (texts : List String)
  /-- One of these words. -/
  | wordIn (texts : List String)
  /-- Any word but these. -/
  | wordExcept (reserved : List String)
  /-- Any token of the class. -/
  | ofClass (tokenClass : TokenClass)

/-- Whether a token passes a test. -/
def Shape.accepts (t : Token) : Shape → Bool
  | .symbol s => t.tokenClass == .symbol && t.text == s
  | .gluedSymbol s => t.tokenClass == .symbol && t.text == s && t.isGlued
  | .word s => t.tokenClass == .word && t.text == s
  | .gluedWord s => t.tokenClass == .word && t.text == s && t.isGlued
  | .symbolIn ss => t.tokenClass == .symbol && ss.contains t.text
  | .wordIn ss => t.tokenClass == .word && ss.contains t.text
  | .wordExcept reserved => t.tokenClass == .word && !reserved.contains t.text
  | .ofClass c => t.tokenClass == c

/-! ## Binary operators -/

/-- How tightly a binary operator binds; all of them lean to the left. -/
def bindingPower (operator : String) : Nat :=
  match operator with
  | "||" => 4
  | "&&" => 5
  | "|" => 6
  | "^" => 7
  | "&" => 8
  | "==" | "!=" => 9
  | "<" | ">" | "<=" | ">=" | "instanceof" => 10
  | "<<" | ">>" | ">>>" => 11
  | "+" | "-" => 12
  | _ => 13

/-- The operator among the parts of an operation, which may be of several tokens. -/
def operatorOf (parts : List Tree) : String :=
  String.join ((parts.filter fun t => t.kind == .operator).map Tree.source)

mutual

/-- A tree as the left side of a construct of the kind: inside of its right operand when the tree
is an operation that binds less tightly than `power`, else around all of it. -/
def Tree.attach (kind : Kind) (power : Nat) (right : List Tree) : Tree → Tree
  | .leaf k t => .node kind (.leaf k t :: right)
  | .node k cs =>
    if k == .operation && bindingPower (operatorOf cs) < power then
      .node k (attachToLast kind power right cs)
    else .node kind (.node k cs :: right)

/-- `Tree.attach` on the last of a list of trees. -/
def attachToLast (kind : Kind) (power : Nat) (right : List Tree) : List Tree → List Tree
  | [] => []
  | [c] => [c.attach kind power right]
  | c :: d :: cs => c :: attachToLast kind power right (d :: cs)

end

/-! ## Rules -/

/-- What a phrase of a grammar is made of; `P` are the phrases' names. -/
inductive Rule (P : Type)
  /-- Nothing. -/
  | empty
  /-- One token that passes a test, as a leaf of this kind. -/
  | token (shape : Shape) (kind : Kind)
  /-- The one, then the other. -/
  | seq (first second : Rule P)
  /-- The one, or else the other. -/
  | alt (first second : Rule P)
  /-- As often as it fits. -/
  | many (rule : Rule P)
  /-- The rule of a phrase. -/
  | ref (phrase : P)
  /-- What the rule builds, as the children of one node. -/
  | node (kind : Kind) (rule : Rule P)
  /-- What the rule builds, as a node with the tree built last before it as its first child. -/
  | extend (kind : Kind) (rule : Rule P)
  /-- What the rule builds, an operator and its right side, attached to the tree built last as a
  construct of the kind. -/
  | operate (kind : Kind) (rule : Rule P)
  /-- Nothing, where the tree built last has one of these kinds. -/
  | lastIs (kinds : List Kind)

/-- The trees built so far, in reverse order, and the tokens not yet read. -/
structure Cursor where
  built : List Tree
  rest : List Token

/-- A reader of tokens; it answers `none` where its rule does not fit. -/
abbrev Reader := Cursor → Option Cursor

/-- Reads again and again until the reader does not fit; at most once for each element of `clock`,
for which the list of unread tokens is long enough. -/
def Reader.many (r : Reader) : List Token → Cursor → Cursor
  | [], c => c
  | _ :: clock, c =>
    match r c with
    | some d => Reader.many r clock d
    | none => c

namespace Rule

variable {P : Type}

/-- Reads a rule, given readers for the phrases. -/
def run (env : P → Reader) : Rule P → Reader
  | .empty => some
  | .token shape kind => fun c =>
    match c.rest with
    | t :: ts => if shape.accepts t then some ⟨.leaf kind t :: c.built, ts⟩ else none
    | [] => none
  | .seq first second => fun c =>
    match first.run env c with
    | some d => second.run env d
    | none => none
  | .alt first second => fun c =>
    match first.run env c with
    | some d => some d
    | none => second.run env c
  | .many rule => fun c => some (Reader.many (rule.run env) c.rest c)
  | .ref phrase => env phrase
  | .node kind rule => fun c =>
    match rule.run env ⟨[], c.rest⟩ with
    | some d => some ⟨.node kind d.built.reverse :: c.built, d.rest⟩
    | none => none
  | .extend kind rule => fun c =>
    match c.built with
    | last :: more =>
      match rule.run env ⟨[], c.rest⟩ with
      | some d => some ⟨.node kind (last :: d.built.reverse) :: more, d.rest⟩
      | none => none
    | [] => none
  | .operate kind rule => fun c =>
    match c.built with
    | last :: more =>
      match rule.run env ⟨[], c.rest⟩ with
      | some d =>
        let right := d.built.reverse
        some ⟨last.attach kind (bindingPower (operatorOf right)) right :: more, d.rest⟩
      | none => none
    | [] => none
  | .lastIs kinds => fun c =>
    match c.built with
    | last :: _ => if kinds.contains last.kind then some c else none
    | [] => none

/-- The rules one after the other. -/
def all : List (Rule P) → Rule P
  | [] => .empty
  | [r] => r
  | r :: rs => .seq r (all rs)

/-- The first of the rules that fits. -/
def anyOf : List (Rule P) → Rule P
  | [] => .empty
  | [r] => r
  | r :: rs => .alt r (anyOf rs)

/-- The rule, or nothing. -/
def opt (r : Rule P) : Rule P :=
  .alt r .empty

/-- The rule once or more. -/
def many1 (r : Rule P) : Rule P :=
  .seq r (.many r)

/-- The rule once or more, with a separator between. -/
def sepBy1 (r separator : Rule P) : Rule P :=
  .seq r (.many (.seq separator r))

/-- The rule any number of times, with a separator between. -/
def sepBy (r separator : Rule P) : Rule P :=
  (sepBy1 r separator).opt

end Rule

/-- A rule for every phrase. -/
abbrev Grammar (P : Type) := P → Rule P

/-- The reader of a phrase, for phrases nested in one another at most `limit` deep. -/
def Grammar.reader {P : Type} (g : Grammar P) : Nat → P → Reader
  | 0, _ => fun _ => none
  | limit + 1, p => (g p).run (g.reader limit)

end StructureGrader.Syntax
