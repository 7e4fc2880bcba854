import StructureGrader.Syntax.Token

/-!
# Syntax trees

A syntax tree keeps every token of the text it stands for: leaves are tokens, nodes are constructs
of the language. The text of a tree is the text of its leaves in order (`Tree.fullText`), and the
source of a construct is that text without the trivia before its first token (`Tree.source`).
So the constructs inside another one lie inside its text, in order, by the shape of the type. A
comment belongs to the smallest construct that has tokens on both sides of it; `Tree.parts` lists
a node's children with the comments between them.
-/

namespace StructureGrader.Syntax

/-- The constructs that the rest of the library tells apart; the others are grouped. -/
inductive Kind
  -- leaves
  | mark | operator | identifier | typeName | literal
  -- declarations
  | program | packageDeclaration | classDeclaration | interfaceDeclaration | fieldDeclaration
  | constantDeclaration | methodDeclaration | constructorDeclaration | declaration
  -- parts of declarations
  | modifiers | annotationUse | superclass | superInterfaces | extendsInterfaces | typeList
  | typeParameters | typeParameter | formalParameters | formalParameter | spreadParameter
  | variableDeclarator | dimensions | clause | body
  -- names and types
  | scopedName | primitiveType | scopedType | genericType | arrayType | annotatedType
  -- inside bodies
  | statement | expression | fieldAccess | elementAccess | operation
deriving DecidableEq, Repr

/-- A construct or a token. -/
inductive Tree
  /-- One token, with the role it plays. -/
  | leaf (kind : Kind) (token : Token)
  /-- A construct with its parts in order. -/
  | node (kind : Kind) (children : List Tree)
deriving Repr

namespace Tree

/-- The kind of a tree. -/
def kind : Tree → Kind
  | .leaf k _ => k
  | .node k _ => k

/-- The children of a node; a token has none. -/
def children : Tree → List Tree
  | .leaf _ _ => []
  | .node _ cs => cs

mutual

/-- The tokens of a tree in order. -/
def tokens : Tree → List Token
  | .leaf _ t => [t]
  | .node _ cs => tokensOfAll cs

/-- The tokens of a list of trees in order. -/
def tokensOfAll : List Tree → List Token
  | [] => []
  | c :: cs => c.tokens ++ tokensOfAll cs

end

mutual

/-- The number of constructs on the longest way down to a token, the token included. -/
def depth : Tree → Nat
  | .leaf _ _ => 1
  | .node _ cs => depthOfAll cs + 1

/-- The greatest depth in a list of trees. -/
def depthOfAll : List Tree → Nat
  | [] => 0
  | c :: cs => max c.depth (depthOfAll cs)

end

/-- The text of a tree with the trivia before its first token. -/
def fullText (t : Tree) : String :=
  textOf t.tokens

/-- The trivia before the first token. -/
def lead (t : Tree) : List Trivia :=
  (t.tokens.head?.map Token.lead).getD []

/-- The text of a construct, from its first token on. -/
def source (t : Tree) : String :=
  match t.tokens with
  | [] => ""
  | first :: rest => first.text ++ textOf rest

/-- The full text is the trivia in front and then the source. -/
theorem fullText_eq (t : Tree) : t.fullText = leadText t.lead ++ t.source := by
  unfold fullText lead source
  cases t.tokens with
  | nil => simp [textOf, leadText]
  | cons first rest => simp [textOf, Token.fullText, String.join_cons, String.append_assoc]

/-- The first child of one of the given kinds. -/
def child? (t : Tree) (p : Kind → Bool) : Option Tree :=
  t.children.find? fun c => p c.kind

/-- The children of one kind. -/
def childrenOfKind (t : Tree) (k : Kind) : List Tree :=
  t.children.filter fun c => c.kind == k

end Tree

/-- A part of a node as a reader of the text sees it: a child, or a comment between two. -/
inductive Part
  | comment (text : String)
  | child (tree : Tree)

namespace Part

/-- The text of a part. -/
def source : Part → String
  | .comment s => s
  | .child t => t.source

/-- The child's kind; a comment has none. -/
def kind? : Part → Option Kind
  | .comment _ => none
  | .child t => some t.kind

/-- Whether a part is more than a keyword or a delimiter: a comment is. -/
def isNamed (p : Part) : Bool :=
  p.kind? != some .mark

end Part

/-- The trees with the comments before each of them. -/
def partsAfter : List Tree → List Part
  | [] => []
  | c :: cs =>
    (c.lead.filterMap Trivia.comment?).map Part.comment ++ Part.child c :: partsAfter cs

/-- The children of a node with the comments between them: those before the first child belong
outside of the node. -/
def Tree.parts (t : Tree) : List Part :=
  match t.children with
  | [] => []
  | c :: cs => Part.child c :: partsAfter cs

/-- The children that are more than a keyword or a delimiter, comments included. -/
def Tree.namedParts (t : Tree) : List Part :=
  t.parts.filter Part.isNamed

end StructureGrader.Syntax
