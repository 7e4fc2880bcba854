import StructureGrader.Syntax.Lexer
import StructureGrader.Syntax.Rule

/-!
# The grammar of Java

The rules for compilation units, in the order in which alternatives are tried. Statements and
method declarations may stand at the top level, and modifiers may stand in any number and order. A
word is a keyword only where the grammar expects that keyword (`Place`), so that `int class;`
declares a variable. Only constructs that the library tells apart have kinds of their own; all
others are grouped, one node for each.
-/

namespace StructureGrader.Syntax

/-! ## Words -/

/-- The words that modify a declaration. -/
def modifierWords : List String :=
  ["public", "protected", "private", "abstract", "static", "final", "strictfp", "default",
    "synchronized", "native", "transient", "volatile", "sealed"]

/-- The names of the primitive types and of the empty one. -/
def primitiveWords : List String :=
  ["void", "byte", "short", "int", "long", "char", "float", "double", "boolean"]

/-- The words that start an operand or go on with one. -/
def operandWords : List String :=
  ["new", "this", "super", "true", "false", "null", "switch", "instanceof"] ++ primitiveWords

/-- The words that are keywords in a few places and names elsewhere. -/
def softWords : List String :=
  ["open", "module", "record", "with", "sealed", "yield"]

/-- The words that start a statement or a declaration, other than modifiers. -/
def statementWords : List String :=
  ["assert", "if", "while", "for", "do", "break", "continue", "return", "throw", "try", "class",
    "interface", "enum", "package", "import"]

/-- Where a name stands, which decides what words it may not be. -/
inductive Place
  /-- At the start of a statement. -/
  | statement
  /-- At the start of a member of a class, after its modifiers. -/
  | member
  /-- At the start of an operand. -/
  | operand
  /-- Where only a type may stand. -/
  | type
deriving DecidableEq, Repr

/-- The words that name no type in a place. -/
def Place.notTypes : Place → List String
  | .statement => statementWords ++ modifierWords ++ operandWords ++ softWords
  | .member => modifierWords ++ primitiveWords ++ ["class", "interface", "enum", "record"]
  | .operand => operandWords ++ softWords
  | .type => primitiveWords

/-- The words that name no variable and no method in a place. -/
def Place.notNames : Place → List String
  | .statement => statementWords ++ modifierWords.erase "sealed" ++ operandWords
  | .member => modifierWords ++ primitiveWords ++ ["class", "interface", "enum", "record"]
  | .operand => operandWords
  | .type => []

/-! ## Phrases -/

/-- The phrases that other rules refer to. -/
inductive Phrase
  | program | statement | block | methodDeclaration | classDeclaration | interfaceDeclaration
  | enumDeclaration | recordDeclaration | annotationDeclaration | otherDeclaration | classBody
  | modifiers | annotationUse | elementValue | typeParameters | formalParameters | dimensions
  | dottedName | typeArguments | arrayInitializer | arguments | creation | switchBlock
  | recordPattern | template
  /-- A type, with annotations or without. -/
  | type (place : Place)
  /-- A type without annotations in front. -/
  | bareType (place : Place)
  /-- A type without array dimensions. -/
  | simpleType (place : Place)
  /-- An expression; `lambda` says whether it may end in a lambda without parentheses. -/
  | expression (place : Place) (lambda : Bool)
  /-- What stands on either side of a binary operator. -/
  | operand (place : Place) (lambda : Bool)
  /-- An operand without operators. -/
  | primary (place : Place)
deriving DecidableEq, Repr

namespace Phrase

open Rule

/-- A rule of this grammar. -/
abbrev Form := Rule Phrase

/-! ### Small pieces -/

def mark (s : String) : Form := .token (.symbol s) .mark

def key (s : String) : Form := .token (.word s) .mark

def keyIn (ss : List String) : Form := .token (.wordIn ss) .mark

/-- A name that may be any word but these. -/
def nameExcept (reserved : List String) : Form := .token (.wordExcept reserved) .identifier

def anyName : Form := nameExcept []

def typeNameExcept (reserved : List String) : Form := .token (.wordExcept reserved) .typeName

def comma : Form := mark ","

def semicolon : Form := mark ";"

def annotations : Form := .many (.ref .annotationUse)

def someModifiers : Form := opt (.ref .modifiers)

/-- An expression where an operand may start. -/
def value : Form := .ref (.expression .operand true)

def parenthesized : Form := .node .expression (all [mark "(", value, mark ")"])

/-- The items between braces, with a comma between two and, if one likes, after the last. -/
def braced (item : Form) : Form :=
  all [mark "\x7b", sepBy item comma, opt comma, mark "\x7d"]

/-! ### Types -/

/-- A simple type: a primitive one, or names with type arguments, joined by points. -/
def simpleTypeForm (place : Place) : Form :=
  let typeArguments : Form := opt (.extend .genericType (.ref .typeArguments))
  anyOf [
    .node .primitiveType (keyIn primitiveWords),
    all [typeNameExcept place.notTypes, typeArguments,
      .many (all [
        .extend .scopedType (all [mark ".", annotations,
          typeNameExcept ["class", "new", "this", "super"]]),
        typeArguments])]]

/-- A simple type with array dimensions behind it, if there are any. -/
def bareTypeForm (place : Place) : Form :=
  all [.ref (.simpleType place), opt (.extend .arrayType (.ref .dimensions))]

/-- A type, with annotations or without. -/
def typeForm (place : Place) : Form :=
  anyOf [
    .node .annotatedType (all [many1 (.ref .annotationUse), .ref (.bareType place)]),
    .ref (.bareType place)]

def plainType : Form := .ref (.type .type)

/-- The arguments of a type: types and wildcards. -/
def typeArgumentsForm : Form :=
  let wildcard : Form := .node .expression (all [annotations, mark "?",
    opt (all [keyIn ["extends", "super"], plainType])])
  .node .clause (all [mark "<", sepBy (anyOf [wildcard, plainType]) comma, mark ">"])

def dimensionsForm : Form :=
  .node .dimensions (many1 (all [annotations, mark "[", mark "]"]))

def typeParametersForm : Form :=
  let bound : Form := .node .clause (all [key "extends", sepBy1 plainType (mark "&")])
  let parameter : Form := .node .typeParameter (all [annotations, typeNameExcept [], opt bound])
  .node .typeParameters (all [mark "<", sepBy1 parameter comma, mark ">"])

/-! ### Declarators and parameters -/

/-- A declared name that may be any word but these, with dimensions behind it or without. -/
def declared (reserved : List String) : Form :=
  all [nameExcept reserved, opt (.ref .dimensions)]

def declarator (reserved : List String) : Form :=
  .node .variableDeclarator (all [declared reserved,
    opt (all [mark "=", anyOf [value, .ref .arrayInitializer]])])

/-- Modifiers, a type and the declarators, up to the semicolon. -/
def variableDeclaration (kind : Kind) (place : Place) (reserved : List String) : Form :=
  .node kind (all [someModifiers, .ref (.bareType place),
    sepBy1 (declarator reserved) comma, semicolon])

def formalParametersForm : Form :=
  let bare : Form := .ref (.bareType .type)
  let receiver : Form := .node .clause (all [annotations, bare,
    .many (all [anyName, mark "."]), key "this"])
  let formal : Form := .node .formalParameter (all [someModifiers, bare, declared []])
  let spread : Form := .node .spreadParameter (all [someModifiers, bare, annotations,
    mark "...", annotations, declarator []])
  let parameters : Form := sepBy1 (anyOf [formal, spread]) comma
  .node .formalParameters (all [mark "(",
    anyOf [all [receiver, opt (all [comma, parameters])], opt parameters], mark ")"])

/-! ### Names, modifiers and annotations -/

def dottedNameForm : Form :=
  all [anyName, .many (.extend .scopedName (all [mark ".", anyName]))]

def modifiersForm : Form :=
  .node .modifiers (many1 (anyOf [
    .ref .annotationUse,
    keyIn modifierWords,
    all [key "non", .token (.gluedSymbol "-") .mark, .token (.gluedWord "sealed") .mark]]))

def annotationForm : Form :=
  let pair : Form := .node .clause (all [anyName, mark "=", .ref .elementValue])
  .node .annotationUse (all [mark "@", .ref .dottedName,
    opt (.node .clause (anyOf [
      all [mark "(", sepBy pair comma, mark ")"],
      all [mark "(", .ref .elementValue, mark ")"]]))])

def elementValueForm : Form :=
  anyOf [value, .node .expression (braced (.ref .elementValue)), .ref .annotationUse]

/-! ### Declarations -/

def typeList : Form := .node .typeList (sepBy1 plainType comma)

def superInterfaces : Form := opt (.node .superInterfaces (all [key "implements", typeList]))

def permitted : Form := opt (.node .clause (all [key "permits", typeList]))

def throwsClause : Form := opt (.node .clause (all [key "throws", sepBy1 plainType comma]))

def classDeclarationForm : Form :=
  .node .classDeclaration (all [someModifiers, key "class", anyName, opt (.ref .typeParameters),
    opt (.node .superclass (all [key "extends", plainType])), superInterfaces, permitted,
    .ref .classBody])

def methodDeclarationForm : Form :=
  .node .methodDeclaration (all [someModifiers,
    opt (all [.ref .typeParameters, annotations]), .ref (.bareType .member), anyName,
    .ref .formalParameters, opt (.ref .dimensions), throwsClause,
    anyOf [.ref .block, semicolon]])

/-- The declarations of types. -/
def typeDeclaration : Form :=
  anyOf [.ref .classDeclaration, .ref .interfaceDeclaration, .ref .enumDeclaration,
    .ref .recordDeclaration, .ref .annotationDeclaration]

/-- The call of another constructor, of this class or of the one above. -/
def constructorCall : Form :=
  .node .statement (all [opt (.ref .typeArguments), keyIn ["this", "super"], .ref .arguments,
    semicolon])

/-- The call of a constructor above through an outer object. -/
def outerConstructorCall : Form :=
  .node .statement (all [.ref (.primary .statement), mark ".", opt (.ref .typeArguments),
    key "super", .ref .arguments, semicolon])

def constructorBody : Form :=
  .node .body (all [mark "\x7b",
    opt (anyOf [constructorCall, .ref .statement, outerConstructorCall]),
    .many (.ref .statement), mark "\x7d"])

def constructorDeclaration : Form :=
  .node .constructorDeclaration (all [someModifiers, opt (.ref .typeParameters), anyName,
    .ref .formalParameters, throwsClause, constructorBody])

/-- A constructor of a record without parameters of its own. -/
def compactConstructor : Form :=
  .node .declaration (all [someModifiers, nameExcept Place.member.notNames, .ref .block])

def classMember : Form :=
  anyOf [typeDeclaration, variableDeclaration .fieldDeclaration .member [], .ref .methodDeclaration,
    constructorDeclaration, compactConstructor, .node .body (all [key "static", .ref .block]),
    .ref .block, semicolon]

def classBodyForm : Form :=
  .node .body (all [mark "\x7b", .many classMember, mark "\x7d"])

def constantDeclaration : Form := variableDeclaration .constantDeclaration .member []

def interfaceDeclarationForm : Form :=
  let member : Form := anyOf [typeDeclaration, constantDeclaration, .ref .methodDeclaration,
    semicolon]
  .node .interfaceDeclaration (all [someModifiers, key "interface", anyName,
    opt (.ref .typeParameters),
    opt (.node .extendsInterfaces (all [key "extends", typeList])), permitted,
    .node .body (all [mark "\x7b", .many member, mark "\x7d"])])

def enumDeclarationForm : Form :=
  let constant : Form := .node .declaration (all [someModifiers, nameExcept modifierWords,
    opt (.ref .arguments), opt (.ref .classBody)])
  let members : Form := .node .body (all [semicolon, .many classMember])
  .node .declaration (all [someModifiers, key "enum", anyName, superInterfaces,
    .node .body (all [mark "\x7b", sepBy constant comma, opt comma, opt members,
      mark "\x7d"])])

def recordDeclarationForm : Form :=
  .node .declaration (all [someModifiers, key "record", anyName, opt (.ref .typeParameters),
    .ref .formalParameters, superInterfaces, .ref .classBody])

def annotationDeclarationForm : Form :=
  let element : Form := .node .declaration (all [someModifiers, .ref (.bareType .member), anyName,
    mark "(", mark ")", opt (.ref .dimensions), opt (all [key "default", .ref .elementValue]),
    semicolon])
  let member : Form := anyOf [.ref .classDeclaration, .ref .interfaceDeclaration,
    .ref .enumDeclaration, .ref .annotationDeclaration, constantDeclaration, element, semicolon]
  .node .declaration (all [someModifiers, mark "@interface", anyName,
    .node .body (all [mark "\x7b", .many member, mark "\x7d"])])

/-- Packages, imports and modules. -/
def otherDeclarationForm : Form :=
  let name : Form := .ref .dottedName
  let names : Form := sepBy1 name comma
  let directive : Form := .node .clause (all [
    anyOf [
      all [key "requires", .many (keyIn ["transitive", "static"]), name],
      all [keyIn ["exports", "opens"], name, opt (all [key "to", names])],
      all [key "uses", name],
      all [key "provides", name, key "with", names]],
    semicolon])
  anyOf [
    .node .packageDeclaration (all [annotations, key "package", name, semicolon]),
    .node .declaration (all [key "import", opt (key "static"), name,
      opt (all [mark ".", mark "*"]), semicolon]),
    .node .declaration (all [annotations, opt (key "open"), key "module", name,
      .node .body (all [mark "\x7b", .many directive, mark "\x7d"])])]

/-! ### Statements -/

def blockForm : Form :=
  .node .body (all [mark "\x7b", .many (.ref .statement), mark "\x7d"])

/-- A variable declaration inside a body. -/
def localVariables : Form := variableDeclaration .statement .statement ["instanceof"]

def expressionStatement (place : Place) : Form :=
  .node .statement (all [.ref (.expression place true), semicolon])

def throwStatement : Form := .node .statement (all [key "throw", value, semicolon])

def forStatement : Form :=
  let values : Form := sepBy value comma
  let start : Form := anyOf [localVariables, all [values, semicolon]]
  anyOf [
    .node .statement (all [key "for", mark "(", someModifiers, .ref (.bareType .statement),
      declared ["instanceof"], mark ":", value, mark ")", .ref .statement]),
    .node .statement (all [key "for", mark "(", start, opt value, semicolon, values, mark ")",
      .ref .statement])]

def tryStatement : Form :=
  let block : Form := .ref .block
  let parameter : Form := .node .clause (all [someModifiers,
    .node .clause (sepBy1 (.ref (.bareType .type)) (mark "|")), declared []])
  let catchClause : Form := .node .clause (all [key "catch", mark "(", parameter, mark ")", block])
  let finallyClause : Form := .node .clause (all [key "finally", block])
  let resource : Form := .node .clause (anyOf [
    all [someModifiers, .ref (.bareType .operand), declared ["instanceof"], mark "=", value],
    all [.ref (.primary .operand), .lastIs [.identifier, .fieldAccess]]])
  let resources : Form := .node .clause (all [mark "(", sepBy1 resource semicolon, opt semicolon,
    mark ")"])
  anyOf [
    .node .statement (all [key "try", block,
      anyOf [all [many1 catchClause, opt finallyClause], finallyClause]]),
    .node .statement (all [key "try", resources, block, .many catchClause, opt finallyClause])]

/-- The statements that start with a keyword. -/
def keywordStatement : Form :=
  let statement : Form := .ref .statement
  anyOf [
    .node .statement (all [key "if", parenthesized, statement,
      opt (all [key "else", statement])]),
    .node .statement (all [key "while", parenthesized, statement]),
    forStatement,
    .node .statement (all [key "do", statement, key "while", parenthesized, semicolon]),
    .node .statement (all [keyIn ["break", "continue"], opt anyName, semicolon]),
    .node .statement (all [key "return", opt value, semicolon]),
    throwStatement,
    .node .statement (all [key "yield", value, semicolon]),
    .node .statement (all [key "assert", value, opt (all [mark ":", value]), semicolon]),
    .node .expression (all [key "switch", parenthesized, .ref .switchBlock]),
    .node .statement (all [key "synchronized", parenthesized, .ref .block]),
    tryStatement]

def statementForm : Form :=
  anyOf [.ref .block, semicolon, keywordStatement,
    .node .statement (all [nameExcept Place.statement.notTypes, mark ":", .ref .statement]),
    typeDeclaration, .ref .otherDeclaration, localVariables, expressionStatement .statement]

def programForm : Form :=
  .node .program (.many (anyOf [.ref .statement, .ref .methodDeclaration]))

/-! ### Switches and patterns -/

/-- A declared name in a pattern. -/
def patternName : Form := nameExcept ["instanceof", "when"]

/-- The record is named by a single name or with type arguments. -/
def recordPatternForm : Form :=
  let component : Form := anyOf [.ref .recordPattern,
    .node .clause (all [.ref (.bareType .type), patternName]), .node .clause (key "_")]
  .node .clause (all [.ref (.simpleType .operand), .lastIs [.typeName, .genericType],
    .node .clause (all [mark "(", sepBy component comma, mark ")"])])

def switchBlockForm : Form :=
  -- The arrow after a label belongs to the label, so a label does not end in a lambda.
  let labelValue : Form := .ref (.expression .operand false)
  let pattern : Form := anyOf [
    .node .clause (all [.ref (.bareType .operand), patternName]), .ref .recordPattern]
  let guardClause : Form := .node .clause (all [key "when", labelValue])
  let label : Form := .node .clause (anyOf [
    all [key "case", anyOf [pattern, sepBy1 labelValue comma], opt guardClause],
    key "default"])
  let rule : Form := .node .statement (all [label, mark "->",
    anyOf [throwStatement, .ref .block, expressionStatement .operand]])
  let group : Form := .node .statement (all [many1 (all [label, mark ":"]),
    .many (.ref .statement)])
  .node .body (anyOf [
    all [mark "\x7b", .many rule, mark "\x7d"],
    all [mark "\x7b", .many group, mark "\x7d"]])

/-! ### Expressions -/

def operatorSymbol (s : String) : Form := .token (.symbol s) .operator

/-- The symbol right behind the symbol before. -/
def gluedOperator (s : String) : Form := .token (.gluedSymbol s) .operator

/-- A binary operator; those that start with `>` are made of single symbols that touch. -/
def binaryOperator : Form :=
  anyOf [
    all [operatorSymbol ">", gluedOperator ">", gluedOperator ">"],
    all [operatorSymbol ">", gluedOperator ">"],
    all [operatorSymbol ">", gluedOperator "="],
    .token (.symbolIn ["||", "&&", "|", "^", "&", "==", "!=", "<", ">", "<=", "<<", "+", "-", "*",
      "/", "%"]) .operator]

def assignmentOperator : Form :=
  anyOf [
    .token (.symbolIn ["=", "+=", "-=", "*=", "/=", "&=", "|=", "^=", "%=", "<<="]) .operator,
    all [operatorSymbol ">", gluedOperator ">", gluedOperator ">", gluedOperator "="],
    all [operatorSymbol ">", gluedOperator ">", gluedOperator "="]]

/-- A type test: a record pattern, or a type with a name behind it or without. -/
def typeTest : Form :=
  all [.token (.word "instanceof") .operator, opt (key "final"),
    anyOf [.ref .recordPattern, all [plainType, opt patternName]]]

def expressionForm (place : Place) (lambda : Bool) : Form :=
  all [.ref (.operand place lambda),
    .many (anyOf [
      .operate .operation (all [binaryOperator, .ref (.operand .operand lambda)]),
      .operate .expression typeTest]),
    opt (.extend .expression (all [mark "?", value, mark ":",
      .ref (.expression .operand lambda)]))]

def lambdaForm (place : Place) : Form :=
  let inferred : Form := .node .clause (all [mark "(", sepBy1 anyName comma, mark ")"])
  .node .expression (all [
    anyOf [nameExcept place.notNames, .ref .formalParameters, inferred],
    mark "->", anyOf [.ref .block, value]])

def operandForm (place : Place) (lambda : Bool) : Form :=
  let operand : Form := .ref (.operand .operand lambda)
  let assignment : Form := all [.lastIs [.identifier, .fieldAccess, .elementAccess],
    .extend .expression (all [assignmentOperator, .ref (.expression .operand lambda)])]
  let step : Form := .extend .expression (.token (.symbolIn ["++", "--"]) .operator)
  let chain : Form := all [.ref (.primary place), anyOf [assignment, .many step]]
  let choices : List Form := [
    .node .expression (all [.token (.symbolIn ["+", "-", "!", "~", "++", "--"]) .operator,
      operand]),
    .node .expression (all [mark "(", sepBy1 plainType (mark "&"), mark ")", operand])]
  let choices := if lambda then choices ++ [lambdaForm place] else choices
  anyOf (choices ++ [
    .node .expression (all [key "switch", parenthesized, .ref .switchBlock]), chain])

/-- What is created, behind `new`: an object or an array. -/
def creationForm : Form :=
  let size : Form := .node .clause (all [annotations, mark "[", value, mark "]"])
  all [key "new", annotations, opt (all [.ref .typeArguments, annotations]),
    .ref (.simpleType .type),
    anyOf [
      all [.ref .arguments, opt (.ref .classBody)],
      all [many1 size, opt (.ref .dimensions)],
      all [.ref .dimensions, .ref .arrayInitializer]]]

/-- A text literal, with embedded expressions or without. -/
def templateForm : Form :=
  anyOf [
    .token (.ofClass .text) .literal,
    .node .literal (all [.token (.ofClass .templateOpen) .mark, value,
      .many (all [.token (.ofClass .templateMiddle) .mark, value]),
      .token (.ofClass .templateClose) .mark])]

def primaryForm (place : Place) : Form :=
  let typeArguments : Form := opt (.ref .typeArguments)
  let name : Form := nameExcept place.notNames
  let memberName : Form := nameExcept ["new", "super"]
  let viaSuper : Form := opt (all [key "super", mark "."])
  let reference : Form := all [mark "::", typeArguments, anyOf [key "new", anyName]]
  let call : Form := .extend .expression (all [mark ".", viaSuper, typeArguments, memberName,
    .ref .arguments])
  let access : Form := .extend .fieldAccess (all [mark ".", viaSuper,
    anyOf [key "this", memberName]])
  let referenceTo : Form := .extend .expression reference
  let start : Form := anyOf [
    .token (.ofClass .number) .literal,
    .token (.ofClass .character) .literal,
    .ref .template,
    .token (.wordIn ["true", "false", "null"]) .literal,
    parenthesized,
    .node .expression (.ref .creation),
    .node .expression (all [.ref (.bareType place), mark ".", key "class"]),
    .node .expression (all [.ref (.type place), reference]),
    key "this",
    all [key "super", anyOf [call, access, referenceTo]],
    .node .expression (all [name, .ref .arguments]),
    name]
  all [start, .many (anyOf [
    call, access, referenceTo,
    .extend .elementAccess (all [mark "[", value, mark "]"]),
    .extend .expression (all [mark ".", .ref .creation]),
    .extend .expression (all [mark ".", .ref .template])])]

end Phrase

open Phrase Rule in
/-- The rules of the language. -/
def grammar : Grammar Phrase
  | .program => programForm
  | .statement => statementForm
  | .block => blockForm
  | .methodDeclaration => methodDeclarationForm
  | .classDeclaration => classDeclarationForm
  | .interfaceDeclaration => interfaceDeclarationForm
  | .enumDeclaration => enumDeclarationForm
  | .recordDeclaration => recordDeclarationForm
  | .annotationDeclaration => annotationDeclarationForm
  | .otherDeclaration => otherDeclarationForm
  | .classBody => classBodyForm
  | .modifiers => modifiersForm
  | .annotationUse => annotationForm
  | .elementValue => elementValueForm
  | .typeParameters => typeParametersForm
  | .formalParameters => formalParametersForm
  | .dimensions => dimensionsForm
  | .dottedName => dottedNameForm
  | .typeArguments => typeArgumentsForm
  | .arrayInitializer =>
    .node .expression (braced (anyOf [value, .ref .arrayInitializer]))
  | .arguments => .node .clause (all [mark "(", sepBy value comma, mark ")"])
  | .creation => creationForm
  | .switchBlock => switchBlockForm
  | .recordPattern => recordPatternForm
  | .template => templateForm
  | .type place => typeForm place
  | .bareType place => bareTypeForm place
  | .simpleType place => simpleTypeForm place
  | .expression place lambda => expressionForm place lambda
  | .operand place lambda => operandForm place lambda
  | .primary place => primaryForm place

/-- How deep constructs may be nested in a text that is read. -/
def depthLimit : Nat := 990

/-- How deep phrases may be nested in a text that is read: at most four of them stand between a
construct and the next one inside it. -/
def nestingLimit : Nat := 4 * depthLimit

/-- The syntax tree of a source text, or `none` where the text does not fit the grammar or is
nested too deep. -/
def parse? (source : String) : Option Tree :=
  match tokenize? source with
  | none => none
  | some ts =>
    match grammar.reader nestingLimit .program ⟨[], ts.tokens⟩ with
    | some ⟨[tree], []⟩ => if tree.depth ≤ depthLimit then some tree else none
    | _ => none

end StructureGrader.Syntax
