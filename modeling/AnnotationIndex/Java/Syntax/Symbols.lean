import AnnotationIndex.Grammar.Basic

/-!
# The tokens and phrases of Java

Words such as `class` are tokens of their own where the grammar has a use for them, and names
everywhere else.
-/

namespace AnnotationIndex.Java

inductive Terminal where
  | finish
  /-- A word without a use of its own at its place. -/
  | name
  | integer | real | hexReal | character | string
  | templateHead
  | templateMiddle
  | templateTail
  | trueWord | falseWord | nullWord | thisWord | superWord | newWord | classWord | instanceofWord
  | finalWord | switchWord | caseWord | defaultWord | whenWord | underscore
  | assertWord | doWord | whileWord | breakWord | continueWord | returnWord | yieldWord
  | synchronizedWord | throwWord | tryWord | catchWord | finallyWord | ifWord | elseWord | forWord
  | openWord | moduleWord | requiresWord | transitiveWord | staticWord | exportsWord | toWord
  | opensWord | usesWord | providesWord | withWord | packageWord | importWord
  | enumWord | publicWord | protectedWord | privateWord | abstractWord | strictfpWord | nativeWord
  | transientWord | volatileWord | sealedWord | nonSealed
  | extendsWord | implementsWord | permitsWord | recordWord | atInterface | interfaceWord
  | byteWord | shortWord | intWord | longWord | charWord | floatWord | doubleWord | booleanWord
  | voidWord | throwsWord
  | leftParen | rightParen | leftBrace | rightBrace | leftBracket | rightBracket
  | semicolon | comma | dot | ellipsis | atSign | colon | doubleColon | arrow | question
  | assign | addAssign | subAssign | mulAssign | divAssign | andAssign | orAssign | xorAssign
  | modAssign | leftAssign | rightAssign | unsignedAssign
  | greater | less | greaterEqual | lessEqual | equal | notEqual | andAnd | orOr
  | plus | minus | star | slash | amp | bar | caret | percent | shiftLeft | shiftRight
  | shiftUnsigned | bang | tilde | increment | decrement
  deriving DecidableEq, Repr

namespace Terminal

def words : List (String × Terminal) :=
  [("true", trueWord), ("false", falseWord), ("null", nullWord), ("this", thisWord),
    ("super", superWord), ("new", newWord), ("class", classWord), ("instanceof", instanceofWord),
    ("final", finalWord), ("switch", switchWord), ("case", caseWord), ("default", defaultWord),
    ("when", whenWord), ("_", underscore), ("assert", assertWord), ("do", doWord),
    ("while", whileWord), ("break", breakWord), ("continue", continueWord),
    ("return", returnWord), ("yield", yieldWord), ("synchronized", synchronizedWord),
    ("throw", throwWord), ("try", tryWord), ("catch", catchWord), ("finally", finallyWord),
    ("if", ifWord), ("else", elseWord), ("for", forWord), ("open", openWord),
    ("module", moduleWord), ("requires", requiresWord), ("transitive", transitiveWord),
    ("static", staticWord), ("exports", exportsWord), ("to", toWord), ("opens", opensWord),
    ("uses", usesWord), ("provides", providesWord), ("with", withWord), ("package", packageWord),
    ("import", importWord), ("enum", enumWord), ("public", publicWord),
    ("protected", protectedWord), ("private", privateWord), ("abstract", abstractWord),
    ("strictfp", strictfpWord), ("native", nativeWord), ("transient", transientWord),
    ("volatile", volatileWord), ("sealed", sealedWord), ("extends", extendsWord),
    ("implements", implementsWord), ("permits", permitsWord), ("record", recordWord),
    ("interface", interfaceWord), ("byte", byteWord), ("short", shortWord), ("int", intWord),
    ("long", longWord), ("char", charWord), ("float", floatWord), ("double", doubleWord),
    ("boolean", booleanWord), ("void", voidWord), ("throws", throwsWord)]

def signs : List (String × Terminal) :=
  [("(", leftParen), (")", rightParen), ("\x7b", leftBrace), ("\x7d", rightBrace),
    ("[", leftBracket), ("]", rightBracket), (";", semicolon), (",", comma), (".", dot),
    ("...", ellipsis), ("@", atSign), (":", colon), ("::", doubleColon), ("->", arrow),
    ("?", question), ("=", assign), ("+=", addAssign), ("-=", subAssign), ("*=", mulAssign),
    ("/=", divAssign), ("&=", andAssign), ("|=", orAssign), ("^=", xorAssign), ("%=", modAssign),
    ("<<=", leftAssign), (">>=", rightAssign), (">>>=", unsignedAssign), (">", greater),
    ("<", less), (">=", greaterEqual), ("<=", lessEqual), ("==", equal), ("!=", notEqual),
    ("&&", andAnd), ("||", orOr), ("+", plus), ("-", minus), ("*", star), ("/", slash),
    ("&", amp), ("|", bar), ("^", caret), ("%", percent), ("<<", shiftLeft), (">>", shiftRight),
    (">>>", shiftUnsigned), ("!", bang), ("~", tilde), ("++", increment), ("--", decrement)]

end Terminal

/-- The phrases of the grammar. A plural is one or more of a kind; `more` is for what follows the
first of several. -/
inductive Phrase where
  | wholeText | source | items
  -- names and types
  | softName | qualifiedName | annotationUse | annotations | annotationArguments | elementPair
  | morePairs | elementValue | elementArray | moreElements | modifiers | modifierList
  | anyType | plainType | annotatedType | scopedType | genericType | arrayType | typeArguments
  | moreTypeArguments | wildcard | dimensions | dimensionList | typeParameters
  | moreTypeParameters | typeParameter | typeBound | moreBounds | typeList | moreTypes
  -- expressions
  | literal | stringLiteral | templateRest | expression | cast | assignment | binary | typeTest
  | lambda | lambdaNames | moreNames | conditional | unary | update | primary | arrayCreation
  | sizedDimension | sizedDimensions | parenthesized | classLiteral | objectCreation
  | plainCreation | fieldAccess | template | arrayAccess | methodCall | arguments
  | moreExpressions | methodReference | switchExpression | switchBlock | switchGroup
  | switchGroups | switchRule | switchRules | switchLabel | labels | pattern | typePattern
  | recordPattern | recordPatternBody | recordPatternPart | moreRecordPatternParts | guardClause
  -- declarations
  | declaration | moduleDeclaration | moduleBody | moduleDirective | moduleDirectives
  | requiresModifier | requiresModifiers | moreQualifiedNames | packageDeclaration
  | importDeclaration | enumDeclaration | enumBody | enumConstant | moreEnumConstants
  | enumMembers | classDeclaration | superclass | superInterfaces | permits | classBody | members
  | staticInitializer | constructorDeclaration | constructorDeclarator | constructorBody
  | constructorCall | fieldDeclaration | recordDeclaration | annotationTypeDeclaration
  | annotationTypeBody | annotationTypeMembers | annotationElement | defaultValue
  | interfaceDeclaration | extendsInterfaces | interfaceBody | interfaceMembers
  | constantDeclaration | declarators | moreDeclarators | declarator | declaratorName
  | arrayInitializer | moreInitializers | methodDeclaration | methodHeader | methodDeclarator
  | formalParameters | moreParameters | formalParameter | spreadParameter | receiver | outerNames
  | throwsClause | compactConstructor
  -- statements
  | statement | statements | block | expressionStatement | labeledStatement | assertStatement
  | doStatement | breakStatement | continueStatement | returnStatement | yieldStatement
  | synchronizedStatement | throwStatement | tryStatement | catchClause | catchClauses
  | catchParameter | catchType | moreCatchTypes | finallyClause | tryResources | resources
  | moreResources | resource | ifStatement | whileStatement | forStatement | forEachStatement
  | localVariables
  | impossible
  deriving DecidableEq, Repr

abbrev Rule := Grammar.Rule Terminal Phrase

abbrev Production := Grammar.Production Terminal Phrase

instance : Coe Terminal Rule where
  coe t := .symbol (.token t)

instance : Coe Phrase Rule where
  coe p := .symbol (.phrase p)

namespace Syntax

open Grammar (Grouping)

def seq (parts : List Rule) : Rule := .sequence parts

def choice (options : List Rule) : Rule := .choice options

def opt (part : Rule) : Rule := part.opt

def rule (head : Phrase) (parts : List Rule) : List Production := (seq parts).productions head

def oneOrMore (head : Phrase) (parts : List Rule) : List Production :=
  rule head [choice [seq parts, seq (.symbol (.phrase head) :: parts)]]

def binding (strength : Int) (grouping : Option Grouping) (ps : List Production) :
    List Production :=
  ps.map fun p => { p with strength, grouping }

def weighing (weight : Nat) (ps : List Production) : List Production :=
  ps.map fun p => { p with weight }

end Syntax

end AnnotationIndex.Java
