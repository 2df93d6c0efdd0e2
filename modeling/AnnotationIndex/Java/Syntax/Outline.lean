import AnnotationIndex.Java.Written
import AnnotationIndex.Java.Syntax.Source

/-!
# Declarations in the trees of source files

Of the tree of a file only the declarations and the annotations on them are kept. Phrases that only
group others, such as lists, are dissolved first.
-/

namespace AnnotationIndex.Java

namespace Syntax

open Terminal Phrase

/-- Phrases that only group their parts. -/
def isGroup : Phrase → Bool
  | wholeText | source | items | statement | declaration | expression | primary | literal
  | annotations | annotationArguments | morePairs | elementValue | moreElements | modifierList
  | members | enumMembers | moreEnumConstants | interfaceMembers | annotationTypeMembers
  | declarators | moreDeclarators | methodHeader | methodDeclarator | moreParameters
  | constructorDeclarator => true
  | _ => false

mutual

/-- A tree with its groups dissolved, before `more`. -/
def dissolve (more : List Tree) : Tree → List Tree
  | .leaf kind token => .leaf kind token :: more
  | .node phrase parts =>
    if isGroup phrase then dissolveAll more parts
    else .node phrase (dissolveAll [] parts) :: more

def dissolveAll (more : List Tree) : List Tree → List Tree
  | [] => more
  | t :: ts => dissolve (dissolveAll more ts) t

end

def textOf (t : Tree) : String := sourceText t.tokens

def isLeaf (kind : Terminal) : Tree → Bool
  | .leaf k _ => kind = k
  | .node _ _ => false

def tokenValue? (kind : Terminal) (t : Token) : Option Written :=
  match kind with
  | integer => some (.integer t.text)
  | real => some (.real t.text)
  | character => some (.character t.text)
  | trueWord => some (.truth true)
  | falseWord => some (.truth false)
  | nullWord => some .null
  | name => some (.name t.text)
  | hexReal | thisWord => some (.expression t.text)
  | _ => none

mutual

def value? : Tree → Option Written
  | .leaf kind token => tokenValue? kind token
  | .node elementArray parts => some (.array (values parts))
  | .node annotationUse (_ :: kind :: parts) => some (.nested ⟨textOf kind, arguments parts⟩)
  | .node parenthesized parts => (values parts).head?
  | .node unary (.leaf minus sign :: parts) =>
    (values parts).head?.map (.negation · (sourceText (sign :: Grammar.Tree.tokensOfParts [] parts)))
  | .node phrase parts =>
    let text := sourceText (Grammar.Tree.tokensOfParts [] parts)
    some <| match phrase with
      | stringLiteral => .string text
      | classLiteral => .classLiteral text
      | softName | fieldAccess => .name text
      | _ => .expression text

def values : List Tree → List Written
  | [] => []
  | t :: ts => (value? t).toList ++ values ts

def arguments : List Tree → List (Argument Written)
  | [] => []
  | .node elementPair (key :: parts) :: ts =>
    (values parts).map (⟨some (textOf key), ·⟩) ++ arguments ts
  | t :: ts => (value? t).toList.map (⟨none, ·⟩) ++ arguments ts

end

def use? : Tree → Option (AnnotationOf Written)
  | .node annotationUse (_ :: kind :: parts) => some ⟨textOf kind, arguments parts⟩
  | _ => none

def annotationsOn (parts : List Tree) : List (AnnotationOf Written) :=
  match parts.find? (·.isPhrase modifiers) with
  | some t => t.parts.filterMap use?
  | none => []

def variableName? (parts : List Tree) : Option String := do
  let t ← parts.find? (·.isPhrase declaratorName)
  return textOf (← t.parts.head?)

def methodName? : List Tree → Option String
  | t :: next :: ts =>
    if next.isPhrase formalParameters || isLeaf leftParen next then some (textOf t)
    else methodName? (next :: ts)
  | _ => none

def declaredName? (parts : List Tree) : Option String := (parts.find? (isLeaf name)).map textOf

def member? : Tree → Option WrittenMember
  | .leaf _ _ => none
  | .node phrase parts =>
    let annotations := annotationsOn parts
    match phrase with
    | fieldDeclaration | constantDeclaration =>
      let names := parts.filterMap fun t =>
        if t.isPhrase declarator then variableName? t.parts else none
      some ⟨.property, names, annotations⟩
    | methodDeclaration | annotationElement =>
      (methodName? parts).map (⟨.method, [·], annotations⟩)
    | constructorDeclaration | compactConstructor =>
      some ⟨.method, [constructorName], annotations⟩
    | enumConstant => (declaredName? parts).map (⟨.property, [·], annotations⟩)
    | _ => none

def component? : Tree → Option WrittenMember
  | .node formalParameter parts =>
    (variableName? parts).map (⟨.property, [·], annotationsOn parts⟩)
  | _ => none

def isBody : Phrase → Bool
  | classBody | interfaceBody | enumBody | annotationTypeBody => true
  | _ => false

def membersOf (parts : List Tree) : List WrittenMember :=
  parts.flatMap fun
    | .node formalParameters inner => inner.filterMap component?
    | .node phrase inner => if isBody phrase then inner.filterMap member? else []
    | .leaf _ _ => []

def declKind? : Phrase → Option DeclKind
  | classDeclaration => some .classType
  | interfaceDeclaration => some .interfaceType
  | enumDeclaration => some .enumType
  | recordDeclaration => some .recordType
  | annotationTypeDeclaration => some .annotationType
  | _ => none

mutual

def typeDecl? : Tree → Option WrittenType
  | .leaf _ _ => none
  | .node phrase parts =>
    match declKind? phrase, declaredName? parts with
    | some kind, some text =>
      some (.mk kind text (annotationsOn parts) (membersOf parts) (innerTypes parts))
    | _, _ => none

def innerTypes : List Tree → List WrittenType
  | [] => []
  | .node phrase inner :: parts =>
    if isBody phrase then typeDecls inner ++ innerTypes parts else innerTypes parts
  | .leaf _ _ :: parts => innerTypes parts

def typeDecls : List Tree → List WrittenType
  | [] => []
  | t :: ts => (typeDecl? t).toList ++ typeDecls ts

end

def isDottedName : Tree → Bool
  | .leaf kind _ => kind = name
  | .node phrase _ => phrase = softName || phrase = qualifiedName

def topLevel (t : Tree) : TopLevel :=
  match t with
  | .node packageDeclaration parts =>
    match parts.find? isDottedName with
    | some path => .packageName (textOf path)
    | none => .other
  | .node importDeclaration parts =>
    match parts.find? isDottedName with
    | some path =>
      .importPath (textOf path) (parts.any (isLeaf staticWord)) (parts.any (isLeaf star))
    | none => .other
  | _ =>
    match typeDecl? t with
    | some decl => .typeDecl decl
    | none => .other

end Syntax

def topLevels? (source : List Char) : Option (List TopLevel) := do
  let ts ← tokens? source
  let trees ← Syntax.trees? ts
  return (Syntax.dissolveAll [] trees).map Syntax.topLevel

end AnnotationIndex.Java
