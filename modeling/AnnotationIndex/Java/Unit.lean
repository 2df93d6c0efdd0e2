import AnnotationIndex.Java.Syntax.Outline
import AnnotationIndex.Java.Literal
import AnnotationIndex.Java.Scope

/-!
# Compilation units

A source file is read in two steps. Its outline, the declarations as written with the scope that
the file sets up, depends on the text alone. Reading the outline resolves the names of annotation
types against the types that are known, and reads the literals.
-/

namespace AnnotationIndex.Java

open Text

structure Outline where
  scope : Scope
  types : List WrittenType
  deriving Repr

def Outline.ofSource? (source : List Char) : Option Outline :=
  if source.all isBlank then none
  else (topLevels? source).map fun items =>
    { scope := Scope.ofItems items
      types := items.filterMap fun
        | .typeDecl t => some t
        | _ => none }

/-- A compilation unit: the package and the types it declares, each type before those in it. -/
structure CompilationUnit where
  package : Option String
  types : List TypeDecl
  deriving Repr

def CompilationUnit.get? (unit : CompilationUnit) (name : String) : Option TypeDecl :=
  unit.types.find? (·.name = name)

private def onText (f : List Char → List Char) (text : String) : String :=
  String.ofList (f text.toList)

/-- The value of a number after a minus sign. Anything else stays an expression. -/
def negated (text : String) : Value → Value
  | .integer n => .integer (-n)
  | .real x => .real x.neg
  | _ => .expression (onText collapse text)

mutual

/-- The value that was written, with `resolve` applied to the names of annotation types. There is
none if a text block cannot be freed of its indentation. -/
def Written.value? (resolve : String → String) : Written → Option Value
  | .string text => (stringValue? text.toList).map fun s => .string (String.ofList s)
  | .character text => some (.character (onText characterValue text))
  | .integer text => some <| match integerValue? text.toList with
    | some n => .integer n
    | none => .expression text
  | .real text => some <| match realValue? text.toList with
    | some x => .real x
    | none => .expression text
  | .truth b => some (.truth b)
  | .null => some .null
  | .classLiteral text => some (.type (onText classLiteralType text))
  | .name text => some (.constant (onText collapse text))
  | .negation operand text => (operand.value? resolve).map (negated text)
  | .array items => (writtenValues? resolve items).map .array
  | .nested ⟨kind, arguments⟩ =>
    (writtenArguments? resolve arguments).map fun as => .nested ⟨resolve kind, as⟩
  | .expression text => some (.expression (onText collapse text))

def writtenValues? (resolve : String → String) : List Written → Option (List Value)
  | [] => some []
  | w :: ws => do
    let v ← w.value? resolve
    let vs ← writtenValues? resolve ws
    return v :: vs

def writtenArguments? (resolve : String → String) :
    List (Argument Written) → Option (List (Argument Value))
  | [] => some []
  | ⟨name, w⟩ :: rest => do
    let v ← w.value? resolve
    let vs ← writtenArguments? resolve rest
    return ⟨name, v⟩ :: vs

end

def annotationUse? (resolve : String → String) (use : AnnotationOf Written) :
    Option AnnotationUse :=
  (writtenArguments? resolve use.arguments).map fun as => ⟨resolve use.kind, as⟩

def WrittenMember.members? (resolve : String → String) (m : WrittenMember) :
    Option (List Member) :=
  (m.annotations.mapM (annotationUse? resolve)).map fun uses =>
    m.names.map fun name => ⟨name, m.kind, uses⟩

mutual

/-- The type that was written and the types in it, each named after what encloses it. -/
def WrittenType.decls? (resolve : String → String) (enclosing : Option String) :
    WrittenType → Option (List TypeDecl)
  | .mk kind simple annotations members inner => do
    let name := match enclosing with
      | some outer => outer ++ "." ++ simple
      | none => simple
    let uses ← annotations.mapM (annotationUse? resolve)
    let members ← members.mapM (WrittenMember.members? resolve)
    let more ← writtenDecls? resolve name inner
    return ⟨name, kind, uses, members.flatten⟩ :: more

def writtenDecls? (resolve : String → String) (outer : String) :
    List WrittenType → Option (List TypeDecl)
  | [] => some []
  | t :: ts => do
    let decls ← t.decls? resolve (some outer)
    let more ← writtenDecls? resolve outer ts
    return decls ++ more

end

/-- The compilation unit of an outline, where `known` tells which types exist. There is none if a
text block in an annotation cannot be freed of its indentation. -/
def Outline.unit? (outline : Outline) (known : String → Bool) : Option CompilationUnit :=
  (outline.types.mapM (WrittenType.decls? (outline.scope.resolve known) outline.scope.package)).map
    fun decls => ⟨outline.scope.package, decls.flatten⟩

mutual

def Written.typeNames : Written → List String
  | .negation operand _ => operand.typeNames
  | .array items => typeNamesOfValues items
  | .nested ⟨kind, arguments⟩ => kind :: typeNamesOfArguments arguments
  | _ => []

def typeNamesOfValues : List Written → List String
  | [] => []
  | w :: ws => w.typeNames ++ typeNamesOfValues ws

def typeNamesOfArguments : List (Argument Written) → List String
  | [] => []
  | ⟨_, w⟩ :: rest => w.typeNames ++ typeNamesOfArguments rest

end

def typeNamesOfUse (use : AnnotationOf Written) : List String :=
  use.kind :: typeNamesOfArguments use.arguments

mutual

def WrittenType.typeNames : WrittenType → List String
  | .mk _ _ annotations members inner =>
    annotations.flatMap typeNamesOfUse ++
      members.flatMap (·.annotations.flatMap typeNamesOfUse) ++ typeNamesOfTypes inner

def typeNamesOfTypes : List WrittenType → List String
  | [] => []
  | t :: ts => t.typeNames ++ typeNamesOfTypes ts

end

/-- The names of an outline that are assumed to belong to its package although an on-demand import
might provide them, with what they are assumed to be. -/
def Outline.assumptions (outline : Outline) (known : String → Bool) : List (String × String) :=
  (typeNamesOfTypes outline.types).filterMap (outline.scope.assumed? known)

inductive Rejection where
  | malformed
  /-- The indentation that the lines of a text block share ends inside a character. -/
  | splitCharacter
  deriving DecidableEq, Repr

def CompilationUnit.ofSource (source : String) (known : String → Bool) :
    Except Rejection CompilationUnit :=
  match Outline.ofSource? source.toList with
  | none => .error .malformed
  | some outline =>
    match outline.unit? known with
    | none => .error .splitCharacter
    | some unit => .ok unit

end AnnotationIndex.Java
