import AnnotationIndex.Files.Tree
import AnnotationIndex.Index.ClassMap
import AnnotationIndex.Java.Document
import AnnotationIndex.Java.Unit

/-!
# Loading types

A type is loaded by reading the file that declares it. Which types are known decides what the simple
names of annotation types in the file mean.
-/

namespace AnnotationIndex

open Java

inductive LoadError where
  | unknownType (name : String)
  | unreadable (path : Path) (fault : Fault)
  | malformed (path : Path)
  | typeNotDeclared (name : String) (path : Path)
  | memberNotFound (typeName : String) (kind : MemberKind) (member : String)
  | annotationNotFound (kind : String) (target : String) (occurrence : Nat)
  /-- A text block in the file cannot be freed of its indentation. No run survives this. -/
  | splitCharacter (path : Path)
  deriving DecidableEq, Repr

def LoadError.message : LoadError → String
  | .unknownType name => "type '" ++ name ++ "' has no known source location"
  | .unreadable path fault => "failed to read " ++ path.text ++ ": " ++ fault.message
  | .malformed path => "failed to parse " ++ path.text ++ ": source has syntax errors"
  | .typeNotDeclared name path => "type '" ++ name ++ "' is not declared in " ++ path.text
  | .memberNotFound typeName kind member =>
    "type '" ++ typeName ++ "' has no " ++ kind.word ++ " '" ++ member ++ "'"
  | .annotationNotFound kind target occurrence =>
    "annotation '" ++ kind ++ "' (occurrence " ++ toString occurrence ++
      ") no longer present on " ++ target
  | .splitCharacter path => "a text block in " ++ path.text ++ " is cut inside a character"

/-- Where types are declared and which other types are known. -/
structure Loader where
  locations : Locations
  alsoKnown : KeySet := KeyMap.empty

namespace Loader

def knows (l : Loader) (name : String) : Bool :=
  l.locations.contains name || l.alsoKnown.contains name

def outline (tree : FileTree) (path : Path) : Except LoadError Outline :=
  match tree.read path with
  | .error fault => .error (.unreadable path fault)
  | .ok content =>
    match Outline.ofSource? (Text.lossyText content).toList with
    | none => .error (.malformed path)
    | some outline => .ok outline

def unitOf (l : Loader) (path : Path) (outline : Outline) : Except LoadError CompilationUnit :=
  match outline.unit? l.knows with
  | none => .error (.splitCharacter path)
  | some unit => .ok unit

def unit (l : Loader) (tree : FileTree) (path : Path) : Except LoadError CompilationUnit :=
  (outline tree path).bind (l.unitOf path)

def declIn (path : Path) (name : String) (unit : CompilationUnit) : Except LoadError TypeDecl :=
  match unit.get? name with
  | some decl => .ok decl
  | none => .error (.typeNotDeclared name path)

def declAt (l : Loader) (tree : FileTree) (path : Path) (name : String) :
    Except LoadError TypeDecl :=
  (l.unit tree path).bind (declIn path name)

def decl (l : Loader) (tree : FileTree) (name : String) : Except LoadError TypeDecl :=
  match l.locations.get? name with
  | none => .error (.unknownType name)
  | some path => l.declAt tree path name

def outlineEvents (l : Loader) (outline : Outline) : List Event :=
  (outline.assumptions l.knows).map fun (written, assumed) =>
    .debug .introspect ("No known type for @" ++ written ++ " under on-demand imports [" ++
      ", ".intercalate outline.scope.onDemand ++ "]; assuming " ++ assumed)

def unitEvents (l : Loader) (tree : FileTree) (path : Path) : List Event :=
  match outline tree path with
  | .ok outline => l.outlineEvents outline
  | .error _ => []

def declEvents (l : Loader) (tree : FileTree) (name : String) : List Event :=
  match l.locations.get? name with
  | none => []
  | some path => l.unitEvents tree path

end Loader

end AnnotationIndex
