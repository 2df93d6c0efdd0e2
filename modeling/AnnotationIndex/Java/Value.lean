import AnnotationIndex.Number.Binary64

/-!
# Annotations and their values

An annotation has a kind, the qualified name of its annotation type, and arguments. The two
record types are shared by annotations as they stand in a source file and annotations whose names
and literals have been read.
-/

namespace AnnotationIndex.Java

open Number

structure Argument (ν : Type) where
  name : Option String
  value : ν
  deriving DecidableEq, Repr

structure AnnotationOf (ν : Type) where
  kind : String
  arguments : List (Argument ν)
  deriving DecidableEq, Repr

/-- The value of an argument. What is no literal, name, class, array or annotation is kept as
the text of an expression. -/
inductive Value where
  | string (text : String)
  | integer (value : Int64)
  | real (value : Binary64)
  | truth (value : Bool)
  | character (text : String)
  | null
  | type (name : String)
  | constant (name : String)
  | array (items : List Value)
  | nested (use : AnnotationOf Value)
  | expression (text : String)
  deriving Repr

abbrev AnnotationUse := AnnotationOf Value

inductive DeclKind where
  | classType | interfaceType | enumType | recordType | annotationType
  deriving DecidableEq, Repr

/-- Members are methods, constructors among them, and properties: fields, record components and
enum constants. -/
inductive MemberKind where
  | method | property
  deriving DecidableEq, Repr

def constructorName : String := "<init>"

structure Member where
  name : String
  kind : MemberKind
  annotations : List AnnotationUse
  deriving Repr

structure TypeDecl where
  name : String
  kind : DeclKind
  annotations : List AnnotationUse
  members : List Member
  deriving Repr

def TypeDecl.member? (decl : TypeDecl) (kind : MemberKind) (name : String) : Option Member :=
  decl.members.find? fun m => m.kind = kind && m.name = name

end AnnotationIndex.Java
