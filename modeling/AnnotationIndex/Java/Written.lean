import AnnotationIndex.Java.Value

/-!
# Declarations as written

What a source file declares, before names are resolved and literals are read. Only what is
collected later is kept: annotations on types and on their members, and the types declared inside
other types. Bodies of methods and initial values are dropped.
-/

namespace AnnotationIndex.Java

inductive Written where
  | string (text : String)
  | character (text : String)
  | integer (text : String)
  | real (text : String)
  | truth (value : Bool)
  | null
  | classLiteral (text : String)
  | name (text : String)
  | negation (operand : Written) (text : String)
  | array (items : List Written)
  | nested (use : AnnotationOf Written)
  | expression (text : String)
  deriving Repr

/-- One declaration of members. A field declaration may give several names. -/
structure WrittenMember where
  kind : MemberKind
  names : List String
  annotations : List (AnnotationOf Written)
  deriving Repr

inductive WrittenType where
  | mk (kind : DeclKind) (name : String) (annotations : List (AnnotationOf Written))
      (members : List WrittenMember) (inner : List WrittenType)
  deriving Repr

inductive TopLevel where
  | packageName (name : String)
  | importPath (path : String) (isStatic onDemand : Bool)
  | typeDecl (decl : WrittenType)
  | other
  deriving Repr

end AnnotationIndex.Java
