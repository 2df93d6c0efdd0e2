import AnnotationIndex.Text.Blank
import AnnotationIndex.Java.Written

/-!
# Names of annotation types

A source file names an annotation type in full or by its simple name. What a simple name means
depends on the imports of the file, on its package and on which types are known to exist.
-/

namespace AnnotationIndex.Java

open Text

def javaLangNames : List String :=
  ["Deprecated", "FunctionalInterface", "Override", "SafeVarargs", "SuppressWarnings"]

/-- Annotation types of `java.lang.annotation`, known without being declared anywhere. -/
def metaNames : List String :=
  ["Documented", "Inherited", "Native", "Repeatable", "Retention", "Target"]

def metaPackage : String := "java.lang.annotation"

structure Scope where
  package : Option String
  /-- Simple names with the qualified names they are imported as, latest first. -/
  imports : List (String × String)
  onDemand : List String
  deriving DecidableEq, Repr

namespace Scope

def empty : Scope := ⟨none, [], []⟩

/-- The scope after one more item at the top of the file. A later package declaration replaces an
earlier one, and so does a later import of the same simple name. -/
def add (scope : Scope) : TopLevel → Scope
  | .packageName name => { scope with package := some name }
  | .importPath path isStatic onDemand =>
    if isStatic then scope
    else if onDemand then { scope with onDemand := scope.onDemand ++ [path] }
    else
      match splitLast? '.' path.toList with
      | some (_, simple) => { scope with imports := (String.ofList simple, path) :: scope.imports }
      | none => scope
  | _ => scope

def ofItems (items : List TopLevel) : Scope := items.foldl add empty

def local_ (scope : Scope) (name : String) : String :=
  match scope.package with
  | some package => package ++ "." ++ name
  | none => name

def provided? (scope : Scope) (known : String → Bool) (name : String) : Option String :=
  (scope.onDemand.map fun package => (package, package ++ "." ++ name)).findSome?
    fun (package, candidate) =>
      if (package = metaPackage && metaNames.contains name) || known candidate then some candidate
      else none

/-- The qualified name that a name certainly has. A dotted name is taken as it is unless its first
part is imported. A simple name is looked for among the imports, in the package of the file, in
`java.lang` and in the on-demand imports, in this order. -/
def lookup? (scope : Scope) (known : String → Bool) (name : String) : Option String :=
  match splitFirst? '.' name.toList with
  | some (head, rest) =>
    match scope.imports.lookup (String.ofList head) with
    | some qualified => some (qualified ++ "." ++ String.ofList rest)
    | none => some name
  | none =>
    match scope.imports.lookup name with
    | some qualified => some qualified
    | none =>
      if known (scope.local_ name) then some (scope.local_ name)
      else if javaLangNames.contains name then some ("java.lang." ++ name)
      else scope.provided? known name

def bare (written : String) : String := String.ofList (written.toList.filter (!isBlank ·))

/-- The qualified name of an annotation type. A name that cannot be found is assumed to belong to
the package of the file. -/
def resolve (scope : Scope) (known : String → Bool) (written : String) : String :=
  (scope.lookup? known (bare written)).getD (scope.local_ (bare written))

/-- The names that were assumed although an on-demand import might provide them: the name and what
it is assumed to be. -/
def assumed? (scope : Scope) (known : String → Bool) (written : String) :
    Option (String × String) :=
  if scope.onDemand.isEmpty || (scope.lookup? known (bare written)).isSome then none
  else some (bare written, scope.local_ (bare written))

end Scope

end AnnotationIndex.Java
