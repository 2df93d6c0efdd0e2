import AnnotationIndex.Data.KeyMap
import AnnotationIndex.Log
import AnnotationIndex.Store.Fingerprint

/-!
# Class maps

A class map lists source files with the types they declare. If several files declare a type, the
last one owns it.
-/

namespace AnnotationIndex

/-- A source file with the types it declares and the packages its simple names can refer to. -/
structure ResolvedFile where
  file : SourceFile
  types : List String
  scope : List String
  deriving DecidableEq, Repr

abbrev Locations := KeyMap String Path

def packageOf (name : String) : String :=
  match Text.splitLast? '.' name.toList with
  | some (front, _) => String.ofList front
  | none => ""

/-- The known types that a file with the given scope can name by their simple names. -/
def visibleTypes (locations : Locations) (scope : List String) : List String :=
  locations.keys.filter fun name => scope.contains (packageOf name)

/-- A text that spells out the types that a file with the given scope can see. -/
def visibilityKey (locations : Locations) (scope : List String) : String :=
  ";".intercalate (visibleTypes locations scope)

def visibilitySalt (locations : Locations) (scope : List String) : String :=
  shortDigest (visibilityKey locations scope)

structure ClassMap where
  files : List ResolvedFile
  owners : KeyMap String Path

namespace ClassMap

def empty : ClassMap := ⟨[], .empty⟩

def claim (owners : KeyMap String Path) (path : Path) (types : List String) : KeyMap String Path :=
  types.foldl (fun owners t => owners.insert t path) owners

/-- One more file, which takes over the types it declares. -/
def push (m : ClassMap) (f : ResolvedFile) : ClassMap :=
  ⟨m.files ++ [f], claim m.owners f.file.path f.types⟩

def takenOver (m : ClassMap) (f : ResolvedFile) : List (String × Path) :=
  f.types.eraseDups.filterMap fun t =>
    match m.owners.get? t with
    | some owner => if owner.same f.file.path then none else some (t, owner)
    | none => none

def pushEvents (m : ClassMap) (f : ResolvedFile) : List Event :=
  (m.takenOver f).map fun (t, owner) =>
    .warn .resolver ("Type '" ++ t ++ "' is declared in " ++ owner.text ++ " and " ++
      f.file.path.text ++ "; keeping the latter")

def owner? (m : ClassMap) (name : String) : Option Path := m.owners.get? name

def isOwnedBy (m : ClassMap) (name : String) (path : Path) : Bool :=
  match m.owner? name with
  | some owner => owner.same path
  | none => false

def entries (m : ClassMap) : List (SourceFile × String) :=
  m.files.flatMap fun f =>
    (f.types.filter fun t => m.isOwnedBy t f.file.path).map fun t => (f.file, t)

def size (m : ClassMap) : Nat := m.entries.length

def isEmpty (m : ClassMap) : Bool := m.size = 0

def locations (m : ClassMap) : Locations :=
  .ofList (m.entries.map fun (file, t) => (t, file.path))

/-- The map with the given types for each of its files. A file owns those of them that it owned
before. -/
def retainWith (m : ClassMap) (kept : List (List String)) : ClassMap :=
  (m.files.zip kept).foldl (fun out (f, types) =>
    ⟨out.files ++ [{ f with types }],
      claim out.owners f.file.path (types.filter fun t => m.isOwnedBy t f.file.path)⟩) empty

def retain (m : ClassMap) (keep : ResolvedFile → List String) : ClassMap :=
  m.retainWith (m.files.map keep)

end ClassMap

end AnnotationIndex
