import AnnotationIndex.Failure
import AnnotationIndex.Java.Document

/-!
# Source files and the types they declare

The roots of a run are searched for source files, and each file is mapped to the types that its
header declares. Headers are kept in the store.
-/

namespace AnnotationIndex

open Java

variable {σ α : Type}

/-- A part of a run: it uses a store, reports events and may fail. -/
abbrev Stage (σ : Type) := ExceptT Failure (StateM (Session σ))

def Stage.report (events : List Event) : Stage σ Unit :=
  (Session.report events : StateM (Session σ) Unit)

def isSource (p : Path) : Bool := p.extension? = some (Text.utf8Bytes "java")

def canonicalRoot (tree : FileTree) (root : Path) : Except Failure Path :=
  match tree.canonical root with
  | .ok path => .ok path
  | .error fault => .error (.includeUnreadable root fault)

/-- The source files below a root, or the root itself if it is one, in the order of paths. -/
def sourcesBelow (tree : FileTree) (root : Path) : List Path :=
  if tree.isFile root then [root].filter isSource
  else
    match tree.locate root with
    | .ok location =>
      ((tree.filesBelow location).filter isSource).mergeSort fun p q => !q.before p
    | .error _ => []

/-- The source files of a run with their types, and how many files were read and left out. -/
structure Resolution where
  map : ClassMap
  filesScanned : Nat
  filesExcluded : Nat

namespace Resolution

def empty : Resolution := ⟨.empty, 0, 0⟩

end Resolution

def resolveHeader (b : Backend σ) (file : SourceFile) (content : List UInt8) :
    StateM (Session σ) Header := do
  match ← Session.retrieve b Header.decoder .resolve file file.fingerprint with
  | some header => return header
  | none =>
    let header := Header.ofSource (Text.lossyText content)
    Session.remember b .resolve file file.fingerprint header.toJson
    return header

def resolveFile (b : Backend σ) (tree : FileTree) (path : Path) :
    StateM (Session σ) (Except Fault ResolvedFile) := do
  match tree.read path with
  | .error fault => return .error fault
  | .ok content =>
    let file : SourceFile := ⟨path, .ofBytes content⟩
    let header ← resolveHeader b file content
    return .ok ⟨file, header.types, header.scope⟩

/-- The resolution with one more file. A file without types is read but not listed. -/
def resolveNext (b : Backend σ) (tree : FileTree) (excluded : Path → Bool) (r : Resolution)
    (path : Path) : StateM (Session σ) Resolution := do
  if excluded path then
    Session.report [.debug .resolver ("Excluded " ++ path.text)]
    return { r with filesExcluded := r.filesExcluded + 1 }
  else
    let r := { r with filesScanned := r.filesScanned + 1 }
    match ← resolveFile b tree path with
    | .error fault =>
      Session.report [.warn .resolver ("Skipping " ++ path.text ++ ": " ++ fault.message)]
      return r
    | .ok f =>
      if f.types.isEmpty then return r
      else
        Session.report (r.map.pushEvents f)
        return { r with map := r.map.push f }

def resolveAll (b : Backend σ) (tree : FileTree) (excluded : Path → Bool) :
    Resolution → List Path → StateM (Session σ) Resolution
  | r, [] => return r
  | r, path :: rest => do
    let r ← resolveNext b tree excluded r path
    resolveAll b tree excluded r rest

/-- The source files below all roots. All roots are checked before any file is read. -/
def resolve (b : Backend σ) (tree : FileTree) (excluded : Path → Bool) (roots : List Path) :
    Stage σ Resolution := do
  let roots ← (roots.mapM (canonicalRoot tree) : Except Failure (List Path))
  resolveAll b tree excluded .empty (roots.flatMap (sourcesBelow tree))

end AnnotationIndex
