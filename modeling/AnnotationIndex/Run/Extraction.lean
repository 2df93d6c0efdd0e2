import AnnotationIndex.Index.Record
import AnnotationIndex.Run.Sources

/-!
# Records of all types

The records of each file are kept in the store under a fingerprint that also covers the options and
the types that the file can name by their simple names, since these decide what its annotations are.
-/

namespace AnnotationIndex

open Java

variable {σ : Type}

/-- The fingerprint under which the records of a file are kept. -/
def recordsFingerprint (options : ExtractOptions) (locations : Locations) (f : ResolvedFile) :
    Fingerprint :=
  f.file.fingerprint.salted (options.salt ++ ":" ++ visibilitySalt locations f.scope)

/-- The records of the types of a unit. Types that are not in it are reported. -/
def unitRecords (options : ExtractOptions) (path : Path) (unit : CompilationUnit) :
    List String → Stage σ (List TypeRecords)
  | [] => return []
  | t :: rest => do
    match unit.get? t with
    | some decl =>
      Stage.report (options.events decl)
      let more ← unitRecords options path unit rest
      return ⟨t, options.extract decl⟩ :: more
    | none =>
      Stage.report [.warn .extract ("Skipping '" ++ t ++ "': not declared in " ++ path.text)]
      unitRecords options path unit rest

/-- The unit of a file; none if it cannot be read, which is reported. -/
def unitToExtract (loader : Loader) (tree : FileTree) (path : Path) :
    Stage σ (Option CompilationUnit) := do
  match Loader.outline tree path with
  | .error e =>
    Stage.report [.warn .extract ("Skipping " ++ path.text ++ ": " ++ e.message)]
    return none
  | .ok outline =>
    Stage.report (loader.outlineEvents outline)
    match loader.unitOf path outline with
    | .ok unit => return some unit
    | .error e => throw (.load e)

def fileRecords (b : Backend σ) (options : ExtractOptions) (loader : Loader) (tree : FileTree)
    (f : ResolvedFile) : Stage σ (List TypeRecords) := do
  let fingerprint := recordsFingerprint options loader.locations f
  match ← Session.retrieve b (Decoder.list TypeRecords.decoder) .extract f.file fingerprint with
  | some records => return records
  | none =>
    match ← unitToExtract loader tree f.file.path with
    | none => return []
    | some unit =>
      let records ← unitRecords options f.file.path unit f.types
      Session.remember b .extract f.file fingerprint (.array (records.map TypeRecords.toJson))
      return records

/-- The records of a list of files. Only records of types that a file owns in `map` count. -/
def recordsOf (b : Backend σ) (options : ExtractOptions) (loader : Loader) (tree : FileTree)
    (map : ClassMap) : List ResolvedFile → Stage σ (List TypeRecords)
  | [] => return []
  | f :: rest => do
    if f.types.isEmpty then recordsOf b options loader tree map rest
    else
      let records ← fileRecords b options loader tree f
      let more ← recordsOf b options loader tree map rest
      return (records.filter fun r => map.isOwnedBy r.typeName f.file.path) ++ more

def extractAll (b : Backend σ) (options : ExtractOptions) (loader : Loader) (tree : FileTree)
    (map : ClassMap) : Stage σ (List TypeRecords) :=
  recordsOf b options loader tree map map.files

end AnnotationIndex
