import AnnotationIndex.Run.Report

/-!
# Runs without a store

What each part of a run finds out, computed from the files alone. A run that uses a store has to
come to the same results.
-/

namespace AnnotationIndex.Plain

open Java

def headerOf (content : List UInt8) : Header := Header.ofSource (Text.lossyText content)

def fileWith (path : Path) (content : List UInt8) : ResolvedFile :=
  ⟨⟨path, .ofBytes content⟩, (headerOf content).types, (headerOf content).scope⟩

def next (tree : FileTree) (excluded : Path → Bool) (r : Resolution) (path : Path) : Resolution :=
  if excluded path then { r with filesExcluded := r.filesExcluded + 1 }
  else
    let r := { r with filesScanned := r.filesScanned + 1 }
    match tree.read path with
    | .error _ => r
    | .ok content =>
      if (headerOf content).types.isEmpty then r else { r with map := r.map.push (fileWith path content) }

/-- The paths of the files that a run looks at. -/
def sources (tree : FileTree) (roots : List Path) : Except Failure (List Path) :=
  (roots.mapM (canonicalRoot tree)).map fun roots => roots.flatMap (sourcesBelow tree)

/-- What is read at paths that share a key is the same. -/
def KeysAgree (tree : FileTree) (paths : List Path) : Prop :=
  ∀ path ∈ paths, ∀ path' ∈ paths, path.text = path'.text → tree.read path = tree.read path'

def resolution (tree : FileTree) (excluded : Path → Bool) (roots : List Path) :
    Except Failure Resolution :=
  (sources tree roots).map fun paths => paths.foldl (next tree excluded) .empty

/-- Whether a type is declared in a file, other than as an interface. -/
def instantiable (path : Path) (content : List UInt8) (typeName : String) : Except Failure Bool :=
  match Outline.ofSource? (Text.lossyText content).toList with
  | none => .ok false
  | some outline =>
    match outline.unit? fun _ => false with
    | none => .error (.load (.splitCharacter path))
    | some unit => .ok ((unit.get? typeName).any (·.kind ≠ .interfaceType))

def accepts (path : Path) (content : List UInt8) (typeName : String) : Except Failure Bool :=
  if mentionsAnnotations content then instantiable path content typeName else .ok false

def keptBy (verdict : String → Except Failure Bool) : List String → Except Failure (List String)
  | [] => .ok []
  | t :: rest => do
    let keep ← verdict t
    let kept ← keptBy verdict rest
    return if keep then t :: kept else kept

/-- The types of a list that are kept. -/
def keptAmong (path : Path) (content : List UInt8) : List String → Except Failure (List String) :=
  keptBy (accepts path content)

def contentAt (tree : FileTree) (path : Path) : List UInt8 := ((tree.read path).toOption).getD []

def keptLists (tree : FileTree) : List ResolvedFile → Except Failure (List (List String))
  | [] => .ok []
  | f :: rest => do
    let kept ← keptAmong f.file.path (contentAt tree f.file.path) f.types
    let more ← keptLists tree rest
    return kept :: more

def kept (tree : FileTree) (map : ClassMap) : Except Failure ClassMap :=
  (keptLists tree map.files).map map.retainWith

def recordsIn (options : ExtractOptions) (unit : CompilationUnit) (types : List String) :
    List TypeRecords :=
  types.filterMap fun t => (unit.get? t).map fun decl => ⟨t, options.extract decl⟩

def fileRecords (options : ExtractOptions) (known : String → Bool) (path : Path)
    (content : List UInt8) (types : List String) : Except Failure (List TypeRecords) :=
  match Outline.ofSource? (Text.lossyText content).toList with
  | none => .ok []
  | some outline =>
    match outline.unit? known with
    | none => .error (.load (.splitCharacter path))
    | some unit => .ok (recordsIn options unit types)

def recordsOf (options : ExtractOptions) (known : String → Bool) (tree : FileTree)
    (map : ClassMap) : List ResolvedFile → Except Failure (List TypeRecords)
  | [] => .ok []
  | f :: rest =>
    if f.types.isEmpty then recordsOf options known tree map rest
    else do
      let records ← fileRecords options known f.file.path (contentAt tree f.file.path) f.types
      let more ← recordsOf options known tree map rest
      return (records.filter fun r => map.isOwnedBy r.typeName f.file.path) ++ more

/-- What a run collects from its resolution. -/
def collectFrom (config : Config) (tree : FileTree) (r : Resolution) :
    Except Failure Collected := do
  let kept ← kept tree r.map
  let loader : Loader := { locations := r.map.locations }
  let records ← recordsOf config.extractOptions loader.knows tree kept kept.files
  let collection := Collection.empty.addAll records kept.owner?
  let collection :=
    if config.captureArguments then collection
    else { collection with knownTypes := namesInScope kept loader.locations collection }
  return ⟨r, kept, collection⟩

def collect (config : Config) (exclusion : Option Pattern) (tree : FileTree) :
    Except Failure Collected :=
  (resolution tree (isExcluded exclusion) config.includePaths).bind (collectFrom config tree)

end AnnotationIndex.Plain
