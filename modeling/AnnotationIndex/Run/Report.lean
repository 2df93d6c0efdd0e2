import AnnotationIndex.Run.Config
import AnnotationIndex.Run.Extraction
import AnnotationIndex.Run.Keeping
import AnnotationIndex.Run.Replacement
import AnnotationIndex.Store.Durable

/-!
# Runs

A run finds the source files, drops the types that cannot carry annotations, extracts the records of
the others and replaces the artifact. The configuration is checked before any source is read, and
the artifact is replaced after everything else has succeeded.
-/

namespace AnnotationIndex

variable {σ : Type}

structure RunReport where
  output : Path
  filesScanned : Nat
  filesExcluded : Nat
  typesResolved : Nat
  typesKept : Nat
  kinds : Nat
  classes : Nat
  methods : Nat
  properties : Nat
  cache : StoreStats

def RunReport.toJson (r : RunReport) : Json :=
  .object [("output", .string r.output.text), ("files_scanned", .ofNat r.filesScanned),
    ("files_excluded", .ofNat r.filesExcluded), ("types_resolved", .ofNat r.typesResolved),
    ("types_kept", .ofNat r.typesKept), ("kinds", .ofNat r.kinds), ("classes", .ofNat r.classes),
    ("methods", .ofNat r.methods), ("properties", .ofNat r.properties),
    ("cache", r.cache.toJson)]

/-- The types that files with targets can name by their simple names. -/
def namesInScope (kept : ClassMap) (locations : Locations) (c : Collection) : KeySet :=
  KeySet.ofList ((kept.files.filter fun f => f.types.any c.locations.contains).flatMap fun f =>
    visibleTypes locations f.scope)

/-- Refuses an output path at which no file can be. -/
def checkOutput (tree : FileTree) (path : Path) : Except Failure Unit :=
  if path.bytes.isEmpty then .error .outputEmpty
  else if tree.isDirectory path then .error (.outputIsDirectory path)
  else .ok ()

structure Collected where
  resolution : Resolution
  kept : ClassMap
  collection : Collection

abbrev ChainOf (σ : Type) := Loader → FileTree → FilterChain σ

def collect (b : Backend σ) (chain : ChainOf σ) (config : Config) (exclusion : Option Pattern)
    (tree : FileTree) : Stage σ Collected := do
  let resolution ← resolve b tree (isExcluded exclusion) config.includePaths
  let loader : Loader := { locations := resolution.map.locations }
  let kept ← keepTypes b (chain loader tree) resolution.map
  let records ← extractAll b config.extractOptions loader tree kept
  let collection := Collection.empty.addAll records kept.owner?
  let collection :=
    if config.captureArguments then collection
    else { collection with knownTypes := namesInScope kept loader.locations collection }
  return ⟨resolution, kept, collection⟩

def prepare (config : Config) (tree : FileTree) : Stage σ (Option Pattern) := do
  let exclusion ← config.exclusion
  checkOutput tree config.outputPath
  if config.includePaths.isEmpty then
    Stage.report [.warn .pipeline "No include paths configured; the artifact will be empty"]
  return exclusion

def publish (config : Config) (c : Collection) (tree : FileTree) : Except Failure Unit × FileTree :=
  match c.render config.captureArguments with
  | .error f => (.error f, tree)
  | .ok text => writeArtifact config.outputPath text tree

def reportOf (config : Config) (c : Collected) (cache : StoreStats) : RunReport :=
  { output := config.outputPath
    filesScanned := c.resolution.filesScanned
    filesExcluded := c.resolution.filesExcluded
    typesResolved := c.resolution.map.size
    typesKept := c.kept.size
    kinds := c.collection.annotations.size
    classes := c.collection.classCount
    methods := c.collection.methodCount
    properties := c.collection.propertyCount
    cache }

structure RunState (σ : Type) where
  tree : FileTree
  session : Session σ

def runWith (b : Backend σ) (chain : ChainOf σ) (config : Config) :
    StateM (RunState σ) (Except Failure RunReport) := fun s =>
  match (do
      let exclusion ← prepare config s.tree
      collect b chain config exclusion s.tree : Stage σ Collected).run s.session with
  | (.error f, session) => (.error f, { s with session })
  | (.ok c, session) =>
    match publish config c.collection s.tree with
    | (.error f, tree) => (.error f, ⟨tree, session⟩)
    | (.ok (), tree) =>
      match Session.stats b session with
      | (.error fault, session) => (.error (.store fault), ⟨tree, session⟩)
      | (.ok cache, session) => (.ok (reportOf config c cache), ⟨tree, session⟩)

def run (b : Backend σ) (config : Config) : StateM (RunState σ) (Except Failure RunReport) :=
  runWith b standardChain config

/-- A run as its configuration says: with the durable store, or with one that lasts no longer than
the run. The result comes with the events reported and the tree that is left. -/
def regenerate (config : Config) (tree : FileTree) :
    Except Failure RunReport × List Event × FileTree :=
  if config.useCache then
    match DurableStore.openAt tree config.cacheDirectory with
    | (.error f, tree) => (.error f, [], tree)
    | (.ok store, tree) =>
      let (result, s) := run DurableStore.backend config ⟨tree, { store }⟩
      (result, s.session.log, s.session.store.close s.tree)
  else
    let (result, s) := run MemoryStore.backend config ⟨tree, { store := .empty }⟩
    (result, s.session.log, s.tree)

end AnnotationIndex
