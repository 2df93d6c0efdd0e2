import AnnotationIndex.Run.Sources

/-!
# Keeping and dropping types

A chain of named filters decides which types are looked at. The first filter that rejects a type
ends the chain. Verdicts are kept in the store, for each file all at once.
-/

namespace AnnotationIndex

open Java

variable {σ : Type}

/-- A test on a type and the path of the file that declares it. -/
structure TypeFilter (σ : Type) where
  name : String
  accepts : Path → String → Stage σ Bool

abbrev FilterChain (σ : Type) := List (TypeFilter σ)

def FilterChain.keep : FilterChain σ → Path → String → Stage σ Bool
  | [], _, _ => return true
  | f :: rest, path, typeName => do
    if ← f.accepts path typeName then FilterChain.keep rest path typeName
    else
      Stage.report [.debug .filter ("Filter '" ++ f.name ++ "' rejected " ++ typeName)]
      return false

def mentionsAnnotations (content : List UInt8) : Bool := content.contains 0x40

/-- Rejects files that cannot carry annotations, without reading them as source. -/
def contentFilter (tree : FileTree) : TypeFilter σ where
  name := "content"
  accepts path _ := do
    match tree.read path with
    | .ok content => return mentionsAnnotations content
    | .error fault =>
      Stage.report [.warn .filter ("Discarding " ++ path.text ++
        " because it cannot be read: " ++ fault.message)]
      return false

/-- The type of a given name in the file at a path. Names that had to be guessed are reported. -/
def loadDecl (loader : Loader) (tree : FileTree) (path : Path) (typeName : String) :
    Stage σ (Except LoadError TypeDecl) := do
  match Loader.outline tree path with
  | .error e => return .error e
  | .ok outline =>
    Stage.report (loader.outlineEvents outline)
    return (loader.unitOf path outline).bind (Loader.declIn path typeName)

def instantiableFilter (loader : Loader) (tree : FileTree) : TypeFilter σ where
  name := "instantiable"
  accepts path typeName := do
    match ← loadDecl loader tree path typeName with
    | .ok decl => return decl.kind ≠ .interfaceType
    | .error (.splitCharacter p) => throw (.load (.splitCharacter p))
    | .error e =>
      Stage.report [.warn .filter ("Discarding '" ++ typeName ++
        "' because an error occurred during loading: " ++ e.message)]
      return false

/-- The chain that a run uses. The test that does not read the source comes first. -/
def standardChain (loader : Loader) (tree : FileTree) : FilterChain σ :=
  [contentFilter tree, instantiableFilter loader tree]

def keptOf (chain : FilterChain σ) (path : Path) : List String → Stage σ (List String)
  | [] => return []
  | t :: rest => do
    let keep ← chain.keep path t
    let kept ← keptOf chain path rest
    return if keep then t :: kept else kept

def keptTypes (b : Backend σ) (chain : FilterChain σ) (f : ResolvedFile) :
    Stage σ (List String) := do
  match ← Session.retrieve b (Decoder.list Decoder.text) .filter f.file f.file.fingerprint with
  | some kept => return kept
  | none =>
    let kept ← keptOf chain f.file.path f.types
    Session.remember b .filter f.file f.file.fingerprint (.array (kept.map .string))
    return kept

def keptLists (b : Backend σ) (chain : FilterChain σ) :
    List ResolvedFile → Stage σ (List (List String))
  | [] => return []
  | f :: rest => do
    let kept ← keptTypes b chain f
    let more ← keptLists b chain rest
    return kept :: more

def keepTypes (b : Backend σ) (chain : FilterChain σ) (map : ClassMap) : Stage σ ClassMap := do
  let kept ← keptLists b chain map.files
  return map.retainWith kept

end AnnotationIndex
