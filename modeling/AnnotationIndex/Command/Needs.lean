import AnnotationIndex.Command.Program

/-!
# What a command needs and what it changes

A command is carried out on a file tree that holds no more than the command looks at. What it looks
at may depend on files it has read: the configuration says where the sources are, and the artifact
says where its types are declared. Afterwards the two trees tell what changed.
-/

namespace AnnotationIndex

inductive Need where
  | file (path : Path)
  | everything (path : Path)
  deriving DecidableEq, Repr

def storeNeeds (directory : Path) : List Need :=
  [.file (DurableStore.dataFile directory), .file (DurableStore.lockFile directory)]

def runNeeds (c : Config) : List Need :=
  c.includePaths.map .everything ++ [.file c.outputPath, .file (temporaryPath c.outputPath)] ++
    if c.useCache then storeNeeds c.cacheDirectory else []

def artifactNeeds (tree : FileTree) (path : Path) : List Need :=
  .file path :: match Artifact.load tree path with
    | .ok a =>
      if a.argumentsCaptured then [] else a.types.entries.map fun (_, source) => .file source
    | .error _ => []

namespace Invocation

/-- What a command needs, as far as a tree tells. With all of it in the tree the answer may grow;
it is complete when the configuration and the artifact are there. -/
def needs (i : Invocation) (tree : FileTree) : List Need :=
  (i.config.map Need.file).toList ++ match i.command with
    | .generate options =>
      match i.baseConfig tree with
      | .ok c => runNeeds (c.overridden options)
      | .error _ => []
    | .query artifact _ _ | .forClass _ artifact =>
      match i.artifactPath tree artifact with
      | .ok path => artifactNeeds tree path
      | .error _ => []
    | .stats given | .clear given =>
      match i.cacheDirectory tree given with
      | .ok directory => storeNeeds directory
      | .error _ => []

end Invocation

namespace FileTree

def passed : Location → List Path.Component → List Location
  | location, [] => [location]
  | location, c :: rest => location :: match c with
    | .root => passed [] rest
    | .here => passed location rest
    | .parent => passed location.dropLast rest
    | .name name => passed (location ++ [name]) rest

inductive Change where
  | makeDirectory (path : Path)
  | writeFile (path : Path) (content : List UInt8)
  | removeFile (path : Path)
  deriving DecidableEq, Repr

/-- The changes that lead from one tree to another: first what is gone, then what is new or
different, directories before what they hold. -/
def changes (before after : FileTree) : List Change :=
  (before.nodes.entries.filterMap fun (bytes, node) =>
    match node, after.nodes.get? bytes with
    | .file _, none => some (.removeFile ⟨bytes⟩)
    | _, _ => none) ++
  after.nodes.entries.filterMap fun (bytes, node) =>
    if before.nodes.get? bytes = some node then none
    else
      match node with
      | .directory => some (.makeDirectory ⟨bytes⟩)
      | .file content => some (.writeFile ⟨bytes⟩ content)

end FileTree

end AnnotationIndex
