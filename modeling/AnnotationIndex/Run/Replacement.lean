import AnnotationIndex.Failure
import AnnotationIndex.Files.Links

/-!
# Replacing the artifact

The new artifact is written to a temporary file next to its place and then moved there in one step,
so that its place never holds a part of it.
-/

namespace AnnotationIndex

variable {τ : Type}

/-- The operations on files by which an artifact is replaced, for trees of type `τ`. Each one tells
whether it failed and what the tree is afterwards. -/
structure Disk (τ : Type) where
  makeDirectories : Path → τ → Except Fault Unit × τ
  write : Path → List UInt8 → τ → Except Fault Unit × τ
  moveFile : Path → Path → τ → Except Fault Unit × τ
  removeFile : Path → τ → Except Fault Unit × τ

namespace Disk

def outcome (tree : τ) : Except Fault τ → Except Fault Unit × τ
  | .ok changed => (.ok (), changed)
  | .error fault => (.error fault, tree)

def reliable : Disk FileTree where
  makeDirectories p tree := tree.ensureDirectories p
  write p content tree := outcome tree (tree.write p content)
  moveFile p q tree := outcome tree (tree.moveFile p q)
  removeFile p tree := outcome tree (tree.removeFile p)

end Disk

def temporaryPath (path : Path) : Path := ⟨path.bytes ++ Text.utf8Bytes ".tmp"⟩

/-- The directory of an artifact that may have to be created. -/
def outputParent? (path : Path) : Option Path :=
  match path.parent? with
  | some parent => if parent.bytes.isEmpty then none else some parent
  | none => none

/-- The result of replacing an artifact, and the trees it went through, latest first. -/
structure Replacement (τ : Type) where
  result : Except Failure Unit
  trees : List τ

namespace Replacement

def tree (start : τ) (r : Replacement τ) : τ := r.trees.headD start

end Replacement

def moveTemporary (disk : Disk τ) (path : Path) (start : τ) (trees : List τ) : Replacement τ :=
  let temporary := temporaryPath path
  match disk.moveFile temporary path start with
  | (.ok (), tree) => ⟨.ok (), tree :: trees⟩
  | (.error fault, tree) =>
    let (_, cleaned) := disk.removeFile temporary tree
    ⟨.error (.artifactNotReplaced path fault), cleaned :: tree :: trees⟩

def writeTemporary (disk : Disk τ) (path : Path) (content : List UInt8) (start : τ)
    (trees : List τ) : Replacement τ :=
  let temporary := temporaryPath path
  match disk.write temporary content start with
  | (.error fault, tree) => ⟨.error (.artifactNotWritten temporary fault), tree :: trees⟩
  | (.ok (), tree) => moveTemporary disk path tree (tree :: trees)

/-- Replaces the artifact at a path. If that fails, what was there before is left. -/
def replaceArtifact (disk : Disk τ) (path : Path) (content : List UInt8) (start : τ) :
    Replacement τ :=
  match outputParent? path with
  | none => writeTemporary disk path content start []
  | some parent =>
    match disk.makeDirectories parent start with
    | (.error fault, tree) => ⟨.error (.outputDirectory parent fault), [tree]⟩
    | (.ok (), tree) => writeTemporary disk path content tree [tree]

def writeArtifact (path : Path) (text : String) (tree : FileTree) :
    Except Failure Unit × FileTree :=
  let r := replaceArtifact .reliable path (Text.utf8Bytes text) tree
  (r.result, r.tree tree)

end AnnotationIndex
