import AnnotationIndex.Failure
import AnnotationIndex.Index.Artifact
import AnnotationIndex.Index.Record
import AnnotationIndex.Pattern.Reader
import AnnotationIndex.Pattern.Search

/-!
# Configuration

What a run reads, what it writes and how. A configuration file may leave out any field and must not
have any other; its relative paths are taken from the directory of the file.
-/

namespace AnnotationIndex

structure Config where
  includePaths : List Path := []
  excludePattern : Option String := none
  outputPath : Path := .ofText "annotations.json"
  useCache : Bool := true
  captureArguments : Bool := true
  cacheDirectory : Path := .ofText ".annotation-collector"
  ignoredAnnotations : KeySet := KeySet.ofList defaultIgnored

namespace Config

open Decoder in
def decoder : Decoder Config := fun levels j => do
  let base : Config := {}
  let fs ← fields ["include_paths", "exclude_pattern", "output_artifact_path", "use_cache",
    "capture_arguments", "cache_dir", "ignored_annotations"] true levels j
  let includePaths ← fs.withDefault "include_paths" (list pathDecoder) base.includePaths
  let excludePattern ← fs.withDefault "exclude_pattern" (orNull text) base.excludePattern
  let outputPath ← fs.withDefault "output_artifact_path" pathDecoder base.outputPath
  let useCache ← fs.withDefault "use_cache" truth base.useCache
  let captureArguments ← fs.withDefault "capture_arguments" truth base.captureArguments
  let cacheDirectory ← fs.withDefault "cache_dir" pathDecoder base.cacheDirectory
  let ignoredAnnotations ← fs.withDefault "ignored_annotations" keySet base.ignoredAnnotations
  return ⟨includePaths, excludePattern, outputPath, useCache, captureArguments, cacheDirectory,
    ignoredAnnotations⟩

def toJson (c : Config) : Json :=
  .object [("include_paths", .array (c.includePaths.map fun p => .string p.text)),
    ("exclude_pattern", Json.ofText? c.excludePattern),
    ("output_artifact_path", .string c.outputPath.text),
    ("use_cache", .truth c.useCache),
    ("capture_arguments", .truth c.captureArguments),
    ("cache_dir", .string c.cacheDirectory.text),
    ("ignored_annotations", .array (c.ignoredAnnotations.toList.map .string))]

def relativeTo (base : Path) (c : Config) : Config :=
  { c with
    includePaths := c.includePaths.map base.join
    outputPath := base.join c.outputPath
    cacheDirectory := base.join c.cacheDirectory }

def load (tree : FileTree) (path : Path) : Except Failure Config :=
  match tree.readText path with
  | .error fault => .error (.configUnreadable path fault)
  | .ok text =>
    match decoder.run text with
    | none => .error (.configInvalid path)
    | some c => .ok (match path.parent? with
      | some base => c.relativeTo base
      | none => c)

/-- The pattern of the paths to leave out. An empty one counts as none. -/
def exclusion (c : Config) : Except Failure (Option Pattern) :=
  match c.excludePattern with
  | none => .ok none
  | some text =>
    if text.isEmpty then .ok none
    else
      match Pattern.parse? text with
      | some p => .ok (some p)
      | none => .error (.patternInvalid text)

def extractOptions (c : Config) : ExtractOptions :=
  { ignored := c.ignoredAnnotations, captureArguments := c.captureArguments }

end Config

def isExcluded (exclusion : Option Pattern) (path : Path) : Bool :=
  match exclusion with
  | some p => p.isIn path.text
  | none => false

end AnnotationIndex
