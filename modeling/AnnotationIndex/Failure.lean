import AnnotationIndex.Index.Loader
import AnnotationIndex.Store.Session

/-!
# Failures

What can go wrong in a run, with its wording. A failure is told as a chain of messages, from the
outermost to the cause.
-/

namespace AnnotationIndex

inductive ArtifactError where
  | notAnArtifact
  | unsupportedVersion (version : Nat)
  deriving DecidableEq, Repr

inductive Failure where
  | configUnreadable (path : Path) (fault : Fault)
  | configInvalid (path : Path)
  | patternInvalid (pattern : String)
  | outputEmpty
  | outputIsDirectory (path : Path)
  | includeUnreadable (path : Path) (fault : Fault)
  /-- A path that is no text cannot be part of the artifact. -/
  | artifactNotRendered
  | outputDirectory (parent : Path) (fault : Fault)
  | artifactNotWritten (temporary : Path) (fault : Fault)
  | artifactNotReplaced (path : Path) (fault : Fault)
  | artifactUnreadable (path : Path) (fault : Fault)
  | artifactInvalid (path : Path) (cause : ArtifactError)
  | artifactRefused (cause : ArtifactError)
  | cacheDirectory (path : Path) (fault : Fault)
  | cacheNotOpened (path : Path)
  | cacheFileNotRemoved (path : Path) (fault : Fault)
  | store (fault : StoreFault)
  | load (error : LoadError)
  deriving DecidableEq, Repr

/-- One message of a chain. Causes outside the program are told apart from its own words. -/
inductive Link where
  | words (text : String)
  | fault (cause : Fault)
  | json
  | pattern
  | database
  deriving DecidableEq, Repr

def Link.message : Link → String
  | .words text => text
  | .fault f => f.message
  | .json => "not a document of the expected form"
  | .pattern => "not a pattern"
  | .database => StoreFault.database.message

def formatVersion : Nat := 1

def ArtifactError.chain : ArtifactError → List Link
  | .notAnArtifact => [.words "Failed to parse artifact JSON", .json]
  | .unsupportedVersion version => [.words ("Unsupported artifact format version " ++
      toString version ++ " (this reader understands " ++ toString formatVersion ++ ")")]

namespace Failure

def chain : Failure → List Link
  | configUnreadable path fault => [.words ("Failed to read config file: " ++ path.text), .fault fault]
  | configInvalid path => [.words ("Invalid config file: " ++ path.text), .json]
  | patternInvalid pattern => [.words ("Invalid exclude_pattern '" ++ pattern ++ "'"), .pattern]
  | outputEmpty => [.words "output_artifact_path is empty"]
  | outputIsDirectory path => [.words ("output_artifact_path is a directory: " ++ path.text)]
  | includeUnreadable path fault =>
    [.words ("Include path is not readable: " ++ path.text), .fault fault]
  | artifactNotRendered => [.words "Failed to serialize artifact", .json]
  | outputDirectory parent fault =>
    [.words ("Failed to create output directory: " ++ parent.text), .fault fault]
  | artifactNotWritten temporary fault =>
    [.words ("Failed to write artifact: " ++ temporary.text), .fault fault]
  | artifactNotReplaced path fault =>
    [.words ("Failed to replace artifact: " ++ path.text), .fault fault]
  | artifactUnreadable path fault =>
    [.words ("Failed to read artifact: " ++ path.text), .fault fault]
  | artifactInvalid path cause => .words ("Invalid artifact: " ++ path.text) :: cause.chain
  | artifactRefused cause => cause.chain
  | cacheDirectory path fault =>
    [.words ("Failed to create cache directory: " ++ path.text), .fault fault]
  | cacheNotOpened path => [.words ("Failed to create/open cache env: " ++ path.text), .database]
  | cacheFileNotRemoved path fault =>
    [.words ("Failed to remove cache file: " ++ path.text), .fault fault]
  | store .database => [.database]
  | load error => [.words error.message]

def headline (f : Failure) : String := (f.chain.head?.map Link.message).getD ""

def message (f : Failure) : String := ": ".intercalate (f.chain.map Link.message)

end Failure

end AnnotationIndex
