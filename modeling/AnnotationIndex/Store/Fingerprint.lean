import AnnotationIndex.Digest.Sha256
import AnnotationIndex.Path
import AnnotationIndex.Text.Utf8

/-!
# Fingerprints

The fingerprint of a file is the digest of its content. A salt makes it depend on more than that.
-/

namespace AnnotationIndex

open Digest

structure Fingerprint where
  text : String
  deriving DecidableEq, Repr, Inhabited

namespace Fingerprint

def ofBytes (content : List UInt8) : Fingerprint := ⟨sha256Hex content⟩

def salted (f : Fingerprint) (salt : String) : Fingerprint := ⟨f.text ++ ":" ++ salt⟩

end Fingerprint

def shortDigest (text : String) : String :=
  String.ofList ((sha256Hex (Text.utf8Bytes text)).toList.take 16)

/-- A source file with the fingerprint of the content it was found with. -/
structure SourceFile where
  path : Path
  fingerprint : Fingerprint
  deriving DecidableEq, Repr

/-- The key under which results for a file are kept. Files whose paths are no texts may share it. -/
def SourceFile.key (f : SourceFile) : String := f.path.text

end AnnotationIndex
