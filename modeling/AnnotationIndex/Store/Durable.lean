import AnnotationIndex.Failure

/-!
# The durable store

A store that outlasts a run keeps its tables in a file of a directory. It is opened before a run and
closed after it; in between it holds the tables. Values are the JSON texts of entries, replaced
whole. A second file in the directory guards the first.
-/

namespace AnnotationIndex

structure DurableStore where
  directory : Path
  tables : Tables String

namespace Tables

def toJson (t : Tables String) : Json :=
  .object (Bucket.all.map fun b => (b.name, .object ((t.table b).entries.map fun (k, v) =>
    (k, .string v))))

open Decoder in
def decoder : Decoder (Tables String) := fun levels j => do
  let fs ← fields (Bucket.all.map Bucket.name) true levels j
  let resolve ← fs.required Bucket.resolve.name (keyMap text)
  let filter ← fs.required Bucket.filter.name (keyMap text)
  let extract ← fs.required Bucket.extract.name (keyMap text)
  return ⟨resolve, filter, extract⟩

def content (t : Tables String) : List UInt8 := Text.utf8Bytes t.toJson.compact

/-- The tables that a file holds. An empty file holds empty tables. -/
def ofContent? (content : List UInt8) : Option (Tables String) :=
  if content.isEmpty then some empty else (Text.strictText? content).bind decoder.run

end Tables

namespace DurableStore

def keyLimit : Nat := 511

def isKey (key : String) : Bool := !key.isEmpty && key.utf8ByteSize ≤ keyLimit

def get (bucket : Bucket) (key : String) (s : DurableStore) : Lookup :=
  if key.isEmpty then .failed
  else
    match s.tables.get? bucket key with
    | none => .absent
    | some value =>
      match StoredEntry.decoder.run value with
      | some entry => .found entry
      | none => .unreadable

def putRaw (bucket : Bucket) (key value : String) (s : DurableStore) :
    Except StoreFault DurableStore :=
  if isKey key then .ok { s with tables := s.tables.insert bucket key value }
  else .error .database

def size (s : DurableStore) : StoreSize :=
  ⟨"lmdb", some s.directory, fun b => (s.tables.table b).size⟩

def backend : Backend DurableStore where
  get bucket key s := (s.get bucket key, s)
  put bucket key entry s :=
    match s.putRaw bucket key entry.toJson.compact with
    | .ok s => (.ok (), s)
    | .error fault => (.error fault, s)
  size s := (.ok s.size, s)

def dataFile (directory : Path) : Path := directory.join (.ofText "data.mdb")

def lockFile (directory : Path) : Path := directory.join (.ofText "lock.mdb")

/-- Makes sure that there is a file to guard the tables. -/
def guarded (tree : FileTree) (directory : Path) : Except Fault FileTree :=
  if tree.isFile (lockFile directory) then .ok tree else tree.write (lockFile directory) []

def readTables (tree : FileTree) (directory : Path) : Option (Tables String × FileTree) :=
  let keep (tables : Tables String) : Option (Tables String × FileTree) :=
    (tree.write (dataFile directory) tables.content).toOption.map (tables, ·)
  match tree.read (dataFile directory) with
  | .ok content => (Tables.ofContent? content).bind keep
  | .error .notFound => keep .empty
  | .error _ => none

def openAt (tree : FileTree) (directory : Path) : Except Failure DurableStore × FileTree :=
  match tree.ensureDirectories directory with
  | (.error fault, tree) => (.error (.cacheDirectory directory fault), tree)
  | (.ok (), tree) =>
    if !tree.isDirectory directory then (.error (.cacheNotOpened directory), tree)
    else
      match guarded tree directory with
      | .error _ => (.error (.cacheNotOpened directory), tree)
      | .ok tree =>
        match readTables tree directory with
        | none => (.error (.cacheNotOpened directory), tree)
        | some (tables, tree) => (.ok ⟨directory, tables⟩, tree)

/-- The tree in which the tables of a store are kept. -/
def close (s : DurableStore) (tree : FileTree) : FileTree :=
  match tree.write (dataFile s.directory) s.tables.content with
  | .ok tree => tree
  | .error _ => tree

def removeIfPresent (tree : FileTree) (path : Path) : Except Failure FileTree :=
  if tree.contains path then
    match tree.removeFile path with
    | .ok tree => .ok tree
    | .error fault => .error (.cacheFileNotRemoved path fault)
  else .ok tree

/-- Removes the files of the store in a directory and leaves the directory. -/
def clear (tree : FileTree) (directory : Path) : Except Failure Unit × FileTree :=
  match removeIfPresent tree (dataFile directory) with
  | .error f => (.error f, tree)
  | .ok tree =>
    match removeIfPresent tree (lockFile directory) with
    | .error f => (.error f, tree)
    | .ok tree => (.ok (), tree)

end DurableStore

end AnnotationIndex
