import AnnotationIndex.Json.Decoder
import AnnotationIndex.Store.Fingerprint

/-!
# Stored entries

Each stage of a run keeps one result for each file, next to the fingerprint of what the result was
computed from.
-/

namespace AnnotationIndex

inductive Bucket where
  | resolve | filter | extract
  deriving DecidableEq, Repr

namespace Bucket

def all : List Bucket := [.resolve, .filter, .extract]

def name : Bucket → String
  | .resolve => "resolve"
  | .filter => "filter"
  | .extract => "extract"

end Bucket

/-- A result as JSON text, and the fingerprint it is filed under. -/
structure StoredEntry where
  fingerprint : Fingerprint
  payload : String
  deriving DecidableEq, Repr

namespace StoredEntry

def toJson (e : StoredEntry) : Json :=
  .object [("fingerprint", .string e.fingerprint.text), ("payload", .string e.payload)]

open Decoder in
def decoder : Decoder StoredEntry := fun levels j => do
  let fs ← fields ["fingerprint", "payload"] false levels j
  let fingerprint ← fs.required "fingerprint" text
  let payload ← fs.required "payload" text
  return ⟨⟨fingerprint⟩, payload⟩

end StoredEntry

structure Tables (α : Type) where
  resolve : KeyMap String α
  filter : KeyMap String α
  extract : KeyMap String α

namespace Tables

variable {α : Type}

def empty : Tables α := ⟨.empty, .empty, .empty⟩

def table (t : Tables α) : Bucket → KeyMap String α
  | .resolve => t.resolve
  | .filter => t.filter
  | .extract => t.extract

def get? (t : Tables α) (bucket : Bucket) (key : String) : Option α := (t.table bucket).get? key

def insert (t : Tables α) (bucket : Bucket) (key : String) (value : α) : Tables α :=
  match bucket with
  | .resolve => { t with resolve := t.resolve.insert key value }
  | .filter => { t with filter := t.filter.insert key value }
  | .extract => { t with extract := t.extract.insert key value }

theorem get?_insert (t : Tables α) (bucket other : Bucket) (key key' : String) (value : α) :
    (t.insert bucket key value).get? other key' =
      if other = bucket ∧ key' = key then some value else t.get? other key' := by
  cases bucket <;> cases other <;> simp [insert, get?, table, KeyMap.get?_insert]

end Tables

structure Counters where
  hits : Nat := 0
  misses : Nat := 0
  writes : Nat := 0
  deriving DecidableEq, Repr

structure StoreSize where
  backend : String
  location : Option Path
  entries : Bucket → Nat

structure StoreStats where
  size : StoreSize
  counters : Counters

def StoreStats.toJson (s : StoreStats) : Json :=
  .object [("backend", .string s.size.backend),
    ("location", Json.ofText? (s.size.location.map Path.text)),
    ("hits", .ofNat s.counters.hits), ("misses", .ofNat s.counters.misses),
    ("writes", .ofNat s.counters.writes),
    ("entries", .object ([Bucket.extract, .filter, .resolve].map fun b =>
      (b.name, .ofNat (s.size.entries b))))]

end AnnotationIndex
