import AnnotationIndex.Log
import AnnotationIndex.Store.Entry

/-!
# Retrieving and remembering

A session uses a store through two steps. Retrieving gives the result that was kept for a file, if
it was kept under the fingerprint asked for and can still be read. Remembering keeps a result; where
that fails, all it costs is another computation.
-/

namespace AnnotationIndex

inductive Lookup where
  | absent
  | found (entry : StoredEntry)
  | unreadable
  | failed
  deriving DecidableEq, Repr

inductive StoreFault where
  | database
  deriving DecidableEq, Repr

def StoreFault.message : StoreFault → String
  | .database => "the database refused the operation"

/-- A store with a state of type `σ`. Every operation may change the state. -/
structure Backend (σ : Type) where
  get : Bucket → String → σ → Lookup × σ
  put : Bucket → String → StoredEntry → σ → Except StoreFault Unit × σ
  size : σ → Except StoreFault StoreSize × σ

/-- The use of a store, with what was reported so far. -/
structure Session (σ : Type) where
  store : σ
  counters : Counters := {}
  log : List Event := []

namespace Session

variable {σ α : Type}

def report (events : List Event) : StateM (Session σ) Unit :=
  modify fun s => { s with log := s.log ++ events }

def lookupEvents (bucket : Bucket) (key : String) : Lookup → List Event
  | .failed => [.warn .cache ("Failed to read " ++ bucket.name ++ " cache entry for " ++ key ++
      ": " ++ StoreFault.database.message)]
  | .unreadable => [.warn .cache ("Ignoring unreadable " ++ bucket.name ++ " cache entry for " ++
      key ++ ": not an entry")]
  | _ => []

def get? (b : Backend σ) (bucket : Bucket) (key : String) :
    StateM (Session σ) (Option StoredEntry) := fun s =>
  let (lookup, store) := b.get bucket key s.store
  let entry := match lookup with
    | .found entry => some entry
    | _ => none
  (entry, { s with store, log := s.log ++ lookupEvents bucket key lookup })

def put (b : Backend σ) (bucket : Bucket) (key : String) (entry : StoredEntry) :
    StateM (Session σ) (Except StoreFault Unit) := fun s =>
  let (result, store) := b.put bucket key entry s.store
  (result, { s with store })

def countHit : StateM (Session σ) Unit :=
  modify fun s => { s with counters := { s.counters with hits := s.counters.hits + 1 } }

def countMiss : StateM (Session σ) Unit :=
  modify fun s => { s with counters := { s.counters with misses := s.counters.misses + 1 } }

def countWrite : StateM (Session σ) Unit :=
  modify fun s => { s with counters := { s.counters with writes := s.counters.writes + 1 } }

/-- The result that was kept for a file under a fingerprint. -/
def retrieve (b : Backend σ) (d : Decoder α) (bucket : Bucket) (file : SourceFile)
    (fingerprint : Fingerprint) : StateM (Session σ) (Option α) := do
  match ← get? b bucket file.key with
  | none => countMiss; return none
  | some entry =>
    if entry.fingerprint = fingerprint then
      match d.run entry.payload with
      | some result => countHit; return some result
      | none =>
        report [.warn .store ("Ignoring corrupt " ++ bucket.name ++ " cache entry for " ++
          file.key ++ ": not a result")]
        countMiss
        return none
    else countMiss; return none

def remember (b : Backend σ) (bucket : Bucket) (file : SourceFile) (fingerprint : Fingerprint)
    (payload : Json) : StateM (Session σ) Unit := do
  match ← put b bucket file.key ⟨fingerprint, payload.compact⟩ with
  | .ok () => countWrite
  | .error fault => report [.warn .store ("Failed to cache " ++ bucket.name ++ " result for " ++
      file.key ++ ": " ++ fault.message)]

def stats (b : Backend σ) : StateM (Session σ) (Except StoreFault StoreStats) := fun s =>
  let (size, store) := b.size s.store
  (size.map fun size => ⟨size, s.counters⟩, { s with store })

end Session

abbrev MemoryStore := Tables StoredEntry

namespace MemoryStore

def empty : MemoryStore := Tables.empty

def size (t : MemoryStore) : StoreSize := ⟨"memory", none, fun b => (t.table b).size⟩

def backend : Backend MemoryStore where
  get bucket key t :=
    (match t.get? bucket key with
      | some entry => .found entry
      | none => .absent, t)
  put bucket key entry t := (.ok (), t.insert bucket key entry)
  size t := (.ok t.size, t)

end MemoryStore

end AnnotationIndex
