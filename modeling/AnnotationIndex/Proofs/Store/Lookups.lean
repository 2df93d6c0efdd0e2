import AnnotationIndex.Proofs.Store.Durability
import AnnotationIndex.Proofs.Store.Gives
import AnnotationIndex.Store.Durable

/-!
# Stores as what they find

A store matters to a run through what it finds under its keys. Asking a store that keeps its entries
changes nothing, and filing an entry changes what is found under one key.
-/

namespace AnnotationIndex

variable {σ α : Type}

def Backend.look (b : Backend σ) (bucket : Bucket) (key : String) (store : σ) : Lookup :=
  (b.get bucket key store).1

def Backend.file (b : Backend σ) (bucket : Bucket) (key : String) (stored? : Option StoredEntry)
    (store : σ) : σ :=
  stored?.elim store fun e => (b.put bucket key e store).2

/-- A store that finds what was filed last under a key, for the keys that it takes. -/
structure Backend.Keeps (b : Backend σ) (takes : String → Bool) : Prop where
  asked : ∀ bucket key store, (b.get bucket key store).2 = store
  put : ∀ bucket key e store bucket' key', b.look bucket' key' (b.put bucket key e store).2 =
    if takes key = true ∧ bucket' = bucket ∧ key' = key then .found e else b.look bucket' key' store
  sized : ∀ store, ∃ size, (b.size store).1 = .ok size

/-- The result that an entry holds, if it was filed under the fingerprint and can be read. -/
def Lookup.read? (d : Decoder α) (fingerprint : Fingerprint) : Lookup → Option α
  | .found e => if e.fingerprint = fingerprint then d.run e.payload else none
  | _ => none

theorem Backend.Keeps.look_file {b : Backend σ} {takes : String → Bool} (h : b.Keeps takes)
    (bucket : Bucket) (key : String) (stored? : Option StoredEntry) (store : σ) (bucket' : Bucket)
    (key' : String) :
    b.look bucket' key' (b.file bucket key stored? store) =
      if takes key = true ∧ bucket' = bucket ∧ key' = key then
        stored?.elim (b.look bucket' key' store) .found
      else b.look bucket' key' store := by
  cases stored? with
  | none => simp [file]
  | some e => exact h.put bucket key e store bucket' key'

theorem keeps_memory : MemoryStore.backend.Keeps fun _ => true where
  asked _ _ _ := rfl
  put bucket key e store bucket' key' := by
    simp only [Backend.look, MemoryStore.backend, Tables.get?_insert]
    by_cases hsame : bucket' = bucket ∧ key' = key <;> simp [hsame]
  sized store := ⟨store.size, rfl⟩

section Session

variable {b : Backend σ} {takes : String → Bool} {d : Decoder α} {bucket : Bucket}
  {file : SourceFile} {fingerprint : Fingerprint}

/-- What is retrieved is what the store finds and can be read. The store stays as it is. -/
theorem Backend.Keeps.retrieve (h : b.Keeps takes) (d : Decoder α) (bucket : Bucket)
    (file : SourceFile) (fingerprint : Fingerprint) (s : Session σ) :
    (Session.retrieve b d bucket file fingerprint s).1 =
        (b.look bucket file.key s.store).read? d fingerprint ∧
      (Session.retrieve b d bucket file fingerprint s).2.store = s.store := by
  obtain ⟨store, counters, log⟩ := s
  have hasked : b.get bucket file.key store = (b.look bucket file.key store, store) :=
    Prod.ext rfl (h.asked bucket file.key store)
  rw [Session.retrieve, bind_apply]
  simp only [Session.get?, hasked]
  cases b.look bucket file.key store with
  | found entry =>
    by_cases hfingerprint : entry.fingerprint = fingerprint
    · cases hrun : d.run entry.payload <;>
        simp only [Lookup.read?, if_pos hfingerprint, hrun] <;> exact ⟨rfl, rfl⟩
    · simp only [Lookup.read?, if_neg hfingerprint]
      exact ⟨rfl, rfl⟩
  | _ => exact ⟨rfl, rfl⟩

theorem store_of_remember (b : Backend σ) (bucket : Bucket) (file : SourceFile)
    (fingerprint : Fingerprint) (payload : Json) (s : Session σ) :
    (Session.remember b bucket file fingerprint payload s).2.store =
      b.file bucket file.key (some ⟨fingerprint, payload.compact⟩) s.store := by
  rw [Session.remember, bind_apply]
  cases hresult : (Session.put b bucket file.key ⟨fingerprint, payload.compact⟩ s).1 <;> rfl

/-- A stage that gives what the store holds for a file. Otherwise it comes to `r`, and files what
there is to file. -/
structure Caches (b : Backend σ) (d : Decoder α) (bucket : Bucket) (file : SourceFile)
    (fingerprint : Fingerprint) (r : Except Failure α) (stored? : Option StoredEntry)
    (x : Stage σ α) : Prop where
  hit : ∀ s v, (b.look bucket file.key s.store).read? d fingerprint = some v →
    (x s).1 = .ok v ∧ (x s).2.store = s.store
  miss : ∀ s, (b.look bucket file.key s.store).read? d fingerprint = none →
    (x s).1 = r ∧ (x s).2.store = b.file bucket file.key stored? s.store

theorem Caches.of_retrieve (h : b.Keeps takes) {r : Except Failure α} {stored? : Option StoredEntry}
    {next : Option α → Stage σ α} (hsome : ∀ v, next (some v) = pure v)
    (hnone : ∀ s, (next none s).1 = r ∧
      (next none s).2.store = b.file bucket file.key stored? s.store) :
    Caches b d bucket file fingerprint r stored?
      (liftM (Session.retrieve b d bucket file fingerprint) >>= next : Stage σ α) := by
  have hbind : ∀ s, (liftM (Session.retrieve b d bucket file fingerprint) >>= next : Stage σ α) s =
      next (Session.retrieve b d bucket file fingerprint s).1
        (Session.retrieve b d bucket file fingerprint s).2 := fun _ => rfl
  constructor
  · intro s v hv
    obtain ⟨hresult, hstore⟩ := h.retrieve d bucket file fingerprint s
    rw [hbind, hresult, hv, hsome]
    exact ⟨rfl, hstore⟩
  · intro s hv
    obtain ⟨hresult, hstore⟩ := h.retrieve d bucket file fingerprint s
    rw [hbind, hresult, hv, ← hstore]
    exact hnone _

/-- If what the store finds for the file is the result that the stage comes to without it, the stage
gives that result. -/
theorem Caches.gives {inv : σ → Prop} {r : Except Failure α} {stored? : Option StoredEntry}
    {x : Stage σ α} (h : Caches b d bucket file fingerprint r stored? x)
    (hfound : ∀ store v, inv store →
      (b.look bucket file.key store).read? d fingerprint = some v → r = .ok v)
    (hfile : ∀ store, inv store → inv (b.file bucket file.key stored? store)) : Gives inv x r := by
  intro s hs
  cases hread : (b.look bucket file.key s.store).read? d fingerprint with
  | some v =>
    obtain ⟨hresult, hstore⟩ := h.hit s v hread
    rw [hresult, hstore, hfound s.store v hs hread]
    exact ⟨rfl, hs⟩
  | none =>
    obtain ⟨hresult, hstore⟩ := h.miss s hread
    rw [hresult, hstore]
    exact ⟨rfl, hfile s.store hs⟩

end Session

end AnnotationIndex
