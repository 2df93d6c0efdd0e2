import AnnotationIndex.Java.Document
import AnnotationIndex.Index.Record
import AnnotationIndex.Proofs.Store.Gives

/-!
# Computations that are remembered

A memoized computation gives what is filed for it or else files what it gives. Once it has filed its
result, it gives that result again without a miss and without a write, for as long as the entry is
in the store. `Replays asks x s` says this of a whole computation: after `x` was run from the session
`s`, it replays from every session whose store still has the entries that are asked for.
-/

namespace AnnotationIndex

open Java

variable {σ α β : Type}

theorem Stage.bind_ok {x : Stage σ α} {f : α → Stage σ β} {s : Session σ} {a : α}
    (h : (x s).1 = .ok a) : (x >>= f : Stage σ β) s = f a (x s).2 := by
  change ExceptT.bindCont f (x s).1 (x s).2 = f a (x s).2
  rw [h]
  rfl

theorem Stage.bind_error {x : Stage σ α} {f : α → Stage σ β} {s : Session σ} {e : Failure}
    (h : (x s).1 = .error e) : (x >>= f : Stage σ β) s = (.error e, (x s).2) := by
  change ExceptT.bindCont f (x s).1 (x s).2 = (.error e, (x s).2)
  rw [h]
  rfl

theorem Stage.bind_congr {x : Stage σ α} {f g : α → Stage σ β} {s : Session σ}
    (h : ∀ a, (x s).1 = .ok a → f a (x s).2 = g a (x s).2) :
    (x >>= f : Stage σ β) s = (x >>= g : Stage σ β) s := by
  cases hx : (x s).1 with
  | error e => rw [bind_error hx, bind_error hx]
  | ok a => rw [bind_ok hx, bind_ok hx, h a hx]

theorem Stage.of_bind {P : Session σ → Prop} {x : Stage σ α} {f : α → Stage σ β} {s : Session σ}
    (hx : P (x s).2) (hf : ∀ a, (x s).1 = .ok a → P (f a (x s).2).2) :
    P ((x >>= f : Stage σ β) s).2 := by
  cases h : (x s).1 with
  | error e =>
    rw [bind_error h]
    exact hx
  | ok a =>
    rw [bind_ok h]
    exact hf a h

theorem Stage.of_bind_ok {x : Stage σ α} {f : α → Stage σ β} {s : Session σ} {r : β}
    (h : ((x >>= f : Stage σ β) s).1 = .ok r) :
    ∃ a, (x s).1 = .ok a ∧ (f a (x s).2).1 = .ok r := by
  cases hx : (x s).1 with
  | error e =>
    rw [bind_error hx] at h
    cases h
  | ok a =>
    rw [bind_ok hx] at h
    exact ⟨a, rfl, h⟩

/-- From this session the computation has the given result, adds nothing to the store, finds
everything that it looks up and files nothing. -/
structure Quiet (x : StateM (Session MemoryStore) β) (s : Session MemoryStore) (r : β) : Prop where
  result : (x s).1 = r
  store : (x s).2.store = s.store
  misses : (x s).2.counters.misses = s.counters.misses
  writes : (x s).2.counters.writes = s.counters.writes

namespace Quiet

variable {s : Session MemoryStore}

theorem pure (r : β) : Quiet (Pure.pure r) s r := ⟨rfl, rfl, rfl, rfl⟩

theorem report (events : List Event) : Quiet (Session.report events) s () := ⟨rfl, rfl, rfl, rfl⟩

theorem bind {x : StateM (Session MemoryStore) α} {f : α → StateM (Session MemoryStore) β} {a : α}
    {r : β} (hx : Quiet x s a) (hf : Quiet (f a) (x s).2 r) : Quiet (x >>= f) s r := by
  have hbind : (x >>= f) s = f a (x s).2 := by
    rw [← hx.result]
    rfl
  exact ⟨by rw [hbind, hf.result], by rw [hbind, hf.store, hx.store],
    by rw [hbind, hf.misses, hx.misses], by rw [hbind, hf.writes, hx.writes]⟩

end Quiet

def Bucket.reads : Bucket → String → Bool
  | .resolve, payload => (Header.decoder.run payload).isSome
  | .filter, payload => ((Decoder.list Decoder.text).run payload).isSome
  | .extract, payload => ((Decoder.list TypeRecords.decoder).run payload).isSome

abbrev Asks := Bucket → String → Fingerprint → Prop

/-- The second store still has what can be read in the first and is asked for. -/
def StillFiled (asks : Asks) (store store' : MemoryStore) : Prop :=
  ∀ bucket key fingerprint payload, asks bucket key fingerprint →
    store.get? bucket key = some ⟨fingerprint, payload⟩ → bucket.reads payload = true →
      store'.get? bucket key = some ⟨fingerprint, payload⟩

namespace StillFiled

variable {asks : Asks} {store store' store'' : MemoryStore}

theorem refl (asks : Asks) (store : MemoryStore) : StillFiled asks store store :=
  fun _ _ _ _ _ hget _ => hget

theorem trans (h : StillFiled asks store store') (h' : StillFiled asks store' store'') :
    StillFiled asks store store'' :=
  fun bucket key fingerprint payload hasks hget hreads =>
    h' bucket key fingerprint payload hasks (h bucket key fingerprint payload hasks hget hreads)
      hreads

/-- An entry may be replaced that is not asked for or cannot be read. -/
theorem insert {bucket : Bucket} {key : String} {fingerprint : Fingerprint}
    (hasks : ∀ other, asks bucket key other → other = fingerprint)
    (hnone : ∀ payload, store.get? bucket key = some ⟨fingerprint, payload⟩ →
      bucket.reads payload = false) (payload : String) :
    StillFiled asks store (store.insert bucket key ⟨fingerprint, payload⟩) := by
  intro bucket' key' fingerprint' payload' hasks' hget hreads
  rw [Tables.get?_insert]
  split
  · rename_i hsame
    obtain ⟨rfl, rfl⟩ := hsame
    obtain rfl := hasks fingerprint' hasks'
    rw [hnone payload' hget] at hreads
    cases hreads
  · exact hget

end StillFiled

/-- The computation gives what is filed for a file under a fingerprint. If nothing is, it gives `r`,
which it files in case of `files`. -/
structure Memoizes (d : Decoder α) (document : α → Json) (bucket : Bucket) (file : SourceFile)
    (fingerprint : Fingerprint) (wrap : α → β) (r : β) (files : Prop)
    (x : StateM (Session MemoryStore) β) : Prop where
  hit : ∀ s v, Gives.Filed s.store d bucket file fingerprint v → Quiet x s (wrap v)
  miss : ∀ s, (∀ v, ¬Gives.Filed s.store d bucket file fingerprint v) → (x s).1 = r
  unfiled : ¬files → ∀ s, (∀ v, ¬Gives.Filed s.store d bucket file fingerprint v) →
    (x s).2.store = s.store
  filed : files → ∃ v, r = wrap v ∧ ∀ s,
    (∀ v, ¬Gives.Filed s.store d bucket file fingerprint v) →
      (x s).2.store = s.store.insert bucket file.key ⟨fingerprint, (document v).compact⟩

section Retrieve

variable {d : Decoder α} {bucket : Bucket} {file : SourceFile} {fingerprint : Fingerprint}
  {s : Session MemoryStore}

theorem get?_eq (bucket : Bucket) (key : String) (s : Session MemoryStore) :
    Session.get? MemoryStore.backend bucket key s = (s.store.get? bucket key, s) := by
  cases hget : s.store.get? bucket key with
  | none => simp [Session.get?, MemoryStore.backend, hget, Session.lookupEvents]
  | some entry => simp [Session.get?, MemoryStore.backend, hget, Session.lookupEvents]

theorem retrieve_filed {v : α} (h : Gives.Filed s.store d bucket file fingerprint v) :
    Quiet (Session.retrieve MemoryStore.backend d bucket file fingerprint) s (some v) := by
  obtain ⟨payload, hget, hrun⟩ := h
  have hfound : Quiet (Session.get? MemoryStore.backend bucket file.key) s
      (some ⟨fingerprint, payload⟩) := by
    rw [← hget]
    constructor <;> rw [get?_eq]
  refine hfound.bind ?_
  simp only [if_true, hrun]
  exact ⟨rfl, rfl, rfl, rfl⟩

theorem retrieve_unfiled (h : ∀ v, ¬Gives.Filed s.store d bucket file fingerprint v) :
    (Session.retrieve MemoryStore.backend d bucket file fingerprint s).1 = none ∧
      (Session.retrieve MemoryStore.backend d bucket file fingerprint s).2.store = s.store := by
  rw [Session.retrieve, bind_apply, get?_eq]
  cases hget : s.store.get? bucket file.key with
  | none => exact ⟨rfl, rfl⟩
  | some entry =>
    by_cases hfingerprint : entry.fingerprint = fingerprint
    · cases hrun : d.run entry.payload with
      | none =>
        simp only [if_pos hfingerprint, hrun]
        exact ⟨rfl, rfl⟩
      | some v => exact absurd ⟨entry.payload, by rw [hget, ← hfingerprint], hrun⟩ (h v)
    · simp only [if_neg hfingerprint]
      exact ⟨rfl, rfl⟩

end Retrieve

namespace Memoizes

variable {d : Decoder α} {document : α → Json} {bucket : Bucket} {file : SourceFile}
  {fingerprint : Fingerprint} {wrap : α → β} {r : β} {files : Prop}
  {x : StateM (Session MemoryStore) β}

/-- A computation that starts with a retrieval is memoized if it gives what is found, and gives and
files the same from all sessions where nothing is. -/
theorem of_retrieve {next : Option α → StateM (Session MemoryStore) β}
    (hsome : ∀ s v, Quiet (next (some v)) s (wrap v)) (hnone : ∀ s, (next none s).1 = r)
    (hunfiled : ¬files → ∀ s, (next none s).2.store = s.store)
    (hfiled : files → ∃ v, r = wrap v ∧ ∀ s, (next none s).2.store =
      s.store.insert bucket file.key ⟨fingerprint, (document v).compact⟩) :
    Memoizes d document bucket file fingerprint wrap r files
      (Session.retrieve MemoryStore.backend d bucket file fingerprint >>= next) := by
  have habsent : ∀ s, (∀ v, ¬Gives.Filed s.store d bucket file fingerprint v) → ∃ s',
      s'.store = s.store ∧
        (Session.retrieve MemoryStore.backend d bucket file fingerprint >>= next) s =
          next none s' := by
    intro s h
    obtain ⟨hresult, hstore⟩ := retrieve_unfiled h
    exact ⟨_, hstore, by rw [← hresult]; rfl⟩
  constructor
  · intro s v h
    exact (retrieve_filed h).bind (hsome _ v)
  · intro s h
    obtain ⟨s', -, heq⟩ := habsent s h
    rw [heq, hnone]
  · intro hfiles s h
    obtain ⟨s', hstore, heq⟩ := habsent s h
    rw [heq, hunfiled hfiles, hstore]
  · intro hfiles
    obtain ⟨v, hv, hinsert⟩ := hfiled hfiles
    refine ⟨v, hv, fun s h => ?_⟩
    obtain ⟨s', hstore, heq⟩ := habsent s h
    rw [heq, hinsert, hstore]

theorem of_stageRetrieve {wrap : α → Except Failure β} {r : Except Failure β}
    {next : Option α → Stage MemoryStore β}
    (hsome : ∀ s v, Quiet (next (some v)) s (wrap v)) (hnone : ∀ s, (next none s).1 = r)
    (hunfiled : ¬files → ∀ s, (next none s).2.store = s.store)
    (hfiled : files → ∃ v, r = wrap v ∧ ∀ s, (next none s).2.store =
      s.store.insert bucket file.key ⟨fingerprint, (document v).compact⟩) :
    Memoizes d document bucket file fingerprint wrap r files
      (liftM (Session.retrieve MemoryStore.backend d bucket file fingerprint) >>= next :
        Stage MemoryStore β) := of_retrieve hsome hnone hunfiled hfiled

/-- A memoized computation gives its result whatever the store holds, if everything that is filed
for it is its result. -/
theorem gives {inv : MemoryStore → Prop}
    (h : Memoizes d document bucket file fingerprint wrap r files x)
    (hfound : ∀ store v, inv store → Gives.Filed store d bucket file fingerprint v → r = wrap v)
    (hkeeps : ∀ store v, inv store → r = wrap v →
      inv (store.insert bucket file.key ⟨fingerprint, (document v).compact⟩)) :
    Gives inv x r := by
  intro s hs
  by_cases hfiled : ∃ v, Gives.Filed s.store d bucket file fingerprint v
  · obtain ⟨v, hv⟩ := hfiled
    have hquiet := h.hit s v hv
    rw [hquiet.result, hquiet.store, hfound s.store v hs hv]
    exact ⟨rfl, hs⟩
  · have habsent : ∀ v, ¬Gives.Filed s.store d bucket file fingerprint v :=
      fun v hv => hfiled ⟨v, hv⟩
    refine ⟨h.miss s habsent, ?_⟩
    by_cases hfiles : files
    · obtain ⟨v, hv, hinsert⟩ := h.filed hfiles
      rw [hinsert s habsent]
      exact hkeeps s.store v hs hv
    · rw [h.unfiled hfiles s habsent]
      exact hs

end Memoizes

/-- After the computation was run from this session, it gives the same again from every session
whose store still has what was asked for, and needs nothing more. -/
structure Replays (asks : Asks) (x : StateM (Session MemoryStore) β) (s : Session MemoryStore) :
    Prop where
  still : StillFiled asks s.store (x s).2.store
  again : ∀ s', StillFiled asks (x s).2.store s'.store → Quiet x s' (x s).1

namespace Replays

variable {asks : Asks} {s : Session MemoryStore}

theorem of_quiet {x : StateM (Session MemoryStore) β} (r : β) (h : ∀ s, Quiet x s r) :
    Replays asks x s := by
  refine ⟨?_, fun s' _ => ?_⟩
  · rw [(h s).store]
    exact .refl asks s.store
  · rw [(h s).result]
    exact h s'

theorem bind {x : StateM (Session MemoryStore) α} {f : α → StateM (Session MemoryStore) β}
    (hx : Replays asks x s) (hf : Replays asks (f (x s).1) (x s).2) :
    Replays asks (x >>= f) s := by
  refine ⟨hx.still.trans hf.still, fun s' hs' => ?_⟩
  have hfirst := hx.again s' (hf.still.trans hs')
  refine hfirst.bind (hf.again (x s').2 ?_)
  rw [hfirst.store]
  exact hs'

theorem lift {x : StateM (Session MemoryStore) α} (hx : Replays asks x s) :
    Replays asks (liftM x : Stage MemoryStore α) s := by
  refine ⟨hx.still, fun s' hs' => ?_⟩
  have hquiet := hx.again s' hs'
  exact ⟨congrArg Except.ok hquiet.result, hquiet.store, hquiet.misses, hquiet.writes⟩

theorem andThen {x : Stage MemoryStore α} {f : α → Stage MemoryStore β} (hx : Replays asks x s)
    (hf : ∀ a, (x s).1 = .ok a → Replays asks (f a) (x s).2) :
    Replays asks (x >>= f : Stage MemoryStore β) s := by
  have hthen : Replays asks (ExceptT.bindCont f (x s).1) (x s).2 := by
    cases hresult : (x s).1 with
    | error e => exact of_quiet _ fun _ => Quiet.pure (Except.error e)
    | ok a => exact hf a hresult
  exact bind hx hthen

/-- A memoized computation replays if what it files can be read back. -/
theorem of_memoizes {d : Decoder α} {document : α → Json} {bucket : Bucket} {file : SourceFile}
    {fingerprint : Fingerprint} {wrap : α → β} {r : β} {files : Prop}
    {x : StateM (Session MemoryStore) β}
    (h : Memoizes d document bucket file fingerprint wrap r files x)
    (hreads : ∀ payload, bucket.reads payload = (d.run payload).isSome)
    (hasks : asks bucket file.key fingerprint)
    (hsame : ∀ other, asks bucket file.key other → other = fingerprint) (hfiles : files)
    (hback : ∀ v, r = wrap v → d.run (document v).compact = some v) :
    Replays asks x s := by
  -- What replays is the entry: it is there afterwards, found or filed.
  have hentry : ∀ v, Gives.Filed (x s).2.store d bucket file fingerprint v →
      ∀ s', StillFiled asks (x s).2.store s'.store → Quiet x s' (wrap v) := by
    rintro v ⟨payload, hget, hrun⟩ s' hs'
    refine h.hit s' v ⟨payload, hs' _ _ _ _ hasks hget ?_, hrun⟩
    rw [hreads, hrun]
    rfl
  by_cases hfiled : ∃ v, Gives.Filed s.store d bucket file fingerprint v
  · obtain ⟨v, hv⟩ := hfiled
    have hquiet := h.hit s v hv
    refine ⟨?_, ?_⟩
    · rw [hquiet.store]
      exact .refl asks s.store
    · rw [hquiet.result]
      exact hentry v (hquiet.store ▸ hv)
  · have habsent : ∀ v, ¬Gives.Filed s.store d bucket file fingerprint v :=
      fun v hv => hfiled ⟨v, hv⟩
    obtain ⟨v, hv, hinsert⟩ := h.filed hfiles
    have hstore := hinsert s habsent
    refine ⟨?_, ?_⟩
    · rw [hstore]
      refine .insert hsame (fun payload hget => ?_) _
      rw [hreads]
      cases hrun : d.run payload with
      | none => rfl
      | some w => exact absurd ⟨payload, hget, hrun⟩ (habsent w)
    · rw [h.miss s habsent, hv]
      refine hentry v ⟨(document v).compact, ?_, hback v hv⟩
      rw [hstore, Tables.get?_insert, if_pos ⟨rfl, rfl⟩]

end Replays

end AnnotationIndex
