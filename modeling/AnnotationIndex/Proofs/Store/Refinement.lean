import AnnotationIndex.Proofs.Index.Collections
import AnnotationIndex.Proofs.Store.Durability

/-!
# A durable store behaves like one in memory

Requests are answered alike by a store in memory and by a durable one, however often the durable one
is closed and opened again in between. Only its counters start anew each time.
-/

namespace AnnotationIndex

def textsOf (m : MemoryStore) : Tables String :=
  ⟨m.resolve.mapValues (·.toJson.compact), m.filter.mapValues (·.toJson.compact),
    m.extract.mapValues (·.toJson.compact)⟩

theorem table_textsOf (m : MemoryStore) (b : Bucket) :
    (textsOf m).table b = (m.table b).mapValues (·.toJson.compact) := by
  cases b <;> rfl

theorem textsOf_empty : textsOf MemoryStore.empty = Tables.empty := rfl

theorem get?_textsOf (m : MemoryStore) (b : Bucket) (key : String) :
    (textsOf m).get? b key = (m.get? b key).map (·.toJson.compact) := by
  rw [Tables.get?, table_textsOf, KeyMap.get?_mapValues]
  rfl

theorem textsOf_insert (m : MemoryStore) (b : Bucket) (key : String) (entry : StoredEntry) :
    textsOf (m.insert b key entry) = (textsOf m).insert b key entry.toJson.compact := by
  have hinsert : ∀ t : KeyMap String StoredEntry, (t.insert key entry).mapValues (·.toJson.compact) =
      (t.mapValues (·.toJson.compact)).insert key entry.toJson.compact :=
    fun t => @KeyMap.mapValues_alter _ _ (·.toJson.compact) (fun _ => entry)
      (fun _ => entry.toJson.compact) (fun _ => rfl) t key
  cases b <;> simp only [textsOf, Tables.insert, hinsert]

theorem size_textsOf (m : MemoryStore) (b : Bucket) :
    ((textsOf m).table b).size = (m.table b).size := by
  simp [table_textsOf, KeyMap.mapValues, KeyMap.size]

instance : Add Counters :=
  ⟨fun a b => ⟨a.hits + b.hits, a.misses + b.misses, a.writes + b.writes⟩⟩

theorem Counters.add_zero (c : Counters) : c + {} = c := rfl

/-- A session with a durable store holds the entries of one in memory. Its counters started when
those in memory stood at `opened`. -/
structure Alike (directory : Path) (opened : Counters) (m : Session MemoryStore)
    (d : Session DurableStore) : Prop where
  store : d.store = ⟨directory, textsOf m.store⟩
  counters : m.counters = opened + d.counters
  log : m.log = d.log

/-- The computations give the same from sessions that are alike, and leave them alike. -/
def Simulates {α : Type} (x : StateM (Session MemoryStore) α)
    (y : StateM (Session DurableStore) α) : Prop :=
  ∀ directory opened m d, Alike directory opened m d →
    (x m).1 = (y d).1 ∧ Alike directory opened (x m).2 (y d).2

namespace Simulates

variable {α β : Type}

theorem pure (a : α) : Simulates (Pure.pure a) (Pure.pure a) :=
  fun _ _ _ _ h => ⟨rfl, h⟩

theorem bind {x : StateM (Session MemoryStore) α} {y : StateM (Session DurableStore) α}
    {f : α → StateM (Session MemoryStore) β} {g : α → StateM (Session DurableStore) β}
    (hx : Simulates x y) (hf : ∀ a, Simulates (f a) (g a)) : Simulates (x >>= f) (y >>= g) := by
  intro directory opened m d h
  obtain ⟨hresult, hafter⟩ := hx directory opened m d h
  change (f (x m).1 (x m).2).1 = (g (y d).1 (y d).2).1 ∧
    Alike directory opened (f (x m).1 (x m).2).2 (g (y d).1 (y d).2).2
  rw [← hresult]
  exact hf _ directory opened _ _ hafter

theorem report (events : List Event) :
    Simulates (Session.report events) (Session.report events) :=
  fun _ _ _ _ h => ⟨rfl, h.store, h.counters, congrArg (· ++ events) h.log⟩

theorem count {f : Counters → Counters} (hf : ∀ a b, f (a + b) = a + f b) :
    Simulates (modify fun s => { s with counters := f s.counters })
      (modify fun s => { s with counters := f s.counters }) :=
  fun _ opened _ d h =>
    ⟨rfl, h.store, (congrArg f h.counters).trans (hf opened d.counters), h.log⟩

theorem countHit : Simulates Session.countHit Session.countHit :=
  count (f := fun c => { c with hits := c.hits + 1 }) fun _ _ => rfl

theorem countMiss : Simulates Session.countMiss Session.countMiss :=
  count (f := fun c => { c with misses := c.misses + 1 }) fun _ _ => rfl

theorem countWrite : Simulates Session.countWrite Session.countWrite :=
  count (f := fun c => { c with writes := c.writes + 1 }) fun _ _ => rfl

variable {key : String} {file : SourceFile}

theorem get? (b : Bucket) (hkey : DurableStore.isKey key = true) :
    Simulates (Session.get? MemoryStore.backend b key)
      (Session.get? DurableStore.backend b key) := by
  intro directory opened m d h
  have hne : key.isEmpty = false := by
    simp only [DurableStore.isKey, Bool.and_eq_true, Bool.not_eq_true'] at hkey
    exact hkey.1
  have hlookup : (MemoryStore.backend.get b key m.store).1 = d.store.get b key := by
    simp only [DurableStore.get, hne, h.store, get?_textsOf, MemoryStore.backend,
      Bool.false_eq_true, if_false]
    cases m.store.get? b key with
    | none => rfl
    | some entry => simp only [Option.map_some, StoredEntry.run_compact]
  simp only [Session.get?, hlookup, DurableStore.backend, true_and]
  exact ⟨h.store, h.counters, congrArg (· ++ _) h.log⟩

theorem put (b : Bucket) (hkey : DurableStore.isKey key = true) (entry : StoredEntry) :
    Simulates (Session.put MemoryStore.backend b key entry)
      (Session.put DurableStore.backend b key entry) := by
  intro directory opened m d h
  have hput : DurableStore.backend.put b key entry d.store =
      (.ok (), ⟨directory, textsOf (m.store.insert b key entry)⟩) := by
    simp only [DurableStore.backend, DurableStore.putRaw, hkey, if_true, h.store, textsOf_insert]
  simp only [Session.put, hput]
  exact ⟨rfl, rfl, h.counters, h.log⟩

theorem retrieve (decoder : Decoder α) (b : Bucket) (hkey : DurableStore.isKey file.key = true)
    (fingerprint : Fingerprint) :
    Simulates (Session.retrieve MemoryStore.backend decoder b file fingerprint)
      (Session.retrieve DurableStore.backend decoder b file fingerprint) := by
  refine (get? b hkey).bind fun found => ?_
  cases found with
  | none => exact countMiss.bind fun _ => pure none
  | some entry =>
    dsimp only
    split
    · cases decoder.run entry.payload with
      | some result => exact countHit.bind fun _ => pure (some result)
      | none => exact (report _).bind fun _ => countMiss.bind fun _ => pure none
    · exact countMiss.bind fun _ => pure none

theorem remember (b : Bucket) (hkey : DurableStore.isKey file.key = true)
    (fingerprint : Fingerprint) (payload : Json) :
    Simulates (Session.remember MemoryStore.backend b file fingerprint payload)
      (Session.remember DurableStore.backend b file fingerprint payload) := by
  refine (put b hkey _).bind fun result => ?_
  cases result with
  | ok _ => exact countWrite
  | error fault => exact report _

end Simulates

namespace Refinement

/-- What a store is asked for in a session. Results are read back with any decoder. -/
inductive Access : Type 1 where
  | put (bucket : Bucket) (key : String) (entry : StoredEntry)
  | get (bucket : Bucket) (key : String)
  | remember (bucket : Bucket) (file : SourceFile) (fingerprint : Fingerprint) (payload : Json)
  | retrieve {α : Type} (decoder : Decoder α) (bucket : Bucket) (file : SourceFile)
      (fingerprint : Fingerprint)

namespace Access

def key : Access → String
  | put _ key _ => key
  | get _ key => key
  | remember _ file _ _ => file.key
  | retrieve _ _ file _ => file.key

def Answer : Access → Type
  | put .. => Except StoreFault Unit
  | get .. => Option StoredEntry
  | remember .. => Unit
  | @retrieve α .. => Option α

def serve {σ : Type} (b : Backend σ) : (r : Access) → StateM (Session σ) r.Answer
  | put bucket key entry => Session.put b bucket key entry
  | get bucket key => Session.get? b bucket key
  | remember bucket file fingerprint payload =>
    Session.remember b bucket file fingerprint payload
  | retrieve decoder bucket file fingerprint =>
    Session.retrieve b decoder bucket file fingerprint

end Access

theorem simulates_serve (r : Access) (hkey : DurableStore.isKey r.key = true) :
    Simulates (r.serve MemoryStore.backend) (r.serve DurableStore.backend) := by
  cases r with
  | put bucket key entry => exact .put bucket hkey entry
  | get bucket key => exact .get? bucket hkey
  | remember bucket file fingerprint payload => exact .remember bucket hkey fingerprint payload
  | retrieve decoder bucket file fingerprint => exact .retrieve decoder bucket hkey fingerprint

/-- A request, or an operation on the directory of the durable store: it is closed and opened again,
or its files are removed in between. -/
inductive Operation : Type 1 where
  | request (r : Access)
  | reopen
  | clear

/-- Something can be filed under the key of a request. -/
def Operation.HasKey : Operation → Prop
  | .request r => DurableStore.isKey r.key = true
  | _ => True

abbrev Answered : Type 1 := (r : Access) × r.Answer

/-- A session with a store in memory. It also tells how the counters stood when the durable store
was opened last. -/
structure Held where
  session : Session MemoryStore := { store := .empty }
  opened : Counters := {}

/-- A session with a durable store, and the tree in which its directory lies. -/
structure Kept where
  session : Session DurableStore
  tree : FileTree

/-- To a store in memory only requests matter. Clearing replaces it by an empty one. -/
def Held.step (s : Held) : Operation → List Answered × Held
  | .request r => ([⟨r, (r.serve MemoryStore.backend s.session).1⟩],
      { s with session := (r.serve MemoryStore.backend s.session).2 })
  | .reopen => ([], { s with opened := s.session.counters })
  | .clear => ([], { session := { store := .empty, log := s.session.log } })

def Kept.open (directory : Path) (log : List Event) (tree : FileTree) :
    Except Failure (List Answered × Kept) :=
  match DurableStore.openAt tree directory with
  | (.error f, _) => .error f
  | (.ok store, tree) => .ok ([], ⟨{ store, log }, tree⟩)

def Kept.step (s : Kept) : Operation → Except Failure (List Answered × Kept)
  | .request r => .ok ([⟨r, (r.serve DurableStore.backend s.session).1⟩],
      { s with session := (r.serve DurableStore.backend s.session).2 })
  | .reopen =>
    Kept.open s.session.store.directory s.session.log (s.session.store.close s.tree)
  | .clear =>
    match DurableStore.clear (s.session.store.close s.tree) s.session.store.directory with
    | (.error f, _) => .error f
    | (.ok (), tree) => Kept.open s.session.store.directory s.session.log tree

def Held.run (s : Held) : List Operation → List Answered × Held
  | [] => ([], s)
  | o :: rest => ((s.step o).1 ++ ((s.step o).2.run rest).1, ((s.step o).2.run rest).2)

def Kept.run (s : Kept) : List Operation → Except Failure (List Answered × Kept)
  | [] => .ok ([], s)
  | o :: rest => do
    let (answers, s) ← s.step o
    let (more, s) ← s.run rest
    return (answers ++ more, s)

structure Matches (held : Held) (kept : Kept) : Prop where
  alike : Alike kept.session.store.directory held.opened held.session kept.session
  ready : DurableStore.Ready kept.tree kept.session.store.directory

theorem matches_open {directory : Path} {tree : FileTree} {m : Session MemoryStore}
    (hready : DurableStore.Ready tree directory)
    (hholds : DurableStore.Holds tree directory (textsOf m.store)) :
    ∃ kept, Kept.open directory m.log tree = .ok ([], kept) ∧
      Matches { session := m, opened := m.counters } kept := by
  obtain ⟨opened, hopen, hready'⟩ := DurableStore.openAt_of_ready hready hholds
  refine ⟨⟨{ store := ⟨directory, textsOf m.store⟩, log := m.log }, opened⟩, ?_, ?_, hready'⟩
  · simp only [Kept.open, hopen]
  · exact ⟨rfl, (Counters.add_zero m.counters).symm, rfl⟩

/-- Every operation is answered alike. -/
theorem step_matches {held : Held} {kept : Kept} (h : Matches held kept) {o : Operation}
    (hkey : o.HasKey) :
    ∃ kept', kept.step o = .ok ((held.step o).1, kept') ∧ Matches (held.step o).2 kept' := by
  have hstore := h.alike.store
  cases o with
  | request r =>
    obtain ⟨hanswer, halike⟩ := simulates_serve r hkey _ _ _ _ h.alike
    have hdirectory : (r.serve DurableStore.backend kept.session).2.store.directory =
        kept.session.store.directory := by rw [halike.store]
    refine ⟨{ kept with session := (r.serve DurableStore.backend kept.session).2 }, ?_, ?_, ?_⟩
    · rw [Kept.step, Held.step, hanswer]
    · rw [hdirectory]
      exact halike
    · rw [hdirectory]
      exact h.ready
  | reopen =>
    obtain ⟨hready, hholds⟩ := DurableStore.holds_close h.ready
    have htables : kept.session.store.tables = textsOf held.session.store := by rw [hstore]
    rw [htables] at hholds
    obtain ⟨kept', hopen, hmatches⟩ := matches_open hready hholds
    refine ⟨kept', ?_, hmatches⟩
    rw [Kept.step, ← h.alike.log]
    exact hopen
  | clear =>
    obtain ⟨hready, -⟩ := DurableStore.holds_close h.ready
    obtain ⟨tree, hclear, hready', hholds⟩ := DurableStore.holds_clear hready
    obtain ⟨kept', hopen, hmatches⟩ := @matches_open _ _
      { store := .empty, log := held.session.log } hready' hholds
    refine ⟨kept', ?_, hmatches⟩
    simp only [Kept.step, hclear, ← h.alike.log]
    exact hopen

theorem run_matches {held : Held} {kept : Kept} (h : Matches held kept)
    {operations : List Operation} (hkeys : ∀ o ∈ operations, o.HasKey) :
    ∃ kept', kept.run operations = .ok ((held.run operations).1, kept') ∧
      Matches (held.run operations).2 kept' := by
  induction operations generalizing held kept with
  | nil => exact ⟨kept, rfl, h⟩
  | cons o rest ih =>
    obtain ⟨hkey, hmore⟩ := List.forall_mem_cons.1 hkeys
    obtain ⟨next, hstep, hnext⟩ := step_matches h hkey
    obtain ⟨last, hrun, hlast⟩ := ih hnext hmore
    refine ⟨last, ?_, hlast⟩
    simp only [Kept.run, hstep, bind, Except.bind, hrun]
    rfl

/-- From a directory without entries, a durable store that is closed, opened and cleared as often as
one likes answers every request as a store in memory does. It can always be opened again, it has as
many entries in each bucket, and its counters are what was counted since it was opened. -/
theorem durable_refines_memory {tree opened : FileTree} {directory : Path} {store : DurableStore}
    (hopen : DurableStore.openAt tree directory = (.ok store, opened))
    (hempty : store.tables = .empty) {operations : List Operation}
    (hkeys : ∀ o ∈ operations, o.HasKey) :
    ∃ kept stats, Kept.run ⟨{ store }, opened⟩ operations =
        .ok ((Held.run {} operations).1, kept) ∧
      (Session.stats DurableStore.backend kept.session).1 = .ok stats ∧
      (∀ b, stats.size.entries b =
        (MemoryStore.size (Held.run {} operations).2.session.store).entries b) ∧
      (Held.run {} operations).2.session.counters =
        (Held.run {} operations).2.opened + stats.counters := by
  obtain ⟨hready, hdirectory⟩ := DurableStore.ready_of_openAt hopen
  have hstart : Matches {} ⟨{ store }, opened⟩ := by
    refine ⟨⟨?_, rfl, rfl⟩, hdirectory ▸ hready⟩
    rw [textsOf_empty, ← hempty]
  obtain ⟨kept, hrun, hmatches⟩ := run_matches hstart hkeys
  refine ⟨kept, _, hrun, rfl, ?_, hmatches.alike.counters⟩
  intro b
  have htables : kept.session.store.tables =
      textsOf (Held.run {} operations).2.session.store := by rw [hmatches.alike.store]
  calc (DurableStore.size kept.session.store).entries b
      = (kept.session.store.tables.table b).size := rfl
    _ = ((textsOf (Held.run {} operations).2.session.store).table b).size := by rw [htables]
    _ = ((Held.run {} operations).2.session.store.table b).size := size_textsOf _ b

namespace Samples

def file : SourceFile := ⟨.ofText "/A.java", ⟨"a"⟩⟩

def operations : List Operation :=
  [.request (.remember .filter file file.fingerprint (.string "kept")), .reopen,
    .request (.retrieve Decoder.text .filter file file.fingerprint), .clear,
    .request (.get .filter file.key)]

end Samples

/-- A result that is remembered is there when the store is opened again, and gone with its files. -/
theorem durable_refines_memory_cleared : ∃ opened kept stats,
    DurableStore.openAt (FileTree.ofCurrent []) (.ofText "/") = (.ok ⟨.ofText "/", .empty⟩, opened) ∧
      Kept.run ⟨{ store := ⟨.ofText "/", .empty⟩ }, opened⟩ Samples.operations =
        .ok ([⟨.remember .filter Samples.file ⟨"a"⟩ (.string "kept"), ()⟩,
          ⟨.retrieve Decoder.text .filter Samples.file ⟨"a"⟩, some "kept"⟩,
          ⟨.get .filter "/A.java", none⟩], kept) ∧
      (Session.stats DurableStore.backend kept.session).1 = .ok stats ∧
      stats.size.entries .filter = 0 := by
  have hready : DurableStore.Ready (FileTree.ofCurrent []) (.ofText "/") :=
    ⟨rfl,
      ⟨⟨[], Text.utf8Bytes "data.mdb", false⟩,
        FileTree.slot?_eq_some_iff.2 ⟨rfl, rfl, rfl, rfl, by decide, rfl⟩, rfl, nofun⟩,
      ⟨⟨[], Text.utf8Bytes "lock.mdb", false⟩,
        FileTree.slot?_eq_some_iff.2 ⟨rfl, rfl, rfl, rfl, by decide, rfl⟩, rfl, nofun⟩⟩
  obtain ⟨opened, hopen, -⟩ := DurableStore.openAt_of_ready hready (.inr ⟨by rfl, rfl⟩)
  have hkeys : ∀ o ∈ Samples.operations, o.HasKey := by
    have hkey : DurableStore.isKey Samples.file.key = true := by decide
    simp [Samples.operations, Operation.HasKey, Access.key, hkey]
  obtain ⟨kept, stats, hrun, hstats, hsize, -⟩ := durable_refines_memory hopen rfl hkeys
  exact ⟨opened, kept, stats, hopen, hrun, hstats, hsize .filter⟩

end Refinement

end AnnotationIndex
