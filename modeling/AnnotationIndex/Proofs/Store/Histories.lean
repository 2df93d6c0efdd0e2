import AnnotationIndex.Proofs.Data.KeyMap
import AnnotationIndex.Proofs.Index.RecordDocuments
import AnnotationIndex.Proofs.Store.Lookups
import AnnotationIndex.Proofs.Store.Replays
import AnnotationIndex.Proofs.Text.Paths
import Mathlib.Data.List.Dedup

/-!
# What a store in memory answers

After any history of remembering and retrieving, what is retrieved for a file is what was remembered
last under its key, if the same fingerprint is asked for and the result can be read from its document.
The counters tell how the calls of the history were answered. The key is the text of a path, and files
whose paths are texts do not share it.
-/

namespace AnnotationIndex

open Decoder Java Json Number

namespace Bucket

/-- What a stage keeps for a file. -/
def Result : Bucket → Type
  | resolve => Header
  | filter => List String
  | extract => List TypeRecords

/-- The document in which a result is kept. -/
def document : (b : Bucket) → b.Result → Json
  | resolve, header => header.toJson
  | filter, names => .array (names.map .string)
  | extract, records => recordsDocument records

def decoder : (b : Bucket) → Decoder b.Result
  | resolve => Header.decoder
  | filter => list text
  | extract => list TypeRecords.decoder

/-- The floating point numbers in a result. -/
def reals : (b : Bucket) → b.Result → List Binary64
  | extract, records => realsOfRecords records
  | _, _ => []

theorem run_document (b : Bucket) {result : b.Result} (h : ∀ x ∈ b.reals result, ReadsBack x) :
    b.decoder.run (b.document result).compact =
      if (b.document result).depth ≤ depthLimit then some result else none := by
  cases b with
  | resolve => exact (exact_header result).run (parse?_compact (printable_header result))
  | filter =>
    have hprintable : (Json.array (List.map Json.string result)).Printable := by
      rw [printable_array]
      intro j hj
      obtain ⟨name, -, rfl⟩ := List.mem_map.1 hj
      exact printable_string name
    exact (exact_texts result).run (parse?_compact hprintable)
  | extract => exact run_records h

end Bucket

/-- A use of the store: a result is remembered for a file under a fingerprint, or asked for. -/
inductive StoreCall where
  | remember (bucket : Bucket) (file : SourceFile) (fingerprint : Fingerprint)
      (result : bucket.Result)
  | retrieve (bucket : Bucket) (file : SourceFile) (fingerprint : Fingerprint)

namespace StoreCall

def Answer : StoreCall → Type
  | remember .. => Unit
  | retrieve bucket .. => Option bucket.Result

def serve : (c : StoreCall) → StateM (Session MemoryStore) c.Answer
  | remember bucket file fingerprint result =>
    Session.remember MemoryStore.backend bucket file fingerprint (bucket.document result)
  | retrieve bucket file fingerprint =>
    Session.retrieve MemoryStore.backend bucket.decoder bucket file fingerprint

/-- Whether something was retrieved. -/
def isHit : (c : StoreCall) × c.Answer → Bool
  | ⟨remember .., _⟩ => false
  | ⟨retrieve .., result⟩ => Option.isSome result

def isRetrieve : StoreCall → Bool
  | remember .. => false
  | retrieve .. => true

def bucket : StoreCall → Bucket
  | remember bucket .. => bucket
  | retrieve bucket .. => bucket

def file : StoreCall → SourceFile
  | remember _ file .. => file
  | retrieve _ file _ => file

/-- The floating point numbers in what is remembered. -/
def reals : StoreCall → List Binary64
  | remember bucket _ _ result => bucket.reals result
  | retrieve .. => []

/-- What the call remembers under a key, with the fingerprint. -/
def remembered? (b : Bucket) (key : String) : StoreCall → Option (Fingerprint × b.Result)
  | remember bucket file fingerprint result =>
    if h : bucket = b ∧ file.key = key then some (fingerprint, h.1 ▸ result) else none
  | retrieve .. => none

/-- What is remembered last under a key. -/
def lastRemembered? (b : Bucket) (key : String) (calls : List StoreCall) :
    Option (Fingerprint × b.Result) :=
  (calls.filterMap (remembered? b key)).getLast?

/-- The key under which the call remembers something. -/
def key? (b : Bucket) : StoreCall → Option String
  | remember bucket file .. => if bucket = b then some file.key else none
  | retrieve .. => none

/-- The answers to the calls, and the session after them. -/
def run (s : Session MemoryStore) :
    List StoreCall → List ((c : StoreCall) × c.Answer) × Session MemoryStore
  | [] => ([], s)
  | c :: rest => (⟨c, (c.serve s).1⟩ :: (run (c.serve s).2 rest).1, (run (c.serve s).2 rest).2)

theorem run_append (s : Session MemoryStore) (calls more : List StoreCall) :
    run s (calls ++ more) =
      ((run s calls).1 ++ (run (run s calls).2 more).1, (run (run s calls).2 more).2) := by
  induction calls generalizing s with
  | nil => rfl
  | cons c calls ih => simp only [List.cons_append, run, ih]

/-- A session with a store in which nothing was kept. -/
def start : Session MemoryStore := { store := .empty }

/-- What the store has under a key is the last result for it. -/
def Reflects (calls : List StoreCall) (store : MemoryStore) : Prop :=
  ∀ b key, store.get? b key =
    (lastRemembered? b key calls).map fun last => ⟨last.1, (b.document last.2).compact⟩

theorem store_serve (c : StoreCall) (s : Session MemoryStore) :
    (c.serve s).2.store = match c with
      | remember bucket file fingerprint result =>
        s.store.insert bucket file.key ⟨fingerprint, (bucket.document result).compact⟩
      | retrieve .. => s.store := by
  cases c with
  | remember bucket file fingerprint result => rfl
  | retrieve bucket file fingerprint =>
    exact (keeps_memory.retrieve bucket.decoder bucket file fingerprint s).2

theorem Reflects.serve {calls : List StoreCall} {s : Session MemoryStore}
    (h : Reflects calls s.store) (c : StoreCall) :
    Reflects (calls ++ [c]) (c.serve s).2.store := by
  intro b key
  rw [store_serve]
  cases c with
  | retrieve bucket file fingerprint =>
    rw [h b key]
    simp [lastRemembered?, remembered?]
  | remember bucket file fingerprint result =>
    dsimp only
    rw [Tables.get?_insert]
    by_cases hsame : bucket = b ∧ file.key = key
    · obtain ⟨rfl, rfl⟩ := hsame
      simp [lastRemembered?, remembered?]
    · have hkey : ¬ (b = bucket ∧ key = file.key) := by
        rintro ⟨rfl, rfl⟩
        exact hsame ⟨rfl, rfl⟩
      rw [if_neg hkey, h b key]
      simp [lastRemembered?, remembered?, hsame]

theorem reflects_run (calls : List StoreCall) : Reflects calls (run start calls).2.store := by
  induction calls using List.reverseRecOn with
  | nil =>
    intro b key
    cases b <;> rfl
  | append_singleton calls c ih =>
    rw [run_append]
    exact ih.serve c

theorem mem_of_lastRemembered? {b : Bucket} {key : String} {calls : List StoreCall}
    {last : Fingerprint × b.Result} (h : lastRemembered? b key calls = some last) :
    ∃ file, file.key = key ∧ remember b file last.1 last.2 ∈ calls := by
  obtain ⟨c, hc, hlast⟩ := List.mem_filterMap.1 (List.mem_of_getLast? h)
  cases c with
  | retrieve => cases hlast
  | remember bucket file fingerprint result =>
    simp only [remembered?] at hlast
    split at hlast
    · rename_i hsame
      obtain ⟨rfl, hkey⟩ := hsame
      cases hlast
      exact ⟨file, hkey, hc⟩
    · cases hlast

variable {calls : List StoreCall}

theorem retrieve_run (hreals : ∀ c ∈ calls, ∀ x ∈ c.reals, ReadsBack x) (b : Bucket)
    (file : SourceFile) (fingerprint : Fingerprint) (result : b.Result) :
    ((retrieve b file fingerprint).serve (run start calls).2).1 = some result ↔
      lastRemembered? b file.key calls = some (fingerprint, result) ∧
        (b.document result).depth ≤ depthLimit := by
  have hlook := (keeps_memory.retrieve b.decoder b file fingerprint (run start calls).2).1
  have hentry := reflects_run calls b file.key
  change (Session.retrieve MemoryStore.backend b.decoder b file fingerprint _).1 = _ ↔ _
  rw [hlook]
  simp only [Backend.look, MemoryStore.backend, hentry]
  cases hlast : lastRemembered? b file.key calls with
  | none => simp [Lookup.read?]
  | some last =>
    obtain ⟨other, kept⟩ := last
    obtain ⟨_, -, hmem⟩ := mem_of_lastRemembered? hlast
    have hrun := b.run_document (hreals _ hmem)
    simp only [Option.map_some, Lookup.read?, hrun]
    by_cases hsame : other = fingerprint
    · subst hsame
      simp only [if_true, Option.some.injEq, Prod.mk.injEq, true_and]
      constructor
      · intro h
        split at h
        · obtain rfl := Option.some.inj h
          exact ⟨rfl, ‹_›⟩
        · cases h
      · rintro ⟨rfl, hdepth⟩
        exact if_pos hdepth
    · simp [hsame]

theorem lastRemembered?_filter (b : Bucket) (key : String) (calls : List StoreCall) :
    lastRemembered? b key
        (calls.filter fun c => decide (c.bucket = b ∧ c.file.key = key)) =
      lastRemembered? b key calls := by
  rw [lastRemembered?, lastRemembered?, List.filterMap_filter]
  congr 1
  apply List.filterMap_congr
  intro c _
  cases c with
  | retrieve => simp [remembered?]
  | remember bucket file fingerprint result =>
    by_cases hsame : bucket = b ∧ file.key = key <;>
      simp [remembered?, StoreCall.bucket, StoreCall.file, hsame]

theorem counters_remember (b : Bucket) (file : SourceFile) (fingerprint : Fingerprint)
    (result : b.Result) (s : Session MemoryStore) :
    ((remember b file fingerprint result).serve s).2.counters =
      { s.counters with writes := s.counters.writes + 1 } := rfl

theorem counters_retrieve (b : Bucket) (file : SourceFile) (fingerprint : Fingerprint)
    (s : Session MemoryStore) :
    ((retrieve b file fingerprint).serve s).2.counters =
      if Option.isSome ((retrieve b file fingerprint).serve s).1 then
        { s.counters with hits := s.counters.hits + 1 }
      else { s.counters with misses := s.counters.misses + 1 } := by
  change (Session.retrieve MemoryStore.backend b.decoder b file fingerprint s).2.counters =
    if (Session.retrieve MemoryStore.backend b.decoder b file fingerprint s).1.isSome then _ else _
  rw [Session.retrieve, bind_apply, get?_eq]
  cases s.store.get? b file.key with
  | none => rfl
  | some entry =>
    by_cases hfingerprint : entry.fingerprint = fingerprint
    · cases hrun : b.decoder.run entry.payload <;> simp only [if_pos hfingerprint, hrun] <;> rfl
    · simp only [if_neg hfingerprint]
      rfl

theorem counters_serve (c : StoreCall) (s : Session MemoryStore) :
    (c.serve s).2.counters.hits =
        s.counters.hits + (if isHit ⟨c, (c.serve s).1⟩ then 1 else 0) ∧
      (c.serve s).2.counters.hits + (c.serve s).2.counters.misses =
        s.counters.hits + s.counters.misses + (if c.isRetrieve then 1 else 0) ∧
      (c.serve s).2.counters.writes =
        s.counters.writes + (if !c.isRetrieve then 1 else 0) := by
  cases c with
  | remember b file fingerprint result =>
    rw [counters_remember]
    exact ⟨rfl, rfl, rfl⟩
  | retrieve b file fingerprint =>
    have hisHit : isHit ⟨retrieve b file fingerprint, ((retrieve b file fingerprint).serve s).1⟩ =
      Option.isSome ((retrieve b file fingerprint).serve s).1 := rfl
    rw [counters_retrieve, hisHit]
    split
    · exact ⟨rfl, Nat.add_right_comm _ 1 _, rfl⟩
    · exact ⟨rfl, rfl, rfl⟩

theorem counters_run (s : Session MemoryStore) (calls : List StoreCall) :
    (run s calls).2.counters.hits = s.counters.hits + (run s calls).1.countP isHit ∧
      (run s calls).2.counters.hits + (run s calls).2.counters.misses =
        s.counters.hits + s.counters.misses + calls.countP isRetrieve ∧
      (run s calls).2.counters.writes =
        s.counters.writes + calls.countP (!·.isRetrieve) := by
  induction calls generalizing s with
  | nil => simp [run]
  | cons c calls ih =>
    obtain ⟨hhits, hasked, hwrites⟩ := ih (c.serve s).2
    obtain ⟨hhit, hask, hwrite⟩ := counters_serve c s
    simp only [run, List.countP_cons]
    omega

theorem isSome_lastRemembered? (b : Bucket) (key : String) (calls : List StoreCall) :
    (lastRemembered? b key calls).isSome = true ↔ key ∈ calls.filterMap (key? b) := by
  rw [lastRemembered?, List.getLast?_isSome, ne_eq, List.filterMap_eq_nil_iff, List.mem_filterMap]
  push Not
  refine exists_congr fun c => and_congr_right fun _ => ?_
  cases c with
  | retrieve => simp [remembered?, key?]
  | remember bucket file fingerprint result =>
    by_cases hbucket : bucket = b <;> simp [remembered?, key?, hbucket]

theorem size_run (calls : List StoreCall) (b : Bucket) :
    ((run start calls).2.store.table b).size = (calls.filterMap (key? b)).dedup.length := by
  have hperm : ((run start calls).2.store.table b).keys.Perm
      (calls.filterMap (key? b)).dedup := by
    rw [List.perm_ext_iff_of_nodup (KeyMap.nodup_keys _) (List.nodup_dedup _)]
    intro key
    have hentry := reflects_run calls b key
    rw [KeyMap.mem_keys, KeyMap.contains, ← Tables.get?, hentry, Option.isSome_map,
      isSome_lastRemembered?, List.mem_dedup]
  simpa [KeyMap.keys, KeyMap.size] using hperm.length_eq

theorem retrieve_filter (b : Bucket) (file : SourceFile) (fingerprint : Fingerprint)
    (calls : List StoreCall) :
    ((retrieve b file fingerprint).serve (run start
        (calls.filter fun c => decide (c.bucket = b ∧ c.file.key = file.key))).2).1 =
      ((retrieve b file fingerprint).serve (run start calls).2).1 := by
  have hlook : ∀ calls : List StoreCall,
      ((retrieve b file fingerprint).serve (run start calls).2).1 =
        (MemoryStore.backend.look b file.key (run start calls).2.store).read? b.decoder
          fingerprint :=
    fun calls => (keeps_memory.retrieve b.decoder b file fingerprint _).1
  have hentry : (run start (calls.filter fun c =>
      decide (c.bucket = b ∧ c.file.key = file.key))).2.store.get? b file.key =
        (run start calls).2.store.get? b file.key := by
    rw [reflects_run, reflects_run, lastRemembered?_filter]
  rw [hlook, hlook]
  simp only [Backend.look, MemoryStore.backend, hentry]
  rfl

/-- After any history, what is retrieved for a file is what was remembered last under its key, if that
was under the same fingerprint and is not nested too deep. The rest of the history does not matter for
it, and the statistics count its calls, their answers and the keys. Files whose paths are texts have
one key if and only if they have one path. -/
theorem answers_and_stats_of_history
    (hreals : ∀ c ∈ calls, ∀ x ∈ c.reals, ReadsBack x) :
    (∀ b file fingerprint result,
        ((retrieve b file fingerprint).serve (run start calls).2).1 = some result ↔
          lastRemembered? b file.key calls = some (fingerprint, result) ∧
            (b.document result).depth ≤ 127) ∧
      (∀ b file fingerprint,
        ((retrieve b file fingerprint).serve (run start calls).2).1 =
          ((retrieve b file fingerprint).serve (run start
            (calls.filter fun c => decide (c.bucket = b ∧ c.file.key = file.key))).2).1) ∧
      (∃ stats, (Session.stats MemoryStore.backend (run start calls).2).1 = .ok stats ∧
        stats.counters.hits + stats.counters.misses = calls.countP isRetrieve ∧
        stats.counters.hits = (run start calls).1.countP isHit ∧
        stats.counters.writes = calls.countP (!·.isRetrieve) ∧
        ∀ b, stats.size.entries b = (calls.filterMap (key? b)).dedup.length) ∧
      ∀ f g : SourceFile, f.path.isText = true → g.path.isText = true →
        (f.key = g.key ↔ f.path = g.path) := by
  refine ⟨retrieve_run hreals, fun b file fingerprint => (retrieve_filter ..).symm,
    ⟨⟨(run start calls).2.store.size, (run start calls).2.counters⟩, rfl, ?_⟩,
    fun f g hf hg => ⟨Path.eq_of_text hf hg, congrArg Path.text⟩⟩
  obtain ⟨hhits, hasked, hwrites⟩ := counters_run start calls
  simp only [start, Nat.zero_add] at hhits hasked hwrites
  exact ⟨hasked, hhits, hwrites, size_run calls⟩

namespace Recalling

def half : Binary64 := ⟨false, Nat.pow 2 52, -53⟩

def records : List TypeRecords := [⟨"C", ⟨[⟨"K", [⟨none, .real half⟩]⟩], [], []⟩⟩]

def file : SourceFile := ⟨.ofText "C.java", ⟨"1"⟩⟩

def history : List StoreCall :=
  [.remember .extract file ⟨"1"⟩ [], .remember .extract file ⟨"2"⟩ records,
    .remember .filter file ⟨"1"⟩ ["C"], .retrieve .extract file ⟨"1"⟩]

theorem answers_and_stats_of_overwriting :
    (∀ c ∈ history, ∀ x ∈ c.reals, ReadsBack x) ∧
      ((retrieve .extract file ⟨"2"⟩).serve (run start history).2).1 = some records ∧
      ∃ stats, (Session.stats MemoryStore.backend (run start history).2).1 = .ok stats ∧
        stats.counters.misses = 1 ∧ stats.size.entries .extract = 1 := by
  have hreals : ∀ c ∈ history, ∀ x ∈ c.reals, ReadsBack x := by decide +kernel
  obtain ⟨hretrieve, -, ⟨stats, hstats, hasked, hhits, -, hentries⟩, -⟩ :=
    answers_and_stats_of_history hreals
  refine ⟨hreals, (hretrieve _ _ _ _).2 ⟨rfl, by decide⟩, stats, hstats, ?_, hentries .extract⟩
  have hnone : (run start history).1.countP isHit = 0 := rfl
  have hone : history.countP isRetrieve = 1 := rfl
  omega

/-- Two files whose names are no texts, and have the same text. -/
def lookalikes : SourceFile × SourceFile :=
  (⟨⟨0xFE :: Text.utf8Bytes ".java"⟩, ⟨"1"⟩⟩, ⟨⟨0xFF :: Text.utf8Bytes ".java"⟩, ⟨"2"⟩⟩)

/-- What is remembered for the second file takes the place of what was remembered for the first. -/
theorem forgotten_for_lookalike :
    let session := (run start [.remember .filter lookalikes.1 ⟨"1"⟩ ["A"],
      .remember .filter lookalikes.2 ⟨"2"⟩ ["B"]]).2
    lookalikes.1.path ≠ lookalikes.2.path ∧
      ((retrieve .filter lookalikes.1 ⟨"1"⟩).serve session).1 = none ∧
      (session.store.table .filter).size = 1 :=
  ⟨by decide, rfl, rfl⟩

end Recalling

end StoreCall

end AnnotationIndex
