import AnnotationIndex.Proofs.Index.RecordDocuments
import AnnotationIndex.Proofs.Run.Plain
import AnnotationIndex.Proofs.Store.Lookups
import AnnotationIndex.Proofs.Store.Replays

/-!
# Two runs side by side

Two runs over the same files use a store each. For the files that mention annotations the stores
hold the same. For the others one of them has no types to keep, and the other one has no records,
so that whatever the two runs find there, it comes to the same.
-/

namespace AnnotationIndex

open Java

variable {σ α β γ δ : Type} {b : Backend σ} {takes : String → Bool} {tree : FileTree}
  {sources : List Path}

def mentionedAt (tree : FileTree) (path : Path) : Bool :=
  mentionsAnnotations (Plain.contentAt tree path)

def NothingRecorded (records : List TypeRecords) : Prop := ∀ r ∈ records, r.records.isEmpty = true

theorem NothingRecorded.reals_eq_nil {records : List TypeRecords} (h : NothingRecorded records) :
    realsOfRecords records = [] := by
  rw [realsOfRecords, List.flatMap_eq_nil_iff]
  intro r hr
  have hempty := h r hr
  simp only [Records.isEmpty, Bool.and_eq_true, List.isEmpty_iff] at hempty
  obtain ⟨⟨hclasses, hmethods⟩, hproperties⟩ := hempty
  simp [Records.reals, hclasses, hmethods, hproperties]

/-- What two stores find for the file at a path. -/
structure LookAlike (tree : FileTree) (bucket : Bucket) (path : Path) (l l' : Lookup) : Prop where
  same : mentionedAt tree path = true → l' = l
  dropped : mentionedAt tree path = false → bucket = .filter → ∀ fingerprint kept,
    l.read? (Decoder.list Decoder.text) fingerprint = some kept → kept = []
  unrecorded : mentionedAt tree path = false → bucket = .extract → ∀ fingerprint records,
    l'.read? (Decoder.list TypeRecords.decoder) fingerprint = some records → NothingRecorded records

theorem LookAlike.congr {bucket : Bucket} {path path' : Path} {l l' : Lookup}
    (h : LookAlike tree bucket path l l') (hread : tree.read path = tree.read path') :
    LookAlike tree bucket path' l l' := by
  have hmentioned : mentionedAt tree path' = mentionedAt tree path := by
    rw [mentionedAt, mentionedAt, Plain.contentAt, Plain.contentAt, hread]
  constructor <;> rw [hmentioned]
  exacts [h.same, h.dropped, h.unrecorded]

/-- What two stores find alike for each of the files. -/
def Alongside (b : Backend σ) (tree : FileTree) (sources : List Path) (store store' : σ) : Prop :=
  ∀ bucket, ∀ path ∈ sources,
    LookAlike tree bucket path (b.look bucket path.text store) (b.look bucket path.text store')

theorem Alongside.file (hb : b.Keeps takes) (hkeys : Plain.KeysAgree tree sources)
    {store store' : σ} (h : Alongside b tree sources store store') {bucket : Bucket} {path : Path}
    (hsource : path ∈ sources) {stored? stored?' : Option StoredEntry}
    (halike : LookAlike tree bucket path
      (stored?.elim (b.look bucket path.text store) .found)
      (stored?'.elim (b.look bucket path.text store') .found)) :
    Alongside b tree sources (b.file bucket path.text stored? store)
      (b.file bucket path.text stored?' store') := by
  intro bucket' path' hsource'
  rw [hb.look_file, hb.look_file]
  split
  · rename_i hsame
    obtain ⟨-, rfl, hkey⟩ := hsame
    rw [hkey]
    exact halike.congr (hkeys _ hsource _ hsource' hkey.symm)
  · exact h bucket' path' hsource'

/-- Both stages fail for the same reason, or both succeed with results that belong together. -/
inductive Outcomes (Q : α → β → Prop) : Except Failure α → Except Failure β → Prop where
  | failed (f : Failure) : Outcomes Q (.error f) (.error f)
  | done {a : α} {a' : β} (h : Q a a') : Outcomes Q (.ok a) (.ok a')

theorem Outcomes.refl (r : Except Failure α) : Outcomes Eq r r := by
  rcases r with f | a
  · exact .failed f
  · exact .done rfl

/-- From stores that are in the relation the stages come to outcomes that belong together, and they
leave stores that are in it. -/
def Together (inv : σ → σ → Prop) (Q : α → β → Prop) (x : Stage σ α) (y : Stage σ β) : Prop :=
  ∀ s s', inv s.store s'.store →
    Outcomes Q (x s).1 (y s').1 ∧ inv (x s).2.store (y s').2.store

namespace Together

variable {inv : σ → σ → Prop} {Q : α → β → Prop} {R : γ → δ → Prop}

theorem pure {a : α} {a' : β} (h : Q a a') : Together inv Q (Pure.pure a) (Pure.pure a') :=
  fun _ _ hstores => ⟨.done h, hstores⟩

theorem andThen {x : Stage σ α} {y : Stage σ β} {f : α → Stage σ γ} {g : β → Stage σ δ}
    (hx : Together inv Q x y) (hf : ∀ a a', Q a a' → Together inv R (f a) (g a')) :
    Together inv R (x >>= f : Stage σ γ) (y >>= g : Stage σ δ) := by
  intro s s' hstores
  obtain ⟨hresults, hstores⟩ := hx s s' hstores
  change Outcomes R (ExceptT.bindCont f (x s).1 (x s).2).1
      (ExceptT.bindCont g (y s').1 (y s').2).1 ∧
    inv (ExceptT.bindCont f (x s).1 (x s).2).2.store
      (ExceptT.bindCont g (y s').1 (y s').2).2.store
  generalize (x s).1 = r, (y s').1 = r' at hresults
  cases hresults with
  | failed e => exact ⟨.failed e, hstores⟩
  | done h => exact hf _ _ h _ _ hstores

end Together

namespace Caches

variable {file : SourceFile} {fingerprint fingerprint' : Fingerprint}

theorem outcome {d : Decoder α} {bucket : Bucket} {r : Except Failure α}
    {stored? : Option StoredEntry} {x : Stage σ α}
    (h : Caches b d bucket file fingerprint r stored? x) (s : Session σ) :
    (∃ filed?, (filed? = none ∨ filed? = stored?) ∧
        (x s).2.store = b.file bucket file.key filed? s.store) ∧
      ((x s).1 = r ∨ ∃ v, (x s).1 = .ok v ∧
        (b.look bucket file.key s.store).read? d fingerprint = some v) := by
  cases hread : (b.look bucket file.key s.store).read? d fingerprint with
  | some v =>
    obtain ⟨hresult, hstore⟩ := h.hit s v hread
    exact ⟨⟨none, .inl rfl, hstore⟩, .inr ⟨v, hresult, rfl⟩⟩
  | none =>
    obtain ⟨hresult, hstore⟩ := h.miss s hread
    exact ⟨⟨stored?, .inr rfl, hstore⟩, .inl hresult⟩

theorem dropped (hb : b.Keeps takes) (hkeys : Plain.KeysAgree tree sources)
    (hsource : file.path ∈ sources) (hmentioned : mentionedAt tree file.path = false)
    {kept' : List String} {stored? stored?' : Option StoredEntry} {x y : Stage σ (List String)}
    (hx : Caches b (Decoder.list Decoder.text) .filter file fingerprint (.ok []) stored? x)
    (hentry : ∀ e ∈ stored?, (Decoder.list Decoder.text).run e.payload = some [])
    (hy : Caches b (Decoder.list Decoder.text) .filter file fingerprint' (.ok kept') stored?' y) :
    Together (Alongside b tree sources) (fun kept _ => kept = []) x y := by
  intro s s' hstores
  have hdropped := (hstores .filter file.path hsource).dropped hmentioned rfl
  obtain ⟨⟨filed?, hfiled, hstore⟩, hresult⟩ := hx.outcome s
  obtain ⟨⟨filed?', -, hstore'⟩, hresult'⟩ := hy.outcome s'
  have hnone : (x s).1 = .ok [] := by
    rcases hresult with hresult | ⟨kept, hresult, hread⟩
    · exact hresult
    · rw [hresult, hdropped _ _ hread]
  obtain ⟨kept, hkept⟩ : ∃ kept, (y s').1 = .ok kept := by
    rcases hresult' with hresult' | ⟨kept, hresult', -⟩
    · exact ⟨_, hresult'⟩
    · exact ⟨_, hresult'⟩
  rw [hnone, hkept, hstore, hstore']
  refine ⟨.done rfl, hstores.file hb hkeys hsource ⟨?_, ?_, nofun⟩⟩
  · exact fun hnot => absurd hnot (by simp [hmentioned])
  · intro _ _ other kept hread
    cases filed? with
    | none => exact hdropped other kept hread
    | some e =>
      rcases hfiled with hfiled | hfiled
      · cases hfiled
      · simp only [Option.elim, Lookup.read?, hentry e hfiled.symm] at hread
        split at hread
        · exact (Option.some.inj hread).symm
        · cases hread

theorem unrecorded (hb : b.Keeps takes) (hkeys : Plain.KeysAgree tree sources)
    (hsource : file.path ∈ sources) (hmentioned : mentionedAt tree file.path = false)
    {records : List TypeRecords} {stored? : Option StoredEntry} {y : Stage σ (List TypeRecords)}
    (hy : Caches b (Decoder.list TypeRecords.decoder) .extract file fingerprint (.ok records)
      stored? y)
    (hrecords : NothingRecorded records)
    (hentry : ∀ e ∈ stored?, ∀ records,
      (Decoder.list TypeRecords.decoder).run e.payload = some records → NothingRecorded records)
    {store : σ} {s' : Session σ} (hstores : Alongside b tree sources store s'.store) :
    ∃ records, (y s').1 = .ok records ∧ NothingRecorded records ∧
      Alongside b tree sources store (y s').2.store := by
  have hunrecorded := (hstores .extract file.path hsource).unrecorded hmentioned rfl
  obtain ⟨⟨filed?, hfiled, hstore⟩, hresult⟩ := hy.outcome s'
  have halongside : Alongside b tree sources (b.file .extract file.path.text none store)
      (b.file .extract file.path.text filed? s'.store) := by
    refine hstores.file hb hkeys hsource ⟨?_, nofun, ?_⟩
    · exact fun hnot => absurd hnot (by simp [hmentioned])
    · intro _ _ other records hread
      cases filed? with
      | none => exact hunrecorded other records hread
      | some e =>
        rcases hfiled with hfiled | hfiled
        · cases hfiled
        · simp only [Option.elim, Lookup.read?] at hread
          split at hread
          · exact hentry e hfiled.symm records hread
          · cases hread
  rw [hstore]
  rcases hresult with hresult | ⟨records, hresult, hread⟩
  · exact ⟨_, hresult, hrecords, halongside⟩
  · exact ⟨_, hresult, hunrecorded _ _ hread, halongside⟩

end Caches

end AnnotationIndex
