import AnnotationIndex.Proofs.Files.Tree
import AnnotationIndex.Proofs.Index.ArtifactDocuments
import AnnotationIndex.Proofs.Text.Utf8
import AnnotationIndex.Store.Durable

/-!
# What a durable store keeps

Entries are read back from their texts and tables from their file. A directory in which a store was
opened is ready to be opened again: with the tables that were closed there, or with empty ones if the
files of the store were removed.
-/

namespace AnnotationIndex

open Text

namespace Decoder

variable {bound : Nat}

theorem exact_entry (e : StoredEntry) : Exact bound StoredEntry.decoder e.toJson e := by
  refine exact_record (by simp) (by simp) fun levels _ => ?_
  simp [Fields.required, List.lookup_cons, text, Json.depthOfMembers, Json.depth]

theorem exact_tables (t : Tables String) : Exact bound Tables.decoder t.toJson t := by
  have htable : ∀ m : KeyMap String String, Exact bound (keyMap text)
      (.object (m.entries.map fun e => (e.1, .string e.2))) m :=
    fun m => exact_keyMap fun e _ => exact_text e.2
  refine exact_record (by simp [Bucket.all]) (by simp [Bucket.all, Bucket.name]) ?_
  intro levels hlevels
  have hresolve := htable t.resolve levels hlevels
  have hfilter := htable t.filter levels hlevels
  have hextract := htable t.extract levels hlevels
  simp [Fields.required, List.lookup_cons, Bucket.all, Bucket.name, Tables.table, hresolve, hfilter,
    hextract, bind_within, within_within, Json.depthOfMembers]

end Decoder

theorem printable_entry (e : StoredEntry) : e.toJson.Printable := by simp [StoredEntry.toJson]

theorem StoredEntry.run_compact (e : StoredEntry) :
    StoredEntry.decoder.run e.toJson.compact = some e := by
  have hexact : Decoder.Exact (Decoder.depthLimit + 1) StoredEntry.decoder e.toJson e :=
    Decoder.exact_entry e
  rw [hexact.run (Json.parse?_compact (printable_entry e)), if_pos]
  simp [StoredEntry.toJson, Json.depth, Json.depthOfMembers, Decoder.depthLimit]

namespace Tables

theorem printable_toJson (t : Tables String) : t.toJson.Printable := by
  have htable : ∀ m : KeyMap String String,
      (Json.object (m.entries.map fun e => (e.1, .string e.2))).Printable := by
    intro m
    rw [Json.printable_object]
    intro member hmember
    obtain ⟨e, -, rfl⟩ := List.mem_map.1 hmember
    exact Json.printable_string e.2
  rw [Tables.toJson, Json.printable_object]
  intro member hmember
  obtain ⟨b, -, rfl⟩ := List.mem_map.1 hmember
  exact htable (t.table b)

theorem depth_toJson (t : Tables String) : t.toJson.depth ≤ 2 := by
  have htable : ∀ entries : List (String × String),
      Json.depthOfMembers (entries.map fun e => (e.1, .string e.2)) = 0 := by
    intro entries
    induction entries with
    | nil => rfl
    | cons e entries ih => simp [Json.depthOfMembers, Json.depth, ih]
  simp [Tables.toJson, Bucket.all, Json.depthOfMembers, Json.depth, htable]

theorem run_compact (t : Tables String) : Tables.decoder.run t.toJson.compact = some t := by
  have hexact : Decoder.Exact (Decoder.depthLimit + 1) Tables.decoder t.toJson t :=
    Decoder.exact_tables t
  rw [hexact.run (Json.parse?_compact t.printable_toJson), if_pos]
  exact Nat.le_trans t.depth_toJson (by decide)

theorem ofContent?_content (t : Tables String) : Tables.ofContent? t.content = some t := by
  have hrun := t.run_compact
  have htext := strictText?_utf8Bytes t.toJson.compact
  rw [Tables.ofContent?, Tables.content, htext]
  split
  · rename_i hempty
    -- No document is empty.
    have hblank : t.toJson.compact = "" := by
      rw [List.isEmpty_iff.1 hempty] at htext
      have hnil : strictText? [] = some "" := by
        rw [strictText?, charsOf]
        rfl
      exact Option.some.inj (htext.symm.trans hnil)
    rw [hblank] at hrun
    cases hrun
  · exact hrun

end Tables

namespace DurableStore

open FileTree

variable {t t' : FileTree} {directory : Path} {tables : Tables String}

theorem plain_data : Path.IsPlain (Text.utf8Bytes "data.mdb") := ⟨by decide, by decide⟩

theorem plain_lock : Path.IsPlain (Text.utf8Bytes "lock.mdb") := ⟨by decide, by decide⟩

structure Ready (t : FileTree) (directory : Path) : Prop where
  isDirectory : t.isDirectory directory = true
  data : ∃ s, Open t (dataFile directory) s
  lock : ∃ s, Open t (lockFile directory) s

/-- The directory holds tables; empty tables if there is no file. -/
def Holds (t : FileTree) (directory : Path) (tables : Tables String) : Prop :=
  t.read (dataFile directory) = .ok tables.content ∨
    t.read (dataFile directory) = .error .notFound ∧ tables = .empty

theorem Ready.after {places : List Location} (h : Ready t directory)
    (hdiffer : FilesDiffer places t t') : Ready t' directory := by
  obtain ⟨a, ha⟩ := h.data
  obtain ⟨b, hb⟩ := h.lock
  exact ⟨hdiffer.isDirectory h.isDirectory, ⟨a, hdiffer.isOpen ha⟩, b, hdiffer.isOpen hb⟩

theorem Holds.after {b : Slot} (h : Holds t directory tables) (hready : Ready t directory)
    (hb : Open t (lockFile directory) b) (hdiffer : FilesDiffer [b.location] t t') :
    Holds t' directory tables := by
  obtain ⟨a, ha⟩ := hready.data
  have hnode : t'.node? a.location = t.node? a.location := by
    apply hdiffer.elsewhere
    intro place hplace
    rw [List.mem_singleton.1 hplace]
    exact slots_apart ha.slot hb.slot plain_data plain_lock (Path.endsIn_join directory plain_data)
      (Path.endsIn_join directory plain_lock) (by decide)
  rwa [Holds, ha.read_congr (hdiffer.isOpen ha) hnode]

theorem guarded_of_open {b : Slot} (hb : Open t (lockFile directory) b) :
    ∃ t', guarded t directory = .ok t' ∧ FilesDiffer [b.location] t t' := by
  unfold guarded
  split
  · exact ⟨t, rfl, .refl _ t⟩
  · exact ⟨_, write_of_open hb [], filesDiffer_place hb (by simp) []⟩

theorem readTables_of_holds (h : Ready t directory) (hholds : Holds t directory tables) :
    ∃ t', readTables t directory = some (tables, t') ∧ Ready t' directory := by
  obtain ⟨a, ha⟩ := h.data
  have hwrite := write_of_open ha tables.content
  refine ⟨t.place a.location (.file tables.content), ?_,
    h.after (filesDiffer_place ha (List.mem_singleton_self _) _)⟩
  rcases hholds with hread | ⟨hread, rfl⟩
  · simp only [readTables, hread, Tables.ofContent?_content, Option.bind_some, hwrite]
    rfl
  · simp only [readTables, hread, hwrite]
    rfl

theorem openAt_of_ready (h : Ready t directory) (hholds : Holds t directory tables) :
    ∃ t', openAt t directory = (.ok ⟨directory, tables⟩, t') ∧ Ready t' directory := by
  obtain ⟨b, hb⟩ := h.lock
  obtain ⟨t₁, hguarded, hdiffer⟩ := guarded_of_open hb
  obtain ⟨t₂, htables, hready⟩ :=
    readTables_of_holds (h.after hdiffer) (hholds.after h hb hdiffer)
  refine ⟨t₂, ?_, hready⟩
  simp only [openAt, ensureDirectories_of_isDirectory h.isDirectory, h.isDirectory, Bool.not_true,
    Bool.false_eq_true, if_false, hguarded, htables]

theorem open_of_guarded (h : guarded t directory = .ok t') :
    ∃ b, Open t (lockFile directory) b ∧ FilesDiffer [b.location] t t' := by
  unfold guarded at h
  split at h
  · rename_i hfile
    cases h
    unfold isFile at hfile
    split at hfile
    · rename_i l content hfind
      obtain ⟨b, hb, -⟩ := open_of_find
        (lastName?_of_endsIn plain_lock (Path.endsIn_join directory plain_lock)) hfind
      exact ⟨b, hb, .refl _ t⟩
    · cases hfile
  · obtain ⟨b, hb, rfl⟩ := open_of_write h
    exact ⟨b, hb, filesDiffer_place hb (List.mem_singleton_self _) []⟩

theorem open_of_readTables (h : readTables t directory = some (tables, t')) :
    ∃ a, Open t (dataFile directory) a ∧ FilesDiffer [a.location] t t' := by
  have hkeep : ∀ found : Tables String,
      (t.write (dataFile directory) found.content).toOption.map (found, ·) = some (tables, t') →
        ∃ a, Open t (dataFile directory) a ∧ FilesDiffer [a.location] t t' := by
    intro found hfound
    obtain ⟨written, hwritten, heq⟩ := Option.map_eq_some_iff.1 hfound
    cases heq
    cases hwrite : t.write (dataFile directory) tables.content with
    | error fault =>
      rw [hwrite] at hwritten
      cases hwritten
    | ok written =>
      rw [hwrite] at hwritten
      cases hwritten
      obtain ⟨a, ha, rfl⟩ := open_of_write hwrite
      exact ⟨a, ha, filesDiffer_place ha (List.mem_singleton_self _) _⟩
  unfold readTables at h
  split at h
  · obtain ⟨found, -, hfound⟩ := Option.bind_eq_some_iff.1 h
    exact hkeep found hfound
  · exact hkeep .empty h
  · cases h

theorem ready_of_openAt {store : DurableStore} (h : openAt t directory = (.ok store, t')) :
    Ready t' directory ∧ store.directory = directory := by
  unfold openAt at h
  split at h
  · cases h
  · rename_i made hmade
    split at h
    · cases h
    · rename_i hdirectory
      have hmadeDirectory : made.isDirectory directory = true := by simpa using hdirectory
      split at h
      · cases h
      · rename_i t₁ hguarded
        split at h
        · cases h
        · rename_i tables t₂ htables
          cases h
          obtain ⟨b, hb, hdiffer⟩ := open_of_guarded hguarded
          obtain ⟨a, ha, hdiffer'⟩ := open_of_readTables htables
          refine ⟨⟨?_, ⟨a, hdiffer'.isOpen ha⟩, b, hdiffer'.isOpen (hdiffer.isOpen hb)⟩, rfl⟩
          exact hdiffer'.isDirectory (hdiffer.isDirectory hmadeDirectory)

theorem holds_close {store : DurableStore} (h : Ready t store.directory) :
    Ready (store.close t) store.directory ∧
      Holds (store.close t) store.directory store.tables := by
  obtain ⟨a, ha⟩ := h.data
  have hdiffer := filesDiffer_place ha (List.mem_singleton_self _) store.tables.content
  have hclose : store.close t = t.place a.location (.file store.tables.content) := by
    simp only [close, write_of_open ha]
  have hfind := find_of_slot (hdiffer.isOpen ha).slot
    (node?_place_self a.location_ne_nil (.file store.tables.content)) (.inl ha.named)
  rw [hclose]
  refine ⟨h.after hdiffer, .inl ?_⟩
  exact read_eq_ok_iff.2 ⟨_, hfind⟩

theorem removeIfPresent_of_open {p : Path} {s : Slot} (h : Open t p s) : ∃ t',
    removeIfPresent t p = .ok t' ∧ FilesDiffer [s.location] t t' ∧
      t'.node? s.location = none := by
  cases hfind : t.find p with
  | error fault =>
    have hnone : t.node? s.location = none := by
      cases hnode : t.node? s.location with
      | none => rfl
      | some node =>
        rw [find_of_slot h.slot hnode (.inl h.named)] at hfind
        cases hfind
    refine ⟨t, ?_, .refl _ t, hnone⟩
    simp [removeIfPresent, FileTree.contains, hfind, Except.toBool]
  | ok found =>
    obtain ⟨l, node⟩ := found
    obtain ⟨rfl, content, rfl⟩ := h.find_eq_location hfind
    obtain ⟨-, -, hnode, -⟩ := find_eq_ok_iff.1 hfind
    refine ⟨t.remove s.location, ?_, filesDiffer_remove h (by simp),
      node?_remove_self s.location_ne_nil⟩
    simp [removeIfPresent, FileTree.contains, hfind, Except.toBool, removeFile_of_open h hnode]

theorem holds_clear (h : Ready t directory) : ∃ t', clear t directory = (.ok (), t') ∧
    Ready t' directory ∧ Holds t' directory .empty := by
  obtain ⟨a, ha⟩ := h.data
  obtain ⟨t₁, hdata, hdiffer, hnone⟩ := removeIfPresent_of_open ha
  have hready := h.after hdiffer
  obtain ⟨b, hb⟩ := hready.lock
  obtain ⟨t₂, hlock, hdiffer', -⟩ := removeIfPresent_of_open hb
  have hholds : Holds t₁ directory .empty := by
    refine .inr ⟨?_, rfl⟩
    simp only [FileTree.read, find_of_empty_slot (hdiffer.isOpen ha).slot hnone]
  refine ⟨t₂, ?_, hready.after hdiffer', hholds.after hready hb hdiffer'⟩
  simp only [clear, hdata, hlock]

end DurableStore

end AnnotationIndex
