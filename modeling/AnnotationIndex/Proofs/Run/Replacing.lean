import AnnotationIndex.Proofs.Files.Tree
import AnnotationIndex.Run.Report

/-!
# Replacing an artifact again

An artifact that was replaced can be read, and it can be replaced again: replacing it changes no
directory, and what makes a place fit for a file are the directories that lead there.
-/

namespace AnnotationIndex

open FileTree

structure Replaceable (t : FileTree) (p : Path) : Prop where
  parent : ∀ parent, outputParent? p = some parent → t.isDirectory parent = true
  temporary : ∃ s, Open t (temporaryPath p) s
  target : ∃ s, Open t p s

variable {t t' : FileTree} {p : Path} {content : List UInt8} {trees : List FileTree}

private theorem writeTemporary_of_open {a b : Slot} (ha : Open t (temporaryPath p) a)
    (hb : Open t p b) (content : List UInt8) (trees : List FileTree) : ∃ t' rest,
    writeTemporary .reliable p content t trees = ⟨.ok (), t' :: rest⟩ ∧
      FilesDiffer [a.location, b.location] t t' ∧
        t'.node? b.location = some (.file content) := by
  have hplace : FilesDiffer [a.location, b.location] t (t.place a.location (.file content)) :=
    filesDiffer_place ha (by simp) content
  obtain ⟨t', hmove, hdiffer, hnode⟩ := moveFile_of_open (hplace.isOpen ha) (hplace.isOpen hb)
    (node?_place_self a.location_ne_nil _)
  refine ⟨t', t.place a.location (.file content) :: trees, ?_, hplace.trans hdiffer, hnode⟩
  simp only [writeTemporary, Disk.reliable, Disk.outcome, write_of_open ha, moveTemporary, hmove]

private theorem open_of_writeTemporary
    (h : (writeTemporary .reliable p content t trees).result = .ok ()) :
    (∃ a, Open t (temporaryPath p) a) ∧ ∃ b, Open t p b := by
  cases hwrite : t.write (temporaryPath p) content with
  | error fault => simp [writeTemporary, Disk.reliable, Disk.outcome, hwrite] at h
  | ok t' =>
    obtain ⟨a, ha, rfl⟩ := open_of_write hwrite
    simp only [writeTemporary, Disk.reliable, Disk.outcome, hwrite, moveTemporary] at h
    cases hmove : (t.place a.location (.file content)).moveFile (temporaryPath p) p with
    | error fault =>
      rw [hmove] at h
      cases h
    | ok t' =>
      obtain ⟨b, hb⟩ := open_of_moveFile hmove
      have hplace := filesDiffer_place ha (List.mem_singleton_self _) content
      exact ⟨⟨a, ha⟩, b, hplace.symm.isOpen hb⟩

theorem outputParent?_ne {parent : Path} (h : outputParent? p = some parent) :
    parent.bytes ≠ [] := by
  unfold outputParent? at h
  split at h
  · split at h
    · cases h
    · rename_i hempty
      cases h
      simpa using hempty
  · cases h

theorem writeArtifact_of_open (hparent : ∀ parent, outputParent? p = some parent →
      t.isDirectory parent = true) {a b : Slot} (ha : Open t (temporaryPath p) a) (hb : Open t p b)
    (text : String) : ∃ t', writeArtifact p text t = (.ok (), t') ∧
      FilesDiffer [a.location, b.location] t t' ∧
        t'.node? b.location = some (.file (Text.utf8Bytes text)) := by
  obtain ⟨t', rest, hreplace, hdiffer, hnode⟩ : ∃ t' rest,
      replaceArtifact .reliable p (Text.utf8Bytes text) t = ⟨.ok (), t' :: rest⟩ ∧
        FilesDiffer [a.location, b.location] t t' ∧
          t'.node? b.location = some (.file (Text.utf8Bytes text)) := by
    unfold replaceArtifact
    split
    · exact writeTemporary_of_open ha hb _ _
    · rename_i parent houtput
      have hmake : Disk.reliable.makeDirectories parent t = (.ok (), t) := by
        simp only [Disk.reliable, ensureDirectories_of_isDirectory (hparent parent houtput)]
      rw [hmake]
      exact writeTemporary_of_open ha hb _ _
  refine ⟨t', ?_, hdiffer, hnode⟩
  simp [writeArtifact, hreplace, Replacement.tree]

theorem writeArtifact_of_replaceable (h : Replaceable t p) (text : String) :
    ∃ t', writeArtifact p text t = (.ok (), t') ∧ t'.read p = .ok (Text.utf8Bytes text) ∧
      t'.isDirectory p = false ∧ Replaceable t' p := by
  obtain ⟨a, ha⟩ := h.temporary
  obtain ⟨b, hb⟩ := h.target
  obtain ⟨t', hwrite, hdiffer, hnode⟩ := writeArtifact_of_open h.parent ha hb text
  have hfind := find_of_slot (hdiffer.isOpen hb).slot hnode (.inl hb.named)
  refine ⟨t', hwrite, ?_, ?_, ?_⟩
  · exact read_eq_ok_iff.2 ⟨_, hfind⟩
  · simp only [isDirectory, hfind]
  · exact ⟨fun parent hparent => hdiffer.isDirectory (h.parent parent hparent),
      ⟨a, hdiffer.isOpen ha⟩, b, hdiffer.isOpen hb⟩

/-- Where an artifact was put, any artifact can be put once the directory is made, and it makes no
difference that it is made before. -/
theorem replaceable_of_writeArtifact {text : String} (h : writeArtifact p text t = (.ok (), t')) :
    ∃ made, Replaceable made p ∧ ∀ text, writeArtifact p text made = writeArtifact p text t := by
  have hresult : (replaceArtifact .reliable p (Text.utf8Bytes text) t).result = .ok () :=
    congrArg Prod.fst h
  cases hparent : outputParent? p with
  | none =>
    refine ⟨t, ?_, fun _ => rfl⟩
    simp only [replaceArtifact, hparent] at hresult
    obtain ⟨htemporary, htarget⟩ := open_of_writeTemporary hresult
    exact ⟨by simp [hparent], htemporary, htarget⟩
  | some parent =>
    cases hmake : t.ensureDirectories parent with
    | mk outcome made =>
      cases outcome with
      | error fault =>
        simp [replaceArtifact, hparent, Disk.reliable, hmake] at hresult
      | ok _ =>
        have hdirectory := isDirectory_of_ensureDirectories (outputParent?_ne hparent) hmake
        have hagain := ensureDirectories_of_isDirectory hdirectory
        have hsame : ∀ content, replaceArtifact .reliable p content made =
            replaceArtifact .reliable p content t := by
          simp only [replaceArtifact, hparent, Disk.reliable, hmake, hagain, implies_true]
        have hwrite : ∀ content, replaceArtifact .reliable p content t =
            writeTemporary .reliable p content made [made] := by
          simp only [replaceArtifact, hparent, Disk.reliable, hmake, implies_true]
        rw [hwrite] at hresult
        obtain ⟨⟨a, ha⟩, b, hb⟩ := open_of_writeTemporary hresult
        have hreplaceable : Replaceable made p := by
          refine ⟨?_, ⟨a, ha⟩, b, hb⟩
          intro other hother
          rw [hparent] at hother
          cases hother
          exact hdirectory
        refine ⟨made, hreplaceable, fun text => ?_⟩
        obtain ⟨t'', rest, hdone, -⟩ := writeTemporary_of_open ha hb (Text.utf8Bytes text) [made]
        rw [writeArtifact, writeArtifact, hsame, hwrite, hdone]
        rfl

theorem writeArtifact_again {text : String} (h : writeArtifact p text t = (.ok (), t')) :
    t'.read p = .ok (Text.utf8Bytes text) ∧ t'.isDirectory p = false ∧ Replaceable t' p := by
  obtain ⟨made, hmade, hwrite⟩ := replaceable_of_writeArtifact h
  obtain ⟨t'', hwrite', hagain⟩ := writeArtifact_of_replaceable hmade text
  obtain rfl : t'' = t' := by
    rw [hwrite, h] at hwrite'
    exact (Prod.mk.inj hwrite').2.symm
  exact hagain

theorem publish_ok_iff {config : Config} {c : Collection} :
    publish config c t = (.ok (), t') ↔ c.locations.values.all Path.isText = true ∧
      writeArtifact config.outputPath (Artifact.ofCollection c config.captureArguments).render t =
        (.ok (), t') := by
  unfold publish Collection.render
  by_cases hpaths : c.locations.values.all Path.isText = true <;> simp [hpaths]

end AnnotationIndex
