import AnnotationIndex.Proofs.Files.Growth
import AnnotationIndex.Proofs.Run.Replacing
import AnnotationIndex.Run.Report

/-!
# Failed runs

Whatever a run fails for, the artifact of an earlier run can still be read, and where there was none
there is none. There are two exceptions. A store that cannot tell its size fails a run that has
replaced the artifact already. And a run that fails leaves the directories that it made: a path that
leads up again out of such a directory may lead to a file then.
-/

namespace AnnotationIndex

open FileTree

variable {σ : Type} {b : Backend σ} {config : Config} {s s' : RunState σ} {f : Failure}
variable {t t' : FileTree} {p : Path} {content : List UInt8} {places : List Location}

theorem plain_temporary {name : List UInt8} (h : Path.IsPlain name) :
    Path.IsPlain (name ++ Text.utf8Bytes ".tmp") := by
  have hslash : Path.slash ∉ Text.utf8Bytes ".tmp" := by decide
  refine ⟨by simp [h.slash, hslash], ?_⟩
  -- It is longer than a dot and than two dots.
  have hlong : 3 < (name ++ Text.utf8Bytes ".tmp").length := by
    rw [List.length_append]
    exact Nat.lt_of_lt_of_le (by decide) (Nat.le_add_left 4 name.length)
  generalize name ++ Text.utf8Bytes ".tmp" = piece at hlong
  have hother : ∀ other : List UInt8, other.length ≤ 3 → piece ≠ other := by
    rintro other hother rfl
    exact Nat.not_le_of_lt hlong hother
  have hempty := hother [] (by decide)
  have hdot := hother [Path.dot] (by decide)
  have hdots := hother [Path.dot, Path.dot] (by decide)
  simp [Path.componentOf?, hempty, hdot, hdots]

theorem endsIn_temporary {name : List UInt8} (h : p.EndsIn name) :
    (temporaryPath p).EndsIn (name ++ Text.utf8Bytes ".tmp") := by
  obtain ⟨front, hbytes, hfront⟩ := h
  exact ⟨front, by simp [temporaryPath, hbytes], hfront⟩

theorem temporary_ne (name : List UInt8) : name ≠ name ++ Text.utf8Bytes ".tmp" := by
  intro hsame
  exact absurd (List.append_right_eq_self.1 hsame.symm) (by decide)

def TemporaryPlace (p : Path) (place : Location) : Prop :=
  ∃ t a, FileTree.slot? t (temporaryPath p) = .ok (some a) ∧ a.location = place

theorem FileTree.FilesDiffer.read_artifact (h : FilesDiffer places t t')
    (hplaces : ∀ place ∈ places, TemporaryPlace p place) (hread : t.read p = .ok content) :
    t'.read p = .ok content := by
  obtain ⟨name, s, hplain, hname, hs⟩ := open_of_read hread
  rw [hs.read_congr (h.isOpen hs), hread]
  apply h.elsewhere
  intro place hplace
  obtain ⟨_, a, ha, rfl⟩ := hplaces place hplace
  exact slots_apart hs.slot ha hplain (plain_temporary hplain) hname (endsIn_temporary hname)
    (temporary_ne name)

/-- Directories were added, and then nothing was different but the temporary file. -/
def OnlyTemporary (p : Path) (t t' : FileTree) : Prop :=
  ∃ made places, DirectoriesAdded t made ∧ FilesDiffer places made t' ∧
    ∀ place ∈ places, TemporaryPlace p place

theorem OnlyTemporary.refl (p : Path) (t : FileTree) : OnlyTemporary p t t :=
  ⟨t, [], .refl t, .refl [] t, by simp⟩

/-- What is read at the path is read there afterwards, and nothing that was not read there before,
if the path does not lead up. -/
structure ReadsKept (p : Path) (t t' : FileTree) : Prop where
  kept : ∀ content, t.read p = .ok content → t'.read p = .ok content
  nothingNew : t.Grounded → .parent ∉ p.components →
    ∀ content, t'.read p = .ok content → t.read p = .ok content

theorem OnlyTemporary.readsKept (h : OnlyTemporary p t t') : ReadsKept p t t' := by
  obtain ⟨made, places, hadded, hdiffer, hplaces⟩ := h
  refine ⟨fun content hread => ?_, fun hgrounded hup content hread => ?_⟩
  · exact hdiffer.read_artifact hplaces (hadded.read hread)
  · exact hadded.read_back hgrounded hup (hdiffer.symm.read_artifact hplaces hread)

private theorem writeTemporary_failed {trees : List FileTree}
    (h : (writeTemporary .reliable p content t trees).result = .error f) : ∃ t' rest places,
      writeTemporary .reliable p content t trees = ⟨.error f, t' :: rest⟩ ∧
        FilesDiffer places t t' ∧ ∀ place ∈ places, TemporaryPlace p place := by
  cases hwrite : t.write (temporaryPath p) content with
  | error fault =>
    simp only [writeTemporary, Disk.reliable, Disk.outcome, hwrite] at h ⊢
    exact ⟨t, trees, [], by rw [h], .refl [] t, by simp⟩
  | ok written =>
    obtain ⟨a, ha, rfl⟩ := open_of_write hwrite
    have hplace := filesDiffer_place ha (List.mem_singleton_self _) content
    have hagain := hplace.isOpen ha
    cases hmove : (t.place a.location (.file content)).moveFile (temporaryPath p) p with
    | ok moved =>
      simp only [writeTemporary, Disk.reliable, Disk.outcome, hwrite, moveTemporary, hmove] at h
      cases h
    | error fault =>
      have hremove := removeFile_of_open hagain
        (node?_place_self a.location_ne_nil (.file content))
      simp only [writeTemporary, Disk.reliable, Disk.outcome, hwrite, moveTemporary, hmove,
        hremove] at h ⊢
      refine ⟨_, _, [a.location], by rw [h],
        hplace.trans (filesDiffer_remove hagain (List.mem_singleton_self _)), ?_⟩
      intro place hmem
      rw [List.mem_singleton.1 hmem]
      exact ⟨t, a, ha.slot, rfl⟩

/-- A replacement that fails touches nothing but the temporary file. -/
theorem onlyTemporary_writeArtifact {text : String}
    (h : writeArtifact p text t = (.error f, t')) : OnlyTemporary p t t' := by
  have hwritten : ∀ (made : FileTree) (trees : List FileTree), DirectoriesAdded t made →
      replaceArtifact .reliable p (Text.utf8Bytes text) t =
        writeTemporary .reliable p (Text.utf8Bytes text) made trees → OnlyTemporary p t t' := by
    intro made trees hadded hreplace
    simp only [writeArtifact, hreplace, Prod.mk.injEq] at h
    obtain ⟨last, rest, places, hfailed, hdiffer, hplaces⟩ := writeTemporary_failed h.1
    obtain rfl : last = t' := by simpa [hfailed, Replacement.tree] using h.2
    exact ⟨made, places, hadded, hdiffer, hplaces⟩
  cases hparent : outputParent? p with
  | none => exact hwritten t [] (.refl t) (by simp only [replaceArtifact, hparent])
  | some parent =>
    have hadded := directoriesAdded_ensureDirectories t parent
    cases hmake : t.ensureDirectories parent with
    | mk outcome made =>
      rw [hmake] at hadded
      cases outcome with
      | error fault =>
        simp only [writeArtifact, replaceArtifact, hparent, Disk.reliable, hmake, Replacement.tree,
          List.headD_cons, Prod.mk.injEq] at h
        obtain rfl := h.2
        exact ⟨made, [], hadded, .refl [] made, by simp⟩
      | ok _ =>
        refine hwritten made [made] hadded ?_
        simp only [replaceArtifact, hparent, Disk.reliable, hmake]

theorem onlyTemporary_publish {c : Collection} (h : publish config c t = (.error f, t')) :
    OnlyTemporary config.outputPath t t' := by
  unfold publish at h
  split at h
  · cases h
    exact .refl _ t
  · exact onlyTemporary_writeArtifact h

/-- A run fails before it replaces the artifact, in replacing it, or because the store cannot tell
its size afterwards. -/
theorem run_error (h : run b config s = (.error f, s')) :
    s'.tree = s.tree ∨ ∃ c : Collected, publish config c.collection s.tree = (.error f, s'.tree) ∨
      (∃ fault, f = .store fault) ∧ publish config c.collection s.tree = (.ok (), s'.tree) := by
  unfold run runWith at h
  split at h
  · cases h
    exact .inl rfl
  · rename_i c session _
    refine .inr ⟨c, ?_⟩
    split at h
    · rename_i hwrite
      cases h
      exact .inl hwrite
    · rename_i hwrite
      split at h
      · rename_i fault _ _
        cases h
        exact .inr ⟨⟨fault, rfl⟩, hwrite⟩
      · cases h

/-- If a run fails, the artifact of an earlier run is left, and where there was none there is none;
unless it was the store that could not tell its size, and then the new artifact is there. -/
theorem artifact_of_failed_run (h : run b config s = (.error f, s')) :
    ReadsKept config.outputPath s.tree s'.tree ∨
      (∃ fault, f = .store fault) ∧ ∃ (c : Collected) (text : String),
        c.collection.render config.captureArguments = .ok text ∧
          s'.tree.read config.outputPath = .ok (Text.utf8Bytes text) := by
  obtain htree | ⟨c, hpublish | ⟨hstore, hpublish⟩⟩ := run_error h
  · rw [htree]
    exact .inl (OnlyTemporary.refl _ _).readsKept
  · exact .inl (onlyTemporary_publish hpublish).readsKept
  · obtain ⟨hpaths, hwrite⟩ := publish_ok_iff.1 hpublish
    exact .inr ⟨hstore, c, _, if_pos hpaths, (writeArtifact_again hwrite).1⟩

namespace Failing

/-- A store that refuses everything. -/
def backend : Backend Unit where
  get _ _ s := (.failed, s)
  put _ _ _ s := (.error .database, s)
  size s := (.error .database, s)

def output : Path := .ofText "/o.json"

def previous : List UInt8 := [1]

/-- An artifact of an earlier run is there. -/
def tree : FileTree := (FileTree.ofCurrent []).place [Text.utf8Bytes "o.json"] (.file previous)

/-- The tree with a directory in place of the temporary file. -/
def blocked (t : FileTree) : FileTree := t.place [Text.utf8Bytes "o.json.tmp"] .directory

def runAt (t : FileTree) (output : Path) : Except Failure RunReport × RunState Unit :=
  run backend { outputPath := output } ⟨t, { store := () }⟩

def failureOf (t : FileTree) (output : Path) : Option Failure :=
  match (runAt t output).1 with
  | .error f => some f
  | .ok _ => none

theorem run_of_failureOf (h : failureOf t p = some f) :
    run backend { outputPath := p } ⟨t, { store := () }⟩ = (.error f, (runAt t p).2) := by
  unfold failureOf at h
  split at h
  · rename_i hresult
    cases h
    exact Prod.ext hresult rfl
  · cases h

end Failing

open Failing in
/-- Where the temporary file cannot be written, the earlier artifact stays, and if there is none
there is none afterwards. -/
theorem artifact_of_blocked_run :
    (failureOf (blocked tree) output).isSome = true ∧
      (runAt (blocked tree) output).2.tree.read output = .ok previous ∧
      (failureOf (blocked (.ofCurrent [])) output).isSome = true ∧
      ∀ content, (runAt (blocked (.ofCurrent [])) output).2.tree.read output ≠ .ok content := by
  have hthere : failureOf (blocked tree) output =
      some (.artifactNotWritten (temporaryPath output) .isADirectory) := by rfl
  have habsent : failureOf (blocked (.ofCurrent [])) output =
      some (.artifactNotWritten (temporaryPath output) .isADirectory) := by rfl
  have hgrounded : (blocked (.ofCurrent [])).Grounded := ⟨rfl, by decide⟩
  have hup : .parent ∉ output.components := by decide
  refine ⟨by rw [hthere]; rfl, ?_, by rw [habsent]; rfl, ?_⟩
  · rcases artifact_of_failed_run (run_of_failureOf hthere) with hkept | ⟨⟨_, hstore⟩, -⟩
    · exact hkept.kept previous rfl
    · cases hstore
  · intro content hread
    rcases artifact_of_failed_run (run_of_failureOf habsent) with hkept | ⟨⟨_, hstore⟩, -⟩
    · cases hkept.nothingNew hgrounded hup content hread
    · cases hstore

open Failing in
/-- A store that cannot tell its size fails a run after the earlier artifact was replaced. -/
theorem artifact_lost_by_size : tree.read output = .ok previous ∧
    failureOf tree output = some (.store .database) ∧
      (runAt tree output).2.tree.read output ≠ .ok previous := by
  refine ⟨rfl, by rfl, fun hread => ?_⟩
  have hother : ((runAt tree output).2.tree.read output).toOption ≠ some previous := by
    decide +kernel
  exact hother (congrArg Except.toOption hread)

open Failing in
/-- A path that leads up out of a directory that is not there leads to no file before a run that
fails, and to one afterwards: the directory is left. -/
theorem artifact_found_by_directory :
    let detour : Path := .ofText "/n/../o.json"
    (blocked tree).read detour = .error .notFound ∧
      (failureOf (blocked tree) detour).isSome = true ∧
      (runAt (blocked tree) detour).2.tree.read detour = .ok previous := by
  refine ⟨rfl, by rfl, by rfl⟩

end AnnotationIndex
