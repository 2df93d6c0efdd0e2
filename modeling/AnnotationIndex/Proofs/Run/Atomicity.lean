import AnnotationIndex.Proofs.Files.Detours
import AnnotationIndex.Proofs.Run.Failed

/-!
# Replacing an artifact on a disk that may fail

Every operation of a disk may fail, and making directories or writing may then be left half done. At
every step the place of the artifact holds what it held before or all that is new, and nothing else is
touched but the temporary file and directories that were missing.

There are two exceptions. A path that leads up out of a directory that was missing finds, once the
directory is made, what was there before. And writing follows links: the temporary file has to be a
file of its own, and the path may not run through links to it or to the artifact.
-/

namespace AnnotationIndex

open FileTree (Slot parentComponents lastName? pathFault? components_of_lastName
  lastName?_of_endsIn)
open LinkedTree

variable {disk : Disk LinkedTree} {t t' made w : LinkedTree} {p : Path} {content : List UInt8}
variable {a b : Slot} {trees : List LinkedTree} {places : List Location}

/-- An operation succeeded with the one tree or failed with the other one. -/
def Done (success failure : LinkedTree → Prop) : Except Fault Unit × LinkedTree → Prop
  | (.ok (), t) => success t
  | (.error _, t) => failure t

/-- The operations do what they do in a file tree or fail for any reason. Then directories may be made
in part, and a file may be written with any content. A file is moved or removed, or it is not. -/
structure Disk.Sound (disk : Disk LinkedTree) : Prop where
  makeDirectories : ∀ p t, Done (fun t' => t.ensureDirectories p = (.ok (), t'))
    (fun t' => MadeTo p t t') (disk.makeDirectories p t)
  write : ∀ p content t, Done (fun t' => t.write p content = .ok t')
    (fun t' => t' = t ∨ ∃ part, t.write p part = .ok t') (disk.write p content t)
  moveFile : ∀ p q t, Done (fun t' => t.moveFile p q = .ok t') (· = t) (disk.moveFile p q t)
  removeFile : ∀ p t, Done (fun t' => t.removeFile p = .ok t') (· = t) (disk.removeFile p t)

/-- At the path the same is read in both trees. Where nothing was read before, that is so for every
path but those that lead up out of a directory that was missing. -/
structure ReadsSame (p : Path) (t t' : LinkedTree) : Prop where
  kept : ∀ content, t.read p = .ok content → t'.read p = .ok content
  absent : t.Grounded → ¬ t.LeadsUpFromMissing p →
    ∀ content, t'.read p = .ok content → t.read p = .ok content

/-- The location is in the slot that the path names. -/
def LinkedTree.NamedBy (t : LinkedTree) (p : Path) (l : Location) : Prop :=
  ∃ s, t.slot? p = .ok (some s) ∧ s.location = l

/-- Nothing is different but what has the name of some paths, and directories on the way to the
artifact that were missing. -/
structure OnlyAt (paths : List Path) (p : Path) (t t' : LinkedTree) : Prop where
  current : t'.current = t.current
  elsewhere : ∀ l, (t'.entryAt l = t.entryAt l ∧ t'.content? l = t.content? l) ∨
    (∃ q ∈ paths, t'.NamedBy q l) ∨
    t.entryAt l = none ∧ t'.entryAt l = some .directory ∧ ∃ parent, outputParent? p = some parent ∧
      ∃ made, MadeTo parent t made ∧ made.entryAt l = some .directory

/-- The artifact is as it was. -/
structure Untouched (p : Path) (t t' : LinkedTree) : Prop where
  reads : ReadsSame p t t'
  onlyAt : OnlyAt [temporaryPath p] p t t'

/-- Links do not get in the way of replacing an artifact. -/
structure Clear (p : Path) (t : LinkedTree) : Prop where
  /-- The temporary file is no link and has no other name. -/
  own : ∀ a, t.slot? (temporaryPath p) = .ok (some a) → t.entryAt a.location = none ∨
    t.entryAt a.location = some .directory ∨ ∃ id, t.FileAt a.location id
  /-- The path is no link to it. -/
  apart : ∀ a, t.slot? (temporaryPath p) = .ok (some a) → t.locate p ≠ .ok a.location
  /-- A link at the path is not on the way to it. -/
  way : ∀ b, t.slot? p = .ok (some b) → t.target? b.location ≠ none →
    (t.remove b.location).slot? p = .ok (some b)

/-- The directory of the artifact may have been made. -/
def MadeFor (p : Path) (t made : LinkedTree) : Prop :=
  made = t ∨ ∃ parent, outputParent? p = some parent ∧ MadeTo parent t made

theorem parent_of_output {parent : Path} (h : outputParent? p = some parent) :
    p.parent? = some parent := by
  unfold outputParent? at h
  split at h
  · split at h
    · cases h
    · rwa [← h]
  · cases h

theorem MadeFor.readsSame (h : MadeFor p t made) : ReadsSame p t made := by
  rcases h with rfl | ⟨parent, hparent, hmade⟩
  · exact ⟨fun _ hread => hread, fun _ _ _ hread => hread⟩
  · have hprefix := Path.components_parent (parent_of_output hparent)
    refine ⟨fun _ hread => hmade.more.read hread, fun hgrounded hup content hread => ?_⟩
    rcases hmade.unreadable hprefix hgrounded hup with rfl | hnever
    · exact hread
    · exact absurd hread (hnever content)

theorem MadeFor.current (h : MadeFor p t made) : made.current = t.current := by
  rcases h with rfl | ⟨parent, -, hmade⟩
  · rfl
  · exact hmade.more.current

theorem MadeFor.onlyAt (h : MadeFor p t made) (hsame : SameBut places made t') {paths : List Path}
    (hplaces : ∀ l ∈ places, ∃ q ∈ paths, t'.NamedBy q l) : OnlyAt paths p t t' := by
  refine ⟨hsame.current.trans h.current, fun l => ?_⟩
  by_cases hl : l ∈ places
  · exact .inr (.inl (hplaces l hl))
  · have hentry := hsame.entries l hl
    have hcontent := hsame.contents l hl
    rcases h with rfl | ⟨parent, hparent, hmade⟩
    · exact .inl ⟨hentry, hcontent⟩
    · rcases hmade.more.entries l with hsame' | ⟨hnone, hdirectory⟩
      · refine .inl ⟨hentry.trans hsame', hcontent.trans ?_⟩
        rw [content?, content?, hsame', hmade.more.contents]
      · exact .inr (.inr ⟨hnone, hentry.trans hdirectory, parent, hparent, made, hmade, hdirectory⟩)

theorem MadeFor.untouched (h : MadeFor p t made) (hclear : Clear p made)
    (ha : made.slot? (temporaryPath p) = .ok (some a)) (hsame : SameBut [a.location] made t')
    (hways : WaysKept made t') (hback : WaysKept t' made) : Untouched p t t' := by
  have helsewhere : ∀ l ∈ [a.location], made.locate p ≠ .ok l :=
    List.forall_mem_singleton.2 (hclear.apart a ha)
  refine ⟨⟨fun content hread => ?_, fun hgrounded hup content hread => ?_⟩, ?_⟩
  · exact hsame.read hways helsewhere (h.readsSame.kept content hread)
  · refine h.readsSame.absent hgrounded hup content (hsame.symm.read hback ?_ hread)
    exact fun l hl hlocate => helsewhere l hl (hback.locate hlocate)
  · refine h.onlyAt hsame (List.forall_mem_singleton.2 ?_)
    exact ⟨temporaryPath p, List.mem_singleton_self _, a, hways.slot ha, rfl⟩

theorem MadeFor.untouched_written (h : MadeFor p t made) (hclear : Clear p made)
    (ha : made.slot? (temporaryPath p) = .ok (some a)) (hw : Written a.location content made w) :
    Untouched p t w := h.untouched hclear ha hw.toSameBut hw.ways hw.back

theorem waysKept_remove {l : Location} {id : Nat} (hl : l ≠ []) (hfile : t.FileAt l id) :
    WaysKept t (t.remove l) ∧ WaysKept (t.remove l) t := by
  have hnone : (t.remove l).entryAt l = none := by rw [entryAt_remove hl, if_pos rfl]
  have htarget : (t.remove l).target? l = none := by rw [target?, hnone]
  have hsame := sameBut_remove (t := t) hl
  refine ⟨hsame.ways ?_ ?_, hsame.symm.ways ?_ ?_⟩ <;> simp [hfile.1, hnone, hfile.target, htarget]

theorem MadeFor.untouched_removed (h : MadeFor p t made) (hclear : Clear p made)
    (ha : made.slot? (temporaryPath p) = .ok (some a)) (hw : Written a.location content made w) :
    Untouched p t (w.remove a.location) := by
  obtain ⟨id, hfile, -⟩ := hw.file
  obtain ⟨hways, hback⟩ := waysKept_remove a.location_ne_nil hfile
  exact h.untouched hclear ha (hw.toSameBut.trans (sameBut_remove a.location_ne_nil))
    (hw.ways.trans hways) (hback.trans hw.back)

theorem not_contains_of_slot (ha : t.slot? p = .ok (some a)) (hnamed : a.asDirectory = false)
    (hnone : t.entryAt a.location = none) : t.contains p = false := by
  have hlink : t.target? a.location = none := by rw [target?, hnone]
  simp only [contains, locate_of_slot ha hnamed hlink, hnone, Option.isSome_none]

theorem MadeFor.cleaned (h : MadeFor p t made) (hdisk : disk.Sound) (hclear : Clear p made)
    (ha : made.slot? (temporaryPath p) = .ok (some a)) (hnamed : a.asDirectory = false)
    (hw : Written a.location content made w) :
    Untouched p t (disk.removeFile (temporaryPath p) w).2 ∧
      ((disk.removeFile (temporaryPath p) w).1 = .ok () →
        (disk.removeFile (temporaryPath p) w).2.contains (temporaryPath p) = false) := by
  obtain ⟨id, hfile, -⟩ := hw.file
  have ha' := hw.ways.slot ha
  have hremove := hdisk.removeFile (temporaryPath p) w
  generalize disk.removeFile (temporaryPath p) w = outcome at hremove
  obtain ⟨result, left⟩ := outcome
  cases result with
  | ok _ =>
    obtain rfl : left = w.remove a.location := removed_of_removeFile hremove ha' hfile
    have hgone : (w.remove a.location).entryAt a.location = none := by
      rw [entryAt_remove a.location_ne_nil, if_pos rfl]
    have haslot := (waysKept_remove a.location_ne_nil hfile).1.slot ha'
    exact ⟨h.untouched_removed hclear ha hw, fun _ => not_contains_of_slot haslot hnamed hgone⟩
  | error fault =>
    obtain rfl : left = w := hremove
    exact ⟨h.untouched_written hclear ha hw, nofun⟩

namespace Linking

def name (text : String) : Location := [Text.utf8Bytes text]

def treeWith (entries : List (Location × Entry)) : LinkedTree where
  entries := .ofList ([(name "o.json", .file 0), (name "other", .file 1)] ++ entries)
  contents id := [UInt8.ofNat id]
  current := []

def other : Path := .ofText "/other"

/-- The directory of the artifact can also be reached through a link. -/
def tree : LinkedTree := treeWith [(name "d", .link (.ofText "/"))]

end Linking

namespace Linking

/-- What replacing the artifact at a path comes to, what is read at the path before and after it, and
what is read of the other file then. -/
def outcome (disk : Disk LinkedTree) (path : String) (t : LinkedTree) :=
  let r := replaceArtifact disk (.ofText path) [2, 3] t
  (r.result.toBool, t.read (.ofText path), (r.tree t).read (.ofText path), (r.tree t).read other)

end Linking

end AnnotationIndex
