import AnnotationIndex.Proofs.Index.Collections
import AnnotationIndex.Proofs.Java.Unannotated
import AnnotationIndex.Proofs.Run.Alongside
import AnnotationIndex.Proofs.Run.Reliable
import AnnotationIndex.Proofs.Run.Targets

/-!
# Files without annotations

Of two runs, one leaves out the files without annotations before it reads them, and the other one
does not. Both keep the same of all other files. The second run may keep types of the files that are
left out, but nothing is recorded of these, and no type of another file changes its owner. So what is
collected belongs together, whatever it is that brings the single files together.
-/

namespace AnnotationIndex

open Java

variable {σ : Type} {b : Backend σ} {takes : String → Bool} {tree : FileTree} {sources : List Path}

theorem mentionedAt_of_read {path : Path} {content : List UInt8}
    (hread : tree.read path = .ok content) :
    mentionedAt tree path = mentionsAnnotations content := by
  rw [mentionedAt, Plain.contentAt_of_read hread]

section Unannotated

variable {content : List UInt8}

end Unannotated

/-- What two runs keep of a list of files: the same of a file that mentions annotations, and
otherwise nothing in the first run. -/
inductive KeptAlike (tree : FileTree) :
    List ResolvedFile → List (List String) → List (List String) → Prop where
  | nil : KeptAlike tree [] [] []
  | mentioned {f : ResolvedFile} {files : List ResolvedFile} {lists lists' : List (List String)}
      (hf : mentionedAt tree f.file.path = true) (kept : List String)
      (rest : KeptAlike tree files lists lists') :
      KeptAlike tree (f :: files) (kept :: lists) (kept :: lists')
  | dropped {f : ResolvedFile} {files : List ResolvedFile} {lists lists' : List (List String)}
      (hf : mentionedAt tree f.file.path = false) (kept' : List String)
      (rest : KeptAlike tree files lists lists') :
      KeptAlike tree (f :: files) ([] :: lists) (kept' :: lists')

section Kept

variable {loader : Loader} {f : ResolvedFile}

end Kept

theorem mentionedAt_same {p q : Path} (hp : ∃ content, tree.read p = .ok content)
    (hq : ∃ content, tree.read q = .ok content) (h : p.same q = true) :
    mentionedAt tree p = mentionedAt tree q := by
  obtain ⟨content, hp⟩ := hp
  obtain ⟨content', hq⟩ := hq
  rw [mentionedAt_of_read hp, mentionedAt_of_read hq, FileTree.read_same hp hq h]

/-- The first run has the owners that mention annotations. All owners in the second run were owners
in `m`. -/
structure OwnersAlike (tree : FileTree) (m : ClassMap) (owners owners' : KeyMap String Path) :
    Prop where
  first : ∀ name, owners.get? name = (owners'.get? name).filter (mentionedAt tree)
  owned : ∀ name path, owners'.get? name = some path →
    m.isOwnedBy name path = true ∧ ∃ content, tree.read path = .ok content

namespace OwnersAlike

variable {m : ClassMap} {owners owners' : KeyMap String Path} {f : ResolvedFile}
  {types : List String}

theorem owned_claim (h : OwnersAlike tree m owners owners') (hread : Readable tree f)
    (htypes : ∀ t ∈ types, m.isOwnedBy t f.file.path = true) (name : String) (path : Path)
    (howner : (ClassMap.claim owners' f.file.path types).get? name = some path) :
    m.isOwnedBy name path = true ∧ ∃ content, tree.read path = .ok content := by
  rw [ClassMap.get?_claim] at howner
  split at howner
  · rename_i hname
    cases howner
    exact ⟨htypes name hname, hread⟩
  · exact h.owned name path howner

theorem claim_mentioned (h : OwnersAlike tree m owners owners') (hread : Readable tree f)
    (hf : mentionedAt tree f.file.path = true)
    (htypes : ∀ t ∈ types, m.isOwnedBy t f.file.path = true) :
    OwnersAlike tree m (ClassMap.claim owners f.file.path types)
      (ClassMap.claim owners' f.file.path types) := by
  refine ⟨fun name => ?_, h.owned_claim hread htypes⟩
  rw [ClassMap.get?_claim, ClassMap.get?_claim]
  split
  · simp [Option.filter_some, hf]
  · exact h.first name

theorem claim_dropped (h : OwnersAlike tree m owners owners') (hread : Readable tree f)
    (hf : mentionedAt tree f.file.path = false)
    (htypes : ∀ t ∈ types, m.isOwnedBy t f.file.path = true) :
    OwnersAlike tree m owners (ClassMap.claim owners' f.file.path types) := by
  refine ⟨fun name => ?_, h.owned_claim hread htypes⟩
  rw [ClassMap.get?_claim, h.first]
  split
  · rename_i hname
    cases howner : owners'.get? name with
    | none => simp [Option.filter_some, hf]
    | some path =>
      -- Both files own the type in `m`, so they are one file.
      obtain ⟨howned, hpath⟩ := h.owned name path howner
      have hsame := mentionedAt_same hpath hread
        (ClassMap.same_of_isOwnedBy howned (htypes name hname))
      simp [Option.filter_some, hf, hsame]
  · rfl

theorem claimOwned (h : OwnersAlike tree m owners owners') {files : List ResolvedFile}
    {lists lists' : List (List String)} (halike : KeptAlike tree files lists lists')
    (hread : ∀ f ∈ files, Readable tree f) :
    OwnersAlike tree m (m.claimOwned owners (files.zip lists))
      (m.claimOwned owners' (files.zip lists')) := by
  induction halike generalizing owners owners' with
  | nil => exact h
  | mentioned hf kept _ ih =>
    obtain ⟨hfirst, hrest⟩ := List.forall_mem_cons.1 hread
    exact ih (h.claim_mentioned hfirst hf fun t ht => (List.mem_filter.1 ht).2) hrest
  | dropped hf kept' _ ih =>
    obtain ⟨hfirst, hrest⟩ := List.forall_mem_cons.1 hread
    exact ih (h.claim_dropped hfirst hf fun t ht => (List.mem_filter.1 ht).2) hrest

theorem retainWith {lists lists' : List (List String)}
    (halike : KeptAlike tree m.files lists lists') (hread : ∀ f ∈ m.files, Readable tree f) :
    OwnersAlike tree m (m.retainWith lists).owners (m.retainWith lists').owners := by
  rw [ClassMap.owners_retainWith, ClassMap.owners_retainWith]
  have hempty : OwnersAlike tree m .empty .empty := ⟨fun _ => rfl, nofun⟩
  exact hempty.claimOwned halike hread

end OwnersAlike

section Records

variable {options : ExtractOptions} {loader : Loader} {f : ResolvedFile}

end Records

end AnnotationIndex
