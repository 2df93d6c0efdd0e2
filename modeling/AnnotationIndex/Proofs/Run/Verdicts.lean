import AnnotationIndex.Proofs.Run.Visibility

/-!
# Verdicts on types

The known types reach a compilation unit only as the kinds of its annotations, which no filter looks
at. What the filters keep of a file is therefore decided by its content.
-/

namespace AnnotationIndex

open Java

variable {σ : Type}

def Plain.keptOfRead (path : Path) (read : Except Fault (List UInt8)) (types : List String) :
    Except Failure (List String) :=
  keptBy (fun t => read.toOption.elim (.ok false) (accepts path · t)) types

theorem Plain.keptOfRead_ok (path : Path) (content : List UInt8) (types : List String) :
    keptOfRead path (.ok content) types = keptAmong path content types := rfl

/-- Types in a file that cannot be read are dropped before anything is known about them. -/
theorem settled_keep_unreadable (loader : Loader) {tree : FileTree} {path : Path} {fault : Fault}
    (hread : tree.read path = .error fault) (typeName : String) :
    Settled ((standardChain (σ := σ) loader tree).keep path typeName) (.ok false) := by
  have hcontent : Settled ((contentFilter (σ := σ) tree).accepts path typeName) (.ok false) := by
    simp only [contentFilter, hread]
    exact (Settled.report _).okThen (Settled.ok _)
  have hrest : (.ok false : Except Failure Bool) = .ok true →
      Settled (FilterChain.keep [instantiableFilter (σ := σ) loader tree] path typeName)
        (.ok false) := fun h => by cases h
  exact settled_keep_cons hcontent hrest

theorem settled_keptOfRead (loader : Loader) (tree : FileTree) (path : Path) (types : List String) :
    Settled (keptOf (standardChain (σ := σ) loader tree) path types)
      (Plain.keptOfRead path (tree.read path) types) := by
  cases hread : tree.read path with
  | error fault => exact settled_keptOf (settled_keep_unreadable loader hread) types
  | ok content => exact settled_keptOf (settled_keep loader hread) types

/-- A source text is accepted whatever is known, or rejected whatever is known, and the units that
are read differ in nothing but the kinds of annotations. So the filters keep the same types of a
file that has the same content, whatever else is in the tree, in the class map or in the store. -/
theorem units_and_verdicts_alike :
    (∀ (source : String) (known known' : String → Bool),
      (CompilationUnit.ofSource source known).map CompilationUnit.eraseKinds =
        (CompilationUnit.ofSource source known').map CompilationUnit.eraseKinds) ∧
    ∀ (σ σ' : Type) (loader loader' : Loader) (tree tree' : FileTree) (path : Path),
      tree.read path = tree'.read path →
        ∀ (types : List String) (s : Session σ) (s' : Session σ'),
          (keptOf (standardChain loader tree) path types s).1 =
            (keptOf (standardChain loader' tree') path types s').1 := by
  refine ⟨CompilationUnit.eraseKinds_ofSource, ?_⟩
  intro σ σ' loader loader' tree tree' path hread types s s'
  have hkept := (settled_keptOfRead loader tree path types s).1
  have hkept' := (settled_keptOfRead loader' tree' path types s').1
  rw [hkept, hkept', hread]

namespace Moving

theorem keptOfRead_importing :
    Plain.keptOfRead (.ofText "/X.java") ((treeWith declaring).read (.ofText "/X.java")) ["X"] = .ok ["X"] := by
  obtain ⟨⟨-, hclass⟩, -, ⟨hmentions, -⟩, -⟩ := evaluated
  obtain ⟨unit, hunit, htypes⟩ := (Option.any_eq_true _ _).1 hclass
  have hread : (treeWith declaring).read (.ofText "/X.java") = .ok importing := rfl
  have hkept := Plain.keptAmong_of_outline hmentions outline_importing hunit (.ofText "/X.java") ["X"]
  rw [evaluated.2.1.2.1, beq_iff_eq] at htypes
  rw [hread, Plain.keptOfRead_ok, hkept, htypes]

/-- The importing class is kept before and after the annotation type has moved, although its
annotation is of another kind then. -/
theorem units_and_verdicts_of_importing :
    (CompilationUnit.ofSource Samples.importing visible.contains).map CompilationUnit.eraseKinds =
        (CompilationUnit.ofSource Samples.importing fun _ => false).map
          CompilationUnit.eraseKinds ∧
      (treeWith declaring).read (.ofText "/X.java") = (treeWith moved).read (.ofText "/X.java") ∧
      (keptOf (standardChain { locations := visible } (treeWith declaring)) (.ofText "/X.java") ["X"]
          ({ store := .empty } : Session MemoryStore)).1 = .ok ["X"] ∧
      (keptOf (standardChain { locations := .empty } (treeWith moved)) (.ofText "/X.java") ["X"]
          ({ store := .empty } : Session MemoryStore)).1 = .ok ["X"] := by
  have hread : (treeWith declaring).read (.ofText "/X.java") = (treeWith moved).read (.ofText "/X.java") := rfl
  obtain ⟨hunits, hkept⟩ := units_and_verdicts_alike
  have hfirst := (settled_keptOfRead { locations := visible } (treeWith declaring) (.ofText "/X.java") ["X"]
    ({ store := .empty } : Session MemoryStore)).1.trans keptOfRead_importing
  exact ⟨hunits _ _ _, hread, hfirst, (hkept _ _ _ _ _ _ _ hread _ _ _).symm.trans hfirst⟩

end Moving

end AnnotationIndex
