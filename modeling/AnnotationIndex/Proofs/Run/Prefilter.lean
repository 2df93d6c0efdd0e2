import AnnotationIndex.Proofs.Run.KnownTypes
import AnnotationIndex.Proofs.Run.Repetition
import AnnotationIndex.Proofs.Run.Rereading
import AnnotationIndex.Proofs.Run.Unmentioned

/-!
# The filter that does not read the source

A file without the sign that starts annotations can be left out before it is read. Two runs from one
store show it in either of two ways. If one key always stands for one content, their stores stay
alongside one another. If the digests tell different contents under one key apart and the numbers
that are filed are read back, both stores can be relied on.
-/

namespace AnnotationIndex

open Java

variable {σ : Type} {b : Backend σ} {takes : String → Bool} {tree : FileTree} {sources : List Path}

section HoldsHeaders

variable {s : Session σ}

end HoldsHeaders

section Relied

open Plain

variable {config : Config} {r : Resolution}

end Relied

section Runs

variable {chain : ChainOf σ} {config : Config} {s : RunState σ}

end Runs

namespace Moving

end Moving

theorem Lookalikes.keysTell : (⟨Lookalikes.tree, config⟩ : Setting).KeysTell := by
  intro path hpath path' hpath' _ content content' hread hread' heq
  have hdiffer := digestsDiffer
  simp only [DigestsDiffer, List.forall_mem_singleton] at hdiffer
  exact hdiffer content (Setting.mem_contents hpath hread) content'
    (Setting.mem_contents hpath' hread') heq

end AnnotationIndex
