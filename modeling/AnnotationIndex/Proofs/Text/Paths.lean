import AnnotationIndex.Path
import AnnotationIndex.Proofs.Text.Utf8

/-!
# The texts of paths

A path that was spelled by a text has that text, and paths that are texts are told apart by them.
Other paths may share a text.
-/

namespace AnnotationIndex.Path

variable {p q : Path}

@[simp] theorem text_ofText (s : String) : (ofText s).text = s := Text.lossyText_utf8Bytes s

theorem ofText_text (h : p.isText = true) : ofText p.text = p := of_decide_eq_true h

@[simp] theorem isText_ofText (s : String) : (ofText s).isText = true := by
  rw [isText, text_ofText, decide_eq_true rfl]

theorem eq_of_text (hp : p.isText = true) (hq : q.isText = true) (h : p.text = q.text) : p = q := by
  rw [← ofText_text hp, ← ofText_text hq, h]

end AnnotationIndex.Path
