import Mathlib.Data.List.Induction

/-!
# Last members

The last member of a list that meets a condition.
-/

namespace AnnotationIndex

variable {α β : Type}

theorem findRev?_concat (p : α → Bool) (l : List α) (a : α) :
    (l ++ [a]).findRev? p = if p a then some a else l.findRev? p := by
  rw [List.findRev?_eq_find?_reverse, List.findRev?_eq_find?_reverse, List.reverse_append,
    List.reverse_singleton, List.singleton_append, List.find?_cons]
  cases p a <;> rfl

theorem findRev?_map (p : β → Bool) (f : α → β) (l : List α) :
    (l.map f).findRev? p = (l.findRev? fun a => p (f a)).map f := by
  rw [List.findRev?_eq_find?_reverse, List.findRev?_eq_find?_reverse, ← List.map_reverse,
    List.find?_map]
  rfl

theorem of_findRev?_eq_some {p : α → Bool} {l : List α} {a : α} (h : l.findRev? p = some a) :
    a ∈ l ∧ p a = true := by
  rw [List.findRev?_eq_find?_reverse] at h
  exact ⟨List.mem_reverse.1 (List.mem_of_find?_eq_some h), List.find?_some h⟩

theorem findRev?_eq_none_iff {p : α → Bool} {l : List α} :
    l.findRev? p = none ↔ ∀ a ∈ l, p a = false := by
  rw [List.findRev?_eq_find?_reverse, List.find?_eq_none]
  simp

theorem findRev?_and {p q : α → Bool} {l : List α}
    (h : ∀ a, l.findRev? p = some a → q a = true) :
    l.findRev? (fun a => p a && q a) = l.findRev? p := by
  induction l using List.reverseRecOn with
  | nil => rfl
  | append_singleton l a ih =>
    rw [findRev?_concat, findRev?_concat]
    cases hp : p a with
    | true =>
      have hq : q a = true := h a (by rw [findRev?_concat, if_pos hp])
      rw [hq]
      rfl
    | false =>
      refine ih fun b hb => h b ?_
      rw [findRev?_concat, hp]
      exact hb

end AnnotationIndex
