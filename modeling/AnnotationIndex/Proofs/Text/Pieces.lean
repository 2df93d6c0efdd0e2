import Mathlib.Data.List.Induction
import AnnotationIndex.Text.Blank

/-!
# Pieces and ends of texts

A text is cut into pieces at the characters of a class. Its lines are such pieces, and they do not
depend on whether a carriage return stands before each line feed. What is dropped from the end of a
text depends on the class of its last characters alone.
-/

namespace AnnotationIndex.Text

variable {α : Type}

theorem splitWhere_ne_nil (f : α → Bool) (s : List α) : splitWhere f s ≠ [] := by
  cases s with
  | nil => simp [splitWhere]
  | cons c s =>
    rw [splitWhere]
    split
    · simp
    · split <;> simp

theorem splitWhere_append (f : α → Bool) (front : List α) {c : α} (hc : f c = true)
    (rest : List α) :
    splitWhere f (front ++ c :: rest) = splitWhere f front ++ splitWhere f rest := by
  induction front with
  | nil => simp [splitWhere, hc]
  | cons d front ih =>
    rw [List.cons_append, splitWhere, splitWhere, ih]
    split
    · rfl
    · cases hfront : splitWhere f front with
      | nil => exact absurd hfront (splitWhere_ne_nil f front)
      | cons w ws => rfl

theorem splitWhere_of_absent {f : α → Bool} {s : List α} (h : ∀ c ∈ s, f c = false) :
    splitWhere f s = [s] := by
  induction s with
  | nil => rfl
  | cons c s ih =>
    obtain ⟨hc, hs⟩ := List.forall_mem_cons.1 h
    rw [splitWhere, hc, ih hs]
    rfl

theorem mem_of_splitWhere {f : α → Bool} {s piece : List α}
    (h : piece ∈ splitWhere f s) : ∀ c ∈ piece, f c = false ∧ c ∈ s := by
  induction s generalizing piece with
  | nil =>
    rw [splitWhere, List.mem_singleton] at h
    simp [h]
  | cons d s ih =>
    have hlift : ∀ {piece}, piece ∈ splitWhere f s → ∀ c ∈ piece, f c = false ∧ c ∈ d :: s :=
      fun hpiece c hc => ⟨(ih hpiece c hc).1, List.mem_cons_of_mem d (ih hpiece c hc).2⟩
    rw [splitWhere] at h
    split at h
    · rcases List.mem_cons.1 h with rfl | h
      · simp
      · exact hlift h
    · rename_i hd
      cases hs : splitWhere f s with
      | nil => exact absurd hs (splitWhere_ne_nil f s)
      | cons w ws =>
        rw [hs] at h hlift
        rcases List.mem_cons.1 h with rfl | h
        · intro c hc
          rcases List.mem_cons.1 hc with rfl | hc
          · exact ⟨by simpa using hd, List.mem_cons_self⟩
          · exact hlift List.mem_cons_self c hc
        · exact hlift (List.mem_cons_of_mem w h)

theorem absent_of_splitWhere {f : α → Bool} {s piece : List α}
    (h : piece ∈ splitWhere f s) : ∀ c ∈ piece, f c = false :=
  fun c hc => (mem_of_splitWhere h c hc).1

theorem collapse_of_noBlank {s : List Char} (h : ∀ c ∈ s, isBlank c = false) :
    collapse s = s := by
  rw [collapse, words, splitWhere_of_absent h]
  cases s <;> simp [List.intercalate]

/-- The text with a carriage return before every line feed. -/
def withReturns : List Char → List Char
  | [] => []
  | c :: s => if c = '\n' then '\r' :: '\n' :: withReturns s else c :: withReturns s

theorem withReturns_append (s t : List Char) :
    withReturns (s ++ t) = withReturns s ++ withReturns t := by
  induction s with
  | nil => rfl
  | cons c s ih =>
    simp only [List.cons_append, withReturns, ih]
    split <;> rfl

theorem getLast?_withReturns (s : List Char) : (withReturns s).getLast? = s.getLast? := by
  induction s using List.reverseRecOn with
  | nil => rfl
  | append_singleton s c _ =>
    rw [withReturns_append]
    by_cases hc : c = '\n'
    · simp [hc, withReturns]
    · simp [hc, withReturns]

theorem splitWhere_withReturns (s : List Char) :
    splitWhere (· == '\n') (withReturns s) =
      (splitWhere (· == '\n') s).dropLast.map (· ++ ['\r']) ++
        [(splitWhere (· == '\n') s).getLastD []] := by
  induction s with
  | nil => rfl
  | cons c s ih =>
    obtain ⟨piece, more, hpieces⟩ := List.exists_cons_of_ne_nil (splitWhere_ne_nil (· == '\n') s)
    rw [hpieces] at ih
    by_cases hc : c = '\n'
    · subst hc
      simp [withReturns, splitWhere, ih, hpieces]
    · rw [withReturns, if_neg hc]
      cases more with
      | nil => simp [splitWhere, hc, ih, hpieces]
      | cons next more => simp [splitWhere, hc, ih, hpieces]

theorem dropReturn_append (line : List Char) : dropReturn (line ++ ['\r']) = line := by
  simp [dropReturn]

theorem dropReturn_of_not_mem {line : List Char} (h : '\r' ∉ line) : dropReturn line = line := by
  rw [dropReturn, if_neg]
  intro hlast
  exact h (List.mem_of_getLast? hlast)

/-- The lines of a text do not depend on how they end. -/
theorem lines_withReturns {s : List Char} (h : '\r' ∉ s) : lines (withReturns s) = lines s := by
  have hpieces : ∀ piece ∈ (splitWhere (· == '\n') s).dropLast, '\r' ∉ piece :=
    fun piece hpiece hmem => h (mem_of_splitWhere (List.dropLast_subset _ hpiece) _ hmem).2
  have hdrop : (splitWhere (· == '\n') s).dropLast.map (dropReturn ∘ (· ++ ['\r'])) =
      (splitWhere (· == '\n') s).dropLast.map dropReturn := by
    apply List.map_congr_left
    intro piece hpiece
    rw [Function.comp_apply, dropReturn_append, dropReturn_of_not_mem (hpieces piece hpiece)]
  simp only [lines, splitWhere_withReturns, List.dropLast_concat, List.map_map, hdrop]
  simp

theorem lines_newline (s : List Char) : lines ('\n' :: s) = [] :: lines s := by
  obtain ⟨piece, more, hpieces⟩ := List.exists_cons_of_ne_nil (splitWhere_ne_nil (· == '\n') s)
  simp [lines, splitWhere, hpieces, dropReturn]

theorem lines_ne_nil {s : List Char} (h : s ≠ []) : lines s ≠ [] := by
  obtain ⟨c, rest, rfl⟩ := List.exists_cons_of_ne_nil h
  obtain ⟨piece, more, hpieces⟩ :=
    List.exists_cons_of_ne_nil (splitWhere_ne_nil (· == '\n') rest)
  by_cases hc : c = '\n'
  · simp [lines, splitWhere, hc, hpieces]
  · cases more with
    | nil => simp [lines, splitWhere, hc, hpieces]
    | cons next more => simp [lines, splitWhere, hc, hpieces]

theorem dropEndWhile_append {p : Char → Bool} {c : Char} (h : p c = true) (s : List Char) :
    dropEndWhile p (s ++ [c]) = dropEndWhile p s := by
  simp [dropEndWhile, h]

theorem dropEndWhile_of_last {p : Char → Bool} {s : List Char}
    (h : ∀ c, s.getLast? = some c → p c = false) : dropEndWhile p s = s := by
  induction s using List.reverseRecOn with
  | nil => rfl
  | append_singleton s c _ => simp [dropEndWhile, h c]

end AnnotationIndex.Text
