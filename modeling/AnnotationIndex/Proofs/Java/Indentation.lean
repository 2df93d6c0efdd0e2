import Mathlib.Data.List.Forall2
import Mathlib.Data.List.GetD
import Mathlib.Data.List.TakeWhile
import AnnotationIndex.Proofs.Java.TextBlocks
import AnnotationIndex.Proofs.Text.Lines

/-!
# The indentation of text blocks

The lines of a text block lose the indentation that they share. It is counted in bytes, and a cut that
falls inside a blank character of several bytes leaves the block without a value. What is left of the
lines begins in the first column somewhere, so that there is nothing more to cut.
-/

namespace AnnotationIndex.Java

open Text

theorem trimEnd_isPrefix (s : List Char) : trimEnd s <+: s := by
  rw [trimEnd, dropEndWhile, ← List.reverse_suffix, List.reverse_reverse]
  exact List.dropWhile_suffix isBlank

theorem getLast?_trimEnd {s : List Char} {c : Char} (h : (trimEnd s).getLast? = some c) :
    isBlank c = false := by
  rw [trimEnd, dropEndWhile, List.getLast?_reverse] at h
  have hhead := List.head?_dropWhile_not isBlank s.reverse
  rwa [h] at hhead

theorem trimEnd_eq_nil_iff {s : List Char} : trimEnd s = [] ↔ s.all isBlank = true := by
  rw [trimEnd, dropEndWhile, List.reverse_eq_nil_iff, List.dropWhile_eq_nil_iff]
  simp

theorem all_trimEnd (s : List Char) : (trimEnd s).all isBlank = s.all isBlank := by
  cases hs : s.all isBlank with
  | true => rw [trimEnd_eq_nil_iff.2 hs, List.all_nil]
  | false =>
    have hne : trimEnd s ≠ [] := fun hnil =>
      Bool.false_ne_true (hs.symm.trans (trimEnd_eq_nil_iff.1 hnil))
    have hlast := getLast?_trimEnd (List.getLast?_eq_some_getLast hne)
    exact List.all_eq_false.2 ⟨_, List.getLast_mem hne, by simp [hlast]⟩

def Tidy (line : List Char) : Prop :=
  '\n' ∉ line ∧ ∀ c, line.getLast? = some c → isBlank c = false

theorem Tidy.dropReturn_eq {line : List Char} (h : Tidy line) : dropReturn line = line := by
  rw [dropReturn, if_neg]
  intro hlast
  exact absurd (h.2 _ hlast) (by decide)

theorem Tidy.trimEnd_eq {line : List Char} (h : Tidy line) : trimEnd line = line :=
  dropEndWhile_of_last h.2

/-- The line without its first bytes, of the given number, and without the blanks at its end. -/
def Outdented (n : Nat) (line out : List Char) : Prop :=
  ∃ front back, line = front ++ back ∧ byteLength front = n ∧ out = trimEnd back

variable {n : Nat} {line out : List Char}

theorem takeWhile_append_trimStart (line : List Char) :
    line.takeWhile isBlank ++ trimStart line = line := List.takeWhile_append_dropWhile

theorem stripLine?_zero (line : List Char) : stripLine? 0 line = some (trimEnd line) := by
  simp [stripLine?, dropBytes]

theorem stripLine?_of_indentOf_le (h : indentOf line ≤ n) :
    stripLine? n line = some (trimEnd (trimStart line)) := by
  have hdrop : dropBytes (indentOf line) line = some (trimStart line) :=
    dropBytes_eq_some_iff.2 ⟨_, (takeWhile_append_trimStart line).symm, rfl⟩
  rw [stripLine?, Nat.min_eq_right h, hdrop]
  rfl

theorem stripLine?_eq_none_iff :
    stripLine? n line = none ↔ n ≤ indentOf line ∧ Straddles n (line.takeWhile isBlank) := by
  rcases Nat.lt_or_ge (indentOf line) n with hn | hn
  · rw [stripLine?_of_indentOf_le (Nat.le_of_lt hn)]
    exact iff_of_false nofun fun h => Nat.not_le.2 hn h.1
  · have hlength : n ≤ byteLength line := by
      rw [← takeWhile_append_trimStart line, byteLength_append]
      exact Nat.le_trans hn (Nat.le_add_right _ _)
    have hstraddles : Straddles n line ↔ Straddles n (line.takeWhile isBlank) := by
      conv_lhs => rw [← takeWhile_append_trimStart line]
      exact straddles_append hn _
    rw [stripLine?, Nat.min_eq_left hn, Option.map_eq_none_iff, dropBytes_eq_none_iff, hstraddles]
    constructor
    · rintro (h | h)
      · exact absurd hlength (Nat.not_le.2 h)
      · exact ⟨hn, h⟩
    · exact fun h => .inr h.2

theorem outdented_of_stripLine? (hn : n ≤ indentOf line) (h : stripLine? n line = some out) :
    Outdented n line out := by
  rw [stripLine?, Nat.min_eq_left hn] at h
  obtain ⟨back, hback, rfl⟩ := Option.map_eq_some_iff.1 h
  obtain ⟨front, hline, hfront⟩ := dropBytes_eq_some_iff.1 hback
  exact ⟨front, back, hline, hfront, rfl⟩

theorem exists_of_stripLine? (h : stripLine? n line = some out) :
    ∃ front back, line = front ++ back ∧ front.all isBlank = true ∧ out = trimEnd back := by
  obtain ⟨back, hback, rfl⟩ := Option.map_eq_some_iff.1 h
  obtain ⟨front, hline, hfront⟩ := dropBytes_eq_some_iff.1 hback
  have hblanks : front <+: line.takeWhile isBlank := by
    apply prefix_of_byteLength_le (hline.symm.trans (takeWhile_append_trimStart line).symm)
    exact hfront ▸ Nat.min_le_right _ _
  refine ⟨front, back, hline, ?_, rfl⟩
  exact List.all_eq_true.2 fun c hc => List.mem_takeWhile_imp (hblanks.subset hc)

theorem all_of_stripLine? (h : stripLine? n line = some out) :
    out.all isBlank = line.all isBlank := by
  obtain ⟨front, back, rfl, hfront, rfl⟩ := exists_of_stripLine? h
  rw [all_trimEnd, List.all_append, hfront, Bool.true_and]

theorem tidy_of_stripLine? (hline : '\n' ∉ line) (h : stripLine? n line = some out) : Tidy out := by
  obtain ⟨front, back, rfl, -, rfl⟩ := exists_of_stripLine? h
  refine ⟨fun hmem => hline ?_, fun c => getLast?_trimEnd⟩
  exact List.mem_append_right front ((trimEnd_isPrefix back).subset hmem)

theorem eq_nil_of_stripLine? (hblank : line.all isBlank = true) (h : stripLine? n line = some out) :
    out = [] := by
  obtain ⟨front, back, rfl, -, rfl⟩ := exists_of_stripLine? h
  rw [List.all_append, Bool.and_eq_true] at hblank
  exact trimEnd_eq_nil_iff.2 hblank.2

variable {ls : List (List Char)}

theorem commonIndent_le (hline : line ∈ ls) (hfull : line.all isBlank = false) :
    commonIndent ls ≤ indentOf line := by
  have hmem : indentOf line ∈ (ls.filter (!·.all isBlank)).map indentOf :=
    List.mem_map_of_mem (List.mem_filter.2 ⟨hline, by simp [hfull]⟩)
  rw [commonIndent]
  cases hmin : ((ls.filter (!·.all isBlank)).map indentOf).min? with
  | none => exact Nat.zero_le _
  | some least => exact (List.min?_eq_some_iff.1 hmin).2 _ hmem

theorem exists_indentOf_eq (h : ∃ line ∈ ls, line.all isBlank = false) :
    ∃ line ∈ ls, line.all isBlank = false ∧ indentOf line = commonIndent ls := by
  obtain ⟨line, hline, hfull⟩ := h
  rw [commonIndent]
  cases hmin : ((ls.filter (!·.all isBlank)).map indentOf).min? with
  | none =>
    have hnone := List.map_eq_nil_iff.1 (List.min?_eq_none_iff.1 hmin)
    exact absurd (List.filter_eq_nil_iff.1 hnone line hline) (by simp [hfull])
  | some least =>
    obtain ⟨line, hline, rfl⟩ := List.mem_map.1 (List.min?_mem hmin)
    obtain ⟨hline, hfull⟩ := List.mem_filter.1 hline
    exact ⟨line, hline, by simpa using hfull, rfl⟩

theorem commonIndent_of_blank (h : ∀ line ∈ ls, line.all isBlank = true) : commonIndent ls = 0 := by
  rw [commonIndent, List.filter_eq_nil_iff.2 fun line hline => by simp [h line hline]]
  rfl

theorem mapM_eq_some_iff {α β : Type} {f : α → Option β} {xs : List α} {ys : List β} :
    xs.mapM f = some ys ↔ List.Forall₂ (fun x y => f x = some y) xs ys := by
  induction xs generalizing ys with
  | nil => simp [eq_comm]
  | cons x xs ih =>
    rw [List.mapM_cons, List.forall₂_cons_left_iff]
    constructor
    · intro h
      obtain ⟨y, hy, h⟩ := Option.bind_eq_some_iff.1 h
      obtain ⟨more, hmore, h⟩ := Option.bind_eq_some_iff.1 h
      exact ⟨y, more, hy, ih.1 hmore, (Option.some.inj h).symm⟩
    · rintro ⟨y, more, hy, hmore, rfl⟩
      simp [hy, ih.2 hmore]

theorem mapM_eq_none_iff {α β : Type} {f : α → Option β} {xs : List α} :
    xs.mapM f = none ↔ ∃ x ∈ xs, f x = none := by
  induction xs with
  | nil => simp
  | cons x xs ih =>
    simp only [List.mapM_cons, List.exists_mem_cons_iff, ← ih]
    cases f x with
    | none => simp
    | some y => cases xs.mapM f <;> simp

theorem exists_of_mem_forall₂ {α β : Type} {R : α → β → Prop} {xs : List α} {ys : List β}
    (h : List.Forall₂ R xs ys) {y : β} (hy : y ∈ ys) : ∃ x ∈ xs, R x y := by
  induction h with
  | nil => exact absurd hy List.not_mem_nil
  | @cons x first xs ys hfirst _ ih =>
    rcases List.mem_cons.1 hy with rfl | hy
    · exact ⟨x, List.mem_cons_self, hfirst⟩
    · obtain ⟨x', hx', hR⟩ := ih hy
      exact ⟨x', List.mem_cons_of_mem x hx', hR⟩

theorem getElem?_of_forall₂ {α β : Type} {R : α → β → Prop} {xs : List α} {ys : List β}
    (h : List.Forall₂ R xs ys) {i : Nat} {x : α} (hx : xs[i]? = some x) :
    ∃ y, ys[i]? = some y ∧ R x y := by
  induction h generalizing i with
  | nil => simp at hx
  | cons hfirst _ ih =>
    cases i with
    | zero => exact ⟨_, rfl, Option.some.inj hx ▸ hfirst⟩
    | succ i => exact ih hx

/-- What is left of the lines of a text block are the lines of what is left of the block, but for an
empty last one. -/
theorem exists_lines_of_stripIndent? {body result : List Char} (h : stripIndent? body = some result) :
    ∃ outs, List.Forall₂ (fun line out => stripLine? (commonIndent (lines body)) line = some out)
        (lines body) outs ∧
      (outs = lines result ∨ outs = lines result ++ [[]]) ∧
      ∀ piece ∈ splitWhere (· == '\n') result, Tidy piece := by
  obtain ⟨outs, houts, rfl⟩ := Option.map_eq_some_iff.1 h
  have hall := mapM_eq_some_iff.1 houts
  refine ⟨outs, hall, ?_⟩
  have htidy : ∀ out ∈ outs, Tidy out := by
    intro out hout
    obtain ⟨line, hline, hstrip⟩ := exists_of_mem_forall₂ hall hout
    exact tidy_of_stripLine? (newline_notMem_of_mem_lines hline) hstrip
  by_cases hbody : body = []
  · subst hbody
    obtain rfl := List.forall₂_nil_left_iff.1 hall
    exact ⟨.inl rfl, by simp [splitWhere, Tidy]⟩
  · have hne : outs ≠ [] := fun hnil =>
      lines_ne_nil hbody (List.forall₂_nil_right_iff.1 (hnil ▸ hall))
    obtain ⟨hlines, hpieces⟩ := lines_intercalate hne (fun out hout => (htidy out hout).1)
      (fun out hout => (htidy out hout).dropReturn_eq) (body.getLast? = some '\n') (by simp; rfl)
    refine ⟨hlines, fun piece hpiece => ?_⟩
    rcases hpieces piece hpiece with hmem | rfl
    · exact htidy piece hmem
    · exact ⟨List.not_mem_nil, by simp⟩

theorem stripIndent?_of_tidy {s : List Char} (htidy : ∀ piece ∈ splitWhere (· == '\n') s, Tidy piece)
    (hindent : commonIndent (lines s) = 0) : stripIndent? s = some s := by
  have hreturn : ∀ piece ∈ splitWhere (· == '\n') s, dropReturn piece = piece :=
    fun piece hpiece => (htidy piece hpiece).dropReturn_eq
  have hlines : ∀ line ∈ lines s, stripLine? 0 line = some line := by
    intro line hline
    have hmem : line ∈ splitWhere (· == '\n') s := by
      rw [splitWhere_eq_lines hreturn]
      exact List.mem_append_left _ hline
    rw [stripLine?_zero, (htidy line hmem).trimEnd_eq]
  have hall : (lines s).mapM (stripLine? 0) = some (lines s) :=
    mapM_eq_some_iff.2 (List.forall₂_same.2 hlines)
  simp only [stripIndent?, hindent, hall, Option.map_some, intercalate_lines hreturn]

theorem outdented_filter {outs : List (List Char)}
    (h : List.Forall₂ (fun line out => stripLine? n line = some out) ls outs)
    (hn : ∀ line ∈ ls, line.all isBlank = false → n ≤ indentOf line) :
    List.Forall₂ (Outdented n) (ls.filter (!·.all isBlank)) (outs.filter (!·.all isBlank)) := by
  induction h with
  | nil => exact .nil
  | @cons line out ls outs hout _ ih =>
    have ih := ih fun line hline => hn line (List.mem_cons_of_mem _ hline)
    have hall := all_of_stripLine? hout
    cases hfull : line.all isBlank with
    | true => simpa [hall, hfull] using ih
    | false =>
      have hfirst := outdented_of_stripLine? (hn line List.mem_cons_self hfull) hout
      rw [List.filter_cons_of_pos (by simp [hfull]), List.filter_cons_of_pos (by simp [hall, hfull])]
      exact .cons hfirst ih

theorem start_of_indentOf_eq (hfull : line.all isBlank = false)
    (h : stripLine? (indentOf line) line = some out) :
    ∃ c rest, out = c :: rest ∧ isBlank c = false := by
  rw [stripLine?_of_indentOf_le (Nat.le_refl _)] at h
  obtain ⟨c, rest, hstart⟩ : ∃ c rest, trimStart line = c :: rest := by
    apply List.exists_cons_of_ne_nil
    intro hnil
    exact absurd (List.all_eq_true.2 (List.dropWhile_eq_nil_iff.1 hnil)) (by simp [hfull])
  have hc : isBlank c = false := by
    have hhead := List.head?_dropWhile_not isBlank line
    rwa [show line.dropWhile isBlank = c :: rest from hstart] at hhead
  rw [hstart] at h
  cases out with
  | nil =>
    have hall := trimEnd_eq_nil_iff.1 (Option.some.inj h)
    simp [hc] at hall
  | cons d more =>
    have hfront := trimEnd_isPrefix (c :: rest)
    rw [Option.some.inj h] at hfront
    obtain ⟨rfl, -⟩ := List.cons_prefix_cons.1 hfront
    exact ⟨d, more, rfl, hc⟩

theorem commonIndent_of_start {c : Char} {rest : List Char} (h : c :: rest ∈ ls)
    (hc : isBlank c = false) : commonIndent ls = 0 := by
  have hle := commonIndent_le h (by simp [hc])
  have hzero : indentOf (c :: rest) = 0 := by simp [indentOf, hc, byteLength_nil]
  omega

def fullLines (s : List Char) : List (List Char) := (lines s).filter (!·.all isBlank)

/-- What a text block is without an indentation of `n` bytes, where its lines share no more. -/
structure Freed (n : Nat) (body result : List Char) : Prop where
  full : List.Forall₂ (Outdented n) (fullLines body) (fullLines result)
  blank : ∀ i line, (lines body)[i]? = some line → line.all isBlank = true →
    (lines result).getD i [] = []
  start : fullLines body ≠ [] → ∃ c rest, c :: rest ∈ lines result ∧ isBlank c = false
  fixed : stripIndent? result = some result

/-- A text block has no value exactly if the cut falls inside a blank of several bytes. Otherwise its
lines lose their common indentation and the blanks at their ends, and no indentation is left. -/
theorem stripIndent?_outcome (body : List Char) :
    (stripIndent? body = none ↔ ∃ line ∈ lines body, commonIndent (lines body) ≤ indentOf line ∧
      Straddles (commonIndent (lines body)) (line.takeWhile isBlank)) ∧
    ∀ result, stripIndent? body = some result →
      Freed (commonIndent (lines body)) body result := by
  refine ⟨?_, fun result hresult => ?_⟩
  · rw [stripIndent?, Option.map_eq_none_iff, mapM_eq_none_iff]
    simp only [stripLine?_eq_none_iff]
  · obtain ⟨outs, hall, houts, htidy⟩ := exists_lines_of_stripIndent? hresult
    have hfilter : outs.filter (!·.all isBlank) = fullLines result := by
      rcases houts with rfl | rfl <;> simp [fullLines]
    have hfull : List.Forall₂ (Outdented _) (fullLines body) (fullLines result) :=
      hfilter ▸ outdented_filter hall fun line => commonIndent_le
    have hstart : fullLines body ≠ [] →
        ∃ c rest, c :: rest ∈ lines result ∧ isBlank c = false := by
      intro hne
      obtain ⟨line, hline⟩ := List.exists_mem_of_ne_nil _ hne
      obtain ⟨hline, hfull⟩ := List.mem_filter.1 hline
      obtain ⟨line, hline, hfull, hindent⟩ := exists_indentOf_eq ⟨line, hline, by simpa using hfull⟩
      obtain ⟨out, hout, hstrip⟩ := exists_of_mem_forall₂ hall.flip hline
      obtain ⟨c, rest, rfl, hc⟩ := start_of_indentOf_eq hfull (hindent ▸ hstrip)
      refine ⟨c, rest, ?_, hc⟩
      rcases houts with rfl | rfl
      · exact hout
      · simpa using hout
    refine ⟨hfull, ?_, hstart, stripIndent?_of_tidy htidy ?_⟩
    · intro i line hline hblank
      obtain ⟨out, hout, hstrip⟩ := getElem?_of_forall₂ hall hline
      obtain rfl := eq_nil_of_stripLine? hblank hstrip
      have hget : outs.getD i [] = [] := by rw [List.getD_eq_getElem?_getD, hout, Option.getD_some]
      rcases houts with rfl | rfl
      · exact hget
      · rcases Nat.lt_or_ge i (lines result).length with hi | hi
        · rwa [List.getD_append _ _ _ _ hi] at hget
        · rw [List.getD_eq_default _ _ hi]
    · by_cases hne : fullLines body = []
      · rw [hne, List.forall₂_nil_left_iff] at hfull
        refine commonIndent_of_blank fun line hline => ?_
        simpa using List.filter_eq_nil_iff.1 hfull line hline
      · obtain ⟨c, rest, hmem, hc⟩ := hstart hne
        exact commonIndent_of_start hmem hc

/-- Lines that end in different ways, the last one blank; and a blank of three bytes that is cut. -/
theorem stripIndent?_outcome_mixed :
    stripIndent? "  a \r\n\r\n    b\n   ".toList = some "a\n\n  b\n".toList ∧
      Freed 2 "  a \r\n\r\n    b\n   ".toList "a\n\n  b\n".toList ∧
      stripIndent? " a\n\u3000b".toList = none ∧
      ∃ line ∈ lines " a\n\u3000b".toList, commonIndent (lines " a\n\u3000b".toList) ≤ indentOf line ∧
        Straddles (commonIndent (lines " a\n\u3000b".toList)) (line.takeWhile isBlank) := by
  have hcut : stripIndent? "  a \r\n\r\n    b\n   ".toList = some "a\n\n  b\n".toList := by
    decide +kernel
  have hnone : stripIndent? " a\n\u3000b".toList = none := by decide +kernel
  have hindent : commonIndent (lines "  a \r\n\r\n    b\n   ".toList) = 2 := by decide +kernel
  exact ⟨hcut, hindent ▸ (stripIndent?_outcome _).2 _ hcut, hnone,
    (stripIndent?_outcome _).1.1 hnone⟩

end AnnotationIndex.Java
