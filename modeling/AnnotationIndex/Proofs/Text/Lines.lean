import AnnotationIndex.Proofs.Text.Pieces

/-!
# Lines and bytes

A text is made of its lines again when they are joined, unless a line ended in a carriage return. A cut
after some bytes of a text is possible unless it falls inside a character.
-/

namespace AnnotationIndex.Text

theorem splitWhere_eq_splitOnP (p : Char → Bool) (s : List Char) : splitWhere p s = s.splitOnP p := by
  induction s with
  | nil => rfl
  | cons c s ih =>
    rw [splitWhere, List.splitOnP_cons_eq_if_modifyHead, ih]
    obtain ⟨piece, more, hpieces⟩ := List.exists_cons_of_ne_nil (List.splitOnP_ne_nil p s)
    rw [hpieces]
    rfl

theorem intercalate_splitWhere (c : Char) (s : List Char) :
    [c].intercalate (splitWhere (· == c) s) = s := by
  rw [splitWhere_eq_splitOnP]
  exact List.intercalate_splitOn c

theorem intercalate_concat_nil (c : Char) {pieces : List (List Char)} (hne : pieces ≠ []) :
    [c].intercalate (pieces ++ [[]]) = [c].intercalate pieces ++ [c] := by
  induction pieces with
  | nil => exact absurd rfl hne
  | cons piece more ih =>
    cases more with
    | nil => simp [List.intercalate]
    | cons next more =>
      rw [List.cons_append, List.cons_append, List.intercalate_cons_cons,
        List.intercalate_cons_cons, ← List.cons_append, ih (List.cons_ne_nil _ _),
        ← List.append_assoc]

theorem splitWhere_intercalate {c : Char} {pieces : List (List Char)} (hne : pieces ≠ [])
    (h : ∀ piece ∈ pieces, c ∉ piece) : splitWhere (· == c) ([c].intercalate pieces) = pieces := by
  rw [splitWhere_eq_splitOnP]
  exact List.splitOn_intercalate c h hne

theorem splitWhere_concat {p : Char → Bool} {c : Char} (hc : p c = false) (s : List Char) :
    ∃ front last, splitWhere p s = front ++ [last] ∧
      splitWhere p (s ++ [c]) = front ++ [last ++ [c]] := by
  induction s with
  | nil => exact ⟨[], [], rfl, by simp [splitWhere, hc]⟩
  | cons d s ih =>
    obtain ⟨front, last, hs, hsc⟩ := ih
    cases hd : p d with
    | true => exact ⟨[] :: front, last, by simp [splitWhere, hd, hs], by simp [splitWhere, hd, hsc]⟩
    | false =>
      cases front with
      | nil => exact ⟨[], d :: last, by simp [splitWhere, hd, hs], by simp [splitWhere, hd, hsc]⟩
      | cons first front =>
        exact ⟨(d :: first) :: front, last, by simp [splitWhere, hd, hs],
          by simp [splitWhere, hd, hsc]⟩

/-- Where no line ends in a carriage return, the lines are the pieces between line feeds, but for an
empty last one. -/
theorem splitWhere_eq_lines {s : List Char}
    (h : ∀ piece ∈ splitWhere (· == '\n') s, dropReturn piece = piece) :
    splitWhere (· == '\n') s =
      lines s ++ if s = [] ∨ s.getLast? = some '\n' then [[]] else [] := by
  have hsame : ∀ {pieces : List (List Char)}, pieces ⊆ splitWhere (· == '\n') s →
      pieces.map dropReturn = pieces := fun hsub =>
    (List.map_congr_left fun piece hpiece => h piece (hsub hpiece)).trans (List.map_id _)
  rcases List.eq_nil_or_concat s with rfl | ⟨t, c, hs⟩
  · rfl
  · rw [List.concat_eq_append] at hs
    subst hs
    by_cases hc : c = '\n'
    · subst hc
      have hpieces := splitWhere_append (· == '\n') t (c := '\n') rfl []
      have hfront : (splitWhere (· == '\n') t).map dropReturn = splitWhere (· == '\n') t :=
        hsame (by rw [hpieces]; exact List.subset_append_left _ _)
      simp [lines, hpieces, splitWhere, hfront]
    · obtain ⟨front, last, -, hpieces⟩ := splitWhere_concat (p := (· == '\n')) (beq_false_of_ne hc) t
      have hfront : front.map dropReturn = front :=
        hsame (by rw [hpieces]; exact List.subset_append_left _ _)
      simp [lines, hpieces, hfront, hc]

/-- Pieces that do not end in a carriage return are the lines of the text that they make up, with or
without a line feed at its end. Only an empty last one is no line. -/
theorem lines_intercalate {pieces : List (List Char)} (hne : pieces ≠ [])
    (hnewline : ∀ piece ∈ pieces, '\n' ∉ piece) (hreturn : ∀ piece ∈ pieces, dropReturn piece = piece)
    (closed : Bool) {s : List Char}
    (hs : s = ['\n'].intercalate pieces ++ if closed then ['\n'] else []) :
    (pieces = lines s ∨ pieces = lines s ++ [[]]) ∧
      ∀ piece ∈ splitWhere (· == '\n') s, piece ∈ pieces ∨ piece = [] := by
  have hall : ∀ piece ∈ pieces ++ [[]], '\n' ∉ piece ∧ dropReturn piece = piece := by
    simp only [List.mem_append, List.mem_singleton]
    rintro piece (h | rfl)
    · exact ⟨hnewline piece h, hreturn piece h⟩
    · exact ⟨List.not_mem_nil, rfl⟩
  cases closed with
  | true =>
    rw [if_pos rfl, ← intercalate_concat_nil '\n' hne] at hs
    have hsplit : splitWhere (· == '\n') s = pieces ++ [[]] := by
      rw [hs]
      exact splitWhere_intercalate (by simp) fun piece h => (hall piece h).1
    have hlast : s.getLast? = some '\n' := by
      rw [hs, intercalate_concat_nil '\n' hne, List.getLast?_concat]
    have hlines := splitWhere_eq_lines (s := s) fun piece h => (hall piece (hsplit ▸ h)).2
    rw [if_pos (.inr hlast), hsplit] at hlines
    refine ⟨.inl (List.append_cancel_right hlines), ?_⟩
    rw [hsplit]
    simp
  | false =>
    rw [if_neg Bool.false_ne_true, List.append_nil] at hs
    have hsplit : splitWhere (· == '\n') s = pieces := by
      rw [hs]
      exact splitWhere_intercalate hne hnewline
    have hlines := splitWhere_eq_lines (s := s) fun piece h => hreturn piece (hsplit ▸ h)
    refine ⟨?_, fun piece h => .inl (hsplit ▸ h)⟩
    rw [hsplit] at hlines
    split at hlines
    · exact .inr hlines
    · exact .inl (hlines.trans (List.append_nil _))

theorem intercalate_lines {s : List Char}
    (h : ∀ piece ∈ splitWhere (· == '\n') s, dropReturn piece = piece) :
    ['\n'].intercalate (lines s) ++ (if s.getLast? = some '\n' then ['\n'] else []) = s := by
  have hpieces := splitWhere_eq_lines h
  have hjoined := intercalate_splitWhere '\n' s
  by_cases hs : s = []
  · subst hs
    rfl
  · by_cases hlast : s.getLast? = some '\n'
    · rw [if_pos (.inr hlast)] at hpieces
      rw [hpieces, intercalate_concat_nil '\n' (lines_ne_nil hs)] at hjoined
      rw [if_pos hlast, hjoined]
    · rw [if_neg (not_or.2 ⟨hs, hlast⟩), List.append_nil] at hpieces
      rw [hpieces] at hjoined
      rw [if_neg hlast, List.append_nil, hjoined]

theorem mem_of_mem_lines {s line : List Char} (h : line ∈ lines s) :
    ∃ piece ∈ splitWhere (· == '\n') s, line <+: piece := by
  have hne := splitWhere_ne_nil (· == '\n') s
  rcases List.mem_append.1 h with h | h
  · obtain ⟨piece, hpiece, rfl⟩ := List.mem_map.1 h
    refine ⟨piece, List.dropLast_subset _ hpiece, ?_⟩
    rw [dropReturn]
    split
    · exact List.dropLast_prefix piece
    · exact List.prefix_refl piece
  · have hlast : line = (splitWhere (· == '\n') s).getLastD [] := by
      split at h
      · exact absurd h List.not_mem_nil
      · exact List.mem_singleton.1 h
    refine ⟨line, ?_, List.prefix_refl line⟩
    rw [hlast, List.getLastD_eq_getLast?, List.getLast?_eq_some_getLast hne]
    exact List.getLast_mem hne

theorem newline_notMem_of_mem_lines {s line : List Char} (h : line ∈ lines s) : '\n' ∉ line := by
  obtain ⟨piece, hpiece, hfront⟩ := mem_of_mem_lines h
  intro hmem
  have := absent_of_splitWhere hpiece _ (hfront.subset hmem)
  exact absurd this (by decide)

theorem byteLength_nil : byteLength [] = 0 := rfl

theorem byteLength_cons (c : Char) (s : List Char) :
    byteLength (c :: s) = c.utf8Size + byteLength s := by
  have hstart : ∀ (s : List Char) (n : Nat),
      s.foldl (fun n c => n + c.utf8Size) n = n + byteLength s := by
    intro s
    induction s with
    | nil => exact fun n => rfl
    | cons d s ih =>
      intro n
      rw [byteLength, List.foldl_cons, List.foldl_cons, ih, ih]
      omega
  rw [byteLength, List.foldl_cons, hstart, Nat.zero_add]

theorem byteLength_append (s t : List Char) :
    byteLength (s ++ t) = byteLength s + byteLength t := by
  induction s with
  | nil => rw [List.nil_append, byteLength_nil, Nat.zero_add]
  | cons c s ih => rw [List.cons_append, byteLength_cons, byteLength_cons, ih, Nat.add_assoc]

theorem eq_nil_of_byteLength_le {s : List Char} (h : byteLength s ≤ 0) : s = [] := by
  cases s with
  | nil => rfl
  | cons c s =>
    rw [byteLength_cons] at h
    have := c.utf8Size_pos
    omega

theorem prefix_of_byteLength_le {front back s t : List Char} (h : front ++ back = s ++ t)
    (hle : byteLength front ≤ byteLength s) : front <+: s := by
  rcases List.append_eq_append_iff.1 h with ⟨more, rfl, -⟩ | ⟨more, rfl, -⟩
  · exact List.prefix_append front more
  · rw [byteLength_append] at hle
    have hmore : more = [] := eq_nil_of_byteLength_le (by omega)
    exact ⟨[], by rw [hmore, List.append_nil, List.append_nil]⟩

theorem dropBytes_eq_some_iff {n : Nat} {s rest : List Char} :
    dropBytes n s = some rest ↔ ∃ front, s = front ++ rest ∧ byteLength front = n := by
  fun_induction dropBytes n s with
  | case1 s =>
    constructor
    · rintro ⟨⟩
      exact ⟨[], rfl, rfl⟩
    · rintro ⟨front, rfl, hfront⟩
      rw [eq_nil_of_byteLength_le (Nat.le_of_eq hfront)]
      rfl
  | case2 n hn =>
    refine iff_of_false nofun ?_
    rintro ⟨front, hfront, rfl⟩
    obtain ⟨rfl, -⟩ := List.append_eq_nil_iff.1 hfront.symm
    exact hn rfl
  | case3 n c s hn hc ih =>
    rw [ih]
    constructor
    · rintro ⟨front, rfl, hfront⟩
      have hlength : byteLength (c :: front) = n := by
        rw [byteLength_cons, hfront, Nat.add_sub_cancel' hc]
      exact ⟨c :: front, rfl, hlength⟩
    · rintro ⟨front, hfront, rfl⟩
      cases front with
      | nil => exact absurd rfl hn
      | cons d front =>
        obtain ⟨rfl, rfl⟩ := List.cons.inj hfront
        have hlength : byteLength front = byteLength (c :: front) - c.utf8Size := by
          rw [byteLength_cons, Nat.add_sub_cancel_left]
        exact ⟨front, rfl, hlength⟩
  | case4 n c s hn hc =>
    refine iff_of_false nofun ?_
    rintro ⟨front, hfront, rfl⟩
    cases front with
    | nil => exact hn rfl
    | cons d front =>
      obtain ⟨rfl, rfl⟩ := List.cons.inj hfront
      rw [byteLength_cons] at hc
      omega

/-- The cut after `n` bytes falls inside a character of the text. -/
def Straddles (n : Nat) (s : List Char) : Prop :=
  ∃ front c back, s = front ++ c :: back ∧ byteLength front < n ∧ n < byteLength front + c.utf8Size

theorem dropBytes_eq_none_iff {n : Nat} {s : List Char} :
    dropBytes n s = none ↔ byteLength s < n ∨ Straddles n s := by
  fun_induction dropBytes n s with
  | case1 s =>
    refine iff_of_false nofun ?_
    rintro (h | ⟨_, _, _, _, h, _⟩) <;> exact Nat.not_lt_zero _ h
  | case2 n hn => exact iff_of_true rfl (.inl (Nat.pos_of_ne_zero fun h => hn h))
  | case3 n c s hn hc ih =>
    rw [ih, byteLength_cons]
    refine or_congr ⟨by omega, by omega⟩ ⟨?_, ?_⟩
    · rintro ⟨front, d, back, rfl, hlow, hhigh⟩
      refine ⟨c :: front, d, back, rfl, ?_, ?_⟩ <;> (rw [byteLength_cons]; omega)
    · rintro ⟨front, d, back, hs, hlow, hhigh⟩
      cases front with
      | nil =>
        obtain ⟨rfl, rfl⟩ := List.cons.inj hs
        rw [byteLength_nil] at hhigh
        omega
      | cons e front =>
        obtain ⟨rfl, rfl⟩ := List.cons.inj hs
        rw [byteLength_cons] at hlow hhigh
        exact ⟨front, d, back, rfl, by omega, by omega⟩
  | case4 n c s hn hc =>
    refine iff_of_true rfl (.inr ⟨[], c, s, rfl, ?_, ?_⟩)
    · exact Nat.pos_of_ne_zero fun h => hn h
    · rw [byteLength_nil]
      omega

theorem straddles_append {n : Nat} {s : List Char} (h : n ≤ byteLength s) (t : List Char) :
    Straddles n (s ++ t) ↔ Straddles n s := by
  constructor
  · rintro ⟨front, c, back, hst, hlow, hhigh⟩
    have hsplit : s ++ t = (front ++ [c]) ++ back := by rw [hst, List.append_assoc]; rfl
    rcases List.append_eq_append_iff.1 hsplit with ⟨more, hfront, -⟩ | ⟨more, rfl, -⟩
    · -- The character reaches to the end of `s` or lies behind it.
      rcases List.eq_nil_or_concat more with rfl | ⟨more, d, hmore⟩
      · exact ⟨front, c, [], by simpa using hfront.symm, hlow, hhigh⟩
      · rw [hmore, List.concat_eq_append, ← List.append_assoc] at hfront
        obtain ⟨rfl, -⟩ := List.append_inj' hfront rfl
        rw [byteLength_append] at hlow
        omega
    · exact ⟨front, c, more, by simp, hlow, hhigh⟩
  · rintro ⟨front, c, back, rfl, hlow, hhigh⟩
    exact ⟨front, c, back ++ t, by simp, hlow, hhigh⟩

end AnnotationIndex.Text
