import AnnotationIndex.Proofs.Java.Tokens

/-!
# Comments and literals in headers

The scan for headers takes a text in turns: a comment, a literal, a word or a single character at a
time. What it takes before a comment or a literal does not depend on what stands in there, and neither
does what it takes after it. So a header does not change when a comment becomes a space or when the
content of a literal is replaced.
-/

namespace AnnotationIndex.Java

open Header

variable {f x y more : List Char}

private theorem length_le_of_append_eq {s : List Char} (h : s = more ++ x) :
    x.length ≤ s.length := by
  rw [h, List.length_append]
  exact Nat.le_add_left _ _

theorem dropWhile_exchange {p : Char → Bool} {c : Char} (hx : x.head? = some c) (hc : p c = true)
    (h : (f ++ x).dropWhile p = more ++ x) : (f ++ y).dropWhile p = more ++ y := by
  obtain ⟨x, rfl⟩ := List.head?_eq_some_iff.1 hx
  induction f with
  | nil =>
    have hlong := length_le_of_append_eq h
    have hshort := (List.dropWhile_sublist p (l := x)).length_le
    rw [List.nil_append, List.dropWhile_cons_of_pos hc, List.length_cons] at hlong
    omega
  | cons d f ih =>
    cases hd : p d with
    | true => simpa [hd] using ih (by simpa [hd] using h)
    | false =>
      rw [List.cons_append, List.dropWhile_cons_of_neg (by simp [hd]), ← List.cons_append] at h ⊢
      rw [List.append_cancel_right h]

theorem afterComment_spent (s : List Char) :
    afterComment s = [] ∨ (afterComment s).length + 2 ≤ s.length := by
  fun_induction afterComment s with
  | case1 rest => exact .inr (Nat.le_refl _)
  | case2 c rest _ ih => exact ih.imp_right fun h => Nat.le_succ_of_le h
  | case3 => exact .inl rfl

theorem afterBlock_spent (s : List Char) :
    afterBlock s = [] ∨ (afterBlock s).length + 3 ≤ s.length := by
  fun_induction afterBlock s with
  | case1 rest => exact .inr (Nat.le_refl _)
  | case2 c rest ih => exact ih.imp_right fun h => Nat.le_succ_of_le (Nat.le_succ_of_le h)
  | case3 c rest _ _ ih => exact ih.imp_right fun h => Nat.le_succ_of_le h
  | case4 => exact .inl rfl

theorem afterQuote_spent (quote : Char) (s : List Char) :
    afterQuote quote s = [] ∨ (afterQuote quote s).length + 1 ≤ s.length := by
  fun_induction afterQuote quote s with
  | case1 => exact .inl rfl
  | case2 c rest hc => exact .inr (Nat.le_refl _)
  | case3 c hc hslash d rest ih =>
    exact ih.imp_right fun h => Nat.le_succ_of_le (Nat.le_succ_of_le h)
  | case4 => exact .inl rfl
  | case5 c rest hc hslash ih => exact ih.imp_right fun h => Nat.le_succ_of_le h

private theorem false_of_spent {s t : List Char} {n : Nat} (hx : x ≠ []) (hf : f.length < n)
    (hspent : t = [] ∨ t.length + n ≤ s.length) (hs : s = f ++ x) (h : t = more ++ x) : False := by
  have hlong := length_le_of_append_eq h
  have hpos := List.length_pos_iff.2 hx
  rcases hspent with rfl | hspent
  · exact absurd hpos (Nat.not_lt.2 hlong)
  · rw [hs, List.length_append] at hspent
    omega

theorem afterComment_exchange (hx : x ≠ []) (h : afterComment (f ++ x) = more ++ x) :
    afterComment (f ++ y) = more ++ y := by
  induction f with
  | nil => exact (false_of_spent hx Nat.two_pos (afterComment_spent _) rfl h).elim
  | cons c f ih =>
    cases f with
    | nil => exact (false_of_spent hx Nat.one_lt_two (afterComment_spent _) rfl h).elim
    | cons d f =>
      by_cases hclose : c = '*' ∧ d = '/'
      · obtain ⟨rfl, rfl⟩ := hclose
        have hf : f ++ x = more ++ x := h
        rw [← List.append_cancel_right hf]
        rfl
      · have hskip : ∀ z, afterComment (c :: d :: f ++ z) = afterComment (d :: f ++ z) := by
          intro z
          apply afterComment.eq_2
          rintro t rfl heq
          exact hclose ⟨rfl, (List.cons.inj heq).1⟩
        rw [hskip] at h ⊢
        exact ih h

theorem afterBlock_exchange (hx : x ≠ []) (h : afterBlock (f ++ x) = more ++ x) :
    afterBlock (f ++ y) = more ++ y := by
  induction f using afterBlock.induct with
  | case1 f =>
    have hf : f ++ x = more ++ x := h
    rw [← List.append_cancel_right hf]
    rfl
  | case2 c f ih => exact ih h
  | case3 c f hblock hslash ih =>
    match f with
    | [] => exact (false_of_spent hx (by decide : 1 < 3) (afterBlock_spent _) rfl h).elim
    | [d] => exact (false_of_spent hx (by decide : 2 < 3) (afterBlock_spent _) rfl h).elim
    | d :: e :: f =>
      have hskip : ∀ z, afterBlock (c :: d :: e :: f ++ z) = afterBlock (d :: e :: f ++ z) := by
        intro z
        apply afterBlock.eq_3
        · rintro t rfl heq
          obtain ⟨hd, htail⟩ := List.cons.inj heq
          obtain ⟨he, -⟩ := List.cons.inj htail
          exact hblock f rfl (by rw [hd, he])
        · rintro d' t rfl -
          exact hslash d (e :: f) rfl rfl
      rw [hskip] at h ⊢
      exact ih h
  | case4 => exact (false_of_spent hx (by decide : 0 < 3) (afterBlock_spent _) rfl h).elim

theorem afterQuote_exchange {quote : Char} (hx : x ≠ [])
    (h : afterQuote quote (f ++ x) = more ++ x) : afterQuote quote (f ++ y) = more ++ y := by
  induction f using afterQuote.induct quote with
  | case1 => exact (false_of_spent hx Nat.one_pos (afterQuote_spent _ _) rfl h).elim
  | case2 c f hc =>
    have hstop : ∀ z, afterQuote quote (c :: f ++ z) = f ++ z := by
      intro z
      rw [List.cons_append, afterQuote.eq_def]
      simp only [if_pos hc]
    rw [hstop] at h ⊢
    rw [List.append_cancel_right h]
  | case3 c hc hslash d f ih =>
    have hskip : ∀ z, afterQuote quote (c :: d :: f ++ z) = afterQuote quote (f ++ z) := by
      intro z
      rw [List.cons_append, List.cons_append, afterQuote.eq_def]
      simp only [if_neg hc, if_pos hslash]
    rw [hskip] at h ⊢
    exact ih h
  | case4 c hc hslash =>
    obtain ⟨d, x, rfl⟩ := List.exists_cons_of_ne_nil hx
    have hskip : afterQuote quote ([c] ++ d :: x) = afterQuote quote x := by
      rw [List.singleton_append, afterQuote.eq_def]
      simp only [if_neg hc, if_pos hslash]
    have hlong := length_le_of_append_eq h
    have hshort := afterQuote_length quote x
    rw [hskip, List.length_cons] at hlong
    omega
  | case5 c f hc hslash ih =>
    have hskip : ∀ z, afterQuote quote (c :: f ++ z) = afterQuote quote (f ++ z) := by
      intro z
      rw [List.cons_append, afterQuote.eq_def]
      simp only [if_neg hc, if_neg hslash]
    rw [hskip] at h ⊢
    exact ih h

/-- The text `y` may stand in the place of `x`: a blank for a comment, or one literal for another that
has the same quotes. -/
inductive Replaces : List Char → List Char → Prop
  | comment {x : List Char} (h : StartsComment x) (rest : List Char) : Replaces (' ' :: rest) x
  | literal {quote : Char} (h : quote = '"' ∨ quote = '\'') (x y : List Char) :
      Replaces (quote :: y) (quote :: x)

theorem Replaces.heads (h : Replaces y x) : ∃ c s d t, x = c :: s ∧ y = d :: t ∧
    (isNamePart c = false ∧ c ≠ '*' ∧ c ≠ '\n') ∧ (isNamePart d = false ∧ d ≠ '/' ∧ d ≠ '*') ∧
      (d = '"' → c = '"') := by
  cases h with
  | comment h rest =>
    obtain ⟨s, rfl | rfl⟩ := h <;> exact ⟨_, _, _, _, rfl, rfl, by decide, by decide, by decide⟩
  | literal h x y =>
    rcases h with rfl | rfl <;> exact ⟨_, _, _, _, rfl, rfl, by decide, by decide, by decide⟩

theorem takeWhile_before {p : Char → Bool} {c : Char} (hc : p c = false) (f s : List Char) :
    (f ++ c :: s).takeWhile p = f.takeWhile p ∧
      (f ++ c :: s).dropWhile p = f.dropWhile p ++ c :: s := by
  induction f with
  | nil => simp [hc]
  | cons d f ih => cases hd : p d <;> simp [hd, ih]

section Exchange

variable {c : Char}

theorem Replaces.ne_nil (h : Replaces y x) : x ≠ [] := by
  obtain ⟨a, s, -, -, rfl, -⟩ := h.heads
  exact List.cons_ne_nil a s

private theorem exchange_comment (h : Replaces y x) (hcomment : StartsComment (c :: (f ++ x)))
    (hturn : (turn (c :: (f ++ x))).2 = more ++ x) :
    turn (c :: (f ++ y)) = ((turn (c :: (f ++ x))).1, more ++ y) := by
  obtain ⟨a, s, -, -, hx, -, ⟨-, hstar, hline⟩, -⟩ := h.heads
  obtain ⟨rest, heq | heq⟩ := hcomment
  · obtain ⟨rfl, hf⟩ := List.cons.inj heq
    cases f with
    | nil =>
      -- A line comment that begins right before `x` takes the start of `x` along.
      have hlong := length_le_of_append_eq hturn
      have hshort := (List.dropWhile_sublist (· != '\n') (l := rest)).length_le
      obtain rfl : x = '/' :: rest := hf
      have hlong' : rest.length + 1 ≤ (rest.dropWhile (· != '\n')).length := hlong
      omega
    | cons d f =>
      obtain ⟨rfl, -⟩ := List.cons.inj hf
      have hhead := congrArg List.head? hx
      exact Prod.ext rfl (dropWhile_exchange hhead (by simpa using hline) hturn)
  · obtain ⟨rfl, hf⟩ := List.cons.inj heq
    cases f with
    | nil => exact absurd (List.cons.inj (hx.symm.trans hf)).1 hstar
    | cons d f =>
      obtain ⟨rfl, -⟩ := List.cons.inj hf
      exact Prod.ext rfl (afterComment_exchange h.ne_nil hturn)

private theorem exchange_block (h : Replaces y x)
    (hblock : ∃ t, c = '"' ∧ f ++ x = '"' :: '"' :: t)
    (hturn : (turn (c :: (f ++ x))).2 = more ++ x) :
    turn (c :: (f ++ y)) = ((turn (c :: (f ++ x))).1, more ++ y) := by
  obtain ⟨rest, rfl, hf⟩ := hblock
  have hlong : x.length ≤ rest.length := by
    rw [hf, turn_block] at hturn
    exact Nat.le_trans (length_le_of_append_eq hturn) (afterBlock_length rest)
  have hlength := congrArg List.length hf
  simp only [List.length_append, List.length_cons] at hlength
  obtain ⟨d, e, f, rfl⟩ : ∃ d e f', f = d :: e :: f' := by
    match f with
    | [] | [_] =>
      simp at hlength
      omega
    | d :: e :: f => exact ⟨d, e, f, rfl⟩
  obtain ⟨hd, htail⟩ := List.cons.inj hf
  obtain ⟨he, -⟩ := List.cons.inj htail
  subst hd he
  exact Prod.ext rfl (afterBlock_exchange h.ne_nil hturn)

private theorem exchange_quote (h : Replaces y x) (hquote : c = '"' ∨ c = '\'')
    (hblock : ¬ ∃ t, c = '"' ∧ f ++ x = '"' :: '"' :: t)
    (hturn : (turn (c :: (f ++ x))).2 = more ++ x) :
    turn (c :: (f ++ y)) = ((turn (c :: (f ++ x))).1, more ++ y) := by
  obtain ⟨a, s, b, t, hx, hy, -, -, hsame⟩ := h.heads
  rw [turn_quote hquote hblock] at hturn
  have hblock' : ¬ ∃ t, c = '"' ∧ f ++ y = '"' :: '"' :: t := by
    rintro ⟨rest, hc, hf⟩
    match f with
    | [] => exact false_of_spent h.ne_nil Nat.one_pos (afterQuote_spent _ _) rfl hturn
    | [d] =>
      obtain ⟨rfl, htail⟩ := List.cons.inj hf
      have ha : a = '"' := hsame (List.cons.inj (hy.symm.trans htail)).1
      exact hblock ⟨s, hc, by rw [hx, ha]; rfl⟩
    | d :: e :: f =>
      obtain ⟨rfl, htail⟩ := List.cons.inj hf
      obtain ⟨rfl, -⟩ := List.cons.inj htail
      exact hblock ⟨f ++ x, hc, rfl⟩
  rw [turn_quote hquote hblock, turn_quote hquote hblock', afterQuote_exchange h.ne_nil hturn]

private theorem exchange_single (h : Replaces y x) (hcomment : ¬ StartsComment (c :: (f ++ x)))
    (hquote : ¬ (c = '"' ∨ c = '\'')) (hc : isNameStart c = false)
    (hturn : (turn (c :: (f ++ x))).2 = more ++ x) :
    turn (c :: (f ++ y)) = ((turn (c :: (f ++ x))).1, more ++ y) := by
  obtain ⟨-, -, b, t, -, hy, -, ⟨-, hslash, hstar⟩, -⟩ := h.heads
  have hcomment' : ¬ StartsComment (c :: (f ++ y)) := by
    rintro ⟨rest, heq⟩
    have hnext : f ++ y = '/' :: rest ∨ f ++ y = '*' :: rest :=
      heq.imp (fun h => (List.cons.inj h).2) fun h => (List.cons.inj h).2
    have hfirst : c = '/' := heq.elim (fun h => (List.cons.inj h).1) fun h => (List.cons.inj h).1
    cases f with
    | nil =>
      rw [hy] at hnext
      exact hnext.elim (fun h => hslash (List.cons.inj h).1) fun h => hstar (List.cons.inj h).1
    | cons d f =>
      refine hcomment ⟨f ++ x, ?_⟩
      rw [hfirst]
      exact hnext.imp (fun h => by rw [(List.cons.inj h).1]; rfl)
        fun h => by rw [(List.cons.inj h).1]; rfl
  rw [turn_single hquote hc hcomment] at hturn
  rw [turn_single hquote hc hcomment, turn_single hquote hc hcomment',
    List.append_cancel_right hturn]

/-- A turn before the place of `x` is the same whatever stands there. -/
theorem turn_exchange (h : Replaces y x) (hturn : (turn (c :: (f ++ x))).2 = more ++ x) :
    turn (c :: (f ++ y)) = ((turn (c :: (f ++ x))).1, more ++ y) := by
  by_cases hcomment : StartsComment (c :: (f ++ x))
  · exact exchange_comment h hcomment hturn
  by_cases hblock : ∃ t, c = '"' ∧ f ++ x = '"' :: '"' :: t
  · exact exchange_block h hblock hturn
  by_cases hquote : c = '"' ∨ c = '\''
  · exact exchange_quote h hquote hblock hturn
  cases hc : isNameStart c with
  | true =>
    obtain ⟨a, s, b, t, hx, hy, ⟨ha, -⟩, ⟨hb, -⟩, -⟩ := h.heads
    obtain ⟨htake, hdrop⟩ := takeWhile_before ha f s
    obtain ⟨htake', hdrop'⟩ := takeWhile_before hb f t
    rw [turn_word hc, hx, hdrop] at hturn
    rw [turn_word hc, turn_word hc, hx, hy, htake, htake', hdrop', List.append_cancel_right hturn]
  | false => exact exchange_single h hcomment hquote hc hturn

end Exchange

/-- The scan of the first text comes to the second one, which is what is left after some turns. -/
inductive ComesTo : List Char → List Char → Prop
  | here (s : List Char) : ComesTo s s
  | next {s t : List Char} (h : ComesTo (turn s).2 t) : ComesTo s t

theorem ComesTo.suffix {s t : List Char} (h : ComesTo s t) : t <:+ s := by
  induction h with
  | here s => exact List.suffix_refl s
  | @next s t _ ih =>
    cases s with
    | nil => exact ih
    | cons c s => exact ih.trans ((turn_suffix c s).trans (List.suffix_cons c s))

theorem ComesTo.exchange {front : List Char} (h : Replaces y x) (hcomes : ComesTo (front ++ x) x) :
    ∃ before, marks (front ++ x) = before ++ marks x ∧ marks (front ++ y) = before ++ marks y := by
  generalize hs : front ++ x = s at hcomes
  induction hcomes generalizing front with
  | here s =>
    obtain rfl : front = [] := List.append_left_eq_self.1 hs
    exact ⟨[], hs ▸ rfl, rfl⟩
  | @next s x hcomes ih =>
    subst hs
    obtain ⟨more, hmore⟩ := hcomes.suffix
    obtain ⟨before, hx, hy⟩ := ih h hmore
    cases front with
    | nil =>
      obtain ⟨a, t, -, -, rfl, -⟩ := h.heads
      have hlong := length_le_of_append_eq hmore.symm
      have hshort := (turn_suffix a t).length_le
      rw [List.nil_append, List.length_cons] at hlong
      omega
    | cons c f =>
      rw [List.cons_append] at hmore hx ⊢
      refine ⟨(turn (c :: (f ++ x))).1 ++ before, ?_, ?_⟩
      · rw [marks_eq_turn, hx, List.append_assoc]
      · rw [List.cons_append, marks_eq_turn, turn_exchange h hmore.symm, hy, List.append_assoc]

def quotes? : List Char → Option (List Char)
  | '"' :: '"' :: '"' :: _ => some ['"', '"', '"']
  | '"' :: _ => some ['"']
  | '\'' :: _ => some ['\'']
  | _ => none

structure Skipped (front piece rest : List Char) : Prop where
  comes : ComesTo (front ++ (piece ++ rest)) (piece ++ rest)
  taken : (turn (piece ++ rest)).2 = rest

/-- A character that neither closes a literal nor changes what another one means. -/
def Inert (c : Char) : Prop := c ≠ '"' ∧ c ≠ '\'' ∧ c ≠ '\\' ∧ c ≠ '\n'

/-- In the second text a comment of the first one is a space, or a literal has another content. -/
inductive Redacted : List Char → List Char → Prop
  | comment {front piece rest : List Char} (h : Skipped front piece rest)
      (hcomment : StartsComment piece) :
      Redacted (front ++ (piece ++ rest)) (front ++ ' ' :: rest)
  | literal {front quotes old new rest : List Char}
      (h : Skipped front (quotes ++ old ++ quotes) rest)
      (hquotes : quotes? (quotes ++ old ++ quotes ++ rest) = some quotes)
      (hne : new ≠ []) (hnew : ∀ c ∈ new, Inert c) :
      Redacted (front ++ (quotes ++ old ++ quotes ++ rest))
        (front ++ (quotes ++ new ++ quotes ++ rest))

theorem quoteEnds_inert {quote : Char} (hquote : quote = '"' ∨ quote = '\'') {s : List Char}
    (h : ∀ c ∈ s, Inert c) : quoteEnds quote (s ++ [quote]) = true := by
  induction s with
  | nil => simp [quoteEnds]
  | cons c s ih =>
    obtain ⟨⟨hdouble, hsingle, hslash, hline⟩, hs⟩ := List.forall_mem_cons.1 h
    have hc : c ≠ quote := by rcases hquote with rfl | rfl <;> assumption
    rw [List.cons_append, quoteEnds.eq_def]
    simp [hc, hslash, hline, ih hs]

theorem blockEnds_inert {s : List Char} (h : ∀ c ∈ s, Inert c) :
    blockEnds (s ++ ['"', '"', '"']) = true := by
  induction s with
  | nil => rfl
  | cons c s ih =>
    obtain ⟨⟨hdouble, -, hslash, -⟩, hs⟩ := List.forall_mem_cons.1 h
    rw [List.cons_append, blockEnds.eq_3]
    · exact ih hs
    · rintro _ rfl -
      exact hdouble rfl
    · rintro _ _ rfl -
      exact hslash rfl

private theorem turn_inert {quote : Char} (hquote : quote = '"' ∨ quote = '\'') {new : List Char}
    (hne : new ≠ []) (hnew : ∀ c ∈ new, Inert c) (rest : List Char) :
    turn (quote :: (new ++ [quote] ++ rest)) = ([.other], rest) := by
  obtain ⟨c, s, rfl⟩ := List.exists_cons_of_ne_nil hne
  have hblock : ¬ ∃ t, quote = '"' ∧ c :: s ++ [quote] ++ rest = '"' :: '"' :: t := by
    rintro ⟨t, -, heq⟩
    exact (hnew c List.mem_cons_self).1 (List.cons.inj heq).1
  rw [turn_quote hquote hblock, afterQuote_append (quoteEnds_inert hquote hnew)]

/-- A literal leaves the same marks with another content, and the same text after it. -/
theorem turn_literal {quotes new rest s : List Char} (hquotes : quotes? s = some quotes)
    (hne : new ≠ []) (hnew : ∀ c ∈ new, Inert c) :
    turn (quotes ++ new ++ quotes ++ rest) = ((turn s).1, rest) := by
  revert hquotes
  fun_cases quotes? s with
  | case1 t =>
    rintro ⟨⟩
    exact Prod.ext rfl (afterBlock_append (blockEnds_inert hnew) rest)
  | case2 t hblock =>
    rintro ⟨⟩
    have hold : ¬ ∃ u, '"' = '"' ∧ t = '"' :: '"' :: u := fun ⟨u, _, ht⟩ => hblock u ht
    rw [turn_quote (.inl rfl) hold]
    exact turn_inert (.inl rfl) hne hnew rest
  | case3 t =>
    rintro ⟨⟩
    rw [turn_quote (.inr rfl) (by simp)]
    exact turn_inert (.inr rfl) hne hnew rest
  | case4 => rintro ⟨⟩

theorem Replaces.of_quotes {quotes old new : List Char} {s : List Char}
    (hquotes : quotes? s = some quotes) : Replaces (quotes ++ new) (quotes ++ old) := by
  revert hquotes
  fun_cases quotes? s with
  | case1 t =>
    rintro ⟨⟩
    exact .literal (.inl rfl) _ _
  | case2 t hblock =>
    rintro ⟨⟩
    exact .literal (.inl rfl) _ _
  | case3 t =>
    rintro ⟨⟩
    exact .literal (.inr rfl) _ _
  | case4 => rintro ⟨⟩

theorem StartsComment.marks_turn {s : List Char} (h : StartsComment s) : (turn s).1 = [] := by
  obtain ⟨rest, rfl | rfl⟩ := h <;> rfl

theorem StartsComment.append {s : List Char} (h : StartsComment s) (rest : List Char) :
    StartsComment (s ++ rest) := by
  obtain ⟨t, rfl | rfl⟩ := h
  · exact ⟨t ++ rest, .inl rfl⟩
  · exact ⟨t ++ rest, .inr rfl⟩

theorem marks_redacted {s t : List Char} (h : Redacted s t) : marks t = marks s := by
  cases h with
  | @comment front piece rest h hcomment =>
    have hstarts := hcomment.append rest
    obtain ⟨before, hold, hnew⟩ := h.comes.exchange (.comment hstarts rest)
    have hpiece : marks (piece ++ rest) = marks rest := by
      rw [marks_eq_turn, hstarts.marks_turn, h.taken, List.nil_append]
    rw [hold, hnew, hpiece, marks_blank (by decide)]
  | @literal front quotes old new rest h hquotes hne hinert =>
    have hreplaces : Replaces (quotes ++ new ++ quotes ++ rest) (quotes ++ old ++ quotes ++ rest) := by
      simp only [List.append_assoc]
      exact .of_quotes hquotes
    obtain ⟨before, hold, hnew⟩ := h.comes.exchange hreplaces
    have hturn : turn (quotes ++ new ++ quotes ++ rest) =
        ((turn (quotes ++ old ++ quotes ++ rest)).1, rest) := turn_literal hquotes hne hinert
    have hpieces : marks (quotes ++ new ++ quotes ++ rest) =
        marks (quotes ++ old ++ quotes ++ rest) := by
      rw [marks_eq_turn, hturn, marks_eq_turn (quotes ++ old ++ quotes ++ rest), h.taken]
    rw [hold, hnew, hpieces]

/-- The header of a text does not depend on what its comments and literals hold: a comment may become a
space, and the content of a literal may become any other that is not empty and without quotes,
backslashes and line feeds. -/
theorem ofSource_redacted {source redacted : String} (h : Redacted source.toList redacted.toList) :
    ofSource redacted = ofSource source := by
  rw [ofSource, ofSource, marks_redacted h]

/-- A string with an escaped quote and the start of a comment in it, and a comment with a quote in
it. -/
theorem ofSource_redacted_quotes :
    Redacted "a\"\\\"/*\"/*\"*/class B".toList "a\"x\"/*\"*/class B".toList ∧
      ofSource "a\"x\"/*\"*/class B" = ofSource "a\"\\\"/*\"/*\"*/class B" ∧
      Redacted "a\"x\"/*\"*/class B".toList "a\"x\" class B".toList ∧
      ofSource "a\"x\" class B" = ofSource "a\"x\"/*\"*/class B" := by
  have hliteral : Redacted "a\"\\\"/*\"/*\"*/class B".toList "a\"x\"/*\"*/class B".toList := by
    refine @Redacted.literal ['a'] ['"'] "\\\"/*".toList ['x'] "/*\"*/class B".toList
      ⟨.next ?_, ?_⟩ rfl (List.cons_ne_nil _ _) ?_
    · have hword : (turn ("a\"\\\"/*\"/*\"*/class B".toList)).2 =
          "\"\\\"/*\"/*\"*/class B".toList := by decide +kernel
      exact hword ▸ .here _
    · decide +kernel
    · simp [Inert]
  have hcomment : Redacted "a\"x\"/*\"*/class B".toList "a\"x\" class B".toList := by
    refine @Redacted.comment "a\"x\"".toList "/*\"*/".toList "class B".toList
      ⟨.next (.next ?_), ?_⟩ ⟨_, .inr rfl⟩
    · have hturns : (turn (turn ("a\"x\"/*\"*/class B".toList)).2).2 =
          "/*\"*/class B".toList := by decide +kernel
      exact hturns ▸ .here _
    · decide +kernel
  exact ⟨hliteral, ofSource_redacted hliteral, hcomment, ofSource_redacted hcomment⟩

end AnnotationIndex.Java
