import AnnotationIndex.Proofs.Java.ScanTurns
import AnnotationIndex.Proofs.Text.Lines
import AnnotationIndex.Proofs.Text.Utf8
import Mathlib.Logic.Relation

/-!
# The scan for headers by bytes

The turns of the scan can be taken on the bytes of a text: a position moves on a byte at a time, or
two after a backslash, and a literal or a comment that is not closed takes it behind the end. A byte
beyond the end cannot be read, and a text cannot be cut inside a character; either is a fault here.
Inside a literal the position may well stand in the middle of a character. What ends a turn is
always a byte below 128, though, so every turn begins and ends between two characters, and it is the
turn that is taken on characters.
-/

namespace AnnotationIndex.Java

open Header Text

/-- A loop that goes on while its condition holds. A turn without a result is a fault. -/
structure Loop (σ : Type) where
  goesOn : σ → Bool
  turn? : σ → Option σ

namespace Loop

variable {σ : Type} {l : Loop σ} {Good : σ → Prop} {left : σ → Nat} {s t : σ}

/-- One turn of the loop. -/
def Next (l : Loop σ) (s t : σ) : Prop := l.goesOn s = true ∧ l.turn? s = some t

/-- The loop that is at its head with `s` comes to its head with `t`. -/
def Comes (l : Loop σ) : σ → σ → Prop := Relation.ReflTransGen l.Next

/-- The loop that starts with `s` is left with `t`. -/
def Ends (l : Loop σ) (s t : σ) : Prop := l.Comes s t ∧ l.goesOn t = false

/-- Turns have no fault where `Good` holds; they keep it, and they spend some of what is `left`. -/
def Spends (l : Loop σ) (Good : σ → Prop) (left : σ → Nat) : Prop :=
  ∀ s, Good s → l.goesOn s = true → ∃ t, l.turn? s = some t ∧ Good t ∧ left t < left s

theorem Spends.good (h : l.Spends Good left) (hs : Good s) (hst : l.Comes s t) : Good t := by
  induction hst with
  | refl => exact hs
  | tail _ hnext ih =>
    obtain ⟨u, hu, hgood, -⟩ := h _ ih hnext.1
    exact Option.some.inj (hu.symm.trans hnext.2) ▸ hgood

theorem Spends.exists_ends (h : l.Spends Good left) (hs : Good s) : ∃ t, l.Ends s t := by
  induction hleft : left s using Nat.strongRecOn generalizing s with
  | ind n ih =>
    cases hgo : l.goesOn s with
    | false => exact ⟨s, .refl, hgo⟩
    | true =>
      obtain ⟨t, ht, hgood, hless⟩ := h s hs hgo
      obtain ⟨u, hcomes, hend⟩ := ih (left t) (hleft ▸ hless) hgood rfl
      exact ⟨u, .head ⟨hgo, ht⟩ hcomes, hend⟩

end Loop

/-- The bytes of a character in UTF-8, each as the character that has its number. -/
def encoded (c : Char) : List Char := (String.utf8EncodeChar c).map Char.ofUInt8

def bytesOf (text : List Char) : List Char := text.flatMap encoded

theorem bytesOf_cons (c : Char) (text : List Char) :
    bytesOf (c :: text) = encoded c ++ bytesOf text := rfl

theorem bytesOf_toList (source : String) :
    bytesOf source.toList = (utf8Bytes source).map Char.ofUInt8 := by
  rw [utf8Bytes_eq, List.map_flatMap]
  rfl

theorem length_encoded (c : Char) : (encoded c).length = c.utf8Size := by
  rw [encoded, List.length_map, String.length_utf8EncodeChar]

theorem length_bytesOf (text : List Char) : (bytesOf text).length = byteLength text := by
  induction text with
  | nil => rfl
  | cons c text ih =>
    rw [bytesOf_cons, List.length_append, length_encoded, byteLength_cons, ih]

private theorem toNat_ofUInt8 {n : Nat} (h : n < 256) :
    (Char.ofUInt8 (UInt8.ofNat n)).toNat = n := by
  have hbyte : (Char.ofUInt8 (UInt8.ofNat n)).toNat = (UInt8.ofNat n).toNat := rfl
  rw [hbyte, UInt8.toNat_ofNat', Nat.mod_eq_of_lt h]

private theorem large_ofUInt8 {n : Nat} (hlow : 128 ≤ n) (hhigh : n < 256) :
    128 ≤ (Char.ofUInt8 (UInt8.ofNat n)).toNat := by
  rwa [toNat_ofUInt8 hhigh]

theorem encoded_cases (c : Char) :
    c.toNat < 128 ∧ encoded c = [c] ∨ 128 ≤ c.toNat ∧ ∀ b ∈ encoded c, 128 ≤ b.toNat := by
  have hc : c.toNat = c.val.toNat := rfl
  unfold encoded String.utf8EncodeChar
  rw [← hc]
  generalize c.toNat = v at hc
  simp only
  split
  · rename_i hone
    refine .inl ⟨by omega, ?_⟩
    rw [List.map_singleton, List.singleton_inj, ← Char.toNat_inj, toNat_ofUInt8 (by omega)]
    exact hc
  · refine .inr ⟨by omega, ?_⟩
    split
    · simp only [List.map_cons, List.map_nil, List.forall_mem_cons]
      refine ⟨?_, ?_, by simp⟩ <;> exact large_ofUInt8 (by omega) (by omega)
    · split
      · simp only [List.map_cons, List.map_nil, List.forall_mem_cons]
        refine ⟨?_, ?_, ?_, by simp⟩ <;> exact large_ofUInt8 (by omega) (by omega)
      · simp only [List.map_cons, List.map_nil, List.forall_mem_cons]
        refine ⟨?_, ?_, ?_, ?_, by simp⟩ <;> exact large_ofUInt8 (by omega) (by omega)

section Positions

variable {text s : List Char} {c q : Char} {i : Nat}

theorem dropBytes_length (h : dropBytes i text = some s) :
    (bytesOf text).length = i + byteLength s := by
  obtain ⟨front, rfl, rfl⟩ := dropBytes_eq_some_iff.1 h
  rw [length_bytesOf, byteLength_append]

theorem dropBytes_next (h : dropBytes i text = some (c :: s)) :
    dropBytes (i + c.utf8Size) text = some s := by
  obtain ⟨front, rfl, rfl⟩ := dropBytes_eq_some_iff.1 h
  refine dropBytes_eq_some_iff.2 ⟨front ++ [c], by simp, ?_⟩
  rw [byteLength_append, byteLength_cons, byteLength_nil, Nat.add_zero]

theorem getElem?_bytesOf (h : dropBytes i text = some s) (k : Nat) :
    (bytesOf text)[i + k]? = (bytesOf s)[k]? := by
  obtain ⟨front, rfl, rfl⟩ := dropBytes_eq_some_iff.1 h
  rw [← length_bytesOf, bytesOf, bytesOf, bytesOf, List.flatMap_append,
    List.getElem?_append_right (Nat.le_add_right _ _), Nat.add_sub_cancel_left]

/-- Two characters are the same or both are large. -/
def Kin (b c : Char) : Prop := b = c ∨ 128 ≤ b.toNat ∧ 128 ≤ c.toNat

theorem Kin.eq_iff (h : Kin q c) {d : Char} (hd : d.toNat < 128) : q = d ↔ c = d := by
  rcases h with rfl | ⟨hq, hc⟩
  · rfl
  · refine iff_of_false ?_ ?_ <;> (rintro rfl; omega)

theorem byte_kin (h : dropBytes i text = some (c :: s)) {k : Nat} (hk : k < c.utf8Size) :
    ∃ b, (bytesOf text)[i + k]? = some b ∧ Kin b c := by
  rw [← length_encoded] at hk
  refine ⟨(encoded c)[k], ?_, ?_⟩
  · rw [getElem?_bytesOf h, bytesOf_cons, List.getElem?_append_left hk,
      List.getElem?_eq_getElem hk]
  · rcases encoded_cases c with ⟨-, hone⟩ | ⟨hc, hlarge⟩
    · refine .inl (List.mem_singleton.1 ?_)
      exact hone ▸ List.getElem_mem hk
    · exact .inr ⟨hlarge _ (List.getElem_mem hk), hc⟩

theorem byte_first (h : dropBytes i text = some (c :: s)) :
    ∃ b, (bytesOf text)[i]? = some b ∧ Kin b c := byte_kin h c.utf8Size_pos

theorem lt_length (h : dropBytes i text = some (c :: s)) : i < (bytesOf text).length := by
  obtain ⟨b, hb, -⟩ := byte_first h
  exact (List.getElem?_eq_some_iff.1 hb).1

theorem byte_small (h : dropBytes i text = some (c :: s)) (hc : c.toNat < 128) :
    (bytesOf text)[i]? = some c := by
  obtain ⟨b, hb, hkin⟩ := byte_first h
  rwa [(hkin.eq_iff hc).2 rfl] at hb

theorem length_of_end (h : dropBytes i text = some []) : (bytesOf text).length = i :=
  dropBytes_length h

theorem byte_eq_iff (h : dropBytes i text = some s) (hq : q.toNat < 128) :
    (bytesOf text)[i]? = some q ↔ s.head? = some q := by
  cases s with
  | nil =>
    rw [List.getElem?_eq_none (Nat.le_of_eq (length_of_end h))]
    exact iff_of_false nofun nofun
  | cons c s =>
    obtain ⟨b, hb, hkin⟩ := byte_first h
    rw [hb, Option.some_inj, List.head?_cons, Option.some_inj, hkin.eq_iff hq]

theorem drop_bytesOf (h : dropBytes i text = some s) : (bytesOf text).drop i = bytesOf s := by
  refine List.ext_getElem? fun k => ?_
  rw [List.getElem?_drop, getElem?_bytesOf h]

theorem isPrefixOf_bytesOf {front : List Char} (hfront : ∀ c ∈ front, c.toNat < 128)
    (text : List Char) : front.isPrefixOf (bytesOf text) = front.isPrefixOf text := by
  induction front generalizing text with
  | nil => simp
  | cons q front ih =>
    obtain ⟨hq, hfront⟩ := List.forall_mem_cons.1 hfront
    cases text with
    | nil => rfl
    | cons c text =>
      rcases encoded_cases c with ⟨-, hone⟩ | ⟨hc, hlarge⟩
      · rw [bytesOf_cons, hone, List.singleton_append, List.isPrefixOf, List.isPrefixOf, ih hfront]
      · obtain ⟨b, more, hbytes⟩ := List.exists_cons_of_length_pos
          (length_encoded c ▸ c.utf8Size_pos)
        have hb : 128 ≤ b.toNat := hlarge b (hbytes ▸ List.mem_cons_self)
        have hqb : (q == b) = false := beq_false_of_ne (by rintro rfl; omega)
        have hqc : (q == c) = false := beq_false_of_ne (by rintro rfl; omega)
        rw [bytesOf_cons, hbytes, List.cons_append, List.isPrefixOf, List.isPrefixOf, hqb, hqc,
          Bool.false_and, Bool.false_and]

theorem utf8Size_of_small (hc : c.toNat < 128) : c.utf8Size = 1 := by
  rcases encoded_cases c with ⟨-, hone⟩ | ⟨hlarge, -⟩
  · rw [← length_encoded, hone, List.length_singleton]
  · omega

end Positions

/-- The position where `stops` first holds, from `i` on, or one at the end or behind it. A position
moves on by one byte, or by two after a backslash where there are escapes. -/
def skip (bytes : List Char) (stops : Nat → Option Bool) (escapes : Bool) (i : Nat) : Option Nat :=
  if h : i < bytes.length then do
    if ← stops i then return i
    skip bytes stops escapes (if escapes && bytes[i] == '\\' then i + 2 else i + 1)
  else some i
termination_by bytes.length - i
decreasing_by split <;> omega

def leavesClass (p : Char → Bool) (bytes : List Char) (i : Nat) : Option Bool :=
  bytes[i]?.map (!p ·)

def closesComment (bytes : List Char) (i : Nat) : Option Bool :=
  bytes[i]?.map fun b => b == '*' && bytes[i + 1]? == some '/'

def atQuotes (bytes : List Char) (i : Nat) : Option Bool :=
  if i ≤ bytes.length then some (['"', '"', '"'].isPrefixOf (bytes.drop i)) else none

section Skip

variable {bytes : List Char} {stops : Nat → Option Bool} {escapes : Bool} {b : Char} {i : Nat}

theorem skip_end (h : bytes.length ≤ i) : skip bytes stops escapes i = some i := by
  rw [skip, dif_neg (Nat.not_lt.2 h)]

theorem skip_stop (h : i < bytes.length) (hstop : stops i = some true) :
    skip bytes stops escapes i = some i := by
  rw [skip, dif_pos h, hstop]
  rfl

theorem skip_escape (hb : bytes[i]? = some '\\') (hstop : stops i = some false) :
    skip bytes stops true i = skip bytes stops true (i + 2) := by
  obtain ⟨h, hb⟩ := List.getElem?_eq_some_iff.1 hb
  rw [skip, dif_pos h, hstop, hb]
  rfl

theorem skip_step (hb : bytes[i]? = some b) (hstop : stops i = some false)
    (hplain : escapes = true → b ≠ '\\') :
    skip bytes stops escapes i = skip bytes stops escapes (i + 1) := by
  obtain ⟨h, hb⟩ := List.getElem?_eq_some_iff.1 hb
  have hone : (escapes && b == '\\') = false := by simpa using hplain
  rw [skip, dif_pos h, hstop, hb, hone]
  rfl

def Calm (bytes : List Char) (stops : Nat → Option Bool) : Prop :=
  ∀ i b, bytes[i]? = some b → 128 ≤ b.toNat → stops i = some false

theorem calm_leavesClass {p : Char → Bool} (hp : ∀ c, 128 ≤ c.toNat → p c = true) :
    Calm bytes (leavesClass p bytes) := by
  intro i b hb hlarge
  simp [leavesClass, hb, hp b hlarge]

theorem calm_closesComment : Calm bytes (closesComment bytes) := by
  intro i b hb hlarge
  have hne : b ≠ '*' := by rintro rfl; exact absurd hlarge (by decide)
  simp [closesComment, hb, hne]

theorem calm_atQuotes : Calm bytes (atQuotes bytes) := by
  intro i b hb hlarge
  obtain ⟨h, hb⟩ := List.getElem?_eq_some_iff.1 hb
  have hne : '"' ≠ b := by rintro rfl; exact absurd hlarge (by decide)
  simp [atQuotes, Nat.le_of_lt h, List.drop_eq_getElem_cons h, hb, List.isPrefixOf, hne]

theorem skip_large (hcalm : Calm bytes stops) {n : Nat}
    (hlarge : ∀ k < n, ∃ b, bytes[i + k]? = some b ∧ 128 ≤ b.toNat) :
    skip bytes stops escapes i = skip bytes stops escapes (i + n) := by
  induction n with
  | zero => rfl
  | succ n ih =>
    obtain ⟨b, hb, hlow⟩ := hlarge n (Nat.lt_succ_self n)
    rw [ih fun k hk => hlarge k (Nat.lt_succ_of_lt hk), skip_step hb (hcalm _ b hb hlow)]
    · rfl
    · rintro - rfl
      exact absurd hlow (by decide)

variable {text s : List Char} {c d : Char}

theorem skip_char (hcalm : Calm (bytesOf text) stops) (h : dropBytes i text = some (c :: s))
    (hstop : c.toNat < 128 → stops i = some false) (hplain : escapes = true → c ≠ '\\') :
    skip (bytesOf text) stops escapes i = skip (bytesOf text) stops escapes (i + c.utf8Size) := by
  rcases Nat.lt_or_ge c.toNat 128 with hc | hc
  · rw [utf8Size_of_small hc]
    exact skip_step (byte_small h hc) (hstop hc) hplain
  · refine skip_large hcalm fun k hk => ?_
    obtain ⟨b, hb, rfl | ⟨hlow, -⟩⟩ := byte_kin h hk
    · exact ⟨b, hb, hc⟩
    · exact ⟨b, hb, hlow⟩

theorem skip_last (h : dropBytes i text = some ['\\']) (hstop : stops i = some false) :
    skip (bytesOf text) stops true i = some (i + 2) := by
  have hend : (bytesOf text).length = i + 1 := length_of_end (dropBytes_next h)
  rw [skip_escape (byte_small h (by decide)) hstop, skip_end (by omega)]

/-- A backslash takes the first byte of a character along, and the others are passed then. -/
theorem skip_escaped (hcalm : Calm (bytesOf text) stops)
    (h : dropBytes i text = some ('\\' :: d :: s)) (hstop : stops i = some false) :
    skip (bytesOf text) stops true i =
      skip (bytesOf text) stops true (i + 1 + d.utf8Size) := by
  have hd : dropBytes (i + 1) text = some (d :: s) := dropBytes_next h
  have hpos := d.utf8Size_pos
  have hsplit : i + 1 + d.utf8Size = i + 2 + (d.utf8Size - 1) := by omega
  rw [skip_escape (byte_small h (by decide)) hstop, hsplit]
  refine skip_large hcalm fun k hk => ?_
  obtain ⟨b, hb, hkin⟩ := byte_kin hd (show k + 1 < d.utf8Size by omega)
  refine ⟨b, by rwa [show i + 2 + k = i + 1 + (k + 1) by omega], ?_⟩
  rcases encoded_cases d with ⟨hsmall, -⟩ | ⟨hlarge, -⟩
  · have := utf8Size_of_small hsmall
    omega
  · rcases hkin with rfl | ⟨hlow, -⟩
    · exact hlarge
    · exact hlow

end Skip

section Leaves

variable {text s : List Char} {c quote : Char} {i : Nat}

/-- The text is left at a position: the position stands before `s`, or behind the end where nothing
is left. -/
def Leaves (text : List Char) (i : Nat) (s : List Char) : Prop :=
  dropBytes i text = some s ∨ s = [] ∧ (bytesOf text).length < i

theorem leaves_nil (h : (bytesOf text).length < i) : Leaves text i [] := .inr ⟨rfl, h⟩

theorem leavesClass_eq {p : Char → Bool} (h : dropBytes i text = some (c :: s))
    (hc : c.toNat < 128) : leavesClass p (bytesOf text) i = some (!p c) := by
  rw [leavesClass, byte_small h hc, Option.map_some]

theorem skip_class {p : Char → Bool} (hp : ∀ c, 128 ≤ c.toNat → p c = true)
    (h : dropBytes i text = some s) :
    ∃ j, skip (bytesOf text) (leavesClass p (bytesOf text)) false i = some j ∧
      dropBytes j text = some (s.dropWhile p) := by
  induction s generalizing i with
  | nil => exact ⟨i, skip_end (Nat.le_of_eq (length_of_end h)), h⟩
  | cons c s ih =>
    have hat : c.toNat < 128 → leavesClass p (bytesOf text) i = some (!p c) := leavesClass_eq h
    cases hpc : p c with
    | true =>
      obtain ⟨j, hj, hleft⟩ := ih (dropBytes_next h)
      rw [hpc] at hat
      rw [skip_char (calm_leavesClass hp) h hat (by simp), List.dropWhile_cons_of_pos hpc]
      exact ⟨j, hj, hleft⟩
    | false =>
      have hc : c.toNat < 128 := Nat.lt_of_not_le fun hlarge => by simp [hp c hlarge] at hpc
      rw [hpc] at hat
      rw [List.dropWhile_cons_of_neg (by simp [hpc])]
      exact ⟨i, skip_stop (lt_length h) (hat hc), h⟩

theorem closesComment_eq (h : dropBytes i text = some (c :: s)) (hc : c.toNat < 128) :
    closesComment (bytesOf text) i = some (c == '*' && s.head? == some '/') := by
  have hnext : dropBytes (i + 1) text = some s := utf8Size_of_small hc ▸ dropBytes_next h
  have hslash := byte_eq_iff hnext (show ('/').toNat < 128 by decide)
  rw [closesComment, byte_small h hc, Option.map_some, Option.some_inj, Bool.eq_iff_iff]
  simp only [Bool.and_eq_true, beq_iff_eq, hslash]

theorem skip_comment (h : dropBytes i text = some s) :
    ∃ j, skip (bytesOf text) (closesComment (bytesOf text)) false i = some j ∧ i ≤ j ∧
      Leaves text (j + 2) (afterComment s) := by
  fun_induction afterComment s generalizing i with
  | case1 rest =>
    have hclosed := closesComment_eq h (by decide)
    have hslash : dropBytes (i + 1) text = some ('/' :: rest) := dropBytes_next h
    exact ⟨i, skip_stop (lt_length h) hclosed, Nat.le_refl i, .inl (dropBytes_next hslash)⟩
  | case2 c rest hopen ih =>
    have hstop : c.toNat < 128 → closesComment (bytesOf text) i = some false := by
      intro hc
      rw [closesComment_eq h hc, Option.some_inj, Bool.eq_false_iff]
      intro hclosed
      simp only [Bool.and_eq_true, beq_iff_eq, List.head?_eq_some_iff] at hclosed
      obtain ⟨hstar, more, hrest⟩ := hclosed
      exact hopen more hstar hrest
    obtain ⟨j, hj, hle, hleft⟩ := ih (dropBytes_next h)
    rw [skip_char calm_closesComment h hstop (by simp)]
    exact ⟨j, hj, Nat.le_of_add_right_le hle, hleft⟩
  | case3 =>
    have hend := length_of_end h
    exact ⟨i, skip_end (Nat.le_of_eq hend), Nat.le_refl i, leaves_nil (by omega)⟩

theorem atQuotes_eq (h : dropBytes i text = some s) :
    atQuotes (bytesOf text) i = some (['"', '"', '"'].isPrefixOf s) := by
  have hle : i ≤ (bytesOf text).length := Nat.le.intro (dropBytes_length h).symm
  rw [atQuotes, if_pos hle, drop_bytesOf h, isPrefixOf_bytesOf (by simp)]

theorem skip_block (h : dropBytes i text = some s) :
    ∃ j, skip (bytesOf text) (atQuotes (bytesOf text)) true i = some j ∧ i ≤ j ∧
      Leaves text (j + 3) (afterBlock s) := by
  fun_induction afterBlock s generalizing i with
  | case1 rest =>
    have hclosed := atQuotes_eq h
    have hnext : dropBytes (i + 1) text = some ('"' :: '"' :: rest) := dropBytes_next h
    have hlast : dropBytes (i + 2) text = some ('"' :: rest) := dropBytes_next hnext
    refine ⟨i, skip_stop (lt_length h) hclosed, Nat.le_refl i, .inl (dropBytes_next hlast)⟩
  | case2 c rest ih =>
    have hslash : dropBytes (i + 1) text = some (c :: rest) := dropBytes_next h
    obtain ⟨j, hj, hle, hleft⟩ := ih (dropBytes_next hslash)
    rw [skip_escaped calm_atQuotes h (atQuotes_eq h)]
    exact ⟨j, hj, by omega, hleft⟩
  | case3 c rest hopen hslash ih =>
    have hstop : atQuotes (bytesOf text) i = some false := by
      rw [atQuotes_eq h, Option.some_inj, Bool.eq_false_iff]
      intro hclosed
      obtain ⟨more, hmore⟩ := List.isPrefixOf_iff_prefix.1 hclosed
      obtain ⟨hquote, hrest⟩ := List.cons.inj hmore
      exact hopen more hquote.symm hrest.symm
    by_cases hc : c = '\\'
    · subst hc
      cases rest with
      | nil =>
        have hend : (bytesOf text).length = i + 1 := length_of_end (dropBytes_next h)
        exact ⟨i + 2, skip_last h hstop, Nat.le_add_right i 2, leaves_nil (by omega)⟩
      | cons d rest => exact (hslash d rest rfl rfl).elim
    · obtain ⟨j, hj, hle, hleft⟩ := ih (dropBytes_next h)
      rw [skip_char calm_atQuotes h (fun _ => hstop) fun _ => hc]
      exact ⟨j, hj, Nat.le_of_add_right_le hle, hleft⟩
  | case4 =>
    have hend := length_of_end h
    exact ⟨i, skip_end (Nat.le_of_eq hend), Nat.le_refl i, leaves_nil (by omega)⟩

def insideQuotes (quote b : Char) : Bool := b != quote && b != '\n'

theorem skip_quote (hquote : quote.toNat < 128) (h : dropBytes i text = some s) :
    ∃ j, skip (bytesOf text) (leavesClass (insideQuotes quote) (bytesOf text)) true i = some j ∧
      i ≤ j ∧ Leaves text (j + 1) (afterQuote quote s) := by
  have hlarge : ∀ c, 128 ≤ c.toNat → insideQuotes quote c = true := by
    intro c hc
    have hne : c ≠ quote := by rintro rfl; omega
    have hline : c ≠ '\n' := by rintro rfl; exact absurd hc (by decide)
    simp [insideQuotes, hne, hline]
  have hcalm : Calm (bytesOf text) (leavesClass (insideQuotes quote) (bytesOf text)) :=
    calm_leavesClass hlarge
  have hstop : ∀ {i c s}, dropBytes i text = some (c :: s) → c.toNat < 128 →
      ¬(c == quote || c == '\n') = true →
      leavesClass (insideQuotes quote) (bytesOf text) i = some false := by
    intro i c s h hc hopen
    rw [leavesClass_eq h hc]
    simpa [insideQuotes] using hopen
  fun_induction afterQuote quote s generalizing i with
  | case1 =>
    have hend := length_of_end h
    exact ⟨i, skip_end (Nat.le_of_eq hend), Nat.le_refl i, leaves_nil (by omega)⟩
  | case2 c rest hclose =>
    have hinside : insideQuotes quote c = false := by
      simpa [insideQuotes, Decidable.or_iff_not_imp_left] using hclose
    have hc : c.toNat < 128 := Nat.lt_of_not_le fun hc => by simp [hlarge c hc] at hinside
    have hnext : dropBytes (i + 1) text = some rest := utf8Size_of_small hc ▸ dropBytes_next h
    refine ⟨i, skip_stop (lt_length h) ?_, Nat.le_refl i, .inl hnext⟩
    rw [leavesClass_eq h hc, hinside]
    rfl
  | case3 c hopen hslash d rest ih =>
    obtain rfl := beq_iff_eq.1 hslash
    have hd : dropBytes (i + 1) text = some (d :: rest) := dropBytes_next h
    obtain ⟨j, hj, hle, hleft⟩ := ih (dropBytes_next hd)
    rw [skip_escaped hcalm h (hstop h (by decide) hopen)]
    exact ⟨j, hj, by omega, hleft⟩
  | case4 c hopen hslash =>
    obtain rfl := beq_iff_eq.1 hslash
    have hend : (bytesOf text).length = i + 1 := length_of_end (dropBytes_next h)
    exact ⟨i + 2, skip_last h (hstop h (by decide) hopen), Nat.le_add_right i 2,
      leaves_nil (by omega)⟩
  | case5 c rest hopen hslash ih =>
    obtain ⟨j, hj, hle, hleft⟩ := ih (dropBytes_next h)
    rw [skip_char hcalm h (fun hc => hstop h hc hopen) fun _ => by simpa using hslash]
    exact ⟨j, hj, Nat.le_of_add_right_le hle, hleft⟩

end Leaves

def slice? (text : List Char) (i j : Nat) : Option (List Char) := do
  let s ← dropBytes i text
  let rest ← dropBytes j text
  if i ≤ j then some (s.take (s.length - rest.length)) else none

/-- Both positions stand between characters, and the word between them. -/
def Between (text : List Char) (i j : Nat) (word : List Char) : Prop :=
  ∃ rest, dropBytes i text = some (word ++ rest) ∧ dropBytes j text = some rest

/-- The marks of the turn that begins at a position, and the position after it. -/
def turnAt? (text : List Char) (i : Nat) : Option (List Mark × Nat) := do
  let bytes := bytesOf text
  let b ← bytes[i]?
  if b == '/' && bytes[i + 1]? == some '/' then
    let j ← skip bytes (leavesClass (· != '\n') bytes) false i
    return ([], j)
  if b == '/' && bytes[i + 1]? == some '*' then
    let j ← skip bytes (closesComment bytes) false (i + 2)
    return ([], j + 2)
  if b == '"' && (← atQuotes bytes i) then
    let j ← skip bytes (atQuotes bytes) true (i + 3)
    return ([], j + 3)
  if b == '"' || b == '\'' then
    let j ← skip bytes (leavesClass (insideQuotes b) bytes) true (i + 1)
    return ([.other], j + 1)
  if isNameStart b then
    let j ← skip bytes (leavesClass isNamePart bytes) false i
    let word ← slice? text i j
    return ([.word (String.ofList word)], j)
  if isAsciiBlank b then return ([], i + 1)
  return ([markOf b], i + 1)

variable {text s : List Char} {c : Char} {i : Nat}

theorem isNameStart_of_large (hc : 128 ≤ c.toNat) : isNameStart c = true := by
  simp [isNameStart, hc]

theorem isNamePart_of_large (hc : 128 ≤ c.toNat) : isNamePart c = true :=
  isNamePart_of_isNameStart (isNameStart_of_large hc)

theorem lt_of_suffix {t : List Char} {j : Nat} (h : dropBytes i text = some (c :: s))
    (ht : dropBytes j text = some t) (hsuffix : t <:+ s) : i < j := by
  obtain ⟨front, rfl⟩ := hsuffix
  have hlength := (dropBytes_length h).symm.trans (dropBytes_length ht)
  rw [byteLength_cons, byteLength_append] at hlength
  have := c.utf8Size_pos
  omega

theorem slice?_eq {word : List Char} {j : Nat} (h : Between text i j word) (hle : i ≤ j) :
    slice? text i j = some word := by
  obtain ⟨rest, hi, hj⟩ := h
  simp [slice?, hi, hj, hle]

/-- The turn at a position has no fault. It gives `marks` and ends at a later position, where `rest`
is left; a word is the text in between, and there is some. -/
structure TakesTurn (text : List Char) (i j : Nat) (marks : List Mark) (rest : List Char) :
    Prop where
  turn : turnAt? text i = some (marks, j)
  advances : i < j
  leaves : Leaves text j rest
  word : ∀ w, .word w ∈ marks → w ≠ "" ∧ Between text i j w.toList

theorem turnAt?_line (h : dropBytes i text = some ('/' :: '/' :: s)) :
    ∃ j, TakesTurn text i j [] (s.dropWhile (· != '\n')) := by
  have hnext : dropBytes (i + 1) text = some ('/' :: s) := dropBytes_next h
  have hlarge : ∀ c : Char, 128 ≤ c.toNat → (c != '\n') = true := by
    intro c hc
    rw [bne_iff_ne]
    rintro rfl
    exact absurd hc (by decide)
  obtain ⟨j, hj, hleft⟩ := skip_class hlarge h
  have hsuffix : s.dropWhile (· != '\n') <:+ '/' :: s :=
    (List.dropWhile_suffix _).trans (List.suffix_cons '/' s)
  refine ⟨j, ?_, lt_of_suffix h hleft hsuffix, .inl hleft, nofun⟩
  simp [turnAt?, byte_small h (by decide), byte_small hnext (by decide), hj]

theorem turnAt?_comment (h : dropBytes i text = some ('/' :: '*' :: s)) :
    ∃ j, TakesTurn text i j [] (afterComment s) := by
  have hnext : dropBytes (i + 1) text = some ('*' :: s) := dropBytes_next h
  have hinside : dropBytes (i + 2) text = some s := dropBytes_next hnext
  obtain ⟨j, hj, hle, hleft⟩ := skip_comment hinside
  refine ⟨j + 2, ?_, by omega, hleft, nofun⟩
  simp [turnAt?, byte_small h (by decide), byte_small hnext (by decide), hj]

theorem turnAt?_block (h : dropBytes i text = some ('"' :: '"' :: '"' :: s)) :
    ∃ j, TakesTurn text i j [] (afterBlock s) := by
  have hnext : dropBytes (i + 1) text = some ('"' :: '"' :: s) := dropBytes_next h
  have hlast : dropBytes (i + 2) text = some ('"' :: s) := dropBytes_next hnext
  have hinside : dropBytes (i + 3) text = some s := dropBytes_next hlast
  obtain ⟨j, hj, hle, hleft⟩ := skip_block hinside
  refine ⟨j + 3, ?_, by omega, hleft, nofun⟩
  simp [turnAt?, byte_small h (by decide), atQuotes_eq h, hj]

theorem bytes_eq_iff {b q r : Char} (h : dropBytes i text = some (c :: s)) (hkin : Kin b c)
    (hq : q.toNat < 128) (hr : r.toNat < 128) :
    (b == q && (bytesOf text)[i + 1]? == some r) = true ↔ ∃ more, c :: s = q :: r :: more := by
  rw [Bool.and_eq_true, beq_iff_eq, beq_iff_eq, hkin.eq_iff hq]
  constructor
  · rintro ⟨rfl, hnext⟩
    have hs : dropBytes (i + 1) text = some s := utf8Size_of_small hq ▸ dropBytes_next h
    obtain ⟨more, rfl⟩ := List.head?_eq_some_iff.1 ((byte_eq_iff hs hr).1 hnext)
    exact ⟨more, rfl⟩
  · rintro ⟨more, heq⟩
    obtain ⟨rfl, rfl⟩ := List.cons.inj heq
    have hs : dropBytes (i + 1) text = some (r :: more) := utf8Size_of_small hq ▸ dropBytes_next h
    exact ⟨rfl, byte_small hs hr⟩

theorem turnAt?_plain {b : Char} (h : dropBytes i text = some (c :: s))
    (hb : (bytesOf text)[i]? = some b) (hkin : Kin b c) (hcomment : ¬StartsComment (c :: s))
    (hblock : ¬∃ more, c :: s = '"' :: '"' :: '"' :: more) :
    turnAt? text i =
      if b == '"' || b == '\'' then do
        let j ← skip (bytesOf text) (leavesClass (insideQuotes b) (bytesOf text)) true (i + 1)
        return ([.other], j + 1)
      else if isNameStart b then do
        let j ← skip (bytesOf text) (leavesClass isNamePart (bytesOf text)) false i
        let word ← slice? text i j
        return ([.word (String.ofList word)], j)
      else if isAsciiBlank b then some ([], i + 1) else some ([markOf b], i + 1) := by
  have hline : ¬(b == '/' && (bytesOf text)[i + 1]? == some '/') = true := by
    rw [bytes_eq_iff h hkin (by decide) (by decide)]
    exact fun ⟨more, hmore⟩ => hcomment ⟨more, .inl hmore⟩
  have hstar : ¬(b == '/' && (bytesOf text)[i + 1]? == some '*') = true := by
    rw [bytes_eq_iff h hkin (by decide) (by decide)]
    exact fun ⟨more, hmore⟩ => hcomment ⟨more, .inr hmore⟩
  have hquotes : ['"', '"', '"'].isPrefixOf (c :: s) = false := by
    rw [Bool.eq_false_iff, ne_eq, List.isPrefixOf_iff_prefix]
    exact fun ⟨more, hmore⟩ => hblock ⟨more, hmore.symm⟩
  unfold turnAt?
  simp only [hb, atQuotes_eq h, hquotes, Bool.and_false, Option.bind_eq_bind, Option.bind_some,
    if_neg hline, if_neg hstar]
  rfl

theorem turnAt?_quote {quote : Char} (h : dropBytes i text = some (quote :: s))
    (hquote : quote = '"' ∨ quote = '\'')
    (hblock : ¬∃ more, quote :: s = '"' :: '"' :: '"' :: more) :
    ∃ j, TakesTurn text i j [.other] (afterQuote quote s) := by
  have hsmall : quote.toNat < 128 := by rcases hquote with rfl | rfl <;> decide
  have hcomment : ¬StartsComment (quote :: s) := by
    rintro ⟨more, hmore | hmore⟩ <;>
      (rw [(List.cons.inj hmore).1] at hquote; revert hquote; decide)
  have hinside : dropBytes (i + 1) text = some s := utf8Size_of_small hsmall ▸ dropBytes_next h
  obtain ⟨j, hj, hle, hleft⟩ := skip_quote hsmall hinside
  refine ⟨j + 1, ?_, by omega, hleft, by simp⟩
  rw [turnAt?_plain h (byte_small h hsmall) (.inl rfl) hcomment hblock,
    if_pos (by simpa using hquote), hj]
  rfl

theorem turnAt?_word (h : dropBytes i text = some (c :: s)) (hc : isNameStart c = true) :
    ∃ j, TakesTurn text i j [.word (String.ofList (c :: s.takeWhile isNamePart))]
      (s.dropWhile isNamePart) := by
  have hslash : c ≠ '/' := ne_of_isNameStart hc (by decide)
  have hdouble : c ≠ '"' := ne_of_isNameStart hc (by decide)
  have hsingle : c ≠ '\'' := ne_of_isNameStart hc (by decide)
  have hcomment : ¬StartsComment (c :: s) := by
    rintro ⟨more, hmore | hmore⟩ <;> exact hslash (List.cons.inj hmore).1
  have hblock : ¬∃ more, c :: s = '"' :: '"' :: '"' :: more :=
    fun ⟨more, hmore⟩ => hdouble (List.cons.inj hmore).1
  obtain ⟨b, hb, hkin⟩ := byte_first h
  have hstart : isNameStart b = true := by
    rcases hkin with rfl | ⟨hlarge, -⟩
    · exact hc
    · exact isNameStart_of_large hlarge
  have hquote : ¬(b == '"' || b == '\'') = true := by
    simp [hkin.eq_iff, hdouble, hsingle]
  obtain ⟨j, hj, hleft⟩ := skip_class (fun _ => isNamePart_of_large) h
  have hpart := isNamePart_of_isNameStart hc
  rw [List.dropWhile_cons_of_pos hpart] at hleft
  have hlt : i < j := lt_of_suffix h hleft (List.dropWhile_suffix _)
  have hword : Between text i j (c :: s.takeWhile isNamePart) :=
    ⟨_, by rw [List.cons_append, List.takeWhile_append_dropWhile, h], hleft⟩
  refine ⟨j, ?_, hlt, .inl hleft, by simp [hword]⟩
  rw [turnAt?_plain h hb hkin hcomment hblock, if_neg hquote, if_pos hstart, hj]
  simp only [Option.bind_eq_bind, Option.bind_some, slice?_eq hword (Nat.le_of_lt hlt)]
  rfl

theorem markOf_ne_word (c : Char) (w : String) : markOf c ≠ .word w := by
  unfold markOf
  split <;> nofun

theorem turnAt?_single (h : dropBytes i text = some (c :: s)) (hquote : ¬(c = '"' ∨ c = '\''))
    (hc : isNameStart c = false) (hcomment : ¬StartsComment (c :: s)) :
    ∃ j, TakesTurn text i j (if isAsciiBlank c then [] else [markOf c]) s := by
  have hsmall : c.toNat < 128 := Nat.lt_of_not_le fun hlarge => by
    simp [isNameStart_of_large hlarge] at hc
  have hblock : ¬∃ more, c :: s = '"' :: '"' :: '"' :: more :=
    fun ⟨more, hmore⟩ => hquote (.inl (List.cons.inj hmore).1)
  have hnext : dropBytes (i + 1) text = some s := utf8Size_of_small hsmall ▸ dropBytes_next h
  have hword : ∀ w, .word w ∉ if isAsciiBlank c then [] else [markOf c] := by
    intro w hw
    split at hw
    · cases hw
    · exact markOf_ne_word c w (List.mem_singleton.1 hw).symm
  refine ⟨i + 1, ?_, Nat.lt_succ_self i, .inl hnext, fun w hw => absurd hw (hword w)⟩
  rw [turnAt?_plain h (byte_small h hsmall) (.inl rfl) hcomment hblock,
    if_neg (by simpa using hquote), if_neg (by simp [hc])]
  split <;> rfl

/-- A turn at a position before a character is the turn on characters, and it ends where the text
is left. -/
theorem turnAt?_eq (h : dropBytes i text = some (c :: s)) :
    ∃ j, TakesTurn text i j (turn (c :: s)).1 (turn (c :: s)).2 := by
  generalize heq : c :: s = t at h
  have hplain : ∀ d rest, (∀ more, d = '/' → rest = '/' :: more → False) →
      (∀ more, d = '/' → rest = '*' :: more → False) → ¬StartsComment (d :: rest) := by
    rintro d rest hline hcomment ⟨more, hmore | hmore⟩
    · exact hline more (List.cons.inj hmore).1 (List.cons.inj hmore).2
    · exact hcomment more (List.cons.inj hmore).1 (List.cons.inj hmore).2
  fun_cases turn t with
  | case1 rest => exact turnAt?_line h
  | case2 rest => exact turnAt?_comment h
  | case3 rest => exact turnAt?_block h
  | case4 d rest hline hcomment hblock hquote =>
    refine turnAt?_quote h (by simpa using hquote) ?_
    rintro ⟨more, hmore⟩
    exact hblock more (List.cons.inj hmore).1 (List.cons.inj hmore).2
  | case5 d rest hline hcomment hblock hquote hstart => exact turnAt?_word h hstart
  | case6 d rest hline hcomment hblock hquote hstart hblank =>
    have hturn := turnAt?_single h (by simpa using hquote) (by simpa using hstart)
      (hplain d rest hline hcomment)
    rwa [if_pos hblank] at hturn
  | case7 d rest hline hcomment hblock hquote hstart hblank =>
    have hturn := turnAt?_single h (by simpa using hquote) (by simpa using hstart)
      (hplain d rest hline hcomment)
    rwa [if_neg hblank] at hturn
  | case8 => cases heq

/-- A backslash takes the position into the middle of the last character and then, of six bytes, to
seven. -/
example : turnAt? ['é', '"', '\\', 'é'] 2 = some ([.other], 7) := by cbv

/-- The scan by bytes: a position and the marks so far. -/
def scanner (text : List Char) : Loop (Nat × List Mark) where
  goesOn s := s.1 < (bytesOf text).length
  turn? s := (turnAt? text s.1).map fun (marks, j) => (j, s.2 ++ marks)

/-- The marks so far are those of the text before the position. -/
def Scanned (text : List Char) (s : Nat × List Mark) : Prop :=
  ∃ rest, Leaves text s.1 rest ∧ s.2 ++ marks rest = marks text

theorem scanned_start (text : List Char) : Scanned text (0, []) :=
  ⟨text, .inl (by rw [dropBytes]), rfl⟩

theorem Leaves.exists_cons {rest : List Char} (h : Leaves text i rest)
    (hi : i < (bytesOf text).length) : ∃ c s, rest = c :: s ∧ dropBytes i text = some (c :: s) := by
  rcases h with h | ⟨-, hend⟩
  · cases rest with
    | nil => exact absurd (length_of_end h) (by omega)
    | cons c s => exact ⟨c, s, rfl, h⟩
  · omega

theorem Scanned.position {s : Nat × List Mark} (h : Scanned text s) :
    (bytesOf text).length < s.1 ∨ (dropBytes s.1 text).isSome := by
  obtain ⟨rest, hdrop | ⟨-, hend⟩, -⟩ := h
  · exact .inr (hdrop ▸ rfl)
  · exact .inl hend

theorem Scanned.found_eq {s : Nat × List Mark} (h : Scanned text s)
    (hi : ¬s.1 < (bytesOf text).length) : s.2 = marks text := by
  obtain ⟨rest, hleaves, hmarks⟩ := h
  have hrest : rest = [] := by
    rcases hleaves with hdrop | ⟨hnil, -⟩
    · have hlength := dropBytes_length hdrop
      exact eq_nil_of_byteLength_le (by omega)
    · exact hnil
  rw [← hmarks, hrest, marks_nil, List.append_nil]

theorem Scanned.takesTurn {s : Nat × List Mark} (h : Scanned text s)
    (hi : s.1 < (bytesOf text).length) :
    ∃ j marks rest, TakesTurn text s.1 j marks rest ∧ Scanned text (j, s.2 ++ marks) := by
  obtain ⟨rest, hleaves, hmarks⟩ := h
  obtain ⟨c, t, rfl, hdrop⟩ := hleaves.exists_cons hi
  obtain ⟨j, hturn⟩ := turnAt?_eq hdrop
  refine ⟨j, _, _, hturn, _, hturn.leaves, ?_⟩
  rw [List.append_assoc, ← marks_eq_turn, hmarks]

theorem scanner_spends (text : List Char) :
    (scanner text).Spends (Scanned text) fun s => (bytesOf text).length - s.1 := by
  intro s hs hgo
  have hi : s.1 < (bytesOf text).length := of_decide_eq_true hgo
  obtain ⟨j, marks, rest, hturn, hscanned⟩ := hs.takesTurn hi
  refine ⟨(j, s.2 ++ marks), ?_, hscanned, ?_⟩
  · simp only [scanner, hturn.turn, Option.map_some]
  · have := hturn.advances
    simp only
    omega

end AnnotationIndex.Java
