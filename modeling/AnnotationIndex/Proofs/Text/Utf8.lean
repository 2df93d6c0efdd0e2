import AnnotationIndex.Text.Utf8
import Mathlib.Algebra.Group.Nat.Defs

/-!
# Text and its bytes

The bytes of a text are read as that text again. A character of one byte is that byte; the first of
several bytes tells the range of the second, which leaves exactly the codes of characters that need
so many bytes.
-/

namespace AnnotationIndex.Text

theorem utf8Bytes_eq (s : String) : utf8Bytes s = s.toList.flatMap String.utf8EncodeChar := by
  have hbytes : s.toByteArray = (s.toList.flatMap String.utf8EncodeChar).toByteArray := by
    conv => lhs; rw [← String.ofList_toList (s := s)]
    rfl
  rw [utf8Bytes, String.toUTF8_eq_toByteArray, hbytes, List.toList_data_toByteArray]

private theorem toNat_byte {n : Nat} (h : n < 256) : (UInt8.ofNat n).toNat = n := by
  rw [UInt8.toNat_ofNat']
  exact Nat.mod_eq_of_lt h

theorem following_continued {low high : UInt8} {x : Nat} (hx : x < 64)
    (hlow : low.toNat ≤ x + 128) (hhigh : x + 128 ≤ high.toNat) (n code : Nat)
    (rest : List UInt8) :
    following low high (n + 1) code (UInt8.ofNat (x + 128) :: rest) =
      following 0x80 0xBF n (code * 64 + x) rest := by
  have hbyte : (UInt8.ofNat (x + 128)).toNat = x + 128 := toNat_byte (by omega)
  have hrange : (low ≤ UInt8.ofNat (x + 128) && UInt8.ofNat (x + 128) ≤ high) = true := by
    simp only [UInt8.le_iff_toNat_le, hbyte, hlow, hhigh, decide_true, Bool.and_true]
  rw [following, if_pos hrange, hbyte, Nat.add_sub_cancel]

deriving instance DecidableEq for Lead

theorem lead?_two : ∀ bits < 32, 2 ≤ bits →
    lead? (UInt8.ofNat (bits + 192)) = some ⟨bits, 0x80, 0xBF, 1⟩ := by
  decide

theorem lead?_three : ∀ bits < 16, lead? (UInt8.ofNat (bits + 224)) =
    some ⟨bits, if bits = 0 then 0xA0 else 0x80, if bits = 13 then 0x9F else 0xBF, 2⟩ := by
  decide

theorem lead?_four : ∀ bits < 5, lead? (UInt8.ofNat (bits + 240)) =
    some ⟨bits, if bits = 0 then 0x90 else 0x80, if bits = 4 then 0x8F else 0xBF, 3⟩ := by
  decide

theorem firstChar_lead {b : UInt8} {l : Lead} (hb : ¬b < 0x80) (hlead : lead? b = some l)
    {bytes rest : List UInt8} {code : Nat}
    (h : following l.low l.high l.following l.bits bytes = (some code, rest)) :
    firstChar b bytes = (some (Char.ofNat code), rest) := by
  rw [firstChar, if_neg hb, hlead]
  simp only [h, Option.map_some]

theorem not_lt_of_lead {n : Nat} (hlow : 128 ≤ n) (hhigh : n < 256) : ¬UInt8.ofNat n < 0x80 := by
  have hbyte := toNat_byte hhigh
  rw [UInt8.lt_iff_toNat_lt, hbyte]
  exact Nat.not_lt.2 hlow

section Codes

variable {v : Nat} (rest : List UInt8)

theorem firstChar_one (h : v ≤ 0x7F) :
    firstChar (UInt8.ofNat v) rest = (some (Char.ofNat v), rest) := by
  have hbyte : (UInt8.ofNat v).toNat = v := toNat_byte (by omega)
  have hascii : UInt8.ofNat v < 0x80 := by
    rw [UInt8.lt_iff_toNat_lt, hbyte]
    exact Nat.lt_succ_of_le h
  rw [firstChar, if_pos hascii, hbyte]

theorem firstChar_two (hlow : ¬v ≤ 0x7F) (hhigh : v ≤ 0x7FF) :
    firstChar (UInt8.ofNat (v / 64 % 32 + 192)) (UInt8.ofNat (v % 64 + 128) :: rest) =
      (some (Char.ofNat v), rest) := by
  have hlead := lead?_two (v / 64 % 32) (by omega) (by omega)
  have hcode : v / 64 % 32 * 64 + v % 64 = v := by omega
  refine firstChar_lead (not_lt_of_lead (by omega) (by omega)) hlead ?_
  rw [following_continued (by omega) (by simp) (by simp; omega), hcode]
  rfl

/-- The second of three bytes rules out shorter spellings and surrogates. -/
theorem firstChar_three (hlow : ¬v ≤ 0x7FF) (hhigh : v ≤ 0xFFFF)
    (hvalid : v < 0xD800 ∨ 0xDFFF < v) :
    firstChar (UInt8.ofNat (v / 4096 % 16 + 224))
        (UInt8.ofNat (v / 64 % 64 + 128) :: UInt8.ofNat (v % 64 + 128) :: rest) =
      (some (Char.ofNat v), rest) := by
  have hlead := lead?_three (v / 4096 % 16) (by omega)
  have hcode : (v / 4096 % 16 * 64 + v / 64 % 64) * 64 + v % 64 = v := by omega
  have hfirst : (if v / 4096 % 16 = 0 then (0xA0 : UInt8) else 0x80).toNat ≤
      v / 64 % 64 + 128 := by
    split
    · simp only [UInt8.reduceToNat]
      omega
    · simp
  have hlast : v / 64 % 64 + 128 ≤
      (if v / 4096 % 16 = 13 then (0x9F : UInt8) else 0xBF).toNat := by
    split
    · simp only [UInt8.reduceToNat]
      omega
    · simp only [UInt8.reduceToNat]
      omega
  refine firstChar_lead (not_lt_of_lead (by omega) (by omega)) hlead ?_
  rw [following_continued (by omega) hfirst hlast,
    following_continued (by omega) (by simp) (by simp; omega), hcode]
  rfl

/-- The second of four bytes rules out shorter spellings and codes that are too large. -/
theorem firstChar_four (hlow : ¬v ≤ 0xFFFF) (hhigh : v < 0x110000) :
    firstChar (UInt8.ofNat (v / 262144 % 8 + 240))
        (UInt8.ofNat (v / 4096 % 64 + 128) :: UInt8.ofNat (v / 64 % 64 + 128) ::
          UInt8.ofNat (v % 64 + 128) :: rest) =
      (some (Char.ofNat v), rest) := by
  have hlead := lead?_four (v / 262144 % 8) (by omega)
  have hcode : ((v / 262144 % 8 * 64 + v / 4096 % 64) * 64 + v / 64 % 64) * 64 + v % 64 = v := by
    omega
  have hfirst : (if v / 262144 % 8 = 0 then (0x90 : UInt8) else 0x80).toNat ≤
      v / 4096 % 64 + 128 := by
    split
    · simp only [UInt8.reduceToNat]
      omega
    · simp
  have hlast : v / 4096 % 64 + 128 ≤
      (if v / 262144 % 8 = 4 then (0x8F : UInt8) else 0xBF).toNat := by
    split
    · simp only [UInt8.reduceToNat]
      omega
    · simp only [UInt8.reduceToNat]
      omega
  refine firstChar_lead (not_lt_of_lead (by omega) (by omega)) hlead ?_
  rw [following_continued (by omega) hfirst hlast,
    following_continued (by omega) (by simp) (by simp; omega),
    following_continued (by omega) (by simp) (by simp; omega), hcode]
  rfl

end Codes

theorem firstChar_encode (c : Char) (rest : List UInt8) : ∃ b bytes,
    String.utf8EncodeChar c = b :: bytes ∧ firstChar b (bytes ++ rest) = (some c, rest) := by
  have hvalid : c.val.toNat < 0xD800 ∨ 0xDFFF < c.val.toNat ∧ c.val.toNat < 0x110000 := c.valid
  have hchar : Char.ofNat c.val.toNat = c := Char.ofNat_toNat c
  unfold String.utf8EncodeChar
  generalize c.val.toNat = v at hvalid hchar
  rw [← hchar]
  simp only
  split
  · rename_i hone
    exact ⟨_, _, rfl, firstChar_one rest hone⟩
  · split
    · rename_i hone htwo
      exact ⟨_, _, rfl, firstChar_two rest hone htwo⟩
    · split
      · rename_i htwo hthree
        exact ⟨_, _, rfl, firstChar_three rest htwo hthree (hvalid.imp_right (·.1))⟩
      · rename_i hthree
        exact ⟨_, _, rfl, firstChar_four rest hthree (by omega)⟩

theorem charsOf_encode (cs : List Char) :
    charsOf (cs.flatMap String.utf8EncodeChar) = cs.map some := by
  induction cs with
  | nil => rw [List.flatMap_nil, charsOf, List.map_nil]
  | cons c cs ih =>
    obtain ⟨b, bytes, hbytes, hfirst⟩ := firstChar_encode c (cs.flatMap String.utf8EncodeChar)
    rw [List.flatMap_cons, hbytes, List.cons_append, charsOf, hfirst, ih, List.map_cons]

theorem strictText?_utf8Bytes (s : String) : strictText? (utf8Bytes s) = some s := by
  have hall : ∀ cs : List Char, (cs.map some).mapM id = some cs := by
    intro cs
    induction cs with
    | nil => rfl
    | cons c cs ih => simp [ih]
  rw [strictText?, utf8Bytes_eq, charsOf_encode, hall, Option.map_some, String.ofList_toList]

theorem lossyText_utf8Bytes (s : String) : lossyText (utf8Bytes s) = s := by
  have hid : (fun c : Option Char => c.getD '\ufffd') ∘ some = id := rfl
  rw [lossyText, utf8Bytes_eq, charsOf_encode, List.map_map, hid, List.map_id,
    String.ofList_toList]

end AnnotationIndex.Text
