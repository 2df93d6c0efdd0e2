import AnnotationIndex.Proofs.Java.Canonical
import AnnotationIndex.Proofs.Java.TextBlocks
import AnnotationIndex.Proofs.Json.Number
import AnnotationIndex.Proofs.Text.CharSet

/-!
# What canonical texts stand for

The text of a string, of a number and of a name is read as that string, number and name.
-/

namespace AnnotationIndex.Java

open Text

theorem isWordPart_of_isWordStart {c : Char} (h : isWordStart c = true) : isWordPart c = true := by
  simp only [isWordStart, Bool.or_eq_true, beq_iff_eq] at h
  rcases h with (h | rfl) | rfl
  · simp [isWordPart, isXidContinue_of_isXidStart h]
  · decide
  · decide

theorem isBlank_of_isWordPart {c : Char} (h : isWordPart c = true) : isBlank c = false := by
  simp only [isWordPart, Bool.or_eq_true, beq_iff_eq] at h
  rcases h with (h | rfl) | rfl
  · exact isBlank_of_isXidContinue h
  · decide
  · decide

namespace Canonical

theorem Identifier.isWordPart_letters (i : Identifier) : ∀ c ∈ i.letters, isWordPart c = true :=
  List.forall_mem_cons.2 ⟨isWordPart_of_isWordStart i.starts, i.goesOn⟩

theorem Name.mem_letters {n : Name} {c : Char} (h : c ∈ n.letters) :
    c = '.' ∨ isWordPart c = true := by
  rcases List.mem_append.1 h with h | h
  · exact .inr (n.first.isWordPart_letters c h)
  · obtain ⟨i, -, hc⟩ := List.mem_flatMap.1 h
    exact (List.mem_cons.1 hc).imp_right (i.isWordPart_letters c)

theorem Name.isBlank_letters {n : Name} : ∀ c ∈ n.letters, isBlank c = false := by
  intro c hc
  rcases Name.mem_letters hc with rfl | hc
  · decide
  · exact isBlank_of_isWordPart hc

theorem Name.getLast?_letters {n : Name} {c : Char} (h : n.letters.getLast? = some c) :
    isWordPart c = true := by
  have hends : ∃ (front : List Char) (i : Identifier), n.letters = front ++ i.letters := by
    rcases List.eq_nil_or_concat n.more with hmore | ⟨is, i, hmore⟩
    · exact ⟨[], n.first, by simp [Name.letters, dotted, hmore]⟩
    · exact ⟨n.first.letters ++ dotted is ++ ['.'], i, by simp [Name.letters, dotted, hmore]⟩
  obtain ⟨front, i, hletters⟩ := hends
  have hne : i.letters ≠ [] := List.cons_ne_nil _ _
  rw [hletters, List.getLast?_append, List.getLast?_eq_some_getLast hne] at h
  exact i.isWordPart_letters c (Option.some.inj h ▸ List.getLast_mem _)

theorem collapse_letters (n : Name) : collapse n.letters = n.letters :=
  collapse_of_noBlank Name.isBlank_letters

theorem classLiteralType_letters (n : Name) :
    classLiteralType (n.letters ++ ".class".toList) = n.letters := by
  have hdrop : (dropClassWords (n.letters ++ ".class".toList).reverse).reverse =
      n.letters ++ ['.'] := by
    simp [dropClassWords]
  have hdot : trimEnd (n.letters ++ ['.']) = n.letters ++ ['.'] := by
    apply dropEndWhile_of_last
    simp [isBlank]
  have hname : dropEndWhile (· == '.') n.letters = n.letters := by
    apply dropEndWhile_of_last
    intro c hc
    rw [beq_eq_false_iff_ne]
    rintro rfl
    exact absurd (Name.getLast?_letters hc) (by decide)
  rw [classLiteralType, hdrop, hdot, dropEndWhile_append (by rfl), hname, collapse_letters]

theorem value?_letters (resolve : String → String) (n : Name) :
    (Written.name (String.ofList n.letters)).value? resolve =
      some (.constant (String.ofList n.letters)) := by
  rw [Written.value?]
  change some (Value.constant (String.ofList (collapse (String.ofList n.letters).toList))) = _
  rw [String.toList_ofList, collapse_letters]

theorem value?_classLiteral (resolve : String → String) (n : Name) :
    (Written.classLiteral (String.ofList (n.letters ++ ".class".toList))).value? resolve =
      some (.type (String.ofList n.letters)) := by
  rw [Written.value?]
  change some (Value.type (String.ofList (classLiteralType
    (String.ofList (n.letters ++ ".class".toList)).toList))) = _
  rw [String.toList_ofList, classLiteralType_letters]

theorem resolve_letters (known : String → Bool) (k : Kind) :
    Scope.empty.resolve known (String.ofList k.name.letters) = String.ofList k.name.letters := by
  have hbare : Scope.bare (String.ofList k.name.letters) = String.ofList k.name.letters := by
    rw [Scope.bare, String.toList_ofList, List.filter_eq_self.2]
    intro c hc
    rw [Name.isBlank_letters c hc]
    rfl
  have hlookup : Scope.empty.lookup? known (String.ofList k.name.letters) =
      some (String.ofList k.name.letters) := by
    have hfirst : ∀ c ∈ k.first.letters, (c != '.') = true := by
      intro c hc
      rw [bne_iff_ne]
      rintro rfl
      exact absurd (k.first.isWordPart_letters _ hc) (by decide)
    have hsplit : splitFirst? '.' k.name.letters =
        some (k.first.letters, k.second.letters ++ dotted k.more) := by
      have hletters : k.name.letters =
          k.first.letters ++ '.' :: (k.second.letters ++ dotted k.more) := rfl
      rw [hletters, splitFirst?, List.dropWhile_append_of_pos hfirst,
        List.takeWhile_append_of_pos hfirst]
      simp
    rw [Scope.lookup?, String.toList_ofList, hsplit]
    rfl
  rw [Scope.resolve, hbare, hlookup]
  rfl

theorem digitValue?_hex : ∀ n < 16, digitValue? 16 (Nat.digitChar n) = some n := by decide

theorem unescape_control {c : Char} (h : isControl c = true) (rest : List Char) :
    unescape (['\\', 'u', '0', '0', Nat.digitChar (c.toNat / 16), Nat.digitChar (c.toNat % 16)] ++
      rest) = c :: unescape rest := by
  have hbound : c.toNat < 160 := by
    simp only [isControl, Bool.or_eq_true, Bool.and_eq_true, decide_eq_true_eq] at h
    omega
  have hdigits : AreDigits 16
      ['0', '0', Nat.digitChar (c.toNat / 16), Nat.digitChar (c.toNat % 16)]
      [0, 0, c.toNat / 16, c.toNat % 16] := by
    simp only [AreDigits, List.map_cons, List.map_nil, digitValue?_hex (c.toNat / 16) (by omega),
      digitValue?_hex (c.toNat % 16) (by omega)]
    rfl
  have hcode : Nat.ofDigits 16 [0, 0, c.toNat / 16, c.toNat % 16].reverse = c.toNat := by
    simp [Nat.ofDigits]
    omega
  have hescape := escape_unicode hdigits rfl (by rw [hcode]; exact c.valid) 0 rest
  rw [hcode, Char.ofNat_toNat] at hescape
  change unescape ('\\' :: 'u' :: (List.replicate 0 'u' ++
    ['0', '0', Nat.digitChar (c.toNat / 16), Nat.digitChar (c.toNat % 16)] ++ rest)) = _
  rw [unescape_escape, hescape]
  rfl

theorem unescape_escaped (c : Char) (rest : List Char) :
    unescape (escaped c ++ rest) = c :: unescape rest := by
  have hletter : ∀ e ∈ escapeLetters, unescape ('\\' :: e.1 :: rest) = e.2 :: unescape rest :=
    fun e he => by
      rw [unescape_escape, escape_letter he]
      rfl
  unfold escaped
  split
  case h_8 c hbackslash _ _ _ _ _ _ =>
    split
    · rename_i hcontrol
      exact unescape_control hcontrol rest
    · exact unescape_cons hbackslash rest
  · exact hletter ('\\', '\\') (by simp [escapeLetters])
  · exact hletter ('"', '"') (by simp [escapeLetters])
  · exact hletter ('n', '\n') (by simp [escapeLetters])
  · exact hletter ('t', '\t') (by simp [escapeLetters])
  · exact hletter ('r', '\r') (by simp [escapeLetters])
  · exact hletter ('b', '\x08') (by simp [escapeLetters])
  · exact hletter ('f', '\x0c') (by simp [escapeLetters])

theorem unescape_escapes (text : List Char) : unescape (text.flatMap escaped) = text := by
  induction text with
  | nil => exact unescape_nil
  | cons c text ih => rw [List.flatMap_cons, unescape_escaped, ih]

theorem head?_escaped (c : Char) : ∃ d more, escaped c = d :: more ∧ d ≠ '"' := by
  unfold escaped
  split
  case h_8 c _ hquote _ _ _ _ _ =>
    split
    · exact ⟨_, _, rfl, by decide⟩
    · exact ⟨_, [], rfl, hquote⟩
  all_goals exact ⟨_, _, rfl, by decide⟩

theorem stringValue?_quoted (text : List Char) : stringValue? (quoted text) = some text := by
  have hblock : unwrap? ['"', '"', '"'] (quoted text) = none := by
    rw [unwrap?, if_neg]
    cases text with
    | nil => decide
    | cons c text =>
      obtain ⟨d, more, hescaped, hd⟩ := head?_escaped c
      simp [quoted, hescaped, Ne.symm hd]
  rw [stringValue?, hblock]
  have hunwrap : unwrap? ['"'] (quoted text) = some (text.flatMap escaped) := unwrap?_wrapped ['"'] _
  simp only [hunwrap, Option.getD_some, unescape_escapes]

theorem value?_quoted (resolve : String → String) (text : List Char) :
    (Written.string (String.ofList (quoted text))).value? resolve =
      some (.string (String.ofList text)) := by
  rw [Written.value?, String.toList_ofList, stringValue?_quoted]
  rfl

theorem exists_digitChar {c : Char} (h : c.isDigit = true) : ∃ d < 10, c = Nat.digitChar d := by
  have hrange : 48 ≤ c.toNat ∧ c.toNat ≤ 57 := by
    simpa [Char.isDigit, UInt32.le_iff_toNat_le] using h
  have hcode : ∀ d < 10, Nat.digitChar d = Char.ofNat (48 + d) := by decide
  refine ⟨c.toNat - 48, by omega, ?_⟩
  rw [hcode _ (by omega), Nat.add_sub_cancel' hrange.1, Char.ofNat_toNat]

theorem digitValue?_of_isDigit {c : Char} (h : c.isDigit = true) :
    digitValue? 10 c = some (c.toNat - '0'.toNat) := by
  obtain ⟨d, hd, rfl⟩ := exists_digitChar h
  revert d
  decide

theorem ofDigits?_toDigits (n : Nat) : ofDigits? 10 (Nat.toDigits 10 n) = some n := by
  have hdigits : AreDigits 10 (Nat.toDigits 10 n)
      ((Nat.toDigits 10 n).map fun c => c.toNat - '0'.toNat) := by
    rw [AreDigits, List.map_map, List.map_inj_left]
    exact fun c hc => digitValue?_of_isDigit (Json.toDigits_isDigit n c hc)
  have hempty : (Nat.toDigits 10 n).isEmpty = false := List.isEmpty_eq_false_iff.2 Nat.toDigits_ne_nil
  have hvalue : Nat.ofDigitChars 10 (Nat.toDigits 10 n) 0 = n := Nat.ofDigitChars_ten_toDigits
  rw [ofDigits?, hempty, if_neg Bool.false_ne_true, foldlM_digits hdigits, List.foldl_map]
  conv => rhs; rw [← hvalue]
  simp only [Nat.ofDigitChars, Nat.mul_comm]

theorem plain_digit {c : Char} (h : c.isDigit = true) :
    (c == 'l' || c == 'L') = false ∧ (c != '_') = true ∧ c.toLower = c := by
  obtain ⟨d, hd, rfl⟩ := exists_digitChar h
  revert d
  decide

theorem map_toLower_digits {ds : List Char} (h : ∀ c ∈ ds, c.isDigit = true) :
    ds.map Char.toLower = ds :=
  (List.map_congr_left fun c hc => (plain_digit (h c hc)).2.2).trans (List.map_id ds)

theorem plain_of_digits {ds : List Char} (h : ∀ c ∈ ds, c.isDigit = true) : plainText ds = ds := by
  rw [plainText, dropEndWhile_of_last fun c hc => (plain_digit (h c (List.mem_of_getLast? hc))).1,
    List.filter_eq_self.2 fun c hc => (plain_digit (h c hc)).2.1, map_toLower_digits h]

theorem integerValue?_eq {s : List Char} {n : Nat} (h : plainText s = Nat.toDigits 10 n) :
    integerValue? s = if n < 2 ^ 63 then some (Int64.ofInt n) else none := by
  have hhead := @Json.toDigits_head n
  have hvalue := ofDigits?_toDigits n
  simp only [integerValue?, h]
  generalize Nat.toDigits 10 n = ds at *
  split
  · cases hhead rfl
  · cases hhead rfl
  · cases hhead rfl
  · rw [hvalue]
    rfl

theorem integerValue?_toDigits {n : Nat} (h : n < 2 ^ 63) :
    integerValue? (Nat.toDigits 10 n) = some (Int64.ofInt n) :=
  (integerValue?_eq (plain_of_digits (Json.toDigits_isDigit n))).trans (if_pos h)

theorem ofInt_natAbs {n : Int64} (h : n ≠ Int64.minValue) : n.toInt.natAbs < 2 ^ 63 ∧
    Int64.ofInt n.toInt.natAbs = if n < 0 then -n else n := by
  have hlow := Int64.le_toInt n
  have hhigh := Int64.toInt_lt n
  have hmin : n.toInt ≠ -2 ^ 63 := fun hmin =>
    h (Int64.toInt_inj.1 (hmin.trans Int64.toInt_minValue.symm))
  refine ⟨by omega, ?_⟩
  split
  · rename_i hneg
    rw [Int64.lt_iff_toInt_lt, Int64.toInt_zero] at hneg
    have habs : (n.toInt.natAbs : Int) = -n.toInt := by omega
    rw [habs, Int64.ofInt_neg, Int64.ofInt_toInt]
  · rename_i hpos
    rw [Int64.lt_iff_toInt_lt, Int64.toInt_zero] at hpos
    have habs : (n.toInt.natAbs : Int) = n.toInt := by omega
    rw [habs, Int64.ofInt_toInt]

theorem integerValue?_digits {n : Int64} (h : n ≠ Int64.minValue) :
    integerValue? (digits n) = some (if n < 0 then -n else n) := by
  obtain ⟨hsmall, habs⟩ := ofInt_natAbs h
  rw [digits, integerValue?_toDigits hsmall, habs]

theorem value?_digits (resolve : String → String) {n : Int64} (h : n ≠ Int64.minValue) :
    (Written.integer (String.ofList (digits n))).value? resolve =
      some (.integer (if n < 0 then -n else n)) := by
  rw [Written.value?, String.toList_ofList, integerValue?_digits h]

end Canonical

end AnnotationIndex.Java
