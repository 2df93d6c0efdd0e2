import AnnotationIndex.Proofs.Java.CanonicalValues
import AnnotationIndex.Proofs.Java.IntegerTokens

/-!
# Decimal integer literals

Every number of 64 bits but the lowest has its decimal literals, with any underscores between the
digits, with or without a suffix and in any parentheses; a minus sign stands before them where the
number is negative. The lowest number has none: its digits are read before its sign, and as a number
without sign they are too large.
-/

namespace AnnotationIndex.Java

open Text
open Syntax
open Terminal Phrase
open Canonical

/-- The digits of a number with underscores between them. -/
structure SpellsDigits (n : Nat) (s : List Char) : Prop where
  digits : s.filter (· != '_') = Nat.toDigits 10 n
  first : s.head? ≠ some '_'
  last : s.getLast? ≠ some '_'

inductive InParentheses (t : Tree) : Tree → Prop
  | bare : InParentheses t t
  | enclosed {u : Tree} (left right : Token) (h : InParentheses t u) :
      InParentheses t (.node parenthesized [.leaf leftParen left, u, .leaf rightParen right])

/-- The tree of a decimal literal of a number, whose digits and suffix are the text. -/
inductive IntegerTree (v : Int64) (text : List Char) : Tree → Prop
  | positive {t : Tree} (hv : ¬ v < 0) (gap : String)
      (h : InParentheses (.leaf integer ⟨gap, .integer, String.ofList text⟩) t) :
      IntegerTree v text t
  | negative {t u : Tree} (hv : v < 0) (gap : String) (sign : Token)
      (h : InParentheses (.leaf integer ⟨gap, .integer, String.ofList text⟩) t)
      (hu : InParentheses (.node unary [.leaf minus sign, t]) u) : IntegerTree v text u

theorem InParentheses.value?_eq {t u : Tree} (h : InParentheses t u) {w : Written}
    (ht : value? t = some w) : value? u = some w := by
  induction h with
  | bare => exact ht
  | enclosed left right _ ih => simp [value?, values, tokenValue?, ih]

theorem value?_unary {operand : Tree} {w : Written} (h : value? operand = some w) (sign : Token) :
    value? (.node unary [.leaf minus sign, operand]) =
      some (.negation w (sourceText (sign :: Grammar.Tree.tokensOfParts [] [operand]))) := by
  rw [value?, values, h]
  rfl

theorem SpellsDigits.plain {n : Nat} {s : List Char} (h : SpellsDigits n s) {suffix : List Char}
    (hsuffix : suffix ∈ [[], ['l'], ['L']]) : plainText (s ++ suffix) = Nat.toDigits 10 n := by
  have hend : ∀ c, s.getLast? = some c → (c == 'l' || c == 'L') = false := by
    intro c hc
    have hne : c ≠ '_' := fun heq => h.last (heq ▸ hc)
    have hmem : c ∈ s.filter (· != '_') :=
      List.mem_filter.2 ⟨List.mem_of_getLast? hc, by simpa using hne⟩
    exact (plain_digit (Json.toDigits_isDigit n c (h.digits ▸ hmem))).1
  rw [plainText, dropEndWhile_suffix hsuffix hend, h.digits, map_toLower_digits (Json.toDigits_isDigit n)]

theorem SpellsDigits.value?_eq {v : Int64} {s suffix : List Char}
    (h : SpellsDigits v.toInt.natAbs s) (hsuffix : suffix ∈ [[], ['l'], ['L']])
    (resolve : String → String) :
    (Written.integer (String.ofList (s ++ suffix))).value? resolve =
      some (if v = Int64.minValue then .expression (String.ofList (s ++ suffix))
        else .integer (if v < 0 then -v else v)) := by
  rw [Written.value?, String.toList_ofList, integerValue?_eq (h.plain hsuffix)]
  by_cases hmin : v = Int64.minValue
  · subst hmin
    rfl
  · obtain ⟨hsmall, habs⟩ := ofInt_natAbs hmin
    rw [if_pos hsmall, if_neg hmin, habs]

/-- A decimal literal is read as its number, except that the lowest number stays an expression. -/
theorem integerLiteral_value {v : Int64} {s suffix : List Char} (h : SpellsDigits v.toInt.natAbs s)
    (hsuffix : suffix ∈ [[], ['l'], ['L']]) {t : Tree} (ht : IntegerTree v (s ++ suffix) t)
    (resolve : String → String) :
    (v ≠ Int64.minValue → (value? t).bind (Written.value? resolve) = some (.integer v)) ∧
      (v = Int64.minValue →
        ∃ text, (value? t).bind (Written.value? resolve) = some (.expression text)) := by
  have hvalue := h.value?_eq hsuffix resolve
  cases ht with
  | positive hv gap ht =>
    rw [ht.value?_eq rfl, Option.bind_some, hvalue, if_neg hv]
    refine ⟨fun hne => by rw [if_neg hne], fun hmin => absurd ?_ hv⟩
    rw [hmin]
    decide
  | @negative operand _ hv gap sign ht hu =>
    have hneg := value?_unary (ht.value?_eq rfl) sign
    rw [hu.value?_eq hneg, Option.bind_some, Written.value?, hvalue, if_pos hv]
    refine ⟨fun hne => ?_, fun hmin => ?_⟩
    · rw [if_neg hne, Option.map_some, negated, Int64.neg_neg]
    · rw [if_pos hmin]
      exact ⟨_, rfl⟩

/-- The number after the lowest one, in parentheses and with underscores. -/
theorem integerLiteral_value_second :
    SpellsDigits (-9223372036854775807 : Int64).toInt.natAbs "9_223_372_036_854_775__807".toList ∧
      (value? (.node unary [.leaf minus ⟨"", .symbol, "-"⟩, .node parenthesized [
        .leaf leftParen ⟨"", .symbol, "("⟩,
        .leaf integer ⟨"", .integer, "9_223_372_036_854_775__807L"⟩,
        .leaf rightParen ⟨"", .symbol, ")"⟩]])).bind (Written.value? id) =
        some (.integer (-9223372036854775807)) := by
  have hdigits : SpellsDigits (-9223372036854775807 : Int64).toInt.natAbs
      "9_223_372_036_854_775__807".toList :=
    ⟨by decide +kernel, by decide +kernel, by decide +kernel⟩
  exact ⟨hdigits, (@integerLiteral_value _ _ ['L'] hdigits (by simp) _
    (.negative (by decide) "" _ (.enclosed _ _ .bare) .bare) id).1 (by decide)⟩

/-- The lowest number is not read as a number. -/
theorem integerLiteral_lowest : ¬ ∀ (v : Int64) (s suffix : List Char),
    SpellsDigits v.toInt.natAbs s → suffix ∈ [[], ['l'], ['L']] → ∀ t : Tree,
      IntegerTree v (s ++ suffix) t → ∀ resolve : String → String,
        (value? t).bind (Written.value? resolve) = some (.integer v) := by
  intro hall
  have hdigits : SpellsDigits Int64.minValue.toInt.natAbs "9223372036854775808".toList :=
    ⟨by decide +kernel, by decide +kernel, by decide +kernel⟩
  have hvalue := hall Int64.minValue _ ['L'] hdigits (by simp) _
    (.negative (by decide) "" ⟨"", .symbol, "-"⟩ .bare .bare) id
  have hlong : ['L'] ∈ [[], ['l'], ['L']] := by simp
  have hoperand := hdigits.value?_eq hlong id
  rw [value?_unary rfl, Option.bind_some, Written.value?, hoperand, if_pos rfl] at hvalue
  cases hvalue

end AnnotationIndex.Java
