import AnnotationIndex.Java.Syntax.Source
import AnnotationIndex.Proofs.Grammar.Evaluation

/-!
# Evaluating the grammar of source files

The table of the grammar in a form that proofs evaluate, with productions that are found in fewer
steps than by the rules of the grammar.
-/

namespace AnnotationIndex.Java.Syntax

open Terminal Phrase
open Grammar (Table)

theorem numbering_sound : numbering.Sound 8 where
  token_lt := by
    intro t
    cases t <;> decide
  phrase_lt := by
    intro p
    cases p <;> decide
  token_inj t u h := by
    have hof : Terminal.ofNat t.ctorIdx = Terminal.ofNat u.ctorIdx := congrArg Terminal.ofNat h
    rwa [Terminal.ofNat_ctorIdx, Terminal.ofNat_ctorIdx] at hof
  phrase_inj p q h := by
    have hof : Phrase.ofNat p.ctorIdx = Phrase.ofNat q.ctorIdx := congrArg Phrase.ofNat h
    rwa [Phrase.ofNat_ctorIdx, Phrase.ofNat_ctorIdx] at hof
  tokens_le := by decide
  phrases_le := by decide

noncomputable def quickRule (head : Phrase) (parts : List Rule) : List Production :=
  (seq parts).quickProductions numbering head

theorem rule_eq_quick : rule = quickRule :=
  funext fun head => funext fun parts =>
    Grammar.Rule.productions_eq_quick numbering_sound (seq parts) head

/-- All productions but the one for a whole text, evaluated in few steps: those of the grammar, with
each of its rules rewritten. -/
noncomputable def quickProductions : { ps : List Production // productions = ps } := by
  refine ⟨?quick, ?same⟩
  case same =>
    unfold productions sourceRules nameRules typeRules operatorRules expressionRules
      Syntax.switchRules statementRules controlRules moduleRules declarationRules memberRules
    simp only [rule_eq_quick, oneOrMore]
    exact rfl

noncomputable def compactTable : Table Terminal Phrase :=
  .compact numbering 8 wholeTextRule quickProductions

theorem table_eq_compact : table = compactTable := by
  rw [table, Table.ofProductions_eq_compact numbering_sound, quickProductions.2, compactTable]

end AnnotationIndex.Java.Syntax
