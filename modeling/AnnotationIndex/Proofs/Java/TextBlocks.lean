import AnnotationIndex.Proofs.Java.Escapes

/-!
# Line endings in text blocks

A text block may be written with line feeds alone or with a carriage return before each of them. Its
lines are the same, and so is what is left of them without indentation. Only the line feed after the
opening quotes is not known with a carriage return before it: it becomes part of the value.
-/

namespace AnnotationIndex.Java

open Text

theorem unwrap?_wrapped (quote s : List Char) : unwrap? quote (quote ++ s ++ quote) = some s := by
  have hprefix : quote.isPrefixOf (quote ++ s ++ quote) = true := by simp
  have hsuffix : quote.isSuffixOf (s ++ quote) = true := by simp
  rw [unwrap?, if_pos hprefix, List.append_assoc, List.drop_left]
  simp only [if_pos hsuffix, List.length_append, Nat.add_sub_cancel, List.take_left]

theorem stripIndent?_withReturns {body : List Char} (h : '\r' ∉ body) :
    stripIndent? (withReturns body) = stripIndent? body := by
  rw [stripIndent?, stripIndent?, lines_withReturns h, getLast?_withReturns]

theorem stripLine?_nil (indent : Nat) : stripLine? indent [] = some [] := by
  simp [stripLine?, indentOf, byteLength, dropBytes, trimEnd, dropEndWhile]

/-- An empty first line does not count for the indentation, and it stays empty. -/
theorem stripIndent?_newline (body : List Char) :
    stripIndent? ('\n' :: body) = (stripIndent? body).map ('\n' :: ·) := by
  have hindent : commonIndent ([] :: lines body) = commonIndent (lines body) := by
    simp [commonIndent]
  simp only [stripIndent?, lines_newline, hindent, List.mapM_cons, stripLine?_nil]
  by_cases hbody : body = []
  · subst hbody
    rfl
  · obtain ⟨line, more, hlines⟩ := List.exists_cons_of_ne_nil (lines_ne_nil hbody)
    have hlast : ('\n' :: body).getLast? = body.getLast? := by
      rw [List.getLast?_cons, List.getLast?_eq_some_getLast hbody]
      rfl
    rw [hlast, hlines]
    cases hline : stripLine? (commonIndent (line :: more)) line with
    | none => simp [hline]
    | some first =>
      cases hmore : more.mapM (stripLine? (commonIndent (line :: more))) with
      | none => simp [hline, hmore]
      | some rest => simp [hline, hmore, List.intercalate]

/-- A text block with a line feed after its opening quotes. -/
def textBlock (body : List Char) : List Char :=
  ['"', '"', '"'] ++ ('\n' :: body) ++ ['"', '"', '"']

/-- With carriage returns before its line feeds, a text block has one line feed more, at the start of
its value. Whether its lines can be freed of their indentation stays the same. -/
theorem textBlock_withReturns {body : List Char} (h : '\r' ∉ body) :
    stringValue? (withReturns (textBlock body)) =
      (stringValue? (textBlock body)).map ('\n' :: ·) := by
  have hreturns : withReturns (textBlock body) =
      ['"', '"', '"'] ++ withReturns ('\n' :: body) ++ ['"', '"', '"'] := by
    rw [textBlock, withReturns_append, withReturns_append]
    rfl
  have hplain : stringValue? (textBlock body) = (stripIndent? body).map unescape := by
    rw [stringValue?, textBlock, unwrap?_wrapped]
    rfl
  have hmore : '\r' ∉ '\n' :: body := by simpa using h
  calc stringValue? (withReturns (textBlock body))
      = (stripIndent? (withReturns ('\n' :: body))).map unescape := by
        rw [stringValue?, hreturns, unwrap?_wrapped]
        rfl
    _ = ((stripIndent? body).map ('\n' :: ·)).map unescape := by
        rw [stripIndent?_withReturns hmore, stripIndent?_newline]
    _ = (stringValue? (textBlock body)).map ('\n' :: ·) := by
        rw [hplain, Option.map_map, Option.map_map]
        congr 1
        funext s
        exact unescape_cons (by decide) s

/-- Two lines of which the first one is continued on the second one. -/
theorem textBlock_withReturns_continued :
    '\r' ∉ ['a', '\\', '\n', ' ', 'b'] ∧
      stringValue? (textBlock ['a', '\\', '\n', ' ', 'b']) = some ['a', ' ', 'b'] ∧
      stringValue? (withReturns (textBlock ['a', '\\', '\n', ' ', 'b'])) =
        some ['\n', 'a', ' ', 'b'] := by
  have hplain : stringValue? (textBlock ['a', '\\', '\n', ' ', 'b']) = some ['a', ' ', 'b'] := by
    decide +kernel
  refine ⟨by decide, hplain, ?_⟩
  rw [textBlock_withReturns (by decide), hplain]
  rfl

/-- A carriage return before each line feed changes the value of a text block. -/
theorem textBlock_line_endings : ¬ ∀ (body value : List Char), '\r' ∉ body →
    stringValue? (textBlock body) = some value →
      stringValue? (withReturns (textBlock body)) = some value := by
  intro hsame
  have hvalue := hsame ['a'] ['a'] (by decide) (by decide +kernel)
  revert hvalue
  decide +kernel

end AnnotationIndex.Java
