import AnnotationIndex.Proofs.Java.CanonicalValues
import AnnotationIndex.Proofs.Java.Items
import AnnotationIndex.Proofs.Java.Moves

/-!
# The trees of canonical annotations

The tokens of a canonical value are read as a tree with that value, in every slot and whatever sign
follows. Values are read one in the other, and names part by part, so this is proved by induction on
the value. The same holds of a whole annotation.
-/

namespace AnnotationIndex.Java

namespace Syntax

open Terminal Phrase

theorem tokens_node (p : Phrase) (parts : List Tree) :
    (Grammar.Tree.node p parts : Tree).tokens = parts.flatMap Grammar.Tree.tokens := by
  rw [Grammar.Tree.tokens_eq, Grammar.Tree.leaves_node, List.map_flatMap]
  exact congrArg (List.flatMap · parts) (funext fun t => t.tokens_eq.symm)

theorem tokens_dissolveAll (parts : List Tree) :
    (dissolveAll [] parts).flatMap Grammar.Tree.tokens = parts.flatMap Grammar.Tree.tokens := by
  have hleaves := congrArg (List.map (·.2)) (dissolveAll_leaves parts)
  rw [List.map_flatMap, List.map_flatMap] at hleaves
  simpa only [← Grammar.Tree.tokens_eq] using hleaves

theorem sourceText_cons (t : Token) (ts : List Token) :
    sourceText (t :: ts) = String.ofList (t.text.toList ++ Canonical.spell ts) := by
  rw [sourceText]
  generalize t.text = text
  induction ts generalizing text with
  | nil => simp [Canonical.spell]
  | cons u ts ih => simp [ih, Canonical.spell_cons]

theorem tokensOfParts_eq (parts : List Tree) :
    Grammar.Tree.tokensOfParts [] parts = parts.flatMap Grammar.Tree.tokens := by
  have hnode := tokens_node source parts
  exact hnode

theorem values_append (ts us : List Tree) : values (ts ++ us) = values ts ++ values us := by
  induction ts with
  | nil => rfl
  | cons t ts ih => rw [List.cons_append, values, values, ih, List.append_assoc]

theorem arguments_cons (t : Tree) (ts : List Tree) :
    arguments (t :: ts) = arguments [t] ++ arguments ts := by
  cases t with
  | leaf kind token => simp [arguments]
  | node phrase parts =>
    by_cases hpair : phrase = elementPair
    · subst hpair
      cases parts with
      | nil => simp [arguments]
      | cons key parts => simp [arguments]
    · rw [arguments, arguments, arguments, List.append_nil]
      all_goals
        rintro key parts ⟨⟩
        exact hpair rfl

theorem arguments_append (ts us : List Tree) :
    arguments (ts ++ us) = arguments ts ++ arguments us := by
  induction ts with
  | nil => rfl
  | cons t ts ih =>
    rw [List.cons_append, arguments_cons, ih, arguments_cons t ts, List.append_assoc]

theorem value?_of_use? {t : Tree} {use : AnnotationOf Written} (h : use? t = some use) :
    value? t = some (.nested use) := by
  unfold use? at h
  split at h
  · rw [value?]
    simpa using h
  · cases h

theorem value?_nested (resolve : String → String) (use : AnnotationOf Written) :
    (Written.nested use).value? resolve = (annotationUse? resolve use).map .nested := by
  rw [Written.value?, annotationUse?, Option.map_map]
  rfl

end Syntax

namespace Canonical

open Syntax
open Terminal Phrase
open Grammar (Cue Front closeParts)

variable {below : List RowState} {trees : List Tree} {resolve : String → String}

/-- What a tree means, alone and as the only argument of an annotation. -/
structure Means (resolve : String → String) (tree : Tree) (v : Value) : Prop where
  values : writtenValues? resolve (values (dissolve [] tree)) = some [v]
  arguments : writtenArguments? resolve (arguments (dissolve [] tree)) = some [⟨none, v⟩]

theorem Means.of_value {tree t : Tree} {w : Written} {v : Value} (htree : dissolve [] tree = [t])
    (hpair : t.isPhrase elementPair = false) (ht : value? t = some w)
    (hw : w.value? resolve = some v) : Means resolve tree v := by
  have harguments : Syntax.arguments [t] = [⟨none, w⟩] := by
    rw [Syntax.arguments]
    · rw [ht]
      rfl
    · rintro key parts rfl
      cases hpair
  constructor
  · simp [htree, Syntax.values, ht, writtenValues?, hw]
  · simp [htree, harguments, writtenArguments?, hw]

def expressionValue (t : Tree) : Tree :=
  .node elementValue [.node expression [.node primary [t]]]

theorem dissolve_expressionValue (t : Tree) : dissolve [] (expressionValue t) = dissolve [] t := by
  simp [expressionValue, dissolve, dissolveAll, isGroup]

def Identifier.leaf (gap : String) (i : Identifier) : Tree := .leaf name (i.token gap)

def dotLeaf : Tree := .leaf .dot (sign ".")

theorem Identifier.tells (gap : String) (i : Identifier) (more : List Token) :
    plainName.Tells scan (i.token gap :: more) (i.token gap) (extent (i.token gap)) more :=
  tells_name i.free more

theorem tells_dot (more : List Token) :
    (sure .dot).Tells scan (sign "." :: more) (sign ".") (extent (sign ".")) more :=
  tells_sign (by decide) (by decide) (by decide) more

theorem dottedTokens_append (is : List Identifier) (i : Identifier) :
    dottedTokens (is ++ [i]) = dottedTokens is ++ [sign ".", i.token ""] := by
  simp [dottedTokens]

theorem sourceText_name (gap : String) (n : Name) (more : List Token) :
    sourceText (n.tokens gap ++ more) = String.ofList (n.letters ++ spell more) := by
  simp [Name.tokens, sourceText_cons, spell_append, spell_dotted, Name.letters, Identifier.token]

theorem goes_kind (k : Kind) :
    ∃ (e : KindEnd) (x y z : Tree), [x, y, z].flatMap Grammar.Tree.tokens = k.name.tokens "" ∧
      ∀ host ∈ hosts, ∀ (below : List RowState) (trees : List Tree),
        Goes [⟨rowAt host.1 (host.2 ++ [Grammar.Symbol.token atSign]) ++ below, trees, 0⟩]
          (k.name.tokens "")
          [⟨rowAt host.1 (host.2 ++ Grammar.Symbol.token atSign :: e.path) ++ below,
            z :: y :: x :: trees, 0⟩] := by
  obtain ⟨first, second, more⟩ := k
  induction more using List.reverseRecOn with
  | nil =>
    refine ⟨.second, first.leaf "", dotLeaf, second.leaf "", rfl, fun host hhost below trees => ?_⟩
    have hfirst : Move.shift host.1 host.2 [.token atSign] plainName name ∈ allMoves :=
      mem_moves_of_kind hhost (by simp [kindMoves])
    have hdot : Move.shift host.1 host.2 [.token atSign, .token name] (sure .dot) .dot ∈ allMoves :=
      mem_moves_of_kind hhost (by simp [kindMoves])
    have hsecond : Move.shift host.1 host.2 [.token atSign, .token name, .token .dot] plainName name ∈
        allMoves := mem_moves_of_kind hhost (by simp [kindMoves])
    exact ((Move.goes_take hfirst (first.tells "") below _).trans
      (Move.goes_take hdot tells_dot below _)).trans
        (Move.goes_take hsecond (second.tells "") below _)
  | append_singleton more i ih =>
    obtain ⟨e, x, y, z, htokens, hgoes⟩ := ih
    have hmore : (Kind.mk first second (more ++ [i])).name.tokens "" =
        (Kind.mk first second more).name.tokens "" ++ [sign ".", i.token ""] := by
      simp only [Kind.name, Name.tokens, ← List.cons_append, dottedTokens_append]
    refine ⟨.later, .node qualifiedName [x, y, z], dotLeaf, i.leaf "", ?_,
      fun host hhost below trees => ?_⟩
    · rw [hmore, ← htokens, List.flatMap_cons, tokens_node]
      rfl
    · have hdot : Move.take host.1 host.2 (.token atSign :: e.path) (sure .dot) .dot
          [(qualifiedName, 3)] [.token atSign, .phrase qualifiedName] ∈ allMoves :=
        mem_moves_of_kind hhost (by cases e <;> simp [kindMoves])
      have hname : Move.shift host.1 host.2 [.token atSign, .phrase qualifiedName, .token .dot]
          plainName name ∈ allMoves := mem_moves_of_kind hhost (by simp [kindMoves])
      rw [hmore]
      exact (hgoes host hhost below trees).trans ((Move.goes_take hdot tells_dot below _).trans
        (Move.goes_take hname (i.tells "") below _))

/-- Some tokens are read as the tree of a value in every slot, whatever sign follows. -/
def ReadsAs (ts : List Token) (tree : Tree) : Prop :=
  ∀ (s : Slot) (t : Terminal) (token : Token), t ∈ s.followers →
    (∀ more, (sure t).Tells scan (token :: more) token (extent token) more) →
    ∀ (below : List RowState) (trees : List Tree),
      Goes [⟨rowAt s.anchor (s.path ++ []) ++ below, trees, 0⟩] (ts ++ [token])
        [⟨rowAt s.anchor (s.closedPath ++ [.token t]) ++ below,
          .leaf t token :: closeParts s.closed (tree :: trees), 0⟩]

def Reads (resolve : String → String) (ts : List Token) (v : Value) : Prop :=
  ∃ tree, ReadsAs ts tree ∧ Means resolve tree v

theorem readsAs_token {cue : Cue Terminal} {kind : Terminal} {token : Token} {e : ValueEnd}
    {tree : Tree} (hm : ∀ s : Slot, Move.shift s.anchor s.path [] cue kind ∈ valueMoves s)
    (hcue : ∀ more, cue.Tells scan (token :: more) token (extent token) more)
    (he : e ∈ ValueEnd.all) (hpaths : e.paths = [[.token kind]]) (horigin : e.origin = 0)
    (hclosed : ∀ trees, closeParts (e.closed ++ [(elementValue, 1)]) (.leaf kind token :: trees) =
      tree :: trees) : ReadsAs [token] tree := by
  intro s t last ht hlast below trees
  have hshift := Move.goes_take (mem_moves_of_value (hm s)) hcue below trees
  have hend := @goes_end s e he t ht last hlast below [.leaf kind token :: trees]
    (by rw [hpaths]; rfl) (List.cons_ne_nil _ _)
  rw [hpaths, horigin] at hend
  have htrees : closeParts (e.closed ++ [(elementValue, 1)])
      ([.leaf kind token :: trees].getD 0 []) = tree :: trees := hclosed trees
  rw [htrees] at hend
  exact hshift.trans hend

theorem reads_string (gap : String) (text : List Char) :
    Reads resolve [⟨gap, .string, String.ofList (quoted text)⟩] (.string (String.ofList text)) := by
  let token : Token := ⟨gap, .string, String.ofList (quoted text)⟩
  let tree := expressionValue (.node literal [.node stringLiteral [.leaf string token]])
  have hreads : ReadsAs [token] tree :=
    readsAs_token (e := .string) (fun s => by simp [valueMoves]) (tells_string rfl)
      (by simp [ValueEnd.all]) rfl rfl fun _ => rfl
  refine ⟨tree, hreads, .of_value (t := .node stringLiteral [.leaf string token])
    (dissolve_expressionValue _) rfl rfl (value?_quoted resolve text)⟩

theorem reads_literal {cue : Cue Terminal} {kind : Terminal} {token : Token} {w : Written}
    {v : Value} (hm : ∀ s : Slot, Move.shift s.anchor s.path [] cue kind ∈ valueMoves s)
    (hcue : ∀ more, cue.Tells scan (token :: more) token (extent token) more)
    (he : .literal kind ∈ ValueEnd.all) (ht : tokenValue? kind token = some w)
    (hw : w.value? resolve = some v) : Reads resolve [token] v :=
  ⟨expressionValue (.node literal [.leaf kind token]),
    readsAs_token (e := .literal kind) hm hcue he rfl rfl fun _ => rfl,
    .of_value (t := .leaf kind token) (dissolve_expressionValue _) rfl ht hw⟩

theorem reads_word {gap text : String} {kind : Terminal} {w : Written} {v : Value}
    (h : Terminal.words.lookup text = some kind) (hkind : kind ∈ [trueWord, falseWord, nullWord])
    (ht : tokenValue? kind ⟨gap, .word, text⟩ = some w) (hw : w.value? resolve = some v) :
    Reads resolve [⟨gap, .word, text⟩] v := by
  refine reads_literal (fun s => ?_) (tells_keyword h) ?_ ht hw
  · simp only [valueMoves, List.mem_append, List.mem_map]
    exact .inl (.inl (.inr ⟨kind, hkind, rfl⟩))
  · simp only [List.mem_cons, List.not_mem_nil, or_false] at hkind
    rcases hkind with rfl | rfl | rfl <;> simp [ValueEnd.all]

theorem reads_truth (gap : String) (b : Bool) :
    Reads resolve [⟨gap, .word, toString b⟩] (.truth b) := by
  cases b with
  | false =>
    have hword : Terminal.words.lookup "false" = some falseWord := by decide
    exact reads_word hword (by simp) rfl rfl
  | true =>
    have hword : Terminal.words.lookup "true" = some trueWord := by decide
    exact reads_word hword (by simp) rfl rfl

theorem reads_null (gap : String) : Reads resolve [⟨gap, .word, "null"⟩] .null := by
  have hword : Terminal.words.lookup "null" = some nullWord := by decide
  exact reads_word hword (by simp) rfl rfl

theorem reads_positive (gap : String) {n : Int64} (h : n ≠ Int64.minValue) (hpos : ¬ n < 0) :
    Reads resolve [⟨gap, .integer, String.ofList (digits n)⟩] (.integer n) := by
  have hvalue := value?_digits resolve h
  rw [if_neg hpos] at hvalue
  have hm : ∀ s : Slot, Move.shift s.anchor s.path [] (sure integer) integer ∈ valueMoves s :=
    fun s => by simp [valueMoves]
  exact reads_literal hm (tells_integer rfl) (by simp [ValueEnd.all]) rfl hvalue

theorem reads_negative (gap : String) {n : Int64} (h : n ≠ Int64.minValue) (hneg : n < 0) :
    Reads resolve [⟨gap, .symbol, "-"⟩, ⟨"", .integer, String.ofList (digits n)⟩] (.integer n) := by
  let dash : Token := ⟨gap, .symbol, "-"⟩
  let number : Token := ⟨"", .integer, String.ofList (digits n)⟩
  let operand : Tree := .node expression [.node primary [.node literal [.leaf integer number]]]
  let tree : Tree := .node elementValue [.node expression [.node unary [.leaf minus dash, operand]]]
  refine ⟨tree, fun s t last ht hlast below trees => ?_, .of_value
    (t := .node unary [.leaf minus dash, .leaf integer number]) ?_ rfl rfl ?_⟩
  · have hminus : Move.shift s.anchor s.path [] (sure minus) minus ∈ valueMoves s := by
      simp [valueMoves]
    have htells : ∀ more, (sure minus).Tells scan (dash :: more) dash (extent dash) more :=
      tells_sign (by decide) (by decide) (by decide)
    have hinteger : Move.shift s.anchor s.path [.token minus] (sure integer) integer ∈
        valueMoves s := by
      simp [valueMoves]
    have hdash := Move.goes_take (mem_moves_of_value hminus) htells below trees
    have hnumber := Move.goes_take (mem_moves_of_value hinteger) (@tells_integer number rfl) below
      (.leaf minus dash :: trees)
    have hend := @goes_end s .negative (by simp [ValueEnd.all]) t ht last hlast below
      [.leaf integer number :: .leaf minus dash :: trees] rfl (List.cons_ne_nil _ _)
    exact (hdash.trans hnumber).trans hend
  · simp [tree, operand, dissolve, dissolveAll, isGroup]
  · have hvalue := value?_digits resolve h
    rw [if_pos hneg] at hvalue
    rw [Written.value?, hvalue, Option.map_some, negated, Int64.neg_neg]

theorem reads_integer (gap : String) {n : Int64} (h : n ≠ Int64.minValue) :
    Reads resolve ((Datum.integer n h).tokens gap) (.integer n) := by
  rw [Datum.tokens]
  split
  · exact reads_negative gap h ‹_›
  · exact reads_positive gap h ‹_›

/-- The trees of the readings of a name after a dot, where what stands before the dot is `y` as a
type and `x` as an expression. -/
def dotTrees (y x : Tree) (trees : List Tree) : NameEnd → List (List Tree)
  | .second => [dotLeaf :: y :: trees, dotLeaf :: .node plainType [y] :: trees, dotLeaf :: x :: trees]
  | .later => [dotLeaf :: y :: trees, dotLeaf :: x :: trees, dotLeaf :: .node plainType [y] :: trees]

def atDot (s : Slot) (e : NameEnd) (below : List RowState) (y x : Tree) (trees : List Tree) :
    List (Front Terminal Phrase Token) :=
  frontsAt s.anchor below (e.dots.map (s.path ++ ·)) (dotTrees y x trees e)

def atPart (s : Slot) (e : NameEnd) (below : List RowState) (i y x : Tree) (trees : List Tree) :
    List (Front Terminal Phrase Token) :=
  frontsAt s.anchor below (e.names.map (s.path ++ ·))
    [i :: dotLeaf :: y :: trees, i :: dotLeaf :: x :: trees]

theorem goes_firstDot (s : Slot) (i : Tree) :
    Goes [⟨rowAt s.anchor (s.path ++ [Grammar.Symbol.token name]) ++ below, i :: trees, 0⟩]
      [sign "."]
      (atDot s .second below i (.node primary [i]) trees) := by
  have hm : (⟨s.anchor, [s.path ++ [Grammar.Symbol.token name]], sure .dot,
      [{ kind := .dot, path := s.path ++ [Grammar.Symbol.token name, .token .dot] },
        { kind := .dot, path := s.path ++ [Grammar.Symbol.phrase plainType, .token .dot],
          closed := [(plainType, 1)] },
        { kind := .dot, path := s.path ++ [Grammar.Symbol.phrase primary, .token .dot],
          closed := [(primary, 1)] }]⟩ : Move) ∈ valueMoves s := by
    simp [valueMoves]
  exact @Move.goes _ (mem_moves_of_value hm) below [i :: trees] rfl (List.cons_ne_nil _ _) _ tells_dot

theorem goes_part (s : Slot) (e : NameEnd) (i : Identifier) (y x : Tree) :
    Goes (atDot s e below y x trees) [i.token ""] (atPart s e below (i.leaf "") y x trees) := by
  have hm : (⟨s.anchor, e.dots.map (s.path ++ ·), plainName,
      [{ kind := name, path := s.path ++ [e.asType, .token .dot, .token name] },
        { kind := name, path := s.path ++ [.phrase primary, .token .dot, .token name],
          origin := e.expressionAt }]⟩ : Move) ∈ valueMoves s := by
    cases e <;> simp [valueMoves, NameEnd.all]
  have hgoes := @Move.goes _ (mem_moves_of_value hm) below (dotTrees y x trees e)
    (by cases e <;> rfl) (by cases e <;> exact List.cons_ne_nil _ _) _ (i.tells "")
  cases e <;> exact hgoes

theorem goes_dot (s : Slot) (e : NameEnd) (i y x : Tree) :
    Goes (atPart s e below i y x trees) [sign "."] (atDot s .later below
      (.node scopedType [y, dotLeaf, i]) (.node primary [.node fieldAccess [x, dotLeaf, i]]) trees) := by
  have hm : (⟨s.anchor, e.names.map (s.path ++ ·), sure .dot,
      [{ kind := .dot, path := s.path ++ [.phrase scopedType, .token .dot],
         closed := [(scopedType, 3)] },
        { kind := .dot, path := s.path ++ [.phrase primary, .token .dot], origin := 1,
          closed := [(fieldAccess, 3), (primary, 1)] },
        { kind := .dot, path := s.path ++ [.phrase plainType, .token .dot],
          closed := [(scopedType, 3), (plainType, 1)] }]⟩ : Move) ∈ valueMoves s := by
    cases e <;> simp [valueMoves, NameEnd.all]
  exact @Move.goes _ (mem_moves_of_value hm) below
    [i :: dotLeaf :: y :: trees, i :: dotLeaf :: x :: trees] rfl (List.cons_ne_nil _ _) _ tells_dot

theorem goes_dotted (gap : String) (i : Identifier) (is : List Identifier) :
    ∃ (e : NameEnd) (y x : Tree), y.tokens = i.token gap :: dottedTokens is ∧
      x.tokens = i.token gap :: dottedTokens is ∧
        ∀ (s : Slot) (below : List RowState) (trees : List Tree),
          Goes [⟨rowAt s.anchor (s.path ++ []) ++ below, trees, 0⟩]
            ((i.token gap :: dottedTokens is) ++ [sign "."]) (atDot s e below y x trees) := by
  induction is using List.reverseRecOn with
  | nil =>
    refine ⟨.second, i.leaf gap, .node primary [i.leaf gap], rfl, rfl, fun s below trees => ?_⟩
    have hname : Move.shift s.anchor s.path [] plainName name ∈ valueMoves s := by simp [valueMoves]
    exact (Move.goes_take (mem_moves_of_value hname) (i.tells gap) below trees).trans
      (goes_firstDot s (i.leaf gap))
  | append_singleton is j ih =>
    obtain ⟨e, y, x, hy, hx, hgoes⟩ := ih
    refine ⟨.later, .node scopedType [y, dotLeaf, j.leaf ""],
      .node primary [.node fieldAccess [x, dotLeaf, j.leaf ""]], ?_, ?_, fun s below trees => ?_⟩
    · rw [tokens_node, List.flatMap_cons, hy, dottedTokens_append]
      rfl
    · rw [tokens_node, List.flatMap_singleton, tokens_node, List.flatMap_cons, hx,
        dottedTokens_append]
      rfl
    · have hmore := ((hgoes s below trees).trans (goes_part s e j y x)).trans
        (goes_dot s e (j.leaf "") y x)
      rw [dottedTokens_append]
      simpa using hmore

theorem means_text {phrase : Phrase} {parts : List Tree} {w : Written} {v : Value}
    (hgroup : isGroup phrase = false) (hpair : phrase ≠ elementPair)
    (hvalue : value? (.node phrase (dissolveAll [] parts)) = some w)
    (hw : w.value? resolve = some v) : Means resolve (expressionValue (.node phrase parts)) v :=
  .of_value ((dissolve_expressionValue _).trans (dissolve_node parts hgroup))
    (decide_eq_false hpair.symm) hvalue hw

theorem reads_constant (gap : String) (n : Name) :
    Reads resolve (n.tokens gap) (.constant (String.ofList n.letters)) := by
  have hvalue := value?_letters resolve n
  have htext := sourceText_name gap n []
  obtain ⟨first, more⟩ := n
  rcases List.eq_nil_or_concat' more with rfl | ⟨is, i, rfl⟩
  · have hname : ∀ s : Slot, Move.shift s.anchor s.path [] plainName name ∈ valueMoves s :=
      fun s => by simp [valueMoves]
    rw [Name.letters, dotted, List.flatMap_nil, List.append_nil] at hvalue ⊢
    exact ⟨expressionValue (first.leaf gap), readsAs_token (e := .name) hname (first.tells gap)
      (by simp [ValueEnd.all]) rfl rfl fun _ => rfl, .of_value (t := first.leaf gap)
      (dissolve_expressionValue _) rfl rfl hvalue⟩
  · obtain ⟨e, y, x, -, hx, hgoes⟩ := goes_dotted gap first is
    have htokens : (Name.mk first (is ++ [i])).tokens gap =
        (first.token gap :: dottedTokens is) ++ [sign "."] ++ [i.token ""] := by
      rw [Name.tokens, dottedTokens_append]
      simp
    have hparts : [x, dotLeaf, i.leaf ""].flatMap Grammar.Tree.tokens =
        (Name.mk first (is ++ [i])).tokens gap := by
      rw [htokens, List.flatMap_cons, hx, List.append_assoc]
      rfl
    refine ⟨expressionValue (.node fieldAccess [x, dotLeaf, i.leaf ""]),
      fun s t last ht hlast below trees => ?_, means_text rfl (by decide) ?_ hvalue⟩
    · have hend := @goes_end s (.constant e) (by cases e <;> simp [ValueEnd.all, NameEnd.all]) t ht
        last hlast below [i.leaf "" :: dotLeaf :: y :: trees, i.leaf "" :: dotLeaf :: x :: trees]
        rfl (List.cons_ne_nil _ _)
      rw [htokens]
      exact ((hgoes s below trees).trans (goes_part s e i y x)).trans hend
    · rw [List.append_nil] at htext
      simp only [value?, tokensOfParts_eq, tokens_dissolveAll, hparts, htext, spell, List.flatMap_nil,
        List.append_nil]

theorem goes_classWord (s : Slot) (e : NameEnd) (y x : Tree) {token : Token}
    (htoken : ∀ more, (keyword classWord).Tells scan (token :: more) token (extent token) more) :
    Goes (atDot s e below y x trees) [token]
      (frontsAt s.anchor below ((ValueEnd.classLiteral e).paths.map (s.path ++ ·))
        ((e.lastWords.zip (dotTrees y x trees e)).map fun (word, ts) => .leaf word.2 token :: ts)) := by
  have hm : (⟨s.anchor, e.dots.map (s.path ++ ·), keyword classWord,
      e.lastWords.zipIdx.map fun word =>
        { path := s.path ++ word.1.1, kind := word.1.2, origin := word.2 }⟩ : Move) ∈ valueMoves s := by
    cases e <;> simp [valueMoves, NameEnd.all]
  have hgoes := @Move.goes _ (mem_moves_of_value hm) below (dotTrees y x trees e)
    (by cases e <;> rfl) (by cases e <;> exact List.cons_ne_nil _ _) token htoken
  cases e <;> exact hgoes

theorem reads_type (gap : String) (n : Name) :
    Reads resolve (n.tokens gap ++ [sign ".", ⟨"", .word, "class"⟩])
      (.type (String.ofList n.letters)) := by
  have hword : Terminal.words.lookup "class" = some classWord := by decide
  have hclass := fun more => @tells_keyword "" "class" classWord hword more
  have htext := sourceText_name gap n [sign ".", ⟨"", .word, "class"⟩]
  obtain ⟨e, y, x, hy, -, hgoes⟩ := goes_dotted gap n.first n.more
  let parts : List Tree := [.node plainType [y], dotLeaf, .leaf classWord ⟨"", .word, "class"⟩]
  have hparts : parts.flatMap Grammar.Tree.tokens =
      n.tokens gap ++ [sign ".", ⟨"", .word, "class"⟩] := by
    rw [List.flatMap_cons, tokens_node, List.flatMap_singleton, hy]
    rfl
  refine ⟨expressionValue (.node classLiteral parts),
    fun s t last ht hlast below trees => ?_, means_text rfl (by decide) ?_ (value?_classLiteral resolve n)⟩
  · have hend := @goes_end s (.classLiteral e) (by cases e <;> simp [ValueEnd.all, NameEnd.all]) t ht
      last hlast below
      ((e.lastWords.zip (dotTrees y x trees e)).map fun (word, ts) =>
        .leaf word.2 ⟨"", .word, "class"⟩ :: ts)
      (by cases e <;> rfl) (by cases e <;> exact List.cons_ne_nil _ _)
    have htokens : n.tokens gap ++ [sign ".", ⟨"", .word, "class"⟩] ++ [last] =
        (n.first.token gap :: dottedTokens n.more) ++ [sign "."] ++ [⟨"", .word, "class"⟩] ++
          [last] := by
      simp [Name.tokens]
    rw [htokens]
    have hname := (hgoes s below trees).trans (goes_classWord s e y x hclass)
    cases e <;> exact hname.trans hend
  · simp only [value?, tokensOfParts_eq, tokens_dissolveAll, hparts, htext]
    rfl

inductive Place where
  | first | second | later

/-- A kind of rows: what is before them, the phrases for an item and for all but the first, and the
bracket behind them. -/
structure Row where
  anchor : Anchor
  item : Phrase
  more : Phrase
  closing : Terminal

namespace Row

def elements : Row := ⟨.brace, elementValue, moreElements, rightBrace⟩

def pairs : Row := ⟨.paren, elementPair, morePairs, rightParen⟩

variable (r : Row)

def before : Place → List Symbol
  | .first => []
  | .second => [.phrase r.item, .token comma]
  | .later => [.phrase r.item, .phrase r.more, .token comma]

def after : Place → List Symbol
  | .first => [.phrase r.item]
  | .second | .later => [.phrase r.item, .phrase r.more]

def closed : Place → List (Phrase × Nat)
  | .first => []
  | .second => [(r.more, 2)]
  | .later => [(r.more, 3)]

/-- Some tokens are read as the tree of an item everywhere in a row. -/
def ReadsItem (ts : List Token) (tree : Tree) : Prop :=
  ∀ (p : Place) (t : Terminal) (token : Token), t = r.closing ∨ t = comma →
    (∀ more, (sure t).Tells scan (token :: more) token (extent token) more) →
    ∀ (below : List RowState) (trees : List Tree),
      Goes [⟨rowAt r.anchor (r.before p) ++ below, trees, 0⟩] (ts ++ [token])
        [⟨rowAt r.anchor (r.after p ++ [.token t]) ++ below,
          .leaf t token :: closeParts (r.closed p) (tree :: trees), 0⟩]

variable {r}

theorem readsItem_element {ts : List Token} {tree : Tree} (h : ReadsAs ts tree) :
    elements.ReadsItem ts tree := by
  intro p t token ht htoken below trees
  have hfollower : t ∈ [rightBrace, comma] := List.mem_pair.2 ht
  cases p with
  | first => exact h .firstItem t token hfollower htoken below trees
  | second => exact h .secondItem t token hfollower htoken below trees
  | later => exact h .laterItem t token hfollower htoken below trees

def moreTokens (items : List (List Token × Tree)) : List Token :=
  items.flatMap fun item => sign "," :: item.1

theorem append_moreTokens (ts : List Token) (item : List Token × Tree)
    (items : List (List Token × Tree)) (closer : Token) :
    ts ++ moreTokens (item :: items) ++ [closer] =
      (ts ++ [sign ","]) ++ (item.1 ++ moreTokens items ++ [closer]) := by
  simp [moreTokens]

theorem after_of_ne {p : Place} (hp : p ≠ .first) :
    r.after p = [.phrase r.item, .phrase r.more] := by
  cases p with
  | first => exact absurd rfl hp
  | second => rfl
  | later => rfl

theorem tells_comma (more : List Token) :
    (sure comma).Tells scan (sign "," :: more) (sign ",") (extent (sign ",")) more :=
  tells_sign (by decide) (by decide) (by decide) more

section Items

variable {closer : Token}
  (hcloser : ∀ more, (sure r.closing).Tells scan (closer :: more) closer (extent closer) more)
  (hgroup : isGroup r.more = true)

include hcloser hgroup

theorem goes_more {p : Place} (hp : p ≠ .first) {ts : List Token} {tree : Tree}
    (htree : r.ReadsItem ts tree) {items : List (List Token × Tree)}
    (hitems : ∀ item ∈ items, r.ReadsItem item.1 item.2) {front parts : List Tree}
    (hfront : ∀ trees, closeParts (r.closed p) (tree :: (front ++ trees)) =
      .node r.more parts :: trees) :
    ∃ parts', dissolveAll [] parts' = dissolveAll [] parts ++
        items.flatMap (fun item => .leaf comma (sign ",") :: dissolve [] item.2) ∧
      ∀ (below : List RowState) (trees : List Tree),
        Goes [⟨rowAt r.anchor (r.before p) ++ below, front ++ trees, 0⟩]
          (ts ++ moreTokens items ++ [closer])
          [⟨rowAt r.anchor [.phrase r.item, .phrase r.more, .token r.closing] ++ below,
            .leaf r.closing closer :: .node r.more parts' :: trees, 0⟩] := by
  induction items generalizing p ts tree front parts with
  | nil =>
    refine ⟨parts, by simp, fun below trees => ?_⟩
    have hgoes := htree p r.closing closer (.inl rfl) hcloser below (front ++ trees)
    rw [hfront, after_of_ne hp] at hgoes
    simpa [moreTokens] using hgoes
  | cons item items ih =>
    obtain ⟨hitem, hitems⟩ := List.forall_mem_cons.1 hitems
    obtain ⟨parts', hparts, hmore⟩ := @ih .later nofun item.1 item.2 hitem hitems
      [.leaf comma (sign ","), .node r.more parts]
      [.node r.more parts, .leaf comma (sign ","), item.2] fun _ => rfl
    refine ⟨parts', ?_, fun below trees => ?_⟩
    · rw [hparts, dissolveAll_flatMap]
      simp [dissolve, hgroup]
    · have hgoes := htree p comma (sign ",") (.inr rfl) tells_comma below (front ++ trees)
      rw [hfront, after_of_ne hp] at hgoes
      rw [append_moreTokens]
      exact hgoes.trans (hmore below trees)

theorem goes_items {ts : List Token} {tree : Tree} (htree : r.ReadsItem ts tree)
    {item : List Token × Tree} {items : List (List Token × Tree)}
    (hitems : ∀ i ∈ item :: items, r.ReadsItem i.1 i.2) :
    ∃ parts, dissolveAll [] parts =
        (item :: items).flatMap (fun item => .leaf comma (sign ",") :: dissolve [] item.2) ∧
      ∀ (below : List RowState) (trees : List Tree),
        Goes [⟨rowAt r.anchor [] ++ below, trees, 0⟩] (ts ++ moreTokens (item :: items) ++ [closer])
          [⟨rowAt r.anchor [.phrase r.item, .phrase r.more, .token r.closing] ++ below,
            [.leaf r.closing closer, .node r.more parts, tree] ++ trees, 0⟩] := by
  obtain ⟨hitem, hitems⟩ := List.forall_mem_cons.1 hitems
  obtain ⟨parts, hparts, hmore⟩ := @goes_more r closer hcloser hgroup .second nofun item.1 item.2
    hitem items hitems [.leaf comma (sign ",")] [.leaf comma (sign ","), item.2] fun _ => rfl
  refine ⟨parts, ?_, fun below trees => ?_⟩
  · rw [hparts, dissolveAll_flatMap]
    simp [dissolve]
  · have hgoes := htree .first comma (sign ",") (.inr rfl) tells_comma below trees
    rw [append_moreTokens]
    exact hgoes.trans (hmore below (tree :: trees))

end Items

end Row

theorem writtenValues?_append {ws us : List Written} {vs vs' : List Value}
    (hws : writtenValues? resolve ws = some vs) (hus : writtenValues? resolve us = some vs') :
    writtenValues? resolve (ws ++ us) = some (vs ++ vs') := by
  induction ws generalizing vs with
  | nil =>
    cases hws
    exact hus
  | cons w ws ih =>
    simp only [writtenValues?, Option.bind_eq_bind, Option.bind_eq_some_iff, Option.pure_def,
      Option.some.injEq] at hws
    obtain ⟨v, hv, vs, hvs, rfl⟩ := hws
    simp [writtenValues?, hv, ih hvs]

theorem means_array {parts : List Tree} {vs : List Value}
    (h : writtenValues? resolve (values (dissolveAll [] parts)) = some vs) :
    Means resolve (.node elementValue [.node elementArray parts]) (.array vs) := by
  refine .of_value (t := .node elementArray (dissolveAll [] parts)) ?_ rfl ?_ ?_
    (w := .array (values (dissolveAll [] parts)))
  · simp [dissolve, dissolveAll, isGroup]
  · rw [value?]
  · rw [Written.value?, h]
    rfl

theorem readsAs_array {gap : String} {inner : List Token} (e : ValueEnd) {path : List Symbol}
    (stack : List Tree) {tree : Tree} (he : e ∈ ValueEnd.all)
    (hpaths : e.paths = [.token leftBrace :: path]) (horigin : e.origin = 0)
    (hclosed : ∀ trees, closeParts (e.closed ++ [(elementValue, 1)])
      (stack ++ Grammar.Tree.leaf leftBrace ⟨gap, .symbol, "\x7b"⟩ :: trees) = tree :: trees)
    (hinner : ∀ (s : Slot) (below : List RowState) (trees : List Tree),
      Goes [⟨rowAt s.anchor (s.path ++ [Grammar.Symbol.token leftBrace]) ++ below, trees, 0⟩] inner
        [⟨rowAt s.anchor (s.path ++ Grammar.Symbol.token leftBrace :: path) ++ below,
          stack ++ trees, 0⟩]) :
    ReadsAs (⟨gap, .symbol, "\x7b"⟩ :: inner) tree := by
  intro s t last ht hlast below trees
  have hm : Move.shift s.anchor s.path [] (sure leftBrace) leftBrace ∈ valueMoves s := by
    simp [valueMoves]
  have hopen : ∀ more, (sure leftBrace).Tells scan (⟨gap, .symbol, "\x7b"⟩ :: more)
      ⟨gap, .symbol, "\x7b"⟩ (extent ⟨gap, .symbol, "\x7b"⟩) more :=
    tells_sign (by decide) (by decide) (by decide)
  have hfirst := Move.goes_take (mem_moves_of_value hm) hopen below trees
  have hend := @goes_end s e he t ht last hlast below
    [stack ++ Grammar.Tree.leaf leftBrace ⟨gap, .symbol, "\x7b"⟩ :: trees] (by rw [hpaths]; rfl)
    (List.cons_ne_nil _ _)
  rw [hpaths, horigin] at hend
  have htrees : closeParts (e.closed ++ [(elementValue, 1)])
      ([stack ++ Grammar.Tree.leaf leftBrace ⟨gap, .symbol, "\x7b"⟩ :: trees].getD 0 []) =
        tree :: trees :=
    hclosed trees
  rw [htrees] at hend
  exact (hfirst.trans (hinner s below _)).trans hend

theorem tells_closingBrace (more : List Token) :
    (sure rightBrace).Tells scan (sign "\x7d" :: more) (sign "\x7d") (extent (sign "\x7d")) more :=
  tells_sign (by decide) (by decide) (by decide) more

theorem goes_inBraces {ts : List Token} {path : List Symbol} {stack : List Tree}
    (h : ∀ (below : List RowState) (trees : List Tree), Goes [⟨rowAt .brace [] ++ below, trees, 0⟩] ts
      [⟨rowAt .brace path ++ below, stack ++ trees, 0⟩]) (s : Slot) (below : List RowState)
    (trees : List Tree) :
    Goes [⟨rowAt s.anchor (s.path ++ [Grammar.Symbol.token leftBrace]) ++ below, trees, 0⟩] ts
      [⟨rowAt s.anchor (s.path ++ Grammar.Symbol.token leftBrace :: path) ++ below,
        stack ++ trees, 0⟩] := by
  rw [rowAt_leftBrace, rowAt_leftBrace, List.append_assoc, List.append_assoc]
  exact h _ trees

theorem reads_noItems (gap : String) : Reads resolve ((Datum.array []).tokens gap) (.array []) := by
  let opening : Tree := .leaf leftBrace ⟨gap, .symbol, "\x7b"⟩
  let closing : Tree := .leaf rightBrace (sign "\x7d")
  let tree : Tree := .node elementValue [.node elementArray [opening, closing]]
  have htokens : (Datum.array []).tokens gap = ⟨gap, .symbol, "\x7b"⟩ :: [sign "\x7d"] := by
    simp [Datum.tokens, Datum.tokensOfItems]
  have hreads : ReadsAs ((Datum.array []).tokens gap) tree := by
    rw [htokens]
    refine readsAs_array .noItems [closing] (by simp [ValueEnd.all]) rfl rfl (fun _ => rfl)
      fun s below trees => ?_
    have hm : Move.shift s.anchor s.path [.token leftBrace] (sure rightBrace) rightBrace ∈
        valueMoves s := by
      simp [valueMoves]
    exact Move.goes_take (mem_moves_of_value hm) tells_closingBrace below trees
  exact ⟨tree, hreads, means_array rfl⟩

theorem reads_oneItem (gap : String) {d : Datum} (h : Reads resolve (d.tokens "") d.value) :
    Reads resolve ((Datum.array [d]).tokens gap) (.array [d.value]) := by
  obtain ⟨item, hitem, hmeans⟩ := h
  let opening : Tree := .leaf leftBrace ⟨gap, .symbol, "\x7b"⟩
  let closing : Tree := .leaf rightBrace (sign "\x7d")
  let tree : Tree := .node elementValue [.node elementArray [opening, item, closing]]
  have htokens : (Datum.array [d]).tokens gap =
      ⟨gap, .symbol, "\x7b"⟩ :: (d.tokens "" ++ [sign "\x7d"]) := by
    simp [Datum.tokens, Datum.tokensOfItems, Datum.tokensOfMoreItems]
  have hreads : ReadsAs ((Datum.array [d]).tokens gap) tree := by
    rw [htokens]
    refine readsAs_array .oneItem [closing, item] (by simp [ValueEnd.all]) rfl rfl (fun _ => rfl)
      (goes_inBraces fun below trees => ?_)
    exact hitem .firstItem rightBrace (sign "\x7d") (by simp [Slot.followers]) tells_closingBrace
      below trees
  refine ⟨tree, hreads, means_array ?_⟩
  have hvalues : values (dissolveAll [] [opening, item, closing]) = values (dissolve [] item) := by
    simp [dissolveAll_flatMap, values_append, opening, closing, dissolve, values, value?, tokenValue?]
  rw [hvalues, hmeans.values]

theorem exists_items {ds : List Datum} (h : ∀ d ∈ ds, Reads resolve (d.tokens " ") d.value) :
    ∃ items : List (List Token × Tree), Row.moreTokens items = Datum.tokensOfMoreItems ds ∧
      (∀ i ∈ items, Row.elements.ReadsItem i.1 i.2) ∧
        writtenValues? resolve (values (items.flatMap fun i =>
          .leaf comma (sign ",") :: dissolve [] i.2)) = some (Datum.valuesOfItems ds) := by
  induction ds with
  | nil => exact ⟨[], rfl, nofun, rfl⟩
  | cons d ds ih =>
    obtain ⟨⟨tree, hreads, hmeans⟩, hds⟩ := List.forall_mem_cons.1 h
    obtain ⟨items, htokens, hitems, hvalues⟩ := ih hds
    refine ⟨(d.tokens " ", tree) :: items, ?_, List.forall_mem_cons.2 ⟨?_, hitems⟩, ?_⟩
    · rw [Datum.tokensOfMoreItems, ← htokens]
      rfl
    · exact Row.readsItem_element hreads
    · have hmore := writtenValues?_append hmeans.values hvalues
      rw [← values_append] at hmore
      exact hmore

theorem reads_items (gap : String) {d e : Datum} {ds : List Datum}
    (hd : Reads resolve (d.tokens "") d.value)
    (h : ∀ e' ∈ e :: ds, Reads resolve (e'.tokens " ") e'.value) :
    Reads resolve ((Datum.array (d :: e :: ds)).tokens gap)
      (.array (Datum.valuesOfItems (d :: e :: ds))) := by
  obtain ⟨first, hfirst, hmeans⟩ := hd
  obtain ⟨items, hmoreTokens, hitems, hvalues⟩ := exists_items h
  obtain ⟨item, items, rfl⟩ : ∃ i is, items = i :: is := by
    refine List.exists_cons_of_ne_nil ?_
    rintro rfl
    simp [Row.moreTokens, Datum.tokensOfMoreItems] at hmoreTokens
  obtain ⟨parts, hparts, hgoes⟩ := Row.goes_items (r := .elements) tells_closingBrace rfl
    (Row.readsItem_element hfirst) hitems
  let opening : Tree := .leaf leftBrace ⟨gap, .symbol, "\x7b"⟩
  let closing : Tree := .leaf rightBrace (sign "\x7d")
  let more : Tree := .node moreElements parts
  let tree : Tree := .node elementValue [.node elementArray [opening, first, more, closing]]
  have htokens : (Datum.array (d :: e :: ds)).tokens gap = ⟨gap, .symbol, "\x7b"⟩ ::
      (d.tokens "" ++ Row.moreTokens (item :: items) ++ [sign "\x7d"]) := by
    rw [hmoreTokens, Datum.tokens, Datum.tokensOfItems]
    rfl
  have hreads : ReadsAs ((Datum.array (d :: e :: ds)).tokens gap) tree := by
    rw [htokens]
    exact readsAs_array .items [closing, more, first] (by simp [ValueEnd.all]) rfl rfl (fun _ => rfl)
      (goes_inBraces hgoes)
  refine ⟨tree, hreads, means_array ?_⟩
  have hinner : values (dissolveAll [] [opening, first, more, closing]) =
      values (dissolve [] first) ++ values (dissolveAll [] parts) := by
    simp [dissolveAll_flatMap, values_append, opening, closing, more, dissolve, isGroup, values,
      value?, tokenValue?]
  rw [hinner, hparts]
  exact writtenValues?_append hmeans.values hvalues

theorem reads_array (gap : String) {ds : List Datum}
    (h : ∀ d ∈ ds, ∀ gap, Reads resolve (d.tokens gap) d.value) :
    Reads resolve ((Datum.array ds).tokens gap) (Datum.array ds).value := by
  rw [Datum.value]
  match ds, h with
  | [], _ => exact reads_noItems gap
  | [d], h => exact reads_oneItem gap (h d (by simp) "")
  | d :: e :: ds, h =>
    exact reads_items gap (h d (by simp) "") fun e' he' => h e' (List.mem_cons_of_mem d he') " "

theorem writtenArguments?_append {ws us : List (Argument Written)} {vs vs' : List (Argument Value)}
    (hws : writtenArguments? resolve ws = some vs)
    (hus : writtenArguments? resolve us = some vs') :
    writtenArguments? resolve (ws ++ us) = some (vs ++ vs') := by
  induction ws generalizing vs with
  | nil =>
    cases hws
    exact hus
  | cons w ws ih =>
    simp only [writtenArguments?, Option.bind_eq_bind, Option.bind_eq_some_iff, Option.pure_def,
      Option.some.injEq] at hws
    obtain ⟨v, hv, vs, hvs, rfl⟩ := hws
    simp [writtenArguments?, hv, ih hvs]

theorem writtenArguments?_named (key : String) {ws : List Written} {vs : List Value}
    (h : writtenValues? resolve ws = some vs) :
    writtenArguments? resolve (ws.map (⟨some key, ·⟩)) = some (vs.map (⟨some key, ·⟩)) := by
  induction ws generalizing vs with
  | nil =>
    cases h
    rfl
  | cons w ws ih =>
    simp only [writtenValues?, Option.bind_eq_bind, Option.bind_eq_some_iff, Option.pure_def,
      Option.some.injEq] at h
    obtain ⟨v, hv, vs, hvs, rfl⟩ := h
    simp [writtenArguments?, hv, ih hvs]

/-- After the sign of an annotation, some tokens are read as the rest of it wherever annotations
stand. -/
def ReadsUse (resolve : String → String) (opening : Token) (ts : List Token) (meant : AnnotationUse) :
    Prop :=
  ∃ (e : UseEnd) (stack parts : List Tree) (use : AnnotationOf Written),
    use? (.node annotationUse (dissolveAll [] parts)) = some use ∧
      annotationUse? resolve use = some meant ∧
      (∀ trees, closeParts e.closed (stack ++ .leaf atSign opening :: trees) =
        .node annotationUse parts :: trees) ∧
      ∀ host ∈ hosts, ∀ (below : List RowState) (trees : List Tree),
        Goes [⟨rowAt host.1 (host.2 ++ [.token atSign]) ++ below, trees, 0⟩] ts
          [⟨rowAt host.1 (host.2 ++ e.path) ++ below, stack ++ trees, 0⟩]

theorem tells_closingParen (more : List Token) :
    (sure rightParen).Tells scan (sign ")" :: more) (sign ")") (extent (sign ")")) more :=
  tells_sign (by decide) (by decide) (by decide) more

def pairTokens (gap : String) (p : Identifier × Datum) : List Token :=
  p.1.token gap :: ⟨" ", .symbol, "="⟩ :: p.2.tokens " "

def ReadsPair (resolve : String → String) (ts : List Token) (meant : Argument Value) : Prop :=
  ∃ tree, Row.pairs.ReadsItem ts tree ∧
    writtenArguments? resolve (arguments (dissolve [] tree)) = some [meant]

theorem Row.readsItem_pair {gap : String} {key : Identifier} {ts : List Token} {tree : Tree}
    (h : ReadsAs ts tree) : pairs.ReadsItem (key.token gap :: ⟨" ", .symbol, "="⟩ :: ts)
      (.node elementPair [key.leaf gap, .leaf assign ⟨" ", .symbol, "="⟩, tree]) := by
  intro p t token ht htoken below trees
  have hfollower : t ∈ [rightParen, comma] := List.mem_pair.2 ht
  have hkey : Move.shift .paren (pairs.before p) [] plainName name ∈ pairMoves := by
    cases p <;> simp [pairMoves, before, pairs]
  have hassign : Move.shift .paren (pairs.before p) [.token name] (sure assign) assign ∈
      pairMoves := by
    cases p <;> simp [pairMoves, before, pairs]
  have htells : ∀ more, (sure assign).Tells scan (⟨" ", .symbol, "="⟩ :: more) ⟨" ", .symbol, "="⟩
      (extent ⟨" ", .symbol, "="⟩) more := tells_sign (by decide) (by decide) (by decide)
  have hlead := (Move.goes_take (mem_moves_of_pair hkey) (key.tells gap) below trees).trans
    (Move.goes_take (mem_moves_of_pair hassign) htells below _)
  rw [List.append_nil] at hlead
  cases p with
  | first => exact hlead.trans (h .firstPair t token hfollower htoken below _)
  | second => exact hlead.trans (h .secondPair t token hfollower htoken below _)
  | later => exact hlead.trans (h .laterPair t token hfollower htoken below _)

theorem reads_pair {gap : String} {p : Identifier × Datum}
    (h : Reads resolve (p.2.tokens " ") p.2.value) :
    ReadsPair resolve (pairTokens gap p) ⟨some p.1.text, p.2.value⟩ := by
  obtain ⟨key, d⟩ := p
  obtain ⟨tree, hreads, hmeans⟩ := h
  refine ⟨_, Row.readsItem_pair hreads, ?_⟩
  have hparts : arguments (dissolve []
      (.node elementPair [key.leaf gap, .leaf assign ⟨" ", .symbol, "="⟩, tree])) =
        (values (dissolve [] tree)).map (⟨some key.text, ·⟩) := by
    simp [dissolve, dissolveAll, isGroup, Identifier.leaf, Syntax.arguments, values, value?,
      tokenValue?]
    exact fun _ _ => rfl
  rw [hparts]
  exact writtenArguments?_named key.text hmeans.values

theorem exists_pairs {ps : List (Identifier × Datum)}
    (h : ∀ p ∈ ps, Reads resolve (p.2.tokens " ") p.2.value) :
    ∃ items : List (List Token × Tree), Row.moreTokens items = Datum.tokensOfMorePairs ps ∧
      (∀ i ∈ items, Row.pairs.ReadsItem i.1 i.2) ∧
        writtenArguments? resolve (arguments (items.flatMap fun i =>
          .leaf comma (sign ",") :: dissolve [] i.2)) = some (Datum.valuesOfPairs ps) := by
  induction ps with
  | nil => exact ⟨[], rfl, nofun, rfl⟩
  | cons p ps ih =>
    obtain ⟨hp, hps⟩ := List.forall_mem_cons.1 h
    obtain ⟨tree, hreads, hmeant⟩ := @reads_pair resolve " " p hp
    obtain ⟨items, htokens, hitems, harguments⟩ := ih hps
    refine ⟨(pairTokens " " p, tree) :: items, ?_, List.forall_mem_cons.2 ⟨hreads, hitems⟩, ?_⟩
    · rw [Datum.tokensOfMorePairs, ← htokens]
      simp [Row.moreTokens, pairTokens]
    · have hmore := writtenArguments?_append hmeant harguments
      rw [← arguments_append] at hmore
      exact hmore

section Uses

variable (hresolve : ∀ k : Kind,
  resolve (String.ofList k.name.letters) = String.ofList k.name.letters)

include hresolve

theorem use?_parts {k : Kind} {name : List Tree}
    (hname : name.flatMap Grammar.Tree.tokens = k.name.tokens "") (opening : Token)
    (rest : List Tree) {meant : List (Argument Value)}
    (hrest : writtenArguments? resolve (arguments (dissolveAll [] rest)) = some meant) :
    ∃ use, use? (.node annotationUse
        (dissolveAll [] (.leaf atSign opening :: .node qualifiedName name :: rest))) = some use ∧
      annotationUse? resolve use = some ⟨String.ofList k.name.letters, meant⟩ := by
  have htext := sourceText_name "" k.name []
  have hparts : dissolveAll [] (.leaf atSign opening :: .node qualifiedName name :: rest) =
      .leaf atSign opening :: .node qualifiedName (dissolveAll [] name) :: dissolveAll [] rest := by
    simp [dissolveAll, dissolve, isGroup]
  refine ⟨⟨textOf (.node qualifiedName (dissolveAll [] name)), arguments (dissolveAll [] rest)⟩,
    ?_, ?_⟩
  · rw [hparts, use?]
  · have hkind : textOf (.node qualifiedName (dissolveAll [] name)) =
        String.ofList k.name.letters := by
      rw [textOf, tokens_node, tokens_dissolveAll, hname]
      simpa [spell] using htext
    rw [annotationUse?, hrest, hkind, hresolve]
    rfl

theorem readsUse_marker (opening : Token) (k : Kind) :
    ReadsUse resolve opening (k.name.tokens "") ⟨String.ofList k.name.letters, []⟩ := by
  obtain ⟨e, x, y, z, htokens, hgoes⟩ := goes_kind k
  obtain ⟨use, huse, hmeant⟩ := use?_parts hresolve htokens opening [] rfl
  exact ⟨.marker e, [z, y, x], _, use, huse, hmeant, fun _ => rfl, hgoes⟩

theorem readsUse_arguments (opening : Token) (k : Kind) {inner : List Token} (e : UseEnd)
    (path : List Symbol) (items : List Tree) {meant : List (Argument Value)}
    (hpath : e.path = .token atSign :: .phrase qualifiedName :: .token leftParen ::
      (path ++ [Grammar.Symbol.token rightParen]))
    (hclosed : ∀ (q : Tree) (trees : List Tree), closeParts e.closed (.leaf rightParen (sign ")") ::
      (items.reverse ++
        Grammar.Tree.leaf leftParen (sign "(") :: q :: .leaf atSign opening :: trees)) =
      .node annotationUse [.leaf atSign opening, q, .node annotationArguments
        (.leaf leftParen (sign "(") :: (items ++ [Grammar.Tree.leaf rightParen (sign ")")]))] ::
          trees)
    (hmeant : writtenArguments? resolve (arguments (dissolveAll [] items)) = some meant)
    (hinner : ∀ (below : List RowState) (trees : List Tree),
      Goes [⟨rowAt .paren [] ++ below, trees, 0⟩] (inner ++ [sign ")"])
        [⟨rowAt .paren (path ++ [Grammar.Symbol.token rightParen]) ++ below,
          .leaf rightParen (sign ")") :: (items.reverse ++ trees), 0⟩]) :
    ReadsUse resolve opening (k.name.tokens "" ++ sign "(" :: inner ++ [sign ")"])
      ⟨String.ofList k.name.letters, meant⟩ := by
  obtain ⟨kind, x, y, z, htokens, hgoes⟩ := goes_kind k
  have hinside : arguments (dissolveAll [] [.node annotationArguments
      (.leaf leftParen (sign "(") :: (items ++ [Grammar.Tree.leaf rightParen (sign ")")]))]) =
        arguments (dissolveAll [] items) := by
    simp [dissolveAll_flatMap, arguments_append, dissolve, isGroup, Syntax.arguments, value?,
      tokenValue?, arguments_cons (.leaf leftParen (sign "("))]
  obtain ⟨use, huse, hmeantUse⟩ := use?_parts hresolve htokens opening
    [.node annotationArguments
      (.leaf leftParen (sign "(") :: (items ++ [Grammar.Tree.leaf rightParen (sign ")")]))]
    (by rw [hinside]; exact hmeant)
  refine ⟨e, Grammar.Tree.leaf rightParen (sign ")") :: items.reverse ++
    [Grammar.Tree.leaf leftParen (sign "("), .node qualifiedName [x, y, z]], _, use, huse,
    hmeantUse, fun trees => ?_, fun host hhost below trees => ?_⟩
  · rw [List.append_assoc]
    exact hclosed _ trees
  · have hparen : Move.take host.1 host.2 (.token atSign :: kind.path) (sure leftParen) leftParen
        [(qualifiedName, 3)] [.token atSign, .phrase qualifiedName] ∈ allMoves :=
      mem_moves_of_kind hhost (by cases kind <;> simp [kindMoves])
    have htells : ∀ more, (sure leftParen).Tells scan (sign "(" :: more) (sign "(")
        (extent (sign "(")) more := tells_sign (by decide) (by decide) (by decide)
    have hopen := (hgoes host hhost below trees).trans (Move.goes_take hparen htells below _)
    have hbracket := @rowAt_leftParen host hhost
    have hrest := hinner
      (rowAt host.1 (host.2 ++ [Grammar.Symbol.token atSign, .phrase qualifiedName]) ++ below)
      (.leaf leftParen (sign "(") :: .node qualifiedName [x, y, z] :: trees)
    rw [← List.append_assoc, ← List.append_assoc, ← hbracket, ← hbracket, ← hpath] at hrest
    have hall := hopen.trans hrest
    simpa using hall

theorem readsUse_value (opening : Token) (k : Kind) {d : Datum}
    (h : Reads resolve (d.tokens "") d.value) :
    ReadsUse resolve opening (k.name.tokens "" ++ Datum.tokensOfArguments (.value d))
      ⟨String.ofList k.name.letters, [⟨none, d.value⟩]⟩ := by
  obtain ⟨tree, hreads, hmeans⟩ := h
  have htokens : k.name.tokens "" ++ Datum.tokensOfArguments (.value d) =
      k.name.tokens "" ++ sign "(" :: d.tokens "" ++ [sign ")"] := by
    simp [Datum.tokensOfArguments]
  rw [htokens]
  exact readsUse_arguments hresolve opening k .value [.phrase elementValue] [tree] rfl (fun _ _ => rfl) hmeans.arguments
    fun below trees => hreads .alone rightParen (sign ")") (by simp [Slot.followers])
      tells_closingParen below trees

theorem readsUse_pair (opening : Token) (k : Kind) {p : Identifier × Datum}
    (h : Reads resolve (p.2.tokens " ") p.2.value) :
    ReadsUse resolve opening (k.name.tokens "" ++ Datum.tokensOfArguments (.pairs [p]))
      ⟨String.ofList k.name.letters, [⟨some p.1.text, p.2.value⟩]⟩ := by
  obtain ⟨tree, hreads, hmeant⟩ := reads_pair h
  have htokens : k.name.tokens "" ++ Datum.tokensOfArguments (.pairs [p]) =
      k.name.tokens "" ++ sign "(" :: pairTokens "" p ++ [sign ")"] := by
    simp [Datum.tokensOfArguments, Datum.tokensOfMorePairs, pairTokens]
  rw [htokens]
  exact readsUse_arguments hresolve opening k .pair [.phrase elementPair] [tree] rfl (fun _ _ => rfl) hmeant
    fun below trees => hreads .first rightParen (sign ")") (.inl rfl) tells_closingParen below trees

theorem readsUse_pairs (opening : Token) (k : Kind) {p q : Identifier × Datum}
    {ps : List (Identifier × Datum)} (hp : Reads resolve (p.2.tokens " ") p.2.value)
    (h : ∀ p' ∈ q :: ps, Reads resolve (p'.2.tokens " ") p'.2.value) :
    ReadsUse resolve opening (k.name.tokens "" ++ Datum.tokensOfArguments (.pairs (p :: q :: ps)))
      ⟨String.ofList k.name.letters, Datum.valuesOfPairs (p :: q :: ps)⟩ := by
  obtain ⟨first, hfirst, hmeant⟩ := @reads_pair resolve "" p hp
  obtain ⟨items, hmoreTokens, hitems, harguments⟩ := exists_pairs h
  obtain ⟨item, items, rfl⟩ : ∃ i is, items = i :: is := by
    refine List.exists_cons_of_ne_nil ?_
    rintro rfl
    simp [Row.moreTokens, Datum.tokensOfMorePairs] at hmoreTokens
  obtain ⟨parts, hparts, hgoes⟩ := Row.goes_items (r := .pairs) tells_closingParen rfl hfirst hitems
  have htokens : k.name.tokens "" ++ Datum.tokensOfArguments (.pairs (p :: q :: ps)) =
      k.name.tokens "" ++ sign "(" :: (pairTokens "" p ++ Row.moreTokens (item :: items)) ++
        [sign ")"] := by
    rw [hmoreTokens]
    simp [Datum.tokensOfArguments, pairTokens]
  have hmore : writtenArguments? resolve (arguments (dissolveAll [] [first, .node morePairs parts])) =
      some (Datum.valuesOfPairs (p :: q :: ps)) := by
    rw [dissolveAll_flatMap, List.flatMap_cons, List.flatMap_singleton, arguments_append]
    refine writtenArguments?_append hmeant ?_
    rw [← hparts] at harguments
    exact harguments
  rw [htokens]
  exact readsUse_arguments hresolve opening k .pairs [.phrase elementPair, .phrase morePairs]
    [first, .node morePairs parts] rfl
    (fun _ _ => rfl) hmore hgoes

theorem readsUse_use (opening : Token) (a : Annotation)
    (h : ∀ d ∈ a.data, ∀ gap, Reads resolve (d.tokens gap) d.value) :
    ReadsUse resolve opening (a.kind.name.tokens "" ++ Datum.tokensOfArguments a.arguments) a.use := by
  obtain ⟨k, arguments⟩ := a
  match arguments, h with
  | .value d, h => exact readsUse_value hresolve opening k (h d (List.mem_singleton_self d) "")
  | .pairs [], _ =>
    rw [Datum.tokensOfArguments, List.append_nil]
    exact readsUse_marker hresolve opening k
  | .pairs [p], h => exact readsUse_pair hresolve opening k (h p.2 (List.mem_singleton_self p.2) " ")
  | .pairs (p :: q :: ps), h =>
    exact readsUse_pairs hresolve opening k (h p.2 List.mem_cons_self " ")
      fun p' hp' => h p'.2 (List.mem_map_of_mem (List.mem_cons_of_mem p hp')) " "

theorem reads_nested (gap : String) (a : Annotation)
    (h : ∀ d ∈ a.data, ∀ gap, Reads resolve (d.tokens gap) d.value) :
    Reads resolve ((Datum.nested a.kind a.arguments).tokens gap) (.nested a.use) := by
  obtain ⟨e, stack, parts, use, huse, hmeant, hclosed, hgoes⟩ :=
    readsUse_use hresolve ⟨gap, .symbol, "@"⟩ a h
  have htree : dissolve [] (.node elementValue [.node annotationUse parts]) =
      [.node annotationUse (dissolveAll [] parts)] := by
    simp [dissolve, dissolveAll, isGroup]
  have hvalue : (Written.nested use).value? resolve = some (.nested a.use) := by
    rw [value?_nested, hmeant]
    rfl
  refine ⟨.node elementValue [.node annotationUse parts], fun s t last ht hlast below trees => ?_,
    .of_value htree rfl (value?_of_use? huse) hvalue⟩
  have hm : Move.shift s.anchor s.path [] plainSign atSign ∈ valueMoves s := by simp [valueMoves]
  have hhost : (s.anchor, s.path) ∈ hosts := List.mem_cons_of_mem _ (List.mem_map_of_mem s.mem_all)
  have hopen := Move.goes_take (mem_moves_of_value hm) (@tells_at gap) below trees
  have hrest := hgoes _ hhost below (.leaf atSign ⟨gap, .symbol, "@"⟩ :: trees)
  have hend := @goes_end s (.use e) (List.mem_append_right _ (List.mem_map_of_mem e.mem_all)) t ht
    last hlast below [stack ++ .leaf atSign ⟨gap, .symbol, "@"⟩ :: trees] rfl (List.cons_ne_nil _ _)
  have hclose : closeParts ((ValueEnd.use e).closed ++ [(elementValue, 1)])
      ([stack ++ .leaf atSign ⟨gap, .symbol, "@"⟩ :: trees].getD (ValueEnd.use e).origin []) =
        .node elementValue [.node annotationUse parts] :: trees := by
    rw [Grammar.closeParts_append]
    exact congrArg (closeParts [(elementValue, 1)]) (hclosed trees)
  rw [hclose] at hend
  rw [Datum.tokens]
  exact (hopen.trans hrest).trans hend

/-- The tokens of a value are read as that value, wherever values stand. -/
theorem reads_datum (d : Datum) : ∀ gap, Reads resolve (d.tokens gap) d.value := by
  induction d using Datum.induct with
  | string text => exact fun gap => reads_string gap text
  | integer n h => exact fun gap => reads_integer gap h
  | truth b => exact fun gap => reads_truth gap b
  | null => exact fun gap => reads_null gap
  | type name => exact fun gap => reads_type gap name
  | constant name => exact fun gap => reads_constant gap name
  | array items ih => exact fun gap => reads_array gap ih
  | value kind d ih =>
    exact fun gap => reads_nested hresolve gap ⟨kind, .value d⟩ (List.forall_mem_singleton.2 ih)
  | pairs kind ps ih =>
    exact fun gap => reads_nested hresolve gap ⟨kind, .pairs ps⟩ (List.forall_mem_map.2 ih)

/-- The tokens of an annotation after its sign are read as that annotation. -/
theorem readsUse (a : Annotation) : ReadsUse resolve (sign "@")
    (a.kind.name.tokens "" ++ Datum.tokensOfArguments a.arguments) a.use :=
  readsUse_use hresolve (sign "@") a fun d _ => reads_datum hresolve d

end Uses

end Canonical

end AnnotationIndex.Java
