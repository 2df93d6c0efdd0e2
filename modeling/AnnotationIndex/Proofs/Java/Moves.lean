import AnnotationIndex.Proofs.Java.Slots

/-!
# Runs of moves

A move that the table allows is one turn of every run whose readings have the last states it is
about. Moves follow one another as runs on their tokens do, so that what is read of a value or of an
annotation is put together from the moves on its tokens.
-/

namespace AnnotationIndex.Java.Syntax

open Terminal Phrase
open Grammar (Cue Front Ground Reading Strand Table closeParts)

/-- Readings that are known as `fs` take some tokens, one in each turn, and are then known as
`fs'`. -/
def Goes (fs : List (Front Terminal Phrase Token)) (ts : List Token)
    (fs' : List (Front Terminal Phrase Token)) : Prop :=
  ∀ (weight position : Nat) (more : List Token)
    (rs : List (Reading Terminal Phrase Token (List Token))),
    List.Forall₂ (Reading.At ⟨[], weight, position, ts ++ more⟩) fs rs →
      ∃ weight' position' rs', (∀ fuel, Reading.run table scan (fuel + ts.length) rs =
          Reading.run table scan fuel rs') ∧
        List.Forall₂ (Reading.At ⟨[], weight', position', more⟩) fs' rs'

theorem Goes.trans {fs fs' fs'' : List (Front Terminal Phrase Token)} {ts us : List Token}
    (h : Goes fs ts fs') (h' : Goes fs' us fs'') : Goes fs (ts ++ us) fs'' := by
  intro weight position more rs hrs
  rw [List.append_assoc] at hrs
  obtain ⟨weight', position', rs', hrun, hrs'⟩ := h _ _ _ _ hrs
  obtain ⟨weight'', position'', rs'', hrun', hrs''⟩ := h' _ _ _ _ hrs'
  refine ⟨weight'', position'', rs'', fun fuel => ?_, hrs''⟩
  rw [List.length_append, Nat.add_comm ts.length, ← Nat.add_assoc, hrun, hrun']

theorem Goes.weigh {fs : List (Front Terminal Phrase Token)} {ts : List Token} {states : List RowState}
    {trees : List Tree} {weight : Nat} (h : Goes fs ts [⟨states, trees, weight⟩]) :
    Goes fs ts [⟨states, trees, 0⟩] := by
  intro base position more rs hrs
  obtain ⟨base', position', rs', hrun, hrs'⟩ := h _ _ _ _ hrs
  refine ⟨weight + base', position', rs', hrun, ?_⟩
  cases hrs' with
  | cons hr hnone =>
    cases hnone
    refine .cons ⟨hr.states, hr.trees, hr.height, ?_, hr.position, hr.rest⟩ .nil
    rw [hr.weight]
    exact (Nat.zero_add _).symm

/-- What is known of readings that have read the given symbols since an anchor. -/
def frontsAt (a : Anchor) (below : List RowState) (paths : List (List Symbol))
    (trees : List (List Tree)) : List (Front Terminal Phrase Token) :=
  (paths.zip trees).map fun (path, ts) => ⟨rowAt a path ++ below, ts, 0⟩

def Move.results (m : Move) (below : List RowState) (trees : List (List Tree)) (token : Token) :
    List (Front Terminal Phrase Token) :=
  m.outcomes.map fun o => ⟨rowAt m.anchor o.path ++ below,
    .leaf o.kind token :: closeParts o.closed (trees.getD o.origin []), o.weight⟩

theorem Move.run {m : Move} (hm : m ∈ allMoves) {below : List RowState} {trees : List (List Tree)}
    (hlength : m.before.length = trees.length) (hne : trees ≠ []) {token : Token} {length : Nat}
    {weight position : Nat} {text rest : List Token}
    (hcue : m.cue.Tells scan text token length rest)
    {rs : List (Reading Terminal Phrase Token (List Token))}
    (hrs : List.Forall₂ (Reading.At ⟨[], weight, position, text⟩)
      (frontsAt m.anchor below m.before trees) rs) :
    ∃ position' rs', (∀ fuel, Reading.run table scan (fuel + 1) rs =
        Reading.run table scan fuel rs') ∧
      List.Forall₂ (Reading.At ⟨[], weight, position', rest⟩) (m.results below trees token) rs' := by
  let fs : List (Front Terminal Phrase Token) :=
    (m.before.zip trees).map fun (path, ts) => ⟨rowAt m.anchor path, ts, 0⟩
  have hon : frontsAt m.anchor below m.before trees = fs.map (.on below) := by
    rw [List.map_map]
    rfl
  have hrows : fs.map (fun f => (f.states, f.weight)) = m.before.map (rowAt m.anchor · , 0) := by
    rw [List.map_map]
    conv => rhs; rw [← List.map_fst_zip (Nat.le_of_eq hlength), List.map_map]
    rfl
  have htrees : fs.map (·.trees) = trees := by
    rw [List.map_map]
    exact List.map_snd_zip (Nat.le_of_eq hlength.symm)
  have hfs : fs ≠ [] := by
    intro hnil
    rw [hnil] at htrees
    exact hne htrees.symm
  have hknown : List.Forall₂ (Reading.At ⟨below, weight, position, text⟩) fs rs := by
    rw [hon, List.forall₂_map_left_iff] at hrs
    exact hrs.imp fun _ _ hr => Reading.at_on_iff.1 hr
  obtain ⟨rs', hrun, hrs'⟩ := Reading.run_of_turn? hknown hfs (hrows ▸ turn_of_mem hm) hcue (by decide)
  refine ⟨position + length, rs', hrun, ?_⟩
  rw [htrees, List.map_map] at hrs'
  have hresults : m.results below trees token = (m.outcomes.map (Front.taking trees token ∘ fun o =>
      (o.kind, ⟨o.origin, o.closed, rowAt m.anchor o.path, o.weight⟩))).map (.on below) := by
    rw [List.map_map]
    rfl
  rw [hresults, List.forall₂_map_left_iff]
  exact hrs'.imp fun _ _ hr => Reading.at_on_iff.2 hr

theorem Move.goes {m : Move} (hm : m ∈ allMoves) (below : List RowState) {trees : List (List Tree)}
    (hlength : m.before.length = trees.length) (hne : trees ≠ []) {token : Token}
    (hcue : ∀ more, m.cue.Tells scan (token :: more) token (extent token) more) :
    Goes (frontsAt m.anchor below m.before trees) [token] (m.results below trees token) := by
  intro weight position more rs hrs
  obtain ⟨position', rs', hrun, hrs'⟩ := Move.run hm hlength hne (hcue more) hrs
  exact ⟨weight, position', rs', hrun, hrs'⟩

theorem tells_sign {gap text : String} {t : Terminal} (h : signs.lookup text = some t)
    (hclosing : text ≠ ">") (hat : text ≠ "@") (more : List Token) :
    (sure t).Tells scan (⟨gap, .symbol, text⟩ :: more) ⟨gap, .symbol, text⟩
      (extent ⟨gap, .symbol, text⟩) more := by
  rintro canFollow known - kind ⟨⟩
  simp [scan, cutSign, h, hclosing, hat, cut]

theorem tells_at {gap : String} (more : List Token) :
    plainSign.Tells scan (⟨gap, .symbol, "@"⟩ :: more) ⟨gap, .symbol, "@"⟩
      (extent ⟨gap, .symbol, "@"⟩) more := by
  intro canFollow known hknown kind hkind
  simp only [plainSign, Option.ite_none_right_eq_some, Option.some.injEq] at hkind
  obtain ⟨hnone, rfl⟩ := hkind
  have hat : signs.lookup "@" = some atSign := by decide
  simp [scan, cutSign, hknown _ _ hnone, hat, cut]

theorem tells_integer {t : Token} (h : t.kind = .integer) (more : List Token) :
    (sure integer).Tells scan (t :: more) t (extent t) more := by
  rintro canFollow known - kind ⟨⟩
  simp [scan, h, cut]

theorem tells_string {t : Token} (h : t.kind = .string) (more : List Token) :
    (sure string).Tells scan (t :: more) t (extent t) more := by
  rintro canFollow known - kind ⟨⟩
  simp [scan, h, cut]

theorem tells_keyword {gap text : String} {t : Terminal} (h : Terminal.words.lookup text = some t)
    (more : List Token) :
    (keyword t).Tells scan (⟨gap, .word, text⟩ :: more) ⟨gap, .word, text⟩
      (extent ⟨gap, .word, text⟩) more := by
  have hnon : text ≠ "non" := by
    rintro rfl
    have hnone : Terminal.words.lookup "non" = none := by decide
    rw [hnone] at h
    cases h
  intro canFollow known hknown kind hkind
  obtain ⟨fits, hfits, rfl⟩ := Option.map_eq_some_iff.1 hkind
  simp [scan, cutWord, h, hnon, hknown _ _ hfits, cut]

theorem tells_name {gap text : String} (h : Terminal.words.lookup text = none)
    (more : List Token) :
    plainName.Tells scan (⟨gap, .word, text⟩ :: more) ⟨gap, .word, text⟩
      (extent ⟨gap, .word, text⟩) more := by
  intro canFollow known hknown kind hkind
  simp only [plainName, Option.ite_none_right_eq_some, Option.some.injEq] at hkind
  obtain ⟨hnone, rfl⟩ := hkind
  simp [scan, cutWord, h, hknown _ _ hnone, cut]

theorem Move.goes_take {a : Anchor} {base before after : List Symbol} {cue : Cue Terminal}
    {kind : Terminal} {closed : List (Phrase × Nat)}
    (hm : Move.take a base before cue kind closed after ∈ allMoves) {token : Token}
    (hcue : ∀ more, cue.Tells scan (token :: more) token (extent token) more)
    (below : List RowState) (trees : List Tree) :
    Goes [⟨rowAt a (base ++ before) ++ below, trees, 0⟩] [token]
      [⟨rowAt a (base ++ (after ++ [Grammar.Symbol.token kind])) ++ below,
        .leaf kind token :: closeParts closed trees, 0⟩] := by
  have hne : [trees] ≠ [] := List.cons_ne_nil _ _
  exact Move.goes hm below rfl hne hcue

theorem mem_moves_of_value {s : Slot} {m : Move} (h : m ∈ valueMoves s) : m ∈ allMoves := by
  simp only [allMoves, List.mem_append, List.mem_flatMap]
  exact .inl (.inl (.inl ⟨s, s.mem_all, .inl h⟩))

theorem mem_moves_of_end {s : Slot} {m : Move} (h : m ∈ endMoves s) : m ∈ allMoves := by
  simp only [allMoves, List.mem_append, List.mem_flatMap]
  exact .inl (.inl (.inl ⟨s, s.mem_all, .inr h⟩))

theorem mem_moves_of_kind {host : Anchor × List Symbol} (hhost : host ∈ hosts) {m : Move}
    (h : m ∈ kindMoves host.1 host.2) : m ∈ allMoves := by
  simp only [allMoves, List.mem_append, List.mem_flatMap]
  exact .inl (.inl (.inr ⟨host, hhost, h⟩))

theorem mem_moves_of_pair {m : Move} (h : m ∈ pairMoves) : m ∈ allMoves := by
  simp only [allMoves, List.mem_append]
  exact .inl (.inr h)

theorem mem_moves_of_class {m : Move} (h : m ∈ classMoves) : m ∈ allMoves := by
  simp only [allMoves, List.mem_append]
  exact .inr (List.mem_cons_of_mem _ h)

theorem goes_end {s : Slot} {e : ValueEnd} (he : e ∈ ValueEnd.all) {t : Terminal}
    (ht : t ∈ s.followers) {token : Token}
    (hcue : ∀ more, (sure t).Tells scan (token :: more) token (extent token) more)
    (below : List RowState) {trees : List (List Tree)} (hlength : e.paths.length = trees.length)
    (hne : trees ≠ []) :
    Goes (frontsAt s.anchor below (e.paths.map (s.path ++ ·)) trees) [token]
      [⟨rowAt s.anchor (s.closedPath ++ [Grammar.Symbol.token t]) ++ below,
        .leaf t token :: closeParts s.closed
          (closeParts (e.closed ++ [(elementValue, 1)]) (trees.getD e.origin [])), 0⟩] := by
  have hm : (⟨s.anchor, e.paths.map (s.path ++ ·), sure t,
      [{ kind := t, path := s.closedPath ++ [Grammar.Symbol.token t], origin := e.origin,
         closed := e.closed ++ (elementValue, 1) :: s.closed, weight := e.weight }]⟩ : Move) ∈
      allMoves := by
    apply mem_moves_of_end
    exact List.mem_flatMap.2 ⟨e, he, List.mem_map.2 ⟨t, ht, rfl⟩⟩
  have hgoes := Move.goes hm below ((List.length_map _).trans hlength) hne hcue
  rw [← Grammar.closeParts_append, List.append_assoc, List.singleton_append]
  exact hgoes.weigh

end AnnotationIndex.Java.Syntax
