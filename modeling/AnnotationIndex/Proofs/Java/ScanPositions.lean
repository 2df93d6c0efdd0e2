import AnnotationIndex.Proofs.Java.ScanBytes

/-!
# The scan for headers by positions

The scan over the marks of a text can be taken with a position in the row of marks. The declaration
of a package or an import moves the position behind it at once, and whether a mark follows a dot is
read from the row. So every turn moves the position on, and the loop comes to its end with the
header. With the scan by bytes before it, the whole scan of a text reads no byte and no mark that is
not there, cuts the text between characters only and comes to its end.
-/

namespace AnnotationIndex.Java

open Header Text

variable {tokens : List Mark} {i j : Nat}

/-- The words and dots from a position on, written together, and the position after them. -/
def nameAt (tokens : List Mark) (i : Nat) : String × Nat :=
  match h : tokens[i]? with
  | some (.word w) => (w ++ (nameAt tokens (i + 1)).1, (nameAt tokens (i + 1)).2)
  | some .dot => ("." ++ (nameAt tokens (i + 1)).1, (nameAt tokens (i + 1)).2)
  | _ => ("", i)
termination_by tokens.length - i
decreasing_by
  all_goals
    have := (List.getElem?_eq_some_iff.1 h).1
    omega

/-- The position after the first mark from `i` on that is none of the named ones. -/
def otherAt (tokens : List Mark) (i : Nat) : Nat :=
  match h : tokens[i]? with
  | some mark => if mark = .other then i + 1 else otherAt tokens (i + 1)
  | none => i
termination_by tokens.length - i
decreasing_by
  have := (List.getElem?_eq_some_iff.1 h).1
  omega

def importAt (tokens : List Mark) (i : Nat) : Option String × Nat :=
  if tokens[i]? = some (.word "static") then (none, otherAt tokens (nameAt tokens (i + 1)).2)
  else
    (onDemandOf? (nameAt tokens i).1 (tokens.drop (nameAt tokens i).2),
      otherAt tokens (nameAt tokens i).2)

/-- A position not before `i`, and in the row or at its end, where `rest` is left. -/
structure MovesTo (tokens : List Mark) (i j : Nat) (rest : List Mark) : Prop where
  le : i ≤ j
  bound : j ≤ tokens.length
  left : tokens.drop j = rest

section Moves

variable {rest : List Mark} {mark : Mark}

theorem MovesTo.back (h : MovesTo tokens (i + 1) j rest) : MovesTo tokens i j rest :=
  ⟨Nat.le_of_succ_le h.le, h.bound, h.left⟩

theorem MovesTo.trans {k : Nat} {more : List Mark} (h : MovesTo tokens i j rest)
    (hmore : MovesTo tokens j k more) : MovesTo tokens i k more :=
  ⟨Nat.le_trans h.le hmore.le, hmore.bound, hmore.left⟩

theorem drop_of_getElem? (h : tokens[i]? = some mark) :
    tokens.drop i = mark :: tokens.drop (i + 1) := by
  obtain ⟨hi, rfl⟩ := List.getElem?_eq_some_iff.1 h
  exact List.drop_eq_getElem_cons hi

theorem lt_of_getElem? (h : tokens[i]? = some mark) : i < tokens.length :=
  (List.getElem?_eq_some_iff.1 h).1

theorem nameAt_eq (h : i ≤ tokens.length) :
    (nameAt tokens i).1 = (dottedName (tokens.drop i)).1 ∧
      MovesTo tokens i (nameAt tokens i).2 (dottedName (tokens.drop i)).2 := by
  fun_induction nameAt tokens i with
  | case1 i w hw ih =>
    obtain ⟨hname, hmoves⟩ := ih (lt_of_getElem? hw)
    rw [drop_of_getElem? hw, dottedName, hname]
    exact ⟨rfl, hmoves.back⟩
  | case2 i hdot ih =>
    obtain ⟨hname, hmoves⟩ := ih (lt_of_getElem? hdot)
    rw [drop_of_getElem? hdot, dottedName, hname]
    exact ⟨rfl, hmoves.back⟩
  | case3 i hword hdot =>
    have hname : dottedName (tokens.drop i) = ("", tokens.drop i) := by
      rw [← List.head?_drop] at hword hdot
      refine dottedName.eq_3 _ (fun w rest hrest => ?_) fun rest hrest => ?_
      · exact hword w (by rw [hrest]; rfl)
      · exact hdot (by rw [hrest]; rfl)
    rw [hname]
    exact ⟨rfl, Nat.le_refl i, h, rfl⟩

theorem otherAt_eq (h : i ≤ tokens.length) :
    MovesTo tokens i (otherAt tokens i) (afterOther (tokens.drop i)) := by
  fun_induction otherAt tokens i with
  | case1 i hother =>
    rw [drop_of_getElem? hother]
    exact ⟨Nat.le_succ i, lt_of_getElem? hother, rfl⟩
  | case2 i mark hmark hne ih =>
    have hskip : afterOther (mark :: tokens.drop (i + 1)) = afterOther (tokens.drop (i + 1)) := by
      rw [afterOther, List.dropWhile_cons_of_pos (by simpa using hne), afterOther]
    rw [drop_of_getElem? hmark, hskip]
    exact (ih (lt_of_getElem? hmark)).back
  | case3 i hend =>
    have hnil : tokens.drop i = [] := List.drop_eq_nil_of_le (List.getElem?_eq_none_iff.1 hend)
    rw [hnil]
    exact ⟨Nat.le_refl i, h, hnil⟩

theorem importAt_eq (h : i ≤ tokens.length) :
    (importAt tokens i).1 = (importTail (tokens.drop i)).1 ∧
      MovesTo tokens i (importAt tokens i).2 (importTail (tokens.drop i)).2 := by
  unfold importAt
  split
  · rename_i hstatic
    obtain ⟨-, hmoves⟩ := nameAt_eq (lt_of_getElem? hstatic)
    have hother := otherAt_eq hmoves.bound
    rw [hmoves.left] at hother
    rw [drop_of_getElem? hstatic, importTail]
    exact ⟨rfl, (hmoves.trans hother).back⟩
  · rename_i hstatic
    obtain ⟨hname, hmoves⟩ := nameAt_eq h
    have hother := otherAt_eq hmoves.bound
    rw [hmoves.left] at hother
    have htail : importTail (tokens.drop i) =
        (onDemandOf? (dottedName (tokens.drop i)).1 (dottedName (tokens.drop i)).2,
          afterOther (dottedName (tokens.drop i)).2) := by
      rw [← List.head?_drop] at hstatic
      exact importTail.eq_2 _ fun rest hrest => hstatic (by rw [hrest]; rfl)
    rw [htail, hname, hmoves.left]
    exact ⟨rfl, hmoves.trans hother⟩

end Moves

def followsDot? (tokens : List Mark) (i : Nat) : Option Bool :=
  if 0 < i then tokens[i - 1]?.map (· == .dot) else some false

def Header.State.inPackage (s : State) (name : String) : State :=
  { s with package := if name.isEmpty then none else some name }

def Header.State.importing (s : State) (provided : Option String) : State :=
  { s with onDemand := s.onDemand ++ provided.toList }

/-- The position of the next turn after the one at a position, and the state then. What the state
says about a dot before it is not used. -/
def declareAt? (tokens : List Mark) (i : Nat) (s : State) : Option (Nat × State) := do
  match ← tokens[i]? with
  | .word w =>
    if w = "package" && s.atFileLevel && s.package.isNone then
      let (name, next) := nameAt tokens (i + 1)
      return (next, s.inPackage name)
    if w = "import" && s.atFileLevel then
      let (provided, next) := importAt tokens (i + 1)
      return (next, s.importing provided)
    if isTypeKeyword w && s.atTypeLevel && !(← followsDot? tokens i) then
      if let some name := typeName? (tokens.drop (i + 1)) then
        return (i + 2, s.typeDecl name)
    return (i + 1, s.skip (.word w))
  | mark => return (i + 1, s.skip mark)

/-- The loop over marks: a position and the state of the scan. -/
def declarer (tokens : List Mark) : Loop (Nat × State) where
  goesOn s := s.1 < tokens.length
  turn? s := declareAt? tokens s.1 s.2

def Header.State.dotted (s : State) (dot : Bool) : State := { s with afterDot := dot }

def dotBefore (tokens : List Mark) (i : Nat) : Bool := 0 < i && tokens[i - 1]? == some .dot

section Turns

variable {mark : Mark} {s s' : State} {w name : String}

theorem followsDot?_eq (h : i < tokens.length) :
    followsDot? tokens i = some (dotBefore tokens i) := by
  rcases Nat.eq_zero_or_pos i with rfl | hpos
  · rfl
  · rw [followsDot?, dotBefore, if_pos hpos, List.getElem?_eq_getElem (by omega)]
    simp [hpos]

theorem dotBefore_succ (h : tokens[i]? = some mark) :
    dotBefore tokens (i + 1) = decide (mark = .dot) := by
  simp only [dotBefore, Nat.add_sub_cancel, h, Nat.succ_pos, decide_true, Bool.true_and,
    Option.some_beq_some]
  rfl

theorem endsInDot_eq (hle : i ≤ j) (hj : j ≤ tokens.length) (hdot : dotBefore tokens i = false) :
    endsInDot (tokens.drop i) (tokens.drop j) = dotBefore tokens j := by
  have hcount : (tokens.drop i).length - (tokens.drop j).length = j - i := by
    rw [List.length_drop, List.length_drop]
    omega
  rw [endsInDot, hcount, List.getLast?_take]
  rcases Nat.eq_or_lt_of_le hle with rfl | hlt
  · rw [if_pos (Nat.sub_self i), hdot]
    rfl
  · obtain ⟨k, rfl⟩ : ∃ k, j = k + 1 := ⟨j - 1, by omega⟩
    have hlast : (tokens.drop i)[k + 1 - i - 1]? = some tokens[k] := by
      rw [List.getElem?_drop, show i + (k + 1 - i - 1) = k by omega, List.getElem?_eq_getElem]
    rw [if_neg (by omega), hlast, dotBefore_succ (List.getElem?_eq_getElem hj)]
    simp

theorem packageDecl_dotted (hi : i ≤ tokens.length) (hdot : dotBefore tokens i = false) (b : Bool) :
    (s.dotted b).packageDecl (tokens.drop i) =
      (s.inPackage (nameAt tokens i).1).dotted (dotBefore tokens (nameAt tokens i).2) := by
  obtain ⟨hname, hmoves⟩ := nameAt_eq hi
  rw [← endsInDot_eq hmoves.le hmoves.bound hdot, hmoves.left, hname]
  rfl

theorem importDecl_dotted (hi : i ≤ tokens.length) (hdot : dotBefore tokens i = false) (b : Bool) :
    (s.dotted b).importDecl (tokens.drop i) =
      (s.importing (importAt tokens i).1).dotted (dotBefore tokens (importAt tokens i).2) := by
  obtain ⟨hprovided, hmoves⟩ := importAt_eq hi
  rw [← endsInDot_eq hmoves.le hmoves.bound hdot, hmoves.left, hprovided]
  rfl

theorem typeName?_drop (h : typeName? (tokens.drop i) = some name) :
    tokens[i]? = some (.word name) := by
  rw [← List.head?_drop]
  unfold typeName? at h
  split at h
  · rename_i w rest hrest
    split at h
    · rw [hrest, List.head?_cons, Option.some.inj h]
    · cases h
  · cases h

theorem skip_afterDot (s : State) (mark : Mark) :
    (s.skip mark).afterDot = decide (mark = .dot) := by
  cases mark with
  | openBrace =>
    simp only [State.skip, State.openBrace]
    split
    · split <;> rfl
    · rfl
  | _ => rfl

theorem skip_dotted (h : tokens[i]? = some mark) (b : Bool) :
    (s.dotted b).skip mark = (s.skip mark).dotted (dotBefore tokens (i + 1)) := by
  rw [dotBefore_succ h, ← skip_afterDot s mark]
  rfl

/-- The turn at a position has no fault and moves on, and the scan of what is left is the same
before it and after it. -/
structure Declares (tokens : List Mark) (i : Nat) (s : State) (j : Nat) (s' : State) : Prop where
  turn : declareAt? tokens i s = some (j, s')
  advances : i < j
  bound : j ≤ tokens.length
  scan : scan (s.dotted (dotBefore tokens i)) (tokens.drop i) =
    scan (s'.dotted (dotBefore tokens j)) (tokens.drop j)

theorem declareAt?_word (hw : tokens[i]? = some (.word w)) :
    declareAt? tokens i s =
      if w = "package" && s.atFileLevel && s.package.isNone then
        some ((nameAt tokens (i + 1)).2, s.inPackage (nameAt tokens (i + 1)).1)
      else if w = "import" && s.atFileLevel then
        some ((importAt tokens (i + 1)).2, s.importing (importAt tokens (i + 1)).1)
      else if isTypeKeyword w && s.atTypeLevel && !dotBefore tokens i then
        match typeName? (tokens.drop (i + 1)) with
        | some name => some (i + 2, s.typeDecl name)
        | none => some (i + 1, s.skip (.word w))
      else some (i + 1, s.skip (.word w)) := by
  simp only [declareAt?, hw, Option.bind_eq_bind, Option.bind_some,
    followsDot?_eq (lt_of_getElem? hw)]
  cases typeName? (tokens.drop (i + 1)) <;> rfl

theorem scan_word (b : Bool) (rest : List Mark) :
    Header.scan (s.dotted b) (.word w :: rest) =
      if w = "package" && s.atFileLevel && s.package.isNone then
        Header.scan ((s.dotted b).packageDecl rest) (dottedName rest).2
      else if w = "import" && s.atFileLevel then
        Header.scan ((s.dotted b).importDecl rest) (importTail rest).2
      else if isTypeKeyword w && s.atTypeLevel && !b then
        match typeName? rest with
        | some name => Header.scan ((s.dotted b).typeDecl name) (rest.drop 1)
        | none => Header.scan ((s.dotted b).skip (.word w)) rest
      else Header.scan ((s.dotted b).skip (.word w)) rest := by
  rw [scan]
  rfl

theorem declares_package (hw : tokens[i]? = some (.word w))
    (hpackage : (w = "package" && s.atFileLevel && s.package.isNone) = true) :
    Declares tokens i s (nameAt tokens (i + 1)).2 (s.inPackage (nameAt tokens (i + 1)).1) := by
  have hi : i + 1 ≤ tokens.length := lt_of_getElem? hw
  obtain ⟨-, hmoves⟩ := nameAt_eq hi
  refine ⟨?_, hmoves.le, hmoves.bound, ?_⟩
  · rw [declareAt?_word hw, if_pos hpackage]
  · rw [drop_of_getElem? hw, scan_word, if_pos hpackage, packageDecl_dotted hi (dotBefore_succ hw),
      hmoves.left]

theorem declares_import (hw : tokens[i]? = some (.word w))
    (hpackage : ¬(w = "package" && s.atFileLevel && s.package.isNone) = true)
    (himport : (w = "import" && s.atFileLevel) = true) :
    Declares tokens i s (importAt tokens (i + 1)).2 (s.importing (importAt tokens (i + 1)).1) := by
  have hi : i + 1 ≤ tokens.length := lt_of_getElem? hw
  obtain ⟨-, hmoves⟩ := importAt_eq hi
  refine ⟨?_, hmoves.le, hmoves.bound, ?_⟩
  · rw [declareAt?_word hw, if_neg hpackage, if_pos himport]
  · rw [drop_of_getElem? hw, scan_word, if_neg hpackage, if_pos himport,
      importDecl_dotted hi (dotBefore_succ hw), hmoves.left]

theorem declares_type (hw : tokens[i]? = some (.word w))
    (hpackage : ¬(w = "package" && s.atFileLevel && s.package.isNone) = true)
    (himport : ¬(w = "import" && s.atFileLevel) = true)
    (htype : (isTypeKeyword w && s.atTypeLevel && !dotBefore tokens i) = true)
    (hname : typeName? (tokens.drop (i + 1)) = some name) :
    Declares tokens i s (i + 2) (s.typeDecl name) := by
  have hnext := typeName?_drop hname
  have hdot : (s.typeDecl name).dotted (dotBefore tokens (i + 2)) = s.typeDecl name := by
    rw [dotBefore_succ hnext]
    rfl
  refine ⟨?_, Nat.lt_add_of_pos_right Nat.two_pos, lt_of_getElem? hnext, ?_⟩
  · rw [declareAt?_word hw, if_neg hpackage, if_neg himport, if_pos htype, hname]
  · rw [drop_of_getElem? hw, scan_word, if_neg hpackage, if_neg himport, if_pos htype, hname,
      List.drop_drop, hdot]
    rfl

theorem declares_skip (hmark : tokens[i]? = some mark)
    (hturn : declareAt? tokens i s = some (i + 1, s.skip mark))
    (hscan : Header.scan (s.dotted (dotBefore tokens i)) (mark :: tokens.drop (i + 1)) =
      Header.scan ((s.dotted (dotBefore tokens i)).skip mark) (tokens.drop (i + 1))) :
    Declares tokens i s (i + 1) (s.skip mark) := by
  refine ⟨hturn, Nat.lt_succ_self i, lt_of_getElem? hmark, ?_⟩
  rw [drop_of_getElem? hmark, hscan, skip_dotted hmark]

theorem declareAt?_eq (hi : i < tokens.length) (s : State) : ∃ j s', Declares tokens i s j s' := by
  obtain ⟨mark, hmark⟩ : ∃ mark, tokens[i]? = some mark := ⟨_, List.getElem?_eq_getElem hi⟩
  cases mark with
  | word w =>
    by_cases hpackage : (w = "package" && s.atFileLevel && s.package.isNone) = true
    · exact ⟨_, _, declares_package hmark hpackage⟩
    by_cases himport : (w = "import" && s.atFileLevel) = true
    · exact ⟨_, _, declares_import hmark hpackage himport⟩
    by_cases htype : (isTypeKeyword w && s.atTypeLevel && !dotBefore tokens i) = true
    · cases hname : typeName? (tokens.drop (i + 1)) with
      | some name => exact ⟨_, _, declares_type hmark hpackage himport htype hname⟩
      | none =>
        refine ⟨_, _, declares_skip hmark ?_ ?_⟩
        · rw [declareAt?_word hmark, if_neg hpackage, if_neg himport, if_pos htype, hname]
        · rw [scan_word, if_neg hpackage, if_neg himport, if_pos htype, hname]
    · refine ⟨_, _, declares_skip hmark ?_ ?_⟩
      · rw [declareAt?_word hmark, if_neg hpackage, if_neg himport, if_neg htype]
      · rw [scan_word, if_neg hpackage, if_neg himport, if_neg htype]
  | _ =>
    refine ⟨_, _, declares_skip hmark ?_ ?_⟩
    · simp only [declareAt?, hmark, Option.bind_eq_bind, Option.bind_some]
      rfl
    · rw [scan]
      rintro w' ⟨⟩

end Turns

def Declared (tokens : List Mark) (s : Nat × State) : Prop :=
  scan (s.2.dotted (dotBefore tokens s.1)) (tokens.drop s.1) = scan {} tokens

theorem declarer_spends (tokens : List Mark) :
    (declarer tokens).Spends (Declared tokens) fun s => tokens.length - s.1 := by
  intro s hs hgo
  have hi : s.1 < tokens.length := of_decide_eq_true hgo
  obtain ⟨j, s', hturn⟩ := declareAt?_eq hi s.2
  refine ⟨(j, s'), hturn.turn, hturn.scan.symm.trans hs, ?_⟩
  have := hturn.advances
  simp only
  omega

theorem Declared.header_eq {s : Nat × State} (h : Declared tokens s) (hi : tokens.length ≤ s.1) :
    s.2.header = (scan {} tokens).header := by
  rw [Declared, List.drop_eq_nil_of_le hi, scan] at h
  rw [← h]
  rfl

/-- Whatever the text, the scan for its header has no fault and comes to its end. Each turn on the
bytes begins behind the end or between two characters and moves the position on; a word is cut out
between two characters and is not empty. Each turn on the marks moves the position on as well. -/
theorem scan_without_faults (source : String) :
    let text := source.toList
    (∀ i found, (scanner text).Comes (0, []) (i, found) →
      ((utf8Bytes source).length < i ∨ (dropBytes i text).isSome) ∧
      (i < (utf8Bytes source).length → ∃ j turned, turnAt? text i = some (turned, j) ∧ i < j ∧
        ∀ w, .word w ∈ turned → w ≠ "" ∧ Between text i j w.toList)) ∧
    (∃ i, (scanner text).Ends (0, []) (i, marks text)) ∧
    (∀ i s, (declarer (marks text)).Comes (0, {}) (i, s) → i < (marks text).length →
      ∃ j s', declareAt? (marks text) i s = some (j, s') ∧ i < j) ∧
    ∃ i s, (declarer (marks text)).Ends (0, {}) (i, s) ∧ s.header = ofSource source := by
  intro text
  have hlength : (utf8Bytes source).length = (bytesOf text).length := by
    rw [bytesOf_toList, List.length_map]
  rw [hlength]
  refine ⟨?_, ?_, ?_, ?_⟩
  · intro i found hcomes
    have hscanned := (scanner_spends text).good (scanned_start text) hcomes
    refine ⟨hscanned.position, fun hi => ?_⟩
    obtain ⟨j, turned, rest, hturn, -⟩ := hscanned.takesTurn hi
    exact ⟨j, turned, hturn.turn, hturn.advances, hturn.word⟩
  · obtain ⟨⟨i, found⟩, hends⟩ := (scanner_spends text).exists_ends (scanned_start text)
    have hscanned := (scanner_spends text).good (scanned_start text) hends.1
    obtain rfl := hscanned.found_eq (of_decide_eq_false hends.2)
    exact ⟨i, hends⟩
  · intro i s _ hi
    obtain ⟨j, s', hturn⟩ := declareAt?_eq hi s
    exact ⟨j, s', hturn.turn, hturn.advances⟩
  · have hstart : Declared (marks text) (0, {}) := rfl
    obtain ⟨⟨i, s⟩, hends⟩ := (declarer_spends (marks text)).exists_ends hstart
    have hdeclared := (declarer_spends (marks text)).good hstart hends.1
    exact ⟨i, s, hends, hdeclared.header_eq (Nat.le_of_not_lt (of_decide_eq_false hends.2))⟩

end AnnotationIndex.Java
