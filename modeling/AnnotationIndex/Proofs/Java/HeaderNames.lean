import AnnotationIndex.Java.Header

/-!
# The names in a header

Whatever a text holds, the names of the types that its header reports are not empty and consist of
letters, digits and dots. In particular no other mark can stand in them.
-/

namespace AnnotationIndex.Java.Header

def Dotted (text : String) : Prop := ∀ c ∈ text.toList, c = '.' ∨ isNamePart c = true

def Named (text : String) : Prop := text ≠ "" ∧ Dotted text

theorem dotted_empty : Dotted "" := by simp [Dotted]

theorem Dotted.append {s t : String} (hs : Dotted s) (ht : Dotted t) : Dotted (s ++ t) := by
  intro c hc
  rw [String.toList_append, List.mem_append] at hc
  exact hc.elim (hs c) (ht c)

theorem dotted_dot : Dotted "." := by simp [Dotted]

theorem Named.qualified {package name : String} (hp : Dotted package) (hn : Named name) :
    Named (package ++ "." ++ name) := by
  refine ⟨?_, (hp.append dotted_dot).append hn.2⟩
  intro heq
  have hlist := congrArg String.toList heq
  simp at hlist

theorem Dotted.no_semicolon {text : String} (h : Dotted text) : ';' ∉ text.toList := by
  intro hmem
  rcases h ';' hmem with hdot | hpart
  · simp at hdot
  · revert hpart
    decide

def Mark.Proper : Mark → Prop
  | .word w => w ≠ "" ∧ ∀ c ∈ w.toList, isNamePart c = true
  | _ => True

theorem Mark.Proper.named {w : String} (h : (Mark.word w).Proper) : Named w :=
  ⟨h.1, fun c hc => Or.inr (h.2 c hc)⟩

theorem marks_proper (s : List Char) : ∀ m ∈ marks s, m.Proper := by
  fun_induction marks s with
  | case1 rest ih => exact ih
  | case2 rest ih => exact ih
  | case3 rest ih => exact ih
  | case4 c rest _ _ _ hquote ih =>
    intro m hm
    rcases List.mem_cons.1 hm with rfl | hm
    · trivial
    · exact ih m hm
  | case5 c rest _ _ _ _ hstart ih =>
    intro m hm
    rcases List.mem_cons.1 hm with rfl | hm
    · refine ⟨by simp, ?_⟩
      intro d hd
      rw [String.toList_ofList] at hd
      rcases List.mem_cons.1 hd with rfl | hd
      · simp [isNamePart, hstart]
      · exact List.all_eq_true.1 List.all_takeWhile d hd
    · exact ih m hm
  | case6 c rest _ _ _ _ _ _ ih => exact ih
  | case7 c rest _ _ _ _ _ _ ih =>
    intro m hm
    rcases List.mem_cons.1 hm with rfl | hm
    · unfold markOf
      split <;> trivial
    · exact ih m hm
  | case8 => simp

theorem dottedName_dotted {marks : List Mark} (h : ∀ m ∈ marks, m.Proper) :
    Dotted (dottedName marks).1 := by
  fun_induction dottedName marks with
  | case1 w rest ih =>
    have hw := (h (.word w) List.mem_cons_self).named
    exact hw.2.append (ih fun m hm => h m (List.mem_cons_of_mem _ hm))
  | case2 rest ih => exact dotted_dot.append (ih fun m hm => h m (List.mem_cons_of_mem _ hm))
  | case3 marks => exact dotted_empty

structure State.Proper (s : State) : Prop where
  package : ∀ p ∈ s.package, Dotted p
  names : ∀ n ∈ s.names, Named n
  frames : ∀ n, Frame.type n ∈ s.frames → Named n
  pending : ∀ n ∈ s.pending, Named n

theorem State.proper_start : State.Proper {} := by
  constructor <;> simp

theorem State.Proper.openBrace {s : State} (h : s.Proper) : s.openBrace.Proper := by
  have hblock : State.Proper { s with frames := .block :: s.frames } :=
    ⟨h.package, h.names, by simpa using h.frames, h.pending⟩
  unfold State.openBrace
  split
  · rename_i name hpending
    split
    · refine ⟨h.package, h.names, ?_, by simp⟩
      intro n hn
      rcases List.mem_cons.1 hn with heq | hn
      · cases heq
        exact h.pending name (by simp [hpending])
      · exact h.frames n hn
    · exact hblock
  · exact hblock

theorem State.Proper.skip {s : State} (h : s.Proper) (mark : Mark) : (s.skip mark).Proper := by
  have hdot : State.Proper { s with afterDot := mark = .dot } :=
    ⟨h.package, h.names, h.frames, h.pending⟩
  cases mark with
  | openBrace => exact hdot.openBrace
  | closeBrace =>
    refine ⟨h.package, h.names, ?_, h.pending⟩
    intro n hn
    exact h.frames n (List.mem_of_mem_drop hn)
  | openParen => exact ⟨h.package, h.names, h.frames, h.pending⟩
  | closeParen => exact ⟨h.package, h.names, h.frames, h.pending⟩
  | _ => exact hdot

theorem State.Proper.nested {s : State} (h : s.Proper) {name : String} (hn : Named name) :
    Named (s.nested name) := by
  unfold State.nested
  split
  · rename_i outer more hframes
    have houter := h.frames outer (by simp [hframes])
    exact hn.qualified houter.2
  · exact hn

theorem State.Proper.typeDecl {s : State} (h : s.Proper) {name : String} (hn : Named name) :
    (s.typeDecl name).Proper := by
  refine ⟨h.package, ?_, h.frames, ?_⟩
  · intro n hmem
    rcases List.mem_cons.1 hmem with rfl | hmem
    · exact h.nested hn
    · exact h.names n hmem
  · intro n hmem
    cases hmem
    exact h.nested hn

theorem State.Proper.packageDecl {s : State} (h : s.Proper) {marks : List Mark}
    (hmarks : ∀ m ∈ marks, m.Proper) : (s.packageDecl marks).Proper := by
  refine ⟨?_, h.names, h.frames, h.pending⟩
  intro p hp
  simp only [State.packageDecl] at hp
  split at hp
  · simp at hp
  · cases hp
    exact dottedName_dotted hmarks

private theorem dottedName_rest (marks : List Mark) : ∀ m ∈ (dottedName marks).2, m ∈ marks := by
  fun_induction dottedName marks with
  | case1 w rest ih => exact fun m hm => List.mem_cons_of_mem _ (ih m hm)
  | case2 rest ih => exact fun m hm => List.mem_cons_of_mem _ (ih m hm)
  | case3 marks => exact fun m hm => hm

private theorem afterOther_mem {marks : List Mark} {m : Mark} (h : m ∈ afterOther marks) :
    m ∈ marks :=
  (List.dropWhile_sublist _).mem (List.mem_of_mem_drop h)

private theorem importTail_rest (marks : List Mark) : ∀ m ∈ (importTail marks).2, m ∈ marks := by
  intro m hm
  unfold importTail at hm
  split at hm
  · rename_i rest
    exact List.mem_cons_of_mem _ (dottedName_rest rest m (afterOther_mem hm))
  · exact dottedName_rest marks m (afterOther_mem hm)

private theorem typeName?_mem {marks : List Mark} {name : String}
    (h : typeName? marks = some name) : .word name ∈ marks := by
  unfold typeName? at h
  split at h
  · split at h
    · cases h
      exact List.mem_cons_self
    · cases h
  · cases h

theorem scan_proper {s : State} {marks : List Mark} (h : s.Proper)
    (hmarks : ∀ m ∈ marks, m.Proper) : (scan s marks).Proper := by
  fun_induction scan s marks with
  | case1 s => exact h
  | case2 s w rest _ ih =>
    have hrest : ∀ m ∈ rest, m.Proper := fun m hm => hmarks m (List.mem_cons_of_mem _ hm)
    exact ih (h.packageDecl hrest) fun m hm => hrest m (dottedName_rest rest m hm)
  | case3 s w rest _ _ ih =>
    have hrest : ∀ m ∈ rest, m.Proper := fun m hm => hmarks m (List.mem_cons_of_mem _ hm)
    exact ih ⟨h.package, h.names, h.frames, h.pending⟩ fun m hm =>
      hrest m (importTail_rest rest m hm)
  | case4 s w rest _ _ _ name hname ih =>
    have hrest : ∀ m ∈ rest, m.Proper := fun m hm => hmarks m (List.mem_cons_of_mem _ hm)
    have hnamed : Named name := (hrest (.word name) (typeName?_mem hname)).named
    exact ih (h.typeDecl hnamed) fun m hm => hrest m (List.mem_of_mem_drop hm)
  | case5 s w rest _ _ _ _ ih =>
    exact ih (h.skip _) fun m hm => hmarks m (List.mem_cons_of_mem _ hm)
  | case6 s w rest _ _ _ ih =>
    exact ih (h.skip _) fun m hm => hmarks m (List.mem_cons_of_mem _ hm)
  | case7 s mark rest _ ih =>
    exact ih (h.skip _) fun m hm => hmarks m (List.mem_cons_of_mem _ hm)

/-- The type names of a header are names, whatever the text. -/
theorem ofSource_named (source : String) : ∀ n ∈ (ofSource source).types, Named n := by
  have hproper : (scan {} (marks source.toList)).Proper :=
    scan_proper State.proper_start (marks_proper source.toList)
  intro n hn
  unfold ofSource State.header at hn
  obtain ⟨name, hname, rfl⟩ := List.mem_map.1 hn
  have hnamed := hproper.names name (List.mem_reverse.1 hname)
  cases hpackage : (scan {} (marks source.toList)).package with
  | none => exact hnamed
  | some package => exact hnamed.qualified (hproper.package package (by simp [hpackage]))

end AnnotationIndex.Java.Header
