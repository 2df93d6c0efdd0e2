import AnnotationIndex.Text.Blank
import AnnotationIndex.Text.Identifier

/-!
# Members of sets of characters

The operations on sets of characters do to their members what their names say, as long as the ranges
of the sets are in order. From the tables it follows that a character that starts an identifier also
continues one, and that no blank does.
-/

namespace AnnotationIndex.Text

namespace CharSet

def isScalar (n : Nat) : Bool := n < 0xD800 || 0xE000 ≤ n

@[grind =]
theorem isScalar_iff {n : Nat} : isScalar n = true ↔ n < 0xD800 ∨ 0xE000 ≤ n := by
  simp [isScalar]

theorem isScalar_toNat (c : Char) : isScalar c.toNat = true ∧ c.toNat ≤ lastCode := by
  have hvalid : c.toNat < 0xD800 ∨ (0xDFFF < c.toNat ∧ c.toNat < 0x110000) := c.valid
  rw [isScalar_iff, lastCode]
  omega

theorem lt_next (n : Nat) : n < next n := by
  rw [next]
  split <;> omega

theorem isScalar_next {n : Nat} (h : isScalar n = true) : isScalar (next n) = true := by
  grind [next]

theorem isScalar_previous {n : Nat} (h : isScalar n = true) : isScalar (previous n) = true := by
  grind [previous]

theorem next_previous {n : Nat} (h : isScalar n = true) (hpos : 0 < n) : next (previous n) = n := by
  grind [next, previous]

theorem le_previous_iff {m n : Nat} (hm : isScalar m = true) (hn : isScalar n = true) (h : 0 < n) :
    m ≤ previous n ↔ m < n := by
  grind [previous]

theorem next_le_iff {m n : Nat} (hm : isScalar m = true) (hn : isScalar n = true) :
    next n ≤ m ↔ n < m := by
  grind [next]

def within (rs : List (Nat × Nat)) (c : Char) : Bool :=
  rs.any fun (a, b) => a ≤ c.toNat && c.toNat ≤ b

theorem within_cons {a b : Nat} {rs : List (Nat × Nat)} {c : Char} :
    within ((a, b) :: rs) c = true ↔ (a ≤ c.toNat ∧ c.toNat ≤ b) ∨ within rs c = true := by
  simp [within]

def isRange (r : Nat × Nat) : Bool := r.1 ≤ r.2 && isScalar r.1 && isScalar r.2

theorem isRange_iff {a b : Nat} :
    isRange (a, b) = true ↔ a ≤ b ∧ isScalar a = true ∧ isScalar b = true := by
  simp [isRange, and_assoc]

/-- Ranges in order, from a code point on. -/
def Ordered : Nat → List (Nat × Nat) → Prop
  | _, [] => True
  | start, r :: rs => start ≤ r.1 ∧ isRange r = true ∧ Ordered (next r.2) rs

theorem Ordered.mono {start start' : Nat} {rs : List (Nat × Nat)} (h : Ordered start rs)
    (hle : start' ≤ start) : Ordered start' rs := by
  cases rs with
  | nil => trivial
  | cons r rs => exact ⟨Nat.le_trans hle h.1, h.2⟩

theorem Ordered.le_of_within {start : Nat} {rs : List (Nat × Nat)} (h : Ordered start rs) {c : Char}
    (hc : within rs c = true) : start ≤ c.toNat := by
  induction rs generalizing start with
  | nil => cases hc
  | cons r rs ih =>
    obtain ⟨hstart, hr, hrs⟩ := h
    rcases within_cons.1 hc with hc | hc
    · exact Nat.le_trans hstart hc.1
    · have hnext := ih hrs hc
      have hrange := (isRange_iff.1 hr).1
      have hlt := lt_next r.2
      omega

def Sorted (rs : List (Nat × Nat)) : Prop := rs.Pairwise (·.1 ≤ ·.1) ∧ rs.all isRange = true

theorem Sorted.tail {r : Nat × Nat} {rs : List (Nat × Nat)} (h : Sorted (r :: rs)) : Sorted rs :=
  ⟨(List.pairwise_cons.1 h.1).2, (Bool.and_eq_true_iff.1 h.2).2⟩

theorem Sorted.joined {a b c d : Nat} {rs : List (Nat × Nat)} (h : Sorted ((a, b) :: (c, d) :: rs)) :
    Sorted ((a, max b d) :: rs) := by
  obtain ⟨hfirst, hrest⟩ := List.pairwise_cons.1 h.1
  simp only [Sorted, List.all_cons, Bool.and_eq_true, isRange_iff] at h ⊢
  refine ⟨List.pairwise_cons.2 ⟨fun r hr => hfirst r (List.mem_cons_of_mem _ hr),
    (List.pairwise_cons.1 hrest).2⟩, ?_, h.2.2.2⟩
  grind

theorem within_join {rs : List (Nat × Nat)} (h : Sorted rs) (x : Char) :
    within (join rs) x = true ↔ within rs x = true := by
  have hx := (isScalar_toNat x).1
  fun_induction join rs with
  | case1 a b c d rest htouch ih =>
    have hac : a ≤ c := (List.pairwise_cons.1 h.1).1 (c, d) List.mem_cons_self
    have hb := (isRange_iff.1 (Bool.and_eq_true_iff.1 h.2).1).2.2
    have hbetween : c ≤ x.toNat ∨ x.toNat ≤ b := by
      have := next_le_iff hx hb
      omega
    refine (ih h.joined).trans ?_
    rw [within_cons, within_cons, within_cons, ← or_assoc]
    apply or_congr_left
    omega
  | case2 a b c d rest hgap ih =>
    rw [within_cons, within_cons]
    exact or_congr_right (ih h.tail)
  | case3 rs hshort => rfl

theorem ordered_join {rs : List (Nat × Nat)} (h : Sorted rs) {start : Nat}
    (hstart : ∀ r ∈ rs.head?, start ≤ r.1) : Ordered start (join rs) := by
  fun_induction join rs generalizing start with
  | case1 a b c d rest htouch ih =>
    apply ih h.joined
    rintro r ⟨⟩
    exact hstart (a, b) rfl
  | case2 a b c d rest hgap ih =>
    refine ⟨hstart _ rfl, (Bool.and_eq_true_iff.1 h.2).1, ih h.tail fun r hr => ?_⟩
    cases hr
    exact Nat.le_of_not_le hgap
  | case3 rs hshort =>
    match rs, hshort with
    | [], _ => trivial
    | [r], _ => exact ⟨hstart r rfl, (Bool.and_eq_true_iff.1 h.2).1, trivial⟩
    | (a, b) :: (c, d) :: rest, hshort => exact (hshort a b c d rest rfl).elim

theorem sorted_mergeSort {rs : List (Nat × Nat)} (hrs : rs.all isRange = true) :
    Sorted (rs.mergeSort fun r s => r.1 ≤ s.1) := by
  have hsorted : (rs.mergeSort fun r s => r.1 ≤ s.1).Pairwise fun r s => decide (r.1 ≤ s.1) := by
    apply List.pairwise_mergeSort
    · intro r s t hrs hst
      rw [decide_eq_true_eq] at *
      exact Nat.le_trans hrs hst
    · intro r s
      rw [Bool.or_eq_true, decide_eq_true_eq, decide_eq_true_eq]
      exact Nat.le_total _ _
  exact ⟨hsorted.imp of_decide_eq_true, (List.mergeSort_perm rs _).all_eq.trans hrs⟩

def InOrder (s : CharSet) : Prop := Ordered 0 s.ranges

theorem inOrder_ofRanges {rs : List (Nat × Nat)} (hrs : rs.all isRange = true) :
    (ofRanges rs).InOrder :=
  ordered_join (sorted_mergeSort hrs) fun _ _ => Nat.zero_le _

theorem mem_ofRanges {rs : List (Nat × Nat)} (hrs : rs.all isRange = true) (c : Char) :
    (ofRanges rs).mem c = within rs c := by
  have hjoin := within_join (sorted_mergeSort hrs) c
  exact (Bool.eq_iff_iff.2 hjoin).trans (List.mergeSort_perm rs _).any_eq

theorem Ordered.all_isRange {start : Nat} {rs : List (Nat × Nat)} (h : Ordered start rs) :
    rs.all isRange = true := by
  induction rs generalizing start with
  | nil => rfl
  | cons r rs ih => rw [List.all_cons, h.2.1, ih h.2.2, Bool.and_true]

theorem inOrder_union {s t : CharSet} (hs : s.InOrder) (ht : t.InOrder) : (s.union t).InOrder := by
  apply inOrder_ofRanges
  rw [List.all_append, hs.all_isRange, ht.all_isRange, Bool.and_true]

theorem mem_union {s t : CharSet} (hs : s.InOrder) (ht : t.InOrder) (c : Char) :
    (s.union t).mem c = (s.mem c || t.mem c) := by
  rw [union, mem_ofRanges]
  · exact List.any_append
  · rw [List.all_append, hs.all_isRange, ht.all_isRange, Bool.and_true]

theorem within_gaps {start : Nat} {rs : List (Nat × Nat)} (hstart : isScalar start = true)
    (h : Ordered start rs) (c : Char) :
    within (gaps start rs) c = true ↔ start ≤ c.toNat ∧ ¬ within rs c = true := by
  obtain ⟨hc, hlast⟩ := isScalar_toNat c
  induction rs generalizing start with
  | nil =>
    rw [gaps]
    split
    · simp [within, hlast]
    · have hbeyond : ¬ start ≤ c.toNat := by omega
      simp [within, hbeyond]
  | cons r rs ih =>
    obtain ⟨a, b⟩ := r
    obtain ⟨hle, hr, hrs⟩ := h
    obtain ⟨hab, ha, hb⟩ := isRange_iff.1 hr
    have hafter : within rs c = true → b < c.toNat := fun hmem =>
      (next_le_iff hc hb).1 (hrs.le_of_within hmem)
    have hrest := ih (isScalar_next hb) hrs
    rw [next_le_iff hc hb] at hrest
    rw [gaps]
    split
    · rw [within_cons, within_cons, hrest, le_previous_iff hc ha (by omega)]
      grind
    · rw [hrest, within_cons]
      grind

theorem ordered_gaps {start : Nat} {rs : List (Nat × Nat)} (hstart : isScalar start = true)
    (h : Ordered start rs) : Ordered start (gaps start rs) := by
  induction rs generalizing start with
  | nil =>
    rw [gaps]
    split
    · rename_i hlast
      exact ⟨Nat.le_refl _, isRange_iff.2 ⟨hlast, hstart, by decide⟩, trivial⟩
    · trivial
  | cons r rs ih =>
    obtain ⟨a, b⟩ := r
    obtain ⟨hle, hr, hrs⟩ := h
    obtain ⟨hab, ha, hb⟩ := isRange_iff.1 hr
    have hrest := ih (isScalar_next hb) hrs
    have hnext := lt_next b
    rw [gaps]
    split
    · rename_i hlt
      have hpos : 0 < a := by omega
      refine ⟨Nat.le_refl _, isRange_iff.2 ⟨?_, hstart, isScalar_previous ha⟩, ?_⟩
      · exact (le_previous_iff hstart ha hpos).2 hlt
      · rw [next_previous ha hpos]
        exact hrest.mono (by omega)
    · exact hrest.mono (Nat.le_trans hle (by omega))

theorem inOrder_complement {s : CharSet} (hs : s.InOrder) : s.complement.InOrder :=
  ordered_gaps rfl hs

theorem mem_complement {s : CharSet} (hs : s.InOrder) (c : Char) :
    s.complement.mem c = !s.mem c := by
  have hgaps := within_gaps rfl hs c
  rw [Bool.eq_iff_iff, Bool.not_eq_true', ← Bool.not_eq_true]
  exact hgaps.trans (and_iff_right (Nat.zero_le _))

theorem inOrder_minus {s t : CharSet} (hs : s.InOrder) (ht : t.InOrder) : (s.minus t).InOrder :=
  inOrder_complement (inOrder_union (inOrder_complement hs) ht)

theorem mem_minus {s t : CharSet} (hs : s.InOrder) (ht : t.InOrder) (c : Char) :
    (s.minus t).mem c = (s.mem c && !t.mem c) := by
  have hcomplement := inOrder_complement hs
  rw [minus, mem_complement (inOrder_union hcomplement ht), mem_union hcomplement ht,
    mem_complement hs, Bool.not_or, Bool.not_not]

end CharSet

open CharSet Property

def spanned (spans : List Span) (c : Char) : Bool := within (spans.flatMap Span.ranges) c

def startSpans : List Span :=
  (.letterNumber :: Category.letters).flatMap Category.spans ++ otherIdStart

def continuingSpans : List Span :=
  Category.nonspacingMark.spans ++ Category.spacingMark.spans ++ Category.decimalNumber.spans ++
    Category.connectorPunctuation.spans ++ otherIdContinue

def identifierTables : List (List Span) :=
  [startSpans, continuingSpans, patternSyntax ++ patternWhiteSpace, openForms,
    openForms ++ continuingForms, addedIn16_0]

set_option maxRecDepth 100000 in
private theorem identifierTables_ranges : (identifierTables.all fun spans =>
    (spans.flatMap Span.ranges).all isRange) = true := by
  decide +kernel

theorem inOrder_ofSpans {spans : List Span} (h : spans ∈ identifierTables) :
    (ofSpans spans).InOrder :=
  inOrder_ofRanges (List.all_eq_true.1 identifierTables_ranges spans h)

theorem mem_ofSpans {spans : List Span} (h : spans ∈ identifierTables) (c : Char) :
    (ofSpans spans).mem c = spanned spans c :=
  mem_ofRanges (List.all_eq_true.1 identifierTables_ranges spans h) c

theorem mem_idStart (c : Char) : idStart.InOrder ∧ idStart.mem c =
    (spanned startSpans c && !spanned (patternSyntax ++ patternWhiteSpace) c) := by
  have hstart : startSpans ∈ identifierTables := by simp [identifierTables]
  have hpattern : patternSyntax ++ patternWhiteSpace ∈ identifierTables := by
    simp [identifierTables]
  refine ⟨inOrder_minus (inOrder_ofSpans hstart) (inOrder_ofSpans hpattern), ?_⟩
  rw [← mem_ofSpans hstart, ← mem_ofSpans hpattern]
  exact mem_minus (inOrder_ofSpans hstart) (inOrder_ofSpans hpattern) c

theorem mem_idContinue (c : Char) : idContinue.InOrder ∧ idContinue.mem c =
    ((idStart.mem c || spanned continuingSpans c) &&
      !spanned (patternSyntax ++ patternWhiteSpace) c) := by
  have hcontinuing : continuingSpans ∈ identifierTables := by simp [identifierTables]
  have hpattern : patternSyntax ++ patternWhiteSpace ∈ identifierTables := by
    simp [identifierTables]
  have hunion := inOrder_union (mem_idStart c).1 (inOrder_ofSpans hcontinuing)
  refine ⟨inOrder_minus hunion (inOrder_ofSpans hpattern), ?_⟩
  rw [← mem_ofSpans hcontinuing, ← mem_ofSpans hpattern,
    ← mem_union (mem_idStart c).1 (inOrder_ofSpans hcontinuing)]
  exact mem_minus hunion (inOrder_ofSpans hpattern) c

theorem mem_beforeVersion16 {s : CharSet} (hs : s.InOrder) {others : List Span}
    (h : others ∈ identifierTables) (c : Char) :
    (beforeVersion16 (s.minus (.ofSpans others))).mem c =
      (s.mem c && !spanned others c && !spanned addedIn16_0 c) := by
  have hadded : addedIn16_0 ∈ identifierTables := by simp [identifierTables]
  rw [beforeVersion16, mem_minus (inOrder_minus hs (inOrder_ofSpans h)) (inOrder_ofSpans hadded),
    mem_minus hs (inOrder_ofSpans h), mem_ofSpans h, mem_ofSpans hadded]

theorem isXidContinue_of_isXidStart {c : Char} (h : isXidStart c = true) :
    isXidContinue c = true := by
  rw [isXidStart] at h
  rw [isXidContinue]
  split
  · rename_i hascii
    rw [if_pos hascii] at h
    simp [Char.isAlphanum, h]
  · rename_i hascii
    rw [if_neg hascii, xidStart15, xidStart, mem_beforeVersion16 (mem_idStart c).1
      (by simp [identifierTables])] at h
    rw [xidContinue15, xidContinue, mem_beforeVersion16 (mem_idContinue c).1
      (by simp [identifierTables]), (mem_idContinue c).2]
    have hforms : spanned (openForms ++ continuingForms) c =
        (spanned openForms c || spanned continuingForms c) := by
      simp [spanned, within]
    rw [hforms] at h
    have hpattern := (mem_idStart c).2
    grind

def wideBlanks : List (Nat × Nat) :=
  [(0x85, 0x85), (0xA0, 0xA0), (0x1680, 0x1680), (0x2000, 0x200A), (0x2028, 0x2029),
    (0x202F, 0x202F), (0x205F, 0x205F), (0x3000, 0x3000)]

def areApart (r s : Nat × Nat) : Bool := Nat.blt r.2 s.1 || Nat.blt s.2 r.1

set_option maxRecDepth 100000 in
private theorem wideBlanks_apart : (((startSpans ++ continuingSpans).flatMap Span.ranges).all
    fun r => wideBlanks.all (areApart r)) = true := by
  decide +kernel

theorem within_wideBlanks {c : Char} (h : isBlank c = true) (hwide : ¬ c.toNat < 128) :
    within wideBlanks c = true := by
  simp only [isBlank, Bool.or_eq_true, Bool.and_eq_true, decide_eq_true_eq, beq_iff_eq] at h
  simp only [within, wideBlanks, List.any_cons, List.any_nil, Bool.or_eq_true, Bool.and_eq_true,
    decide_eq_true_eq]
  omega

private theorem asciiBlanks_apart : ∀ n < 128,
    ((Char.ofNat n).isAlphanum || Char.ofNat n == '_') = true → isBlank (Char.ofNat n) = false := by
  decide

theorem isBlank_of_isXidContinue {c : Char} (h : isXidContinue c = true) : isBlank c = false := by
  rw [← Bool.not_eq_true]
  intro hblank
  rw [isXidContinue] at h
  split at h
  · rename_i hascii
    rw [← Char.ofNat_toNat c] at h hblank
    exact absurd hblank (by rw [asciiBlanks_apart _ hascii h]; decide)
  · rename_i hwide
    obtain ⟨blank, hin, hblank⟩ := List.any_eq_true.1 (within_wideBlanks hblank hwide)
    rw [xidContinue15, xidContinue, mem_beforeVersion16 (mem_idContinue c).1
      (by simp [identifierTables]), (mem_idContinue c).2, (mem_idStart c).2] at h
    have hspanned : spanned (startSpans ++ continuingSpans) c = true := by
      have happend : spanned (startSpans ++ continuingSpans) c =
          (spanned startSpans c || spanned continuingSpans c) := by
        simp [spanned, within]
      grind
    obtain ⟨r, hr, hc⟩ := List.any_eq_true.1 hspanned
    have hapart := List.all_eq_true.1 (List.all_eq_true.1 wideBlanks_apart r hr) blank hin
    simp only [areApart, Nat.blt_eq, Bool.or_eq_true, Bool.and_eq_true, decide_eq_true_eq]
      at hapart hc hblank
    omega

end AnnotationIndex.Text
