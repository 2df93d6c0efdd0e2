import AnnotationIndex.Proofs.Grammar.Soundness
import Mathlib.Algebra.Group.Nat.Defs

/-!
# Evaluating tables

The table of a large grammar takes long to evaluate in a proof: every row goes through all
productions and decides for each of them whether two numbers are the same, and what can be reached
is kept in arrays. The compact table finds its rows by the bits of their numbers and keeps what can
be reached in the bits of a number. It is the same table, so a text that a proof reads may be read
with it.

What is evaluated is defined by recursors here. A proof unfolds a recursor in one step, and a
recursion on patterns in many.
-/

namespace AnnotationIndex.Grammar

variable {α β γ τ φ : Type}

noncomputable def fold (f : α → β → β) (b : β) (l : List α) : β :=
  List.rec b (fun a _ folded => f a folded) l

theorem fold_eq_foldr (f : α → β → β) (b : β) (l : List α) : fold f b l = l.foldr f b := by
  induction l with
  | nil => rfl
  | cons a l ih =>
    rw [List.foldr_cons, ← ih]
    rfl

theorem fold_cons (l more : List α) : fold List.cons more l = l ++ more := by
  rw [fold_eq_foldr, List.foldr_cons_eq_append]
  simp

noncomputable def pick (p : α → Bool) (l : List α) : List α :=
  fold (fun a picked => (p a).rec picked (a :: picked)) [] l

theorem pick_eq_filter (p : α → Bool) (l : List α) : pick p l = l.filter p := by
  rw [pick, fold_eq_foldr]
  induction l with
  | nil => rfl
  | cons a l ih =>
    rw [List.foldr_cons, List.filter_cons, ih]
    cases p a <;> rfl

noncomputable def isAmong (n : Nat) (ns : List Nat) : Bool :=
  fold (fun m found => (Nat.beq n m).rec found true) false ns

theorem isAmong_iff {n : Nat} {ns : List Nat} : isAmong n ns = true ↔ n ∈ ns := by
  rw [isAmong, fold_eq_foldr]
  induction ns with
  | nil => simp
  | cons m ns ih =>
    rw [List.foldr_cons, List.mem_cons, ← ih]
    cases hbeq : Nat.beq n m with
    | true => simp [Nat.eq_of_beq_eq_true hbeq]
    | false => simp [Nat.ne_of_beq_eq_false hbeq]

noncomputable def distinctFrom (code : α → Nat) (l : List α) : List Nat → List α :=
  List.rec (fun _ => []) (fun a _ rest seen =>
    (isAmong (code a) seen).rec (a :: rest (code a :: seen)) (rest seen)) l

theorem distinctFrom_eq [BEq α] [LawfulBEq α] {code : α → Nat}
    (hcode : ∀ a b, code a = code b → a = b) (l : List α) (seen : List Nat) :
    distinctFrom code l seen = (l.filter fun a => !isAmong (code a) seen).eraseDups := by
  induction l generalizing seen with
  | nil => rfl
  | cons a l ih =>
    have hcons : distinctFrom code (a :: l) seen = (isAmong (code a) seen).rec
        (a :: distinctFrom code l (code a :: seen)) (distinctFrom code l seen) := rfl
    rw [hcons, ih, ih, List.filter_cons]
    cases isAmong (code a) seen with
    | true => rfl
    | false =>
      have hseen : ∀ b, (!isAmong (code b) (code a :: seen)) =
          (!b == a && !isAmong (code b) seen) := by
        intro b
        have hsame : code b = code a ↔ b = a := ⟨hcode b a, congrArg code⟩
        rw [Bool.eq_iff_iff]
        simp [← Bool.not_eq_true, isAmong_iff, hsame]
      change _ = (a :: l.filter fun a => !isAmong (code a) seen).eraseDups
      simp only [List.eraseDups_cons, List.filter_filter, hseen]

theorem eraseDups_eq [BEq α] [LawfulBEq α] {code : α → Nat}
    (hcode : ∀ a b, code a = code b → a = b) (l : List α) :
    l.eraseDups = distinctFrom code l [] := by
  rw [distinctFrom_eq hcode]
  exact congrArg List.eraseDups (List.filter_eq_self.2 fun a _ => rfl).symm

def hasBit (b n : Nat) : Bool := Nat.beq (Nat.land (Nat.shiftRight n b) 1) 1

def lacksBit (b n : Nat) : Bool := Nat.beq (Nat.land (Nat.shiftRight n b) 1) 0

theorem hasBit_eq (b n : Nat) : hasBit b n = n.testBit b := by
  change Nat.beq ((n >>> b) &&& 1) 1 = _
  rw [Nat.and_one_is_mod, Nat.testBit_eq_decide_div_mod_eq, Nat.shiftRight_eq_div_pow]
  rcases Nat.mod_two_eq_zero_or_one (n / 2 ^ b) with h | h <;> rw [h] <;> rfl

theorem lacksBit_eq (b n : Nat) : lacksBit b n = !n.testBit b := by
  rw [← hasBit_eq]
  change Nat.beq ((n >>> b) &&& 1) 0 = !Nat.beq ((n >>> b) &&& 1) 1
  rw [Nat.and_one_is_mod]
  rcases Nat.mod_two_eq_zero_or_one (n >>> b) with h | h <;> rw [h] <;> rfl

/-- The values that stand under the number `n`, where all numbers have so many bits. -/
noncomputable def under (bits n : Nat) (entries : List (Nat × β)) : List β :=
  Nat.rec (fun entries => fold (fun entry values => entry.2 :: values) [] entries)
    -- What is picked does not mention `n`, so that it is evaluated once for all numbers.
    (fun b lower entries => (hasBit b n).rec (lower (pick (fun entry => lacksBit b entry.1) entries))
      (lower (pick (fun entry => hasBit b entry.1) entries))) bits entries

theorem under_eq_map_filter (bits n : Nat) (entries : List (Nat × β)) : under bits n entries =
    (entries.filter fun entry => decide (∀ b < bits, entry.1.testBit b = n.testBit b)).map
      (·.2) := by
  induction bits generalizing entries with
  | zero =>
    rw [List.filter_eq_self.2 fun entry _ => by simp, List.map_eq_foldr]
    exact fold_eq_foldr ..
  | succ bits ih =>
    have hsucc : under (bits + 1) n entries =
        under bits n (entries.filter fun entry => entry.1.testBit bits == n.testBit bits) := by
      have hrec : under (bits + 1) n entries = (hasBit bits n).rec
          (under bits n (pick (fun entry => lacksBit bits entry.1) entries))
          (under bits n (pick (fun entry => hasBit bits entry.1) entries)) := rfl
      rw [hrec]
      simp only [pick_eq_filter, hasBit_eq, lacksBit_eq]
      cases n.testBit bits <;> simp
    rw [hsucc, ih, List.filter_filter]
    congr 2
    funext entry
    rw [Bool.eq_iff_iff]
    simp only [Bool.and_eq_true, beq_iff_eq, decide_eq_true_eq, Nat.forall_lt_succ_right]

theorem under_filterMap {bits n : Nat} (hn : n < 2 ^ bits) {f : γ → Option (Nat × β)}
    {g : γ → Option β} (hf : ∀ y entry, f y = some entry → entry.1 < 2 ^ bits)
    (hg : ∀ y, g y = (f y).bind fun entry => if entry.1 = n then some entry.2 else none)
    (ys : List γ) : under bits n (ys.filterMap f) = ys.filterMap g := by
  have hsame : ∀ m < 2 ^ bits, (∀ b < bits, m.testBit b = n.testBit b) ↔ m = n := by
    refine fun m hm => ⟨fun h => Nat.eq_of_testBit_eq fun b => ?_, fun h _ _ => h ▸ rfl⟩
    by_cases hb : b < bits
    · exact h b hb
    · have hpow : 2 ^ bits ≤ 2 ^ b := Nat.pow_le_pow_right (by decide) (Nat.le_of_not_lt hb)
      rw [Nat.testBit_lt_two_pow (Nat.lt_of_lt_of_le hm hpow),
        Nat.testBit_lt_two_pow (Nat.lt_of_lt_of_le hn hpow)]
  rw [under_eq_map_filter, List.filter_filterMap, List.map_filterMap]
  congr 1
  funext y
  rw [hg]
  cases hentry : f y with
  | none => rfl
  | some entry =>
    have hentry := hsame entry.1 (hf y entry hentry)
    simp only [Option.filter_some, Option.bind_some, decide_eq_true_eq, hentry]
    split <;> rfl

/-- The places that can be reached, as the bits of a number. -/
noncomputable def reachBits (step : Nat → List Nat) (fuel : Nat) : List Nat → Nat → Nat :=
  Nat.rec (fun _ reached => reached) (fun _ next todo reached =>
    List.rec reached (fun p todo _ => (hasBit p reached).rec
      (next (fold List.cons todo (step p)) (Nat.lor reached (Nat.shiftLeft 1 p)))
      (next todo reached)) todo) fuel

theorem reachBits_succ_cons (step : Nat → List Nat) (fuel p : Nat) (todo : List Nat)
    (reached : Nat) : reachBits step (fuel + 1) (p :: todo) reached =
      if reached.testBit p then reachBits step fuel todo reached
      else reachBits step fuel (step p ++ todo) (reached ||| 1 <<< p) := by
  have hrec : reachBits step (fuel + 1) (p :: todo) reached = (hasBit p reached).rec
      (reachBits step fuel (fold List.cons todo (step p)) (reached ||| 1 <<< p))
      (reachBits step fuel todo reached) := rfl
  rw [hrec, fold_cons, hasBit_eq]
  cases reached.testBit p <;> rfl

private theorem testBit_mark (bits p k : Nat) :
    (bits ||| 1 <<< p).testBit k = (bits.testBit k || decide (p = k)) := by
  rw [Nat.testBit_or, Nat.one_shiftLeft, Nat.testBit_two_pow]

private theorem getD_mark {reached : Array Bool} {p : Nat} (hp : p < reached.size) (k : Nat) :
    (reached.setIfInBounds p true).getD k false = (reached.getD k false || decide (p = k)) := by
  by_cases hk : p = k
  · subst hk
    simp [hp]
  · simp [hk, Array.getElem?_setIfInBounds_ne]

theorem testBit_reachBits {step step' : Nat → List Nat} {size : Nat}
    (hsame : ∀ n < size, step' n = step n) (hstep : ∀ n < size, ∀ k ∈ step n, k < size)
    {fuel : Nat} {todo : List Nat} (htodo : ∀ k ∈ todo, k < size) {reached : Array Bool}
    (hsize : reached.size = size) {bits : Nat}
    (hbits : ∀ k, bits.testBit k = reached.getD k false) (k : Nat) :
    (reachBits step' fuel todo bits).testBit k =
      (Table.reach step fuel todo reached).getD k false := by
  induction fuel generalizing todo reached bits with
  | zero => exact hbits k
  | succ fuel ih =>
    cases todo with
    | nil => exact hbits k
    | cons p todo =>
      obtain ⟨hp, htodo⟩ := List.forall_mem_cons.1 htodo
      have hp' : p < reached.size := hsize ▸ hp
      have hseen : reached.getD p true = bits.testBit p := by
        rw [hbits]
        simp [hp']
      rw [reachBits_succ_cons, hsame p hp, Table.reach, hseen]
      cases bits.testBit p with
      | true => exact ih htodo hsize hbits
      | false =>
        refine ih ?_ ?_ ?_
        · exact List.forall_mem_append.2 ⟨hstep p hp, htodo⟩
        · rw [Array.size_setIfInBounds, hsize]
        · intro j
          rw [testBit_mark, getD_mark hp', hbits]

namespace Numbering

/-- The numbers of a grammar tell its symbols apart, are below their bounds, and have so many
bits. -/
structure Sound (number : Numbering τ φ) (bits : Nat) : Prop where
  token_lt : ∀ t, number.token t < number.tokens
  phrase_lt : ∀ p, number.phrase p < number.phrases
  token_inj : ∀ t u, number.token t = number.token u → t = u
  phrase_inj : ∀ p q, number.phrase p = number.phrase q → p = q
  tokens_le : number.tokens ≤ 2 ^ bits
  phrases_le : number.phrases ≤ 2 ^ bits

def digit (number : Numbering τ φ) : Symbol τ φ → Nat
  | .token t => Nat.succ (number.token t)
  | .phrase p => Nat.succ (Nat.add number.tokens (number.phrase p))

/-- The digits of a body as one number. -/
noncomputable def code (number : Numbering τ φ) (body : List (Symbol τ φ)) : Nat :=
  fold (fun x n => Nat.add (Nat.mul n (Nat.succ (Nat.add number.tokens number.phrases)))
    (number.digit x)) 0 body

theorem digit_pos (number : Numbering τ φ) (x : Symbol τ φ) : 0 < number.digit x := by
  cases x <;> exact Nat.succ_pos _

theorem code_cons (number : Numbering τ φ) (x : Symbol τ φ) (body : List (Symbol τ φ)) :
    number.code (x :: body) =
      number.code body * (number.tokens + number.phrases + 1) + number.digit x := rfl

theorem code_cons_pos (number : Numbering τ φ) (x : Symbol τ φ) (body : List (Symbol τ φ)) :
    0 < number.code (x :: body) :=
  Nat.lt_of_lt_of_le (digit_pos number x) (Nat.le_add_left ..)

namespace Sound

variable {number : Numbering τ φ} {bits : Nat}

theorem token_lt_pow (h : number.Sound bits) (t : τ) : number.token t < 2 ^ bits :=
  Nat.lt_of_lt_of_le (h.token_lt t) h.tokens_le

theorem phrase_lt_pow (h : number.Sound bits) (p : φ) : number.phrase p < 2 ^ bits :=
  Nat.lt_of_lt_of_le (h.phrase_lt p) h.phrases_le

theorem digit_lt (h : number.Sound bits) (x : Symbol τ φ) :
    number.digit x < number.tokens + number.phrases + 1 := by
  cases x with
  | token t =>
    have ht := h.token_lt t
    simp only [digit]
    omega
  | phrase p => exact Nat.succ_lt_succ (Nat.add_lt_add_left (h.phrase_lt p) _)

theorem digit_inj (h : number.Sound bits) {x y : Symbol τ φ}
    (hxy : number.digit x = number.digit y) : x = y := by
  cases x with
  | token t =>
    have ht := h.token_lt t
    cases y with
    | token u => rw [h.token_inj t u (Nat.succ.inj hxy)]
    | phrase q =>
      simp only [digit, Nat.add_eq] at hxy
      omega
  | phrase p =>
    cases y with
    | token u =>
      have hu := h.token_lt u
      simp only [digit, Nat.add_eq] at hxy
      omega
    | phrase q => rw [h.phrase_inj p q (Nat.add_left_cancel (Nat.succ.inj hxy))]

theorem code_inj (h : number.Sound bits) : ∀ a b, number.code a = number.code b → a = b
  | [], [], _ => rfl
  | [], y :: b, hab => absurd hab (Nat.ne_of_lt (code_cons_pos number y b))
  | x :: a, [], hab => absurd hab.symm (Nat.ne_of_lt (code_cons_pos number x a))
  | x :: a, y :: b, hab => by
    rw [code_cons, code_cons] at hab
    have hdigits := congrArg (· % (number.tokens + number.phrases + 1)) hab
    have hcodes := congrArg (· / (number.tokens + number.phrases + 1)) hab
    simp only [Nat.mul_add_mod', Nat.mod_eq_of_lt (h.digit_lt _)] at hdigits
    simp only [Nat.mul_comm (number.code _), Nat.mul_add_div (Nat.succ_pos _),
      Nat.div_eq_of_lt (h.digit_lt _), Nat.add_zero] at hcodes
    rw [h.digit_inj hdigits, code_inj h a b hcodes]

end Sound

end Numbering

noncomputable def product (fronts backs : List (List α)) : List (List α) :=
  fold (fun front all => fold (fun back all => fold List.cons back front :: all) all backs) [] fronts

theorem product_eq_flatMap (fronts backs : List (List α)) :
    product fronts backs = fronts.flatMap fun front => backs.map (front ++ ·) := by
  have hfront : ∀ (front : List α) (all : List (List α)),
      fold (fun back all => fold List.cons back front :: all) all backs =
        backs.map (front ++ ·) ++ all := by
    intro front all
    simp [fold_eq_foldr, ← List.foldr_map]
  rw [product, fold_eq_foldr]
  induction fronts with
  | nil => rfl
  | cons front fronts ih => rw [List.foldr_cons, ih, hfront, List.flatMap_cons]

namespace Rule

/-- The sequences of symbols that a rule stands for. Of a row of rules, the recursor gives those of
the row in sequence and those of a choice. -/
noncomputable def quickBodies (r : Rule τ φ) : List (List (Symbol τ φ)) :=
  @Rule.rec τ φ (fun _ => List (List (Symbol τ φ)))
    (fun _ => List (List (Symbol τ φ)) × List (List (Symbol τ φ)))
    (fun s => [[s]]) (fun _ ofParts => ofParts.1) (fun _ ofOptions => ofOptions.2) ([[]], [])
    (fun _ _ ofFirst ofRest => (product ofFirst ofRest.1, fold List.cons ofRest.2 ofFirst)) r

mutual

theorem quickBodies_eq : ∀ r : Rule τ φ, r.quickBodies = r.bodies
  | symbol _ => rfl
  | sequence parts => (quickBodies_row parts).1
  | choice options => (quickBodies_row options).2

theorem quickBodies_row : ∀ rs : List (Rule τ φ),
    (sequence rs).quickBodies = bodiesOfSequence rs ∧
      (choice rs).quickBodies = bodiesOfChoice rs
  | [] => ⟨rfl, rfl⟩
  | r :: rs => by
    obtain ⟨hsequence, hchoice⟩ := quickBodies_row rs
    constructor
    · change product r.quickBodies (sequence rs).quickBodies = _
      rw [product_eq_flatMap, quickBodies_eq r, hsequence, bodiesOfSequence]
    · change fold List.cons (choice rs).quickBodies r.quickBodies = _
      rw [fold_cons, quickBodies_eq r, hchoice, bodiesOfChoice]

end

noncomputable def quickProductions (number : Numbering τ φ) (r : Rule τ φ) (head : φ) :
    List (Production τ φ) :=
  fold (fun body ps => ⟨head, body, 0, none, 0⟩ :: ps) [] (distinctFrom number.code r.quickBodies [])

theorem productions_eq_quick [DecidableEq τ] [DecidableEq φ] {number : Numbering τ φ}
    {bits : Nat} (h : number.Sound bits) (r : Rule τ φ) (head : φ) :
    r.productions head = r.quickProductions number head := by
  rw [productions, eraseDups_eq h.code_inj, quickProductions, fold_eq_foldr, List.map_eq_foldr,
    r.quickBodies_eq]

end Rule

namespace Table

section Compact

variable (number : Numbering τ φ) (bits : Nat) (first : Production τ φ)
  (more : List (Production τ φ))

def tokenEntries : List (Nat × Item τ φ) :=
  (opened first more).filterMap fun (x, i) =>
    match x with
    | .token t => some (number.token t, i)
    | .phrase _ => none

def phraseEntries : List (Nat × Item τ φ) :=
  (opened first more).filterMap fun (x, i) =>
    match x with
    | .token _ => none
    | .phrase p => some (number.phrase p, i)

def cornerEntries : List (Nat × Nat) :=
  (opened first more).filterMap fun (x, i) =>
    match x with
    | .token _ => none
    | .phrase p => some (number.phrase i.production.head, number.phrase p)

/-- The table of a list of productions, in a form that is evaluated in few steps. -/
noncomputable def compact : Table τ φ :=
  let ofTokens := tokenEntries number first more
  let ofPhrases := phraseEntries number first more
  let ofCorners := cornerEntries number first more
  let fuel := (opened first more).length + number.phrases + 1
  { openings := fun
      | .token t => under bits (number.token t) ofTokens
      | .phrase p => under bits (number.phrase p) ofPhrases
    isCorner := fun p q => hasBit (number.phrase q)
      (reachBits (fun p => under bits p ofCorners) fuel [number.phrase p] 0)
    whole := ⟨0, first, first.body⟩
    rank := fun
      | .token t => number.token t
      | .phrase p => number.phrase p
    size := number.phrases }

end Compact

variable {number : Numbering τ φ} {bits : Nat} {first : Production τ φ}
  {more : List (Production τ φ)}

private def firsts (number : Numbering τ φ) (first : Production τ φ) (more : List (Production τ φ))
    (n : Nat) : List Nat :=
  (opened first more).filterMap fun (x, i) =>
    match x with
    | .token _ => none
    | .phrase p => if number.phrase i.production.head = n then some (number.phrase p) else none

private theorem mem_firsts (h : number.Sound bits) (n : Nat) :
    ∀ k ∈ firsts number first more n, k < number.phrases := by
  intro k hk
  obtain ⟨⟨x, i⟩, -, hcase⟩ := List.mem_filterMap.1 hk
  cases x with
  | token t => cases hcase
  | phrase p =>
    simp only [Option.ite_none_right_eq_some, Option.some.injEq] at hcase
    exact hcase.2 ▸ h.phrase_lt p

private theorem under_cornerEntries (h : number.Sound bits) {n : Nat} (hn : n < 2 ^ bits) :
    under bits n (cornerEntries number first more) = firsts number first more n := by
  refine under_filterMap hn ?_ ?_ _
  · rintro ⟨x, i⟩ entry hentry
    cases x with
    | token t => cases hentry
    | phrase p =>
      cases hentry
      exact h.phrase_lt_pow _
  · rintro ⟨x, i⟩
    cases x <;> rfl

theorem openings_compact (h : number.Sound bits) (x : Symbol τ φ) :
    (ofProductions number first more).openings x = (compact number bits first more).openings x := by
  cases x with
  | token t =>
    change Array.getD (Array.map _ _) _ _ = under bits (number.token t) (tokenEntries ..)
    rw [getD_rows, if_pos (h.token_lt t)]
    refine (under_filterMap (h.token_lt_pow t) ?_ ?_ _).symm
    · rintro ⟨x, i⟩ entry hentry
      cases x with
      | token u =>
        cases hentry
        exact h.token_lt_pow u
      | phrase p => cases hentry
    · rintro ⟨x, i⟩
      cases x <;> rfl
  | phrase p =>
    change Array.getD (Array.map _ _) _ _ = under bits (number.phrase p) (phraseEntries ..)
    rw [getD_rows, if_pos (h.phrase_lt p)]
    refine (under_filterMap (h.phrase_lt_pow p) ?_ ?_ _).symm
    · rintro ⟨x, i⟩ entry hentry
      cases x with
      | token t => cases hentry
      | phrase q =>
        cases hentry
        exact h.phrase_lt_pow q
    · rintro ⟨x, i⟩
      cases x <;> rfl

theorem isCorner_compact (h : number.Sound bits) (p q : φ) :
    (ofProductions number first more).isCorner p q =
      (compact number bits first more).isCorner p q := by
  have hsteps : ∀ n < number.phrases,
      ((Array.range number.phrases).map (firsts number first more)).getD n [] =
        under bits n (cornerEntries number first more) := by
    intro n hn
    rw [getD_rows, if_pos hn, under_cornerEntries h (Nat.lt_of_lt_of_le hn h.phrases_le)]
  have hmem : ∀ n < number.phrases,
      ∀ k ∈ ((Array.range number.phrases).map (firsts number first more)).getD n [],
        k < number.phrases := by
    intro n hn
    rw [getD_rows, if_pos hn]
    exact mem_firsts h n
  change Array.getD (Array.getD (Array.map _ _) _ _) _ false = hasBit _ (reachBits _ _ _ _)
  rw [getD_rows, if_pos (h.phrase_lt p), hasBit_eq]
  refine (testBit_reachBits (fun n hn => (hsteps n hn).symm) hmem ?_ Array.size_replicate ?_ _).symm
  · simpa using h.phrase_lt p
  · intro k
    rw [Nat.zero_testBit, Array.getD_eq_getD_getElem?, Array.getElem?_replicate]
    split <;> rfl

/-- A table is the compact one where the numbers of its grammar are sound. -/
theorem ofProductions_eq_compact (h : number.Sound bits) :
    ofProductions number first more = compact number bits first more := by
  have hopenings : (ofProductions number first more).openings =
      (compact number bits first more).openings := funext (openings_compact h)
  have hcorner : (ofProductions number first more).isCorner =
      (compact number bits first more).isCorner :=
    funext fun p => funext (isCorner_compact h p)
  exact (Table.mk.injEq ..).mpr ⟨hopenings, hcorner, rfl, rfl, rfl⟩

end Table

end AnnotationIndex.Grammar
