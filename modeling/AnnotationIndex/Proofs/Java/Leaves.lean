import AnnotationIndex.Java.Syntax.Outline
import AnnotationIndex.Proofs.Grammar.Soundness
import AnnotationIndex.Proofs.Java.Tokens

/-!
# Marks of leaves

The leaves of the trees of a text are made of one or more of its tokens. The marks of the text are
the marks of the leaves, and each leaf has the marks of its kind.
-/

namespace AnnotationIndex.Java

open Header

namespace Syntax

open Terminal Grammar

abbrev Leaf := Terminal × Token

def spellings : List (String × Terminal) :=
  Terminal.words ++ signs ++ [("@interface", atInterface), ("non-sealed", nonSealed)]

def marksOf (leaves : List Leaf) : List Mark := leaves.flatMap fun leaf => marks leaf.2.text.toList

/-- A leaf has the marks of its kind. -/
inductive Faithful : Leaf → Prop
  | finish (gap : String) (kind : TokenKind) : Faithful (finish, ⟨gap, kind, ""⟩)
  | name (t : Token) (h : marks t.text.toList = [.word t.text]) : Faithful (name, t)
  | literal (kind : Terminal) (t : Token)
      (hkind : kind ∈ [integer, real, hexReal, character, string])
      (h : ∀ m ∈ marks t.text.toList, m = .other ∨ m = .dot ∨ ∃ w, m = .word w) : Faithful (kind, t)
  | spelled (kind : Terminal) (t : Token) (h : (t.text, kind) ∈ spellings) : Faithful (kind, t)

/-- The tokens that make up a leaf. -/
structure Makes (group : List Token) (leaf : Leaf) : Prop where
  apart : ∀ ts, areApart (leaf.2 :: ts) = true → areApart (group ++ ts) = true
  distinct : isDistinct leaf.2 = true → ∀ t ∈ group, isDistinct t = true
  marks : (∀ t ∈ group, Shaped t.kind t.text.toList) →
    (group.flatMap fun t => marks t.text.toList) = Header.marks leaf.2.text.toList ∧ Faithful leaf

theorem makes_single {t : Token} {kind : Terminal}
    (h : Shaped t.kind t.text.toList → Faithful (kind, t)) : Makes [t] (kind, t) where
  apart := fun _ h => h
  distinct := by
    intro h u hu
    rw [List.mem_singleton.1 hu]
    exact h
  marks := by
    intro hshaped
    exact ⟨by simp, h (hshaped t List.mem_cons_self)⟩

theorem mem_of_lookup {β : Type} {k : String} {v : β} {kvs : List (String × β)}
    (h : kvs.lookup k = some v) : (k, v) ∈ kvs := by
  induction kvs with
  | nil => cases h
  | cons kv kvs ih =>
    obtain ⟨k', v'⟩ := kv
    rw [List.lookup_cons] at h
    split at h
    · rename_i heq
      cases h
      rw [beq_iff_eq.1 heq]
      exact List.mem_cons_self
    · exact List.mem_cons_of_mem _ (ih h)

theorem faithful_word {canFollow : Terminal → Bool} {t : Token} (hkind : t.kind = .word)
    (hshaped : Shaped t.kind t.text.toList) :
    Faithful (match Terminal.words.lookup t.text with
      | some kind => if canFollow kind then kind else .name
      | none => .name, t) := by
  have hname : Faithful (.name, t) := by
    refine .name t ?_
    rw [hkind] at hshaped
    simpa [Shaped] using hshaped
  split
  · rename_i kind hlookup
    split
    · refine .spelled kind t ?_
      simp [spellings, mem_of_lookup hlookup]
    · exact hname
  · exact hname

theorem pushBack?_spec {n : Nat} {word : Token} {rest after : List Token}
    (h : pushBack? n word rest = some after) :
    (word.text.toList.drop n = [] ∧ after = rest) ∨ joinsTo after = true := by
  unfold pushBack? at h
  split at h
  · rename_i hdrop
    cases h
    exact .inl ⟨hdrop, rfl⟩
  · rename_i c more hdrop
    split at h
    · rename_i hc
      cases h
      right
      simp [joinsTo, startsInPart, isNamePart_of_isNameStart (isNameStart_of_isWordStart hc)]
    · cases h

/-- A token made of a word or sign, tokens without gaps and a word, unless a part of the word is
left. -/
theorem compound?_spec {kind : Terminal} {t : Token} {joined : List String} {last : String}
    {rest : List Token} {next : Cut} (h : compound? kind t joined last rest = some (some next)) :
    ∃ text, text = t.text ++ String.join joined ++ last ∧ next.kind = kind ∧
      next.token = ⟨t.gap, t.kind, text⟩ ∧ (joinsTo next.rest = true ∨
        ∃ middle, (∀ u ∈ middle, u.gap.isEmpty = true) ∧ middle.map (·.text) = joined ∧
          rest = middle ++ ⟨"", .word, last⟩ :: next.rest) := by
  unfold compound? at h
  simp only at h
  split at h
  · rename_i hmiddle
    split at h
    · rename_i word after hdrop
      split at h
      · rename_i hword
        obtain ⟨more, hpush, rfl⟩ := Option.map_eq_some_iff.1 (Option.some.inj h)
        refine ⟨_, rfl, rfl, rfl, ?_⟩
        obtain ⟨hgaps, htexts⟩ := Bool.and_eq_true_iff.1 hmiddle
        obtain ⟨⟨hgap, hkind⟩, hprefix⟩ : (word.gap.isEmpty = true ∧ word.kind = .word) ∧
            last.isPrefixOf word.text = true := by simpa using hword
        have hprefix' : last.toList <+: word.text.toList := String.startsWith_string_iff.1 hprefix
        rcases pushBack?_spec hpush with ⟨hempty, rfl⟩ | hjoins
        · right
          obtain ⟨tail, htail⟩ := hprefix'
          rw [← htail, ← String.length_toList, List.drop_left] at hempty
          have htext : word.text = last := by
            rw [← String.toList_inj, ← htail, hempty, List.append_nil]
          have hword' : word = ⟨"", .word, last⟩ := by
            obtain ⟨gap, kind, text⟩ := word
            simp_all
          refine ⟨rest.take joined.length, ?_, beq_iff_eq.1 htexts, ?_⟩
          · exact fun u hu => List.all_eq_true.1 hgaps u hu
          · have hsplit := List.take_append_drop joined.length rest
            rw [hdrop, hword'] at hsplit
            exact hsplit.symm
        · exact .inl hjoins
      · cases h
    · cases h
  · cases h

theorem areApart_cons {t : Token} {ts : List Token} (hend : endsInPart t.text.toList = false)
    (hts : areApart ts = true) : areApart (t :: ts) = true := by
  simp [areApart, hend, hts]

theorem areApart_congr {t u : Token} {ts : List Token}
    (h : endsInPart t.text.toList = endsInPart u.text.toList) :
    areApart (t :: ts) = areApart (u :: ts) := by
  simp [areApart, h]

theorem isDistinct_of_kind {t : Token} (h : t.kind = .word ∨ t.kind = .symbol) :
    isDistinct t = true := by
  rcases h with h | h <;> simp [isDistinct, isTemplate, h]

theorem makes_atInterface {t : Token} (htext : t.text = "@") (hkind : t.kind = .symbol) :
    Makes [t, ⟨"", .word, "interface"⟩] (atInterface, ⟨t.gap, t.kind, "@interface"⟩) where
  apart := by
    intro ts hts
    refine areApart_cons (by rw [htext]; decide) ?_
    have hend : endsInPart "interface".toList = endsInPart "@interface".toList := by decide
    exact (areApart_congr hend).trans hts
  distinct := by
    intro _ u hu
    rcases List.mem_cons.1 hu with rfl | hu
    · exact isDistinct_of_kind (.inr hkind)
    · rw [List.mem_singleton.1 hu]
      exact isDistinct_of_kind (.inl rfl)
  marks := by
    intro _
    have hspelled : ("@interface", atInterface) ∈ spellings := by decide
    refine ⟨?_, .spelled _ _ hspelled⟩
    simp only [List.flatMap_cons, List.flatMap_nil, htext]
    decide +kernel

theorem makes_nonSealed {t dash : Token} (htext : t.text = "non") (hkind : t.kind = .word)
    (hdash : dash.text = "-") (hdistinct : isDistinct dash = true) :
    Makes [t, dash, ⟨"", .word, "sealed"⟩] (nonSealed, ⟨t.gap, t.kind, "non-sealed"⟩) where
  apart := by
    intro ts hts
    have hrest : areApart (dash :: ⟨"", .word, "sealed"⟩ :: ts) = true := by
      refine areApart_cons (by rw [hdash]; decide) ?_
      have hend : endsInPart "sealed".toList = endsInPart "non-sealed".toList := by decide
      exact (areApart_congr hend).trans hts
    have hjoins : joinsTo (dash :: ⟨"", .word, "sealed"⟩ :: ts) = false := by
      simp only [joinsTo, hdash]
      have hstart : startsInPart "-".toList = false := by decide
      rw [hstart, Bool.and_false]
    change areApart (t :: dash :: ⟨"", .word, "sealed"⟩ :: ts) = true
    rw [areApart, hjoins, hrest]
    simp
  distinct := by
    intro _ u hu
    rcases List.mem_cons.1 hu with rfl | hu
    · exact isDistinct_of_kind (.inl hkind)
    · rcases List.mem_cons.1 hu with rfl | hu
      · exact hdistinct
      · rw [List.mem_singleton.1 hu]
        exact isDistinct_of_kind (.inl rfl)
  marks := by
    intro _
    have hspelled : ("non-sealed", nonSealed) ∈ spellings := by decide
    refine ⟨?_, .spelled _ _ hspelled⟩
    simp only [List.flatMap_cons, List.flatMap_nil, htext, hdash]
    decide +kernel

theorem spelled?_spec {cs : List Char} {ts rest : List Token} (h : spelled? cs ts = some rest) :
    ∃ group, ts = group ++ rest ∧ group.map (·.text) = cs.map String.singleton ∧
      ∀ t ∈ group, t.kind = .symbol := by
  induction cs generalizing ts with
  | nil =>
    cases h
    exact ⟨[], rfl, rfl, by simp⟩
  | cons c cs ih =>
    cases ts with
    | nil => cases h
    | cons t ts =>
      unfold spelled? at h
      split at h
      · rename_i ht
        obtain ⟨⟨-, hkind⟩, htext⟩ : (t.gap.isEmpty = true ∧ t.kind = .symbol) ∧
            t.text = String.singleton c := by simpa using ht
        obtain ⟨group, rfl, htexts, hkinds⟩ := ih h
        refine ⟨t :: group, rfl, by simp [htext, htexts], ?_⟩
        exact List.forall_mem_cons.2 ⟨hkind, hkinds⟩
      · cases h

theorem flatMap_texts (group : List Token) :
    (group.flatMap fun t => marks t.text.toList) =
      (group.map (·.text)).flatMap fun text => marks text.toList := by
  rw [List.flatMap_map]

theorem areApart_signs {group ts : List Token}
    (hgroup : ∀ t ∈ group, endsInPart t.text.toList = false) (hts : areApart ts = true) : areApart (group ++ ts) = true := by
  induction group with
  | nil => exact hts
  | cons t group ih =>
    obtain ⟨ht, hgroup⟩ := List.forall_mem_cons.1 hgroup
    exact areApart_cons ht (ih hgroup)

theorem closingSigns_spec : ∀ sign ∈ closingSigns,
    (sign.toList.map String.singleton).flatMap (fun text => marks text.toList) = marks sign.toList ∧
      startsInPart sign.toList = false ∧
      (∀ text ∈ sign.toList.map String.singleton, endsInPart text.toList = false) ∧
      sign.toList.take 1 = ['>'] := by
  decide +kernel

theorem makes_closing {t : Token} {group : List Token} {sign : String} {kind : Terminal}
    (htext : t.text = ">") (hkind : t.kind = .symbol) (hsign : sign ∈ closingSigns)
    (hlookup : (sign, kind) ∈ signs)
    (htexts : group.map (·.text) = (sign.toList.drop 1).map String.singleton)
    (hkinds : ∀ u ∈ group, u.kind = .symbol) :
    Makes (t :: group) (kind, ⟨t.gap, t.kind, sign⟩) := by
  obtain ⟨hmarks, -, hends, hfirst⟩ := closingSigns_spec sign hsign
  have hall : (t :: group).map (·.text) = sign.toList.map String.singleton := by
    conv => rhs; rw [← List.take_append_drop 1 sign.toList, hfirst]
    simp only [List.map_cons, htexts, htext]
    rfl
  constructor
  · intro ts hts
    refine areApart_signs ?_ ((Bool.and_eq_true_iff.1 hts).2)
    intro u hu
    exact hends u.text (hall ▸ List.mem_map_of_mem hu)
  · intro _ u hu
    rcases List.mem_cons.1 hu with rfl | hu
    · exact isDistinct_of_kind (.inr hkind)
    · exact isDistinct_of_kind (.inr (hkinds u hu))
  · intro _
    refine ⟨?_, .spelled _ _ ?_⟩
    · rw [flatMap_texts, hall, hmarks]
    · simp [spellings, hlookup]

theorem words_ne_finish : ∀ p ∈ Terminal.words, p.2 ≠ finish := by decide

theorem signs_ne_finish : ∀ p ∈ signs, p.2 ≠ finish := by decide

/-- What the next leaf takes from the tokens. If a part of a word is left, it goes on right after
the leaf. -/
structure Takes (ts : List Token) (next : Cut) : Prop where
  ne_finish : next.kind ≠ finish
  joins : joinsTo [next.token] = joinsTo ts
  makes : (∀ t ∈ ts, t.text = "-" → isDistinct t = true) → isDistinct next.token = true →
    (endsInPart next.token.text.toList = true ∧ joinsTo next.rest = true) ∨
      ∃ group, ts = group ++ next.rest ∧ Makes group (next.kind, next.token)

theorem takes_single {kind : Terminal} {t : Token} {rest : List Token} (hkind : kind ≠ finish)
    (h : isTemplate t.kind = false → Shaped t.kind t.text.toList → Faithful (kind, t)) :
    Takes (t :: rest) (cut kind t rest) where
  ne_finish := hkind
  joins := rfl
  makes := by
    intro _ hdistinct
    have htemplate : isTemplate t.kind = false := by
      simpa [cut] using (Bool.and_eq_true_iff.1 hdistinct).1
    exact .inr ⟨[t], rfl, makes_single (h htemplate)⟩

theorem takes_word {canFollow : Terminal → Bool} {t : Token} {rest : List Token} {next : Cut}
    (hkind : t.kind = .word) (h : cutWord canFollow t rest = some next) :
    Takes (t :: rest) next := by
  have hsingle : ∀ kind, (match Terminal.words.lookup t.text with
      | some kind => if canFollow kind then kind else .name
      | none => .name) = kind → Takes (t :: rest) (cut kind t rest) := by
    rintro kind rfl
    refine takes_single ?_ (fun _ => faithful_word hkind)
    split
    · rename_i kind hlookup
      split
      · exact words_ne_finish _ (mem_of_lookup hlookup)
      · decide
    · decide
  unfold cutWord at h
  simp only at h
  split at h
  · rename_i hnon
    obtain ⟨htext, -⟩ : t.text = "non" ∧ canFollow nonSealed = true := by simpa using hnon
    cases hcompound : compound? nonSealed t ["-"] "sealed" rest with
    | none =>
      rw [hcompound] at h
      cases h
      exact hsingle _ rfl
    | some found =>
      rw [hcompound] at h
      change found = some next at h
      subst h
      obtain ⟨text, rfl, hnext, htoken, hrest⟩ := compound?_spec hcompound
      rw [htext] at htoken
      refine ⟨by rw [hnext]; decide, ?_, fun hdash _ => ?_⟩
      · have hstart : startsInPart ("non" ++ String.join ["-"] ++ "sealed").toList =
            startsInPart "non".toList := by decide
        simp only [joinsTo, htoken, htext, hstart]
      rcases hrest with hjoins | ⟨middle, hgaps, hmiddle, hrest⟩
      · left
        have hend : endsInPart ("non" ++ String.join ["-"] ++ "sealed").toList = true := by decide
        exact ⟨htoken ▸ hend, hjoins⟩
      · right
        obtain ⟨dash, rfl, hdashText⟩ : ∃ dash, middle = [dash] ∧ dash.text = "-" := by
          cases middle with
          | nil => cases hmiddle
          | cons dash middle =>
            obtain ⟨hd, hm⟩ := List.cons.inj hmiddle
            exact ⟨dash, by rw [List.map_eq_nil_iff.1 hm], hd⟩
        refine ⟨[t, dash, ⟨"", .word, "sealed"⟩], by rw [hrest]; rfl, ?_⟩
        rw [hnext, htoken]
        have hmem : dash ∈ t :: rest := by simp [hrest]
        exact makes_nonSealed htext hkind hdashText (hdash dash hmem hdashText)
  · cases h
    exact hsingle _ rfl

theorem takes_closing {canFollow : Terminal → Bool} {t : Token} {rest : List Token} {next : Cut}
    (hkind : t.kind = .symbol) (htext : t.text = ">")
    (h : cutClosing canFollow t rest = some next) : Takes (t :: rest) next := by
  unfold cutClosing at h
  simp only at h
  rcases Option.or_eq_some_iff.1 h with hlonger | ⟨-, hsingle⟩
  · obtain ⟨sign, hsign, hfound⟩ := List.exists_of_findSome?_eq_some hlonger
    simp only [Option.bind_eq_bind, Option.bind_eq_some_iff] at hfound
    obtain ⟨kind, hlookup, after, hspelled, hnext⟩ := hfound
    split at hnext
    · cases hnext
      obtain ⟨group, rfl, htexts, hkinds⟩ := spelled?_spec hspelled
      have hmem := mem_of_lookup hlookup
      refine ⟨signs_ne_finish _ hmem, ?_, fun _ _ => .inr ⟨t :: group, rfl, ?_⟩⟩
      · have hstart : startsInPart ">".toList = false := by decide
        simp only [joinsTo, cut, htext, hstart, (closingSigns_spec sign hsign).2.1]
      · exact makes_closing htext hkind hsign hmem htexts hkinds
    · cases hnext
  · cases hsingle
    refine takes_single (by decide) ?_
    intro _ _
    have hspelled : (">", greater) ∈ spellings := by decide
    exact .spelled _ _ (htext ▸ hspelled)

theorem takes_sign {canFollow : Terminal → Bool} {t : Token} {rest : List Token} {next : Cut}
    (hkind : t.kind = .symbol) (h : cutSign canFollow t rest = some next) :
    Takes (t :: rest) next := by
  have hsingle : ∀ {next : Cut}, (signs.lookup t.text).map (cut · t rest) = some next →
      Takes (t :: rest) next := by
    intro next hnext
    obtain ⟨kind, hlookup, rfl⟩ := Option.map_eq_some_iff.1 hnext
    have hmem := mem_of_lookup hlookup
    refine takes_single (signs_ne_finish _ hmem) ?_
    intro _ _
    refine .spelled _ _ ?_
    simp [spellings, hmem]
  unfold cutSign at h
  simp only at h
  split at h
  · rename_i htext
    exact takes_closing hkind htext h
  · split at h
    · rename_i hat
      obtain ⟨htext, -⟩ : t.text = "@" ∧ canFollow atInterface = true := by simpa using hat
      cases hcompound : compound? atInterface t [] "interface" rest with
      | none =>
        rw [hcompound] at h
        exact hsingle h
      | some found =>
        rw [hcompound] at h
        change found = some next at h
        subst h
        obtain ⟨text, rfl, hnext, htoken, hrest⟩ := compound?_spec hcompound
        rw [htext] at htoken
        refine ⟨by rw [hnext]; decide, ?_, fun _ _ => ?_⟩
        · have hstart : startsInPart ("@" ++ String.join [] ++ "interface").toList =
              startsInPart "@".toList := by decide
          simp only [joinsTo, htoken, htext, hstart]
        rcases hrest with hjoins | ⟨middle, hgaps, hmiddle, hrest⟩
        · left
          have hend : endsInPart ("@" ++ String.join [] ++ "interface").toList = true := by decide
          exact ⟨htoken ▸ hend, hjoins⟩
        · right
          rw [List.map_eq_nil_iff.1 hmiddle] at hrest
          refine ⟨[t, ⟨"", .word, "interface"⟩], by rw [hrest]; rfl, ?_⟩
          rw [hnext, htoken]
          exact makes_atInterface htext hkind
    · exact hsingle h

theorem takes_literal {kind : Terminal} {t : Token} {rest : List Token}
    (hkind : kind ∈ [integer, real, hexReal, character, string])
    (h : Shaped t.kind t.text.toList →
      ∀ m ∈ marks t.text.toList, m = .other ∨ m = .dot ∨ ∃ w, m = .word w) :
    Takes (t :: rest) (cut kind t rest) := by
  refine takes_single ?_ (fun _ hshaped => .literal kind t hkind (h hshaped))
  rintro rfl
  revert hkind
  decide

theorem takes_of_scan {canFollow : Terminal → Bool} {t : Token} {rest : List Token} {next : Cut}
    (h : scan canFollow (t :: rest) = some next) : Takes (t :: rest) next := by
  unfold scan at h
  simp only at h
  split at h
  case h_1 hkind => exact takes_word hkind h
  case h_2 hkind => exact takes_sign hkind h
  case h_3 hkind =>
    cases h
    exact takes_literal (by decide) (by simp [Shaped, hkind])
  case h_4 hkind =>
    cases h
    exact takes_literal (by decide) (by simp [Shaped, hkind])
  case h_5 hkind =>
    cases h
    exact takes_literal (by decide) (by simp [Shaped, hkind])
  case h_6 hkind =>
    cases h
    refine takes_literal (by decide) ?_
    simp +contextual [Shaped, hkind]
  case h_7 hkind =>
    cases h
    refine takes_literal (by decide) ?_
    rw [hkind]
    rintro (hempty | hother)
    · simp [hempty]
    · simp [hother]
  all_goals
    rename_i hkind
    cases h
    refine takes_single (by decide) ?_
    simp [hkind, isTemplate]

theorem eq_of_cuts_nil {ts rest : List Token} (h : Cuts scan ts [] rest) : rest = ts := by
  generalize hall : ([] : List Leaf) = all at h
  cases h with
  | none => rfl
  | more h hnext =>
    have hlength := congrArg List.length hall
    simp at hlength

theorem cuts_head {ts rest : List Token} {leaf : Leaf} {leaves : List Leaf}
    (h : Cuts scan ts (leaf :: leaves) rest) : ∃ canFollow next, scan canFollow ts = some next ∧
      leaf = (next.kind, next.token) ∧ Cuts scan next.rest leaves rest := by
  generalize hall : leaf :: leaves = all at h
  induction h generalizing leaves with
  | none => cases hall
  | @more taken rest h canFollow next hnext ih =>
    cases taken with
    | nil =>
      cases hall
      rw [eq_of_cuts_nil h] at hnext
      exact ⟨canFollow, next, hnext, rfl, .none _⟩
    | cons l taken =>
      rw [List.cons_append] at hall
      obtain ⟨rfl, rfl⟩ := List.cons.inj hall
      obtain ⟨canFollow', next', hnext', hleaf, hcuts⟩ := ih rfl
      exact ⟨canFollow', next', hnext', hleaf, hcuts.more hnext⟩

theorem eq_nil_of_finish {ts rest : List Token} {last : Leaf} (hlast : last.1 = finish)
    (h : Cuts scan ts [last] rest) : ts = [] := by
  obtain ⟨canFollow, next, hnext, rfl, -⟩ := cuts_head h
  cases ts with
  | nil => rfl
  | cons t ts =>
    exact absurd hlast (takes_of_scan hnext).ne_finish

theorem cuts_joins {ts rest : List Token} {leaves : List Leaf} {last : Leaf}
    (hlast : last.1 = finish) (h : Cuts scan ts (leaves ++ [last]) rest) : 
    joinsTo (leaves.map (·.2)) = joinsTo ts := by
  cases leaves with
  | nil =>
    rw [eq_nil_of_finish hlast h]
    rfl
  | cons leaf leaves =>
    obtain ⟨canFollow, next, hnext, rfl, -⟩ := cuts_head h
    cases ts with
    | nil =>
      cases hnext
      simp [joinsTo, startsInPart]
    | cons t ts => exact (takes_of_scan hnext).joins

/-- What the leaves are made of are tokens as the scan for headers takes them. -/
theorem leaves_spec {ts rest : List Token} {leaves : List Leaf} {last : Leaf}
    (hlast : last.1 = finish) (hdash : ∀ t ∈ ts, t.text = "-" → isDistinct t = true)
    (hdistinct : ∀ leaf ∈ leaves, isDistinct leaf.2 = true)
    (hapart : areApart (leaves.map (·.2)) = true) (h : Cuts scan ts (leaves ++ [last]) rest) :
    areApart ts = true ∧ (∀ t ∈ ts, isDistinct t = true) ∧
      ((∀ t ∈ ts, Shaped t.kind t.text.toList) →
        (ts.flatMap fun t => marks t.text.toList) = marksOf leaves ∧
          ∀ leaf ∈ leaves, Faithful leaf) := by
  induction leaves generalizing ts with
  | nil =>
    rw [eq_nil_of_finish hlast h]
    simp [areApart, marksOf]
  | cons leaf leaves ih =>
    obtain ⟨canFollow, next, hnext, rfl, hcuts⟩ := cuts_head h
    obtain ⟨hleaf, hrest⟩ := List.forall_mem_cons.1 hdistinct
    obtain ⟨hjoint, hmore⟩ := Bool.and_eq_true_iff.1 hapart
    cases ts with
    | nil =>
      cases hnext
      obtain ⟨-, -, hmarks⟩ := ih (by simp) hrest hmore hcuts
      obtain ⟨hmarks, hfaithful⟩ := hmarks (by simp)
      refine ⟨rfl, by simp, fun _ => ⟨?_, ?_⟩⟩
      · change [] = marks [] ++ marksOf leaves
        rw [marks_nil, ← hmarks]
        rfl
      · exact List.forall_mem_cons.2 ⟨.finish _ _, hfaithful⟩
    | cons t ts =>
      have htakes := takes_of_scan hnext
      have hjoins := cuts_joins hlast hcuts
      rcases htakes.makes hdash hleaf with ⟨hend, hstart⟩ | ⟨group, hsplit, hmakes⟩
      · rw [hjoins, hend, hstart] at hjoint
        cases hjoint
      · rw [hsplit] at hdash ⊢
        obtain ⟨hapart', hdistinct', hmarks'⟩ :=
          ih (fun u hu => hdash u (List.mem_append_right _ hu)) hrest hmore hcuts
        refine ⟨?_, ?_, ?_⟩
        · apply hmakes.apart
          rw [areApart, hapart', ← hjoins, hjoint]
          rfl
        · intro u hu
          exact (List.mem_append.1 hu).elim (hmakes.distinct hleaf u) (hdistinct' u)
        · intro hshaped
          obtain ⟨hgroup, hfaithful⟩ :=
            hmakes.marks fun u hu => hshaped u (List.mem_append_left _ hu)
          obtain ⟨hmarks, hfaithfuls⟩ :=
            hmarks' fun u hu => hshaped u (List.mem_append_right _ hu)
          refine ⟨?_, List.forall_mem_cons.2 ⟨hfaithful, hfaithfuls⟩⟩
          rw [List.flatMap_append, hgroup, hmarks]
          rfl

/-- The marks of a text are those of the leaves of its trees. -/
theorem marks_of_cuts {source : List Char} {ts rest : List Token} {leaves : List Leaf} {last : Leaf}
    (hts : tokens? source = some ts) (hcuts : Cuts scan ts (leaves ++ [last]) rest)
    (hlast : last.1 = finish) (hmark : source.head? ≠ some '\ufeff') (hvertical : '\x0b' ∉ source)
    (hdistinct : ∀ leaf ∈ leaves, isDistinct leaf.2 = true)
    (hapart : areApart (leaves.map (·.2)) = true) :
    marks source = marksOf leaves ∧ ∀ leaf ∈ leaves, Faithful leaf := by
  unfold tokens? at hts
  simp only [hmark, if_false] at hts
  split at hts
  · cases hts
  · obtain ⟨hts', hdistinct', hmarks⟩ := leaves_spec hlast
      (fun t ht htext => tokensFrom?_sign hts ht htext) hdistinct hapart hcuts
    obtain ⟨hsource, hshaped⟩ := tokensFrom?_marks hts hvertical hdistinct' hts'
    obtain ⟨hleaves, hfaithful⟩ := hmarks hshaped
    exact ⟨hsource.trans hleaves, hfaithful⟩

end Syntax

end AnnotationIndex.Java
