import AnnotationIndex.Proofs.Json.Lexical

/-!
# Reading back printed documents

`Spells j s` says that the text `s` spells the document `j`, with blanks wherever the grammar allows
them. Every spelling of a document is read as that document, and both ways of printing give
spellings.
-/

namespace AnnotationIndex.Json

def Blanks (s : List Char) : Prop := ∀ c ∈ s, isBlank c = true

mutual

/-- The text spells the document. -/
inductive Spells : Json → List Char → Prop
  | null : Spells .null ['n', 'u', 'l', 'l']
  | truth : Spells (.truth true) ['t', 'r', 'u', 'e']
  | falsehood : Spells (.truth false) ['f', 'a', 'l', 's', 'e']
  | number {text : String} (h : IsNumber text) : Spells (.number text) text.toList
  | string (text : String) : Spells (.string text) ('"' :: text.toList.flatMap escaped ++ ['"'])
  | noItems : Spells (.array []) ['[', ']']
  | items {items : List Json} {s : List Char} (h : SpellsItems items s) :
      Spells (.array items) ('[' :: s)
  | noMembers : Spells (.object []) ['\x7b', '\x7d']
  | members {members : List (String × Json)} {s : List Char} (h : SpellsMembers members s) :
      Spells (.object members) ('\x7b' :: s)

/-- The text spells the items of an array through its closing bracket. -/
inductive SpellsItems : List Json → List Char → Prop
  | last {j : Json} {before s after : List Char} (hb : Blanks before) (h : Spells j s)
      (ha : Blanks after) : SpellsItems [j] (before ++ (s ++ (after ++ [']'])))
  | more {j : Json} {js : List Json} {before s t : List Char} (hb : Blanks before)
      (h : Spells j s) (ht : SpellsItems js t) : SpellsItems (j :: js) (before ++ (s ++ ',' :: t))

/-- The text spells the members of an object through its closing brace. -/
inductive SpellsMembers : List (String × Json) → List Char → Prop
  | last (key : String) {j : Json} {before gap s after : List Char} (hb : Blanks before)
      (hg : Blanks gap) (h : Spells j s) (ha : Blanks after) :
      SpellsMembers [(key, j)]
        (before ++ '"' :: (key.toList.flatMap escaped ++ '"' :: ':' :: (gap ++ (s ++ (after ++ ['\x7d'])))))
  | more (key : String) {j : Json} {members : List (String × Json)} {before gap s t : List Char}
      (hb : Blanks before) (hg : Blanks gap) (h : Spells j s) (ht : SpellsMembers members t) :
      SpellsMembers ((key, j) :: members)
        (before ++ '"' :: (key.toList.flatMap escaped ++ '"' :: ':' :: (gap ++ (s ++ ',' :: t))))

end

theorem skipBlanks_append {before : List Char} (h : Blanks before) (s : List Char) :
    skipBlanks (before ++ s) = skipBlanks s := by
  induction before with
  | nil => rfl
  | cons c before ih =>
    have hc : isBlank c = true := h c (by simp)
    have hrest : Blanks before := fun d hd => h d (by simp [hd])
    simp only [skipBlanks, List.cons_append, List.dropWhile_cons, hc, if_true] at ih ⊢
    exact ih hrest

theorem skipBlanks_cons {c : Char} (h : isBlank c = false) (s : List Char) :
    skipBlanks (c :: s) = c :: s := by
  simp [skipBlanks, h]

theorem Spells.head {j : Json} {s : List Char} (h : Spells j s) :
    ∃ c more, s = c :: more ∧ isBlank c = false ∧ c ≠ ']' := by
  cases h with
  | number h =>
    obtain ⟨c, more, heq, rfl | hdigit⟩ := h.head
    · exact ⟨'-', more, heq, by decide, by decide⟩
    · refine ⟨c, more, heq, isBlank_of_isDigit hdigit, ?_⟩
      rintro rfl
      simp at hdigit
  | null => exact ⟨_, _, rfl, by decide, by decide⟩
  | truth => exact ⟨_, _, rfl, by decide, by decide⟩
  | falsehood => exact ⟨_, _, rfl, by decide, by decide⟩
  | string text => exact ⟨_, _, rfl, by decide, by decide⟩
  | noItems => exact ⟨_, _, rfl, by decide, by decide⟩
  | items h => exact ⟨_, _, rfl, by decide, by decide⟩
  | noMembers => exact ⟨_, _, rfl, by decide, by decide⟩
  | members h => exact ⟨_, _, rfl, by decide, by decide⟩

theorem Spells.skipBlanks {j : Json} {s : List Char} (h : Spells j s) (rest : List Char) :
    Json.skipBlanks (s ++ rest) = s ++ rest := by
  obtain ⟨c, more, rfl, hc, -⟩ := h.head
  exact skipBlanks_cons hc _

theorem value?_append {before : List Char} (h : Blanks before) (fuel : Nat) (s : List Char) :
    value? fuel (before ++ s) = value? fuel s := by
  cases fuel with
  | zero => simp [value?]
  | succ fuel => simp only [value?, skipBlanks_append h]

private theorem endsNumber_blanks {after : List Char} (h : Blanks after) {c : Char}
    (hc : c.isDigit = false ∧ c ≠ '.' ∧ c ≠ 'e' ∧ c ≠ 'E') (rest : List Char) :
    EndsNumber (after ++ c :: rest) := by
  cases after with
  | nil => exact endsNumber_cons rest hc
  | cons b after =>
    have hb : isBlank b = true := h b (by simp)
    simp only [isBlank, Bool.or_eq_true, beq_iff_eq] at hb
    rcases hb with ((rfl | rfl) | rfl) | rfl <;> exact endsNumber_cons _ (by decide)

private theorem skipBlanks_skipBlanks (s : List Char) :
    skipBlanks (skipBlanks s) = skipBlanks s := by
  induction s with
  | nil => rfl
  | cons c s ih =>
    by_cases hc : isBlank c = true
    · have hskip : skipBlanks (c :: s) = skipBlanks s := by simp [skipBlanks, hc]
      rw [hskip, ih]
    · have hskip : skipBlanks (c :: s) = c :: s := skipBlanks_cons (by simpa using hc) s
      rw [hskip, hskip]

private theorem value?_skipBlanks (fuel : Nat) (s : List Char) :
    value? fuel (skipBlanks s) = value? fuel s := by
  cases fuel with
  | zero => simp [value?]
  | succ fuel => simp only [value?, skipBlanks_skipBlanks]

private theorem items?_skipBlanks (fuel : Nat) (s : List Char) :
    items? fuel (skipBlanks s) = items? fuel s := by
  cases fuel with
  | zero => simp [items?]
  | succ fuel => simp only [items?, value?_skipBlanks]

private theorem members?_skipBlanks (fuel : Nat) (s : List Char) :
    members? fuel (skipBlanks s) = members? fuel s := by
  cases fuel with
  | zero => simp [members?]
  | succ fuel => simp only [members?, skipBlanks_skipBlanks]

private theorem value?_number {text : String} (h : IsNumber text) (fuel : Nat) {rest : List Char}
    (hr : EndsNumber rest) :
    value? (fuel + 1) (text.toList ++ rest) = some (.number text, rest) := by
  have hnumber := h.number?_append hr
  have hblanks := (Spells.number h).skipBlanks rest
  have htext : String.ofList text.toList = text := String.ofList_toList
  obtain ⟨c, more, heq, hc⟩ := h.head
  simp only [value?, hblanks]
  rw [heq] at htext
  rw [heq, List.cons_append] at hnumber ⊢
  have hne : c ≠ '[' ∧ c ≠ '\x7b' ∧ c ≠ '"' ∧ c ≠ 'n' ∧ c ≠ 't' ∧ c ≠ 'f' := by
    rcases hc with rfl | hc
    · decide
    · refine ⟨?_, ?_, ?_, ?_, ?_, ?_⟩ <;> (rintro rfl; simp at hc)
  split
  case h_7 => rw [hnumber, Option.map_some, htext]
  all_goals simp_all

private theorem word?_append (word : String) (value : Json) (rest : List Char) :
    word? word value (word.toList ++ rest) = some (value, rest) := by
  have hprefix : word.toList.isPrefixOf (word.toList ++ rest) = true := by
    rw [List.isPrefixOf_iff_prefix]
    exact List.prefix_append _ _
  have hdrop : (word.toList ++ rest).drop word.length = rest := by
    rw [← String.length_toList, List.drop_left]
  rw [word?, if_pos hprefix, hdrop]

private theorem objectOf_map (members : List (String × Json)) :
    objectOf (members.map fun m => (some m.1, m.2)) = .object members := by
  have hm : (members.map fun m => (some m.1, m.2)).mapM
      (fun m : Option String × Json => m.1.map (·, m.2)) = some members := by
    induction members with
    | nil => rfl
    | cons m members ih => simp [ih]
  simp [objectOf, hm]

theorem SpellsItems.head {js : List Json} {s : List Char} (h : SpellsItems js s)
    (rest : List Char) : ∃ c more, Json.skipBlanks (s ++ rest) = c :: more ∧ c ≠ ']' := by
  cases h with
  | last hb h ha =>
    rw [List.append_assoc, skipBlanks_append hb, List.append_assoc, h.skipBlanks]
    obtain ⟨c, more, rfl, -, hc⟩ := h.head
    exact ⟨c, _, rfl, hc⟩
  | more hb h ht =>
    rw [List.append_assoc, skipBlanks_append hb, List.append_assoc, h.skipBlanks]
    obtain ⟨c, more, rfl, -, hc⟩ := h.head
    exact ⟨c, _, rfl, hc⟩

theorem SpellsMembers.head {members : List (String × Json)} {s : List Char}
    (h : SpellsMembers members s) (rest : List Char) :
    ∃ more, Json.skipBlanks (s ++ rest) = '"' :: more := by
  cases h with
  | last key hb =>
    rw [List.append_assoc, skipBlanks_append hb]
    exact ⟨_, skipBlanks_cons (by decide) _⟩
  | more key hb =>
    rw [List.append_assoc, skipBlanks_append hb]
    exact ⟨_, skipBlanks_cons (by decide) _⟩

private theorem value?_items {js : List Json} {s : List Char} (h : SpellsItems js s) (fuel : Nat)
    (rest : List Char) (hs : items? fuel (s ++ rest) = some (js, rest)) :
    value? (fuel + 1) ('[' :: s ++ rest) = some (.array js, rest) := by
  obtain ⟨c, more, hskip, hc⟩ := h.head rest
  rw [← items?_skipBlanks, hskip] at hs
  rw [List.cons_append, value?, skipBlanks_cons (by decide)]
  simp only [hskip]
  split
  · simp_all
  · simp [hs]

private theorem value?_members {members : List (String × Json)} {s : List Char}
    (h : SpellsMembers members s) (fuel : Nat) (rest : List Char)
    (hs : members? fuel (s ++ rest) = some (members.map fun m => (some m.1, m.2), rest)) :
    value? (fuel + 1) ('\x7b' :: s ++ rest) = some (.object members, rest) := by
  obtain ⟨more, hskip⟩ := h.head rest
  rw [← members?_skipBlanks, hskip] at hs
  rw [List.cons_append, value?, skipBlanks_cons (by decide)]
  simp [hskip, hs, objectOf_map]

private theorem members?_key (key : String) {before gap s rest more : List Char} {j : Json}
    (hb : Blanks before) (hg : Blanks gap) (fuel : Nat)
    (hvalue : value? fuel (s ++ more) = some (j, rest)) :
    members? (fuel + 1)
        (before ++ '"' :: (key.toList.flatMap escaped ++ '"' :: ':' :: (gap ++ (s ++ more)))) =
      match skipBlanks rest with
      | ',' :: rest => (members? fuel rest).map fun p => ((some key, j) :: p.1, p.2)
      | '\x7d' :: rest => some ([(some key, j)], rest)
      | _ => none := by
  have hcolon := skipBlanks_cons (c := ':') (by decide) (gap ++ (s ++ more))
  have hquote := skipBlanks_cons (c := '"') (by decide)
    (key.toList.flatMap escaped ++ '"' :: ':' :: (gap ++ (s ++ more)))
  rw [members?, skipBlanks_append hb, hquote]
  simp only [stringTail?_quoted, textOf?_map_some, String.ofList_toList, Option.bind_eq_bind,
    Option.bind_some, hcolon, value?_append hg]
  rw [hvalue]
  rfl

mutual

/-- A spelling is read as what it spells, with enough fuel and before anything that lengthens no
number. -/
theorem Spells.value? {j : Json} {s : List Char} (h : Spells j s) (fuel : Nat) (rest : List Char)
    (hfuel : 2 * s.length ≤ fuel) (hr : EndsNumber rest) :
    Json.value? fuel (s ++ rest) = some (j, rest) := by
  obtain ⟨fuel, rfl⟩ : ∃ n, fuel = n + 1 := by
    obtain ⟨c, more, rfl, -⟩ := h.head
    exact ⟨fuel - 1, by simp at hfuel; omega⟩
  cases h with
  | null =>
    have hword := word?_append "ull" .null rest
    simpa [Json.value?, skipBlanks_cons (c := 'n') (by decide)] using hword
  | truth =>
    have hword := word?_append "rue" (.truth true) rest
    simpa [Json.value?, skipBlanks_cons (c := 't') (by decide)] using hword
  | falsehood =>
    have hword := word?_append "alse" (.truth false) rest
    simpa [Json.value?, skipBlanks_cons (c := 'f') (by decide)] using hword
  | number h => exact value?_number h fuel hr
  | string text =>
    simp [Json.value?, skipBlanks_cons (c := '"') (by decide), stringTail?_quoted,
      textOf?_map_some]
  | noItems =>
    simp [Json.value?, skipBlanks_cons (c := '[') (by decide), skipBlanks_cons (c := ']') (by decide)]
  | noMembers =>
    simp [Json.value?, skipBlanks_cons (c := '\x7b') (by decide),
      skipBlanks_cons (c := '\x7d') (by decide)]
  | items h =>
    simp only [List.length_cons] at hfuel
    exact value?_items h fuel rest (h.items? fuel rest (by omega))
  | members h =>
    simp only [List.length_cons] at hfuel
    exact value?_members h fuel rest (h.members? fuel rest (by omega))

theorem SpellsItems.items? {js : List Json} {s : List Char} (h : SpellsItems js s) (fuel : Nat)
    (rest : List Char) (hfuel : 2 * s.length + 1 ≤ fuel) :
    Json.items? fuel (s ++ rest) = some (js, rest) := by
  obtain ⟨fuel, rfl⟩ : ∃ n, fuel = n + 1 := ⟨fuel - 1, by omega⟩
  cases h with
  | @last j before s after hb h ha =>
    simp only [List.length_append, List.length_cons] at hfuel
    have hends : EndsNumber (after ++ ']' :: rest) := endsNumber_blanks ha (by decide) rest
    have hvalue := h.value? fuel (after ++ ']' :: rest) (by omega) hends
    have hclose := skipBlanks_cons (c := ']') (by decide) rest
    simp [Json.items?, value?_append hb, hvalue, skipBlanks_append ha, hclose]
  | @more j js before s t hb h ht =>
    simp only [List.length_append, List.length_cons] at hfuel
    have hends : EndsNumber (',' :: (t ++ rest)) := endsNumber_cons _ (by decide)
    have hvalue := h.value? fuel (',' :: (t ++ rest)) (by omega) hends
    have hmore := ht.items? fuel rest (by omega)
    have hcomma := skipBlanks_cons (c := ',') (by decide) (t ++ rest)
    simp [Json.items?, value?_append hb, hvalue, hcomma, hmore]

theorem SpellsMembers.members? {members : List (String × Json)} {s : List Char}
    (h : SpellsMembers members s) (fuel : Nat) (rest : List Char)
    (hfuel : 2 * s.length + 1 ≤ fuel) :
    Json.members? fuel (s ++ rest) = some (members.map fun m => (some m.1, m.2), rest) := by
  obtain ⟨fuel, rfl⟩ : ∃ n, fuel = n + 1 := ⟨fuel - 1, by omega⟩
  cases h with
  | @last key j before gap s after hb hg h ha =>
    simp only [List.length_append, List.length_cons] at hfuel
    have hends : EndsNumber (after ++ '\x7d' :: rest) := endsNumber_blanks ha (by decide) rest
    have hvalue := h.value? fuel (after ++ '\x7d' :: rest) (by omega) hends
    have hclose := skipBlanks_cons (c := '\x7d') (by decide) rest
    have hkey := members?_key key hb hg fuel hvalue
    simp only [skipBlanks_append ha, hclose] at hkey
    simpa using hkey
  | @more key j members before gap s t hb hg h ht =>
    simp only [List.length_append, List.length_cons] at hfuel
    have hends : EndsNumber (',' :: (t ++ rest)) := endsNumber_cons _ (by decide)
    have hvalue := h.value? fuel (',' :: (t ++ rest)) (by omega) hends
    have hmore := ht.members? fuel rest (by omega)
    have hcomma := skipBlanks_cons (c := ',') (by decide) (t ++ rest)
    have hkey := members?_key key hb hg fuel hvalue
    simp only [hcomma, hmore] at hkey
    simpa using hkey

end

theorem parse?_of_spells {j : Json} {s : List Char} (h : Spells j s) {after : List Char}
    (ha : Blanks after) : parse? (String.ofList (s ++ after)) = some j := by
  have hends : EndsNumber after := by
    cases after with
    | nil => exact endsNumber_nil
    | cons b after =>
      have hblanks : Blanks [] := by simp [Blanks]
      have hb := ha b (by simp)
      simp only [isBlank, Bool.or_eq_true, beq_iff_eq] at hb
      rcases hb with ((rfl | rfl) | rfl) | rfl <;> exact endsNumber_cons _ (by decide)
  have hvalue := h.value? (2 * (s ++ after).length + 2) after (by simp; omega) hends
  have hskip : skipBlanks after = [] := by
    have := skipBlanks_append ha []
    rwa [List.append_nil] at this
  simp only [parse?, String.toList_ofList, Option.bind_eq_bind, hvalue, Option.bind_some, hskip]
  rfl

mutual

/-- Whether the text of a document can be read back: its numbers are spelled according to the
grammar and its strings are texts. -/
def Printable : Json → Prop
  | number text => IsNumber text
  | broken => False
  | array items => ItemsPrintable items
  | object members => MembersPrintable members
  | _ => True

def ItemsPrintable : List Json → Prop
  | [] => True
  | item :: more => item.Printable ∧ ItemsPrintable more

def MembersPrintable : List (String × Json) → Prop
  | [] => True
  | (_, value) :: more => value.Printable ∧ MembersPrintable more

end

theorem itemsPrintable_iff {items : List Json} :
    ItemsPrintable items ↔ ∀ j ∈ items, j.Printable := by
  induction items with
  | nil => simp [ItemsPrintable]
  | cons j items ih => simp [ItemsPrintable, ih]

theorem membersPrintable_iff {members : List (String × Json)} :
    MembersPrintable members ↔ ∀ m ∈ members, m.2.Printable := by
  induction members with
  | nil => simp [MembersPrintable]
  | cons m members ih =>
    obtain ⟨key, j⟩ := m
    simp [MembersPrintable, ih]

@[simp] theorem printable_string (text : String) : (Json.string text).Printable := trivial

@[simp] theorem printable_null : Json.null.Printable := trivial

@[simp] theorem printable_array {items : List Json} :
    (Json.array items).Printable ↔ ∀ j ∈ items, j.Printable := itemsPrintable_iff

@[simp] theorem printable_object {members : List (String × Json)} :
    (Json.object members).Printable ↔ ∀ m ∈ members, m.2.Printable := membersPrintable_iff

private theorem blanks_nil : Blanks [] := by simp [Blanks]

private theorem blanks_newLine (level : Nat) : Blanks (newLine level).toList := by
  intro c hc
  simp only [newLine, String.toList_ofList, List.mem_cons, List.mem_replicate] at hc
  rcases hc with rfl | ⟨-, rfl⟩ <;> decide

private theorem quoted_toList (text : String) :
    (quoted text).toList = '"' :: text.toList.flatMap escaped ++ ['"'] := by
  simp [quoted]

mutual

theorem spells_compact : ∀ {j : Json}, j.Printable → Spells j j.compact.toList
  | .null, _ => .null
  | .truth true, _ => .truth
  | .truth false, _ => .falsehood
  | .number _, h => .number h
  | .string text, _ => by
    rw [compact, quoted_toList]
    exact .string text
  | .array [], _ => .noItems
  | .array (item :: more), h => by
    have hitems := spellsItems_compact (item :: more) (by simp) h
    simpa [compact] using Spells.items hitems
  | .object [], _ => .noMembers
  | .object (member :: more), h => by
    have hmembers := spellsMembers_compact (member :: more) (by simp) h
    simpa [compact] using Spells.members hmembers

theorem spellsItems_compact : ∀ (items : List Json), items ≠ [] → ItemsPrintable items →
    SpellsItems items ((compactItems items).toList ++ [']'])
  | [], hne, _ => absurd rfl hne
  | [item], _, h => by
    have hitem := spells_compact h.1
    simpa [compactItems] using SpellsItems.last blanks_nil hitem blanks_nil
  | item :: next :: more, _, h => by
    have hitem := spells_compact h.1
    have hmore := spellsItems_compact (next :: more) (by simp) h.2
    simpa [compactItems] using SpellsItems.more blanks_nil hitem hmore

theorem spellsMembers_compact : ∀ (members : List (String × Json)), members ≠ [] →
    MembersPrintable members →
    SpellsMembers members ((compactMembers members).toList ++ ['\x7d'])
  | [], hne, _ => absurd rfl hne
  | [(key, j)], _, h => by
    have hj := spells_compact h.1
    simpa [compactMembers, quoted_toList] using
      SpellsMembers.last key blanks_nil blanks_nil hj blanks_nil
  | (key, j) :: next :: more, _, h => by
    have hj := spells_compact h.1
    have hmore := spellsMembers_compact (next :: more) (by simp) h.2
    simpa [compactMembers, quoted_toList] using
      SpellsMembers.more key blanks_nil blanks_nil hj hmore

end

theorem parse?_compact {j : Json} (h : j.Printable) : parse? j.compact = some j := by
  have hparse := parse?_of_spells (spells_compact h) blanks_nil
  rwa [List.append_nil, String.ofList_toList] at hparse

mutual

theorem spells_prettyAt : ∀ (level : Nat) {j : Json}, j.Printable →
    Spells j (j.prettyAt level).toList
  | _, .null, _ => by
    rw [prettyAt]
    exact .null
  | _, .truth true, _ => by
    rw [prettyAt]
    exact .truth
  | _, .truth false, _ => by
    rw [prettyAt]
    exact .falsehood
  | _, .number _, h => by
    rw [prettyAt]
    exact .number h
  | _, .string text, _ => by
    rw [prettyAt, quoted_toList]
    exact .string text
  | _, .array [], _ => by
    rw [prettyAt]
    exact .noItems
  | level, .array (item :: more), h => by
    have hitem := spells_prettyAt (level + 1) h.1
    have hmore := spellsItems_pretty level (newLine (level + 1)).toList
      (blanks_newLine (level + 1)) hitem h.2
    simpa [prettyAt] using Spells.items hmore
  | _, .object [], _ => by
    rw [prettyAt]
    exact .noMembers
  | level, .object ((key, j) :: more), h => by
    have hj := spells_prettyAt (level + 1) h.1
    have hmore := spellsMembers_pretty level key (newLine (level + 1)).toList
      (blanks_newLine (level + 1)) hj h.2
    simpa [prettyAt, quoted_toList] using Spells.members hmore

theorem spellsItems_pretty (level : Nat) (before : List Char) (hb : Blanks before) {j : Json}
    {s : List Char} (hj : Spells j s) : ∀ {more : List Json}, ItemsPrintable more →
    SpellsItems (j :: more) (before ++
      (s ++ ((prettyItems (level + 1) more).toList ++ ((newLine level).toList ++ [']']))))
  | [], _ => by
    simpa [prettyItems] using SpellsItems.last hb hj (blanks_newLine level)
  | next :: more, h => by
    have hnext := spells_prettyAt (level + 1) h.1
    have hmore := spellsItems_pretty level (newLine (level + 1)).toList
      (blanks_newLine (level + 1)) hnext h.2
    simpa [prettyItems] using SpellsItems.more hb hj hmore

theorem spellsMembers_pretty (level : Nat) (key : String) (before : List Char)
    (hb : Blanks before) {j : Json} {s : List Char} (hj : Spells j s) :
    ∀ {more : List (String × Json)}, MembersPrintable more →
    SpellsMembers ((key, j) :: more)
      (before ++ '"' :: (key.toList.flatMap escaped ++ '"' :: ':' :: ([' '] ++
        (s ++ ((prettyMembers (level + 1) more).toList ++ ((newLine level).toList ++ ['\x7d']))))))
  | [], _ => by
    have hgap : Blanks [' '] := by simp [Blanks, isBlank]
    simpa [prettyMembers] using SpellsMembers.last key hb hgap hj (blanks_newLine level)
  | (next, value) :: more, h => by
    have hgap : Blanks [' '] := by simp [Blanks, isBlank]
    have hnext := spells_prettyAt (level + 1) h.1
    have hmore := spellsMembers_pretty level next (newLine (level + 1)).toList
      (blanks_newLine (level + 1)) hnext h.2
    simpa [prettyMembers, quoted_toList] using SpellsMembers.more key hb hgap hj hmore

end

/-- A document that was printed with one item a line is read back, also before a last new line. -/
theorem parse?_pretty {j : Json} (h : j.Printable) : parse? (j.pretty ++ "\n") = some j := by
  have hblanks : Blanks ['\n'] := by simp [Blanks, isBlank]
  have hparse := parse?_of_spells (spells_prettyAt 0 h) hblanks
  have htext : String.ofList ((j.prettyAt 0).toList ++ ['\n']) = j.pretty ++ "\n" := by
    rw [String.ofList_append, String.ofList_toList]
    rfl
  rwa [htext] at hparse

end AnnotationIndex.Json
