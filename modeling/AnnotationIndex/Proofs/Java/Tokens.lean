import AnnotationIndex.Proofs.Java.Marks

/-!
# Marks of tokens

If every string literal ends where the scan for headers takes it to end, and words and numbers are
kept apart, the marks of a text are the marks of its tokens.
-/

namespace AnnotationIndex.Java

open Header

/-- The first closing quote stands at the end of the text, and no line ends before it. -/
def quoteEnds (quote : Char) : List Char → Bool
  | [] => false
  | c :: rest =>
    if c == quote then rest.isEmpty
    else if c == '\\' then
      match rest with
      | _ :: rest => quoteEnds quote rest
      | [] => false
    else c != '\n' && quoteEnds quote rest

def blockEnds : List Char → Bool
  | '"' :: '"' :: '"' :: rest => rest.isEmpty
  | '\\' :: _ :: rest => blockEnds rest
  | _ :: rest => blockEnds rest
  | [] => false

def isClosed (text : List Char) : Bool :=
  match text with
  | '"' :: '"' :: '"' :: rest => blockEnds rest
  | '"' :: rest => quoteEnds '"' rest
  | _ => false

theorem afterQuote_append {quote : Char} {s : List Char} (h : quoteEnds quote s = true)
    (rest : List Char) :
    afterQuote quote (s ++ rest) = rest := by
  fun_induction quoteEnds quote s with
  | case1 => cases h
  | case2 c s hc =>
    rw [List.isEmpty_iff.1 h, List.cons_append, afterQuote.eq_def]
    simp [hc]
  | case3 c hc hslash d s ih =>
    have hline : (c == '\n') = false := by
      rw [beq_iff_eq.1 hslash]
      decide
    rw [List.cons_append, List.cons_append, afterQuote]
    simp [hc, hline, hslash, ih h]
  | case4 => cases h
  | case5 c s hc hslash ih =>
    obtain ⟨hline, hs⟩ := Bool.and_eq_true_iff.1 h
    have hline' : (c == '\n') = false := by simpa using hline
    rw [List.cons_append, afterQuote.eq_def]
    simp [hc, hline', hslash, ih hs]

theorem afterBlock_append {s : List Char} (h : blockEnds s = true) (rest : List Char) :
    afterBlock (s ++ rest) = rest := by
  fun_induction blockEnds s with
  | case1 s =>
    rw [List.isEmpty_iff.1 h]
    simp [afterBlock]
  | case2 d s ih => simp [afterBlock, ih h]
  | case3 c s hblock hslash ih =>
    have hs := ih h
    rw [List.cons_append, afterBlock.eq_3]
    · exact hs
    · rintro t rfl heq
      cases s with
      | nil => cases h
      | cons d s =>
        have hd : d = '"' := (List.cons.inj heq).1
        cases s with
        | nil =>
          rw [hd] at h
          cases h
        | cons e s =>
          have he : e = '"' := (List.cons.inj (List.cons.inj heq).2).1
          exact hblock s rfl (by rw [hd, he])
    · rintro d t rfl heq
      cases s with
      | nil => cases h
      | cons e s => exact hslash e s rfl rfl
  | case4 => cases h

theorem characterTail?_spec {s taken rest : List Char}
    (h : characterTail? s = some (taken, rest)) :
    s = taken ++ rest ∧ quoteEnds '\'' taken = true := by
  fun_induction characterTail? s generalizing taken with
  | case1 t =>
    cases h
    exact ⟨rfl, by decide⟩
  | case2 c t ih =>
    obtain ⟨⟨a, r⟩, hr, heq⟩ := Option.map_eq_some_iff.1 h
    cases heq
    obtain ⟨hsplit, hends⟩ := ih hr
    refine ⟨by rw [hsplit]; rfl, ?_⟩
    simpa [quoteEnds] using hends
  | case3 => cases h
  | case4 c t hquote hescape hne ih =>
    obtain ⟨⟨a, r⟩, hr, heq⟩ := Option.map_eq_some_iff.1 h
    cases heq
    obtain ⟨hsplit, hends⟩ := ih hr
    refine ⟨by rw [hsplit]; rfl, ?_⟩
    have hc : c ≠ '\\' ∧ c ≠ '\n' := by simpa using hne
    have hne' : c ≠ '\'' := hquote
    rw [quoteEnds.eq_def]
    simp [hne', hc, hends]
  | case5 => cases h

theorem stringTail?_split {s taken rest : List Char} {stop : StringStop}
    (h : stringTail? s = some (stop, taken, rest)) : s = taken ++ rest := by
  fun_induction stringTail? s generalizing taken with
  | case1 t =>
    cases h
    rfl
  | case2 c t hexpr hescape ih =>
    obtain ⟨⟨k, a, r⟩, hr, heq⟩ := Option.map_eq_some_iff.1 h
    cases heq
    rw [ih hr]
    rfl
  | case3 => cases h
  | case4 t =>
    cases h
    rfl
  | case5 => cases h
  | case6 c t hexpr hescape hquote hne ih =>
    obtain ⟨⟨k, a, r⟩, hr, heq⟩ := Option.map_eq_some_iff.1 h
    cases heq
    rw [ih hr]
    rfl
  | case7 => cases h

theorem takeWhile_take_begins (p : Char → Bool) (n : Nat) (s : List Char) :
    (s.take n).takeWhile p <+: s := (List.takeWhile_prefix p).trans (List.take_prefix n s)

theorem drop_takeWhile (p : Char → Bool) (s : List Char) :
    s.drop (s.takeWhile p).length = s.dropWhile p := by
  have hsplit := List.takeWhile_append_dropWhile (p := p) (l := s)
  calc s.drop (s.takeWhile p).length
      = (s.takeWhile p ++ s.dropWhile p).drop (s.takeWhile p).length := by rw [hsplit]
    _ = s.dropWhile p := List.drop_left

theorem codeEscape?_begins {s code : List Char} (h : codeEscape? s = some code) : code <+: s := by
  unfold codeEscape? at h
  split at h
  · simp only at h
    split at h
    · cases h
      exact (List.prefix_append_right_inj ['x']).2 (takeWhile_take_begins _ _ _)
    · cases h
  · rename_i rest
    simp only at h
    split at h
    · rename_i hclosed
      cases h
      have hclose : (rest.drop (rest.takeWhile isHexDigit).length).head? = some '\x7d' := by
        simpa using (Bool.and_eq_true_iff.1 hclosed).2
      obtain ⟨more, hmore⟩ := List.head?_eq_some_iff.1 hclose
      have hsplit := List.takeWhile_append_dropWhile (p := isHexDigit) (l := rest)
      rw [drop_takeWhile] at hmore
      rw [hmore] at hsplit
      refine ⟨more, ?_⟩
      conv => rhs; rw [← hsplit]
      simp
    · cases h
  · simp only at h
    split at h
    · cases h
      exact (List.prefix_append_right_inj ['u']).2 (takeWhile_take_begins _ _ _)
    · cases h
  · split at h
    · cases h
    · rename_i code' _ _
      cases h
      exact takeWhile_take_begins _ _ _

theorem blockComment?_split {s taken rest : List Char}
    (h : blockComment? s = some (taken, rest)) : s = taken ++ rest :=
  (afterComment_of_blockComment? h).2

theorem leadingComment?_begins {s comment : List Char} (h : leadingComment? s = some comment) :
    comment <+: s := by
  have hsplit := List.takeWhile_append_dropWhile (p := isSpace) (l := s)
  rw [← drop_takeWhile] at hsplit
  unfold leadingComment? at h
  simp only at h
  split at h
  · rename_i rest hdrop
    cases h
    rw [hdrop] at hsplit
    obtain ⟨more, hmore⟩ := List.takeWhile_prefix (· != '\n') (l := rest)
    refine ⟨more, ?_⟩
    rw [List.append_assoc, List.cons_append, List.cons_append, hmore]
    exact hsplit
  · rename_i rest hdrop
    obtain ⟨⟨taken, more⟩, hcomment, heq⟩ := Option.map_eq_some_iff.1 h
    cases heq
    rw [hdrop] at hsplit
    refine ⟨more, ?_⟩
    rw [List.append_assoc, List.cons_append, List.cons_append, ← blockComment?_split hcomment]
    exact hsplit
  · cases h

theorem quotedRun_begins (s : List Char) : quotedRun s <+: s := by
  fun_induction quotedRun s with
  | case1 rest ih => exact (List.prefix_append_right_inj ['\\', '"']).2 ih
  | case2 => exact List.nil_prefix
  | case3 c rest _ _ ih => exact (List.prefix_append_right_inj [c]).2 ih
  | case4 => exact List.nil_prefix

theorem blockPiece?_begins {s piece : List Char} {stop : Option StringStop}
    (h : blockPiece? s = some (stop, piece)) : piece <+: s := by
  unfold blockPiece? at h
  split at h
  · rename_i rest
    cases h
    exact ⟨rest, rfl⟩
  · cases h
    exact (List.prefix_append_right_inj ['"']).2 (quotedRun_begins _)
  · rename_i rest
    cases h
    exact ⟨rest, rfl⟩
  · rename_i c rest _
    cases h
    apply (List.prefix_append_right_inj ['\\']).2
    cases hcode : codeEscape? (c :: rest) with
    | none => exact ⟨rest, rfl⟩
    | some code => exact codeEscape?_begins hcode
  · cases h
  · cases h
  · simp only at h
    split at h
    · rename_i comment hcomment
      cases h
      split
      · exact leadingComment?_begins hcomment
      · exact List.takeWhile_prefix _
    · cases h
      exact List.takeWhile_prefix _

theorem blockTail?_split {fuel : Nat} {s taken rest : List Char} {stop : StringStop}
    (h : blockTail? fuel s = some (stop, taken, rest)) : s = taken ++ rest := by
  induction fuel generalizing s taken with
  | zero => cases h
  | succ fuel ih =>
    unfold blockTail? at h
    split at h
    · rename_i stop' piece hpiece
      cases h
      obtain ⟨t, rfl⟩ := blockPiece?_begins hpiece
      rw [List.drop_left]
    · rename_i piece hpiece
      obtain ⟨⟨k, a, r⟩, hr, heq⟩ := Option.map_eq_some_iff.1 h
      cases heq
      obtain ⟨t, rfl⟩ := blockPiece?_begins hpiece
      rw [List.drop_left] at hr
      rw [ih hr, List.append_assoc]
    · cases h

/-- The marks that a token of the given kind can leave. -/
def Shaped (kind : TokenKind) (text : List Char) : Prop :=
  match kind with
  | .word => marks text = [.word (String.ofList text)]
  | .integer | .real | .hexReal =>
    ∀ m ∈ marks text, m = .other ∨ m = .dot ∨ ∃ w, m = .word w
  | .character => marks text = [.other]
  | .string => marks text = [] ∨ marks text = [.other]
  | .symbol => String.ofList text ∈ symbols
  | _ => True

def isTemplate (kind : TokenKind) : Bool :=
  kind = .templateHead || kind = .templateMiddle || kind = .templateTail

theorem isNumeral_markOf {c : Char} (h : isNumeral c = true) :
    markOf c = .other ∨ markOf c = .dot := by
  unfold markOf
  split
  all_goals first
    | exact .inl rfl
    | exact .inr rfl
    | exact absurd h (by decide)

theorem marks_numeral {text : List Char} (h : ∀ c ∈ text, isNumeral c = true) :
    ∀ m ∈ marks text, m = .other ∨ m = .dot ∨ ∃ w, m = .word w := by
  have hslash : isNumeral '/' = false := by decide
  have hquote : isNumeral '"' = false := by decide
  have hsingle : isNumeral '\'' = false := by decide
  fun_induction marks text with
  | case1 rest ih => simp [hslash] at h
  | case2 rest ih => simp [hslash] at h
  | case3 rest ih => simp [hquote] at h
  | case4 c rest _ _ _ hc ih =>
    rcases (Bool.or_eq_true_iff).1 hc with hc | hc
    · simp [beq_iff_eq.1 hc, hquote] at h
    · simp [beq_iff_eq.1 hc, hsingle] at h
  | case5 c rest _ _ _ _ _ ih =>
    intro m hm
    rcases List.mem_cons.1 hm with rfl | hm
    · exact .inr (.inr ⟨_, rfl⟩)
    · refine ih ?_ m hm
      intro d hd
      exact h d (List.mem_cons_of_mem c ((List.dropWhile_sublist _).subset hd))
  | case6 c rest _ _ _ _ _ _ ih => exact ih fun d hd => h d (List.mem_cons_of_mem c hd)
  | case7 c rest _ _ _ _ _ _ ih =>
    obtain ⟨hc, hrest⟩ := List.forall_mem_cons.1 h
    intro m hm
    rcases List.mem_cons.1 hm with rfl | hm
    · rcases isNumeral_markOf hc with hc | hc
      · exact .inl hc
      · exact .inr (.inl hc)
    · exact ih hrest m hm
  | case8 => simp

theorem isPlain_of_isNumeral {c : Char} (h : isNumeral c = true) : isPlain c = true := by
  have hne : c ≠ '"' ∧ c ≠ '\'' ∧ c ≠ '/' := by
    refine ⟨?_, ?_, ?_⟩ <;> rintro rfl <;> exact absurd h (by decide)
  simp [isPlain, hne]

theorem isNameStart_of_isWordStart {c : Char} (h : isWordStart c = true) :
    isNameStart c = true := by
  simp only [isWordStart, Text.isXidStart, Bool.or_eq_true] at h
  simp only [isNameStart, Bool.or_eq_true, decide_eq_true_eq]
  rcases h with (h | h) | h
  · split at h
    · exact .inl (.inl (.inl h))
    · omega
  · exact .inl (.inl (.inr h))
  · exact .inl (.inr h)

theorem isNamePart_of_isWordPart {c : Char} (h : isWordPart c = true) : isNamePart c = true := by
  simp only [isWordPart, Text.isXidContinue, Bool.or_eq_true] at h
  simp only [isNamePart, isNameStart, Bool.or_eq_true, decide_eq_true_eq]
  rcases h with (h | h) | h
  · split at h
    · simp only [Char.isAlphanum, Bool.or_eq_true] at h
      rcases h with (h | h) | h
      · exact .inl (.inl (.inl (.inl h)))
      · exact .inr h
      · exact .inl (.inl (.inl (.inr h)))
    · exact .inl (.inr (by omega))
  · exact .inl (.inl (.inr h))
  · rw [beq_iff_eq.1 h]
    exact .inl (.inr (by decide))

theorem marks_name {c : Char} {text : List Char} (hc : isNameStart c = true)
    (htext : ∀ d ∈ text, isNamePart d = true) :
    marks (c :: text) = [.word (String.ofList (c :: text))] := by
  have htake : text.takeWhile isNamePart = text := by
    simpa using @List.takeWhile_append_of_pos _ isNamePart text [] htext
  have hdrop : text.dropWhile isNamePart = [] := by
    simpa using @List.dropWhile_append_of_pos _ isNamePart text [] htext
  rw [marks_word hc, htake, hdrop, marks_nil]

theorem symbols_plain : ∀ symbol ∈ symbols, symbol.toList ≠ [] ∧
    (symbol.toList.all isPlain = true ∨ symbol = "/" ∨ symbol = "/=") := by
  decide

theorem marks_symbol {symbol : String} {rest : List Char} (hsymbol : symbol ∈ symbols)
    (hcomment : ¬ StartsComment (symbol.toList ++ rest)) (hboundary : ¬ RunsOn symbol.toList rest) :
    marks (symbol.toList ++ rest) = marks symbol.toList ++ marks rest := by
  obtain ⟨-, hplain | rfl | rfl⟩ := symbols_plain symbol hsymbol
  · exact marks_append (fun c hc => List.all_eq_true.1 hplain c hc) hboundary
  · have hcomment' : ¬ StartsComment ('/' :: rest) := hcomment
    change marks ('/' :: rest) = marks ['/'] ++ marks rest
    rw [marks_sign (by decide) (by decide) (by decide) hcomment',
      marks_sign (by decide) (by decide) (by decide) (by simp [StartsComment]), marks_nil]
    rfl
  · change marks ('/' :: '=' :: rest) = marks ['/', '='] ++ marks rest
    have hequals : ∀ s, ¬ StartsComment ('=' :: s) := by simp [StartsComment]
    rw [marks_sign (by decide) (by decide) (by decide) (by simp [StartsComment]),
      marks_sign (by decide) (by decide) (by decide) (hequals _),
      marks_sign (by decide) (by decide) (by decide) (by simp [StartsComment]),
      marks_sign (by decide) (by decide) (by decide) (hequals _), marks_nil]
    rfl

theorem marks_closed {text rest : List Char} (hclosed : isClosed text = true)
    (hquotes : text = ['"', '"'] → ∀ c ∈ rest.head?, c ≠ '"') :
    marks (text ++ rest) = marks text ++ marks rest ∧
      (marks text = [] ∨ marks text = [.other]) := by
  unfold isClosed at hclosed
  split at hclosed
  · rename_i body
    have hend := afterBlock_append hclosed []
    rw [List.append_nil] at hend
    simp only [List.cons_append]
    rw [marks.eq_3, marks.eq_3, afterBlock_append hclosed rest, hend, marks_nil]
    simp
  · rename_i body hblock
    have hend := afterQuote_append hclosed []
    rw [List.append_nil] at hend
    rw [List.cons_append, marks_quote (.inl rfl), marks_quote (.inl rfl), hend,
      afterQuote_append hclosed rest, marks_nil]
    · simp
    · rintro ⟨t, -, rfl⟩
      exact hblock t rfl
    · rintro ⟨t, -, heq⟩
      cases body with
      | nil => cases hclosed
      | cons c body =>
        have hc : c = '"' := (List.cons.inj heq).1
        subst hc
        have hbody : body = [] := by
          rw [quoteEnds.eq_def] at hclosed
          simpa using hclosed
        subst hbody
        refine hquotes rfl '"' ?_ rfl
        have hrest : rest = '"' :: t := (List.cons.inj heq).2
        rw [hrest]
        rfl
  · cases hclosed

theorem stringPart?_spec {embedding embedding' : Embedding} {block : Bool}
    {opening s text rest : List Char} {kind : TokenKind}
    (h : stringPart? embedding true block opening s = some (kind, text, embedding', rest))
    (hkind : isTemplate kind = false) : kind = .string ∧ embedding' = embedding ∧
      ∃ taken, text = opening ++ taken ∧ s = taken ++ rest := by
  have htail : ∃ taken more, s = taken ++ more ∧
      (some (TokenKind.string, opening ++ taken, embedding, more) =
          some (kind, text, embedding', rest) ∨
        some (.templateHead, opening ++ taken, (block, 0) :: embedding, more) =
          some (kind, text, embedding', rest)) := by
    cases block with
    | true =>
      obtain ⟨⟨stop, taken, more⟩, htail, h⟩ := Option.bind_eq_some_iff.1 h
      refine ⟨taken, more, blockTail?_split htail, ?_⟩
      cases stop with
      | quote => exact .inl h
      | expression => exact .inr h
    | false =>
      obtain ⟨⟨stop, taken, more⟩, htail, h⟩ := Option.bind_eq_some_iff.1 h
      refine ⟨taken, more, stringTail?_split htail, ?_⟩
      cases stop with
      | quote => exact .inl h
      | expression => exact .inr h
  obtain ⟨taken, more, rfl, h | h⟩ := htail
  · cases h
    exact ⟨rfl, rfl, taken, rfl, rfl⟩
  · cases h
    cases hkind

theorem characterLiteral?_spec {s text rest : List Char}
    (h : characterLiteral? s = some (text, rest)) :
    s = text ++ rest ∧ marks s = .other :: marks rest ∧ marks text = [.other] := by
  have hmarks : ∀ (body more : List Char), quoteEnds '\'' body = true →
      marks ('\'' :: (body ++ more)) = .other :: marks more := by
    intro body more hends
    rw [marks_quote (.inr rfl), afterQuote_append hends more]
    rintro ⟨t, hquote, -⟩
    cases hquote
  unfold characterLiteral? at h
  split at h
  · cases h
  · obtain ⟨⟨taken, more⟩, htail, heq⟩ := Option.map_eq_some_iff.1 h
    cases heq
    obtain ⟨rfl, hends⟩ := characterTail?_spec htail
    refine ⟨rfl, hmarks taken _ hends, ?_⟩
    have hself := hmarks taken [] hends
    rwa [List.append_nil, marks_nil] at hself
  · cases h

/-- A token at the start of a text has marks of its own, and what follows has the rest. -/
theorem lexeme?_spec {s text rest : List Char} {kind : TokenKind} {embedding : Embedding}
    (hcomment : ¬ StartsComment s) (h : lexeme? [] s = some (kind, text, embedding, rest))
    (hkind : isTemplate kind = false) (hclosed : kind = .string → isClosed text = true) :
    embedding = [] ∧ s = text ++ rest ∧ (text ≠ [] → Shaped kind text) ∧
      (¬ RunsOn text rest → marks s = marks text ++ marks rest) := by
  unfold lexeme? at h
  split at h
  case h_1 body =>
    obtain ⟨rfl, rfl, taken, rfl, rfl⟩ := stringPart?_spec h hkind
    obtain ⟨hmarks, hshape⟩ := @marks_closed _ rest (hclosed rfl) (by simp)
    exact ⟨rfl, rfl, fun _ => hshape, fun _ => hmarks⟩
  case h_2 body hblock =>
    obtain ⟨rfl, rfl, taken, rfl, rfl⟩ := stringPart?_spec h hkind
    have hquotes : ['"'] ++ taken = ['"', '"'] → ∀ c ∈ rest.head?, c ≠ '"' := by
      rintro heq c hc rfl
      obtain ⟨more, rfl⟩ := List.head?_eq_some_iff.1 hc
      have htaken : taken = ['"'] := (List.cons.inj heq).2
      exact hblock more (by rw [htaken]; rfl)
    obtain ⟨hmarks, hshape⟩ := marks_closed (hclosed rfl) hquotes
    exact ⟨rfl, rfl, fun _ => hshape, fun _ => hmarks⟩
  case h_3 body =>
    obtain ⟨⟨taken, more⟩, htail, heq⟩ := Option.map_eq_some_iff.1 h
    cases heq
    obtain ⟨hsplit, hmarks, hshape⟩ := characterLiteral?_spec htail
    exact ⟨rfl, hsplit, fun _ => hshape, fun _ => by rw [hmarks, hshape]; rfl⟩
  case h_4 c body _ _ _ =>
    split at h
    · rename_i hc
      cases h
      have hpart : ∀ d ∈ (c :: body).takeWhile isWordPart, isNamePart d = true := fun d hd =>
        isNamePart_of_isWordPart (List.all_eq_true.1 List.all_takeWhile d hd)
      have hsplit := List.takeWhile_append_dropWhile (p := isWordPart) (l := c :: body)
      refine ⟨rfl, hsplit.symm, ?_, ?_⟩
      · intro hne
        have hword : isWordPart c = true := by
          cases hword : isWordPart c with
          | true => rfl
          | false => exact absurd (List.takeWhile_cons_of_neg (by simp [hword])) hne
        rw [List.takeWhile_cons_of_pos hword] at hpart ⊢
        exact marks_name (isNameStart_of_isWordStart hc) (List.forall_mem_cons.1 hpart).2
      · intro hboundary
        conv => lhs; rw [← hsplit]
        refine marks_append (fun d hd => isPlain_of_isNumeral ?_) hboundary
        simp [isNumeral, hpart d hd]
    · split at h
      · rename_i kind' taken hnumber
        cases h
        obtain ⟨⟨more, hmore⟩, hnumeral, hkinds⟩ := number?_spec hnumber
        rw [← hmore, List.drop_left]
        refine ⟨rfl, rfl, fun _ => ?_, fun hboundary => ?_⟩
        · have hmarks := marks_numeral hnumeral
          rcases hkinds with rfl | rfl | rfl <;> exact hmarks
        · exact marks_append (fun d hd => isPlain_of_isNumeral (hnumeral d hd)) hboundary
      · obtain ⟨symbol, hfind, heq⟩ := Option.map_eq_some_iff.1 h
        cases heq
        have hsymbol := List.mem_of_find?_eq_some hfind
        have hbegins : symbol.toList.isPrefixOf (c :: body) = true := by
          simpa using List.find?_some hfind
        obtain ⟨more, hmore⟩ := List.isPrefixOf_iff_prefix.1 hbegins
        rw [← String.length_toList, ← hmore, List.drop_left]
        refine ⟨rfl, rfl, fun _ => ?_, fun hboundary => ?_⟩
        · change String.ofList symbol.toList ∈ symbols
          rwa [String.ofList_toList]
        · exact marks_symbol hsymbol (by rw [hmore]; exact hcomment) hboundary
  case h_5 => cases h

def startsInPart (text : List Char) : Bool := text.head?.any isNamePart

def endsInPart (text : List Char) : Bool := text.getLast?.any isNamePart

def joinsTo : List Token → Bool
  | [] => false
  | t :: _ => t.gap.isEmpty && startsInPart t.text.toList

/-- Words and numbers that follow each other have a gap between them. -/
def areApart : List Token → Bool
  | [] => true
  | t :: ts => !(endsInPart t.text.toList && joinsTo ts) && areApart ts

/-- What the scan for headers cannot tell apart is not in a token. -/
def isDistinct (t : Token) : Bool :=
  !isTemplate t.kind && (t.kind != .string || isClosed t.text.toList)

theorem runsOn_iff {text rest : List Char} :
    RunsOn text rest ↔ endsInPart text = true ∧ startsInPart rest = true := by
  simp [RunsOn, endsInPart, startsInPart, Option.any_eq_true]

theorem takeGap?_none {s : List Char} (hcomment : ¬ StartsComment s)
    (hspace : ∀ c ∈ s.head?, isSpace c = false) : takeGap? s = some ([], s) := by
  cases s with
  | nil => simp [takeGap?]
  | cons c rest =>
    have hc : isSpace c = false := hspace c rfl
    rw [takeGap?.eq_3]
    · simp [hc]
    · rintro t rfl rfl
      exact hcomment ⟨t, .inl rfl⟩
    · rintro t rfl rfl
      exact hcomment ⟨t, .inr rfl⟩

theorem tokensFrom?_stuck {s : List Char} {kind : TokenKind} (hcomment : ¬ StartsComment s)
    (hspace : ∀ c ∈ s.head?, isSpace c = false) (hne : s ≠ [])
    (hlexeme : lexeme? [] s = some (kind, [], [], s)) (fuel : Nat) :
    tokensFrom? fuel [] s = none := by
  induction fuel with
  | zero => rfl
  | succ fuel ih => simp [tokensFrom?, takeGap?_none hcomment hspace, hne, hlexeme, ih]

theorem tokensFrom?_cases {fuel : Nat} {s : List Char} {ts : List Token}
    (h : tokensFrom? fuel [] s = some ts) (hvertical : '\x0b' ∉ s)
    (hdistinct : ∀ t ∈ ts, isDistinct t = true) :
    ∃ gap rest, s = gap ++ rest ∧ marks s = marks rest ∧
      (gap ≠ [] → ∀ c ∈ s.head?, isNamePart c = false) ∧
      ((rest = [] ∧ ts = []) ∨ ∃ (n : Nat) (kind : TokenKind) (text after : List Char)
        (more : List Token), fuel = n + 1 ∧ tokensFrom? n [] after = some more ∧
        ts = ⟨String.ofList gap, kind, String.ofList text⟩ :: more ∧ rest = text ++ after ∧
        text ≠ [] ∧ Shaped kind text ∧
        (¬ RunsOn text after → marks rest = marks text ++ marks after)) := by
  cases fuel with
  | zero => cases h
  | succ n =>
    unfold tokensFrom? at h
    obtain ⟨⟨gap, rest⟩, hgap, hread⟩ := Option.bind_eq_some_iff.1 h
    obtain ⟨rfl, hmarks, hcomment, hspace, hpart⟩ := marks_takeGap hgap hvertical
    refine ⟨gap, rest, rfl, hmarks, hpart, ?_⟩
    cases rest with
    | nil =>
      cases hread
      exact .inl ⟨rfl, rfl⟩
    | cons c rest =>
      obtain ⟨⟨kind, text, embedding, after⟩, hlexeme, hrest⟩ := Option.bind_eq_some_iff.1 hread
      obtain ⟨more, hmore, hts⟩ := Option.bind_eq_some_iff.1 hrest
      cases hts
      obtain ⟨hkind, hclosed⟩ :
          isTemplate kind = false ∧ (kind = .string → isClosed text = true) := by
        simpa [isDistinct, Decidable.imp_iff_not_or] using hdistinct _ List.mem_cons_self
      obtain ⟨rfl, hsplit, hshape, hafter⟩ := lexeme?_spec hcomment hlexeme hkind hclosed
      have htext : text ≠ [] := by
        rintro rfl
        rw [List.nil_append] at hsplit
        subst hsplit
        rw [tokensFrom?_stuck hcomment hspace (by simp) hlexeme n] at hmore
        cases hmore
      exact .inr ⟨n, kind, text, after, more, rfl, hmore, rfl, hsplit, htext, hshape htext, hafter⟩

theorem startsInPart_append {text rest : List Char} (h : text ≠ []) :
    startsInPart (text ++ rest) = startsInPart text := by
  cases text with
  | nil => exact absurd rfl h
  | cons c text => rfl

theorem tokensFrom?_start {fuel : Nat} {s : List Char} {ts : List Token}
    (h : tokensFrom? fuel [] s = some ts) (hvertical : '\x0b' ∉ s)
    (hdistinct : ∀ t ∈ ts, isDistinct t = true) (hstart : startsInPart s = true) :
    joinsTo ts = true := by
  obtain ⟨gap, rest, rfl, -, hgap, hcases⟩ := tokensFrom?_cases h hvertical hdistinct
  have hempty : gap = [] := by
    cases gap with
    | nil => rfl
    | cons c gap =>
      have hc : isNamePart c = false := hgap (by simp) c rfl
      simp [startsInPart, hc] at hstart
  subst hempty
  rcases hcases with ⟨rfl, -⟩ | ⟨n, kind, text, after, more, -, -, rfl, rfl, htext, -⟩
  · simp [startsInPart] at hstart
  · rw [List.nil_append, startsInPart_append htext] at hstart
    simpa [joinsTo] using hstart

/-- The marks of a text are those of its tokens. -/
theorem tokensFrom?_marks {fuel : Nat} {s : List Char} {ts : List Token}
    (h : tokensFrom? fuel [] s = some ts) (hvertical : '\x0b' ∉ s)
    (hdistinct : ∀ t ∈ ts, isDistinct t = true) (hapart : areApart ts = true) :
    marks s = ts.flatMap (fun t => marks t.text.toList) ∧
      ∀ t ∈ ts, Shaped t.kind t.text.toList := by
  induction fuel generalizing s ts with
  | zero => cases h
  | succ fuel ih =>
    obtain ⟨gap, rest, rfl, hmarks, -, hcases⟩ := tokensFrom?_cases h hvertical hdistinct
    rcases hcases with ⟨rfl, rfl⟩ |
      ⟨n, kind, text, after, more, hn, hmore, rfl, rfl, -, hshape, hafter⟩
    · rw [hmarks, marks_nil]
      simp
    · cases hn
      obtain ⟨-, hdistinct⟩ := List.forall_mem_cons.1 hdistinct
      have hvertical' : '\x0b' ∉ after := by
        intro hmem
        simp [hmem] at hvertical
      have hboundary : ¬ RunsOn text after := by
        intro hruns
        obtain ⟨hend, hstart⟩ := runsOn_iff.1 hruns
        have hjoins := tokensFrom?_start hmore hvertical' hdistinct hstart
        simp [areApart, hend, hjoins] at hapart
      obtain ⟨hrest, hshapes⟩ :=
        ih hmore hvertical' hdistinct (Bool.and_eq_true_iff.1 hapart).2
      refine ⟨?_, ?_⟩
      · rw [hmarks, hafter hboundary, hrest]
        simp
      · intro t ht
        rcases List.mem_cons.1 ht with rfl | ht
        · simpa using hshape
        · exact hshapes t ht

private theorem stringPart?_head {embedding embedding' : Embedding} {first block : Bool}
    {c : Char} {opening s text rest : List Char} {kind : TokenKind}
    (h : stringPart? embedding first block (c :: opening) s = some (kind, text, embedding', rest)) :
    text.head? = some c := by
  cases block with
  | true =>
    obtain ⟨⟨stop, taken, more⟩, -, h⟩ := Option.bind_eq_some_iff.1 h
    cases stop <;> cases h <;> rfl
  | false =>
    obtain ⟨⟨stop, taken, more⟩, -, h⟩ := Option.bind_eq_some_iff.1 h
    cases stop <;> cases h <;> rfl

theorem lexeme?_quoted {embedding embedding' : Embedding} {s text rest : List Char}
    {kind : TokenKind} (h : lexeme? embedding s = some (kind, text, embedding', rest))
    (hkind : kind = .string ∨ isTemplate kind = true) :
    text.head? = some '"' ∨ text.head? = some '\x7d' := by
  unfold lexeme? at h
  split at h
  · exact .inl (stringPart?_head h)
  · exact .inl (stringPart?_head h)
  · obtain ⟨_, _, heq⟩ := Option.map_eq_some_iff.1 h
    cases heq
    simp [isTemplate] at hkind
  · split at h
    · cases h
      simp [isTemplate] at hkind
    · split at h
      · rename_i kind' taken hnumber
        cases h
        obtain ⟨-, -, rfl | rfl | rfl⟩ := number?_spec hnumber <;> simp [isTemplate] at hkind
      · split at h
        · exact .inr (stringPart?_head h)
        · obtain ⟨_, _, heq⟩ := Option.map_eq_some_iff.1 h
          cases heq
          simp [isTemplate] at hkind
  · cases h

theorem tokensFrom?_sign {fuel : Nat} {embedding : Embedding} {s : List Char} {ts : List Token}
    (h : tokensFrom? fuel embedding s = some ts) {t : Token} (ht : t ∈ ts)
    (htext : t.text = "-") : isDistinct t = true := by
  induction fuel generalizing embedding s ts with
  | zero => cases h
  | succ fuel ih =>
    unfold tokensFrom? at h
    obtain ⟨⟨gap, rest⟩, -, hread⟩ := Option.bind_eq_some_iff.1 h
    cases rest with
    | nil =>
      cases embedding with
      | nil =>
        cases hread
        cases ht
      | cons e embedding => cases hread
    | cons c rest =>
      obtain ⟨⟨kind, text, embedding', after⟩, hlexeme, hrest⟩ := Option.bind_eq_some_iff.1 hread
      obtain ⟨more, hmore, hts⟩ := Option.bind_eq_some_iff.1 hrest
      cases hts
      rcases List.mem_cons.1 ht with rfl | ht
      · have htext' : text = ['-'] := by
          have hlist := congrArg String.toList htext
          simpa using hlist
        subst htext'
        have hkind : ¬ (kind = .string ∨ isTemplate kind = true) := by
          intro hkind
          have hhead := lexeme?_quoted hlexeme hkind
          simp at hhead
        rw [not_or] at hkind
        simp [isDistinct, hkind]
      · exact ih hmore ht

end AnnotationIndex.Java
