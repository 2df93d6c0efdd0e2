import AnnotationIndex.Java.Unit

/-!
# Canonical annotations

Annotations with arguments of any depth, the canonical text of each, and its tokens. Names are made
of identifiers that are no words of the grammar. Strings are written with escapes for quotes,
backslashes and control characters, integers in decimal digits.
-/

namespace AnnotationIndex.Java.Canonical

/-- A word that has no meaning of its own. -/
structure Identifier where
  first : Char
  more : List Char
  starts : isWordStart first = true
  goesOn : ∀ c ∈ more, isWordPart c = true
  free : Terminal.words.lookup (String.ofList (first :: more)) = none

def Identifier.letters (i : Identifier) : List Char := i.first :: i.more

def Identifier.text (i : Identifier) : String := String.ofList i.letters

/-- One or more identifiers with dots between them. -/
structure Name where
  first : Identifier
  more : List Identifier

def dotted (is : List Identifier) : List Char := is.flatMap fun i => '.' :: i.letters

def Name.letters (n : Name) : List Char := n.first.letters ++ dotted n.more

/-- The name of an annotation type with the package or type it is in. -/
structure Kind where
  first : Identifier
  second : Identifier
  more : List Identifier

def Kind.name (k : Kind) : Name := ⟨k.first, k.second :: k.more⟩

/-- What stands in the parentheses after the kind of an annotation: one value, or pairs. Without
pairs there are no parentheses. -/
inductive Arguments (ν : Type) where
  | value (v : ν)
  | pairs (ps : List (Identifier × ν))

/-- A value of an argument. -/
inductive Datum where
  | string (text : List Char)
  | integer (n : Int64) (h : n ≠ Int64.minValue)
  | truth (b : Bool)
  | null
  | type (name : Name)
  | constant (name : Name)
  | array (items : List Datum)
  | nested (kind : Kind) (arguments : Arguments Datum)

/-- What holds of a value if it holds of all values in it, holds of all values. -/
@[elab_as_elim]
theorem Datum.induct {P : Datum → Prop} (string : ∀ text, P (.string text))
    (integer : ∀ n h, P (.integer n h)) (truth : ∀ b, P (.truth b)) (null : P .null)
    (type : ∀ name, P (.type name)) (constant : ∀ name, P (.constant name))
    (array : ∀ items, (∀ d ∈ items, P d) → P (.array items))
    (value : ∀ kind d, P d → P (.nested kind (.value d)))
    (pairs : ∀ kind ps, (∀ p ∈ ps, P p.2) → P (.nested kind (.pairs ps))) (d : Datum) : P d := by
  refine @Datum.rec P (fun ds => ∀ d ∈ ds, P d) (fun a => ∀ kind, P (.nested kind a))
    (fun ps => ∀ p ∈ ps, P p.2) (fun p => P p.2) string integer truth null type constant array
    ?_ ?_ ?_ ?_ ?_ ?_ ?_ ?_ d
  · exact fun kind _ ha => ha kind
  · exact fun d hd => absurd hd List.not_mem_nil
  · exact fun d ds hd hds => List.forall_mem_cons.2 ⟨hd, hds⟩
  · exact fun d hd kind => value kind d hd
  · exact fun ps hps kind => pairs kind ps hps
  · exact fun p hp => absurd hp List.not_mem_nil
  · exact fun p ps hp hps => List.forall_mem_cons.2 ⟨hp, hps⟩
  · exact fun _ _ hd => hd

/-- An annotation with its arguments. -/
structure Annotation where
  kind : Kind
  arguments : Arguments Datum

def Annotation.data (a : Annotation) : List Datum :=
  match a.arguments with
  | .value d => [d]
  | .pairs ps => ps.map (·.2)

namespace Datum

mutual

/-- The value that is meant. -/
def value : Datum → Value
  | string text => .string (String.ofList text)
  | integer n _ => .integer n
  | truth b => .truth b
  | null => .null
  | type name => .type (String.ofList name.letters)
  | constant name => .constant (String.ofList name.letters)
  | array items => .array (valuesOfItems items)
  | nested kind arguments => .nested ⟨String.ofList kind.name.letters, valuesOfArguments arguments⟩

def valuesOfItems : List Datum → List Value
  | [] => []
  | d :: ds => d.value :: valuesOfItems ds

def valuesOfArguments : Arguments Datum → List (Argument Value)
  | .value d => [⟨none, d.value⟩]
  | .pairs ps => valuesOfPairs ps

def valuesOfPairs : List (Identifier × Datum) → List (Argument Value)
  | [] => []
  | (key, d) :: ps => ⟨some key.text, d.value⟩ :: valuesOfPairs ps

end

end Datum

/-- The annotation that is meant. -/
def Annotation.use (a : Annotation) : AnnotationUse :=
  ⟨String.ofList a.kind.name.letters, Datum.valuesOfArguments a.arguments⟩

/-- The control characters of Unicode. -/
def isControl (c : Char) : Bool := c.toNat < 32 || (127 ≤ c.toNat && c.toNat < 160)

def escaped (c : Char) : List Char :=
  match c with
  | '\\' => ['\\', '\\']
  | '"' => ['\\', '"']
  | '\n' => ['\\', 'n']
  | '\t' => ['\\', 't']
  | '\r' => ['\\', 'r']
  | '\x08' => ['\\', 'b']
  | '\x0c' => ['\\', 'f']
  | c =>
    if isControl c then
      ['\\', 'u', '0', '0', Nat.digitChar (c.toNat / 16), Nat.digitChar (c.toNat % 16)]
    else [c]

def quoted (text : List Char) : List Char := '"' :: text.flatMap escaped ++ ['"']

def digits (n : Int64) : List Char := Nat.toDigits 10 n.toInt.natAbs

namespace Datum

mutual

def source : Datum → List Char
  | string text => quoted text
  | integer n _ => if n < 0 then '-' :: digits n else digits n
  | truth b => (toString b).toList
  | null => "null".toList
  | type name => name.letters ++ ".class".toList
  | constant name => name.letters
  | array items => '\x7b' :: sourceOfItems items ++ ['\x7d']
  | nested kind arguments => '@' :: kind.name.letters ++ sourceOfArguments arguments

def sourceOfItems : List Datum → List Char
  | [] => []
  | d :: ds => d.source ++ sourceOfMoreItems ds

def sourceOfMoreItems : List Datum → List Char
  | [] => []
  | d :: ds => ", ".toList ++ d.source ++ sourceOfMoreItems ds

def sourceOfArguments : Arguments Datum → List Char
  | .value d => '(' :: d.source ++ [')']
  | .pairs [] => []
  | .pairs ((key, d) :: ps) =>
    '(' :: key.letters ++ " = ".toList ++ d.source ++ sourceOfMorePairs ps ++ [')']

def sourceOfMorePairs : List (Identifier × Datum) → List Char
  | [] => []
  | (key, d) :: ps => ", ".toList ++ key.letters ++ " = ".toList ++ d.source ++ sourceOfMorePairs ps

end

end Datum

def Annotation.source (a : Annotation) : List Char :=
  '@' :: a.kind.name.letters ++ Datum.sourceOfArguments a.arguments

def sign (text : String) : Token := ⟨"", .symbol, text⟩

def Identifier.token (gap : String) (i : Identifier) : Token := ⟨gap, .word, i.text⟩

@[simp]
theorem Identifier.toList_text (i : Identifier) : i.text.toList = i.letters :=
  String.toList_ofList

def dottedTokens (is : List Identifier) : List Token :=
  is.flatMap fun i => [sign ".", i.token ""]

def Name.tokens (gap : String) (n : Name) : List Token := n.first.token gap :: dottedTokens n.more

namespace Datum

mutual

def tokens (gap : String) : Datum → List Token
  | string text => [⟨gap, .string, String.ofList (quoted text)⟩]
  | integer n _ =>
    if n < 0 then [⟨gap, .symbol, "-"⟩, ⟨"", .integer, String.ofList (digits n)⟩]
    else [⟨gap, .integer, String.ofList (digits n)⟩]
  | truth b => [⟨gap, .word, toString b⟩]
  | null => [⟨gap, .word, "null"⟩]
  | type name => name.tokens gap ++ [sign ".", ⟨"", .word, "class"⟩]
  | constant name => name.tokens gap
  | array items => ⟨gap, .symbol, "\x7b"⟩ :: tokensOfItems items ++ [sign "\x7d"]
  | nested kind arguments =>
    ⟨gap, .symbol, "@"⟩ :: kind.name.tokens "" ++ tokensOfArguments arguments

def tokensOfItems : List Datum → List Token
  | [] => []
  | d :: ds => d.tokens "" ++ tokensOfMoreItems ds

def tokensOfMoreItems : List Datum → List Token
  | [] => []
  | d :: ds => sign "," :: d.tokens " " ++ tokensOfMoreItems ds

def tokensOfArguments : Arguments Datum → List Token
  | .value d => sign "(" :: d.tokens "" ++ [sign ")"]
  | .pairs [] => []
  | .pairs ((key, d) :: ps) =>
    sign "(" :: key.token "" :: ⟨" ", .symbol, "="⟩ :: d.tokens " " ++ tokensOfMorePairs ps ++
      [sign ")"]

def tokensOfMorePairs : List (Identifier × Datum) → List Token
  | [] => []
  | (key, d) :: ps =>
    sign "," :: key.token " " :: ⟨" ", .symbol, "="⟩ :: d.tokens " " ++ tokensOfMorePairs ps

end

end Datum

def Annotation.tokens (a : Annotation) : List Token :=
  sign "@" :: a.kind.name.tokens "" ++ Datum.tokensOfArguments a.arguments

def spell (ts : List Token) : List Char := ts.flatMap fun t => t.gap.toList ++ t.text.toList

theorem spell_cons (t : Token) (ts : List Token) :
    spell (t :: ts) = t.gap.toList ++ t.text.toList ++ spell ts := List.flatMap_cons

theorem spell_append (ts us : List Token) : spell (ts ++ us) = spell ts ++ spell us :=
  List.flatMap_append

theorem spell_dotted (is : List Identifier) : spell (dottedTokens is) = dotted is := by
  induction is with
  | nil => rfl
  | cons i is ih =>
    change spell (sign "." :: i.token "" :: dottedTokens is) = '.' :: i.letters ++ dotted is
    rw [spell_cons, spell_cons, ih]
    simp [sign, Identifier.token, Identifier.text]

theorem spell_name (gap : String) (n : Name) : spell (n.tokens gap) = gap.toList ++ n.letters := by
  rw [Name.tokens, spell_cons, spell_dotted]
  simp [Identifier.token, Identifier.text, Name.letters]

namespace Datum

mutual

theorem spell_tokens (gap : String) : ∀ d : Datum, spell (d.tokens gap) = gap.toList ++ d.source
  | string text => by simp [tokens, source, spell]
  | integer n _ => by
    simp only [tokens, source]
    split <;> simp [spell]
  | truth b => by simp [tokens, source, spell]
  | null => by simp [tokens, source, spell]
  | type name => by
    rw [tokens, spell_append, spell_name, source, List.append_assoc]
    rfl
  | constant name => by rw [tokens, spell_name, source]
  | array items => by
    simp only [tokens, source, List.cons_append, spell_cons, spell_append, spell_items items]
    simp [spell, sign]
  | nested kind arguments => by
    simp only [tokens, source, List.cons_append, spell_cons, spell_append, spell_name,
      spell_arguments arguments]
    simp

theorem spell_items : ∀ ds : List Datum, spell (tokensOfItems ds) = sourceOfItems ds
  | [] => rfl
  | d :: ds => by
    rw [tokensOfItems, spell_append, spell_tokens "" d, spell_moreItems ds, sourceOfItems]
    rfl

theorem spell_moreItems : ∀ ds : List Datum, spell (tokensOfMoreItems ds) = sourceOfMoreItems ds
  | [] => rfl
  | d :: ds => by
    simp only [tokensOfMoreItems, sourceOfMoreItems, List.cons_append, spell_cons, spell_append,
      spell_tokens " " d, spell_moreItems ds]
    simp [sign]

theorem spell_arguments : ∀ a : Arguments Datum,
    spell (tokensOfArguments a) = sourceOfArguments a
  | .value d => by
    simp only [tokensOfArguments, sourceOfArguments, List.cons_append, spell_cons, spell_append,
      spell_tokens "" d]
    simp [spell, sign]
  | .pairs [] => rfl
  | .pairs ((key, d) :: ps) => by
    simp only [tokensOfArguments, sourceOfArguments, List.cons_append, spell_cons, spell_append,
      spell_tokens " " d, spell_morePairs ps]
    simp [spell, sign, Identifier.token, Identifier.text]

theorem spell_morePairs : ∀ ps : List (Identifier × Datum),
    spell (tokensOfMorePairs ps) = sourceOfMorePairs ps
  | [] => rfl
  | (key, d) :: ps => by
    simp only [tokensOfMorePairs, sourceOfMorePairs, List.cons_append, spell_cons, spell_append,
      spell_tokens " " d, spell_morePairs ps]
    simp [sign, Identifier.token, Identifier.text]

end

end Datum

theorem Annotation.spell_tokens (a : Annotation) : spell a.tokens = a.source := by
  rw [tokens, spell_append, spell_cons, spell_name, Datum.spell_arguments]
  rfl

end AnnotationIndex.Java.Canonical
