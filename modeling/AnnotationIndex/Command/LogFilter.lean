import AnnotationIndex.Log
import AnnotationIndex.Text.Blank
import AnnotationIndex.Text.Property

/-!
# Log filters

A filter is a list of directives, each of which sets how serious an event has to be, for all events
or for those of a part of the program. Of the directives that speak of an event, the most specific
one decides.
-/

namespace AnnotationIndex

inductive Threshold where
  | off
  | upTo (level : Level)
  deriving DecidableEq, Repr

def Threshold.admits : Threshold → Level → Bool
  | .off, _ => false
  | .upTo least, level => level.rank ≤ least.rank

/-- A threshold for all events, or for those whose target starts with a text. -/
structure Directive where
  target : Option String
  threshold : Threshold
  /-- Only events inside of spans are meant, of which there are none. -/
  inSpans : Bool := false
  deriving DecidableEq, Repr

abbrev LogFilter := List Directive

namespace Threshold

def numbered : List Threshold :=
  [off, upTo .error, upTo .warn, upTo .info, upTo .debug, upTo .trace]

def named : List (String × Threshold) :=
  [("error", upTo .error), ("warn", upTo .warn), ("info", upTo .info), ("debug", upTo .debug),
    ("trace", upTo .trace), ("off", off)]

def number? (s : List Char) : Option Nat :=
  let digits := match s with
    | '+' :: rest => rest
    | _ => s
  if digits.isEmpty || !digits.all Char.isDigit then none
  else some (digits.foldl (fun n c => n * 10 + (c.toNat - 48)) 0)

def ofWord? (s : List Char) : Option Threshold :=
  match (number? s).bind (numbered[·]?) with
  | some threshold => some threshold
  | none => named.lookup (String.ofList (s.map Char.toLower))

end Threshold

namespace Directive

def startsWord (c : Char) : Bool :=
  c = '-' || c = ':' || c = '_' || Text.isAlphabetic c ||
    Text.inCategories Text.Category.numbers c

def withLevel? (target : Option String) (inSpans : Bool) (level : List Char) : Option Directive :=
  if level.isEmpty then some ⟨target, .upTo .trace, inSpans⟩
  else (Threshold.ofWord? level).map (⟨target, ·, inSpans⟩)

def afterFields? (s : List Char) : Option (List Char) :=
  match Text.splitFirst? '\x7d' s with
  | some (fields, ']' :: rest) => if fields.isEmpty then none else some rest
  | _ => none

def afterSpan? (s : List Char) : Option (List Char) :=
  match s.dropWhile fun c => c ≠ ']' && c ≠ '\x7b' with
  | ']' :: rest => some rest
  | '\x7b' :: rest => afterFields? rest
  | _ => none

def spanDirective? (target : Option String) (s : List Char) : Option Directive :=
  match afterSpan? s with
  | some [] => withLevel? target true []
  | some ('=' :: level) => withLevel? target true level
  | _ => none

/-- Reads a directive: a level, a target, or a target with a level. Blanks around a word make it a
target that no event has; a level cannot be set with blanks around. -/
def parse? (s : List Char) : Option Directive :=
  match Text.trimStart s with
  | [] => none
  | '[' :: rest => spanDirective? none rest
  | c :: rest =>
    if !startsWord c then none
    else
      let word := (c :: rest).takeWhile fun c => c ≠ '=' && c ≠ '['
      let target := some (String.ofList word)
      match (c :: rest).drop word.length with
      | '=' :: level =>
        if (s.head?.map Text.isBlank).getD true then none else withLevel? target false level
      | '[' :: rest => spanDirective? target rest
      | _ =>
        match Threshold.ofWord? s with
        | some threshold => some ⟨none, threshold, false⟩
        | none => some ⟨some (String.ofList s), .upTo .trace, false⟩

def speaksOf (d : Directive) (area : Area) : Bool :=
  !d.inSpans && match d.target with
    | none => true
    | some target => target.toList.isPrefixOf area.target.toList

/-- Directives with longer targets are more specific. -/
def specificity (d : Directive) : Nat :=
  match d.target with
  | none => 0
  | some target => target.utf8ByteSize + 1

end Directive

namespace LogFilter

/-- The filter that a text spells, with commas between and around its directives. A text without
any lets errors pass. -/
def ofText? (text : String) : Option LogFilter :=
  match (Text.splitWhere (· == ',') text.toList).filter (!·.isEmpty) with
  | [] => some [⟨none, .upTo .error, false⟩]
  | parts => parts.mapM Directive.parse?

def levelAt : Nat → Level
  | 0 => .info
  | 1 => .debug
  | _ => .trace

/-- The filter for a setting, which wins over the verbosity. A setting that is no filter lets
warnings pass. -/
def ofSetting (setting : Option String) (verbosity : Nat) : LogFilter :=
  match setting with
  | none => [⟨none, .upTo (levelAt verbosity), false⟩]
  | some text => (ofText? text).getD [⟨none, .upTo .warn, false⟩]

/-- The directive that decides on the events of an area: of the most specific ones, the last. -/
def deciding? (f : LogFilter) (area : Area) : Option Directive :=
  (f.filter (·.speaksOf area)).foldl (fun best d =>
    match best with
    | some b => if b.specificity ≤ d.specificity then some d else some b
    | none => some d) none

def admits (f : LogFilter) (e : Event) : Bool :=
  match f.deciding? e.area with
  | some d => d.threshold.admits e.level
  | none => false

end LogFilter

end AnnotationIndex
