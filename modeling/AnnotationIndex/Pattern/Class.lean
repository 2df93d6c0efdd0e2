import AnnotationIndex.Text.Age
import AnnotationIndex.Text.Boundary
import AnnotationIndex.Text.CaseFold
import AnnotationIndex.Text.ScriptExtension

/-!
# Classes of characters

The sets of characters that a pattern can name.
-/

namespace AnnotationIndex.Pattern

open Text

def ascii : CharSet := .range '\x00' '\x7f'

def digits : CharSet := .range '0' '9'

def lowers : CharSet := .range 'a' 'z'

def uppers : CharSet := .range 'A' 'Z'

def asciiClass? (name : String) : Option CharSet :=
  match name with
  | "alnum" => some (.unions [digits, uppers, lowers])
  | "alpha" => some (.unions [uppers, lowers])
  | "ascii" => some ascii
  | "blank" => some (.unions [.single '\t', .single ' '])
  | "cntrl" => some (.unions [.range '\x00' '\x1f', .single '\x7f'])
  | "digit" => some digits
  | "graph" => some (.range '!' '~')
  | "lower" => some lowers
  | "print" => some (.range ' ' '~')
  | "punct" => some (.unions [.range '!' '/', .range ':' '@', .range '[' (Char.ofNat 96), .range '\x7b' '~'])
  | "space" => some (.unions [.range '\t' '\r', .single ' '])
  | "upper" => some uppers
  | "word" => some (.unions [digits, uppers, .single '_', lowers])
  | "xdigit" => some (.unions [digits, .range 'A' 'F', .range 'a' 'f'])
  | _ => none

def decimals (asciiOnly : Bool) : CharSet :=
  if asciiOnly then digits else Category.decimalNumber.set

def blanks (asciiOnly : Bool) : CharSet :=
  if asciiOnly then .unions [.range '\t' '\r', .single ' '] else .ofSpans Property.whiteSpace

def wordChars (asciiOnly : Bool) : CharSet :=
  if asciiOnly then .unions [digits, uppers, .single '_', lowers] else Property.word

/-- A name without case, separators and anything beyond ASCII. An `is` at its start is dropped. -/
def looseName (name : String) : String :=
  let chars := name.toList
  let (chars, dropped) := match chars with
    | a :: b :: rest =>
      if (a = 'i' || a = 'I') && (b = 's' || b = 'S') then (rest, true) else (chars, false)
    | _ => (chars, false)
  let loose := (chars.filter fun c => c ≠ ' ' && c ≠ '_' && c ≠ '-' && c.toNat < 128).map Char.toLower
  if dropped && loose = ['c'] then "isc" else String.ofList loose

def categoryNames : List (List String × List Category) :=
  [(["l", "letter"], Category.letters),
    (["lc", "casedletter"], [.uppercaseLetter, .lowercaseLetter, .titlecaseLetter]),
    (["lu", "uppercaseletter"], [.uppercaseLetter]),
    (["ll", "lowercaseletter"], [.lowercaseLetter]),
    (["lt", "titlecaseletter"], [.titlecaseLetter]),
    (["lm", "modifierletter"], [.modifierLetter]),
    (["lo", "otherletter"], [.otherLetter]),
    (["m", "mark", "combiningmark"], Category.marks),
    (["mn", "nonspacingmark"], [.nonspacingMark]),
    (["mc", "spacingmark"], [.spacingMark]),
    (["me", "enclosingmark"], [.enclosingMark]),
    (["n", "number"], Category.numbers),
    (["nd", "decimalnumber", "digit"], [.decimalNumber]),
    (["nl", "letternumber"], [.letterNumber]),
    (["no", "othernumber"], [.otherNumber]),
    (["p", "punctuation", "punct"], [.connectorPunctuation, .dashPunctuation, .openPunctuation,
      .closePunctuation, .initialPunctuation, .finalPunctuation, .otherPunctuation]),
    (["pc", "connectorpunctuation"], [.connectorPunctuation]),
    (["pd", "dashpunctuation"], [.dashPunctuation]),
    (["ps", "openpunctuation"], [.openPunctuation]),
    (["pe", "closepunctuation"], [.closePunctuation]),
    (["pi", "initialpunctuation"], [.initialPunctuation]),
    (["pf", "finalpunctuation"], [.finalPunctuation]),
    (["po", "otherpunctuation"], [.otherPunctuation]),
    (["s", "symbol"], [.mathSymbol, .currencySymbol, .modifierSymbol, .otherSymbol]),
    (["sm", "mathsymbol"], [.mathSymbol]),
    (["sc", "currencysymbol"], [.currencySymbol]),
    (["sk", "modifiersymbol"], [.modifierSymbol]),
    (["so", "othersymbol"], [.otherSymbol]),
    (["z", "separator"], [.spaceSeparator, .lineSeparator, .paragraphSeparator]),
    (["zs", "spaceseparator"], [.spaceSeparator]),
    (["zl", "lineseparator"], [.lineSeparator]),
    (["zp", "paragraphseparator"], [.paragraphSeparator]),
    (["cc", "control", "cntrl"], [.control]),
    (["cf", "format"], [.format]),
    (["co", "privateuse"], [.privateUse])]

def categorySet? (name : String) : Option CharSet :=
  match name with
  | "any" => some .all
  | "assigned" => some Category.assigned
  | "ascii" => some ascii
  | "cn" | "unassigned" => some Category.assigned.complement
  | "c" | "other" =>
    some (Category.assigned.complement.union (Category.sets [.control, .format, .privateUse]))
  | _ =>
    (categoryNames.find? fun (names, _) => names.contains name).map fun (_, categories) =>
      Category.sets categories

def propertySet? (name : String) : Option CharSet :=
  let name := looseName name
  ((Property.named? name).orElse fun _ => categorySet? name).orElse fun _ => script? name

def propertyValueSet? (property value : String) : Option CharSet :=
  let value := looseName value
  match looseName property with
  | "gc" | "generalcategory" => categorySet? value
  | "sc" | "script" => script? value
  | "scx" | "scriptextensions" => scriptExtension? value
  | "age" => age? value
  | "gcb" | "graphemeclusterbreak" => Boundary.value? Boundary.graphemes value
  | "wb" | "wordbreak" => Boundary.value? Boundary.words value
  | "sb" | "sentencebreak" => Boundary.value? Boundary.sentences value
  | _ => none

end AnnotationIndex.Pattern
