import AnnotationIndex.Text.Age
import AnnotationIndex.Text.Property

/-!
# Identifier characters

The Unicode properties `XID_Start` and `XID_Continue` in version 15.1 of the standard. ASCII is
answered without looking at the tables.
-/

namespace AnnotationIndex.Text

/-- The characters with a property in version 15.1. -/
def beforeVersion16 (s : CharSet) : CharSet := s.minus (.ofSpans addedIn16_0)

def xidStart15 : CharSet := beforeVersion16 Property.xidStart

def xidContinue15 : CharSet := beforeVersion16 Property.xidContinue

def isXidStart (c : Char) : Bool := if c.toNat < 128 then c.isAlpha else xidStart15.mem c

def isXidContinue (c : Char) : Bool :=
  if c.toNat < 128 then c.isAlphanum || c == '_' else xidContinue15.mem c

end AnnotationIndex.Text
