import VectorLink.Calendar.Parts
import VectorLink.Number.Numeral

/-!
# Faults of YAML documents

Most faults are faults of form: the document is not well formed, or what it says makes no sense, and
where exactly is not told. The others come from scalars that have the look of a number or a date and
are none; these tell what is wrong.
-/

namespace VectorLink.Yaml

/-- **What is wrong with a document.** -/
inductive Fault where
  /-- The document is not well formed, or a part of it has no meaning. -/
  | malformed
  /-- An escape names a number that is no code point. -/
  | codePoint (n : Nat)
  | numeral (f : NumeralFault)
  /-- A number without any character. -/
  | emptyNumeral
  /-- A word that is no truth value. -/
  | truthWord (word : String)
  /-- A scalar that is tagged as a date and does not look like one. -/
  | notTimestamp
  | part (f : PartFault)
  /-- A number is past all doubles. -/
  | numberTooLarge
  deriving DecidableEq, Repr

/-- The greatest number that fits a signed word of 32 bits. -/
def greatestWord : Nat := 0x7FFFFFFF

/-- The wording of a fault; faults of form have none. -/
def Fault.message : Fault → String
  | .malformed => ""
  | .codePoint n =>
    if n ≤ greatestWord then "chr() arg not in range(0x110000)"
    else "Python int too large to convert to C int"
  | .numeral f => f.message
  | .emptyNumeral => "string index out of range"
  | .truthWord w => Quoted.text w
  | .notTimestamp => "'NoneType' object has no attribute 'groupdict'"
  | .part f => f.message
  | .numberTooLarge => "int too large to convert to float"

end VectorLink.Yaml
