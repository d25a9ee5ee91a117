/-!
# Letter case

Names of log levels are compared in upper case and switches in lower case. Both are ASCII words, so
the case maps matter only as far as a character can become an ASCII letter: besides the ASCII
letters these are the dotless i and the long s, whose capitals are ASCII, and the Kelvin sign.
-/

namespace VectorLink.Casing

/-- The capital of a character. -/
def upperChar (c : Char) : Char :=
  if c = 'ı' then 'I' else if c = 'ſ' then 'S' else c.toUpper

/-- The small letter of a character. -/
def lowerChar (c : Char) : Char :=
  if c.toNat = 0x212A then 'k' else c.toLower

/-- A text in capitals. -/
def upper (s : String) : String := String.ofList (s.toList.map upperChar)

/-- A text in small letters. -/
def lower (s : String) : String := String.ofList (s.toList.map lowerChar)

end VectorLink.Casing
