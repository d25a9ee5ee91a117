/-!
# Blank characters

Two sets of characters count as blank around a number or a host name. The smaller is the White_Space
property; the larger adds the four information separators `U+001C` to `U+001F`, which separate
text as well although the property leaves them out.
-/

namespace VectorLink.Blank

/-- The White_Space property. -/
def isSpace (c : Char) : Bool :=
  let n := c.toNat
  (0x09 ≤ n && n ≤ 0x0D) || n == 0x20 || n == 0x85 || n == 0xA0 || n == 0x1680
    || (0x2000 ≤ n && n ≤ 0x200A) || n == 0x2028 || n == 0x2029 || n == 0x202F
    || n == 0x205F || n == 0x3000

/-- White space or an information separator. -/
def isBlank (c : Char) : Bool :=
  isSpace c || (0x1C ≤ c.toNat && c.toNat ≤ 0x1F)

/-- A list without the elements of a class at either end. -/
def trimBy (p : Char → Bool) (cs : List Char) : List Char :=
  ((cs.dropWhile p).reverse.dropWhile p).reverse

/-- **A text without blank characters at either end.** -/
def strip (s : String) : String := String.ofList (trimBy isBlank s.toList)

end VectorLink.Blank
