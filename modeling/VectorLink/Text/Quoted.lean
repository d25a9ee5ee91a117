import VectorLink.Text.Printable
import VectorLink.Text.Utf8

/-!
# Quoted text

A value inside a message is written so that it can be told from the message: between quotes, with
whatever cannot be shown written by number. The quote is single unless the text holds a single quote
and no double one, so that most texts need no escaped quote at all (`Quoted.quoteFor`).
-/

namespace VectorLink.Quoted

/-- The quote to put around characters. -/
def quoteFor (cs : List Char) : Char :=
  if cs.contains '\'' && !cs.contains '"' then '"' else '\''

/-- A number in lower-case hexadecimal, padded to a width. -/
def hexPadded (width n : Nat) : List Char :=
  let ds := (Nat.toDigits 16 n)
  List.replicate (width - ds.length) '0' ++ ds

/-- A character that cannot be shown, by number: two, four or eight digits. -/
def byNumber (c : Char) : List Char :=
  let n := c.toNat
  if n < 0x100 then '\\' :: 'x' :: hexPadded 2 n
  else if n < 0x10000 then '\\' :: 'u' :: hexPadded 4 n
  else '\\' :: 'U' :: hexPadded 8 n

/-- One character between the given quotes. -/
def escape (quote c : Char) : List Char :=
  if c = quote || c = '\\' then ['\\', c]
  else if c = '\t' then ['\\', 't']
  else if c = '\n' then ['\\', 'n']
  else if c = '\r' then ['\\', 'r']
  else if Printable.isShown c then [c]
  else byNumber c

/-- **A text between quotes.** -/
def text (s : String) : String :=
  let q := quoteFor s.toList
  String.ofList (q :: (s.toList.flatMap (escape q) ++ [q]))

/-- One octet between the given quotes: ASCII as characters, the rest by number. -/
def escapeOctet (quote : Char) (b : UInt8) : List Char :=
  let c := Char.ofNat b.toNat
  if b.toNat < 0x80 then escape quote c else byNumber c

/-- **Octets between quotes**, marked as such by a leading letter. -/
def octets (bs : List UInt8) : String :=
  let q := quoteFor (bs.map fun b => Char.ofNat b.toNat)
  String.ofList ('b' :: q :: (bs.flatMap (escapeOctet q) ++ [q]))

end VectorLink.Quoted
