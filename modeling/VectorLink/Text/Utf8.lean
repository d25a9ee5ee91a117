/-!
# Strict reading of UTF-8

A file is octets before it is text. This module turns the one into the other, or says precisely
where the octets stop being UTF-8: which octets are at fault, where they stand, and which of three
things is wrong with them.

## Which octets may follow

A lead octet fixes the *ranges* of the octets that must follow it. The first of these ranges is
narrower after `E0`, `ED`, `F0` and `F4`, which is all that is needed to refuse overlong forms,
surrogates and code points past the last plane (`Utf8.tails`). Reading is then one step per octet
over the ranges still owed (`Utf8.decode`).
-/

namespace VectorLink.Utf8

/-- What is wrong with the octets at a fault. -/
inductive Cause where
  /-- No sequence begins with this octet. -/
  | startOctet
  /-- The sequence is broken off by an octet that cannot continue it. -/
  | continuation
  /-- The octets end inside a sequence. -/
  | truncated
  deriving DecidableEq, Repr

/-- **The first place where octets are not UTF-8**: the offset of the sequence at fault, and its
octets up to the one that breaks it. -/
structure Fault where
  cause : Cause
  offset : Nat
  octets : List UInt8
  deriving DecidableEq, Repr

/-- An inclusive range of octets. -/
structure Range where
  low : UInt8
  high : UInt8
  deriving DecidableEq, Repr

/-- Whether a range holds an octet. -/
def Range.holds (r : Range) (b : UInt8) : Bool := r.low ≤ b && b ≤ r.high

/-- Any continuation octet. -/
def Range.tail : Range := ⟨0x80, 0xBF⟩

/-- The ranges owed after a lead octet, or nothing if no sequence begins with it. An ASCII octet
owes none. -/
def tails (b : UInt8) : Option (List Range) :=
  if b < 0x80 then some []
  else if b < 0xC2 then none
  else if b < 0xE0 then some [.tail]
  else if b = 0xE0 then some [⟨0xA0, 0xBF⟩, .tail]
  else if b = 0xED then some [⟨0x80, 0x9F⟩, .tail]
  else if b < 0xF0 then some [.tail, .tail]
  else if b = 0xF0 then some [⟨0x90, 0xBF⟩, .tail, .tail]
  else if b < 0xF4 then some [.tail, .tail, .tail]
  else if b = 0xF4 then some [⟨0x80, 0x8F⟩, .tail, .tail]
  else none

/-- The bits that a lead octet contributes to its code point. -/
def leadBits (b : UInt8) : Nat :=
  if b < 0x80 then b.toNat
  else if b < 0xE0 then b.toNat % 0x20
  else if b < 0xF0 then b.toNat % 0x10
  else b.toNat % 0x08

/-- The sequence being read: its octets so far (latest first), the bits they gave, and the ranges
still owed. -/
structure Open where
  octets : List UInt8
  bits : Nat
  owed : List Range

/-- Reads octets from an offset on, with the open sequence if there is one, and the characters read
so far (latest first). -/
def decodeFrom (offset : Nat) (open? : Option Open) (done : List Char) :
    List UInt8 → Except Fault (List Char)
  | [] =>
    match open? with
    | none => .ok done.reverse
    | some o => .error ⟨.truncated, offset - o.octets.length, o.octets.reverse⟩
  | b :: rest =>
    match open? with
    | none =>
      match tails b with
      | none => .error ⟨.startOctet, offset, [b]⟩
      | some [] => decodeFrom (offset + 1) none (Char.ofNat (leadBits b) :: done) rest
      | some owed => decodeFrom (offset + 1) (some ⟨[b], leadBits b, owed⟩) done rest
    | some o =>
      match o.owed with
      | [] => .error ⟨.startOctet, offset, [b]⟩
      | r :: owed =>
        if r.holds b then
          let bits := o.bits * 0x40 + b.toNat % 0x40
          if owed.isEmpty then decodeFrom (offset + 1) none (Char.ofNat bits :: done) rest
          else decodeFrom (offset + 1) (some ⟨b :: o.octets, bits, owed⟩) done rest
        else .error ⟨.continuation, offset - o.octets.length, o.octets.reverse⟩

/-- **The text of the octets**, or the first fault in them. -/
def decode (octets : List UInt8) : Except Fault String :=
  (decodeFrom 0 none [] octets).map String.ofList

/-- The lower-case hexadecimal digit of a number below sixteen. -/
def hexDigit (n : Nat) : Char := "0123456789abcdef".toList.getD n '0'

/-- The two hexadecimal digits of an octet. -/
def hexOctet (b : UInt8) : String :=
  String.ofList [hexDigit (b.toNat / 16), hexDigit (b.toNat % 16)]

/-- The wording of each cause. -/
def Cause.message : Cause → String
  | .startOctet => "invalid start byte"
  | .continuation => "invalid continuation byte"
  | .truncated => "unexpected end of data"

/-- The wording of a fault: one octet is shown, several are counted. -/
def Fault.message (f : Fault) : String :=
  let place :=
    match f.octets with
    | [b] => "byte 0x" ++ hexOctet b ++ " in position " ++ toString f.offset
    | bs => "bytes in position " ++ toString f.offset ++ "-"
        ++ toString (f.offset + bs.length - 1)
  "'utf-8' codec can't decode " ++ place ++ ": " ++ f.cause.message

end VectorLink.Utf8
