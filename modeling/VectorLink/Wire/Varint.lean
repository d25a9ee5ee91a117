import VectorLink.Number.Power

/-!
# Variable-length numbers

The wire format writes a number in groups of seven bits, the low group first, with the high bit set
on every octet but the last. A number of 64 bits takes at most ten octets, and a reader refuses an
eleventh. What the tenth octet carries past bit 63 is dropped.

Negative numbers are written as their word of 64 bits, also those of a field of 32 bits, so that a
field may be widened later.
-/

namespace VectorLink.Wire

/-- A sequence of octets. -/
abbrev Octets := List UInt8

/-- The octets of a number, in at most as many groups as are left. -/
def varintWithin : Nat → Nat → Octets
  | 0, _ => []
  | groups + 1, n =>
    if n < 0x80 then [UInt8.ofNat n]
    else UInt8.ofNat (n % 0x80 + 0x80) :: varintWithin groups (n / 0x80)

/-- **The octets of a number** below `2 ^ 70`. -/
def varint (n : Nat) : Octets := varintWithin 10 n

/-- A number at the front of some octets, in at most as many groups as are left, and the rest. -/
def readVarintWithin : Nat → Octets → Option (Nat × Octets)
  | 0, _ => none
  | _ + 1, [] => none
  | groups + 1, b :: rest =>
    if b < 0x80 then some (b.toNat, rest)
    else (readVarintWithin groups rest).map fun r => (b.toNat % 0x80 + 0x80 * r.1, r.2)

/-- **A number at the front of some octets**, cut to 64 bits, and the rest. -/
def readVarint (bs : Octets) : Option (Nat × Octets) :=
  (readVarintWithin 10 bs).map fun r => (r.1 % 2 ^ 64, r.2)

/-- A tag at the front of some octets: at most five octets and at most 32 bits. -/
def readTag (bs : Octets) : Option (Nat × Octets) :=
  (readVarintWithin 5 bs).filter fun r => r.1 < 2 ^ 32

/-- The word of 64 bits of an integer. -/
def wordOfInt (n : Int) : Nat := (n % 2 ^ 64).toNat

/-- The integer of a word of 64 bits. -/
def intOfWord64 (w : Nat) : Int := (w : Int).bmod (2 ^ 64)

/-- The integer of the low 32 bits of a word. -/
def intOfWord32 (w : Nat) : Int := (w : Int).bmod (2 ^ 32)

/-- A number in as many octets, the low octet first. -/
def littleEndian : Nat → Nat → Octets
  | 0, _ => []
  | count + 1, n => UInt8.ofNat (n % 0x100) :: littleEndian count (n / 0x100)

/-- A number in as many octets at the front, the low octet first, and the rest. -/
def readLittleEndian : Nat → Octets → Option (Nat × Octets)
  | 0, bs => some (0, bs)
  | _ + 1, [] => none
  | count + 1, b :: rest =>
    (readLittleEndian count rest).map fun r => (b.toNat + 0x100 * r.1, r.2)

end VectorLink.Wire
