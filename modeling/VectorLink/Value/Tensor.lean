import VectorLink.Number.Binary64

/-!
# Numeric arrays

Vectors and their ids may be handed in as arrays of numbers of one kind. An array is its shape and
its elements in row-major order. Two conversions of elements matter, to single precision and to
signed words of 64 bits; both act on the element alone, so an array converts element by element.
-/

namespace VectorLink

/-- The kind of all elements of an array. -/
inductive ElementKind where
  | boolean
  | integer (signed : Bool) (bits : Nat)
  | real (format : Format)
  deriving DecidableEq, Repr

/-- One element: a whole number (a truth value counts as one) or a real. -/
inductive Element where
  | whole (n : Int)
  | real (x : Binary64)
  deriving DecidableEq, Repr

/-- **An array of numbers**: its kind, its shape, and its elements in row-major order. -/
structure Tensor where
  kind : ElementKind
  shape : List Nat
  elements : List Element
  deriving DecidableEq, Repr

namespace Element

/-- The single nearest to an element. A whole number is rounded once, not by way of a double. -/
def toBinary32 : Element → Binary32
  | .whole n =>
    let word := Format.binary32.round n.natAbs 1
    ⟨UInt32.ofNat (if n < 0 then Format.binary32.signWeight + word else word)⟩
  | .real x => x.toBinary32

/-- An integer reduced to a signed word of 64 bits. -/
def wrapWord (n : Int) : Int := n.bmod (2 ^ 64)

/-- **The signed word of 64 bits of an element**: a whole number wraps around, and a real is cut off
towards zero. A real that has no such word gives the least one. -/
def toWord : Element → Int
  | .whole n => wrapWord n
  | .real x =>
    match x.truncate? with
    | some n => if -(2 ^ 63) ≤ n && n < 2 ^ 63 then n else -(2 ^ 63)
    | none => -(2 ^ 63)

/-- An element as an array of a kind holds it: a real is rounded to the format of the kind, and a
whole number becomes a real if the kind holds reals. -/
def ofKind (kind : ElementKind) : Element → Element
  | .whole n =>
    match kind with
    | .real f =>
      let word := f.round n.natAbs 1
      .real (.ofWord (f.convert .binary64 (if n < 0 then f.signWeight + word else word)))
    | _ => .whole n
  | .real x =>
    match kind with
    | .real f => .real (.ofWord (f.convert .binary64
        (Format.binary64.convert f x.bits.toNat)))
    | _ => .real x

end Element

namespace Tensor

/-- The number of axes. -/
def rank (t : Tensor) : Nat := t.shape.length

/-- **The parts of an array along its first axis**, if it has an axis. -/
def parts? (t : Tensor) : Option (List Tensor) :=
  match t.shape with
  | [] => none
  | n :: shape =>
    let size := shape.foldl (· * ·) 1
    some ((List.range n).map fun i =>
      { t with shape, elements := (t.elements.drop (i * size)).take size })

end Tensor

end VectorLink
