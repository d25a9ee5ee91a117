import VectorLink.Validation.Issue
import VectorLink.Value.Basic

/-!
# Checked values

The outcome of a validation is a typed value or the list of all issues. Two validations of parts of
one record are combined so that the issues of both are kept (`Checked.seq`), and a field of a record
or an item of a list puts its place in front of its issues.
-/

namespace VectorLink

/-- **A typed value, or everything that is wrong with what was handed in.** -/
def Checked (α : Type) : Type := Except (List Issue) α

/-- A reading of one value. -/
abbrev Reader (α : Type) := Value → Checked α

namespace Checked

/-- A value that is right. -/
def accept {α : Type} (a : α) : Checked α := .ok a

/-- One complaint about the value at hand. -/
def reject {α : Type} (c : Complaint) : Checked α := .error [⟨[], c⟩]

/-- A function and an argument that are both checked; the issues of the function come first. -/
def seq {α β : Type} (f : Checked (α → β)) (a : Checked α) : Checked β :=
  match f, a with
  | .ok f, .ok a => .ok (f a)
  | .ok _, .error is => .error is
  | .error is, .ok _ => .error is
  | .error is, .error js => .error (is ++ js)

instance : Applicative Checked where
  pure := accept
  seq f a := seq f (a ())

/-- The issues of a part, with the place of the part in front. -/
def within {α : Type} (p : Place) (c : Checked α) : Checked α :=
  match c with
  | .ok a => .ok a
  | .error is => .error (is.map (Issue.within p))

/-- A further condition on a value that is right so far. -/
def ensure {α : Type} (c : Checked α) (holds : α → Bool) (complaint : α → Complaint) :
    Checked α :=
  match c with
  | .ok a => if holds a then .ok a else reject (complaint a)
  | .error is => .error is

/-- The items of a list from a position on, each read by itself. -/
def itemsFrom {α : Type} (read : Reader α) : Nat → List Value → Checked (List α)
  | _, [] => accept []
  | i, v :: vs =>
    seq (seq (accept List.cons) (within (.position i) (read v))) (itemsFrom read (i + 1) vs)

end Checked

namespace Arguments

/-- **A field that has to be given.** -/
def required {α : Type} (args : Arguments) (name : String) (read : Reader α) : Checked α :=
  Checked.within (.field name)
    (match args.get? name with
      | some v => read v
      | none => .reject .missing)

/-- **A field with a default.** A value that is given is read, also an absent one. -/
def optional {α : Type} (args : Arguments) (name : String) (default : α) (read : Reader α) :
    Checked α :=
  match args.get? name with
  | some v => Checked.within (.field name) (read v)
  | none => .accept default

end Arguments

end VectorLink
