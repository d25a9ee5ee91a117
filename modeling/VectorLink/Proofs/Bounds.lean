import Mathlib.Data.List.DropRight
import VectorLink.Client.Connect
import VectorLink.Proofs.Items

/-!
# Every configuration is in range

A configuration comes of keywords, of environment variables, of a file, or of all of these, and what
they hold is of any kind: a number may be written as a text, a real may be no number, a switch may
stand where a number should. Whatever they are, they end in one check, and the check looks at each
field in two steps. A value is first read as one of the type of the field, and then it is held
against the bounds of the field.

So a configuration that is accepted is in range on every path (`Config.InRange`), and the rest of
the client may rely on it: there is a host to connect to, polling advances, and the wait at the end
is a number above zero. The bounds are also all that is asked for, as every configuration in range
comes of the arguments that hold its own fields (`Config.obtained_iff_inRange`).
-/

namespace VectorLink

/-! ## Texts without blanks around them -/

namespace Blank

variable {p : Char → Bool} {cs : List Char}

/-- **Neither end of a list is in a class.** -/
structure Trimmed (p : Char → Bool) (cs : List Char) : Prop where
  head : ∀ c ∈ cs.head?, p c = false
  last : ∀ c ∈ cs.getLast?, p c = false

theorem trimBy_eq_rdropWhile : trimBy p cs = (cs.dropWhile p).rdropWhile p := rfl

/-- **What is trimmed has no end in the class.** -/
theorem trimmed_trimBy : Trimmed p (trimBy p cs) := by
  rw [trimBy_eq_rdropWhile]
  constructor
  · intro c hc
    obtain ⟨rest, hrest⟩ := List.rdropWhile_prefix p (cs.dropWhile p)
    have hhead : c ∈ (cs.dropWhile p).head? := by
      rw [← hrest, List.head?_append, Option.mem_def.mp hc]
      rfl
    have hnot := List.head?_dropWhile_not p cs
    rw [Option.mem_def.mp hhead] at hnot
    simpa using hnot
  · intro c hc
    obtain ⟨hne, hlast⟩ := List.mem_getLast?_eq_getLast hc
    have hnot := List.rdropWhile_last_not p (cs.dropWhile p) hne
    rw [hlast]
    simpa using hnot

/-- **What has no end in the class is trimmed to itself.** -/
theorem Trimmed.trimBy_eq (h : Trimmed p cs) : trimBy p cs = cs := by
  have hdrop : cs.dropWhile p = cs := by
    cases cs with
    | nil => rfl
    | cons c rest => exact List.dropWhile_cons_of_neg (by simpa using h.head c rfl)
  rw [trimBy_eq_rdropWhile, hdrop, List.rdropWhile_eq_self_iff]
  intro hne hlast
  rw [h.last _ (List.getLast?_eq_getLast_of_ne_nil hne)] at hlast
  cases hlast

end Blank

/-! ## Readers with bounds -/

namespace Bound

/-- An integer keeps a bound. -/
def Keeps (n : Int) : Bound → Prop
  | .above k => k < n
  | .atLeast k => k ≤ n
  | .atMost k => n ≤ k

instance (n : Int) : DecidablePred (Keeps n)
  | .above k => inferInstanceAs (Decidable (k < n))
  | .atLeast k => inferInstanceAs (Decidable (k ≤ n))
  | .atMost k => inferInstanceAs (Decidable (n ≤ k))

end Bound

/-- **An integer is read within bounds** if it is one and keeps all of them. -/
theorem Reader.bounded_eq_ok_iff {bounds : List Bound} {v : Value} {n : Int} :
    bounded bounds v = .ok n ↔ integer v = .ok n ∧ ∀ b ∈ bounds, b.Keeps n := by
  rw [bounded]
  cases integer v with
  | error issues =>
    constructor
    · intro h
      cases h
    · rintro ⟨h, -⟩
      cases h
  | ok k =>
    dsimp only
    split
    · -- The first bound that is broken is reported, so that all are kept if none is.
      next b hb =>
      constructor
      · intro h
        cases h
      · rintro ⟨hk, hkeeps⟩
        obtain rfl := Except.ok.inj hk
        have hbreaks := List.find?_some hb
        have hkept := hkeeps b (List.mem_of_find?_eq_some hb)
        cases b <;> exact absurd hkept (by simpa [Bound.Keeps] using hbreaks)
    · next hnone =>
      refine ⟨fun h => ⟨h, fun b hb => ?_⟩, And.left⟩
      obtain rfl := Except.ok.inj h
      have hkept := List.find?_eq_none.mp hnone b hb
      cases b <;> simpa [Bound.Keeps] using hkept

/-- **A double is above zero** if it is a number, not negative, and not zero. -/
theorem Binary64.isPositive_iff {x : Binary64} :
    x.isPositive = true ↔ x.isNaN = false ∧ x.isNegative = false ∧ x.isZero = false := by
  rw [isPositive, isNaN, isZero, Bool.and_eq_true]
  cases x.magnitude <;> simp [and_comm]

/-- A level is read from its name. -/
theorem LogLevel.read_name (l : LogLevel) : read (.text l.name) = .ok l := by cases l <;> rfl

namespace Config

/-- **A host is read** without the blanks around it, and something is left of it. -/
theorem readHost_eq_ok {v : Value} {s : String} (h : readHost v = .ok s) :
    s ≠ "" ∧ Blank.Trimmed Blank.isBlank s.toList := by
  rw [readHost] at h
  cases hv : Reader.text v with
  | error issues =>
    rw [hv] at h
    cases h
  | ok full =>
    rw [hv] at h
    dsimp only at h
    split at h
    · cases h
    · next hne =>
      obtain rfl := Except.ok.inj h
      refine ⟨fun hempty => hne (hempty ▸ rfl), ?_⟩
      rw [Blank.strip, String.toList_ofList]
      exact Blank.trimmed_trimBy

/-- A host without blanks around it is read as it is. -/
theorem readHost_text {s : String} (hne : s ≠ "")
    (htrimmed : Blank.Trimmed Blank.isBlank s.toList) : readHost (.text s) = .ok s := by
  have hstrip : Blank.strip s = s := by
    rw [Blank.strip, htrimmed.trimBy_eq, String.ofList_toList]
  have hread : readHost (.text s) = if (Blank.strip s).isEmpty
      then .reject (.broken "Host cannot be empty") else .accept (Blank.strip s) := rfl
  rw [hread, hstrip, if_neg (by simpa [String.isEmpty_iff] using hne)]
  rfl

theorem readPositiveReal_eq_ok {v : Value} {x : Binary64} (h : readPositiveReal v = .ok x) :
    x.isPositive = true := (Checked.ensure_eq_ok h).2

/-! ## Ranges -/

/-- **A configuration is in range.** -/
structure InRange (c : Config) : Prop where
  host : c.host ≠ ""
  /-- There is no blank at either end of the host. -/
  trimmed : (∀ a ∈ c.host.toList.head?, Blank.isBlank a = false) ∧
    ∀ a ∈ c.host.toList.getLast?, Blank.isBlank a = false
  port : 0 ≤ c.port ∧ c.port ≤ 65535
  connectTimeout : 0 ≤ c.connectTimeout
  pollInterval : 1 ≤ c.pollInterval
  /-- The wait at the end is a number above zero. -/
  drainTimeout : c.drainTimeout.isNaN = false ∧ c.drainTimeout.isNegative = false ∧
    c.drainTimeout.isZero = false
  maxReceiveLength : -1 ≤ c.maxReceiveLength

end Config

namespace Field.Holds

variable {ρ : Type} {given : String → Option Value} {r : ρ}

/-- What is granted of a default and of all that is read is granted of a field. -/
theorem grants {f : Field ρ} {P : f.α → Prop} (h : f.Holds given r)
    (hread : ∀ v a, f.read v = .ok a → P a) (hdefault : P f.default) : P (f.get r) := by
  rw [Holds] at h
  split at h
  · exact hread _ _ h
  · exact h ▸ hdefault

/-- **A field with bounds keeps them** if its default does. -/
theorem keeps {name : String} {default : Int} {bounds : List Bound} {get : ρ → Int}
    (h : (⟨name, default, Reader.bounded bounds, get⟩ : Field ρ).Holds given r)
    (hdefault : ∀ b ∈ bounds, b.Keeps default) : ∀ b ∈ bounds, b.Keeps (get r) :=
  h.grants (fun _ _ hn => (Reader.bounded_eq_ok_iff.mp hn).2) hdefault

end Field.Holds

namespace Config

variable {c : Config}

theorem trimmed_standard : Blank.Trimmed Blank.isBlank standard.host.toList where
  head a ha := by
    obtain rfl : '1' = a := Option.some.inj ha
    rfl
  last a ha := by
    obtain rfl : '1' = a := Option.some.inj ha
    rfl

/-- **What a check accepts is in range**: its defaults are, and its readers ask for it. -/
theorem inRange_of_check {args : Arguments} (h : check args = .ok c) : c.InRange := by
  have h := check_eq_ok_iff.mp h
  simp only [Follows, fields, List.forall_mem_cons] at h
  obtain ⟨hhost, hport, hconnect, hpoll, hdrain, hlength, -⟩ := h
  have hhost : c.host ≠ "" ∧ Blank.Trimmed Blank.isBlank c.host.toList :=
    hhost.grants (fun _ _ => readHost_eq_ok) ⟨by decide, trimmed_standard⟩
  obtain ⟨hne, hhead, hlast⟩ := hhost
  exact {
    host := hne
    trimmed := ⟨hhead, hlast⟩
    port := by simpa [Bound.Keeps] using hport.keeps (by decide)
    connectTimeout := by simpa [Bound.Keeps] using hconnect.keeps (by decide)
    pollInterval := by simpa [Bound.Keeps] using hpoll.keeps (by decide)
    drainTimeout := Binary64.isPositive_iff.mp
      (hdrain.grants (fun _ _ => readPositiveReal_eq_ok) (by decide))
    maxReceiveLength := by simpa [Bound.Keeps] using hlength.keeps (by decide) }

/-- **A configuration in range is accepted again** from its own fields. -/
theorem InRange.check_arguments (h : c.InRange) : check c.shown.arguments = .ok c := by
  have hgiven {α : Type} {read : Reader α} {name : String} {default a : α} {v : Value}
      (hv : c.shown.arguments.get? name = some v) (ha : read v = .ok a) :
      c.shown.arguments.optional name default read = .ok a :=
    Arguments.optional_eq_ok_iff.mpr (.inr ⟨v, hv, ha⟩)
  have hbounded {bounds : List Bound} {n : Int} (hn : ∀ b ∈ bounds, b.Keeps n) :
      Reader.bounded bounds (.int n) = .ok n := Reader.bounded_eq_ok_iff.mpr ⟨rfl, hn⟩
  have hhost := readHost_text h.host ⟨h.trimmed.1, h.trimmed.2⟩
  have hdrain : readPositiveReal (.float c.drainTimeout) = .ok c.drainTimeout :=
    if_pos (Binary64.isPositive_iff.mpr h.drainTimeout)
  have hdebug : Reader.truth (.bool c.debug) = .ok c.debug := rfl
  rw [check, hgiven rfl hhost, hgiven rfl (hbounded (by simpa [Bound.Keeps] using h.port)),
    hgiven rfl (hbounded (by simpa [Bound.Keeps] using h.connectTimeout)),
    hgiven rfl (hbounded (by simpa [Bound.Keeps] using h.pollInterval)), hgiven rfl hdrain,
    hgiven rfl (hbounded (by simpa [Bound.Keeps] using h.maxReceiveLength)),
    hgiven rfl c.logLevel.read_name, hgiven rfl hdebug]
  rfl

/-! ## Paths -/

/-- **A configuration is obtained** from arguments, from the environment, from all sources, or for
a client. -/
inductive Obtained (c : Config) : Prop
  | arguments (args : Arguments) (h : check args = .ok c)
  | environment (env : Environment) (overrides : Arguments)
    (h : fromEnvironment env overrides = .ok c)
  | sources (env : Environment) (file? : Option FileSource) (keywords : Arguments)
    (h : load env file? keywords = .ok c)
  | client (env : Environment) (maker : String) (given? : Option Arguments) (keywords : Arguments)
    (h : Session.configure env maker given? keywords = .ok c)

variable {env : Environment}

/-- The environment's configuration is checked. -/
theorem checked_fromEnvironment {overrides : Arguments}
    (h : fromEnvironment env overrides = .ok c) : ∃ args, check args = .ok c := by
  rw [fromEnvironment] at h
  split at h
  · cases h
  · cases hfields : env.arguments with
    | error f =>
      rw [hfields] at h
      cases h
    | ok fields =>
      rw [hfields] at h
      dsimp only at h
      split at h
      · next c' hc =>
        obtain rfl := Except.ok.inj h
        exact ⟨_, hc⟩
      · cases h

/-- A loaded configuration is checked. -/
theorem checked_load {file? : Option FileSource} {keywords : Arguments}
    (h : load env file? keywords = .ok c) : ∃ args, check args = .ok c := by
  rw [load] at h
  split at h
  · cases h
  · cases hfound : fileEntries file? with
    | error e =>
      rw [hfound] at h
      cases h
    | ok found =>
      rw [hfound] at h
      have h : combine env found keywords = .ok c := h
      rw [combine] at h
      split at h
      · cases h
      · exact checked_fromEnvironment h

/-- A configuration that is loaded from keywords alone is checked. -/
theorem checked_loadKeywords {keywords : Arguments} (h : loadKeywords env keywords = .ok c) :
    ∃ args, check args = .ok c := by
  obtain ⟨file?, -, hload⟩ := bind_eq_ok h
  exact checked_load hload

/-- The configuration of a client is checked, whether it is given or loaded. -/
theorem checked_configure {maker : String} {given? : Option Arguments} {keywords : Arguments}
    (h : Session.configure env maker given? keywords = .ok c) : ∃ args, check args = .ok c := by
  cases given? with
  | some args =>
    rw [Session.configure] at h
    cases hcheck : check args with
    | error issues =>
      rw [hcheck] at h
      cases h
    | ok c' =>
      rw [hcheck] at h
      obtain ⟨-, -, hc⟩ := map_eq_ok h
      exact ⟨args, hcheck.trans (congrArg _ hc)⟩
  | none =>
    obtain ⟨-, -, hload⟩ := bind_eq_ok h
    rw [Session.configureFrom] at hload
    split at hload
    · cases hload
    · exact checked_loadKeywords hload

/-- **Every path ends in a check.** -/
theorem Obtained.checked (h : c.Obtained) : ∃ args, check args = .ok c := by
  cases h with
  | arguments args h => exact ⟨args, h⟩
  | environment env overrides h => exact checked_fromEnvironment h
  | sources env file? keywords h => exact checked_load h
  | client env maker given? keywords h => exact checked_configure h

/-- **The configurations that can be obtained are those in range**, whatever the path and whatever
the values on it. -/
theorem obtained_iff_inRange : c.Obtained ↔ c.InRange := by
  constructor
  · intro h
    obtain ⟨args, hargs⟩ := h.checked
    exact inRange_of_check hargs
  · exact fun h => .arguments _ h.check_arguments

end Config

end VectorLink
