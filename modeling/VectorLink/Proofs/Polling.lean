import Mathlib.Algebra.Order.Floor.Semiring
import Mathlib.Data.Rat.Floor
import VectorLink.Proofs.Phases

/-!
# Waiting until a link is ready

A connection looks at its link, pauses, and looks again, as often as the time for connecting lasts.
Anything may happen in the pauses, but it happens in an order that is known beforehand: what a look
finds is the session after so many pauses (`Session.afterPauses`), whether or not the wait gets that
far. So the whole wait can be told without following it. It ends at the first of these sessions in
which the link is ready (`Run.pollReady_run_sighted`), and gives up at the last of them if there is
none (`Run.pollReady_run_unsighted`).

How often the client looks is the quotient of time and interval, rounded up, and once more
(`Patience.wholePauses_eq`). An interval may be so long that its seconds are too many for a double
or for the clock. Then nothing goes wrong as long as no pause is needed, and the first pause raises
(`Run.pollReady_run_unmeasured`).
-/

namespace VectorLink

namespace Scene

/-- Whether a link has a handle that is ready. -/
def ready (s : Scene) (i : Nat) : Bool := (s.handle? i).any fun h => h.state == .ready

variable {s : Scene} {i m : Nat}

theorem ready_iff : s.ready i = true ↔ ∃ h, s.handle? i = some h ∧ h.state = .ready := by
  rw [ready, Option.any_eq_true]
  simp

/-- A manager is connected if the link that it uses is ready. -/
theorem isConnected_eq_ready (hcur : (s.manager m).current? = some i) :
    s.isConnected m = s.ready i := by
  rw [isConnected, current?, hcur, Option.bind_some, ready]
  cases s.handle? i with
  | none => rfl
  | some h => rw [Option.any_some, beq_eq_decide]

/-- A link that was shut down is ready no more. -/
theorem ready_of_retired (hret : s.retired i = true) : s.ready i = false := by
  refine Bool.eq_false_iff.mpr fun hready => ?_
  obtain ⟨h, hi, hstate⟩ := ready_iff.mp hready
  rw [retired, hi, Option.any_some, (Handle.state_eq_ready.mp hstate).2.1] at hret
  exact Bool.false_ne_true hret

end Scene

/-- **The session after some pauses**, numbered from the one given on, of a client that is patient
enough for all of them. -/
def Session.afterPauses (pause : Nat → Run Unit) (seconds : Binary64) :
    Nat → Nat → Session → Session
  | 0, _, s => s
  | count + 1, number, s =>
    afterPauses pause seconds count (number + 1) (pause number (s.push (.paused seconds))).2

/-- **So many pauses come to their end**: no activity of theirs fails. -/
def Session.Lasts (s : Session) (pause : Nat → Run Unit) (seconds : Binary64)
    (number count : Nat) : Prop :=
  ∀ k < count, (pause (number + k)
    ((s.afterPauses pause seconds k number).push (.paused seconds))).1 = .ok ()

/-- A further pause comes first, and the others are numbered after it. -/
theorem Session.lasts_succ {s : Session} {pause : Nat → Run Unit} {seconds : Binary64}
    {number count : Nat} : s.Lasts pause seconds number (count + 1) ↔
      (pause number (s.push (.paused seconds))).1 = .ok () ∧
        Lasts (pause number (s.push (.paused seconds))).2 pause seconds (number + 1) count := by
  constructor
  · intro h
    refine ⟨h 0 (Nat.succ_pos count), fun k hk => ?_⟩
    have hnext := h (k + 1) (Nat.succ_lt_succ hk)
    rwa [Nat.add_succ, ← Nat.succ_add] at hnext
  · rintro ⟨hfirst, hrest⟩ k hk
    cases k with
    | zero => exact hfirst
    | succ k =>
      rw [Nat.add_succ, ← Nat.succ_add]
      exact hrest k (Nat.lt_of_succ_lt_succ hk)

/-- **A link is first seen ready after so many pauses**, no more than are left. If there are any,
their length can be measured. -/
structure Session.Sighted (s : Session) (pause : Nat → Run Unit) (length : Except Raised Binary64)
    (i left number count : Nat) (seconds : Binary64) : Prop where
  inTime : count ≤ left
  measured : count ≠ 0 → length = .ok seconds
  seen : (s.afterPauses pause seconds count number).ready i = true
  unseen : ∀ k < count, (s.afterPauses pause seconds k number).ready i = false

/-- **A link is not seen ready**, however many of the pauses that are left are made. -/
structure Session.Unsighted (s : Session) (pause : Nat → Run Unit)
    (length : Except Raised Binary64) (i left number : Nat) (seconds : Binary64) : Prop where
  measured : left ≠ 0 → length = .ok seconds
  unseen : ∀ k ≤ left, (s.afterPauses pause seconds k number).ready i = false

/-- **A link is seen ready or not**, unless there is a pause to be made that cannot be. -/
theorem Session.sighted_or (s : Session) (pause : Nat → Run Unit)
    (length : Except Raised Binary64) (i left number : Nat) :
    (∃ count seconds, s.Sighted pause length i left number count seconds) ∨
      (∃ seconds, s.Unsighted pause length i left number seconds) ∨
      ∃ r, length = .error r ∧ left ≠ 0 ∧ s.ready i = false := by
  cases hready : s.ready i with
  | true =>
    -- no pause is made, whatever its seconds
    exact .inl ⟨0, .zero, Nat.zero_le _, fun h => absurd rfl h, hready, nofun⟩
  | false =>
    rcases Nat.eq_zero_or_pos left with rfl | hleft
    · refine .inr (.inl ⟨.zero, fun h => absurd rfl h, fun k hk => ?_⟩)
      obtain rfl := Nat.le_zero.mp hk
      exact hready
    · cases hseconds : length with
      | error r => exact .inr (.inr ⟨r, rfl, hleft.ne', rfl⟩)
      | ok seconds =>
        by_cases hseen : ∃ k, k ≤ left ∧ (s.afterPauses pause seconds k number).ready i = true
        · obtain ⟨hcount, hfound⟩ := Nat.find_spec hseen
          refine .inl ⟨Nat.find hseen, seconds, hcount, fun _ => rfl, hfound, fun k hk => ?_⟩
          refine Bool.eq_false_iff.mpr fun h => Nat.find_min hseen hk ⟨?_, h⟩
          exact hk.le.trans hcount
        · refine .inr (.inl ⟨seconds, fun _ => rfl, fun k hk => ?_⟩)
          exact Bool.eq_false_iff.mpr fun h => hseen ⟨k, hk, h⟩

namespace Patience

/-- **The number of pauses** is the quotient of time and interval, rounded up. -/
theorem wholePauses_eq (time : Int) {interval : Int} (hinterval : 1 ≤ interval) :
    wholePauses time interval = ⌈(time : ℚ) / interval⌉₊ := by
  have hpos : (0 : Int) < interval := by omega
  rw [wholePauses, if_neg (not_le.mpr hpos), ← Int.ceil_toNat]
  congr 1
  -- the least integer that is no less than the quotient
  symm
  rw [Int.ceil_eq_iff]
  have hq : (0 : ℚ) < interval := by exact_mod_cast hpos
  have hlow := Int.ediv_mul_le (time + interval - 1) hpos.ne'
  have hhigh := Int.lt_ediv_add_one_mul_self (time + interval - 1) hpos
  set k := (time + interval - 1) / interval
  constructor
  · rw [lt_div_iff₀ hq]
    have : (k - 1) * interval < time := by
      rw [sub_mul, one_mul]
      omega
    exact_mod_cast this
  · rw [div_le_iff₀ hq]
    have : time ≤ k * interval := by
      rw [add_mul, one_mul] at hhigh
      omega
    exact_mod_cast this

end Patience

namespace Run

open Session

variable {s s' : Session} {i : Nat} {length : Except Raised Binary64} {interval : Int}
  {pause : Nat → Run Unit} {seconds : Binary64}

/-! ## Looking -/

theorem isReady_run_ready (i : Nat) (s : Session) : isReady i s = (.ok (s.ready i), s) := by
  rw [isReady_run, Scene.ready]
  cases s.handle? i <;> rfl

/-- Looking may be where a wait ends, or where it goes on. -/
theorem isReady_bind_run {α : Type} (i : Nat) (f : Bool → Run α) (s : Session) :
    (isReady i >>= f) s = f (s.ready i) s := bind_run_ok (isReady_run_ready i s) f

/-! ## Polling -/

theorem pauseSeconds_run (seconds : Binary64) (s : Session) :
    pauseSeconds (.ok seconds) s = (.ok seconds, s) := rfl

theorem pollReady_run_ready (timeout : Value) (left number : Nat) (hready : s.ready i = true) :
    pollReady i timeout length pause left number s = (.ok (), s) := by
  cases left <;> (rw [pollReady, isReady_bind_run, hready]; rfl)

/-- A look that does not find the link ready leads to a pause, if one is left. -/
theorem pollReady_run_look (timeout : Value) (left number : Nat) (hready : s.ready i = false) :
    pollReady i timeout length pause (left + 1) number s
      = (pauseSeconds length >>= fun seconds => do
          record (.paused seconds)
          pause number
          pollReady i timeout length pause left (number + 1)) s := by
  rw [pollReady, isReady_bind_run, hready, if_neg Bool.false_ne_true]

/-- The first pause raises if its length cannot be measured. -/
theorem pollReady_run_unmeasured (r : Raised) (timeout : Value) (left number : Nat)
    (hready : s.ready i = false) :
    pollReady i timeout (.error r) pause (left + 1) number s = (.error (.raised r), s) := by
  rw [pollReady_run_look timeout left number hready]
  rfl

/-- A link that was not ready when it was looked at last is given up. -/
theorem pollReady_run_zero (timeout : Value) (number : Nat) (hready : s.ready i = false) :
    pollReady i timeout length pause 0 number s = giveUp i timeout s := by
  rw [pollReady, isReady_bind_run, hready, if_neg Bool.false_ne_true]

/-- A link that is not ready is looked at again after a pause that comes to its end. -/
theorem pollReady_run_pause (hseconds : length = .ok seconds) (timeout : Value) (left : Nat)
    {number : Nat} (hend : (pause number (s.push (.paused seconds))).1 = .ok ())
    (hready : s.ready i = false) :
    pollReady i timeout length pause (left + 1) number s
      = pollReady i timeout length pause left (number + 1)
          (pause number (s.push (.paused seconds))).2 := by
  have hrun : pause number (s.push (.paused seconds))
      = (.ok (), (pause number (s.push (.paused seconds))).2) := Prod.ext hend rfl
  rw [pollReady_run_look timeout left number hready, hseconds,
    bind_run_ok (pauseSeconds_run seconds s), record_bind_run, bind_run_ok hrun]

/-- **Polling ends at the first look that finds the link ready**, if the pauses before it come to
their end. -/
theorem pollReady_run_sighted (timeout : Value) {count left number : Nat}
    (hend : s.Lasts pause seconds number count)
    (h : s.Sighted pause length i left number count seconds) :
    pollReady i timeout length pause left number s
      = (.ok (), s.afterPauses pause seconds count number) := by
  induction count generalizing left number s with
  | zero => exact pollReady_run_ready timeout left number h.seen
  | succ count ih =>
    obtain ⟨left, rfl⟩ := Nat.exists_eq_add_of_le' (Nat.one_le_of_lt h.inTime)
    obtain ⟨hfirst, hrest⟩ := lasts_succ.mp hend
    have hseconds := h.measured (Nat.succ_ne_zero count)
    have hready : s.ready i = false := h.unseen 0 (Nat.succ_pos count)
    rw [pollReady_run_pause hseconds timeout left hfirst hready]
    -- what is left is sighted one pause earlier
    exact ih hrest ⟨Nat.le_of_succ_le_succ h.inTime, fun _ => hseconds, h.seen,
      fun k hk => h.unseen (k + 1) (Nat.succ_lt_succ hk)⟩

/-- **Polling gives up after the last look**, if none of them finds the link ready and all pauses
come to their end. -/
theorem pollReady_run_unsighted (timeout : Value) {left number : Nat}
    (hend : s.Lasts pause seconds number left)
    (h : s.Unsighted pause length i left number seconds) :
    pollReady i timeout length pause left number s
      = giveUp i timeout (s.afterPauses pause seconds left number) := by
  induction left generalizing number s with
  | zero => exact pollReady_run_zero timeout number (h.unseen 0 le_rfl)
  | succ left ih =>
    obtain ⟨hfirst, hrest⟩ := lasts_succ.mp hend
    have hseconds := h.measured (Nat.succ_ne_zero left)
    have hready : s.ready i = false := h.unseen 0 (Nat.zero_le _)
    rw [pollReady_run_pause hseconds timeout left hfirst hready]
    exact ih hrest ⟨fun _ => hseconds, fun k hk => h.unseen (k + 1) (Nat.succ_le_succ hk)⟩

/-- **A wait that comes to its end** has found the link ready. -/
theorem pollReady_ok {timeout : Value} {left number : Nat}
    (h : pollReady i timeout length pause left number s = (.ok (), s')) :
    s'.ready i = true := by
  induction left generalizing number s with
  | zero =>
    cases hready : s.ready i with
    | true =>
      rw [pollReady_run_ready timeout 0 number hready] at h
      obtain ⟨-, rfl⟩ := Prod.mk.inj h
      exact hready
    | false =>
      obtain ⟨e, t, hgive⟩ := giveUp_run i timeout s
      rw [pollReady_run_zero timeout number hready, hgive] at h
      cases h
  | succ left ih =>
    cases hready : s.ready i with
    | true =>
      rw [pollReady_run_ready timeout (left + 1) number hready] at h
      obtain ⟨-, rfl⟩ := Prod.mk.inj h
      exact hready
    | false =>
      rw [pollReady_run_look timeout left number hready] at h
      cases length with
      | error r => cases h
      | ok seconds =>
        rw [bind_run_ok (pauseSeconds_run seconds s), record_bind_run, bind_run] at h
        cases hrun : pause number (s.push (.paused seconds)) with
        | mk r t =>
          rw [hrun] at h
          cases r with
          | error e => cases h
          | ok => exact ih h

/-- Pauses one after another keep what each of them keeps. -/
theorem related_afterPauses {R : Session → Session → Prop} [Lasting R]
    (hpause : ∀ k, Keeps R (pause k)) (seconds : Binary64) (count number : Nat) (hs : s.Valid) :
    R s (s.afterPauses pause seconds count number) := by
  induction count generalizing s number with
  | zero => exact Lasting.refl s
  | succ count ih =>
    have hnote : R s (s.push (.paused seconds)) := Lasting.note s rfl
    have hv := (Lasting.evolves hnote).valid hs
    have hstep := Lasting.trans hnote (hpause number _ hv)
    exact Lasting.trans hstep (ih (number + 1) ((Lasting.evolves hstep).valid hs))

/-! ## The whole wait -/

theorem writtenTime_run {n : Int} (hshort : Numeral.isShort n = true) (s : Session) :
    writtenTime (.int n) s = (.ok (toString n), s) := by
  rw [writtenTime, written_run, if_pos hshort]

/-- What a client notes before it waits. -/
def waitText (target : String) (n : Int) : String :=
  "Trying to connect to " ++ target ++ "... timeout in " ++ toString n ++ " ms"

theorem announce_run {l : Link} {n : Int} (hshort : Numeral.isShort n = true)
    (hl : s.links[i]? = some l) : announce i (.int n) s
      = (.ok (), s.noted .connection .info (waitText l.target n)) := by
  have htarget : targetOf i s = (.ok l.target, s) := by
    show (Except.ok (((s.links[i]?).map Link.target).getD ""), s) = _
    rw [hl]
    rfl
  rw [announce, bind_run_ok (writtenTime_run hshort s), bind_run_ok htarget, log_run]
  rfl

/-- A time of too many digits cannot even be announced. -/
theorem announce_run_untold {n : Int} (hshort : Numeral.isShort n = false) (i : Nat)
    (s : Session) : announce i (.int n) s
      = (.error (.raised ⟨"ValueError", Numeral.tooLongText⟩), s) := by
  have hwritten : writtenTime (.int n) s
      = (.error (.raised ⟨"ValueError", Numeral.tooLongText⟩), s) := by
    rw [writtenTime, written_run, hshort, if_neg Bool.false_ne_true]
  rw [announce, bind_run_error hwritten]

/-- **A wait for a whole number of milliseconds** is polling, as often as they last. -/
theorem waitUntilReady_run {l : Link} {n : Int} (hshort : Numeral.isShort n = true)
    (hl : s.links[i]? = some l) :
    waitUntilReady i (.int n) interval pause s
      = pollReady i (.int n) (s.environment.clock.pause interval) pause
          (Patience.wholePauses n interval) 1
          (s.noted .connection .info (waitText l.target n)) := by
  rw [waitUntilReady, bind_run_ok (announce_run hshort hl), get_bind_run, noted_toScene]
  rfl

theorem waitUntilReady_run_untold {n : Int} (hshort : Numeral.isShort n = false) :
    waitUntilReady i (.int n) interval pause s
      = (.error (.raised ⟨"ValueError", Numeral.tooLongText⟩), s) := by
  rw [waitUntilReady, bind_run_error (announce_run_untold hshort i s)]

/-- **A connection that has waited** has found its link ready, however long it was patient. -/
theorem waitUntilReady_ok {timeout : Value}
    (h : waitUntilReady i timeout interval pause s = (.ok (), s')) : s'.ready i = true := by
  rw [waitUntilReady, bind_run] at h
  cases hsaid : announce i timeout s with
  | mk r t =>
    rw [hsaid] at h
    cases r with
    | error e => cases h
    | ok =>
      have h : waitPatiently i timeout (t.environment.clock.pause interval) pause
          (.ofTime timeout interval) t = (.ok (), s') := h
      cases hpatience : Patience.ofTime timeout interval with
      | pauses n =>
        rw [hpatience, waitPatiently] at h
        exact pollReady_ok h
      | incomparable kindName =>
        rw [hpatience, waitPatiently, isReady_bind_run] at h
        cases hready : t.ready i with
        | false =>
          rw [hready, if_neg Bool.false_ne_true] at h
          cases h
        | true =>
          rw [hready, if_pos rfl] at h
          obtain ⟨-, rfl⟩ := Prod.mk.inj h
          exact hready

end Run

end VectorLink
