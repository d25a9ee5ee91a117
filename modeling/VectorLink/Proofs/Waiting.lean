import VectorLink.Proofs.Polling
import VectorLink.Proofs.Requests
import VectorLink.Proofs.Rounding

/-!
# How long a wait takes

A client that waits for a link sleeps between two looks. Here is how often, and for how long, for a
wait in which anything may take place: what the wait comes to is decided by what the looks find and
by the first sleep that is interrupted (`Session.Course`), and each wait has such a course
(`Session.exists_course`).

The number of sleeps is fixed beforehand as a quotient. A client may just as well keep the time that
is left, look whether there is any, and take an interval off it after each sleep, past zero if less
was left (`Run.Polls`). Both are the same wait (`Run.polls_iff`).

A wait does not always go so. Its time may be too long to be written, and its sleeps too long for a
double or for the clock, whichever clock that is. Such a wait raises before its first sleep, unless
it needs none (`Session.CanWait`).

Sleeps are counted from the history. What takes place inside a sleep may sleep itself, so only
events outside of all brackets count (`Session.pausesUntil`).
-/

namespace VectorLink

/-- The seconds of a pause. -/
def Event.seconds? : Event → Option Binary64
  | .paused seconds => some seconds
  | _ => none

namespace Session

variable {s s' s'' : Session} {pause : Nat → Run Unit} {seconds : Binary64} {gaveUp : Failure}
  {i left number count : Nat} {answer : Except Failure Unit}

/-! ## The sleeps between two sessions -/

/-- **The seconds that were slept between an earlier and a later session**, in order. -/
def pausesUntil (s s' : Session) : List Binary64 :=
  ((ownEvents 0 (s'.history.take (s'.history.length - s.history.length))).filterMap
    Event.seconds?).reverse

/-- **What an activity slept itself.** -/
def Slept (s s' : Session) (pauses : List Binary64) : Prop :=
  ∃ events, Wrote s s' events ∧ events.filterMap Event.seconds? = pauses

theorem Slept.pausesUntil_eq {pauses : List Binary64} (h : Slept s s' pauses) :
    s.pausesUntil s' = pauses := by
  obtain ⟨events, ⟨-, part, hpart, -, rfl⟩, rfl⟩ := h
  rw [pausesUntil, hpart, List.length_append, Nat.add_sub_cancel, List.take_left,
    List.filterMap_reverse]

theorem Slept.refl (s : Session) : Slept s s [] := ⟨[], .refl s, rfl⟩

/-- **Sleeps add up** along a sequence. -/
theorem Slept.trans {pauses pauses' : List Binary64} (h : Slept s s' pauses)
    (h' : Slept s' s'' pauses') : Slept s s'' (pauses ++ pauses') := by
  obtain ⟨events, hwrote, rfl⟩ := h
  obtain ⟨events', hwrote', rfl⟩ := h'
  exact ⟨events ++ events', hwrote.trans hwrote', List.filterMap_append⟩

/-- Logging is not sleeping. -/
theorem slept_noted (s : Session) (source : LogSource) (level : LogLevel) (message : String) :
    Slept s (s.noted source level message) [] := by
  unfold noted
  split
  · exact ⟨_, wrote_push s rfl, rfl⟩
  · exact .refl s

/-- Pauses write down nothing but themselves, if their activities write down nothing. -/
theorem wrote_afterPauses
    (hpause : ∀ (k : Nat) {s : Session}, s.Valid → Wrote s (pause k s).2 [])
    (seconds : Binary64) (count number : Nat) (hs : s.Valid) :
    Wrote s (s.afterPauses pause seconds count number)
      (List.replicate count (.paused seconds)) := by
  induction count generalizing s number with
  | zero => exact .refl s
  | succ count ih =>
    have hpushed : Wrote s (s.push (.paused seconds)) [.paused seconds] := wrote_push s rfl
    have hslept := hpushed.trans (hpause number (hpushed.evolves.valid hs))
    exact hslept.trans (ih (number + 1) (hslept.evolves.valid hs))

theorem slept_afterPauses
    (hpause : ∀ (k : Nat) {s : Session}, s.Valid → Wrote s (pause k s).2 [])
    (seconds : Binary64) (count number : Nat) (hs : s.Valid) :
    Slept s (s.afterPauses pause seconds count number) (List.replicate count seconds) :=
  ⟨_, wrote_afterPauses hpause seconds count number hs, List.filterMap_replicate_of_some rfl⟩

/-! ## The course of a wait -/

/-- **The course of a wait** from a session on, by what the looks and the pauses come to: the number
of pauses that are begun, and the answer. The wait gives up with a given failure. -/
inductive Course (s : Session) (pause : Nat → Run Unit) (seconds : Binary64) (gaveUp : Failure)
    (i left number : Nat) : Nat → Except Failure Unit → Prop where
  /-- The link is first seen ready after so many pauses. -/
  | ready {count : Nat} (hcount : count ≤ left) (hlasts : s.Lasts pause seconds number count)
    (hseen : (s.afterPauses pause seconds count number).ready i = true)
    (hunseen : ∀ k < count, (s.afterPauses pause seconds k number).ready i = false) :
    Course s pause seconds gaveUp i left number count (.ok ())
  /-- No look finds the link ready, the last one included. -/
  | usedUp (hlasts : s.Lasts pause seconds number left)
    (hunseen : ∀ k ≤ left, (s.afterPauses pause seconds k number).ready i = false) :
    Course s pause seconds gaveUp i left number left (.error gaveUp)
  /-- A pause is interrupted before a look finds the link ready. -/
  | stopped {count : Nat} {e : Failure} (hcount : count < left)
    (hlasts : s.Lasts pause seconds number count)
    (hunseen : ∀ k ≤ count, (s.afterPauses pause seconds k number).ready i = false)
    (hstop : (pause (number + count)
      ((s.afterPauses pause seconds count number).push (.paused seconds))).1 = .error e) :
    Course s pause seconds gaveUp i left number (count + 1) (.error e)

/-- A course goes on after a pause as it would from there. -/
theorem Course.later (hready : s.ready i = false)
    (hend : (pause number (s.push (.paused seconds))).1 = .ok ())
    (hc : Course (pause number (s.push (.paused seconds))).2 pause seconds gaveUp i left
      (number + 1) count answer) :
    s.Course pause seconds gaveUp i (left + 1) number (count + 1) answer := by
  cases hc with
  | ready hcount hlasts hseen hunseen =>
    refine .ready (Nat.succ_le_succ hcount) (lasts_succ.mpr ⟨hend, hlasts⟩) hseen fun k hk => ?_
    cases k with
    | zero => exact hready
    | succ k => exact hunseen k (Nat.lt_of_succ_lt_succ hk)
  | usedUp hlasts hunseen =>
    refine .usedUp (lasts_succ.mpr ⟨hend, hlasts⟩) fun k hk => ?_
    cases k with
    | zero => exact hready
    | succ k => exact hunseen k (Nat.le_of_succ_le_succ hk)
  | @stopped count e hcount hlasts hunseen hstop =>
    refine .stopped (Nat.succ_lt_succ hcount) (lasts_succ.mpr ⟨hend, hlasts⟩) (fun k hk => ?_) ?_
    · cases k with
      | zero => exact hready
      | succ k => exact hunseen k (Nat.le_of_succ_le_succ hk)
    · rwa [Nat.add_succ, ← Nat.succ_add]

/-- **Every wait has a course.** -/
theorem exists_course (s : Session) (pause : Nat → Run Unit) (seconds : Binary64)
    (gaveUp : Failure) (i left number : Nat) :
    ∃ count answer, s.Course pause seconds gaveUp i left number count answer := by
  induction left generalizing s number with
  | zero =>
    cases hready : s.ready i with
    | true => exact ⟨0, _, .ready le_rfl nofun hready nofun⟩
    | false =>
      refine ⟨0, _, .usedUp nofun fun k hk => ?_⟩
      obtain rfl := Nat.le_zero.mp hk
      exact hready
  | succ left ih =>
    cases hready : s.ready i with
    | true => exact ⟨0, _, .ready (Nat.zero_le _) nofun hready nofun⟩
    | false =>
      cases hend : (pause number (s.push (.paused seconds))).1 with
      | ok =>
        obtain ⟨count, answer, hc⟩ := ih (pause number (s.push (.paused seconds))).2 (number + 1)
        exact ⟨count + 1, answer, hc.later hready hend⟩
      | error e =>
        refine ⟨1, _, .stopped (Nat.succ_pos left) nofun (fun k hk => ?_) hend⟩
        obtain rfl := Nat.le_zero.mp hk
        exact hready

/-- A pause is begun only if some are left and the first look does not find the link ready. -/
theorem Course.unready (hc : s.Course pause seconds gaveUp i left number count answer)
    (hcount : count ≠ 0) : left ≠ 0 ∧ s.ready i = false := by
  cases hc with
  | ready hle _ _ hunseen =>
    exact ⟨fun h => hcount (Nat.le_zero.mp (h ▸ hle)), hunseen 0 (Nat.pos_of_ne_zero hcount)⟩
  | usedUp _ hunseen => exact ⟨hcount, hunseen 0 (Nat.zero_le _)⟩
  | stopped hlt _ hunseen => exact ⟨Nat.ne_zero_of_lt hlt, hunseen 0 (Nat.zero_le _)⟩

/-- **A course ends well** exactly if the link is ready after some number of pauses that all come to
their end. -/
theorem Course.ok_iff (hc : s.Course pause seconds gaveUp i left number count answer) :
    answer = .ok () ↔ ∃ k ≤ left, s.Lasts pause seconds number k ∧
      (s.afterPauses pause seconds k number).ready i = true := by
  cases hc with
  | ready hcount hlasts hseen _ => exact ⟨fun _ => ⟨count, hcount, hlasts, hseen⟩, fun _ => rfl⟩
  | usedUp _ hunseen =>
    refine ⟨nofun, fun ⟨k, hk, _, hseen⟩ => ?_⟩
    exact absurd ((hunseen k hk).symm.trans hseen) Bool.false_ne_true
  | @stopped count e _ _ hunseen hstop =>
    refine ⟨nofun, fun ⟨k, _, hlasts, hseen⟩ => ?_⟩
    rcases Nat.lt_or_ge count k with hlt | hge
    · -- the pause that was interrupted would have come to its end
      cases hstop.symm.trans (hlasts count hlt)
    · exact absurd ((hunseen k hge).symm.trans hseen) Bool.false_ne_true

/-- A course that begins no pause does not end with something raised. -/
theorem Course.ne_raised {c : ConnectFailure}
    (hc : s.Course pause seconds (.connect c) i left number 0 answer) (r : Raised) :
    answer ≠ .error (.raised r) := by
  -- the number of pauses is a number of its own, so that the cases can be told apart
  generalize hzero : 0 = count at hc
  cases hc with
  | ready => exact nofun
  | usedUp => exact nofun
  | stopped => cases hzero

end Session

namespace Patience

variable {left interval : Int}

theorem wholePauses_of_nonpos (hinterval : 1 ≤ interval) (hleft : left ≤ 0) :
    wholePauses left interval = 0 := by
  have hpos : 0 < interval := by omega
  rw [wholePauses, if_neg (not_le.mpr hpos), Int.toNat_eq_zero]
  exact Int.lt_add_one_iff.mp (Int.ediv_lt_of_lt_mul hpos (by omega))

/-- **A pause uses up one interval.** -/
theorem wholePauses_of_pos (hinterval : 1 ≤ interval) (hleft : 0 < left) :
    wholePauses left interval = wholePauses (left - interval) interval + 1 := by
  have hpos : 0 < interval := by omega
  have hnonneg : 0 ≤ (left - 1) / interval := Int.ediv_nonneg (by omega) hpos.le
  have hshift : left + interval - 1 = left - 1 + 1 * interval := by omega
  have hrest : left - interval + interval - 1 = left - 1 := by omega
  rw [wholePauses, wholePauses, if_neg (not_le.mpr hpos), if_neg (not_le.mpr hpos), hrest, hshift,
    Int.add_mul_ediv_right _ _ hpos.ne']
  omega

theorem wholePauses_eq_zero_iff (hinterval : 1 ≤ interval) :
    wholePauses left interval = 0 ↔ left ≤ 0 := by
  refine ⟨fun h => not_lt.mp fun hpos => ?_, wholePauses_of_nonpos hinterval⟩
  rw [wholePauses_of_pos hinterval hpos] at h
  cases h

/-- **The pauses last as long as the time**, and less than an interval longer. -/
theorem wholePauses_lasts (hinterval : 1 ≤ interval) (hleft : 0 ≤ left) :
    left ≤ wholePauses left interval * interval ∧
      wholePauses left interval * interval < left + interval := by
  have hpos : 0 < interval := by omega
  have hnonneg : 0 ≤ (left + interval - 1) / interval := Int.ediv_nonneg (by omega) hpos.le
  have hlow := Int.ediv_mul_le (left + interval - 1) hpos.ne'
  have hhigh := Int.lt_ediv_add_one_mul_self (left + interval - 1) hpos
  rw [add_mul, one_mul] at hhigh
  rw [wholePauses, if_neg (not_le.mpr hpos), Int.toNat_of_nonneg hnonneg]
  omega

end Patience

namespace Run

open Session

variable {s s' : Session} {i : Nat} {length : Except Raised Binary64} {interval : Int}
  {pause : Nat → Run Unit} {seconds : Binary64} {left number count : Nat}
  {answer : Except Failure Unit}

/-- Polling stops with what interrupts a pause. -/
theorem pollReady_run_stopped (hseconds : length = .ok seconds) (timeout : Value) {e : Failure}
    (hcount : count < left)
    (hlasts : s.Lasts pause seconds number count)
    (hunseen : ∀ k ≤ count, (s.afterPauses pause seconds k number).ready i = false)
    (hstop : (pause (number + count)
      ((s.afterPauses pause seconds count number).push (.paused seconds))).1 = .error e) :
    pollReady i timeout length pause left number s
      = (.error e, s.afterPauses pause seconds (count + 1) number) := by
  obtain ⟨left, rfl⟩ := Nat.exists_eq_add_of_le' (Nat.one_le_of_lt hcount)
  have hready : s.ready i = false := hunseen 0 (Nat.zero_le _)
  induction count generalizing left number s with
  | zero =>
    have hrun : pause number (s.push (.paused seconds))
        = (.error e, (pause number (s.push (.paused seconds))).2) := Prod.ext hstop rfl
    rw [pollReady_run_look timeout left number hready, hseconds,
      bind_run_ok (pauseSeconds_run seconds s), record_bind_run, bind_run_error hrun]
    rfl
  | succ count ih =>
    obtain ⟨hfirst, hrest⟩ := lasts_succ.mp hlasts
    have hlt := Nat.lt_of_succ_lt_succ hcount
    obtain ⟨left, rfl⟩ := Nat.exists_eq_add_of_le' (Nat.one_le_of_lt hlt)
    rw [pollReady_run_pause hseconds timeout _ hfirst hready]
    rw [Nat.add_succ, ← Nat.succ_add] at hstop
    exact ih hrest (fun k hk => hunseen (k + 1) (Nat.succ_le_succ hk)) hstop left hlt
      (hunseen 1 (Nat.succ_le_succ (Nat.zero_le _)))

/-- **Polling follows the course of its wait**, and sleeps as often as pauses are begun. -/
theorem pollReady_run_course (hs : s.Valid) {h : Handle} (hi : s.handle? i = some h)
    (hpause : ∀ (k : Nat) {s : Session}, s.Valid → Wrote s (pause k s).2 []) {timeout : Value}
    (hc : s.Course pause seconds (.connect (.timeout h.target timeout)) i left number count answer)
    (hseconds : count ≠ 0 → length = .ok seconds) :
    ∃ s', pollReady i timeout length pause left number s = (answer, s') ∧
      s'.toScene = (s.afterPauses pause seconds count number).toScene ∧
      Slept s s' (List.replicate count seconds) := by
  have hslept := slept_afterPauses hpause seconds count number hs
  cases hc with
  | ready hcount hlasts hseen hunseen =>
    exact ⟨_, pollReady_run_sighted timeout hlasts ⟨hcount, hseconds, hseen, hunseen⟩, rfl, hslept⟩
  | usedUp hlasts hunseen =>
    obtain ⟨h', hi', he⟩ := (wrote_afterPauses hpause seconds left number hs).evolves.handle hi
    obtain ⟨text, hgive⟩ := giveUp_run_handle hi' timeout
    refine ⟨_, ?_, noted_toScene _ .connection .error text, ?_⟩
    · rw [pollReady_run_unsighted timeout hlasts ⟨hseconds, hunseen⟩, hgive, he.target]
    · have := hslept.trans (slept_noted _ .connection .error text)
      rwa [List.append_nil] at this
  | stopped hcount hlasts hunseen hstop =>
    exact ⟨_, pollReady_run_stopped (hseconds (Nat.succ_ne_zero _)) timeout hcount hlasts hunseen
      hstop, rfl, hslept⟩

/-! ## Polling by the time that is left -/

/-- **Polling by the time that is left**: a link that is not ready is given up once nothing is left,
and each pause takes an interval off. -/
inductive Polls (i : Nat) (timeout : Value) (interval : Int) (length : Except Raised Binary64)
    (pause : Nat → Run Unit) :
    Int → Nat → Session → Except Failure Unit → Session → Prop where
  | seen {left : Int} {number : Nat} {s : Session} (hready : s.ready i = true) :
    Polls i timeout interval length pause left number s (.ok ()) s
  | usedUp {left : Int} {number : Nat} {s s' : Session} {r : Except Failure Unit}
    (hready : s.ready i = false) (hleft : left ≤ 0) (hgive : giveUp i timeout s = (r, s')) :
    Polls i timeout interval length pause left number s r s'
  | unmeasured {left : Int} {number : Nat} {s : Session} {r : Raised}
    (hready : s.ready i = false) (hleft : 0 < left) (hlength : length = .error r) :
    Polls i timeout interval length pause left number s (.error (.raised r)) s
  | interrupted {left : Int} {number : Nat} {s s' : Session} {e : Failure} {seconds : Binary64}
    (hready : s.ready i = false) (hleft : 0 < left) (hlength : length = .ok seconds)
    (hstop : pause number (s.push (.paused seconds)) = (.error e, s')) :
    Polls i timeout interval length pause left number s (.error e) s'
  | slept {left : Int} {number : Nat} {s t s' : Session} {r : Except Failure Unit}
    {seconds : Binary64} (hready : s.ready i = false) (hleft : 0 < left)
    (hlength : length = .ok seconds)
    (hend : pause number (s.push (.paused seconds)) = (.ok (), t))
    (hon : Polls i timeout interval length pause (left - interval) (number + 1) t r s') :
    Polls i timeout interval length pause left number s r s'

variable {timeout : Value} {time : Int} {r : Except Failure Unit}

/-- Polling with the time that is left is polling with the pauses that it is enough for. -/
theorem Polls.run_eq (hinterval : 1 ≤ interval)
    (h : Polls i timeout interval length pause time number s r s') :
    pollReady i timeout length pause (Patience.wholePauses time interval) number s
      = (r, s') := by
  induction h with
  | seen hready => exact pollReady_run_ready timeout _ _ hready
  | usedUp hready htime hgive =>
    rw [Patience.wholePauses_of_nonpos hinterval htime, pollReady_run_zero timeout _ hready, hgive]
  | unmeasured hready htime hlength =>
    rw [Patience.wholePauses_of_pos hinterval htime, hlength,
      pollReady_run_unmeasured _ timeout _ _ hready]
  | interrupted hready htime hlength hstop =>
    rw [Patience.wholePauses_of_pos hinterval htime, pollReady_run_look timeout _ _ hready,
      hlength, bind_run_ok (pauseSeconds_run _ _), record_bind_run, bind_run_error hstop]
  | slept hready htime hlength hend _ ih =>
    rw [Patience.wholePauses_of_pos hinterval htime,
      pollReady_run_pause hlength timeout _ (congrArg Prod.fst hend) hready, hend, ih]

/-- The time that is left does not matter to a link that is ready. -/
theorem polls_of_ready (hready : s.ready i = true)
    (h : pollReady i timeout length pause left number s = (r, s')) :
    Polls i timeout interval length pause time number s r s' := by
  rw [pollReady_run_ready timeout left number hready] at h
  obtain ⟨rfl, rfl⟩ := Prod.mk.inj h
  exact .seen hready

/-- A look in vain goes on as a pause goes, if what follows the pause can be told. -/
theorem polls_of_look (hready : s.ready i = false) (htime : 0 < time)
    (hon : ∀ {t : Session}, pollReady i timeout length pause left (number + 1) t = (r, s') →
      Polls i timeout interval length pause (time - interval) (number + 1) t r s')
    (h : pollReady i timeout length pause (left + 1) number s = (r, s')) :
    Polls i timeout interval length pause time number s r s' := by
  cases hlength : length with
  | error e =>
    rw [hlength, pollReady_run_unmeasured e timeout left number hready] at h
    obtain ⟨rfl, rfl⟩ := Prod.mk.inj h
    exact .unmeasured hready htime rfl
  | ok seconds =>
    rw [pollReady_run_look timeout left number hready, hlength,
      bind_run_ok (pauseSeconds_run seconds s), record_bind_run, bind_run] at h
    rw [hlength] at hon
    cases hrun : pause number (s.push (.paused seconds)) with
    | mk ended t =>
      rw [hrun] at h
      cases ended with
      | error e =>
        obtain ⟨rfl, rfl⟩ := Prod.mk.inj h
        exact .interrupted hready htime rfl hrun
      | ok => exact .slept hready htime rfl hrun (hon h)

/-- **Both ways of polling are the same**: with the time that is left, and with the pauses that are
left. -/
theorem polls_iff (hinterval : 1 ≤ interval) :
    Polls i timeout interval length pause time number s r s' ↔
      pollReady i timeout length pause (Patience.wholePauses time interval) number s
        = (r, s') := by
  refine ⟨Polls.run_eq hinterval, ?_⟩
  -- by the number of pauses, which goes down by one while the time goes down by an interval
  generalize hn : Patience.wholePauses time interval = n
  induction n generalizing time number s with
  | zero =>
    intro h
    cases hready : s.ready i with
    | true => exact polls_of_ready hready h
    | false =>
      rw [pollReady_run_zero timeout number hready] at h
      exact .usedUp hready ((Patience.wholePauses_eq_zero_iff hinterval).mp hn) h
  | succ n ih =>
    intro h
    have htime : 0 < time := by
      refine not_le.mp fun hle => ?_
      rw [Patience.wholePauses_of_nonpos hinterval hle] at hn
      cases hn
    rw [Patience.wholePauses_of_pos hinterval htime] at hn
    cases hready : s.ready i with
    | true => exact polls_of_ready hready h
    | false => exact polls_of_look hready htime (ih (Nat.succ.inj hn)) h

end Run

/-- **A pause is rounded once**, if its milliseconds have no more digits than a double. -/
theorem Clock.pause_eq_measure (clock : Clock) {interval : Int} (hinterval : 1 ≤ interval)
    (hlt : interval < 2 ^ 53) :
    clock.pause interval = clock.measure (.ofFraction false interval.toNat 1000) := by
  obtain ⟨n, rfl⟩ := Int.eq_ofNat_of_zero_le (by omega : 0 ≤ interval)
  have hseconds : Binary64.ofIntDividedBy? n 1000 = some (.ofFraction false n 1000) :=
    Binary64.ofIntDividedBy?_eq (by omega) (by exact_mod_cast hlt) (by decide)
  rw [Clock.pause, hseconds]
  rfl

namespace Session

/-- Steps inside a pause write down nothing that is the wait's own. -/
theorem wrote_runPauses (pauses : List (Nat × List Step)) (k : Nat) {s : Session} (hs : s.Valid) :
    Wrote s (Step.runPauses pauses k s).2 [] := by
  induction pauses with
  | nil =>
    rw [Step.runPauses]
    exact .refl s
  | cons pause pauses ih =>
    rw [Step.runPauses]
    split
    · exact Run.wrote_runAll pause.2 hs
    · exact ih

/-- **Whether a wait can go as it should**: its time can be written, and its pauses can be measured,
unless it needs none. -/
def CanWait (s : Session) (i : Nat) (timeout interval : Int) : Prop :=
  Numeral.isShort timeout = true ∧
    ((s.environment.clock.pause interval).isOk = true ∨ timeout ≤ 0 ∨ s.ready i = true)

/-- The seconds of a pause that can be measured. -/
def secondsOf (s : Session) (interval : Int) : Binary64 :=
  (s.environment.clock.pause interval).toOption.getD .zero

variable {s : Session} {i : Nat} {h : Handle} {timeout interval : Int}

/-- A wait that was announced is polling from there on. -/
theorem announced_wait (hi : s.handle? i = some h) {timeout : Int}
    (hshort : Numeral.isShort timeout = true) (interval : Int) (pause : Nat → Run Unit) :
    ∃ text, (Run.announce i (.int timeout) s).2 = s.noted .connection .info text ∧
      Run.waitUntilReady i (.int timeout) interval pause s
        = Run.pollReady i (.int timeout) (s.environment.clock.pause interval) pause
            (Patience.wholePauses timeout interval) 1 (Run.announce i (.int timeout) s).2 := by
  obtain ⟨l, hl, -⟩ := handle?_eq_some.mp hi
  have htold := Run.announce_run hshort hl
  refine ⟨Run.waitText l.target timeout, congrArg Prod.snd htold, ?_⟩
  rw [Run.waitUntilReady_run hshort hl, htold]

/-- **A wait that can go as it should** follows its course. -/
theorem CanWait.follows (hcan : s.CanWait i timeout interval) (hs : s.Valid)
    (hi : s.handle? i = some h) (hinterval : 1 ≤ interval) (pauses : List (Nat × List Step))
    {count : Nat} {answer : Except Failure Unit}
    (hc : (Run.announce i (.int timeout) s).2.Course (Step.runPauses pauses)
      (s.secondsOf interval) (.connect (.timeout h.target (.int timeout))) i
      (Patience.wholePauses timeout interval) 1 count answer) :
    ∃ s', Run.waitUntilReady i (.int timeout) interval (Step.runPauses pauses) s = (answer, s') ∧
      s'.toScene = ((Run.announce i (.int timeout) s).2.afterPauses (Step.runPauses pauses)
        (s.secondsOf interval) count 1).toScene ∧
      Slept s s' (List.replicate count (s.secondsOf interval)) := by
  obtain ⟨hshort, hable⟩ := hcan
  obtain ⟨text, htold, hwait⟩ :=
    announced_wait hi hshort interval (Step.runPauses pauses)
  rw [hwait]
  rw [htold] at hc ⊢
  have hready : (s.noted .connection .info text).ready i = s.ready i := by rw [noted_toScene]
  have hmeasured : count ≠ 0 → s.environment.clock.pause interval = .ok (s.secondsOf interval) := by
    intro hcount
    obtain ⟨hleft, hunready⟩ := hc.unready hcount
    obtain hok | hnone | hseen := hable
    · unfold secondsOf
      cases hx : s.environment.clock.pause interval with
      | ok x => rfl
      | error r => rw [hx] at hok; cases hok
    · exact absurd (Patience.wholePauses_of_nonpos hinterval hnone) hleft
    · rw [hready, hseen] at hunready
      cases hunready
  have hslept := slept_noted s .connection .info text
  have hi' : (s.noted .connection .info text).handle? i = some h := by rw [noted_toScene, hi]
  have hs' : (s.noted .connection .info text).Valid := by
    obtain ⟨_, hwrote, -⟩ := hslept
    exact hwrote.evolves.valid hs
  obtain ⟨s', hrun, hscene, hpauses⟩ :=
    Run.pollReady_run_course hs' hi' (wrote_runPauses pauses) hc hmeasured
  exact ⟨s', hrun, hscene, hslept.trans hpauses⟩

/-- A wait that cannot go as it should, although its time can be written, raises before its first
pause. -/
theorem waitUntilReady_run_unmeasured (hi : s.handle? i = some h) (hinterval : 1 ≤ interval)
    (hshort : Numeral.isShort timeout = true) (hcannot : ¬s.CanWait i timeout interval)
    (pause : Nat → Run Unit) :
    ∃ r, s.environment.clock.pause interval = .error r ∧
      Run.waitUntilReady i (.int timeout) interval pause s
        = (.error (.raised r), (Run.announce i (.int timeout) s).2) := by
  obtain ⟨text, htold, hwait⟩ := announced_wait hi hshort interval pause
  simp only [CanWait, hshort, true_and, not_or, Bool.not_eq_true, not_le] at hcannot
  obtain ⟨hmeasured, hpos, hready⟩ := hcannot
  have hunready : (Run.announce i (.int timeout) s).2.ready i = false := by
    rw [htold, noted_toScene, hready]
  rw [hwait, Patience.wholePauses_of_pos hinterval hpos]
  cases hlength : s.environment.clock.pause interval with
  | ok seconds => rw [hlength] at hmeasured; cases hmeasured
  | error r => exact ⟨r, rfl, Run.pollReady_run_unmeasured r _ _ 1 hunready⟩

/-- A wait that cannot go as it should raises before its first pause. -/
theorem waitUntilReady_raises (hi : s.handle? i = some h) (hinterval : 1 ≤ interval)
    (hcannot : ¬s.CanWait i timeout interval) (pause : Nat → Run Unit) :
    ∃ r s', Run.waitUntilReady i (.int timeout) interval pause s = (.error (.raised r), s') ∧
      Slept s s' [] := by
  cases hshort : Numeral.isShort timeout with
  | false => exact ⟨_, _, Run.waitUntilReady_run_untold hshort, .refl s⟩
  | true =>
    obtain ⟨text, htold, -⟩ := announced_wait hi hshort interval pause
    obtain ⟨r, -, hrun⟩ := waitUntilReady_run_unmeasured hi hinterval hshort hcannot pause
    refine ⟨r, _, hrun, ?_⟩
    rw [htold]
    exact slept_noted s .connection .info text

/-- **Waits go as their courses say exactly if they can.** -/
theorem canWait_iff_follows (hs : s.Valid) (hi : s.handle? i = some h) (hinterval : 1 ≤ interval)
    (pauses : List (Nat × List Step)) {count : Nat} {answer : Except Failure Unit}
    (hc : (Run.announce i (.int timeout) s).2.Course (Step.runPauses pauses)
      (s.secondsOf interval) (.connect (.timeout h.target (.int timeout))) i
      (Patience.wholePauses timeout interval) 1 count answer) :
    let x := Run.waitUntilReady i (.int timeout) interval (Step.runPauses pauses) s
    s.CanWait i timeout interval ↔ x.1 = answer ∧
      x.2.toScene = ((Run.announce i (.int timeout) s).2.afterPauses (Step.runPauses pauses)
        (s.secondsOf interval) count 1).toScene ∧
      s.pausesUntil x.2 = List.replicate count (s.secondsOf interval) := by
  intro x
  constructor
  · intro hcan
    obtain ⟨s', hrun, hscene, hslept⟩ := hcan.follows hs hi hinterval pauses hc
    have hx : x = (answer, s') := hrun
    rw [hx]
    exact ⟨rfl, hscene, hslept.pausesUntil_eq⟩
  · -- a wait that raises beforehand begins no pause, and no course without pauses raises
    rintro ⟨hanswer, -, hpauses⟩
    by_contra hcannot
    obtain ⟨r, s', hrun, hslept⟩ :=
      waitUntilReady_raises hi hinterval hcannot (Step.runPauses pauses)
    have hx : x = (.error (.raised r), s') := hrun
    rw [hx] at hanswer hpauses
    obtain rfl : count = 0 := by
      have := congrArg List.length (hslept.pausesUntil_eq.symm.trans hpauses)
      rwa [List.length_replicate, List.length_nil, eq_comm] at this
    exact hc.ne_raised r hanswer.symm

/-- **A wait takes as long as its course says.** It looks before every pause and once more after the
last, pauses as often as the quotient of time and interval, rounded up, and stops at the first look
that finds the link ready. A wait that cannot go so raises before its first pause. -/
theorem polls_exactly (hs : s.Valid) (hi : s.handle? i = some h) (hinterval : 1 ≤ interval)
    (timeout : Int) (pauses : List (Nat × List Step)) :
    let pause := Step.runPauses pauses
    let length := s.environment.clock.pause interval
    let seconds := s.secondsOf interval
    let most := ⌈(timeout : ℚ) / interval⌉₊
    let told := (Run.announce i (.int timeout) s).2
    let gaveUp : Failure := .connect (.timeout h.target (.int timeout))
    let x := Run.waitUntilReady i (.int timeout) interval pause s
    (∃ count answer, told.Course pause seconds gaveUp i most 1 count answer) ∧
      (∀ count answer, told.Course pause seconds gaveUp i most 1 count answer →
        (answer = .ok () ↔ ∃ k ≤ most, told.Lasts pause seconds 1 k ∧
          (told.afterPauses pause seconds k 1).ready i = true) ∧
        (s.CanWait i timeout interval ↔ x.1 = answer ∧
          x.2.toScene = (told.afterPauses pause seconds count 1).toScene ∧
          s.pausesUntil x.2 = List.replicate count seconds)) ∧
      (Numeral.isShort timeout = false →
        x = (.error (.raised ⟨"ValueError", Numeral.tooLongText⟩), s)) ∧
      (Numeral.isShort timeout = true → ¬s.CanWait i timeout interval →
        ∃ r, length = .error r ∧ x = (.error (.raised r), told)) ∧
      (Numeral.isShort timeout = true → ∀ r s',
        Run.Polls i (.int timeout) interval length pause timeout 1 told r s' ↔ x = (r, s')) ∧
      (interval < 2 ^ 53 → length
        = s.environment.clock.measure (.ofFraction false interval.toNat 1000)) ∧
      (0 ≤ timeout → timeout ≤ most * interval ∧ most * interval < timeout + interval) := by
  intro pause length seconds most told gaveUp x
  have hmost : Patience.wholePauses timeout interval = most :=
    Patience.wholePauses_eq timeout hinterval
  refine ⟨exists_course told pause seconds gaveUp i most 1, fun count answer hc => ⟨hc.ok_iff, ?_⟩,
    fun hlong => Run.waitUntilReady_run_untold hlong,
    fun hshort hcannot => waitUntilReady_run_unmeasured hi hinterval hshort hcannot pause,
    fun hshort r s' => ?_, fun hlt => ?_, fun htime => ?_⟩
  · rw [← hmost] at hc
    exact canWait_iff_follows hs hi hinterval pauses hc
  · obtain ⟨text, -, hwait⟩ := announced_wait hi hshort interval pause
    rw [Run.polls_iff hinterval]
    exact (congrArg (· = (r, s')) hwait.symm).to_iff
  · exact Clock.pause_eq_measure s.environment.clock hinterval hlt
  · have hlasts := Patience.wholePauses_lasts hinterval htime
    rwa [hmost] at hlasts

/-- A manager whose link has not become ready in time. -/
def idleSession : Session :=
  (withManager .bare .standard).after
    [.connectManager (.text "host") (.int 1) (.int 0) ⟨some "IDLE", none, none, none, none⟩ []]

/-- The link is ready for a moment in the first of three pauses, and again in the last, which goes
past the time. -/
def briefPauses : List (Nat × List Step) :=
  [(1, [.notify 0 "READY" false, .notify 0 "IDLE" false]), (3, [.notify 0 "READY" false])]

/-- A moment between two looks is not seen, and the look after the last pause counts. A pause of
more years than the clock of the system can count raises instead. -/
theorem polls_exactly_briefly :
    let pause := Step.runPauses briefPauses
    let seconds := idleSession.secondsOf 100
    let most := ⌈((250 : Int) : ℚ) / (100 : Int)⌉₊
    let told := (Run.announce 0 (.int 250) idleSession).2
    let gaveUp : Failure := .connect (.timeout "host:1" (.int 250))
    let x := Run.waitUntilReady 0 (.int 250) 100 pause idleSession
    (idleSession.active < idleSession.managers.length ∧
        idleSession.handle? 0 = some ⟨"host:1", .idle, 0, false, false⟩ ∧ x.1.toBool = true ∧
        idleSession.pausesUntil x.2 = List.replicate 3 seconds) ∧
      (∃ count answer, told.Course pause seconds gaveUp 0 most 1 count answer) ∧
      (∀ count answer, told.Course pause seconds gaveUp 0 most 1 count answer →
        (idleSession.CanWait 0 250 100 ↔ x.1 = answer ∧
          x.2.toScene = (told.afterPauses pause seconds count 1).toScene ∧
          idleSession.pausesUntil x.2 = List.replicate count seconds)) ∧
      (∀ r s', Run.Polls 0 (.int 250) 100 (.ok seconds) pause 250 1 told r s' ↔ x = (r, s')) ∧
      Run.waitUntilReady 0 (.int 250) 9223372036855 pause idleSession
        = (.error (.raised Clock.notCounted), told) := by
  have hs : idleSession.active < idleSession.managers.length := by decide +kernel
  have hi : idleSession.handle? 0 = some ⟨"host:1", .idle, 0, false, false⟩ := by decide +kernel
  obtain ⟨hexists, hcourse, -, -, hpolls, -⟩ :=
    polls_exactly hs hi (by decide : (1 : Int) ≤ 100) 250 briefPauses
  have hshort : Numeral.isShort 250 = true := by decide +kernel
  have hlength : idleSession.environment.clock.pause 9223372036855 = .error Clock.notCounted := by
    decide +kernel
  have hcannot : ¬idleSession.CanWait 0 250 9223372036855 := by
    rw [CanWait, hlength]
    decide +kernel
  obtain ⟨-, -, -, hraises, -⟩ :=
    polls_exactly hs hi (by decide : (1 : Int) ≤ 9223372036855) 250 briefPauses
  obtain ⟨r, hr, hrun⟩ := hraises hshort hcannot
  obtain rfl : Clock.notCounted = r := Except.error.inj (hlength.symm.trans hr)
  exact ⟨⟨hs, hi, by decide +kernel⟩, hexists, fun count answer hc => (hcourse count answer hc).2,
    hpolls hshort, hrun⟩

end Session

end VectorLink
