import VectorLink.Proofs.Phases
import VectorLink.Proofs.Runs

/-!
# What an activity may fail with

A connect can fail in many ways, and a failure does not say on its face which phase it is from. But
each phase has its own kinds of failures, and they do not mix: only choosing a target finds a handle
in the way or a port out of range, only setting a link up reports what was raised as a connect
failure, and from then on a connect fails with an exception as it was raised, or with the time being
used up (`Failure.isOfWait`). So a failure does tell its phase after all, whatever takes place in
the pauses, since the steps there keep their failures to themselves and only an interrupt gets out
(`Step.failsWith_runPauses`).

`Run.FailsWith` says that an activity fails only with failures of a kind. It asks nothing of the
session that the activity runs in, and carries over from the parts of an activity to the whole.
-/

namespace VectorLink

/-- Whether a failure may come of a wait for a link: an exception, or that the time is used up. -/
def Failure.isOfWait : Failure → Bool
  | .raised _ | .connect (.timeout _ _) => true
  | _ => false

/-- Whether a failure may come of a port that makes no sense. -/
def Failure.isOfChoice : Failure → Bool
  | .raised _ | .connect (.setup _) | .connect (.portOutOfRange _) => true
  | _ => false

namespace Run

variable {α β : Type}

/-- **An activity fails only with failures of a kind.** -/
def FailsWith (P : Failure → Prop) (x : Run α) : Prop :=
  ∀ (s : Session) (e : Failure), (x s).1 = .error e → P e

section

variable {P Q : Failure → Prop}

theorem failsWith_pure (a : α) : FailsWith P (pure a : Run α) := fun _ _ => nofun

theorem failsWith_throw {e : Failure} (he : P e) : FailsWith P (throw e : Run α) := by
  intro _ e' h
  obtain rfl := Except.error.inj h
  exact he

theorem FailsWith.mono {x : Run α} (hx : FailsWith P x) (h : ∀ e, P e → Q e) : FailsWith Q x :=
  fun s e he => h e (hx s e he)

theorem FailsWith.bind {x : Run α} {f : α → Run β} (hx : FailsWith P x)
    (hf : ∀ a, FailsWith P (f a)) : FailsWith P (x >>= f) := by
  intro s e h
  rw [bind_run] at h
  cases hrun : x s with
  | mk r s' =>
    rw [hrun] at h
    cases r with
    | error e' =>
      obtain rfl := Except.error.inj h
      exact hx s e' (congrArg Prod.fst hrun)
    | ok a => exact hf a s' e h

theorem FailsWith.ite {c : Prop} [Decidable c] {x y : Run α} (hx : FailsWith P x)
    (hy : FailsWith P y) : FailsWith P (if c then x else y) := by
  split
  · exact hx
  · exact hy

theorem failsWith_look {f : Session → Run β} (hf : ∀ s, FailsWith P (f s)) :
    FailsWith P (get >>= f) := fun s => hf s s

theorem failsWith_record (e : Event) : FailsWith P (record e) := fun _ _ => nofun

theorem failsWith_log (source : LogSource) (level : LogLevel) (message : String) :
    FailsWith P (log source level message) :=
  failsWith_look fun _ => (failsWith_record _).ite (failsWith_pure ())

end

/-! ## Waiting for a link -/

/-- **An activity fails only by raising** something. -/
abbrev OnlyRaises (x : Run α) : Prop := FailsWith (fun e => ∃ r, e = .raised r) x

theorem onlyRaises_raise (r : Raised) : OnlyRaises (raise r : Run α) := failsWith_throw ⟨r, rfl⟩

theorem onlyRaises_written (n : Int) : OnlyRaises (written n) :=
  (failsWith_pure _).ite (onlyRaises_raise _)

theorem onlyRaises_announce (i : Nat) (timeout : Value) : OnlyRaises (announce i timeout) := by
  have hwritten : OnlyRaises (writtenTime timeout) := by
    cases timeout with
    | int n => exact onlyRaises_written n
    | _ => exact failsWith_pure _
  exact hwritten.bind fun _ => (failsWith_look fun _ => failsWith_pure _).bind fun _ =>
    failsWith_log _ _ _

theorem onlyRaises_pauseSeconds (length : Except Raised Binary64) :
    OnlyRaises (pauseSeconds length) := by
  cases length with
  | error r => exact onlyRaises_raise r
  | ok seconds => exact failsWith_pure seconds

theorem onlyRaises_bindCalls (m i : Nat) : OnlyRaises (bindCalls m i) := by
  refine failsWith_look fun s => ?_
  cases s.links[i]?.bind fun l => l.behaviour.bindingRaises? with
  | some r => exact onlyRaises_raise r
  | none => exact (failsWith_record _).bind fun _ _ _ => nofun

theorem failsWith_isReady {P : Failure → Prop} (i : Nat) : FailsWith P (isReady i) :=
  failsWith_look fun _ => failsWith_pure _

/-- **An activity fails as a wait for a link does.** -/
abbrev FailsInWait (x : Run α) : Prop := FailsWith (fun e => e.isOfWait = true) x

theorem OnlyRaises.failsInWait {x : Run α} (hx : OnlyRaises x) : FailsInWait x :=
  hx.mono fun _ ⟨_, he⟩ => he ▸ rfl

theorem failsWith_giveUp (i : Nat) (timeout : Value) :
    FailsInWait (giveUp i timeout : Run α) := by
  refine failsWith_look fun s => ?_
  cases s.handle? i with
  | none => exact failsWith_throw rfl
  | some h => exact (failsWith_log _ _ _).bind fun _ => failsWith_throw rfl

section

variable {i : Nat} {timeout : Value} {length : Except Raised Binary64} {interval : Int}
  {pause : Nat → Run Unit} (hpause : ∀ k, FailsInWait (pause k))

include hpause

theorem failsWith_pollReady (left number : Nat) :
    FailsInWait (pollReady i timeout length pause left number) := by
  induction left generalizing number with
  | zero =>
    exact (failsWith_isReady i).bind fun _ => (failsWith_pure ()).ite (failsWith_giveUp i timeout)
  | succ left ih =>
    refine (failsWith_isReady i).bind fun _ => (failsWith_pure ()).ite ?_
    exact (onlyRaises_pauseSeconds length).failsInWait.bind fun _ =>
      (failsWith_record _).bind fun _ => (hpause number).bind fun _ => ih (number + 1)

theorem failsWith_waitUntilReady :
    FailsInWait (waitUntilReady i timeout interval pause) := by
  refine (onlyRaises_announce i timeout).failsInWait.bind fun _ => failsWith_look fun _ => ?_
  cases Patience.ofTime timeout interval with
  | pauses n => exact failsWith_pollReady hpause n 1
  | incomparable kindName =>
    exact (failsWith_isReady i).bind fun _ =>
      (failsWith_pure ()).ite (onlyRaises_raise _).failsInWait

/-- **Once a link is in use a connect fails as a wait does.** -/
theorem failsWith_await (m : Nat) (target : String) :
    FailsInWait (waitUntilReady i timeout interval pause >>= fun _ => bindCalls m i >>= fun _ =>
      pure target) :=
  (failsWith_waitUntilReady hpause).bind fun _ =>
    (onlyRaises_bindCalls m i).failsInWait.bind fun _ => failsWith_pure _

end

/-! ## Choosing a target -/

/-- **A manager that may connect fails to choose a target** only over its port. -/
theorem isOfChoice_of_chooseTarget {s : Session} {m : Nat} {host port : Value} {e : Failure}
    (hfree : s.mayConnect m = true) (h : (chooseTarget m host port s).1 = .error e) :
    e.isOfChoice = true := by
  have hport : FailsWith (fun e => e.isOfChoice = true) (portOf port) := by
    unfold portOf
    cases readPort port with
    | ok n => exact failsWith_pure n
    | error r =>
      exact FailsWith.ite ((failsWith_log _ _ _).bind fun _ => failsWith_throw rfl)
        (failsWith_throw rfl)
  rw [chooseTarget_run_free host port hfree] at h
  refine (hport.bind fun number => ?_) s e h
  have hwritten : FailsWith (fun e => e.isOfChoice = true) (written number) :=
    (onlyRaises_written number).mono fun _ ⟨_, he⟩ => he ▸ rfl
  have hrefuse : FailsWith (fun e => e.isOfChoice = true)
      (refuse (.portOutOfRange number) : Run PUnit) := failsWith_throw rfl
  exact (hwritten.bind fun _ => (failsWith_log _ _ _).bind fun _ =>
    hrefuse.bind fun _ => failsWith_pure _).ite (failsWith_pure _)

/-- **A manager that may connect does not find that it is connected already.** -/
theorem ne_alreadyConnected_of_establish {s : Session} {m : Nat} {host port timeout : Value}
    {behaviour : ChannelBehaviour} {pause : Nat → Run Unit} {e : Failure}
    (hpause : ∀ k, FailsInWait (pause k))
    (hfree : s.mayConnect m = true)
    (h : (establish m host port timeout behaviour pause s).1 = .error e) (target : String) :
    e ≠ .connect (.alreadyConnected target) := by
  cases hchoose : chooseTarget m host port s with
  | mk r t =>
    cases r with
    | error e' =>
      rw [establish_run_untargeted hchoose] at h
      obtain rfl := Except.error.inj h
      rintro rfl
      exact Bool.false_ne_true (isOfChoice_of_chooseTarget hfree (congrArg Prod.fst hchoose))
    | ok name =>
      obtain ⟨rfl, -⟩ := chooseTarget_ok hchoose
      cases hsetup : behaviour.setupRaises? with
      | some r =>
        obtain ⟨s', hset, -⟩ :=
          setUp_run_raised name (t.manager m).config.channelOptions hsetup t
        rw [establish_run_targeted hchoose, bind_run_error hset] at h
        obtain rfl := Except.error.inj h
        split
        · exact nofun
        · exact nofun
      | none =>
        rw [establish_run_opened hchoose hsetup] at h
        have hwait := failsWith_await hpause m name _ e h
        rintro rfl
        exact Bool.false_ne_true hwait

end Run

namespace Step

open Run

theorem exists_of_isInterrupt {step : Step} (h : step.isInterrupt = true) :
    ∃ text, step = .interrupt text := by
  cases step with
  | interrupt text => exact ⟨text, rfl⟩
  | _ => cases h

/-- An interrupt only raises. -/
theorem writtenDown_interrupt (text : String) (s : Session) :
    (interrupt text).writtenDown (perform (.interrupt text)) s
      = (.error (.raised (.interrupt text)), s) := by
  have hstep : (interrupt text).isInterrupt = true := rfl
  rw [writtenDown, if_pos hstep, perform]
  rfl

/-- **Steps may be interrupted, and fail with nothing else.** -/
theorem onlyRaises_runAll (steps : List Step) : OnlyRaises (runAll steps) := by
  induction steps with
  | nil =>
    rw [runAll]
    exact failsWith_pure ()
  | cons step steps ih =>
    rw [runAll]
    refine FailsWith.bind (fun s e h => ?_) fun _ => ih
    cases hstep : step.isInterrupt with
    | true =>
      obtain ⟨text, rfl⟩ := exists_of_isInterrupt hstep
      rw [writtenDown_interrupt] at h
      obtain rfl := Except.error.inj h
      exact ⟨_, rfl⟩
    | false =>
      rw [writtenDown_run hstep] at h
      cases h

theorem onlyRaises_runPauses (pauses : List (Nat × List Step)) (k : Nat) :
    OnlyRaises (runPauses pauses k) := by
  induction pauses with
  | nil =>
    rw [runPauses]
    exact failsWith_pure ()
  | cons pause pauses ih =>
    rw [runPauses]
    exact (onlyRaises_runAll pause.2).ite ih

theorem failsWith_runPauses (pauses : List (Nat × List Step)) (k : Nat) :
    FailsInWait (runPauses pauses k) := (onlyRaises_runPauses pauses k).failsInWait

end Step

end VectorLink
