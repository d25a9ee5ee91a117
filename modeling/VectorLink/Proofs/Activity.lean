import VectorLink.Client.Call
import VectorLink.Client.Connect
import VectorLink.Proofs.Evolution

/-!
# What activities keep

An activity changes a session step by step and may stop anywhere. To say that it respects some law
of the client is to say that the session before and the session after stand in a relation, whatever
comes of the activity. If the relation is a preorder then it carries over from the parts of an
activity to the whole: to sequences, to what is done in either case, and to loops.

`Run.Lasting` is what is asked of such a relation, and `Run.Keeps` says that an activity respects
it. A relation may be of the form "if this held before then it holds after", so invariants are
covered too. Only valid sessions matter, in which the manager in use exists.
-/

namespace VectorLink

/-- Whether an event is a mere note, which no handle, link or manager has a part in. -/
def Event.isNote : Event → Bool
  | .logged _ _ _ | .paused _ | .waited _ => true
  | _ => false

namespace Run

variable {α β : Type}

/-! ## Running an activity -/

@[simp] theorem pure_run (a : α) (s : Session) : (pure a : Run α) s = (.ok a, s) := rfl

@[simp] theorem throw_run (e : Failure) (s : Session) : (throw e : Run α) s = (.error e, s) := rfl

@[simp] theorem raise_run (r : Raised) (s : Session) :
    (raise r : Run α) s = (.error (.raised r), s) := rfl

@[simp] theorem refuse_run (c : ConnectFailure) (s : Session) :
    (refuse c : Run α) s = (.error (.connect c), s) := rfl

@[simp] theorem get_run (s : Session) : (get : Run Session) s = (.ok s, s) := rfl

@[simp] theorem record_run (e : Event) (s : Session) : record e s = (.ok (), s.push e) := rfl

@[simp] theorem changeLink_run (i : Nat) (f : Link → Link) (s : Session) :
    changeLink i f s = (.ok (), s.changeLink i f) := rfl

@[simp] theorem changeManager_run (m : Nat) (f : Manager → Manager) (s : Session) :
    changeManager m f s = (.ok (), s.changeManager m f) := rfl

/-- A sequence stops where its first part stops. -/
theorem bind_run (x : Run α) (f : α → Run β) (s : Session) :
    (x >>= f) s = match x s with
      | (.ok a, s') => f a s'
      | (.error e, s') => (.error e, s') := by
  show (ExceptT.bindCont f (x s).1 (x s).2) = _
  obtain ⟨r, s'⟩ := x s
  cases r <;> rfl

theorem bind_run_ok {x : Run α} {s s' : Session} {a : α} (hx : x s = (.ok a, s'))
    (f : α → Run β) : (x >>= f) s = f a s' := by rw [bind_run, hx]

theorem bind_run_error {x : Run α} {s s' : Session} {e : Failure} (hx : x s = (.error e, s'))
    (f : α → Run β) : (x >>= f) s = (.error e, s') := by rw [bind_run, hx]

theorem bind_run_congr {x y : Run α} {s s' : Session} (h : x s = y s') (f : α → Run β) :
    (x >>= f) s = (y >>= f) s' := by rw [bind_run, h, ← bind_run]

@[simp] theorem pure_bind_run (a : α) (f : α → Run β) (s : Session) :
    (pure a >>= f : Run β) s = f a s := rfl

@[simp] theorem get_bind_run (f : Session → Run β) (s : Session) :
    (get >>= f : Run β) s = f s s := rfl

@[simp] theorem modify_bind_run (g : Session → Session) (f : Unit → Run β) (s : Session) :
    (modify g >>= f : Run β) s = f () (g s) := rfl

@[simp] theorem raise_bind_run (r : Raised) (f : α → Run β) (s : Session) :
    ((raise r : Run α) >>= f) s = (.error (.raised r), s) := rfl

@[simp] theorem record_bind_run (e : Event) (f : Unit → Run β) (s : Session) :
    (record e >>= f) s = f () (s.push e) := rfl

@[simp] theorem changeLink_bind_run (i : Nat) (g : Link → Link) (f : Unit → Run β)
    (s : Session) : (changeLink i g >>= f) s = f () (s.changeLink i g) := rfl

@[simp] theorem attempt_run (x : Run α) (s : Session) :
    attempt x s = (.ok (x s).1, (x s).2) := rfl

/-- What is done in either case comes last, and only its failure counts before the outcome. -/
theorem andFinally_run (x : Run α) (after : Run Unit) (s : Session) :
    andFinally x after s = match after (x s).2 with
      | (.ok (), s') => ((x s).1, s')
      | (.error e, s') => (.error e, s') := by
  show (attempt x >>= fun r => after >>= fun _ => resume r) s = _
  rw [bind_run_ok (attempt_run x s), bind_run]
  cases after (x s).2 with
  | mk r s' => cases r <;> rfl

theorem andFinally_congr {x y : Run α} {s s' : Session} (h : x s = y s') (after : Run Unit) :
    andFinally x after s = andFinally y after s' := by rw [andFinally_run, h, ← andFinally_run]

/-- What is done in either case comes last. -/
theorem andFinally_snd (x : Run α) (after : Run Unit) (s : Session) :
    (andFinally x after s).2 = (after (x s).2).2 := by
  rw [andFinally_run]
  obtain ⟨r, s'⟩ := after (x s).2
  cases r <;> rfl

/-- An outcome that is no failure comes from the activity itself. -/
theorem andFinally_ok {x : Run α} {after : Run Unit} {s : Session} {a : α}
    (h : (andFinally x after s).1 = .ok a) : (x s).1 = .ok a := by
  rw [andFinally_run] at h
  cases hafter : after (x s).2 with
  | mk r s' =>
    rw [hafter] at h
    cases r with
    | ok => exact h
    | error e => cases h

/-- A busy manager excludes the activity; a free one is busy while it takes place. -/
theorem exclusively_run (m : Nat) (x : Run α) (s : Session) :
    exclusively m x s = if (s.manager m).isBusy then (.error .busy, s) else
      andFinally x (changeManager m fun mgr => { mgr with isBusy := false })
        (s.changeManager m fun mgr => { mgr with isBusy := true }) := by
  rw [exclusively, get_bind_run]
  cases (s.manager m).isBusy <;> rfl

/-! ## Logging -/

end Run

/-- A session after a log record, which is written only if its level is logged. -/
def Session.noted (s : Session) (source : LogSource) (level : LogLevel) (message : String) :
    Session :=
  if s.threshold.weight ≤ level.weight then s.push (.logged source level message) else s

@[simp] theorem Session.noted_toScene (s : Session) (source : LogSource) (level : LogLevel)
    (message : String) : (s.noted source level message).toScene = s.toScene := by
  unfold noted
  split <;> rfl

namespace Run

variable {α β : Type}

@[simp] theorem log_run (source : LogSource) (level : LogLevel) (message : String)
    (s : Session) : log source level message s = (.ok (), s.noted source level message) := by
  rw [log, get_bind_run, Session.noted]
  split <;> rfl

@[simp] theorem log_bind_run (source : LogSource) (level : LogLevel) (message : String)
    (f : Unit → Run β) (s : Session) :
    (log source level message >>= f) s = f () (s.noted source level message) :=
  bind_run_ok (log_run source level message s) f

/-! ## Keeping a relation -/

/-- **A relation between an earlier and a later session** that can be followed along an activity: a
preorder, at least as fine as evolving, in which mere notes change nothing. -/
class Lasting (R : Session → Session → Prop) : Prop where
  refl : ∀ s, R s s
  trans : ∀ {a b c}, R a b → R b c → R a c
  evolves : ∀ {a b}, R a b → a.Evolves b
  note : ∀ s {e : Event}, e.isNote = true → R s (s.push e)

/-- **An activity keeps a relation** if the sessions before and after it are always related, also
when it fails. -/
def Keeps (R : Session → Session → Prop) (x : Run α) : Prop :=
  ∀ s : Session, s.Valid → R s (x s).2

variable {R : Session → Session → Prop} [Lasting R]

omit [Lasting R] in
theorem Keeps.related {x : Run α} (hx : Keeps R x) {s s' : Session} (hs : s.Valid)
    {r : Except Failure α} (h : x s = (r, s')) : R s s' := by
  have := hx s hs
  rwa [h] at this

theorem keeps_pure (a : α) : Keeps R (pure a : Run α) := fun s _ => Lasting.refl s

theorem keeps_throw (e : Failure) : Keeps R (throw e : Run α) := fun s _ => Lasting.refl s

theorem keeps_raise (r : Raised) : Keeps R (raise r : Run α) := keeps_throw _

theorem keeps_refuse (c : ConnectFailure) : Keeps R (refuse c : Run α) := keeps_throw _

theorem keeps_resume (r : Except Failure α) : Keeps R (resume r) := fun s _ => Lasting.refl s

/-- A sequence run from one session, where its first part came to its end there. -/
theorem related_bind {x : Run α} {f : α → Run β} {s : Session} (hx : R s (x s).2)
    (hf : ∀ a s', x s = (.ok a, s') → R s' (f a s').2) : R s ((x >>= f) s).2 := by
  rw [bind_run]
  cases h : x s with
  | mk r s' =>
    rw [h] at hx
    cases r with
    | ok a => exact Lasting.trans hx (hf a s' h)
    | error e => exact hx

theorem Keeps.bind {x : Run α} {f : α → Run β} (hx : Keeps R x) (hf : ∀ a, Keeps R (f a)) :
    Keeps R (x >>= f) := by
  intro s hs
  refine related_bind (hx s hs) fun a s' h => hf a s' ?_
  have hR : R s (x s).2 := hx s hs
  rw [h] at hR
  exact (Lasting.evolves hR).valid hs

omit [Lasting R] in
/-- An activity that looks at the session first need only do well from the session that it sees. -/
theorem keeps_get_bind {f : Session → Run β} (hf : ∀ s : Session, s.Valid → R s (f s s).2) :
    Keeps R (get >>= f) := hf

omit [Lasting R] in
/-- Looking at the session changes nothing. -/
theorem keeps_look {f : Session → Run β} (hf : ∀ s, Keeps R (f s)) : Keeps R (get >>= f) :=
  keeps_get_bind fun s hs => hf s s hs

omit [Lasting R] in
theorem keeps_modify {f : Session → Session} (hf : ∀ s : Session, s.Valid → R s (f s)) :
    Keeps R (modify f : Run Unit) := hf

omit [Lasting R] in
theorem Keeps.attempt {x : Run α} (hx : Keeps R x) : Keeps R (attempt x) := hx

theorem Keeps.andFinally {x : Run α} {after : Run Unit} (hx : Keeps R x)
    (ha : Keeps R after) : Keeps R (andFinally x after) :=
  hx.attempt.bind fun r => ha.bind fun _ => keeps_resume r

omit [Lasting R] in
theorem Keeps.ite {c : Prop} [Decidable c] {x y : Run α} (hx : Keeps R x) (hy : Keeps R y) :
    Keeps R (if c then x else y) := by
  split
  · exact hx
  · exact hy

theorem related_noted (s : Session) (source : LogSource) (level : LogLevel)
    (message : String) : R s (s.noted source level message) := by
  unfold Session.noted
  split
  · exact Lasting.note s rfl
  · exact Lasting.refl s

theorem keeps_note {e : Event} (he : e.isNote = true) : Keeps R (record e) :=
  fun s _ => Lasting.note s he

theorem keeps_log (source : LogSource) (level : LogLevel) (message : String) :
    Keeps R (log source level message) :=
  keeps_look fun _ => (keeps_note rfl).ite (keeps_pure ())

/-! ## The parts of an activity that only look and note -/

theorem keeps_targetOf (link : Nat) : Keeps R (targetOf link) :=
  keeps_look fun _ => keeps_pure _

theorem keeps_isReady (link : Nat) : Keeps R (isReady link) :=
  keeps_look fun _ => keeps_pure _

theorem keeps_isIdle (link : Nat) : Keeps R (isIdle link) :=
  keeps_look fun _ => keeps_pure _

theorem keeps_giveUp (link : Nat) (timeout : Value) :
    Keeps R (giveUp link timeout : Run α) := by
  refine keeps_look fun s => ?_
  cases s.handle? link with
  | none => exact keeps_refuse _
  | some h => exact (keeps_log _ _ _).bind fun _ => keeps_refuse _

theorem keeps_pauseSeconds (length : Except Raised Binary64) : Keeps R (pauseSeconds length) := by
  cases length with
  | error r => exact keeps_raise r
  | ok seconds => exact keeps_pure seconds

theorem keeps_measureWait (link : Nat) (timeout : Value) : Keeps R (measureWait link timeout) := by
  refine (keeps_isIdle link).bind fun _ => Keeps.ite (keeps_look fun s => ?_) (keeps_pure ())
  cases s.environment.clock.waitRaises? timeout with
  | some r => exact keeps_raise r
  | none => exact keeps_pure ()

theorem keeps_portOf (port : Value) : Keeps R (portOf port) := by
  unfold portOf
  cases readPort port with
  | ok n => exact keeps_pure n
  | error r => exact ((keeps_log _ _ _).bind fun _ => keeps_refuse _).ite (keeps_raise r)

theorem keeps_written (n : Int) : Keeps R (written n) := (keeps_pure _).ite (keeps_raise _)

theorem keeps_writtenTime (timeout : Value) : Keeps R (writtenTime timeout) := by
  cases timeout with
  | int n => exact keeps_written n
  | _ => exact keeps_pure _

theorem keeps_chooseTarget (m : Nat) (host port : Value) :
    Keeps R (chooseTarget m host port) := by
  have hport : Keeps R (do
      let number ← portOf port
      if number < 0 || greatestPort < number then
        log .connection .error ("Connect failed! Port " ++ (← written number) ++ " out of range")
        refuse (.portOutOfRange number)
      return host.plain ++ ":" ++ toString number) :=
    (keeps_portOf port).bind fun number =>
      ((keeps_written number).bind fun _ => (keeps_log _ _ _).bind fun _ =>
        (keeps_refuse _).bind fun _ => keeps_pure _).ite (keeps_pure _)
  refine keeps_look fun s => ?_
  cases s.current? m with
  | none => exact hport
  | some h =>
    exact ((keeps_log _ _ _).bind fun _ => (keeps_refuse _).bind fun _ => hport).ite hport

theorem keeps_announce (link : Nat) (timeout : Value) : Keeps R (announce link timeout) :=
  (keeps_writtenTime timeout).bind fun _ => (keeps_targetOf link).bind fun _ => keeps_log _ _ _

theorem keeps_decline (link : Nat) (methodName : String) : Keeps R (decline link methodName) :=
  (keeps_targetOf link).bind fun _ => (keeps_log _ _ _).bind fun _ => keeps_pure _

theorem keeps_conclude (op : Operation) (outcome : CallOutcome) : Keeps R (conclude op outcome) :=
  (keeps_log _ _ _).bind fun _ => keeps_pure _

/-- An operation keeps what its call keeps. -/
theorem keeps_operate {m : Nat} {op : Operation} {during : Run Unit} {response : Response}
    (hdispatch : ∀ (i : Nat) (name : String) (request : Wire.Octets),
      Keeps R (dispatch i name request during response)) :
    Keeps R (operate m op during response) := by
  refine keeps_look fun _ => ((keeps_log _ _ _).bind fun _ => keeps_pure _).ite ?_
  cases op.request with
  | error e => exact keeps_throw _
  | ok message =>
    refine keeps_look fun s => ?_
    cases (s.manager m).dispatcher? with
    | none => exact keeps_conclude op .notIssued
    | some i => exact (hdispatch i _ _).bind (keeps_conclude op)

theorem keeps_welcome (target : String) : Keeps R (welcome target) :=
  (keeps_log _ _ _).bind fun _ => keeps_pure _

theorem keeps_outlasted (m : Nat) : Keeps R (outlasted m) :=
  keeps_look fun _ => keeps_look fun _ => keeps_look fun _ =>
    (keeps_log _ _ _).bind fun _ => keeps_pure _

theorem keeps_farewell (i : Nat) (ended : Bool) :
    Keeps R (farewell i ended) :=
  Keeps.ite ((keeps_targetOf i).bind fun _ => (keeps_log _ _ _).bind fun _ => keeps_pure _)
    (keeps_pure none)

theorem keeps_partFrom (m : Nat) (r? : Option Result) : Keeps R (partFrom m r?) := by
  cases r? with
  | some r => exact keeps_pure r
  | none => exact keeps_outlasted m

/-! ## Waiting -/

theorem keeps_pollReady {link : Nat} {timeout : Value} {length : Except Raised Binary64}
    {pause : Nat → Run Unit} (hpause : ∀ k, Keeps R (pause k)) (left number : Nat) :
    Keeps R (pollReady link timeout length pause left number) := by
  induction left generalizing number with
  | zero => exact (keeps_isReady link).bind fun _ => (keeps_pure ()).ite (keeps_giveUp link timeout)
  | succ left ih =>
    exact (keeps_isReady link).bind fun _ => (keeps_pure ()).ite <|
      (keeps_pauseSeconds length).bind fun _ => (keeps_note rfl).bind fun _ =>
        (hpause number).bind fun _ => ih (number + 1)

theorem keeps_waitPatiently {link : Nat} {timeout : Value} {length : Except Raised Binary64}
    {pause : Nat → Run Unit} (hpause : ∀ k, Keeps R (pause k)) (patience : Patience) :
    Keeps R (waitPatiently link timeout length pause patience) := by
  cases patience with
  | pauses n => exact keeps_pollReady hpause n 1
  | incomparable kindName =>
    exact (keeps_isReady link).bind fun _ => (keeps_pure ()).ite (keeps_raise _)

theorem keeps_waitUntilReady {link : Nat} {timeout : Value} {interval : Int}
    {pause : Nat → Run Unit} (hpause : ∀ k, Keeps R (pause k)) :
    Keeps R (waitUntilReady link timeout interval pause) :=
  (keeps_announce link timeout).bind fun _ => keeps_look fun _ => keeps_waitPatiently hpause _

theorem keeps_waitIdle {link : Nat} {during : List (Run Unit)}
    (hduring : ∀ x ∈ during, Keeps R x) : Keeps R (waitIdle link during) := by
  induction during with
  | nil => exact keeps_isIdle link
  | cons x rest ih =>
    exact (keeps_isIdle link).bind fun _ => (keeps_pure true).ite <|
      (hduring x List.mem_cons_self).bind fun _ =>
        ih fun y hy => hduring y (List.mem_cons_of_mem x hy)

theorem keeps_awaitTermination {link : Nat} {timeout : Value} {during : List (Run Unit)}
    (hclose : Keeps R (close link)) (hduring : ∀ x ∈ during, Keeps R x) :
    Keeps R (awaitTermination link timeout during) :=
  (keeps_note rfl).bind fun _ => (keeps_measureWait link timeout).bind fun _ =>
    (keeps_waitIdle hduring).bind fun _ => (hclose.bind fun _ => keeps_pure _).ite (keeps_pure _)

/-! ## Connecting, from its parts -/

theorem keeps_setUp {target : String} {options : ChannelOptions} {behaviour : ChannelBehaviour}
    (hmake : Keeps R (makeLink target options behaviour)) :
    Keeps R (setUp target options behaviour) := by
  refine hmake.attempt.bind fun r => ?_
  match r with
  | .ok link => exact keeps_pure link
  | .error (.raised r) =>
    exact ((keeps_log _ _ _).bind fun _ => keeps_refuse _).ite (keeps_raise r)
  | .error (.connect _) | .error (.invalid _) | .error (.load _) | .error (.request _)
  | .error .unreadableRequest | .error .busy | .error (.absent _) => exact keeps_throw _

/-- An activity that excludes others also keeps what marking its manager busy keeps. -/
theorem Keeps.exclusively {m : Nat} {x : Run α}
    (hbusy : ∀ (s : Session) (b : Bool), s.Valid →
      R s (s.changeManager m fun mgr => { mgr with isBusy := b }))
    (hx : Keeps R x) : Keeps R (exclusively m x) :=
  keeps_look fun _ =>
    ((keeps_throw _).bind fun _ => (keeps_modify fun s hs => hbusy s true hs).bind fun _ =>
        hx.andFinally (keeps_modify fun s hs => hbusy s false hs)).ite
      ((keeps_modify fun s hs => hbusy s true hs).bind fun _ =>
        hx.andFinally (keeps_modify fun s hs => hbusy s false hs))

end Run

namespace Session

/-- **Only notes were taken**: the scene is what it was before. -/
structure OnlyNoted (s s' : Session) : Prop where
  evolves : s.Evolves s'
  scene : s'.toScene = s.toScene

instance : Run.Lasting OnlyNoted where
  refl s := ⟨.refl s, rfl⟩
  trans h h' := ⟨h.evolves.trans h'.evolves, h'.scene.trans h.scene⟩
  evolves := OnlyNoted.evolves
  note s e _ := ⟨evolves_push s e, rfl⟩

end Session

end VectorLink
