import VectorLink.Proofs.Connecting

/-!
# The phases of a connect

A connect first looks whether it may go on at all, then makes a link, then waits for it, and then
binds calls to it. Each phase is short, and what it makes of a session can be written down exactly:
which error it stops with, and what it leaves behind. So what becomes of a connect as a whole can be
read off its phases in their order, without looking into them again.

In the first two phases the manager itself is not touched. A link that was made and listened to has
a handle that is idle, or says what the channel reported at once (`Session.handle?_openLink`).
-/

namespace VectorLink

/-- What setting a channel up raises: making it, or else listening to it. -/
def ChannelBehaviour.setupRaises? (b : ChannelBehaviour) : Option Raised :=
  b.makingRaises?.or b.listeningRaises?

namespace Scene

/-- **Whether a manager may connect**: it has no handle that is neither shut down nor terminated. -/
def mayConnect (s : Scene) (m : Nat) : Bool := (s.current? m).all fun h => !h.isLive

/-- Something is in the way of a connect exactly if there is a live handle. -/
theorem mayConnect_eq_false {s : Scene} {m : Nat} :
    s.mayConnect m = false ↔ ∃ h, s.current? m = some h ∧ h.isLive = true := by
  rw [mayConnect]
  cases s.current? m <;> simp

end Scene

namespace Session

/-- A link has been made and is listened to, and its channel has reported what it reports at
once. -/
def openLink (s : Session) (target : String) (options : ChannelOptions)
    (behaviour : ChannelBehaviour) : Session :=
  let t := s.addLink (Link.fresh target options behaviour).listen
  match behaviour.initial? with
  | none => t
  | some report =>
    (t.hear s.links.length report).noted .transport .debug
      ("Channel " ++ target ++ " is " ++ report)

/-- What is left when a channel cannot be set up: nothing, or a channel without a handle. -/
def abandonLink (s : Session) (target : String) (options : ChannelOptions)
    (behaviour : ChannelBehaviour) : Session :=
  if behaviour.makingRaises?.isSome then s else s.addLink (.fresh target options behaviour)

variable {s : Session} {target : String} {options : ChannelOptions} {behaviour : ChannelBehaviour}

theorem handle?_addLink (s : Session) (l : Link) (i : Nat) :
    (s.addLink l).handle? i = if i = s.links.length then l.handle? else s.handle? i := by
  split
  · next hi => rw [hi, Scene.handle?, links_addLink_length, Option.bind_some]
  · next hi => rw [Scene.handle?, links_addLink s l hi, Scene.handle?]

/-- **The handle of a new link** is idle, or says what its channel reported at once. All other
handles are as they were. -/
theorem handle?_openLink (s : Session) (target : String) (options : ChannelOptions)
    (behaviour : ChannelBehaviour) (i : Nat) :
    (s.openLink target options behaviour).handle? i = if i = s.links.length then
        some ((Handle.fresh target).notify
          ((behaviour.initial?.map Connectivity.ofReport).getD .idle))
      else s.handle? i := by
  have hadd := handle?_addLink s (Link.fresh target options behaviour).listen i
  unfold openLink
  cases behaviour.initial? with
  | none => exact hadd
  | some report =>
    dsimp only
    rw [noted_toScene, hear, handle?_onHandle, push_toScene, hadd]
    by_cases hi : i = s.links.length
    · rw [if_pos hi, if_pos hi, if_pos hi.symm]
      rfl
    · rw [if_neg hi, if_neg hi, if_neg (Ne.symm hi)]

/-- The link that was made is for the target, and behaves as its channel does. -/
theorem links_openLink (s : Session) (target : String) (options : ChannelOptions)
    (behaviour : ChannelBehaviour) :
    ∃ l, (s.openLink target options behaviour).links[s.links.length]? = some l ∧
      l.target = target ∧ l.behaviour = behaviour := by
  have hadd := links_addLink_length s (Link.fresh target options behaviour).listen
  have hev : (s.addLink (Link.fresh target options behaviour).listen).Evolves
      (s.openLink target options behaviour) := by
    unfold openLink
    cases behaviour.initial? with
    | none => exact .refl _
    | some report => exact (evolves_hear _ _ _).trans (Run.related_noted _ _ _ _)
  obtain ⟨l, hl, he⟩ := hev.links _ _ hadd
  exact ⟨l, hl, he.target, he.behaviour⟩

theorem managers_openLink (s : Session) (target : String) (options : ChannelOptions)
    (behaviour : ChannelBehaviour) :
    (s.openLink target options behaviour).managers = s.managers := by
  unfold openLink
  cases behaviour.initial? with
  | none => rfl
  | some report =>
    dsimp only
    rw [noted_toScene]
    rfl

theorem environment_openLink (s : Session) (target : String) (options : ChannelOptions)
    (behaviour : ChannelBehaviour) :
    (s.openLink target options behaviour).environment = s.environment := by
  unfold openLink
  cases behaviour.initial? with
  | none => rfl
  | some report =>
    dsimp only
    rw [noted_toScene]
    rfl

theorem managers_abandonLink (s : Session) (target : String) (options : ChannelOptions)
    (behaviour : ChannelBehaviour) :
    (s.abandonLink target options behaviour).managers = s.managers := by
  unfold abandonLink
  split <;> rfl

theorem links_abandonLink (s : Session) (target : String) (options : ChannelOptions)
    (behaviour : ChannelBehaviour) :
    s.links <+: (s.abandonLink target options behaviour).links := by
  unfold abandonLink
  split
  · exact List.prefix_rfl
  · exact List.prefix_append _ _

/-- A channel that could not be set up has no handle. -/
theorem handle?_abandonLink (s : Session) (target : String) (options : ChannelOptions)
    (behaviour : ChannelBehaviour) (i : Nat) :
    (s.abandonLink target options behaviour).handle? i = s.handle? i := by
  unfold abandonLink
  split
  · rfl
  · rw [handle?_addLink]
    split
    · next hi =>
      subst hi
      rw [Scene.handle?, List.getElem?_eq_none le_rfl]
      rfl
    · rfl

end Session

namespace Run

open Session

variable {s : Session} {m : Nat}

/-! ## Choosing a target -/

theorem written_run (n : Int) (s : Session) : written n s
    = if Numeral.isShort n then (.ok (toString n), s)
      else (.error (.raised ⟨"ValueError", Numeral.tooLongText⟩), s) := by
  unfold written
  split <;> rfl

/-- A manager that has a live handle refuses to connect. -/
theorem chooseTarget_run_live {h : Handle} (host port : Value) (hcur : s.current? m = some h)
    (hlive : h.isLive = true) :
    ∃ text, chooseTarget m host port s = (.error (.connect (.alreadyConnected h.target)),
      s.noted .connection .warning text) := by
  refine ⟨"Channel to " ++ h.target ++ " is not shutdown or terminated", ?_⟩
  rw [chooseTarget, get_bind_run]
  simp only [hcur, hlive, if_pos]
  rw [log_bind_run]
  rfl

/-- Where nothing is in the way the port is read. -/
theorem chooseTarget_run_free (host port : Value) (hfree : s.mayConnect m = true) :
    chooseTarget m host port s = (portOf port >>= fun number => do
      if number < 0 || greatestPort < number then
        log .connection .error ("Connect failed! Port " ++ (← written number) ++ " out of range")
        refuse (.portOutOfRange number)
      return host.plain ++ ":" ++ toString number : Run String) s := by
  rw [chooseTarget, get_bind_run]
  cases hcur : s.current? m with
  | none => rfl
  | some h =>
    rw [Scene.mayConnect, hcur, Option.all_some, Bool.not_eq_true'] at hfree
    simp only [hfree]
    rfl

/-- A port that cannot be read is a connect failure if it is a complaint. -/
theorem chooseTarget_run_unread {r : Raised} (host port : Value) (hfree : s.mayConnect m = true)
    (hport : readPort port = .error r) (hcomplaint : isPortComplaint r = true) :
    ∃ text, chooseTarget m host port s
      = (.error (.connect (.setup r)), s.noted .connection .error text) := by
  refine ⟨"Connect failed! Invalid port " ++ port.quoted, ?_⟩
  have hread : portOf port s = (.error (.connect (.setup r)),
      s.noted .connection .error ("Connect failed! Invalid port " ++ port.quoted)) := by
    rw [portOf]
    simp only [hport, hcomplaint, if_pos]
    rw [log_bind_run]
    rfl
  rw [chooseTarget_run_free host port hfree, bind_run_error hread]

/-- What comes of a port that was read. -/
theorem chooseTarget_run_read {n : Int} (host port : Value) (hfree : s.mayConnect m = true)
    (hport : readPort port = .ok n) :
    chooseTarget m host port s = (do
      if n < 0 || greatestPort < n then
        log .connection .error ("Connect failed! Port " ++ (← written n) ++ " out of range")
        refuse (.portOutOfRange n)
      return host.plain ++ ":" ++ toString n : Run String) s := by
  have hread : portOf port s = (.ok n, s) := by
    rw [portOf]
    simp only [hport]
    rfl
  rw [chooseTarget_run_free host port hfree, bind_run_ok hread]

/-- A number that is no port is refused. -/
theorem chooseTarget_run_outside {n : Int} (host port : Value) (hfree : s.mayConnect m = true)
    (hport : readPort port = .ok n) (hout : (n < 0 || greatestPort < n) = true)
    (hshort : Numeral.isShort n = true) :
    ∃ text, chooseTarget m host port s
      = (.error (.connect (.portOutOfRange n)), s.noted .connection .error text) := by
  refine ⟨"Connect failed! Port " ++ toString n ++ " out of range", ?_⟩
  have hwritten : written n s = (.ok (toString n), s) := by rw [written_run, if_pos hshort]
  rw [chooseTarget_run_read host port hfree hport, if_pos hout, bind_run_ok hwritten,
    log_bind_run]
  rfl

/-- **A port within the range** makes a target. -/
theorem chooseTarget_run_ok {n : Int} (host port : Value) (hfree : s.mayConnect m = true)
    (hport : readPort port = .ok n) (hin : (n < 0 || greatestPort < n) = false) :
    chooseTarget m host port s = (.ok (host.plain ++ ":" ++ toString n), s) := by
  rw [chooseTarget_run_read host port hfree hport, hin]
  rfl

/-- **A target is chosen only if nothing is in the way** and the port can be read, and choosing it
changes nothing. -/
theorem chooseTarget_ok {host port : Value} {target : String} {s' : Session}
    (h : chooseTarget m host port s = (.ok target, s')) :
    s' = s ∧ s.mayConnect m = true ∧
      ∃ n, readPort port = .ok n ∧ target = host.plain ++ ":" ++ toString n := by
  cases hfree : s.mayConnect m with
  | false =>
    obtain ⟨hd, hcur, hlive⟩ := Scene.mayConnect_eq_false.mp hfree
    obtain ⟨text, hrun⟩ := chooseTarget_run_live host port hcur hlive
    rw [hrun] at h
    cases h
  | true =>
    cases hport : readPort port with
    | error r =>
      cases hcomplaint : isPortComplaint r with
      | true =>
        obtain ⟨text, hrun⟩ := chooseTarget_run_unread host port hfree hport hcomplaint
        rw [hrun] at h
        cases h
      | false =>
        have hraise : portOf port s = (.error (.raised r), s) := by
          rw [portOf]
          simp only [hport, hcomplaint]
          rfl
        rw [chooseTarget_run_free host port hfree, bind_run_error hraise] at h
        cases h
    | ok n =>
      cases hout : (n < 0 || greatestPort < n : Bool) with
      | false =>
        rw [chooseTarget_run_ok host port hfree hport hout] at h
        obtain ⟨hname, hsame⟩ := Prod.mk.inj h
        exact ⟨hsame.symm, rfl, n, rfl, (Except.ok.inj hname).symm⟩
      | true =>
        cases hshort : Numeral.isShort n with
        | true =>
          obtain ⟨text, hrun⟩ := chooseTarget_run_outside host port hfree hport hout hshort
          rw [hrun] at h
          cases h
        | false =>
          have hwritten : written n s
              = (.error (.raised ⟨"ValueError", Numeral.tooLongText⟩), s) := by
            rw [written_run, hshort, if_neg Bool.false_ne_true]
          rw [chooseTarget_run_read host port hfree hport, if_pos hout,
            bind_run_error hwritten] at h
          cases h

/-! ## Setting a link up -/

variable {target : String} {options : ChannelOptions} {behaviour : ChannelBehaviour}

/-- **Making a link**, with what setting it up raises taken as one. -/
theorem makeLink_run_setup (target : String) (options : ChannelOptions)
    (behaviour : ChannelBehaviour) (s : Session) :
    makeLink target options behaviour s = match behaviour.setupRaises? with
      | some r => (.error (.raised r), s.abandonLink target options behaviour)
      | none => (.ok s.links.length, s.openLink target options behaviour) := by
  rw [makeLink_run, ChannelBehaviour.setupRaises?, abandonLink, openLink]
  cases behaviour.makingRaises? with
  | some r => rfl
  | none =>
    cases behaviour.listeningRaises? with
    | some r => rfl
    | none =>
      cases behaviour.initial? with
      | none => rfl
      | some report =>
        have hh : (s.addLink (Link.fresh target options behaviour).listen).handle? s.links.length
            = some (.fresh target) := by
          rw [handle?_addLink, if_pos rfl]
          rfl
        simp only [deliver_run hh]
        rfl

theorem setUp_run_ok (hquiet : behaviour.setupRaises? = none) :
    setUp target options behaviour s = (.ok s.links.length, s.openLink target options behaviour)
      := by
  rw [setUp, bind_run_ok (attempt_run _ s), makeLink_run_setup, hquiet]
  rfl

/-- **An ordinary exception while a link is set up** is a connect failure; any other passes. -/
theorem setUp_run_raised {r : Raised} (target : String) (options : ChannelOptions)
    (hraises : behaviour.setupRaises? = some r) (s : Session) :
    ∃ s', setUp target options behaviour s
        = (.error (if r.isOrdinary then .connect (.setup r) else .raised r), s') ∧
      s'.toScene = (s.abandonLink target options behaviour).toScene := by
  rw [setUp, bind_run_ok (attempt_run _ s), makeLink_run_setup, hraises]
  cases hord : r.isOrdinary with
  | true =>
    refine ⟨(s.abandonLink target options behaviour).noted .connection .error
      ("Connect failed! " ++ target ++ ": " ++ r.message), ?_, noted_toScene _ _ _ _⟩
    dsimp only
    rw [hord, if_pos rfl, if_pos rfl, log_bind_run]
    rfl
  | false =>
    refine ⟨_, ?_, rfl⟩
    dsimp only
    rw [hord, if_neg Bool.false_ne_true, if_neg Bool.false_ne_true]
    rfl

/-! ## From phase to phase -/

/-- What a connect that does not get as far as a target comes to. -/
theorem establish_run_untargeted {host port timeout : Value} {pause : Nat → Run Unit} {e : Failure}
    {s' : Session} (hchoose : chooseTarget m host port s = (.error e, s')) :
    establish m host port timeout behaviour pause s = (.error e, s') := by
  rw [establish, bind_run_error hchoose]

/-- What a connect that has a target goes on to. -/
theorem establish_run_targeted {host port timeout : Value} {pause : Nat → Run Unit}
    (hchoose : chooseTarget m host port s = (.ok target, s)) :
    establish m host port timeout behaviour pause s
      = (setUp target (s.manager m).config.channelOptions behaviour >>= fun i =>
          install m i >>= fun _ => unbindCalls m >>= fun _ =>
            waitUntilReady i timeout (s.manager m).config.pollInterval pause >>= fun _ =>
              bindCalls m i >>= fun _ => pure target) s := by
  rw [establish, bind_run_ok hchoose, get_bind_run]

/-- **A connect whose link is set up** puts it to use, waits for it, and binds calls to it. -/
theorem establish_run_opened {host port timeout : Value} {pause : Nat → Run Unit}
    (hchoose : chooseTarget m host port s = (.ok target, s))
    (hquiet : behaviour.setupRaises? = none) :
    establish m host port timeout behaviour pause s
      = (waitUntilReady s.links.length timeout (s.manager m).config.pollInterval pause >>= fun _ =>
          bindCalls m s.links.length >>= fun _ => pure target)
        ((s.openLink target (s.manager m).config.channelOptions behaviour).putToUse m
          s.links.length) := by
  rw [establish_run_targeted hchoose, bind_run_ok (setUp_run_ok hquiet)]
  rfl

end Run

end VectorLink
