import VectorLink.Proofs.Custody
import VectorLink.Proofs.Numerals

/-!
# What a connect comes to

A connect can be refused, fail, time out or succeed, and what it leaves behind differs from case to
case. Which case it is is decided in a fixed order: by the handle in use, by the port, by the
channel while it is set up, and by what the client finds while it waits. `Connection.Decision` says
for each case when it comes about and what is left, without reference to how a connect goes about
it, and a connect keeps to it from every session that a client can reach
(`Session.connect_decides`).

Two of the cases are not meant to be there. A wait whose pauses are too long for a double or for the
clock, or whose time is too long to be written, raises what the number raised and not a connect
failure, and leaves a link in use behind. The same happens when calls cannot be bound to a link that
has become ready: then the client even counts as connected (`Session.setup_failures`).
-/

namespace VectorLink

namespace Session

/-! ## Making a manager busy and free again -/

/-- A manager has been made busy. -/
def occupied (s : Session) (m : Nat) : Session :=
  s.changeManager m fun mgr => { mgr with isBusy := true }

/-- A manager is busy no more. -/
def released (s : Session) (m : Nat) : Session :=
  s.changeManager m fun mgr => { mgr with isBusy := false }

variable {s s' : Session} {m : Nat}

theorem manager_occupied (s : Session) (hm : m < s.managers.length) :
    (s.occupied m).manager m = { s.manager m with isBusy := true } :=
  (manager_changeManager s hm m _).trans (if_pos rfl)

theorem manager_released (s : Session) (hm : m < s.managers.length) :
    (s.released m).manager m = { s.manager m with isBusy := false } :=
  (manager_changeManager s hm m _).trans (if_pos rfl)

/-- What a manager uses is not affected by making it busy. -/
theorem current?_occupied (s : Session) (hm : m < s.managers.length) :
    (s.occupied m).current? m = s.current? m := by
  rw [Scene.current?, manager_occupied s hm]
  rfl

theorem mayConnect_occupied (s : Session) (hm : m < s.managers.length) :
    (s.occupied m).mayConnect m = s.mayConnect m := by
  rw [Scene.mayConnect, current?_occupied s hm, Scene.mayConnect]

/-- **A free manager that was busy for a while** and did nothing is as it was before. -/
theorem managers_released (hfree : (s.manager m).isBusy = false)
    (h : s'.managers = (s.occupied m).managers) : (s'.released m).managers = s.managers := by
  show s'.managers.modify m _ = _
  rw [h]
  show (s.managers.modify m _).modify m _ = _
  rw [List.modify_modify_eq]
  refine List.ext_getElem? fun n => ?_
  rw [List.getElem?_modify]
  by_cases hmn : m = n
  · subst hmn
    rw [Scene.manager, List.getD_eq_getElem?_getD] at hfree
    cases hmgr : s.managers[m]? with
    | none => simp
    | some mgr =>
      rw [hmgr, Option.getD_some] at hfree
      simp [← hfree]
  · simp [hmn]

theorem released_toScene (hfree : (s.manager m).isBusy = false)
    (h : s'.toScene = (s.occupied m).toScene) : (s'.released m).toScene = s.toScene := by
  have hmgrs := managers_released hfree (congrArg Scene.managers h)
  show { s'.toScene with managers := (s'.released m).managers } = s.toScene
  rw [hmgrs, h]
  rfl

end Session

/-- **An exclusive activity of a free manager** takes place while the manager is busy. -/
theorem Run.exclusively_run_free {α : Type} {s : Session} {m : Nat} (x : Run α)
    (hidle : (s.manager m).isBusy = false) :
    exclusively m x s = ((x (s.occupied m)).1, (x (s.occupied m)).2.released m) := by
  rw [exclusively_run, hidle, if_neg Bool.false_ne_true, andFinally_run]
  rfl

/-- A handle that is terminated only after it was shut down is live until then. -/
theorem Handle.isLive_of_ended {h : Handle} (hended : h.isTerminated = true → h.isShutdown = true)
    (hopen : h.isShutdown = false) : h.isLive = true := by
  cases hterm : h.isTerminated with
  | true => exact absurd (hopen.symm.trans (hended hterm)) Bool.false_ne_true
  | false => rw [Handle.isLive, hterm, hopen]; rfl

namespace Scene

/-- Whether a manager has no link in use, or one that was shut down. -/
def isParted (s : Scene) (m : Nat) : Bool := (s.current? m).all Handle.isShutdown

variable {s : Scene} {m : Nat}

theorem mayConnect_of_isParted (h : s.isParted m = true) : s.mayConnect m = true := by
  rw [isParted] at h
  rw [mayConnect]
  cases hcur : s.current? m with
  | none => rfl
  | some hd =>
    rw [hcur, Option.all_some] at h
    rw [Option.all_some, Handle.isLive, h]
    rfl

theorem isParted_eq_false :
    s.isParted m = false ↔ ∃ h, s.current? m = some h ∧ h.isShutdown = false := by
  rw [isParted]
  cases s.current? m <;> simp

/-- Whether a manager is connected depends on managers and handles only. -/
theorem isConnected_congr {s' : Scene} (hmanagers : s'.managers = s.managers)
    (hhandles : ∀ i, s'.handle? i = s.handle? i) : s'.isConnected m = s.isConnected m := by
  have hsame : s'.manager m = s.manager m := by rw [manager, hmanagers]; rfl
  rw [isConnected, current?, hsame, funext hhandles]
  rfl

/-- A manager that has parted from its link is not connected. -/
theorem isConnected_of_isParted (h : s.isParted m = true) : s.isConnected m = false := by
  refine Bool.eq_false_iff.mpr fun hcon => ?_
  obtain ⟨i, hd, hcur, hi, hready⟩ := isConnected_iff.mp hcon
  rw [isParted, current?, hcur, Option.bind_some, hi, Option.all_some,
    (Handle.state_eq_ready.mp hready).2.1] at h
  exact Bool.false_ne_true h

end Scene

namespace Connection

/-- The target for a host and a port. -/
def targetText (host : String) (port : Int) : String := host ++ ":" ++ toString port

/-- Whether a number is a port. -/
def InRange (port : Int) : Prop := 0 ≤ port ∧ port ≤ greatestPort

instance (port : Int) : Decidable (InRange port) :=
  inferInstanceAs (Decidable (0 ≤ port ∧ port ≤ greatestPort))

/-- **A value that a port may be given as**: a text, or a whole number that can be written. -/
def IsPort (port : Value) : Prop :=
  (∃ text, port = .text text) ∨ ∃ n, port = .int n ∧ Numeral.isShort n = true

/-- **A manager uses a link** for a target, and its calls are bound as said. -/
structure Uses (s : Session) (m i : Nat) (target : String) (dispatcher? : Option Nat) : Prop where
  current : (s.manager m).current? = some i
  dispatcher : (s.manager m).dispatcher? = dispatcher?
  isFree : (s.manager m).isBusy = false
  target : ∃ h, s.handle? i = some h ∧ h.target = target

end Connection

open Connection

namespace Session

/-- **A manager is there and free**, in a session whose wiring is in order. -/
structure Available (s : Session) (m : Nat) : Prop where
  valid : s.Valid
  wired : s.Always Wired
  here : m < s.managers.length
  free : (s.manager m).isBusy = false

/-- **A new link was launched**: it was made for a target, and a busy manager uses it. -/
def launched (s : Session) (m : Nat) (target : String) (behaviour : ChannelBehaviour) : Session :=
  ((s.occupied m).openLink target (s.manager m).config.channelOptions behaviour).putToUse m
    s.links.length

/-- A new link is waited for, and that was noted. -/
def announced (s : Session) (m : Nat) (target : String) (timeout : Int)
    (behaviour : ChannelBehaviour) : Session :=
  (s.launched m target behaviour).noted .connection .info (Run.waitText target timeout)

/-- The number of pauses that a manager makes within a time. -/
def patience (s : Session) (m : Nat) (timeout : Int) : Nat :=
  ⌈(timeout : ℚ) / (s.manager m).config.pollInterval⌉₊

/-- **The seconds of a pause that a manager makes**, or what it raises instead. -/
def pauseLength (s : Session) (m : Nat) : Except Raised Binary64 :=
  s.environment.clock.pause (s.manager m).config.pollInterval

end Session

section

variable (s : Session) (m : Nat)

/-- **What a wait for a new link comes to**, with the pauses counted from when that was noted.
The link stays in use in any case. -/
inductive Connection.Awaited (target : String) (timeout : Int) (behaviour : ChannelBehaviour)
    (pause : Nat → Run Unit) : Except Failure Result → Session → Prop
  /-- The time is too long to be noted. -/
  | untold {s' : Session} (hlong : Numeral.isShort timeout = false)
      (huses : Uses s' m s.links.length target none) :
      Awaited target timeout behaviour pause (.error (.raised ⟨"ValueError", Numeral.tooLongText⟩))
        s'
  /-- A pause is needed whose seconds are too many, for a double or for the clock. -/
  | unmeasured {r : Raised} {s' : Session} (hshort : Numeral.isShort timeout = true)
      (hpatience : s.patience m timeout ≠ 0) (hlength : s.pauseLength m = .error r)
      (hunseen : (s.announced m target timeout behaviour).ready s.links.length = false)
      (huses : Uses s' m s.links.length target none) :
      Awaited target timeout behaviour pause (.error (.raised r)) s'
  /-- No look within the time finds the link ready. Calls are bound to nothing. -/
  | unready {seconds : Binary64} {s' : Session} (hshort : Numeral.isShort timeout = true)
      (hunseen : (s.announced m target timeout behaviour).Unsighted pause (s.pauseLength m)
        s.links.length (s.patience m timeout) 1 seconds)
      (huses : Uses s' m s.links.length target none) (hnot : s'.ready s.links.length = false) :
      Awaited target timeout behaviour pause (.error (.connect (.timeout target (.int timeout)))) s'
  /-- A look finds the link ready, but calls cannot be bound to it. -/
  | unbound {count : Nat} {seconds : Binary64} {r : Raised} {s' : Session}
      (hshort : Numeral.isShort timeout = true) (hraises : behaviour.bindingRaises? = some r)
      (hseen : (s.announced m target timeout behaviour).Sighted pause (s.pauseLength m)
        s.links.length (s.patience m timeout) 1 count seconds)
      (huses : Uses s' m s.links.length target none) (hready : s'.ready s.links.length = true) :
      Awaited target timeout behaviour pause (.error (.raised r)) s'
  /-- A look finds the link ready, and calls are bound to it. -/
  | ready {count : Nat} {seconds : Binary64} {s' : Session}
      (hshort : Numeral.isShort timeout = true) (hquiet : behaviour.bindingRaises? = none)
      (hseen : (s.announced m target timeout behaviour).Sighted pause (s.pauseLength m)
        s.links.length (s.patience m timeout) 1 count seconds)
      (huses : Uses s' m s.links.length target (some s.links.length))
      (hready : s'.ready s.links.length = true) :
      Awaited target timeout behaviour pause (.ok (.succeeded .nothing)) s'

/-- **What a connect of a manager comes to**: its outcome, and the session that it leaves. -/
inductive Connection.Decision (host : String) (port : Value) (timeout : Int)
    (behaviour : ChannelBehaviour) (pause : Nat → Run Unit) :
    Except Failure Result → Session → Prop
  /-- The link in use is not shut down. Nothing changes. -/
  | engaged {h : Handle} {s' : Session} (hcur : s.current? m = some h)
      (hopen : h.isShutdown = false) (hsame : s'.toScene = s.toScene) :
      Decision host port timeout behaviour pause (.error (.connect (.alreadyConnected h.target))) s'
  /-- The port cannot be read. Nothing changes. -/
  | unread {r : Raised} {s' : Session} (hparted : s.isParted m = true)
      (hport : readPort port = .error r) (hsame : s'.toScene = s.toScene) :
      Decision host port timeout behaviour pause (.error (.connect (.setup r))) s'
  /-- The number is no port. Nothing changes. -/
  | outside {n : Int} {s' : Session} (hparted : s.isParted m = true)
      (hport : readPort port = .ok n) (hout : ¬ InRange n) (hsame : s'.toScene = s.toScene) :
      Decision host port timeout behaviour pause (.error (.connect (.portOutOfRange n))) s'
  /-- The channel cannot be set up. Managers and handles are as they were; a channel that cannot be
  listened to may be left over. -/
  | unmade {n : Int} {r : Raised} {s' : Session} (hparted : s.isParted m = true)
      (hport : readPort port = .ok n) (hin : InRange n) (hraises : behaviour.setupRaises? = some r)
      (hmanagers : s'.managers = s.managers) (hhandles : ∀ i, s'.handle? i = s.handle? i)
      (hlinks : s.links <+: s'.links) :
      Decision host port timeout behaviour pause (.error (.connect (.setup r))) s'
  /-- A new link is in use and was waited for. -/
  | awaited {n : Int} {r : Except Failure Result} {s' : Session} (hparted : s.isParted m = true)
      (hport : readPort port = .ok n) (hin : InRange n) (hquiet : behaviour.setupRaises? = none)
      (hwait : Awaited s m (targetText host n) timeout behaviour pause r s') :
      Decision host port timeout behaviour pause r s'

end

namespace Run

open Session

variable {s s' : Session} {m : Nat} {host : String} {port : Value} {timeout : Int} {n : Int}
  {behaviour : ChannelBehaviour} {pause : Nat → Run Unit}

/-! ## Ports -/

/-- A port that is a text or a number that can be written is read, or it is a complaint. -/
theorem isPortComplaint_of_isPort {r : Raised} (hport : IsPort port)
    (hread : readPort port = .error r) : isPortComplaint r = true := by
  obtain ⟨text, rfl⟩ | ⟨n, rfl, -⟩ := hport
  · rw [readPort] at hread
    cases hwhole : Numeral.whole text with
    | error f =>
      rw [hwhole] at hread
      cases hread
      rfl
    | ok n =>
      rw [hwhole] at hread
      cases hread
  · cases hread

/-- What a port is read as can be written. -/
theorem isShort_of_isPort (hport : IsPort port) (hread : readPort port = .ok n) :
    Numeral.isShort n = true := by
  obtain ⟨text, rfl⟩ | ⟨k, rfl, hshort⟩ := hport
  · rw [readPort] at hread
    cases hwhole : Numeral.whole text with
    | error f =>
      rw [hwhole] at hread
      cases hread
    | ok k =>
      rw [hwhole] at hread
      cases hread
      exact Numeral.isShort_of_whole hwhole
  · cases hread
    exact hshort

theorem inRange_iff : (n < 0 || greatestPort < n : Bool) = false ↔ InRange n := by
  rw [Bool.or_eq_false_iff, decide_eq_false_iff_not, decide_eq_false_iff_not, not_lt, not_lt]
  rfl

/-! ## Before a link is made -/

/-- **A connect of a free manager** makes it busy, does its work, and makes it free again. -/
theorem connect_run (host port timeout : Value) (behaviour : ChannelBehaviour)
    (pause : Nat → Run Unit) (hidle : (s.manager m).isBusy = false) :
    connect m host port timeout behaviour pause s
      = match establish m host port timeout behaviour pause (s.occupied m) with
        | (.ok target, s') => (.ok (.succeeded .nothing),
            (s'.released m).noted .connection .info ("Connected successfully to " ++ target))
        | (.error e, s') => (.error e, s'.released m) := by
  have hin := exclusively_run_free (establish m host port timeout behaviour pause) hidle
  cases hrun : establish m host port timeout behaviour pause (s.occupied m) with
  | mk r s' =>
    rw [hrun] at hin
    cases r with
    | error e => rw [connect, bind_run_error hin]
    | ok target => rw [connect, bind_run_ok hin, welcome_run]

/-- A connect depends on its port only through the number that the port is read as. -/
theorem connect_port (host timeout : Value) (behaviour : ChannelBehaviour)
    (pause : Nat → Run Unit) (hport : readPort port = .ok n) :
    connect m host port timeout behaviour pause
      = connect m host (.int n) timeout behaviour pause := by
  have hread : portOf port = portOf (.int n) := by
    unfold portOf
    rw [hport]
    rfl
  rw [connect, connect, establish, establish, chooseTarget, chooseTarget, hread]

/-- A connect that gets no further than a target leaves everything as it was. -/
theorem connect_run_untargeted {e : Failure} {host : Value} {text : String} {level : LogLevel}
    (timeout : Value) (behaviour : ChannelBehaviour) (pause : Nat → Run Unit)
    (hfree : (s.manager m).isBusy = false)
    (hchoose : chooseTarget m host port (s.occupied m)
      = (.error e, (s.occupied m).noted .connection level text)) :
    ∃ s', connect m host port timeout behaviour pause s = (.error e, s') ∧
      s'.toScene = s.toScene := by
  refine ⟨((s.occupied m).noted .connection level text).released m, ?_,
    released_toScene hfree (noted_toScene _ _ _ _)⟩
  rw [connect_run _ _ _ _ _ hfree, establish_run_untargeted hchoose]

/-- A manager that has a live handle does not connect. -/
theorem connect_run_live {h : Handle} (host port timeout : Value) (behaviour : ChannelBehaviour)
    (pause : Nat → Run Unit) (hm : m < s.managers.length) (hfree : (s.manager m).isBusy = false)
    (hcur : s.current? m = some h) (hlive : h.isLive = true) :
    ∃ s', connect m host port timeout behaviour pause s
        = (.error (.connect (.alreadyConnected h.target)), s') ∧ s'.toScene = s.toScene := by
  obtain ⟨text, hchoose⟩ := chooseTarget_run_live host port
    ((current?_occupied s hm).trans hcur) hlive
  exact connect_run_untargeted timeout behaviour pause hfree hchoose

/-- A port that cannot be read is a connect failure. -/
theorem connect_run_unread {r : Raised} (host : String) (timeout : Value)
    (behaviour : ChannelBehaviour) (pause : Nat → Run Unit) (hs : s.Available m)
    (hfree : s.mayConnect m = true) (hport : readPort port = .error r)
    (hcomplaint : isPortComplaint r = true) :
    ∃ s', connect m (.text host) port timeout behaviour pause s
        = (.error (.connect (.setup r)), s') ∧ s'.toScene = s.toScene := by
  obtain ⟨text, hchoose⟩ := chooseTarget_run_unread (.text host) port
    ((mayConnect_occupied s hs.here).trans hfree) hport hcomplaint
  exact connect_run_untargeted timeout behaviour pause hs.free hchoose

/-- A number that is no port is a connect failure. -/
theorem connect_run_outside (host : String) (timeout : Value) (behaviour : ChannelBehaviour)
    (pause : Nat → Run Unit) (hs : s.Available m) (hfree : s.mayConnect m = true)
    (hport : readPort port = .ok n) (hout : ¬ InRange n) (hshort : Numeral.isShort n = true) :
    ∃ s', connect m (.text host) port timeout behaviour pause s
        = (.error (.connect (.portOutOfRange n)), s') ∧ s'.toScene = s.toScene := by
  obtain ⟨text, hchoose⟩ := chooseTarget_run_outside (.text host) port
    ((mayConnect_occupied s hs.here).trans hfree) hport
    (Bool.not_eq_false _ ▸ mt inRange_iff.mp hout) hshort
  exact connect_run_untargeted timeout behaviour pause hs.free hchoose

/-! ## A link that cannot be set up -/

/-- Where nothing is in the way a port within the range makes a target, also for a busy manager. -/
theorem chooseTarget_run_occupied (host : String) (hs : s.Available m)
    (hfree : s.mayConnect m = true) (hport : readPort port = .ok n) (hin : InRange n) :
    chooseTarget m (.text host) port (s.occupied m)
      = (.ok (targetText host n), s.occupied m) :=
  chooseTarget_run_ok (.text host) port ((mayConnect_occupied s hs.here).trans hfree) hport
    (inRange_iff.mpr hin)

/-- **What setting a link up raises** is a connect failure if it is ordinary. Managers and handles
stay as they were. -/
theorem connect_run_unmade {r : Raised} (host : String) (timeout : Value)
    (pause : Nat → Run Unit) (hs : s.Available m) (hfree : s.mayConnect m = true)
    (hport : readPort port = .ok n) (hin : InRange n)
    (hraises : behaviour.setupRaises? = some r) :
    ∃ s', connect m (.text host) port timeout behaviour pause s
        = (.error (if r.isOrdinary then .connect (.setup r) else .raised r), s') ∧
      s'.managers = s.managers ∧ (∀ i, s'.handle? i = s.handle? i) ∧ s.links <+: s'.links := by
  have hchoose := chooseTarget_run_occupied host hs hfree hport hin
  set options := ((s.occupied m).manager m).config.channelOptions
  obtain ⟨s', hset, hscene⟩ :=
    setUp_run_raised (targetText host n) options hraises (s.occupied m)
  have hmanagers : s'.managers = (s.occupied m).managers :=
    (congrArg Scene.managers hscene).trans (managers_abandonLink _ _ _ _)
  refine ⟨s'.released m, ?_, managers_released hs.free hmanagers, fun i => ?_, ?_⟩
  · rw [connect_run _ _ _ _ _ hs.free, establish_run_targeted hchoose, bind_run_error hset]
  · exact (congrArg (fun t : Scene => t.handle? i) hscene).trans (handle?_abandonLink _ _ _ _ i)
  · show s.links <+: s'.links
    rw [congrArg Scene.links hscene]
    exact links_abandonLink (s.occupied m) _ _ _

/-! ## The link that is waited for -/

variable (behaviour) in
/-- **Launching a link governs all other managers**, and the manager that launched it uses it. -/
theorem governs_launched (target : String) (hs : s.Available m) (hfree : s.mayConnect m = true) :
    Governs (some m) s (s.launched m target behaviour) := by
  have hmark : Governs (some m) s (s.occupied m) :=
    governs_changeManager s hs.here fun _ => ⟨rfl, rfl⟩
  have hopened := stewards_opened target (s.manager m).config.channelOptions behaviour
    (hs.here.trans_le hmark.upholds.evolves.managers)
    ((mayConnect_occupied s hs.here).trans hfree)
  exact hmark.trans hopened.governs

variable (behaviour) in
theorem manager_launched (target : String) (hm : m < s.managers.length) :
    (s.launched m target behaviour).manager m = { s.manager m with
      current? := some s.links.length, dispatcher? := none, isBusy := true } := by
  set options := (s.manager m).config.channelOptions
  have hmgrs := managers_openLink (s.occupied m) target options behaviour
  have hm' : m < ((s.occupied m).openLink target options behaviour).managers.length := by
    rw [hmgrs, occupied, length_changeManager]
    exact hm
  have hsame : ((s.occupied m).openLink target options behaviour).manager m
      = { s.manager m with isBusy := true } := by
    rw [← manager_occupied s hm, Scene.manager, hmgrs]
    rfl
  rw [launched, manager_putToUse _ hm', if_pos rfl, hsame]

variable (behaviour) in
/-- The link that was launched is for the target, and behaves as its channel does. -/
theorem links_launched (s : Session) (m : Nat) (target : String) :
    ∃ l, (s.launched m target behaviour).links[s.links.length]? = some l ∧
      l.target = target ∧ l.behaviour = behaviour :=
  links_openLink (s.occupied m) target (s.manager m).config.channelOptions behaviour

variable (behaviour) in
theorem handle?_launched (s : Session) (m : Nat) (target : String) :
    ∃ h, (s.launched m target behaviour).handle? s.links.length = some h ∧ h.target = target :=
  ⟨_, (handle?_openLink (s.occupied m) target (s.manager m).config.channelOptions behaviour
    s.links.length).trans (if_pos rfl), ((Handle.fresh target).evolves_notify _).target⟩

/-- **After a wait the link is still in use**, and calls are bound to nothing. -/
theorem uses_awaited {target : String} (hs : s.Available m) (hfree : s.mayConnect m = true)
    (hgov : Governs none (s.launched m target behaviour) s') :
    m < s'.managers.length ∧ Uses (s'.released m) m s.links.length target none := by
  have hlaunch := governs_launched behaviour target hs hfree
  have hmgr := manager_launched behaviour target hs.here
  -- nothing touches a busy manager while it waits
  have hrec := hgov.record (hlaunch.upholds.always hs.wired) m nofun (by rw [hmgr])
  have hm' := hs.here.trans_le (hlaunch.upholds.evolves.trans hgov.upholds.evolves).managers
  obtain ⟨h, hi, htarget⟩ := handle?_launched behaviour s m target
  obtain ⟨h', hi', he⟩ := hgov.upholds.evolves.handle hi
  have hreleased := manager_released s' hm'
  rw [hrec, hmgr] at hreleased
  exact ⟨hm', by rw [hreleased], by rw [hreleased], by rw [hreleased], h', hi',
    he.target.trans htarget⟩

/-- While it is waited for, pauses leave the manager alone. -/
theorem governs_afterPauses (target : String) (timeout : Int) (behaviour : ChannelBehaviour)
    (hs : s.Available m) (hfree : s.mayConnect m = true)
    (hpause : ∀ k, Keeps (Governs none) (pause k)) (seconds : Binary64) (count : Nat) :
    Governs none (s.launched m target behaviour)
      ((s.announced m target timeout behaviour).afterPauses pause seconds count 1) := by
  have hannounce : Governs none (s.launched m target behaviour)
      (s.announced m target timeout behaviour) := related_noted _ _ _ _
  have hlaunch := (governs_launched behaviour target hs hfree).upholds.evolves
  exact hannounce.trans (related_afterPauses hpause seconds count 1
    ((hlaunch.trans hannounce.upholds.evolves).valid hs.valid))

/-- Once calls are bound to it the link is in use and has its calls. -/
theorem uses_bound {target : String} {i : Nat} (hm : m < s.managers.length)
    (huses : Uses (s.released m) m i target none) (text : String) :
    Uses (((s.bindTo m i).released m).noted .connection .info text) m i target (some i) := by
  have hbound := manager_bindTo s hm i m
  rw [if_pos rfl] at hbound
  have hreleased := manager_released (s.bindTo m i) (hm.trans_le (evolves_bindTo s m i).managers)
  rw [hbound] at hreleased
  have hcur := huses.current
  rw [manager_released s hm] at hcur
  refine ⟨?_, ?_, ?_, ?_⟩
  · rw [noted_toScene, hreleased]
    exact hcur
  · rw [noted_toScene, hreleased]
  · rw [noted_toScene, hreleased]
  · rw [noted_toScene]
    exact huses.target

/-! ## The wait -/

section

variable (hs : s.Available m) (hfree : s.mayConnect m = true) (hport : readPort port = .ok n)
  (hin : InRange n) (hquiet : behaviour.setupRaises? = none)

include hs hfree hport hin hquiet

/-- **A connect that has launched a link** waits for it, and then binds calls to it. -/
theorem connect_run_launched (timeout : Value) :
    connect m (.text host) port timeout behaviour pause s
      = match (waitUntilReady s.links.length timeout (s.manager m).config.pollInterval pause
            >>= fun _ => bindCalls m s.links.length)
          (s.launched m (targetText host n) behaviour) with
        | (.error e, s') => (.error e, s'.released m)
        | (.ok (), s') => (.ok (.succeeded .nothing), (s'.released m).noted
            .connection .info ("Connected successfully to " ++ targetText host n)) := by
  have hconfig : ((s.occupied m).manager m).config = (s.manager m).config := by
    rw [manager_occupied s hs.here]
  have hest : establish m (.text host) port timeout behaviour pause (s.occupied m)
      = ((waitUntilReady s.links.length timeout (s.manager m).config.pollInterval pause
            >>= fun _ => bindCalls m s.links.length) >>= fun _ => pure (targetText host n))
          (s.launched m (targetText host n) behaviour) := by
    rw [establish_run_opened (chooseTarget_run_occupied host hs hfree hport hin) hquiet, hconfig,
      bind_assoc]
    rfl
  rw [connect_run _ _ _ _ _ hs.free, hest, bind_run]
  rcases (waitUntilReady s.links.length timeout (s.manager m).config.pollInterval pause
    >>= fun _ => bindCalls m s.links.length) (s.launched m (targetText host n) behaviour)
    with ⟨_ | _, _⟩ <;> rfl

/-- A time of too many digits ends a connect before it has looked at its link. -/
theorem connect_run_untold (hlong : Numeral.isShort timeout = false) :
    connect m (.text host) port (.int timeout) behaviour pause s
      = (.error (.raised ⟨"ValueError", Numeral.tooLongText⟩),
          (s.launched m (targetText host n) behaviour).released m) := by
  rw [connect_run_launched hs hfree hport hin hquiet,
    bind_run_error (waitUntilReady_run_untold hlong)]

/-- **A connect that can say how long it waits** polls its link as often as the time lasts. Calls
are bound to the link unless that raises. -/
theorem connect_run_polled (hshort : Numeral.isShort timeout = true)
    (hinterval : 1 ≤ (s.manager m).config.pollInterval)
    (hpause : ∀ k, Keeps (Governs none) (pause k)) :
    connect m (.text host) port (.int timeout) behaviour pause s
      = match pollReady s.links.length (.int timeout) (s.pauseLength m) pause
            (s.patience m timeout) 1 (s.announced m (targetText host n) timeout behaviour) with
        | (.error e, s') => (.error e, s'.released m)
        | (.ok (), s') => match behaviour.bindingRaises? with
          | some r => (.error (.raised r), s'.released m)
          | none => (.ok (.succeeded .nothing), ((s'.bindTo m s.links.length).released m).noted
              .connection .info ("Connected successfully to " ++ targetText host n)) := by
  obtain ⟨l, hl, htarget, hbehaviour⟩ := links_launched behaviour s m (targetText host n)
  have hwait : waitUntilReady s.links.length (.int timeout) (s.manager m).config.pollInterval pause
        (s.launched m (targetText host n) behaviour)
      = pollReady s.links.length (.int timeout) (s.pauseLength m) pause
          (s.patience m timeout) 1 (s.announced m (targetText host n) timeout behaviour) := by
    have hclock : (s.launched m (targetText host n) behaviour).environment = s.environment :=
      environment_openLink (s.occupied m) _ _ _
    rw [waitUntilReady_run hshort hl, htarget, Patience.wholePauses_eq timeout hinterval, hclock]
    rfl
  rw [connect_run_launched hs hfree hport hin hquiet, bind_run, hwait]
  have hlaunch : (s.launched m (targetText host n) behaviour).Valid :=
    (governs_launched behaviour _ hs hfree).upholds.evolves.valid hs.valid
  have hannounce : Governs none (s.launched m (targetText host n) behaviour)
      (s.announced m (targetText host n) timeout behaviour) := related_noted _ _ _ _
  cases hpoll : pollReady s.links.length (.int timeout) (s.pauseLength m) pause
      (s.patience m timeout) 1 (s.announced m (targetText host n) timeout behaviour) with
  | mk r s' =>
    cases r with
    | error e => rfl
    | ok =>
      have hpolled : Governs none _ s' := (keeps_pollReady hpause _ 1).related
        (hannounce.upholds.evolves.valid hlaunch) hpoll
      -- the channel behaves as it did when it was made
      obtain ⟨l', hl', he⟩ := (hannounce.trans hpolled).upholds.evolves.links _ _ hl
      dsimp only
      rw [bindCalls_run, hl', Option.bind_some, he.behaviour, hbehaviour]
      cases behaviour.bindingRaises? <;> rfl

section

variable (hshort : Numeral.isShort timeout = true)
  (hinterval : 1 ≤ (s.manager m).config.pollInterval)
  (hpause : ∀ k, Keeps (Governs none) (pause k))

include hshort hinterval hpause

/-- The first pause ends a connect if its seconds are too many. -/
theorem connect_run_unmeasured {r : Raised} (hpatience : s.patience m timeout ≠ 0)
    (hlength : s.pauseLength m = .error r)
    (hunseen : (s.announced m (targetText host n) timeout behaviour).ready s.links.length = false) :
    connect m (.text host) port (.int timeout) behaviour pause s
      = (.error (.raised r), (s.announced m (targetText host n) timeout behaviour).released m) := by
  obtain ⟨left, hleft⟩ := Nat.exists_eq_succ_of_ne_zero hpatience
  rw [connect_run_polled hs hfree hport hin hquiet hshort hinterval hpause, hleft, hlength,
    pollReady_run_unmeasured r _ left 1 hunseen]

variable {seconds : Binary64} (hend : ∀ (k : Nat) (s : Session), (pause k s).1 = .ok ())

include hend

/-- A connect that sees its link ready binds calls to it, or raises what that raises. -/
theorem connect_run_sighted {count : Nat}
    (hseen : (s.announced m (targetText host n) timeout behaviour).Sighted pause (s.pauseLength m)
      s.links.length (s.patience m timeout) 1 count seconds) :
    connect m (.text host) port (.int timeout) behaviour pause s
      = let s' := (s.announced m (targetText host n) timeout behaviour).afterPauses pause seconds
          count 1
        match behaviour.bindingRaises? with
        | some r => (.error (.raised r), s'.released m)
        | none => (.ok (.succeeded .nothing), ((s'.bindTo m s.links.length).released m).noted
            .connection .info ("Connected successfully to " ++ targetText host n)) := by
  rw [connect_run_polled hs hfree hport hin hquiet hshort hinterval hpause,
    pollReady_run_sighted _ (fun _ _ => hend _ _) hseen]

/-- A connect that does not see its link ready gives it up. -/
theorem connect_run_unsighted
    (hunseen : (s.announced m (targetText host n) timeout behaviour).Unsighted pause
      (s.pauseLength m) s.links.length (s.patience m timeout) 1 seconds) :
    ∃ text, connect m (.text host) port (.int timeout) behaviour pause s
      = (.error (.connect (.timeout (targetText host n) (.int timeout))),
          (((s.announced m (targetText host n) timeout behaviour).afterPauses pause seconds
            (s.patience m timeout) 1).noted .connection .error text).released m) := by
  obtain ⟨h, hi, htarget⟩ := handle?_launched behaviour s m (targetText host n)
  have hpaused := governs_afterPauses (targetText host n) timeout behaviour hs hfree hpause seconds
    (s.patience m timeout)
  obtain ⟨h', hi', he⟩ := hpaused.upholds.evolves.handle hi
  obtain ⟨text, hgive⟩ := giveUp_run_handle hi' (.int timeout)
  refine ⟨text, ?_⟩
  rw [connect_run_polled hs hfree hport hin hquiet hshort hinterval hpause,
    pollReady_run_unsighted _ (fun _ _ => hend _ _) hunseen, hgive, he.target, htarget]

end

/-! ## What the wait comes to -/

section

variable (hinterval : 1 ≤ (s.manager m).config.pollInterval)
  (hpause : ∀ k, Keeps (Governs none) (pause k))
  (hend : ∀ (k : Nat) (s : Session), (pause k s).1 = .ok ())

include hinterval hpause hend

/-- **A connect that launches a link comes to what its wait comes to.** -/
theorem awaited_connect (timeout : Int) :
    Awaited s m (targetText host n) timeout behaviour pause
      (connect m (.text host) port (.int timeout) behaviour pause s).1
      (connect m (.text host) port (.int timeout) behaviour pause s).2 := by
  cases hshort : Numeral.isShort timeout with
  | false =>
    rw [connect_run_untold hs hfree hport hin hquiet hshort]
    exact .untold hshort (uses_awaited hs hfree (.refl _)).2
  | true =>
    have hannounce : Governs none (s.launched m (targetText host n) behaviour)
        (s.announced m (targetText host n) timeout behaviour) := related_noted _ _ _ _
    obtain ⟨count, seconds, hseen⟩ | ⟨seconds, hunseen⟩ |
        ⟨r, hlength, hpatience, hunseen⟩ :=
      (s.announced m (targetText host n) timeout behaviour).sighted_or pause (s.pauseLength m)
        s.links.length (s.patience m timeout) 1
    · obtain ⟨hm, huses⟩ := uses_awaited hs hfree
        (governs_afterPauses _ timeout behaviour hs hfree hpause seconds count)
      rw [connect_run_sighted hs hfree hport hin hquiet hshort hinterval hpause hend hseen]
      cases hbind : behaviour.bindingRaises? with
      | some r => exact .unbound hshort hbind hseen huses hseen.seen
      | none =>
        refine .ready hshort hbind hseen (uses_bound hm huses _) ?_
        rw [noted_toScene]
        exact hseen.seen
    · obtain ⟨text, hrun⟩ := connect_run_unsighted hs hfree hport hin hquiet hshort hinterval
        hpause hend hunseen
      have hpaused := governs_afterPauses (targetText host n) timeout behaviour hs hfree hpause
        seconds (s.patience m timeout)
      rw [hrun]
      refine .unready hshort hunseen (uses_awaited hs hfree
        (hpaused.trans (related_noted _ _ _ _))).2 ?_
      show Scene.ready (Session.toScene (Session.noted _ _ _ _)) _ = _
      rw [noted_toScene]
      exact hunseen.unseen _ le_rfl
    · rw [connect_run_unmeasured hs hfree hport hin hquiet hshort hinterval hpause hpatience
        hlength hunseen]
      exact .unmeasured hshort hpatience hlength hunseen (uses_awaited hs hfree hannounce).2

/-- **What a wait may come to is what the connect comes to.** -/
theorem answer_of_awaited {r : Except Failure Result}
    (h : Awaited s m (targetText host n) timeout behaviour pause r s') :
    (connect m (.text host) port (.int timeout) behaviour pause s).1 = r := by
  cases h with
  | untold hlong => rw [connect_run_untold hs hfree hport hin hquiet hlong]
  | unmeasured hshort hpatience hlength hunseen =>
    rw [connect_run_unmeasured hs hfree hport hin hquiet hshort hinterval hpause hpatience
      hlength hunseen]
  | unready hshort hunseen =>
    obtain ⟨text, hrun⟩ := connect_run_unsighted hs hfree hport hin hquiet hshort hinterval
      hpause hend hunseen
    rw [hrun]
  | unbound hshort hraises hseen =>
    rw [connect_run_sighted hs hfree hport hin hquiet hshort hinterval hpause hend hseen, hraises]
  | ready hshort hquiet' hseen =>
    rw [connect_run_sighted hs hfree hport hin hquiet hshort hinterval hpause hend hseen, hquiet']

end

end

/-! ## The decision -/

section

variable (hs : s.Available m)
  (hended : ∀ h, s.current? m = some h → h.isTerminated = true → h.isShutdown = true)
  (hport : IsPort port) (hinterval : 1 ≤ (s.manager m).config.pollInterval)
  (hordinary : ∀ r, behaviour.setupRaises? = some r → r.isOrdinary = true)
  (hpause : ∀ k, Keeps (Governs none) (pause k))
  (hend : ∀ (k : Nat) (s : Session), (pause k s).1 = .ok ())

include hs hended hport hinterval hordinary hpause hend

/-- **A connect comes to something that it may come to.** -/
theorem decision_connect (host : String) (timeout : Int) :
    Decision s m host port timeout behaviour pause
      (connect m (.text host) port (.int timeout) behaviour pause s).1
      (connect m (.text host) port (.int timeout) behaviour pause s).2 := by
  cases hparted : s.isParted m with
  | false =>
    obtain ⟨h, hcur, hopen⟩ := Scene.isParted_eq_false.mp hparted
    have hlive := Handle.isLive_of_ended (hended h hcur) hopen
    obtain ⟨s', hrun, hsame⟩ :=
      connect_run_live (.text host) port (.int timeout) behaviour pause hs.here hs.free hcur hlive
    rw [hrun]
    exact .engaged hcur hopen hsame
  | true =>
    have hfree := Scene.mayConnect_of_isParted hparted
    cases hread : readPort port with
    | error r =>
      obtain ⟨s', hrun, hsame⟩ := connect_run_unread host (.int timeout) behaviour pause hs hfree
        hread (isPortComplaint_of_isPort hport hread)
      rw [hrun]
      exact .unread hparted hread hsame
    | ok n =>
      by_cases hin : InRange n
      · cases hsetup : behaviour.setupRaises? with
        | some r =>
          obtain ⟨s', hrun, hmanagers, hhandles, hlinks⟩ :=
            connect_run_unmade host (.int timeout) pause hs hfree hread hin hsetup
          rw [hrun, if_pos (hordinary r hsetup)]
          exact .unmade hparted hread hin hsetup hmanagers hhandles hlinks
        | none =>
          exact .awaited hparted hread hin hsetup
            (awaited_connect hs hfree hread hin hsetup hinterval hpause hend timeout)
      · obtain ⟨s', hrun, hsame⟩ := connect_run_outside host (.int timeout) behaviour pause hs
          hfree hread hin (isShort_of_isPort hport hread)
        rw [hrun]
        exact .outside hparted hread hin hsame

/-- **What a connect may come to is what it comes to**, so it may come to nothing else. -/
theorem answer_of_decision {r : Except Failure Result}
    (h : Decision s m host port timeout behaviour pause r s') :
    (connect m (.text host) port (.int timeout) behaviour pause s).1 = r := by
  cases h with
  | engaged hcur hopen =>
    obtain ⟨s', hrun, -⟩ := connect_run_live (.text host) port (.int timeout) behaviour pause
      hs.here hs.free hcur (Handle.isLive_of_ended (hended _ hcur) hopen)
    rw [hrun]
  | unread hparted hread =>
    obtain ⟨s', hrun, -⟩ := connect_run_unread host (.int timeout) behaviour pause hs
      (Scene.mayConnect_of_isParted hparted) hread (isPortComplaint_of_isPort hport hread)
    rw [hrun]
  | outside hparted hread hout =>
    obtain ⟨s', hrun, -⟩ := connect_run_outside host (.int timeout) behaviour pause hs
      (Scene.mayConnect_of_isParted hparted) hread hout (isShort_of_isPort hport hread)
    rw [hrun]
  | unmade hparted hread hin hraises =>
    obtain ⟨s', hrun, -⟩ := connect_run_unmade host (.int timeout) pause hs
      (Scene.mayConnect_of_isParted hparted) hread hin hraises
    rw [hrun, if_pos (hordinary _ hraises)]
  | awaited hparted hread hin hquiet hwait =>
    exact answer_of_awaited hs (Scene.mayConnect_of_isParted hparted) hread hin hquiet hinterval
      hpause hend hwait

end

end Run

namespace Session

variable {s : Session} {m : Nat}

theorem Reached.available (hs : s.Reached fun step => !step.isByHand)
    (hm : m < s.managers.length) (hfree : (s.manager m).isBusy = false) : s.Available m :=
  ⟨hs.valid, (hs.mono fun _ h => (Step.of_not_isByHand h).2).wired, hm, hfree⟩

/-- **What a connect comes to is decided in a fixed order.** A link in use that is not shut down is
in the way, whether or not it is ready; then the port is read and checked; then the channel is set
up; and only then a new link comes into use and is waited for. The connect fails as long as one of
these fails, and leaves what it has not yet reached as it was. It depends on the port only through
the number that the port denotes. -/
theorem connect_decides (hs : s.Reached fun step => !step.isByHand) (hm : m < s.managers.length)
    (hfree : (s.manager m).isBusy = false) (hinterval : 1 ≤ (s.manager m).config.pollInterval)
    (host : String) {port : Value} (hport : IsPort port) (timeout : Int)
    {behaviour : ChannelBehaviour}
    (hordinary : ∀ r, behaviour.setupRaises? = some r → r.isOrdinary = true)
    {pauses : List (Nat × List Step)}
    (hpauses : Step.pausesWithin (fun step => !step.isByHand) pauses = true)
    (hsmooth : ∀ pause ∈ pauses, ∀ step ∈ pause.2, step.isInterrupt = false) :
    let x := Run.connect m (.text host) port (.int timeout) behaviour (Step.runPauses pauses) s
    Decision s m host port timeout behaviour (Step.runPauses pauses) x.1 x.2 ∧
      (∀ r s', Decision s m host port timeout behaviour (Step.runPauses pauses) r s' → x.1 = r) ∧
      ∀ n, readPort port = .ok n → x = Run.connect m (.text host) (.int n) (.int timeout) behaviour
        (Step.runPauses pauses) s := by
  have hav := hs.available hm hfree
  have hended : ∀ h, s.current? m = some h → h.isTerminated = true → h.isShutdown = true := by
    intro h hcur hterm
    obtain ⟨i, -, hi⟩ := Option.bind_eq_some_iff.mp hcur
    obtain ⟨l, hl, hh⟩ := handle?_eq_some.mp hi
    have htidy := (hs.mono fun _ hstep => (Step.of_not_isByHand hstep).1).tidy.now
    exact ((htidy i l h hl hh).ended hterm).1
  have hpause : ∀ k, Run.Keeps (Governs none) (Step.runPauses pauses k) :=
    Step.keeps_runPauses Run.governs_respects pauses
      (Step.pausesWithin_mono (fun _ h => (Step.of_not_isByHand h).2) pauses hpauses)
  have hend := Step.runPauses_ok hsmooth
  exact ⟨Run.decision_connect hav hended hport hinterval hordinary hpause hend host timeout,
    fun r s' h => Run.answer_of_decision hav hended hport hinterval hordinary hpause hend h,
    fun n hread => by rw [Run.connect_port _ _ _ _ hread]⟩

/-- A manager whose first link still carries a call when it is dialled again. -/
def redialSteps : List Step :=
  [.connectManager (.text "host") (.int 1) (.int 0) .smooth [], .beginCall "long",
    .disconnect [.interrupt "enough"]]

/-- The new link becomes ready in the second of three pauses, and the port is spelled oddly. Where a
pause is longer than the clock can count, the wait for a link that is not ready raises. -/
theorem connect_decides_redial :
    let s := (withManager .bare .standard).after redialSteps
    let behaviour : ChannelBehaviour := ⟨some "CONNECTING", none, none, none, none⟩
    let pauses : List (Nat × List Step) := [(2, [.notify 1 "READY" false, .endCall "long"])]
    let x := Run.connect 0 (.text "host") (.text " 1_9 ") (.int 300) behaviour
      (Step.runPauses pauses) s
    (s.links.map Link.isClosed = [false] ∧ x.1.toBool = true ∧
        x.2.links.map Link.isClosed = [true, false]) ∧
      (Run.connect 0 (.text "host") (.int 1) (.int 1) behaviour (Step.runPauses [])
          (withManager .bare { Config.standard with pollInterval := 9223372036855 })).1
        = .error (.raised Clock.notCounted) ∧
      Decision s 0 "host" (.text " 1_9 ") 300 behaviour (Step.runPauses pauses) x.1 x.2 ∧
      (∀ r s', Decision s 0 "host" (.text " 1_9 ") 300 behaviour (Step.runPauses pauses) r s' →
        x.1 = r) ∧
      ∀ n, readPort (.text " 1_9 ") = .ok n → x = Run.connect 0 (.text "host") (.int n) (.int 300)
        behaviour (Step.runPauses pauses) s := by
  have hreached : ((withManager .bare .standard).after redialSteps).Reached
      fun step => !step.isByHand :=
    ⟨_, redialSteps, ⟨.bare, .standard, .inr rfl⟩, by decide, List.mem_cons_self⟩
  refine ⟨by decide +kernel, rfl, connect_decides hreached (by decide +kernel) (by decide +kernel)
    (by decide +kernel) "host" (.inl ⟨_, rfl⟩) 300
    (fun _ h => by simp [ChannelBehaviour.setupRaises?] at h) (by decide +kernel) (by decide)⟩

/-! ## Failures while a connection is set up -/

/-- **Every ordinary exception while a channel is set up is a connect failure** that carries it, and
the manager is not connected afterwards. Not so for an exception while calls are bound to a link
that has become ready: it is raised as it is, and the manager counts as connected although its calls
are bound to nothing. -/
theorem setup_failures (hs : s.Reached fun step => !step.isByHand) (hm : m < s.managers.length)
    (hfree : (s.manager m).isBusy = false) (hparted : s.isParted m = true) (host : String)
    {port : Value} {n : Int} (hport : readPort port = .ok n) (hin : InRange n) :
    (∀ (behaviour : ChannelBehaviour) (r : Raised), behaviour.setupRaises? = some r →
      r.isOrdinary = true → ∀ (timeout : Value) (pause : Nat → Run Unit),
        let x := Run.connect m (.text host) port timeout behaviour pause s
        x.1 = .error (.connect (.setup r)) ∧ x.2.isConnected m = false) ∧
      ∀ (behaviour : ChannelBehaviour) (r : Raised), behaviour.setupRaises? = none →
        behaviour.bindingRaises? = some r → ∀ (timeout : Int) (pauses : List (Nat × List Step)),
          Numeral.isShort timeout = true → 1 ≤ (s.manager m).config.pollInterval →
          Step.pausesWithin (fun step => !step.isByHand) pauses = true →
          (∀ pause ∈ pauses, ∀ step ∈ pause.2, step.isInterrupt = false) →
          ∀ (count : Nat) (seconds : Binary64),
            (s.announced m (targetText host n) timeout behaviour).Sighted (Step.runPauses pauses)
              (s.pauseLength m) s.links.length (s.patience m timeout) 1 count seconds →
            let x := Run.connect m (.text host) port (.int timeout) behaviour
              (Step.runPauses pauses) s
            x.1 = .error (.raised r) ∧ x.2.isConnected m = true ∧
              (x.2.manager m).dispatcher? = none := by
  have hav := hs.available hm hfree
  have hmay := Scene.mayConnect_of_isParted hparted
  refine ⟨fun behaviour r hraises hordinary timeout pause => ?_,
    fun behaviour r hquiet hraises timeout pauses hshort hinterval hpauses hsmooth count seconds
      hseen => ?_⟩
  · obtain ⟨s', hrun, hmanagers, hhandles, -⟩ :=
      Run.connect_run_unmade host timeout pause hav hmay hport hin hraises
    dsimp only
    rw [hrun, if_pos hordinary, Scene.isConnected_congr hmanagers hhandles]
    exact ⟨rfl, Scene.isConnected_of_isParted hparted⟩
  · have hpause : ∀ k, Run.Keeps (Governs none) (Step.runPauses pauses k) :=
      Step.keeps_runPauses Run.governs_respects pauses
        (Step.pausesWithin_mono (fun _ h => (Step.of_not_isByHand h).2) pauses hpauses)
    have huses := (Run.uses_awaited hav hmay (Run.governs_afterPauses (targetText host n) timeout
      behaviour hav hmay hpause seconds count)).2
    dsimp only
    rw [Run.connect_run_sighted hav hmay hport hin hquiet hshort hinterval hpause
      (Step.runPauses_ok hsmooth) hseen, hraises]
    refine ⟨rfl, ?_, huses.dispatcher⟩
    rw [Scene.isConnected_eq_ready huses.current]
    exact hseen.seen

/-- What listening to a channel raises is a connect failure; what binding calls to it raises is
not. -/
theorem setup_failures_boom :
    let s := withManager .bare .standard
    let boom : Raised := ⟨"RuntimeError", "boom"⟩
    let x := Run.connect 0 (.text "host") (.int 1) (.int 0)
      ⟨some "READY", none, some boom, none, none⟩ (fun _ => pure ()) s
    let y := Run.connect 0 (.text "host") (.int 1) (.int 0)
      ⟨some "READY", none, none, some boom, none⟩ (Step.runPauses []) s
    (x.1 = .error (.connect (.setup boom)) ∧ x.2.isConnected 0 = false) ∧
      y.1 = .error (.raised boom) ∧ y.2.isConnected 0 = true ∧
        (y.2.manager 0).dispatcher? = none := by
  have hreached : (withManager .bare .standard).Reached fun step => !step.isByHand :=
    ⟨_, [], ⟨.bare, .standard, .inr rfl⟩, rfl, List.mem_cons_self⟩
  obtain ⟨hmaking, hbinding⟩ := setup_failures (m := 0) hreached (by decide) rfl rfl "host"
    (show readPort (.int 1) = .ok 1 from rfl) (by decide)
  exact ⟨hmaking _ _ rfl (by decide) _ _, hbinding _ _ rfl rfl 0 [] (by decide) (by decide) rfl
    nofun 0 .zero ⟨Nat.zero_le _, fun h => absurd rfl h, by decide, nofun⟩⟩

end Session

end VectorLink
