import VectorLink.Proofs.Chronicle
import VectorLink.Proofs.Parting

/-!
# Who answers for a channel

A channel takes up a socket until it is closed, so somebody has to be able to close it. Three can: a
manager that uses its link, since it may still disconnect; the last call that runs on a link that
was given up; and nobody needs to if the channel is closed already (`Scene.Accounted`). As long as
closing raises nothing, a link that has a handle is always accounted for, whatever failed, timed out
or was interrupted, and however many links came after it.

**A link without a handle never is.** A handle comes into being by listening to its channel, so
where listening raises, the channel exists and its handle does not. The connect fails, no manager
has heard of the link, and no later step can reach the channel: it stays open for good
(`Session.accounted_iff`). The obvious attempt to rule this out, that a connect which fails leaves
the links as they were, is true of every failure before the channel is made, and of no other.
-/

namespace VectorLink

/-! ## Handles and channels -/

/-- **A link has a handle unless listening to its channel raises**, and it is not closed without. -/
structure Link.Attended (l : Link) : Prop where
  handle : l.handle?.isSome = l.behaviour.listeningRaises?.isNone
  open_of_none : l.handle? = none → l.isClosed = false

namespace Link

/-- A change of the handle brings none and takes none away. -/
theorem Attended.onHandle {l : Link} (hl : l.Attended) (f : Handle → Handle) :
    (l.onHandle f).Attended where
  handle := by
    show (l.handle?.map f).isSome = _
    rw [Option.isSome_map]
    exact hl.handle
  open_of_none hn := hl.open_of_none (Option.map_eq_none_iff.mp hn)

theorem attended_law : Law Attended where
  fresh _ _ _ _ hraises := ⟨(congrArg Option.isNone hraises).symm, fun _ => rfl⟩
  listen _ _ _ hquiet := ⟨(congrArg Option.isNone hquiet).symm, nofun⟩
  enter _ hl := hl.onHandle _
  leave _ hl := hl.onHandle _
  notify _ _ hl := hl.onHandle _
  shutDown _ hl :=
    ⟨(hl.onHandle Handle.shutDown).handle, (hl.onHandle Handle.shutDown).open_of_none⟩
  close l hsome hl := by
    refine ⟨(hl.onHandle Handle.terminate).handle, fun hn => ?_⟩
    rw [Option.map_eq_none_iff.mp hn] at hsome
    cases hsome
  closeInVain _ hl := ⟨hl.handle, hl.open_of_none⟩

end Link

/-- **Somebody answers for a channel**: a manager uses its link, or it is closed, or calls are
running on it. -/
def Scene.Accounted (s : Scene) (i : Nat) : Prop :=
  (∃ m, (s.manager m).current? = some i) ∨ s.isOpen i = false ∨ s.idle i = false

namespace Session

variable {s s' : Session} {i m : Nat}

/-- A channel that is open, on a link without a handle that no manager uses, is lost. -/
theorem not_accounted {l : Link} (hl : s.links[i]? = some l) (hh : l.handle? = none)
    (hopen : l.isClosed = false) (hcur : ∀ m, (s.manager m).current? ≠ some i) :
    ¬ s.Accounted i := by
  rintro (⟨m, h⟩ | h | h)
  · exact hcur m h
  · rw [Scene.isOpen, hl, Option.map_some, Option.getD_some, hopen] at h
    exact Bool.false_ne_true h.symm
  · rw [Scene.idle, Scene.handle?, hl, Option.bind_some, hh] at h
    exact Bool.false_ne_true h.symm

/-- **A channel is accounted for exactly if it could be listened to**, at every moment of every run,
if closing it raises nothing. -/
theorem Reached.accounted (hs : s.Reached fun step => !step.isByHand) {l : Link}
    (hl : s.links[i]? = some l) (hquiet : l.behaviour.closingRaises? = none) :
    s.Accounted i ↔ l.behaviour.listeningRaises? = none := by
  have hl' := hs.link Link.attended_law i l hl
  have hcustody := hs.custody.now
  cases hh : l.handle? with
  | none =>
    have hraises := hl'.handle
    rw [hh] at hraises
    have hnot : l.behaviour.listeningRaises? ≠ none := fun h => by
      rw [h] at hraises
      exact Bool.false_ne_true hraises
    refine iff_of_false (not_accounted hl hh (hl'.open_of_none hh) fun m hcur => ?_) hnot
    -- what is in use was put to use, and has a handle
    have hsome := hcustody.here m i (hcustody.current m i hcur)
    rw [Scene.handle?, hl, Option.bind_some, hh] at hsome
    exact Bool.false_ne_true hsome
  | some h =>
    have hi : s.handle? i = some h := handle?_eq_some.mpr ⟨l, hl, hh⟩
    have hlistened := hl'.handle
    rw [hh] at hlistened
    refine iff_of_true ?_ (Option.isNone_iff_eq_none.mp hlistened.symm)
    obtain ⟨m, hmade⟩ := hcustody.made i (Option.isSome_of_eq_some hi)
    obtain hcur | hdead := hcustody.replaced m i hmade
    · exact .inl ⟨m, hcur⟩
    · -- a link that was given up is closed by the last call that runs on it
      have htidy := (hs.mono fun _ h => (Step.of_not_isByHand h).1).tidy.now
      rw [Scene.live, hi, Option.any_some] at hdead
      have hret : s.retired i = true := by
        rw [Scene.retired, hi, Option.any_some]
        refine (Bool.not_eq_false _).mp fun hopen => ?_
        have hlive := Handle.isLive_of_ended (fun ht => ((htidy i l h hl hh).ended ht).1) hopen
        exact Bool.false_ne_true (hdead.symm.trans hlive)
      obtain ⟨hopen, -⟩ := htidy.closed hl hquiet hret
      refine .inr ?_
      rw [hopen]
      cases s.idle i with
      | true => exact .inl rfl
      | false => exact .inr rfl

end Session

/-! ## Connects that fail before a link is in use -/

namespace Run

open Session

variable {s : Session} {m : Nat} {host port timeout : Value} {behaviour : ChannelBehaviour}
  {pause : Nat → Run Unit} {r : Raised}

/-- **A connect that reports what setting up raised** was stopped before a channel was made, or when
the channel could not be listened to. -/
theorem establish_setup (hpause : ∀ k, FailsInWait (pause k))
    (hs : s.Valid)
    (h : (establish m host port timeout behaviour pause s).1 = .error (.connect (.setup r))) :
    (establish m host port timeout behaviour pause s).2.toScene = s.toScene ∨
      behaviour.listeningRaises? = some r ∧ ∃ target options,
        (establish m host port timeout behaviour pause s).2.toScene
          = (s.addLink (.fresh target options behaviour)).toScene := by
  cases hchoose : chooseTarget m host port s with
  | mk c t =>
    cases c with
    | error e =>
      have hnoted : OnlyNoted s t := (keeps_chooseTarget m host port).related hs hchoose
      rw [establish_run_untargeted hchoose]
      exact .inl hnoted.scene
    | ok target =>
      obtain ⟨rfl, -⟩ := chooseTarget_ok hchoose
      cases hsetup : behaviour.setupRaises? with
      | none =>
        -- from here on a connect fails as a wait does
        rw [establish_run_opened hchoose hsetup] at h
        exact absurd (failsWith_await hpause m target _ _ h) Bool.false_ne_true
      | some r' =>
        obtain ⟨s', hset, hscene⟩ :=
          setUp_run_raised target (t.manager m).config.channelOptions hsetup t
        rw [establish_run_targeted hchoose, bind_run_error hset] at h ⊢
        have hsame : r' = r := by
          split at h
          · exact ConnectFailure.setup.inj (Failure.connect.inj (Except.error.inj h))
          · cases h
        subst hsame
        rw [hscene, abandonLink]
        cases hmake : behaviour.makingRaises? with
        | some _ => exact .inl rfl
        | none =>
          rw [ChannelBehaviour.setupRaises?, hmake] at hsetup
          exact .inr ⟨hsetup, _, _, rfl⟩

/-- The same of a whole connect. -/
theorem connect_setup (hpause : ∀ k, FailsInWait (pause k))
    (hs : s.Valid) (hfree : (s.manager m).isBusy = false)
    (h : (connect m host port timeout behaviour pause s).1 = .error (.connect (.setup r))) :
    (connect m host port timeout behaviour pause s).2.toScene = s.toScene ∨
      behaviour.listeningRaises? = some r ∧ ∃ target options,
        (connect m host port timeout behaviour pause s).2.toScene
          = (s.addLink (.fresh target options behaviour)).toScene := by
  have hoccupied : (s.occupied m).Valid := (evolves_changeManager s m _).valid hs
  rw [connect_run _ _ _ _ _ hfree] at h ⊢
  cases hrun : establish m host port timeout behaviour pause (s.occupied m) with
  | mk e t =>
    rw [hrun] at h
    cases e with
    | ok name => cases h
    | error e =>
      obtain rfl := Except.error.inj h
      have hin := establish_setup hpause hoccupied (congrArg Prod.fst hrun)
      rw [hrun] at hin
      obtain hsame | ⟨hraises, target, options, hadd⟩ := hin
      · exact .inl (released_toScene hfree hsame)
      · refine .inr ⟨hraises, target, options, ?_⟩
        exact released_toScene (s := s.addLink (.fresh target options behaviour)) hfree hadd

end Run

namespace Session

variable {s : Session} {m : Nat}

/-- **Channels are lost exactly where they cannot be listened to.** At every moment of every run a
channel that closes without raising is accounted for if and only if listening to it raised nothing.
And a connect that fails with what setting up raised leaves everything as it was, unless that came
of listening: then a channel is left over that nobody answers for. -/
theorem accounted_iff (hs : s.Reached fun step => !step.isByHand) :
    (∀ (i : Nat) (l : Link), s.links[i]? = some l → l.behaviour.closingRaises? = none →
      (s.Accounted i ↔ l.behaviour.listeningRaises? = none)) ∧
    ∀ m, (s.manager m).isBusy = false →
      ∀ (host port timeout : Value) (behaviour : ChannelBehaviour)
        (pauses : List (Nat × List Step)) (r : Raised),
        let x := Run.connect m host port timeout behaviour (Step.runPauses pauses) s
        x.1 = .error (.connect (.setup r)) → x.2.toScene = s.toScene ∨
          behaviour.listeningRaises? = some r ∧
            x.2.links.map Link.behaviour = s.links.map Link.behaviour ++ [behaviour] ∧
            ¬ x.2.Accounted s.links.length := by
  refine ⟨fun i l hl hquiet => hs.accounted hl hquiet, ?_⟩
  intro m hfree host port timeout behaviour pauses r x hx
  obtain hsame | ⟨hraises, target, options, hadd⟩ :=
    Run.connect_setup (Step.failsWith_runPauses pauses) hs.valid hfree hx
  · exact .inl hsame
  · refine .inr ⟨hraises, ?_, ?_⟩
    · rw [show x.2.links = s.links ++ [.fresh target options behaviour] from
        congrArg Scene.links hadd, List.map_append]
      rfl
    · rw [show x.2.toScene = _ from hadd]
      refine not_accounted (links_addLink_length s _) rfl rfl fun n hcur => ?_
      -- what is in use was made before
      obtain ⟨h, hi⟩ := hs.told.inUse n _ hcur
      exact Nat.lt_irrefl _ (lt_length_of_handle? hi)

/-- A channel that cannot be listened to. -/
def deafBehaviour : ChannelBehaviour := ⟨none, none, some ⟨"RuntimeError", "boom"⟩, none, none⟩

/-- A channel cannot be listened to, and another one can and is closed. -/
def deafSteps : List Step :=
  [.connectManager (.text "host") (.int 1) (.int 0) deafBehaviour [],
    .connectManager (.text "host") (.int 2) (.int 0) .smooth [], .disconnect []]

/-- The first channel is lost, the second is not, and one more connect that cannot listen loses a
third. -/
theorem accounted_iff_deaf : let s := (withManager .bare .standard).after deafSteps
    let x := Run.connect 0 (.text "host") (.int 1) (.int 0) deafBehaviour (Step.runPauses []) s
    s.links.map Link.isClosed = [false, true] ∧ ¬ s.Accounted 0 ∧ s.Accounted 1 ∧
      x.1 = .error (.connect (.setup ⟨"RuntimeError", "boom"⟩)) ∧ ¬ x.2.Accounted 2 := by
  have hreached : ((withManager .bare .standard).after deafSteps).Reached
      fun step => !step.isByHand :=
    ⟨_, deafSteps, ⟨.bare, .standard, .inr rfl⟩, by decide, List.mem_cons_self⟩
  have hlost : ((withManager .bare .standard).after deafSteps).links[0]?
      = some (.fresh "host:1" Config.standard.channelOptions deafBehaviour) := by decide +kernel
  have hkept : ((withManager .bare .standard).after deafSteps).links[1]?
      = some ⟨"host:2", Config.standard.channelOptions, .smooth, true, 1, 0,
        some ⟨"host:2", .ready, 0, true, true⟩⟩ := by decide +kernel
  have hlength : ((withManager .bare .standard).after deafSteps).links.length = 2 := by
    decide +kernel
  obtain ⟨hiff, hfails⟩ := accounted_iff hreached
  have hfailed : (Run.connect 0 (.text "host") (.int 1) (.int 0) deafBehaviour (Step.runPauses [])
      ((withManager .bare .standard).after deafSteps)).1
        = .error (.connect (.setup ⟨"RuntimeError", "boom"⟩)) := rfl
  have hleft := hfails 0 (by decide +kernel) (.text "host") (.int 1) (.int 0) deafBehaviour [] _
    hfailed
  rw [hlength] at hleft
  refine ⟨by decide +kernel, fun h => ?_, (hiff 1 _ hkept rfl).mpr rfl, hfailed, ?_⟩
  · cases (hiff 0 _ hlost rfl).mp h
  · obtain hsame | ⟨-, -, hlost⟩ := hleft
    · have hgrown : (Run.connect 0 (.text "host") (.int 1) (.int 0) deafBehaviour
          (Step.runPauses []) ((withManager .bare .standard).after deafSteps)).2.links.length
            ≠ ((withManager .bare .standard).after deafSteps).links.length := by decide +kernel
      exact absurd (congrArg (fun t : Scene => t.links.length) hsame) hgrown
    · exact hlost

end Session

end VectorLink
