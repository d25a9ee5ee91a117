import VectorLink.Proofs.Chronicle
import VectorLink.Proofs.Parting

/-!
# Whether a manager lets itself be connected

A manager says by its connectivity whether it has a link that stands in the way of another: it has
none if it was never connected, or if the link was shut down or terminated
(`Connectivity.invites`). A connect does not ask for that. It looks whether the handle in use was
shut down or terminated, so it asks the handle and not the channel. The two agree wherever the
manager ended the link itself.

**They disagree in exactly one case** (`Session.refuses_iff`): the channel itself reports that it is
shut down. Then the manager says that it is shut down, but its handle was not. A connect is refused,
since there is a link in use, and so is a disconnect, since the client is not connected; neither
changes anything, so the manager is stranded with a link that is of no use any more
(`Session.Stranded`).
-/

namespace VectorLink

/-- **Whether a connectivity says that nothing is in the way of a connect.** -/
def Connectivity.invites : Connectivity → Bool
  | .notCreated | .shutdown | .terminated => true
  | _ => false

/-- What a channel reports is not that a link is terminated, or that there is none. -/
theorem Connectivity.invites_of_reportable {c : Connectivity} (hc : c ∈ reportable) :
    c.invites = true ↔ c = .shutdown := by
  revert c
  decide

theorem Connectivity.ofReport_mem (report : String) : ofReport report ∈ reportable := by
  unfold ofReport
  cases hfind : reportable.find? fun c => c.name == report with
  | none => decide
  | some c => exact List.mem_of_find?_eq_some hfind

namespace Handle

variable {h : Handle}

theorem isLive_iff : h.isLive = true ↔ h.isShutdown = false ∧ h.isTerminated = false := by
  rw [isLive, Bool.not_eq_true', Bool.or_eq_false_iff]

/-- A live handle says what its channel reported. -/
theorem state_of_isLive (hlive : h.isLive = true) : h.state = h.reported := by
  obtain ⟨hshut, hterm⟩ := isLive_iff.mp hlive
  rw [state, hterm, hshut]
  rfl

/-- A handle that is live no more says how it ended. -/
theorem invites_of_not_isLive (hdead : h.isLive = false) : h.state.invites = true := by
  rw [isLive, Bool.not_eq_false', Bool.or_eq_true] at hdead
  unfold state
  cases hterm : h.isTerminated with
  | true => rfl
  | false => rw [hdead.resolve_right (Bool.eq_false_iff.mp hterm)]; rfl

/-- **What a live handle remembers was reported**, or nothing was. -/
theorem AsTold.reported_mem {i : Nat} {history : List Event} (ht : h.AsTold i history)
    (hopen : h.isShutdown = false) : h.reported ∈ Connectivity.reportable := by
  rw [ht.reported hopen]
  cases Chronicle.lastReport? i history with
  | none => decide
  | some report => exact Connectivity.ofReport_mem report

end Handle

namespace Session

/-- **A manager is stranded**: the handle in use is neither shut down nor terminated, but its
channel reported that it is shut down. -/
def Stranded (s : Session) (m : Nat) : Prop :=
  ∃ h, s.current? m = some h ∧ h.isShutdown = false ∧ h.isTerminated = false ∧
    h.reported = .shutdown

variable {s : Session} {m : Nat} {p : Step → Bool}

theorem Stranded.connectivity (hs : s.Stranded m) : s.connectivity m = .shutdown := by
  obtain ⟨h, hcur, hshut, hterm, hrep⟩ := hs
  rw [Scene.connectivity, hcur, ← hrep]
  exact Handle.state_of_isLive (Handle.isLive_iff.mpr ⟨hshut, hterm⟩)

theorem Stranded.mayConnect (hs : s.Stranded m) : s.mayConnect m = false := by
  obtain ⟨h, hcur, hshut, hterm, -⟩ := hs
  exact Scene.mayConnect_eq_false.mpr ⟨h, hcur, Handle.isLive_iff.mpr ⟨hshut, hterm⟩⟩

theorem Stranded.isConnected (hs : s.Stranded m) : s.isConnected m = false := by
  obtain ⟨h, hcur, hshut, hterm, hrep⟩ := hs
  have hstate := Handle.state_of_isLive (Handle.isLive_iff.mpr ⟨hshut, hterm⟩)
  rw [Scene.isConnected, hcur]
  dsimp only
  rw [hstate, hrep]
  rfl

/-- **What a manager says and what a connect looks at agree**, unless the manager is stranded. -/
theorem Told.invites_iff (hs : s.Told) :
    ((s.connectivity m).invites = true ↔ s.mayConnect m = true) ↔ ¬ s.Stranded m := by
  refine ⟨fun hagree hstranded => ?_, fun hnot => ⟨fun hinvites => ?_, fun hfree => ?_⟩⟩
  · rw [hstranded.connectivity, hstranded.mayConnect] at hagree
    exact Bool.false_ne_true (hagree.mp rfl)
  · refine (Bool.not_eq_false _).mp fun hbarred => hnot ?_
    obtain ⟨h, hcur, hlive⟩ := Scene.mayConnect_eq_false.mp hbarred
    obtain ⟨hshut, hterm⟩ := Handle.isLive_iff.mp hlive
    obtain ⟨i, -, hi⟩ := Option.bind_eq_some_iff.mp hcur
    rw [Scene.connectivity, hcur] at hinvites
    dsimp only at hinvites
    rw [Handle.state_of_isLive hlive] at hinvites
    have hmem := (hs.asTold hi).reported_mem hshut
    exact ⟨h, hcur, hshut, hterm, (Connectivity.invites_of_reportable hmem).mp hinvites⟩
  · rw [Scene.connectivity]
    cases hcur : s.current? m with
    | none => rfl
    | some h =>
      rw [Scene.mayConnect, hcur, Option.all_some, Bool.not_eq_true'] at hfree
      exact Handle.invites_of_not_isLive hfree

/-- **A connect is refused because of the link in use** exactly if that link is live. -/
theorem alreadyConnected_iff (hm : m < s.managers.length) (hfree : (s.manager m).isBusy = false)
    (host port timeout : Value) (behaviour : ChannelBehaviour) {pause : Nat → Run Unit}
    (hpause : ∀ k, Run.FailsInWait (pause k)) :
    (∃ target, (Run.connect m host port timeout behaviour pause s).1
      = .error (.connect (.alreadyConnected target))) ↔ s.mayConnect m = false := by
  refine ⟨fun ⟨target, h⟩ => ?_, fun hbarred => ?_⟩
  · refine (Bool.not_eq_true _).mp fun hmay => ?_
    exact Run.connect_welcomes hpause hm hmay host port timeout behaviour target h
  · obtain ⟨h, hcur, hlive⟩ := Scene.mayConnect_eq_false.mp hbarred
    obtain ⟨s', hrun, -⟩ :=
      Run.connect_run_live host port timeout behaviour pause hm hfree hcur hlive
    exact ⟨h.target, congrArg Prod.fst hrun⟩

/-- **A free manager refuses to connect exactly if its connectivity does not invite to, unless it is
stranded**, at every moment of every run and whatever it is to connect to. A stranded manager says
that it is shut down, and yet it refuses to connect because of the link in use, and to disconnect
because it is not connected. Neither changes anything. -/
theorem refuses_iff (hs : s.Reached p) (hm : m < s.managers.length)
    (hfree : (s.manager m).isBusy = false) (host port timeout : Value)
    (behaviour : ChannelBehaviour) (pauses : List (Nat × List Step)) :
    let x := Run.connect m host port timeout behaviour (Step.runPauses pauses) s
    ((((∃ target, x.1 = .error (.connect (.alreadyConnected target))) ↔
        s.connectivity m ∉ [.notCreated, .shutdown, .terminated]) ↔ ¬ s.Stranded m) ∧
      (s.Stranded m → s.connectivity m = .shutdown ∧
        (∃ target, x.1 = .error (.connect (.alreadyConnected target))) ∧
        x.2.toScene = s.toScene ∧
        ∀ during, let y := Run.disconnect m during s
          y.1 = .ok (.failed .nothing .notConnected "") ∧ y.2.toScene = s.toScene)) := by
  intro x
  have hrefused := alreadyConnected_iff hm hfree host port timeout behaviour
    (Step.failsWith_runPauses pauses)
  have hinvites : s.connectivity m ∉ [.notCreated, .shutdown, .terminated] ↔
      ¬ (s.connectivity m).invites = true := by
    cases s.connectivity m <;> decide
  refine ⟨?_, fun hstranded => ?_⟩
  · rw [hrefused, hinvites, ← Bool.not_eq_true, not_iff_not, ← hs.told.invites_iff]
    exact iff_comm
  · have hconn := hstranded.connectivity
    refine ⟨hconn, hrefused.mpr hstranded.mayConnect, ?_, fun during => ?_⟩
    · obtain ⟨h, hcur, hlive⟩ := Scene.mayConnect_eq_false.mp hstranded.mayConnect
      obtain ⟨s', hrun, hsame⟩ := Run.connect_run_live host port timeout behaviour
        (Step.runPauses pauses) hm hfree hcur hlive
      show (Run.connect m host port timeout behaviour (Step.runPauses pauses) s).2.toScene = _
      rw [hrun]
      exact hsame
    · obtain ⟨s', hrun, hsame⟩ :=
        Run.disconnect_run_free hm hfree hstranded.isConnected during
      intro y
      exact ⟨congrArg Prod.fst hrun, (congrArg (fun z => z.2.toScene) hrun).trans hsame⟩

/-- A channel is ready and then reports that it is shut down. -/
def strandedSteps : List Step :=
  [.connectManager (.text "host") (.int 1) (.int 0) .smooth [], .notify 0 "SHUTDOWN" false]

/-- The manager says that it is shut down, and refuses to connect all the same. -/
theorem refuses_iff_stranded : let s := (withManager .bare .standard).after strandedSteps
    s.connectivity 0 = .shutdown ∧ (s.manager 0).isBusy = false ∧
      (∃ target, (Run.connect 0 (.text "host") (.int 1) (.int 0) .smooth (Step.runPauses []) s).1
        = .error (.connect (.alreadyConnected target))) ∧
      (Run.disconnect 0 [] s).1 = .ok (.failed .nothing .notConnected "") := by
  intro s
  have hreached : s.Reached fun _ => true :=
    ⟨_, strandedSteps, ⟨.bare, .standard, .inr rfl⟩, Step.allWithin_true _, List.mem_cons_self⟩
  have hfree : (s.manager 0).isBusy = false := by decide +kernel
  have hstranded : s.Stranded 0 :=
    ⟨⟨"host:1", .shutdown, 0, false, false⟩, by decide +kernel, rfl, rfl, rfl⟩
  obtain ⟨-, hleft⟩ := refuses_iff hreached (show 0 < s.managers.length by decide +kernel) hfree
    (.text "host") (.int 1) (.int 0) .smooth []
  obtain ⟨hconn, hrefused, -, hparting⟩ := hleft hstranded
  exact ⟨hconn, hfree, hrefused, (hparting []).1⟩

end Session

end VectorLink
