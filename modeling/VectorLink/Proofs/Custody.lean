import VectorLink.Proofs.Binding
import VectorLink.Proofs.Upkeep

/-!
# Who keeps a handle

Managers come and go through links: each connection that gets as far as a link makes a new one, and
a link that was replaced may live on for a long time, because calls still run on it. So a client can
have many handles at once. What it never has is two that are open: a handle that is not shut down is
the one in use by the manager that made it, and calls are bound to no other
(`Session.one_open_handle`).

A manager does not check this when it binds its calls. It rests on three things. A manager makes a
new link only when the old one is shut down. No two managers ever use one link, so what one of them
shuts down is no concern of the other. And while a link is waited for its manager is left alone, so
the link that turned out ready is still the one in use.

That a handle may be closed is left open at first: custody is about handles that are *live*, neither
shut down nor terminated. Since a handle is terminated only when it was shut down
(`Link.Tidy.ended`), this comes to the same in the end.
-/

namespace VectorLink

namespace Scene

/-- Whether a link has a handle that is neither shut down nor terminated. -/
def live (s : Scene) (i : Nat) : Bool := (s.handle? i).any Handle.isLive

variable {s s' : Scene} {i m : Nat}

theorem live_congr (h : (s'.handle? i).map Handle.isLive = (s.handle? i).map Handle.isLive) :
    s'.live i = s.live i := by
  unfold live
  cases hi : s.handle? i <;> cases hi' : s'.handle? i <;> simp_all

theorem live_of_ready (h : s.ready i = true) : s.live i = true := by
  obtain ⟨hd, hi, hstate⟩ := ready_iff.mp h
  obtain ⟨hterm, hshut, -⟩ := Handle.state_eq_ready.mp hstate
  rw [live, hi, Option.any_some, Handle.isLive, hterm, hshut]
  rfl

/-- A manager may connect once the link that it uses is live no more. -/
theorem live_of_mayConnect (h : s.mayConnect m = true)
    (hcur : (s.manager m).current? = some i) : s.live i = false := by
  rw [mayConnect, current?, hcur, Option.bind_some] at h
  rw [live]
  cases hi : s.handle? i with
  | none => rfl
  | some hd => simpa [hi] using h

end Scene

namespace Session

/-! ## Custody -/

/-- **Every link with a handle is kept by one manager**, the one that it was made for. It is the one
in use, or else no longer live; and calls are bound only to a link that is in use and live. -/
structure Custody (s : Session) : Prop where
  here : ∀ m i : Nat, Event.installed m i ∈ s.history → (s.handle? i).isSome
  made : ∀ i : Nat, (s.handle? i).isSome → ∃ m, Event.installed m i ∈ s.history
  sole : ∀ m n i : Nat, Event.installed m i ∈ s.history → Event.installed n i ∈ s.history → m = n
  current : ∀ m i : Nat, (s.manager m).current? = some i → Event.installed m i ∈ s.history
  replaced : ∀ m i : Nat, Event.installed m i ∈ s.history →
    (s.manager m).current? = some i ∨ s.live i = false
  bound : ∀ m i : Nat, (s.manager m).dispatcher? = some i →
    (s.manager m).current? = some i ∧ s.live i = true

variable {s s' s'' : Session} {m i : Nat} {exempt? : Option Nat}

/-- What changes neither the links in use nor who made them only has to bind calls in order. -/
theorem Custody.carry (hs : s.Custody)
    (huses : ∀ m i : Nat, Event.installed m i ∈ s'.history ↔ Event.installed m i ∈ s.history)
    (hsome : ∀ i, (s'.handle? i).isSome = (s.handle? i).isSome)
    (hlive : ∀ i, s.live i = false → s'.live i = false)
    (hcur : ∀ m, (s'.manager m).current? = (s.manager m).current?)
    (hbound : ∀ m i : Nat, (s'.manager m).dispatcher? = some i →
      (s.manager m).current? = some i ∧ s'.live i = true) : s'.Custody where
  here m i h := by
    rw [hsome]
    exact hs.here m i ((huses m i).mp h)
  made i h := by
    obtain ⟨m, hm⟩ := hs.made i (hsome i ▸ h)
    exact ⟨m, (huses m i).mpr hm⟩
  sole m n i h h' := hs.sole m n i ((huses m i).mp h) ((huses n i).mp h')
  current m i h := (huses m i).mpr (hs.current m i (hcur m ▸ h))
  replaced m i h := by
    rw [hcur]
    exact (hs.replaced m i ((huses m i).mp h)).imp_right (hlive i)
  bound m i h := by
    rw [hcur]
    exact hbound m i h

/-- What leaves handles live or not and managers as they are keeps custody. -/
theorem Custody.carry_same (hs : s.Custody)
    (huses : ∀ m i : Nat, Event.installed m i ∈ s'.history ↔ Event.installed m i ∈ s.history)
    (hlive : ∀ i, (s'.handle? i).map Handle.isLive = (s.handle? i).map Handle.isLive)
    (hwire : ∀ m, (s'.manager m).current? = (s.manager m).current? ∧
      (s'.manager m).dispatcher? = (s.manager m).dispatcher?) : s'.Custody := by
  refine hs.carry huses (fun i => ?_) (fun i h => (Scene.live_congr (hlive i)).trans h)
    (fun m => (hwire m).1) fun m i h => ?_
  · have := congrArg Option.isSome (hlive i)
    rwa [Option.isSome_map, Option.isSome_map] at this
  · obtain ⟨hcur, hl⟩ := hs.bound m i ((hwire m).2 ▸ h)
    exact ⟨hcur, (Scene.live_congr (hlive i)).trans hl⟩

/-- What is written down about anything but managers keeps custody. -/
theorem Custody.push (hs : s.Custody) {e : Event} (he : e.isOfManager = false) :
    (s.push e).Custody :=
  hs.carry_same (fun _ _ => mem_cons_of_isOfManager rfl he) (fun _ => rfl) fun _ => ⟨rfl, rfl⟩

/-- Shutting down the link in use and binding calls to nothing concerns no other manager, since no
other uses that link. -/
theorem Custody.part (hs : s.Custody) (hm : m < s.managers.length)
    (hcur : (s.manager m).current? = some i) :
    ((s.retire i).changeManager m fun mgr => { mgr with dispatcher? := none }).Custody := by
  have hmgr := manager_changeManager (s.retire i) (m := m) hm
  have hhandle : ∀ j, ((s.retire i).changeManager m
      fun mgr => { mgr with dispatcher? := none }).handle? j
        = if i = j then (s.handle? j).map Handle.shutDown else s.handle? j := by
    intro j
    show (s.retire i).handle? j = _
    by_cases hij : i = j
    · rw [if_pos hij, ← hij, handle?_retire]
    · rw [if_neg hij, retire, handle?_changeLink, if_neg hij, push_toScene]
  refine hs.carry (fun n j => ?_) (fun j => ?_) (fun j hl => ?_) (fun n => ?_) fun n j h => ?_
  · exact mem_cons_of_isOfManager rfl rfl
  · rw [hhandle]
    split
    · rw [Option.isSome_map]
    · rfl
  · rw [Scene.live, hhandle]
    split
    · cases s.handle? j <;> rfl
    · exact hl
  · rw [hmgr]
    split <;> rfl
  · rw [hmgr] at h
    split at h
    · cases h
    · next hn =>
      obtain ⟨hncur, hnlive⟩ := hs.bound n j h
      refine ⟨hncur, ?_⟩
      have hij : i ≠ j := by
        rintro rfl
        exact hn (hs.sole m n i (hs.current m i hcur) (hs.current n i hncur))
      rw [Scene.live, hhandle, if_neg hij]
      exact hnlive

/-- Calls are bound to the link in use while it is live. -/
theorem Custody.bindTo (hs : s.Custody) (hm : m < s.managers.length)
    (hcur : (s.manager m).current? = some i) (hlive : s.live i = true) :
    (s.bindTo m i).Custody := by
  have hmgr := manager_bindTo s hm i
  refine hs.carry (fun n j => ?_) (fun _ => rfl) (fun _ h => h) (fun n => ?_) fun n j h => ?_
  · show Event.installed n j ∈ Event.bound m i :: s.history ↔ _
    rw [List.mem_cons]
    exact or_iff_right (by simp)
  · rw [hmgr]
    split <;> rfl
  · rw [hmgr] at h
    split at h
    · next hn =>
      cases h
      rw [← hn]
      exact ⟨hcur, hlive⟩
    · exact hs.bound n j h

/-- **A new link is kept by the manager that puts it to use**, provided that the one it used before
is live no more. -/
theorem Custody.putToUse (hs : s.Custody) (hm : m < s.managers.length)
    (hfree : s.mayConnect m = true)
    (huses : ∀ n j : Nat, Event.installed n j ∈ s'.history ↔ Event.installed n j ∈ s.history)
    (hmgr : s'.managers = s.managers) {h : Handle} (hi : s'.handle? s.links.length = some h)
    (hother : ∀ j, j ≠ s.links.length → s'.handle? j = s.handle? j) :
    (s'.putToUse m s.links.length).Custody := by
  have hmanager := manager_putToUse s' (m := m) (hmgr ▸ hm) s.links.length
  have hsame : ∀ n, s'.manager n = s.manager n := fun n => by rw [Scene.manager, hmgr]; rfl
  have hmem : ∀ n j : Nat, Event.installed n j ∈ (s'.putToUse m s.links.length).history ↔
      (n = m ∧ j = s.links.length) ∨ Event.installed n j ∈ s.history := by
    intro n j
    show Event.installed n j ∈ Event.installed m s.links.length :: s'.history ↔ _
    rw [List.mem_cons, Event.installed.injEq, huses]
  have hhandle : ∀ j, (s'.putToUse m s.links.length).handle? j = s'.handle? j := fun _ => rfl
  -- there was no such link before
  have hnone : s.handle? s.links.length = none := by
    rw [Scene.handle?, List.getElem?_eq_none le_rfl]
    rfl
  have hold : ∀ n j : Nat, Event.installed n j ∈ s.history → j ≠ s.links.length := by
    rintro n j hj rfl
    have := hs.here n _ hj
    rw [hnone] at this
    exact Bool.false_ne_true this
  have hlive : ∀ j, j ≠ s.links.length → (s'.putToUse m s.links.length).live j = s.live j := by
    intro j hj
    rw [Scene.live, hhandle, hother j hj]
    rfl
  refine ⟨?here, ?made, ?sole, ?current, ?replaced, ?bound⟩
  case here =>
    intro n j hj
    rw [hhandle]
    obtain ⟨-, rfl⟩ | hj := (hmem n j).mp hj
    · rw [hi]
      rfl
    · rw [hother j (hold n j hj)]
      exact hs.here n j hj
  case made =>
    intro j hj
    by_cases hnew : j = s.links.length
    · exact ⟨m, (hmem m j).mpr (.inl ⟨rfl, hnew⟩)⟩
    · rw [hhandle, hother j hnew] at hj
      obtain ⟨n, hn⟩ := hs.made j hj
      exact ⟨n, (hmem n j).mpr (.inr hn)⟩
  case sole =>
    intro n n' j hj hj'
    obtain ⟨hn, hnew⟩ | hj := (hmem n j).mp hj
    · obtain ⟨hn', -⟩ | hj' := (hmem n' j).mp hj'
      · exact hn.trans hn'.symm
      · exact absurd hnew (hold n' j hj')
    · obtain ⟨-, hnew⟩ | hj' := (hmem n' j).mp hj'
      · exact absurd hnew (hold n j hj)
      · exact hs.sole n n' j hj hj'
  case current =>
    intro n j hj
    rw [hmanager, hsame] at hj
    split at hj
    · next hn =>
      cases hj
      exact (hmem n _).mpr (.inl ⟨hn.symm, rfl⟩)
    · exact (hmem n j).mpr (.inr (hs.current n j hj))
  case replaced =>
    intro n j hj
    rw [hmanager, hsame]
    obtain ⟨rfl, rfl⟩ | hj := (hmem n j).mp hj
    · rw [if_pos rfl]
      exact .inl rfl
    · rw [hlive j (hold n j hj)]
      split
      · next hn =>
        -- what the manager used before was live no more
        refine .inr ((hs.replaced n j hj).elim (fun hcur => ?_) id)
        exact Scene.live_of_mayConnect hfree (hn ▸ hcur)
      · exact hs.replaced n j hj
  case bound =>
    intro n j hj
    rw [hmanager, hsame] at hj ⊢
    split at hj
    · cases hj
    · next hn =>
      rw [if_neg hn]
      obtain ⟨hcur, hl⟩ := hs.bound n j hj
      rw [hlive j (hold n j (hs.current n j hcur))]
      exact ⟨hcur, hl⟩

/-! ## Stewards -/

/-- **Custody is kept, and a busy manager is left alone**, except for the one that the activity
itself has made busy. -/
structure Stewards (exempt? : Option Nat) (s s' : Session) : Prop where
  governs : Governs exempt? s s'
  custody : s.Always Wired → s.Always Custody → s'.Always Custody

theorem Stewards.refl (s : Session) : Stewards exempt? s s := ⟨.refl s, fun _ => id⟩

theorem Stewards.trans (h : Stewards exempt? s s') (h' : Stewards exempt? s' s'') :
    Stewards exempt? s s'' :=
  ⟨h.governs.trans h'.governs,
    fun hw hc => h'.custody (h.governs.upholds.always hw) (h.custody hw hc)⟩

theorem Stewards.exempt (h : Stewards none s s') : Stewards exempt? s s' :=
  ⟨h.governs.exempt, h.custody⟩

theorem Stewards.of_free (h : Stewards (some m) s s') (hfree : (s.manager m).isBusy = false) :
    Stewards none s s' := ⟨h.governs.of_free hfree, h.custody⟩

/-- It may be taken for granted that the wiring was in order. -/
theorem Stewards.of_wired (hev : s.Evolves s') (h : s.Always Wired → Stewards exempt? s s') :
    Stewards exempt? s s' :=
  ⟨.of_wired hev fun hw => (h hw).governs, fun hw => (h hw).custody hw⟩

/-- What adds no moment only has to keep custody. -/
theorem Stewards.of_governs (hg : Governs exempt? s s')
    (hpast : momentsOf s'.history = momentsOf s.history)
    (hc : s.Always Wired → s.Custody → s'.Custody) : Stewards exempt? s s' :=
  ⟨hg, fun hw hcs => ⟨hc hw hcs.now, by rw [hpast]; exact hcs.past⟩⟩

/-- Whatever managers do not notice leaves them alone. -/
theorem Aloof.wiring (h : Aloof s s') (m : Nat) :
    (s'.manager m).current? = (s.manager m).current? ∧
      (s'.manager m).dispatcher? = (s.manager m).dispatcher? := by
  have hsame : s'.manager m = s.manager m := by rw [Scene.manager, h.managers]; rfl
  rw [hsame]
  exact ⟨rfl, rfl⟩

theorem Aloof.governs (h : Aloof s s') : Governs exempt? s s' :=
  .of_wiring h.evolves h.moments (fun _ _ => h.uses _ rfl) h.wiring
    fun m _ _ => by rw [Scene.manager, h.managers]; rfl

/-- **Custody is not touched**: managers do not notice, and every handle is live or not as it
was. -/
structure Untouched (s s' : Session) : Prop extends Aloof s s' where
  live : ∀ i, (s'.handle? i).map Handle.isLive = (s.handle? i).map Handle.isLive

theorem Untouched.stewards (h : Untouched s s') : Stewards exempt? s s' :=
  .of_governs h.governs h.moments fun _ hc =>
    hc.carry_same (fun _ _ => h.uses _ rfl) h.live h.wiring

instance : Run.Lasting Untouched where
  refl s := ⟨Run.Lasting.refl s, fun _ => rfl⟩
  trans h h' :=
    ⟨Run.Lasting.trans h.toAloof h'.toAloof, fun i => (h'.live i).trans (h.live i)⟩
  evolves h := h.evolves
  note s _ he := ⟨Run.Lasting.note s he, fun _ => rfl⟩

instance : Run.Lasting (Stewards exempt?) where
  refl := Stewards.refl
  trans := Stewards.trans
  evolves h := h.governs.upholds.evolves
  note s _ he := Untouched.stewards (Run.Lasting.note s he)

/-- A change of one link that leaves its handle live or not leaves all of them so. -/
theorem live_changeLink (s : Session) (i : Nat) {F : Link → Link}
    (hF : ∀ l, s.links[i]? = some l →
      (F l).handle?.map Handle.isLive = l.handle?.map Handle.isLive) (j : Nat) :
    ((s.changeLink i F).handle? j).map Handle.isLive = (s.handle? j).map Handle.isLive := by
  rw [handle?_changeLink]
  by_cases hij : i = j
  · subst hij
    rw [if_pos rfl, Scene.handle?]
    cases hl : s.links[i]? with
    | none => rfl
    | some l => exact hF l hl
  · rw [if_neg hij]

/-- A change of one handle that neither shuts it down nor terminates it. -/
theorem live_onHandle (s : Session) (i : Nat) {f : Handle → Handle}
    (hf : ∀ h : Handle, (f h).isLive = h.isLive) (j : Nat) :
    ((s.changeLink i (Link.onHandle f)).handle? j).map Handle.isLive
      = (s.handle? j).map Handle.isLive := by
  refine live_changeLink s i (fun l _ => ?_) j
  show (l.handle?.map f).map Handle.isLive = _
  rw [Option.map_map]
  exact congrArg (fun g => l.handle?.map g) (funext hf)

end Session

namespace Run

open Session

variable {s s' : Session} {m i : Nat} {exempt? : Option Nat}

/-! ## Calls, reports and closing -/

/-- **Closing the channel of a handle that was shut down** touches nobody's custody. -/
theorem untouched_close (hs : s.Valid) (hret : s.retired i = true) :
    Untouched s (close i s).2 := by
  refine ⟨aloof_indifferent.close i s hs, ?_⟩
  obtain ⟨h, hi, hshut⟩ := (Option.any_eq_true ..).mp hret
  obtain ⟨l, hl, hh⟩ := handle?_eq_some.mp hi
  rw [close_run hl hh]
  split
  · exact fun _ => rfl
  · cases l.behaviour.closingRaises? with
    | some r => exact live_changeLink (s.push (.closed i false)) i fun _ _ => rfl
    | none =>
      intro j
      dsimp only
      rw [noted_toScene]
      refine live_changeLink (s.push (.closed i true)) i (fun l' hl' => ?_) j
      obtain rfl := Option.some_inj.mp (hl.symm.trans hl')
      -- it was not live before, and is not live afterwards
      simp [Link.close, Link.onHandle, hh, Handle.isLive, Handle.terminate, hshut]

theorem untouched_considerate : Considerate Untouched where
  enterCall s i _ := ⟨aloof_indifferent.enterCall s i,
    live_onHandle (s.push (.entered i)) i fun _ => rfl⟩
  leave i := by
    intro s hs
    have hleft : Untouched s (s.leaveCall i) := ⟨aloof_indifferent.leaveCall s i,
      live_onHandle (s.push (.left i)) i fun _ => rfl⟩
    rw [leave_run]
    split
    · next hd =>
      obtain ⟨h, hi, hshut, -⟩ := Scene.drained_iff.mp hd
      have hret : (s.leaveCall i).retired i = true := (Option.any_eq_true ..).mpr ⟨h, hi, hshut⟩
      exact Lasting.trans hleft (untouched_close (hleft.evolves.valid hs) hret)
    · exact hleft
  hear s i report _ := by
    refine ⟨aloof_indifferent.hear s i report, ?_⟩
    refine live_onHandle (s.push (.delivered i report)) i fun h => ?_
    rw [Handle.isLive, h.notify_isShutdown, h.notify_isTerminated, Handle.isLive]
  openCalls s calls := ⟨aloof_indifferent.openCalls s calls, fun _ => rfl⟩

theorem stewards_considerate : Considerate (Stewards exempt?) :=
  untouched_considerate.mono Untouched.stewards

/-! ## Connecting -/

/-- What is left of a link that could not be set up has no handle. -/
theorem stewards_abandonLink (s : Session) (target : String) (options : ChannelOptions)
    (behaviour : ChannelBehaviour) :
    Stewards exempt? s (s.abandonLink target options behaviour) :=
  Untouched.stewards ⟨aloof_abandonLink s target options behaviour,
    fun i => by rw [handle?_abandonLink]⟩

/-- **A new link that is put to use at once** is in good hands. -/
theorem stewards_opened (target : String) (options : ChannelOptions)
    (behaviour : ChannelBehaviour) (hm : m < s.managers.length) (hfree : s.mayConnect m = true) :
    Stewards (some m) s ((s.openLink target options behaviour).putToUse m s.links.length) := by
  have hopen : Aloof s (s.openLink target options behaviour) := aloof_openLink s _ _ _
  set t := s.openLink target options behaviour
  have hi := handle?_openLink s target options behaviour s.links.length
  rw [if_pos rfl] at hi
  refine .of_wired (hopen.evolves.trans (evolves_putToUse t m _)) fun hw => ?_
  refine .of_governs ?_ hopen.moments fun _ hc => ?_
  · refine hopen.governs.trans (governs_putToUse t (hm.trans_le hopen.evolves.managers) ?_ ?_)
    · exact lt_length_of_handle? hi
    · -- nothing was ever bound to a link that was not there
      intro hmem
      exact Nat.lt_irrefl _ ((hw.now m).known _ ((hopen.uses _ rfl).mp hmem))
  · refine hc.putToUse hm hfree (fun n j => hopen.uses _ rfl) hopen.managers hi fun j hj => ?_
    rw [handle?_openLink, if_neg hj]

/-- An activity under exclusion may change the manager that it has made busy. -/
theorem stewards_exclusively {α : Type} {x : Run α} (hs : s.Valid) (hm : m < s.managers.length)
    (hx : ∀ t : Session, t.Valid → m < t.managers.length → (t.manager m).isBusy = true →
      Stewards (some m) t (x t).2) : Stewards none s (exclusively m x s).2 := by
  refine related_exclusively (fun h => h.of_free) (fun t b ht => ?_) hs hm hx
  refine .of_governs (governs_changeManager t ht fun _ => ⟨rfl, rfl⟩) rfl fun _ hc => ?_
  refine hc.carry_same (fun _ _ => Iff.rfl) (fun _ => rfl) fun n => ?_
  rw [manager_changeManager t ht]
  split <;> exact ⟨rfl, rfl⟩

theorem stewards_bindTo (hm : m < s.managers.length) (hcur : (s.manager m).current? = some i)
    (hready : s.ready i = true) : Stewards (some m) s (s.bindTo m i) := by
  obtain ⟨h, hi, -⟩ := Scene.ready_iff.mp hready
  exact .of_governs (governs_bindTo s hm (lt_length_of_handle? hi) hcur) rfl fun _ hc =>
    hc.bindTo hm hcur (Scene.live_of_ready hready)

/-- **A manager that connects keeps custody**, whatever it comes to. -/
theorem stewards_establish (host port timeout : Value) (behaviour : ChannelBehaviour)
    {pause : Nat → Run Unit} (hpause : ∀ k, Keeps (Stewards none) (pause k)) (hs : s.Valid)
    (hm : m < s.managers.length) (hbusy : (s.manager m).isBusy = true) :
    Stewards (some m) s (establish m host port timeout behaviour pause s).2 := by
  cases hchoose : chooseTarget m host port s with
  | mk r t =>
    cases r with
    | error e =>
      rw [establish_run_untargeted hchoose]
      exact (keeps_chooseTarget m host port).related hs hchoose
    | ok target =>
      obtain ⟨rfl, hfree, -⟩ := chooseTarget_ok hchoose
      cases hsetup : behaviour.setupRaises? with
      | some r =>
        rw [establish_run_targeted hchoose]
        have hset : Keeps (Stewards (some m))
            (setUp target (t.manager m).config.channelOptions behaviour) := by
          refine keeps_setUp fun s _ => ?_
          rw [makeLink_run_setup, hsetup]
          exact stewards_abandonLink s _ _ _
        obtain ⟨s', hrun, -⟩ :=
          setUp_run_raised target (t.manager m).config.channelOptions hsetup t
        rw [bind_run_error hrun]
        exact hset.related hs hrun
      | none =>
        rw [establish_run_opened hchoose hsetup]
        have hopened : Stewards (some m) t _ :=
          stewards_opened target (t.manager m).config.channelOptions behaviour hm hfree
        have hmgrs := managers_openLink t target (t.manager m).config.channelOptions behaviour
        set i := t.links.length
        set u := t.openLink target (t.manager m).config.channelOptions behaviour
        have hself := manager_putToUse u (m := m) (hmgrs ▸ hm) i m
        rw [if_pos rfl] at hself
        have hsame : u.manager m = t.manager m := by rw [Scene.manager, hmgrs]; rfl
        have hwait : Keeps (Stewards none) (waitUntilReady i timeout
            (t.manager m).config.pollInterval pause) := keeps_waitUntilReady hpause
        have hv := (Lasting.evolves hopened).valid hs
        cases hrun : waitUntilReady i timeout (t.manager m).config.pollInterval pause
            (u.putToUse m i) with
        | mk r s' =>
          have hwaited := hwait.related hv hrun
          have hall : Stewards (some m) t s' := hopened.trans hwaited.exempt
          cases r with
          | error e =>
            rw [bind_run_error hrun]
            exact hall
          | ok =>
            rw [bind_run_ok hrun, bind_run, bindCalls_run]
            cases s'.links[i]?.bind fun l => l.behaviour.bindingRaises? with
            | some r => exact hall
            | none =>
              have hev : t.Evolves s' := Lasting.evolves hall
              refine .of_wired (hev.trans (evolves_bindTo s' m i)) fun hw => ?_
              -- while it was waited for, nothing touched the manager
              have hrec := hwaited.governs.record (hopened.governs.upholds.always hw) m
                (Option.some_ne_none m).symm (by rw [hself, hsame]; exact hbusy)
              refine hall.trans (stewards_bindTo (hm.trans_le hev.managers) ?_
                (waitUntilReady_ok hrun))
              rw [hrec, hself]

/-- A manager that connects keeps custody and leaves every busy manager alone. -/
theorem stewards_connect {host port timeout : Value} {behaviour : ChannelBehaviour}
    {pause : Nat → Run Unit} (hpause : ∀ k, Keeps (Stewards none) (pause k)) (hs : s.Valid)
    (hm : m < s.managers.length) :
    Stewards none s (connect m host port timeout behaviour pause s).2 := by
  have hin : Stewards none s
      (exclusively m (establish m host port timeout behaviour pause) s).2 :=
    stewards_exclusively hs hm fun t ht htm hbusy =>
      stewards_establish host port timeout behaviour hpause ht htm hbusy
  refine related_bind hin fun target s' hrun => keeps_welcome target s' ?_
  rw [hrun] at hin
  exact (Lasting.evolves hin).valid hs

/-! ## Disconnecting -/

/-- Waiting for the running calls of a handle that was shut down touches nobody's custody. -/
theorem stewards_awaitTermination {during : List (Run Unit)}
    (hd : ∀ x ∈ during, Keeps (Stewards none) x) (timeout : Value) (hs : s.Valid)
    (hret : s.retired i = true) :
    Stewards none s (awaitTermination i timeout during s).2 := by
  have hnote : Stewards none s (s.push (.waited timeout)) := Lasting.note s rfl
  have hwait : Keeps (Stewards none) (waitIdle i _) :=
    keeps_waitIdle (forall_limited keeps_raise hd s.environment.clock timeout)
  rw [awaitTermination_run_wait]
  cases hrun : waitIdle i (limited s.environment.clock timeout during)
      (s.push (.waited timeout)) with
  | mk r s' =>
    have hwaited := hnote.trans (hwait.related ((Lasting.evolves hnote).valid hs) hrun)
    have hev : s.Evolves s' := Lasting.evolves hwaited
    match r with
    | .error e => exact hwaited
    | .ok false => exact hwaited
    | .ok true =>
      exact hwaited.trans (untouched_close (hev.valid hs) (hev.retired hret)).stewards

/-- **A manager that disconnects keeps custody.** -/
theorem stewards_dismantle {during : List (Run Unit)}
    (hd : ∀ x ∈ during, Keeps (Stewards none) x) (hs : s.Valid) (hm : m < s.managers.length) :
    Stewards (some m) s (dismantle m during s).2 := by
  cases hcon : s.isConnected m with
  | false =>
    rw [dismantle_run_idle hcon]
    exact related_noted s _ _ _
  | true =>
    obtain ⟨i, h, hcur, hi, hready⟩ := Scene.isConnected_iff.mp hcon
    have hret : (s.retire i).retired i = true := by
      rw [Scene.retired, handle?_retire, hi]
      rfl
    set s₁ := (s.retire i).changeManager m fun mgr => { mgr with dispatcher? := none } with hs₁
    have hparted : Stewards (some m) s s₁ := by
      refine .of_governs ?_ rfl fun _ hc => hc.part hm hcur
      exact (governs_indifferent.retire s i).trans (governs_unbind (s.retire i) hm hcur hret)
    have hv := (Lasting.evolves hparted).valid hs
    have hwait : Stewards none s₁ _ :=
      stewards_awaitTermination hd (.float (s.manager m).config.drainTimeout) hv hret
    rw [dismantle_run hcur hi hready]
    refine hparted.trans (Stewards.exempt ?_)
    refine related_bind hwait fun ended s' hrun => keeps_farewell i ended s' ?_
    rw [hrun] at hwait
    exact (Lasting.evolves hwait).valid hv

theorem stewards_disconnect {during : List (Run Unit)}
    (hd : ∀ x ∈ during, Keeps (Stewards none) x) (hs : s.Valid) (hm : m < s.managers.length) :
    Stewards none s (disconnect m during s).2 := by
  have hin : Stewards none s (exclusively m (dismantle m during) s).2 :=
    stewards_exclusively hs hm fun t ht htm _ => stewards_dismantle hd ht htm
  refine related_bind hin fun r s' hrun => keeps_partFrom m r s' ?_
  rw [hrun] at hin
  exact (Lasting.evolves hin).valid hs

end Run

/-- Whether a step does by hand what is up to a manager: it shuts a handle down, waits for its
calls, or rebinds calls. -/
def Step.isByHand (step : Step) : Bool := step.closesByHand || step.rebindsByHand

theorem Step.of_not_isByHand {step : Step} (h : (!step.isByHand) = true) :
    (!step.closesByHand) = true ∧ (!step.rebindsByHand) = true := by
  simpa [isByHand] using h

open Session in
/-- **Every step keeps custody**, unless it does by hand what is up to a manager. -/
theorem Run.stewards_respects : Step.Respects (fun step => !step.isByHand) (Stewards none) where
  bracketed answer h := by
    refine ⟨h.governs.bracketed answer, fun hw hc => ?_⟩
    have hin := h.custody (hw.began (hw.now.push rfl)) (hc.began (hc.now.push rfl))
    exact hin.ended answer (hin.now.push rfl)
  connect hpause _ hs hm := stewards_connect hpause hs hm
  disconnect hd _ hs hm := stewards_disconnect hd hs hm
  dispatch hd := stewards_considerate.dispatch
    (fun s _ _ =>
      Untouched.stewards ⟨.of_event (evolves_push s _) rfl rfl rfl rfl, fun _ => rfl⟩) hd
  deliver := stewards_considerate.deliver
  beginCall := stewards_considerate.beginCall
  endCall := stewards_considerate.endCall
  keepDispatcher name := by
    refine keeps_look fun _ => keeps_look fun _ => Keeps.bind (fun s _ => ?_) fun _ => keeps_pure _
    exact Untouched.stewards ⟨.of_history (evolves_unmanaged.kept s _) rfl rfl, fun _ => rfl⟩
  addClient s c := by
    refine .of_governs (governs_respects.addClient s c) rfl fun _ hc => ?_
    exact hc.carry_same (fun _ _ => Iff.rfl) (fun _ => rfl) (wiring_addManager (s.setThreshold c) c)
  activate s m hm :=
    Untouched.stewards ⟨.of_history (evolves_unmanaged.activate s m hm) rfl rfl, fun _ => rfl⟩
  restoreDispatcher name h := nomatch h
  shutDown h := nomatch h
  awaitTermination _ _ h := nomatch h

namespace Session

variable {s : Session}

/-- At the start there is no link to keep. -/
theorem Initial.custody (hs : s.Initial) : s.Custody := by
  have hmgr : ∀ m, ∃ c, s.manager m = .fresh c := hs.manager
  refine ⟨fun m i h => ?_, fun i h => ?_, fun m n i h => ?_, fun m i h => ?_, fun m i h => ?_,
    fun m i h => ?_⟩
  · rw [hs.history] at h
    cases h
  · rw [Scene.handle?, hs.links] at h
    cases h
  · rw [hs.history] at h
    cases h
  · obtain ⟨c, hc⟩ := hmgr m
    rw [hc] at h
    cases h
  · rw [hs.history] at h
    cases h
  · obtain ⟨c, hc⟩ := hmgr m
    rw [hc] at h
    cases h

theorem Reached.custody (hs : s.Reached fun step => !step.isByHand) : s.Always Custody := by
  refine Initial.reached (fun s hs => hs.custody) (fun s steps hstart hsteps => ?_) hs
  have hall := hstart.related Run.stewards_respects hsteps
  exact ⟨hall.governs.upholds.evolves, hall.custody (hstart.always hstart.wired)⟩

/-- **No manager has more than one open handle**, at every moment of every run, whatever failed,
timed out or was interrupted before. Each handle was made for one manager and is shut down unless it
is the one in use by that manager. Its channel is listened to once as long as it is not shut down,
and afterwards no more. And calls are bound to nothing but the handle in use, and only while it is
neither shut down nor terminated. -/
theorem one_open_handle (hs : s.Reached fun step => !step.isByHand) :
    (∀ (i : Nat) (l : Link) (h : Handle), s.links[i]? = some l → l.handle? = some h →
      l.listeners = (if h.isShutdown then 0 else 1) ∧
        ∃ m, (∀ n, Event.installed n i ∈ s.history ↔ n = m) ∧
          ((s.manager m).current? ≠ some i → h.isShutdown = true)) ∧
      ∀ m i : Nat, (s.manager m).dispatcher? = some i → (s.manager m).current? = some i ∧
        ∃ h, s.handle? i = some h ∧ h.isShutdown = false ∧ h.isTerminated = false := by
  have hcustody := hs.custody.now
  have htidy := (hs.mono fun _ hstep => (Step.of_not_isByHand hstep).1).tidy.now
  refine ⟨fun i l h hl hh => ?_, fun m i hbound => ?_⟩
  · have hi := handle?_eq_some.mpr ⟨l, hl, hh⟩
    have hlink := htidy i l h hl hh
    obtain ⟨m, hm⟩ := hcustody.made i (by rw [hi]; rfl)
    refine ⟨hlink.listeners, m, fun n => ⟨fun hn => hcustody.sole n m i hn hm, ?_⟩, fun hcur => ?_⟩
    · rintro rfl
      exact hm
    · -- it is live no more, and only a handle that is shut down is terminated
      have hlive := (hcustody.replaced m i hm).resolve_left hcur
      rw [Scene.live, hi, Option.any_some, Handle.isLive, Bool.not_eq_false',
        Bool.or_eq_true] at hlive
      exact hlive.elim id fun hterm => (hlink.ended hterm).1
  · obtain ⟨hcur, hlive⟩ := hcustody.bound m i hbound
    obtain ⟨h, hi, hopen⟩ := (Option.any_eq_true ..).mp hlive
    rw [Handle.isLive, Bool.not_eq_true', Bool.or_eq_false_iff] at hopen
    exact ⟨hcur, h, hi, hopen⟩

/-- The wait for a running call is interrupted, the next connection times out but its link becomes
ready later, and only the third connection succeeds. -/
def handoverSteps : List Step :=
  [.connectManager (.text "host") (.int 1) (.int 1000) .smooth [], .beginCall "long",
    .disconnect [.interrupt "enough"],
    .connectManager (.text "host") (.int 2) (.int 0) ⟨some "IDLE", none, none, none, none⟩ [],
    .notify 1 "READY" false, .disconnect [],
    .connectManager (.text "host") (.int 3) (.int 1000) .smooth []]

/-- Of the three handles only the last is listened to, although a call still runs on the first. -/
theorem one_open_handle_handover : let s := (withManager .bare .standard).after handoverSteps
    s.links.map Link.listeners = [0, 0, 1] ∧ s.links.map Link.isClosed = [false, true, false] ∧
      (s.manager 0).dispatcher? = some 2 ∧
      (∀ (i : Nat) (l : Link) (h : Handle), s.links[i]? = some l → l.handle? = some h →
        l.listeners = (if h.isShutdown then 0 else 1) ∧
          ∃ m, (∀ n, Event.installed n i ∈ s.history ↔ n = m) ∧
            ((s.manager m).current? ≠ some i → h.isShutdown = true)) ∧
      ∀ m i : Nat, (s.manager m).dispatcher? = some i → (s.manager m).current? = some i ∧
        ∃ h, s.handle? i = some h ∧ h.isShutdown = false ∧ h.isTerminated = false := by
  have hreached : ((withManager .bare .standard).after handoverSteps).Reached
      fun step => !step.isByHand :=
    ⟨_, handoverSteps, ⟨.bare, .standard, .inr rfl⟩, by decide, List.mem_cons_self⟩
  exact ⟨by decide +kernel, by decide +kernel, by decide +kernel, one_open_handle hreached⟩

end Session

end VectorLink
