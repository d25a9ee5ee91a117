import VectorLink.Proofs.Operations

/-!
# Calls and the link in use

A manager is connected when the handle of its link is ready, and its calls are bound to a link at
the end of a connection that succeeded. The two are not the same: a connection that times out leaves
its link in use, and the link may become ready later. What does agree with the binding of calls is
the history. As long as the link in use is not shut down, calls are bound to it if the connection
that made it came to its end, and to nothing if it did not (`Session.Wired`).

That this holds at every moment rests on exclusion. Between the moment at which a link comes into
use and the moment at which calls are bound to it other activities take place, and none of them may
touch the manager (`Session.Governs`).
-/

namespace VectorLink

namespace Session

/-- **The calls of a manager are bound as the history says**: to the link in use or to none, and as
long as that link is not shut down, to it exactly if its connection came to its end. -/
structure WiredAt (s : Session) (m : Nat) : Prop where
  known : ∀ i : Nat, Event.bound m i ∈ s.history → i < s.links.length
  here : ∀ i : Nat, (s.manager m).current? = some i → i < s.links.length
  dispatcher : ∀ i : Nat, (s.manager m).dispatcher? = some i → (s.manager m).current? = some i
  bound : ∀ i : Nat, (s.manager m).current? = some i → s.retired i = false →
    ((s.manager m).dispatcher? = some i ↔ Event.bound m i ∈ s.history)

/-- **The calls of all managers are bound as the history says.** -/
def Wired (s : Session) : Prop := ∀ m, s.WiredAt m

variable {s s' s'' : Session} {m i : Nat} {exempt? : Option Nat}

/-- What leaves the wiring of a manager and the record of it alone keeps it in order. -/
theorem WiredAt.carry (hs : s.WiredAt m) (hev : s.Evolves s')
    (hwire : (s'.manager m).current? = (s.manager m).current? ∧
      (s'.manager m).dispatcher? = (s.manager m).dispatcher?)
    (hbound : ∀ i : Nat, Event.bound m i ∈ s'.history ↔ Event.bound m i ∈ s.history) :
    s'.WiredAt m where
  known i h := (hs.known i ((hbound i).mp h)).trans_le hev.length_le
  here i h := (hs.here i (hwire.1 ▸ h)).trans_le hev.length_le
  dispatcher i h := by
    rw [hwire.1]
    exact hs.dispatcher i (hwire.2 ▸ h)
  bound i h hr := by
    rw [hwire.1] at h
    rw [hwire.2, hbound]
    refine hs.bound i h (Bool.eq_false_iff.mpr fun hret => ?_)
    exact absurd (hev.retired hret) (by rw [hr]; exact Bool.false_ne_true)

/-- **The wiring stays in order, and a busy manager is left alone**, except for the one that the
activity itself has made busy. -/
structure Governs (exempt? : Option Nat) (s s' : Session) : Prop where
  upholds : Upholds Wired s s'
  record : s.Always Wired → ∀ m, exempt? ≠ some m → (s.manager m).isBusy = true →
    s'.manager m = s.manager m
  binds : s.Always Wired → ∀ m i, exempt? ≠ some m → (s.manager m).isBusy = true →
    Event.bound m i ∈ s'.history → Event.bound m i ∈ s.history

theorem Governs.refl (s : Session) : Governs exempt? s s :=
  ⟨.refl s, fun _ _ _ _ => rfl, fun _ _ _ _ _ => id⟩

theorem Governs.trans (h : Governs exempt? s s') (h' : Governs exempt? s' s'') :
    Governs exempt? s s'' where
  upholds := h.upholds.trans h'.upholds
  record hw m hm hb := by
    have hrec := h.record hw m hm hb
    rw [h'.record (h.upholds.always hw) m hm (hrec ▸ hb), hrec]
  binds hw m i hm hb hmem := by
    have hrec := h.record hw m hm hb
    exact h.binds hw m i hm hb (h'.binds (h.upholds.always hw) m i hm (hrec ▸ hb) hmem)

/-- What leaves every busy manager alone leaves alone those that are not exempt. -/
theorem Governs.exempt (h : Governs none s s') : Governs exempt? s s' :=
  ⟨h.upholds, fun hw m _ => h.record hw m nofun, fun hw m i _ => h.binds hw m i nofun⟩

/-- It may be taken for granted that the wiring was in order. -/
theorem Governs.of_wired (hev : s.Evolves s') (h : s.Always Wired → Governs exempt? s s') :
    Governs exempt? s s' :=
  ⟨⟨hev, fun hw => (h hw).upholds.always hw⟩, fun hw => (h hw).record hw,
    fun hw => (h hw).binds hw⟩

/-- What writes down at most an event that is no bracket and binds nothing. -/
theorem Governs.of_wiring (hev : s.Evolves s')
    (hpast : momentsOf s'.history = momentsOf s.history)
    (hbound : ∀ m i : Nat, Event.bound m i ∈ s'.history ↔ Event.bound m i ∈ s.history)
    (hwire : ∀ m, (s'.manager m).current? = (s.manager m).current? ∧
      (s'.manager m).dispatcher? = (s.manager m).dispatcher?)
    (hbusy : ∀ m, exempt? ≠ some m → (s.manager m).isBusy = true →
      s'.manager m = s.manager m) : Governs exempt? s s' where
  upholds := by
    refine ⟨hev, fun h => ⟨fun m => ?_, by rw [hpast]; exact h.past⟩⟩
    exact (h.now m).carry hev (hwire m) (hbound m)
  record _ := hbusy
  binds _ m i _ _ := (hbound m i).mp

/-- An event that is no bracket and binds nothing, with no change to managers. -/
theorem Governs.of_event (hev : s.Evolves s') {e : Event} (he : e.isBracket = false)
    (hb : e.isBinding = false) (hh : s'.history = e :: s.history)
    (hm : s'.managers = s.managers) : Governs exempt? s s' := by
  have hsame : ∀ m, s'.manager m = s.manager m := fun m => by rw [Scene.manager, hm]; rfl
  refine .of_wiring hev (by rw [hh, momentsOf_cons he]) (fun m i => ?_) (fun m => ?_)
    fun m _ _ => hsame m
  · rw [hh]
    exact mem_bound_cons hb
  · rw [hsame m]
    exact ⟨rfl, rfl⟩

/-- Nothing written down and no change to managers. -/
theorem Governs.of_history (hev : s.Evolves s') (hh : s'.history = s.history)
    (hm : s'.managers = s.managers) : Governs exempt? s s' := by
  have hsame : ∀ m, s'.manager m = s.manager m := fun m => by rw [Scene.manager, hm]; rfl
  refine .of_wiring hev (by rw [hh]) (fun m i => by rw [hh]) (fun m => ?_) fun m _ _ => hsame m
  rw [hsame m]
  exact ⟨rfl, rfl⟩

instance : Run.Lasting (Governs exempt?) where
  refl := Governs.refl
  trans := Governs.trans
  evolves h := h.upholds.evolves
  note s e he :=
    .of_event (evolves_push s e) (by cases e <;> first | rfl | cases he)
      (by cases e <;> first | rfl | cases he) rfl rfl

theorem governs_indifferent : Run.Indifferent (Governs exempt?) :=
  .of_events
    (fun hev he =>
      .of_event hev (Event.isBracket_of_isOfLink he) (Event.isBinding_of_isOfLink he))
    .of_history

/-- What is written down about anything but bindings keeps the wiring in order. -/
theorem Wired.push (hs : s.Wired) {e : Event} (he : e.isBinding = false) : (s.push e).Wired :=
  fun m => (hs m).carry (evolves_push s _) ⟨rfl, rfl⟩ fun _ => mem_bound_cons he

/-- A bracket changes no manager and adds the session of its moment. -/
theorem Governs.bracketed (h : Governs none (s.push (.began s.toScene)) s')
    (answer : Except Failure Answer) : Governs none s (s'.push (.ended answer s'.toScene)) := by
  refine ⟨h.upholds.bracketed (fun _ hs => hs.push rfl) (fun _ _ hs => hs.push rfl) answer,
    fun hw => h.record (hw.began (hw.now.push rfl)), ?_⟩
  intro hw m i hm hb hmem
  exact (mem_bound_cons rfl).mp (h.binds (hw.began (hw.now.push rfl)) m i hm hb
    ((mem_bound_cons rfl).mp hmem))

/-! ## Managers under exclusion -/

/-- A manager that was free is no exception. -/
theorem Governs.of_free (h : Governs (some m) s s') (hfree : (s.manager m).isBusy = false) :
    Governs none s s' := by
  have hother : ∀ n, (s.manager n).isBusy = true → some m ≠ some n := by
    rintro n hb ⟨⟩
    rw [hfree] at hb
    exact Bool.false_ne_true hb
  exact ⟨h.upholds, fun hw n _ hb => h.record hw n (hother n hb) hb,
    fun hw n i _ hb => h.binds hw n i (hother n hb) hb⟩

/-- Marking a manager as busy or free changes none of its wiring. -/
theorem governs_changeManager (s : Session) (hm : m < s.managers.length) {f : Manager → Manager}
    (hf : ∀ mgr, (f mgr).current? = mgr.current? ∧ (f mgr).dispatcher? = mgr.dispatcher?) :
    Governs (some m) s (s.changeManager m f) := by
  refine .of_wiring (evolves_changeManager s m f) rfl (fun _ _ => Iff.rfl) (fun n => ?_)
    fun n hn _ => ?_
  · rw [manager_changeManager s hm]
    split
    · exact hf _
    · exact ⟨rfl, rfl⟩
  · rw [manager_changeManager s hm, if_neg fun h => hn (congrArg some h)]

/-- A manager that is about to change is made busy first. -/
theorem isBusy_occupy (s : Session) (hm : m < s.managers.length) :
    m < (s.changeManager m fun mgr => { mgr with isBusy := true }).managers.length ∧
      ((s.changeManager m fun mgr => { mgr with isBusy := true }).manager m).isBusy = true := by
  refine ⟨?_, ?_⟩
  · rw [length_changeManager]
    exact hm
  · rw [manager_changeManager s hm, if_pos rfl]

/-- **What changes the wiring of one manager**, and that in order, governs all others. -/
theorem Governs.rewire (f : Manager → Manager) (hev : s.Evolves s')
    (hpast : momentsOf s'.history = momentsOf s.history)
    (hmgr : ∀ n, s'.manager n = if m = n then f (s.manager n) else s.manager n)
    (hbound : ∀ n i : Nat, m ≠ n →
      (Event.bound n i ∈ s'.history ↔ Event.bound n i ∈ s.history))
    (hself : s.WiredAt m → s'.WiredAt m) : Governs (some m) s s' where
  upholds := by
    refine ⟨hev, fun h => ⟨fun n => ?_, by rw [hpast]; exact h.past⟩⟩
    by_cases hn : m = n
    · subst hn
      exact hself (h.now m)
    · refine (h.now n).carry hev ?_ fun i => hbound n i hn
      rw [hmgr, if_neg hn]
      exact ⟨rfl, rfl⟩
  record _ n hn _ := by rw [hmgr, if_neg fun h => hn (congrArg some h)]
  binds _ n i hn _ := (hbound n i fun h => hn (congrArg some h)).mp

/-- A link comes into use that nothing was ever bound to, and calls are bound to nothing. -/
theorem governs_putToUse (s : Session) (hm : m < s.managers.length) (hi : i < s.links.length)
    (hnew : Event.bound m i ∉ s.history) : Governs (some m) s (s.putToUse m i) := by
  have hself := manager_putToUse s hm i m
  rw [if_pos rfl] at hself
  refine .rewire (fun mgr => { mgr with current? := some i, dispatcher? := none })
    (evolves_putToUse s m i) rfl (manager_putToUse s hm i) (fun _ _ _ => mem_bound_cons rfl)
    fun hs => ?_
  refine ⟨fun j h => hs.known j ((mem_bound_cons rfl).mp h), fun j h => ?_, fun j h => ?_,
    fun j h _ => ?_⟩
  · rw [hself] at h
    cases h
    exact hi
  · rw [hself] at h
    cases h
  · rw [hself] at h ⊢
    cases h
    exact ⟨nofun, fun hb => absurd ((mem_bound_cons rfl).mp hb) hnew⟩

/-- Calls are bound to the link in use. -/
theorem governs_bindTo (s : Session) (hm : m < s.managers.length) (hi : i < s.links.length)
    (hcur : (s.manager m).current? = some i) : Governs (some m) s (s.bindTo m i) := by
  have hself := manager_bindTo s hm i m
  rw [if_pos rfl] at hself
  have hmem : ∀ n j : Nat, Event.bound n j ∈ (s.bindTo m i).history ↔
      (n = m ∧ j = i) ∨ Event.bound n j ∈ s.history := by
    intro n j
    show Event.bound n j ∈ Event.bound m i :: s.history ↔ _
    rw [List.mem_cons, Event.bound.injEq]
  refine .rewire (fun mgr => { mgr with dispatcher? := some i }) (evolves_bindTo s m i) rfl
    (manager_bindTo s hm i) (fun n j hn => ?_) fun hs => ?_
  · rw [hmem]
    exact or_iff_right fun h => hn h.1.symm
  · refine ⟨fun j h => ?_, fun j h => ?_, fun j h => ?_, fun j h _ => ?_⟩
    · obtain ⟨-, rfl⟩ | h := (hmem m j).mp h
      · exact hi
      · exact hs.known j h
    · rw [hself] at h
      exact hs.here j h
    · rw [hself] at h ⊢
      cases h
      exact hcur
    · rw [hself] at h ⊢
      obtain rfl : i = j := Option.some_inj.mp (hcur.symm.trans h)
      exact ⟨fun _ => (hmem m i).mpr (.inl ⟨rfl, rfl⟩), fun _ => rfl⟩

/-- Calls are bound to nothing once the link in use is shut down. -/
theorem governs_unbind (s : Session) (hm : m < s.managers.length)
    (hcur : (s.manager m).current? = some i) (hret : s.retired i = true) :
    Governs (some m) s (s.changeManager m fun mgr => { mgr with dispatcher? := none }) := by
  have hself := manager_changeManager s hm m fun mgr => { mgr with dispatcher? := none }
  rw [if_pos rfl] at hself
  refine .rewire (fun mgr => { mgr with dispatcher? := none }) (evolves_changeManager s m _) rfl
    (fun n => manager_changeManager s hm n _) (fun _ _ _ => Iff.rfl) fun hs => ?_
  refine ⟨hs.known, fun j h => ?_, fun j h => ?_, fun j h hr => ?_⟩
  · rw [hself] at h
    exact hs.here j h
  · rw [hself] at h
    cases h
  · rw [hself] at h
    obtain rfl : i = j := Option.some_inj.mp (hcur.symm.trans h)
    exact absurd hret (by rw [show s.retired i = false from hr]; exact Bool.false_ne_true)

end Session

/-! ## Connecting and disconnecting -/

namespace Run

open Session

variable {s : Session} {m : Nat} {exempt? : Option Nat}

/-- **An activity under exclusion** may change the manager that it has made busy. So a relation that
exempts one manager is kept without exempting any, if that manager was free. -/
theorem related_exclusively {α : Type} {R : Option Nat → Session → Session → Prop}
    [∀ exempt? : Option Nat, Lasting (R exempt?)] {x : Run α}
    (hfree : ∀ {t t' : Session}, R (some m) t t' → (t.manager m).isBusy = false → R none t t')
    (hmark : ∀ (t : Session) (b : Bool), m < t.managers.length →
      R (some m) t (t.changeManager m fun mgr => { mgr with isBusy := b }))
    (hs : s.Valid) (hm : m < s.managers.length)
    (hx : ∀ t : Session, t.Valid → m < t.managers.length → (t.manager m).isBusy = true →
      R (some m) t (x t).2) : R none s (exclusively m x s).2 := by
  rw [exclusively_run]
  cases hbusy : (s.manager m).isBusy with
  | true => exact Lasting.refl s
  | false =>
    rw [if_neg Bool.false_ne_true, andFinally_snd]
    have hbegin := hmark s true hm
    obtain ⟨htm, htbusy⟩ := isBusy_occupy s hm
    set t := s.changeManager m fun mgr => { mgr with isBusy := true }
    have hin := hx t ((Lasting.evolves hbegin).valid hs) htm htbusy
    have hend := hmark (x t).2 false (htm.trans_le (Lasting.evolves hin).managers)
    exact hfree (Lasting.trans (Lasting.trans hbegin hin) hend) hbusy

theorem governs_exclusively {α : Type} {x : Run α} (hs : s.Valid) (hm : m < s.managers.length)
    (hx : ∀ t : Session, t.Valid → m < t.managers.length → (t.manager m).isBusy = true →
      Governs (some m) t (x t).2) : Governs none s (exclusively m x s).2 :=
  related_exclusively (fun h => h.of_free)
    (fun t _ ht => governs_changeManager t ht fun _ => ⟨rfl, rfl⟩) hs hm hx

/-- **What becomes of a manager that connects**: it governs all others, and either it fails and
calls are bound to nothing new, or it comes to its end and they are bound to a new link. -/
theorem establish_fate (host port timeout : Value) (behaviour : ChannelBehaviour)
    {pause : Nat → Run Unit} (hpause : ∀ k, Keeps (Governs none) (pause k)) (hs : s.Valid)
    (hm : m < s.managers.length) (hbusy : (s.manager m).isBusy = true) (hw : s.Always Wired) :
    (∃ e s', establish m host port timeout behaviour pause s = (.error e, s') ∧
        Governs (some m) s s' ∧
        ∀ i : Nat, Event.bound m i ∈ s'.history → Event.bound m i ∈ s.history) ∨
      ∃ (target : String) (i : Nat) (s' : Session),
        establish m host port timeout behaviour pause s = (.ok target, s') ∧
        Governs (some m) s s' ∧ s.links.length ≤ i ∧ Event.bound m i ∈ s'.history ∧
        (s'.manager m).current? = some i ∧ (s'.manager m).dispatcher? = some i := by
  obtain ⟨e, s', hrun, h⟩ | ⟨i, s₁, s₂, s', h₁, h₂, hquiet, hi, ⟨_, hh⟩, h₃, hend⟩ :=
    establish_run (R := Governs none) m host port timeout behaviour
      (fun _ _ => governs_indifferent.makeLink _ _ _) hpause hs
  · exact .inl ⟨e, s', hrun, h.exempt, fun i => h.binds hw m i nofun hbusy⟩
  · have h₁₂ := h₁.trans h₂
    have hlt := lt_length_of_handle? hh
    have hm₂ : m < s₂.managers.length := hm.trans_le h₁₂.upholds.evolves.managers
    -- the link is new, so nothing was ever bound to it
    have hnew : Event.bound m i ∉ s₂.history := fun hmem => by
      have hknown := ((h₁.upholds.always hw).now m).known i (hquiet.2 m i hmem)
      exact absurd hknown (by rw [hi]; exact Nat.lt_irrefl _)
    have hput := governs_putToUse s₂ hm₂ hlt hnew
    have hw₃ := hput.upholds.always (h₁₂.upholds.always hw)
    have hrec := manager_putToUse s₂ hm₂ i m
    rw [if_pos rfl, h₁₂.record hw m nofun hbusy] at hrec
    have hbusy₃ : ((s₂.putToUse m i).manager m).isBusy = true := by rw [hrec]; exact hbusy
    -- while it is waited for, nothing touches the manager
    have hrec' : s'.manager m = (s₂.putToUse m i).manager m := h₃.record hw₃ m nofun hbusy₃
    have hall : Governs (some m) s s' := h₁₂.exempt.trans (hput.trans h₃.exempt)
    obtain ⟨e, hrun⟩ | ⟨target, hrun⟩ := hend
    · refine .inl ⟨e, s', hrun, hall, fun j hj => ?_⟩
      have hj := (mem_bound_cons rfl).mp (h₃.binds hw₃ m j nofun hbusy₃ hj)
      exact h₁₂.binds hw m j nofun hbusy hj
    · have hev := hput.upholds.evolves.trans h₃.upholds.evolves
      have hm' : m < s'.managers.length := hm₂.trans_le hev.managers
      have hcur : (s'.manager m).current? = some i := by rw [hrec', hrec]
      have hbind := governs_bindTo s' hm' (hlt.trans_le hev.length_le) hcur
      have hself := manager_bindTo s' hm' i m
      rw [if_pos rfl] at hself
      refine .inr ⟨target, i, s'.bindTo m i, hrun, hall.trans hbind, ?_, List.mem_cons_self, ?_, ?_⟩
      · rw [hi]
        exact h₁.upholds.evolves.length_le
      · rw [hself]
        exact hcur
      · rw [hself]

/-- **What a manager does to disconnect governs all others**, provided that what takes place while
it waits leaves it alone. -/
theorem governs_dismantle {during : List (Run Unit)} (hd : ∀ x ∈ during, Keeps (Governs none) x)
    (hs : s.Valid) (hm : m < s.managers.length) :
    Governs (some m) s (dismantle m during s).2 := by
  cases hcon : s.isConnected m with
  | false =>
    rw [dismantle_run_idle hcon]
    exact related_noted s _ _ _
  | true =>
    obtain ⟨i, h, hcur, hi, hready⟩ := Scene.isConnected_iff.mp hcon
    have hret : (s.retire i).retired i = true := by
      rw [Scene.retired, handle?_retire, hi]
      rfl
    have h₁ : Governs (some m) s (s.retire i) := governs_indifferent.retire s i
    have h₂ := governs_unbind (s.retire i) (m := m) hm hcur hret
    rw [dismantle_run hcur hi hready]
    refine (h₁.trans h₂).trans ?_
    -- from here on it only waits and takes notes
    have hall : Keeps (Governs none)
        (awaitTermination i (.float (s.manager m).config.drainTimeout) during >>= farewell i) :=
      (governs_indifferent.tending.awaitTermination hd).bind (keeps_farewell i)
    exact (hall _ ((h₁.trans h₂).upholds.evolves.valid hs)).exempt

/-- **Connecting leaves every busy manager alone.** -/
theorem governs_connect {host port timeout : Value} {behaviour : ChannelBehaviour}
    {pause : Nat → Run Unit} (hpause : ∀ k, Keeps (Governs none) (pause k)) (hs : s.Valid)
    (hm : m < s.managers.length) :
    Governs none s (connect m host port timeout behaviour pause s).2 := by
  have hin :
      Governs none s (exclusively m (establish m host port timeout behaviour pause) s).2 := by
    refine governs_exclusively hs hm fun t ht htm hbusy => .of_wired ?_ fun hw => ?_
    · exact evolves_unmanaged.establish (fun _ _ => evolves_indifferent.makeLink _ _ _)
        (fun k s hs => (hpause k s hs).upholds.evolves) t ht
    · obtain ⟨_, _, hrun, h, _⟩ | ⟨_, _, _, hrun, h, _⟩ :=
        establish_fate host port timeout behaviour hpause ht htm hbusy hw
      · rwa [hrun]
      · rwa [hrun]
  refine related_bind hin fun target s' hrun => keeps_welcome target s' ?_
  rw [hrun] at hin
  exact hin.upholds.evolves.valid hs

/-- **Calls are bound to a link exactly by a connection that succeeds.** One that fails binds them
to nothing new, even if its link stays in use. -/
theorem connect_binds (host port timeout : Value) (behaviour : ChannelBehaviour)
    {pause : Nat → Run Unit} (hpause : ∀ k, Keeps (Governs none) (pause k)) (hs : s.Valid)
    (hm : m < s.managers.length) (hfree : (s.manager m).isBusy = false) (hw : s.Always Wired) :
    (∃ e s', connect m host port timeout behaviour pause s = (.error e, s') ∧
        ∀ i : Nat, Event.bound m i ∈ s'.history → Event.bound m i ∈ s.history) ∨
      ∃ (i : Nat) (s' : Session),
        connect m host port timeout behaviour pause s = (.ok (.succeeded .nothing), s') ∧
        s.links.length ≤ i ∧ Event.bound m i ∈ s'.history ∧
        (s'.manager m).current? = some i ∧ (s'.manager m).dispatcher? = some i := by
  obtain ⟨htm, htbusy⟩ := isBusy_occupy s hm
  have hmark : Governs (some m) s (s.changeManager m fun mgr => { mgr with isBusy := true }) :=
    governs_changeManager s hm fun _ => ⟨rfl, rfl⟩
  set t := s.changeManager m fun mgr => { mgr with isBusy := true }
  have hin : exclusively m (establish m host port timeout behaviour pause) s
      = andFinally (establish m host port timeout behaviour pause)
          (changeManager m fun mgr => { mgr with isBusy := false }) t := by
    rw [exclusively_run, hfree, if_neg Bool.false_ne_true]
  rw [andFinally_run, changeManager_run] at hin
  obtain ⟨e, s', hrun, -, hbinds⟩ | ⟨target, i, s', hrun, hgov, hnext, hmem, hcur, hdisp⟩ :=
    establish_fate host port timeout behaviour hpause (hmark.upholds.evolves.valid hs) htm htbusy
      (hmark.upholds.always hw)
  · rw [hrun] at hin
    exact .inl ⟨e, _, bind_run_error hin _, hbinds⟩
  · rw [hrun] at hin
    set u := s'.changeManager m fun mgr => { mgr with isBusy := false }
    have hu := manager_changeManager s' (htm.trans_le hgov.upholds.evolves.managers) m
      fun mgr => { mgr with isBusy := false }
    rw [if_pos rfl] at hu
    have hend : connect m host port timeout behaviour pause s = (.ok (.succeeded .nothing),
        u.noted .connection .info ("Connected successfully to " ++ target)) := by
      rw [connect, bind_run_ok hin, welcome_run]
    have hnoted : s'.history <:+
        (u.noted .connection .info ("Connected successfully to " ++ target)).history :=
      (related_noted (R := Evolves) u _ _ _).history
    refine .inr ⟨i, _, hend, hnext, hnoted.subset hmem, ?_, ?_⟩
    · rw [noted_toScene, hu]
      exact hcur
    · rw [noted_toScene, hu]
      exact hdisp

/-- **Disconnecting leaves every busy manager alone.** -/
theorem governs_disconnect {during : List (Run Unit)} (hd : ∀ x ∈ during, Keeps (Governs none) x)
    (hs : s.Valid) (hm : m < s.managers.length) : Governs none s (disconnect m during s).2 := by
  have hin : Governs none s (exclusively m (dismantle m during) s).2 :=
    governs_exclusively hs hm fun t ht htm _ => governs_dismantle hd ht htm
  refine related_bind hin fun r s' hrun => ?_
  rw [hrun] at hin
  cases r with
  | some r => exact Governs.refl s'
  | none => exact keeps_outlasted m s' (hin.upholds.evolves.valid hs)

end Run

/-- Whether a step replaces by hand the link that calls are bound to. -/
def Step.rebindsByHand : Step → Bool
  | .restoreDispatcher _ => true
  | _ => false

open Session in
/-- **Every step leaves busy managers alone** and the wiring in order, unless it rebinds calls by
hand. -/
theorem Run.governs_respects :
    Step.Respects (fun step => !step.rebindsByHand) (Governs none) where
  bracketed answer h := h.bracketed answer
  connect hpause _ hs hm := governs_connect hpause hs hm
  disconnect hd _ hs hm := governs_disconnect hd hs hm
  dispatch hd :=
    governs_indifferent.considerate.dispatch
      (fun s _ _ => .of_event (evolves_push s _) rfl rfl rfl rfl) hd
  deliver := governs_indifferent.considerate.deliver
  beginCall := governs_indifferent.considerate.beginCall
  endCall := governs_indifferent.considerate.endCall
  keepDispatcher name := by
    refine keeps_look fun _ => keeps_look fun _ => Keeps.bind (fun s _ => ?_) fun _ => keeps_pure _
    exact .of_history (evolves_unmanaged.kept s _) rfl rfl
  addClient s c := by
    refine .of_wiring (evolves_unmanaged.addClient s c) rfl (fun _ _ => Iff.rfl)
      (wiring_addManager (s.setThreshold c) c) fun m _ hb => ?_
    rw [manager_addManager]
    -- a manager that is busy is not the one that is added
    refine if_neg fun hm => ?_
    rw [← hm, show s.manager (s.setThreshold c).managers.length = _ from manager_length _] at hb
    cases hb
  activate s m hm := .of_history (evolves_unmanaged.activate s m hm) rfl rfl
  restoreDispatcher name h := nomatch h
  shutDown _ := governs_indifferent.shutDown
  awaitTermination _ _ _ _ _ hd := governs_indifferent.tending.awaitTermination hd

/-! ## Being connected and being usable -/

/-- A channel that is closed has a handle that knows. -/
def Link.Honest (l : Link) : Prop :=
  l.isClosed = true → ∀ h, l.handle? = some h → h.isTerminated = true

namespace Link

/-- A change of the handle that no handle takes back keeps it honest. -/
theorem Honest.onHandle {l : Link} (hl : l.Honest) {f : Handle → Handle}
    (hf : ∀ h : Handle, h.Evolves (f h)) : (l.onHandle f).Honest := by
  intro hc h' hh'
  obtain ⟨h, hh, rfl⟩ := Option.map_eq_some_iff.mp hh'
  exact (hf h).terminated (hl hc h hh)

theorem honest_law : Law Honest where
  fresh _ _ _ _ _ := fun hc => nomatch hc
  listen _ _ _ _ := fun hc => nomatch hc
  enter _ hl := hl.onHandle Handle.evolves_enter
  leave _ hl := hl.onHandle Handle.evolves_leave
  notify _ c hl := hl.onHandle fun h => h.evolves_notify c
  shutDown _ hl := hl.onHandle Handle.evolves_shutDown
  close l _ _ := by
    intro _ h' hh'
    obtain ⟨h, _, rfl⟩ := Option.map_eq_some_iff.mp hh'
    rfl
  closeInVain _ hl := hl

end Link

namespace Session

variable {s : Session} {m : Nat}

/-- At the start there is no link to bind calls to. -/
theorem Initial.wired (hs : s.Initial) : s.Wired := by
  intro m
  obtain ⟨c, hfresh⟩ := hs.manager m
  refine ⟨fun i h => ?_, fun i h => ?_, fun i h => ?_, fun i h => ?_⟩
  · rw [hs.history] at h
    cases h
  all_goals
    rw [hfresh] at h
    cases h

/-- **At every moment calls are bound as the history says.** -/
theorem Reached.wired (hs : s.Reached fun step => !step.rebindsByHand) : s.Always Wired :=
  Initial.reached (fun _ hs => hs.wired)
    (fun _ _ hstart hsteps => (hstart.related Run.governs_respects hsteps).upholds) hs

/-- **The link of a manager that is connected** is open and admits calls. -/
theorem Reached.open_of_connected {p : Step → Bool} (hs : s.Reached p)
    (hcon : s.isConnected m = true) : ∃ i, (s.manager m).current? = some i ∧
      s.admits i = true ∧ s.retired i = false ∧ s.isOpen i = true := by
  obtain ⟨i, h, hcur, hi, hready⟩ := Scene.isConnected_iff.mp hcon
  obtain ⟨hterm, hshut, -⟩ := Handle.state_eq_ready.mp hready
  obtain ⟨l, hl, hh⟩ := handle?_eq_some.mp hi
  have hopen : l.isClosed = false := by
    rw [← Bool.not_eq_true]
    intro hc
    have := hs.link Link.honest_law i l hl hc h hh
    rw [hterm] at this
    exact Bool.false_ne_true this
  refine ⟨i, hcur, Scene.admits_iff.mpr ⟨h, hi, hshut⟩, ?_, ?_⟩
  · rw [Scene.retired, hi, Option.any_some, hshut]
  · rw [Scene.isOpen, hl, Option.map_some, Option.getD_some, hopen]
    rfl

/-- **A manager that is connected can be used exactly if the connection that made its link came to
its end**, at every moment of every run. If it did, calls are bound to the link in use, and every
operation whose request can be put together sends that request there, once, and answers what the
response means. If it did not, because it timed out or failed and its link became ready later, then
calls are bound to nothing, and every operation says that the client is not connected and sends
nothing. -/
theorem usable_iff_bound (hs : s.Reached fun step => !step.rebindsByHand)
    (hcon : s.isConnected m = true) : ∃ i, (s.manager m).current? = some i ∧
      (Event.bound m i ∈ s.history → (s.manager m).dispatcher? = some i ∧
        ∀ (op : Operation) (message : Wire.Message) (response : Response) (steps : List Step),
          op.request = .ok message →
            s.requestsUntil (Run.operate m op (Step.runAll steps) response s).2
                = [⟨i, op.method.path, op.method.request.encode message⟩] ∧
              ∀ result, (Run.operate m op (Step.runAll steps) response s).1 = .ok result →
                ∃ outcome, response.outcome op.method = .ok outcome ∧
                  result = op.interpret outcome) ∧
      (Event.bound m i ∉ s.history → (s.manager m).dispatcher? = none ∧
        ∀ (op : Operation) (message : Wire.Message) (response : Response) (steps : List Step),
          op.request = .ok message →
            s.requestsUntil (Run.operate m op (Step.runAll steps) response s).2 = [] ∧
              (Run.operate m op (Step.runAll steps) response s).1
                = .ok (.failed op.form .notConnected "")) := by
  obtain ⟨i, hcur, hadm, hret, hopen⟩ := hs.open_of_connected hcon
  have hwired := hs.wired.now m
  have hbound := hwired.bound i hcur hret
  refine ⟨i, hcur, fun hmem => ?_, fun hmem => ?_⟩
  · have hdisp := hbound.mpr hmem
    refine ⟨hdisp, fun op message response steps hreq => ?_⟩
    have hroute : s.route? m = some i := Scene.route?_eq_some.mpr ⟨hcon, hdisp, hadm⟩
    obtain ⟨hsent, hanswer⟩ := Run.operate_open (Step.runAll steps) response hs.valid hroute hreq
      hopen (Run.silent_runAll steps)
    exact ⟨hsent.requestsUntil_eq, hanswer⟩
  · have hdisp : (s.manager m).dispatcher? = none := by
      cases hd : (s.manager m).dispatcher? with
      | none => rfl
      | some j =>
        -- calls are bound to the link in use if to any
        obtain rfl : i = j := Option.some_inj.mp (hcur.symm.trans (hwired.dispatcher j hd))
        exact absurd (hbound.mp hd) hmem
    refine ⟨hdisp, fun op message response steps hreq => ?_⟩
    -- bound to nothing, so there is no way for a request
    have hroute : s.route? m = none := by
      rw [Scene.route?, hdisp]
      split <;> rfl
    obtain ⟨hanswer, hsent⟩ := Run.operate_unrouted (Step.runAll steps) response hcon hreq hroute
    exact ⟨hsent.requestsUntil_eq, hanswer⟩

/-- A connection times out, and its link becomes ready afterwards. -/
def belatedSteps : List Step :=
  [.connectManager (.text "host") (.int 1) (.int 0) ⟨some "CONNECTING", none, none, none, none⟩ [],
    .notify 0 "READY" false]

/-- A client whose connection timed out says that it is connected, and yet no operation is sent. -/
theorem usable_iff_bound_belated : let s := (withClient .bare .standard).after belatedSteps
    s.isConnected 0 = true ∧ (s.manager 0).isBusy = false ∧ (s.manager 0).dispatcher? = none ∧
      ∀ (response : Response) (steps : List Step),
        s.requestsUntil (Run.operate 0 (.hasTable "t") (Step.runAll steps) response s).2 = [] ∧
          (Run.operate 0 (.hasTable "t") (Step.runAll steps) response s).1
            = .ok (.failed .presence .notConnected "") := by
  intro s
  have hreached : s.Reached fun step => !step.rebindsByHand :=
    ⟨_, belatedSteps, ⟨.bare, .standard, .inl rfl⟩, by decide, List.mem_cons_self⟩
  have hcon : s.isConnected 0 = true := by decide +kernel
  have hnever : s.history.all (fun e => !e.isBinding) = true := by decide +kernel
  obtain ⟨i, -, -, hunbound⟩ := usable_iff_bound hreached hcon
  obtain ⟨hdisp, hops⟩ := hunbound fun hmem => by
    have := List.all_eq_true.mp hnever _ hmem
    cases this
  exact ⟨hcon, by decide +kernel, hdisp, fun response steps =>
    hops (.hasTable "t") _ response steps rfl⟩

end Session

end VectorLink
