import Mathlib.Data.List.Count
import VectorLink.Proofs.Steps

/-!
# The log and the scene

What tasks do is told in one log, signed by them. Whether it was in order can be read off the log
alone: every event of a task has to be permitted by what was told before (`Log.Permits`,
`Log.Orderly`).

Whether the next event is in order is not decided by the log, which no task reads. It is decided by
the scene, where the handles count their calls and remember that they were shut down. So the log has
to agree with the scene and with where each task is (`Log.Agrees`). For each thing that a task may
do, this is what it takes for the log to go on to agree (`Session.Proceeds`); most of what tasks do
is no part of any call, and takes nothing (`Session.Quiet`).
-/

namespace VectorLink

open Run

/-! ## What the log permits -/

namespace Log

/-- Whether a task entered a link and has not left it. -/
def isOn (t i : Nat) : Log → Bool
  | [] => false
  | (u, .entered j) :: before => (u == t && j == i) || isOn t i before
  | (u, .left j) :: before => !(u == t && j == i) && isOn t i before
  | _ :: before => isOn t i before

/-- **What a task may do** after all that happened before. It enters at most once, and only a link
that was not shut down; it sends only on the link that it is on, and only if the client never closed
the channel; and the client closes a channel only after it shut the handle down, and when no task is
on the link. -/
def Permits (before : Log) (t : Nat) : Event → Prop
  | .entered i => (∀ u, (u, .shutDown i) ∉ before) ∧ ∀ j, (t, .entered j) ∉ before
  | .called i _ _ => isOn t i before = true ∧ ∀ u done, (u, .closed i done) ∉ before
  | .left i => isOn t i before = true
  | .closed i _ => (∃ u, (u, .shutDown i) ∈ before) ∧ ∀ u, isOn u i before = false
  | _ => True

/-- **Everything that happened was permitted** when it happened. -/
def Orderly : Log → Prop
  | [] => True
  | (t, e) :: before => Permits before t e ∧ Orderly before

end Log

/-- Whether an event has no part in what tasks may do. -/
def Event.isPlain : Event → Bool
  | .entered _ | .left _ | .called _ _ _ | .shutDown _ | .closed _ _ => false
  | _ => true

namespace Log

variable {log : Log} {t u i : Nat} {e e' : Event}

/-- What is told of one event says nothing about others. -/
theorem mem_cons_ne (h : e' ≠ e) : (u, e') ∈ ((t, e) :: log : Log) ↔ (u, e') ∈ log :=
  List.mem_cons.trans (or_iff_right fun heq => h (Prod.mk.inj heq).2)

/-- A plain event is none of those that matter. -/
theorem mem_cons_plain (he : e.isPlain = true) (he' : e'.isPlain = false) :
    (u, e') ∈ ((t, e) :: log : Log) ↔ (u, e') ∈ log := by
  refine mem_cons_ne fun h => ?_
  rw [h, he] at he'
  cases he'

theorem isOn_cons_plain (he : e.isPlain = true) : isOn u i ((t, e) :: log) = isOn u i log := by
  cases e with
  | entered | left => cases he
  | _ => rfl

theorem permits_plain (he : e.isPlain = true) : Permits log t e := by
  cases e with
  | entered | left | called | shutDown | closed => cases he
  | _ => trivial

/-- Who is on a link has entered it. -/
theorem entered_of_isOn (h : isOn t i log = true) : (t, .entered i) ∈ log := by
  induction log with
  | nil => cases h
  | cons x before ih =>
    obtain ⟨u, e⟩ := x
    cases e with
    | entered j =>
      rw [isOn, Bool.or_eq_true] at h
      obtain h | h := h
      · rw [Bool.and_eq_true, beq_iff_eq, beq_iff_eq] at h
        rw [h.1, h.2]
        exact List.mem_cons_self
      · exact List.mem_cons_of_mem _ (ih h)
    | left j =>
      rw [isOn, Bool.and_eq_true] at h
      exact List.mem_cons_of_mem _ (ih h.2)
    | _ => exact List.mem_cons_of_mem _ (ih h)

/-- Who sends on a link has entered it. -/
theorem Orderly.entered (h : Orderly log) {path : String} {request : Wire.Octets}
    (hmem : (t, .called i path request) ∈ log) : (t, .entered i) ∈ log := by
  induction log with
  | nil => cases hmem
  | cons x before ih =>
    obtain rfl | hmem := List.mem_cons.mp hmem
    · exact List.mem_cons_of_mem _ (entered_of_isOn h.1.1)
    · exact List.mem_cons_of_mem _ (ih h.2 hmem)

end Log

/-! ## Where tasks are -/

/-- **Where a task is**, seen from the handles. A connect or a disconnect enters none. -/
inductive Whereabouts where
  | before
  | on (link : Nat)
  | after
  deriving DecidableEq

namespace Whereabouts

variable {places : List Whereabouts} {t : Nat} {p : Whereabouts}

/-- Where the tasks are after one of them has moved. -/
theorem getElem?_set (ht : places[t]? = some p) (q : Whereabouts) (u : Nat) :
    (places.set t q)[u]? = if t = u then some q else places[u]? := by
  have hlt : t < places.length := (List.getElem?_eq_some_iff.mp ht).1
  rw [List.getElem?_set, if_pos hlt]

theorem set_self (ht : places[t]? = some p) : places.set t p = places := by
  obtain ⟨hlt, rfl⟩ := List.getElem?_eq_some_iff.mp ht
  exact List.set_getElem_self hlt

/-- How many tasks are somewhere after one of them has moved. -/
theorem count_set (ht : places[t]? = some p) (q r : Whereabouts) :
    (places.set t q).count r + (if p = r then 1 else 0)
      = places.count r + if q = r then 1 else 0 := by
  obtain ⟨hlt, hp⟩ := List.getElem?_eq_some_iff.mp ht
  have hpos : p = r → 0 < places.count r := fun h =>
    List.count_pos_iff.mpr (h ▸ List.mem_of_getElem? ht)
  rw [List.count_set hlt, hp]
  simp only [beq_iff_eq]
  split
  · have := hpos ‹_›
    omega
  · omega

end Whereabouts

namespace Scene

/-- How many calls are in progress on a link, by its handle. -/
def running (s : Scene) (i : Nat) : Nat := ((s.handle? i).map Handle.inFlight).getD 0

/-- Whether the channel of a link was closed. -/
def isBroken (s : Scene) (i : Nat) : Bool := (s.links[i]?).any Link.isClosed

theorem drained_iff_running {s : Scene} {i : Nat} :
    s.drained i = true ↔ s.retired i = true ∧ s.running i = 0 := by
  unfold drained retired running
  cases s.handle? i with
  | none => simp
  | some h => simp [Handle.isDrained]

theorem admits_false_of_retired {s : Scene} {i : Nat} (h : s.retired i = true) :
    s.admits i = false := by
  obtain ⟨hd, hi, hshut⟩ := (Option.any_eq_true ..).mp h
  rw [admits, hi, Option.any_some, Handle.admits, hshut]
  rfl

theorem retired_false_of_admits {s : Scene} {i : Nat} (h : s.admits i = true) :
    s.retired i = false := by
  obtain ⟨hd, hi, hopen⟩ := admits_iff.mp h
  rw [retired, hi, Option.any_some, hopen]

/-- A channel that is there and was not closed is open. -/
theorem isOpen_of_running {s : Scene} {i : Nat} (hrun : 0 < s.running i)
    (hwhole : s.isBroken i = false) : s.isOpen i = true := by
  unfold running handle? at hrun
  unfold isBroken at hwhole
  unfold isOpen
  cases hl : s.links[i]? with
  | none => rw [hl] at hrun; exact absurd hrun (Nat.lt_irrefl 0)
  | some l =>
    rw [hl, Option.any_some] at hwhole
    rw [Option.map_some, Option.getD_some, hwhole]
    rfl

end Scene

/-- **The log agrees with the scene** and with where each task is. -/
structure Log.Agrees (log : Log) (places : List Whereabouts) (s : Scene) : Prop where
  orderly : log.Orderly
  on : ∀ t i, log.isOn t i = true ↔ places[t]? = some (.on i)
  entered : ∀ t i, (t, .entered i) ∈ log → ∃ p, places[t]? = some p ∧ p ≠ .before
  running : ∀ i, s.running i = places.count (.on i)
  shut : ∀ i, s.retired i = true ↔ ∃ u, (u, .shutDown i) ∈ log
  closed : ∀ i u done, (u, .closed i done) ∈ log → s.retired i = true ∧ s.running i = 0
  broken : ∀ i, s.isBroken i = true → ∃ u, (u, .closed i true) ∈ log

/-- The log of a world, as long as a task is at it. -/
def Session.signed (t : Nat) (old : Log) (s : Session) : Log := s.history.map (Prod.mk t) ++ old

namespace Log.Agrees

variable {log : Log} {places : List Whereabouts} {s s' : Scene} {t i : Nat}

/-- Nobody is on a link on which no call is in progress. -/
theorem isOn_eq_false (h : log.Agrees places s) (hidle : s.running i = 0) (u : Nat) :
    log.isOn u i = false := by
  rw [← Bool.not_eq_true, h.on]
  intro hu
  -- who is on the link is among those that its handle counts
  rw [h.running] at hidle
  exact List.count_eq_zero.mp hidle (List.mem_of_getElem? hu)

/-- A call is in progress on a link that a task is on. -/
theorem running_pos (h : log.Agrees places s) (ht : places[t]? = some (.on i)) :
    0 < s.running i := by
  rw [h.running]
  exact List.count_pos_iff.mpr (List.mem_of_getElem? ht)

/-- The client did not close the channel of a link that a task is on. -/
theorem not_closed (h : log.Agrees places s) (ht : places[t]? = some (.on i)) (u : Nat)
    (done : Bool) : (u, .closed i done) ∉ log := by
  intro hmem
  exact absurd (h.closed i u done hmem).2 (Nat.ne_of_gt (h.running_pos ht))

/-- **The channel of a link that a task is on is open.** -/
theorem isOpen (h : log.Agrees places s) (ht : places[t]? = some (.on i)) : s.isOpen i = true := by
  refine Scene.isOpen_of_running (h.running_pos ht) ?_
  rw [← Bool.not_eq_true]
  intro hbroken
  obtain ⟨u, hu⟩ := h.broken i hbroken
  exact h.not_closed ht u true hu

/-- What changes neither handles nor channels in a way that matters. -/
theorem of_scene (h : log.Agrees places s) (hrun : ∀ i, s'.running i = s.running i)
    (hret : ∀ i, s'.retired i = s.retired i) (hbr : ∀ i, s'.isBroken i = s.isBroken i) :
    log.Agrees places s' where
  orderly := h.orderly
  on := h.on
  entered := h.entered
  running i := by rw [hrun]; exact h.running i
  shut i := by rw [hret]; exact h.shut i
  closed i u done hmem := by rw [hret, hrun]; exact h.closed i u done hmem
  broken i := by rw [hbr]; exact h.broken i

/-- A plain event is told. -/
theorem tell (h : log.Agrees places s) {e : Event} (he : e.isPlain = true) (t : Nat) :
    Log.Agrees ((t, e) :: log) places s where
  orderly := ⟨Log.permits_plain he, h.orderly⟩
  on u i := by rw [Log.isOn_cons_plain he]; exact h.on u i
  entered u i hmem := h.entered u i ((Log.mem_cons_plain he rfl).mp hmem)
  running := h.running
  shut i := (h.shut i).trans (exists_congr fun _ => (Log.mem_cons_plain he rfl).symm)
  closed i u done hmem := h.closed i u done ((Log.mem_cons_plain he rfl).mp hmem)
  broken i hb := (h.broken i hb).imp fun _ => (Log.mem_cons_plain he rfl).mpr

theorem tell_all (h : log.Agrees places s) {later : List Event}
    (hplain : ∀ e ∈ later, e.isPlain = true) (t : Nat) :
    Log.Agrees (later.map (Prod.mk t) ++ log) places s := by
  induction later with
  | nil => exact h
  | cons e rest ih =>
    exact (ih fun e' he' => hplain e' (List.mem_cons_of_mem e he')).tell
      (hplain e List.mem_cons_self) t

/-- **A task enters** a link that is not shut down. -/
theorem tell_entered (h : log.Agrees places s) (ht : places[t]? = some .before)
    (hopen : s.retired i = false)
    (hrun : ∀ j, s'.running j = if i = j then s.running j + 1 else s.running j)
    (hret : ∀ j, s'.retired j = s.retired j) (hbr : ∀ j, s'.isBroken j = s.isBroken j) :
    Log.Agrees ((t, .entered i) :: log) (places.set t (.on i)) s' where
  orderly := by
    refine ⟨⟨fun u hmem => ?_, fun j hmem => ?_⟩, h.orderly⟩
    · rw [(h.shut i).mpr ⟨u, hmem⟩] at hopen
      cases hopen
    · -- who has entered before is somewhere else by now
      obtain ⟨p, hp, hne⟩ := h.entered t j hmem
      exact hne (Option.some_inj.mp (hp.symm.trans ht))
  on u j := by
    rw [Whereabouts.getElem?_set ht, Log.isOn, Bool.or_eq_true, h.on]
    by_cases htu : t = u
    · subst u
      rw [if_pos rfl, ht]
      simp
    · simp [htu]
  entered u j hmem := by
    rw [Whereabouts.getElem?_set ht]
    split
    · exact ⟨.on i, rfl, nofun⟩
    · refine h.entered u j ((List.mem_cons.mp hmem).resolve_left fun heq => ?_)
      exact absurd (Prod.mk.inj heq).1.symm ‹_›
  running j := by
    have hcount := Whereabouts.count_set ht (.on i) (.on j)
    rw [hrun, h.running]
    simp only [reduceCtorEq, if_false, Whereabouts.on.injEq, Nat.add_zero] at hcount
    rw [hcount]
    split <;> rfl
  shut j := by
    rw [hret, h.shut]
    exact exists_congr fun u => (Log.mem_cons_ne (by nofun)).symm
  closed j u done hmem := by
    obtain ⟨hshut, hidle⟩ := h.closed j u done ((Log.mem_cons_ne (by nofun)).mp hmem)
    -- the link that is entered was not shut down, so it is another
    have hij : i ≠ j := by
      rintro rfl
      rw [hshut] at hopen
      cases hopen
    rw [hret, hrun, if_neg hij]
    exact ⟨hshut, hidle⟩
  broken j hj := by
    rw [hbr] at hj
    exact (h.broken j hj).imp fun u => (Log.mem_cons_ne (by nofun)).mpr

/-- **A task sends its request** on the link that it is on. -/
theorem tell_called (h : log.Agrees places s) (ht : places[t]? = some (.on i)) (path : String)
    (request : Wire.Octets) : Log.Agrees ((t, .called i path request) :: log) places s where
  orderly := ⟨⟨(h.on t i).mpr ht, h.not_closed ht⟩, h.orderly⟩
  on := h.on
  entered u j hmem := h.entered u j ((Log.mem_cons_ne (by nofun)).mp hmem)
  running := h.running
  shut j := (h.shut j).trans (exists_congr fun u => (Log.mem_cons_ne (by nofun)).symm)
  closed j u done hmem := h.closed j u done ((Log.mem_cons_ne (by nofun)).mp hmem)
  broken j hj := (h.broken j hj).imp fun u => (Log.mem_cons_ne (by nofun)).mpr

/-- **A task leaves** the link that it is on. -/
theorem tell_left (h : log.Agrees places s) (ht : places[t]? = some (.on i))
    (hrun : ∀ j, s'.running j = if i = j then s.running j - 1 else s.running j)
    (hret : ∀ j, s'.retired j = s.retired j) (hbr : ∀ j, s'.isBroken j = s.isBroken j) :
    Log.Agrees ((t, .left i) :: log) (places.set t .after) s' where
  orderly := ⟨(h.on t i).mpr ht, h.orderly⟩
  on u j := by
    rw [Whereabouts.getElem?_set ht, Log.isOn, Bool.and_eq_true, h.on]
    by_cases htu : t = u
    · subst u
      rw [if_pos rfl, ht]
      simp
    · simp [htu]
  entered u j hmem := by
    rw [Whereabouts.getElem?_set ht]
    split
    · exact ⟨.after, rfl, nofun⟩
    · exact h.entered u j ((Log.mem_cons_ne (by nofun)).mp hmem)
  running j := by
    have hcount := Whereabouts.count_set ht .after (.on j)
    rw [hrun, h.running]
    simp only [reduceCtorEq, if_false, Whereabouts.on.injEq, Nat.add_zero] at hcount
    rw [← hcount]
    split <;> rfl
  shut j := by
    rw [hret, h.shut]
    exact exists_congr fun u => (Log.mem_cons_ne (by nofun)).symm
  closed j u done hmem := by
    obtain ⟨hshut, hidle⟩ := h.closed j u done ((Log.mem_cons_ne (by nofun)).mp hmem)
    rw [hret, hrun, hidle]
    exact ⟨hshut, by split <;> rfl⟩
  broken j hj := by
    rw [hbr] at hj
    exact (h.broken j hj).imp fun u => (Log.mem_cons_ne (by nofun)).mpr

/-- **The handle of a link is shut down**, by whomever. -/
theorem tell_shutDown (h : log.Agrees places s) (t : Nat)
    (hrun : ∀ j, s'.running j = s.running j)
    (hret : ∀ j, s'.retired j = true ↔ s.retired j = true ∨ j = i)
    (hbr : ∀ j, s'.isBroken j = s.isBroken j) :
    Log.Agrees ((t, .shutDown i) :: log) places s' where
  orderly := ⟨trivial, h.orderly⟩
  on := h.on
  entered u j hmem := h.entered u j ((Log.mem_cons_ne (by nofun)).mp hmem)
  running j := by rw [hrun, h.running]
  shut j := by
    rw [hret, h.shut]
    constructor
    · rintro (⟨u, hu⟩ | rfl)
      · exact ⟨u, List.mem_cons_of_mem _ hu⟩
      · exact ⟨t, List.mem_cons_self⟩
    · rintro ⟨u, hu⟩
      obtain heq | hu := List.mem_cons.mp hu
      · cases heq
        exact .inr rfl
      · exact .inl ⟨u, hu⟩
  closed j u done hmem := by
    obtain ⟨hshut, hidle⟩ := h.closed j u done ((Log.mem_cons_ne (by nofun)).mp hmem)
    exact ⟨(hret j).mpr (.inl hshut), (hrun j).trans hidle⟩
  broken j hj := by
    rw [hbr] at hj
    exact (h.broken j hj).imp fun u => (Log.mem_cons_ne (by nofun)).mpr

/-- **The channel of a link is told to close**, by whomever, when its handle is shut down and no
call is in progress. -/
theorem tell_closed {done : Bool} (h : log.Agrees places s) (t : Nat) (hshut : s.retired i = true)
    (hidle : s.running i = 0) (hrun : ∀ j, s'.running j = s.running j)
    (hret : ∀ j, s'.retired j = s.retired j)
    (hbr : ∀ j, s'.isBroken j = true → s.isBroken j = true ∨ j = i ∧ done = true) :
    Log.Agrees ((t, .closed i done) :: log) places s' where
  orderly := ⟨⟨(h.shut i).mp hshut, h.isOn_eq_false hidle⟩, h.orderly⟩
  on := h.on
  entered u j hmem := h.entered u j ((Log.mem_cons_ne (by nofun)).mp hmem)
  running j := by rw [hrun, h.running]
  shut j := by
    rw [hret, h.shut]
    exact exists_congr fun u => (Log.mem_cons_ne (by nofun)).symm
  closed j u done' hmem := by
    rw [hrun, hret]
    obtain heq | hmem := List.mem_cons.mp hmem
    · cases heq
      exact ⟨hshut, hidle⟩
    · exact h.closed j u done' hmem
  broken j hj := by
    obtain hj | ⟨rfl, rfl⟩ := hbr j hj
    · exact (h.broken j hj).imp fun u => List.mem_cons_of_mem _
    · exact ⟨t, List.mem_cons_self⟩

/-- A task is over without having entered. -/
theorem finish (h : log.Agrees places s) (ht : places[t]? = some .before) :
    log.Agrees (places.set t .after) s where
  orderly := h.orderly
  on u i := by
    rw [h.on, Whereabouts.getElem?_set ht]
    split
    · subst u
      rw [ht]
      simp
    · rfl
  entered u i hmem := by
    rw [Whereabouts.getElem?_set ht]
    split
    · exact ⟨.after, rfl, nofun⟩
    · exact h.entered u i hmem
  running i := by
    have hcount := Whereabouts.count_set ht .after (.on i)
    rw [h.running]
    simpa using hcount.symm
  shut := h.shut
  closed := h.closed
  broken := h.broken

/-- A further task has entered nothing. -/
theorem launch (h : log.Agrees places s) : log.Agrees (places ++ [.before]) s where
  orderly := h.orderly
  on t i := by
    rw [h.on, List.getElem?_append]
    split
    · rfl
    · rw [List.getElem?_eq_none (Nat.le_of_not_lt ‹_›), List.getElem?_singleton]
      split <;> simp
  entered t i hmem := by
    obtain ⟨p, hp, hne⟩ := h.entered t i hmem
    have hlt : t < places.length := (List.getElem?_eq_some_iff.mp hp).1
    exact ⟨p, by rw [List.getElem?_append_left hlt, hp], hne⟩
  running i := by
    rw [h.running, List.count_append, List.count_singleton, if_neg nofun, Nat.add_zero]
  shut := h.shut
  closed := h.closed
  broken := h.broken

/-- **Before any link is made** there is nothing to tell. -/
theorem of_no_links (hlinks : s.links = []) : Log.Agrees [] [] s where
  orderly := trivial
  on t i := by simp [Log.isOn]
  entered t i hmem := absurd hmem List.not_mem_nil
  running i := by simp [Scene.running, Scene.handle?, hlinks]
  shut i := by simp [Scene.retired, Scene.handle?, hlinks]
  closed i u done hmem := absurd hmem List.not_mem_nil
  broken i hb := by simp [Scene.isBroken, hlinks] at hb

end Log.Agrees

/-! ## What changes of a link do -/

namespace Session

section ChangeLink

variable (s : Session) (i j : Nat) {F : Link → Link} {f : Handle → Handle}

theorem running_changeLink (hF : ∀ l, (F l).handle? = l.handle?.map f)
    (hf : ∀ h, (f h).inFlight = h.inFlight) : (s.changeLink i F).running j = s.running j := by
  unfold Scene.running
  rw [handle?_changeLink_map s i j hF]
  split
  · rw [Option.map_map, show Handle.inFlight ∘ f = Handle.inFlight from funext hf]
  · rfl

theorem retired_changeLink (hF : ∀ l, (F l).handle? = l.handle?.map f)
    (hf : ∀ h, (f h).isShutdown = h.isShutdown) : (s.changeLink i F).retired j = s.retired j := by
  unfold Scene.retired
  rw [handle?_changeLink_map s i j hF]
  split
  · simp only [Option.any_map, hf]
  · rfl

theorem isBroken_changeLink (hF : ∀ l, (F l).isClosed = l.isClosed) :
    (s.changeLink i F).isBroken j = s.isBroken j := by
  unfold Scene.isBroken
  rw [links_changeLink]
  split
  · simp only [Option.any_map, hF]
  · rfl

end ChangeLink

/-- **What a step does that is no part of any call**, and shuts nothing down and closes nothing. -/
structure Quiet (s s' : Session) : Prop where
  evolves : s.Evolves s'
  running : ∀ i, s'.running i = s.running i
  retired : ∀ i, s'.retired i = s.retired i
  broken : ∀ i, s'.isBroken i = s.isBroken i
  tells : ∃ later, s'.history = later ++ s.history ∧ ∀ e ∈ later, e.isPlain = true

variable {s s' s'' : Session}

theorem Quiet.refl (s : Session) : s.Quiet s :=
  ⟨.refl s, fun _ => rfl, fun _ => rfl, fun _ => rfl, [], rfl,
    List.forall_mem_nil _⟩

theorem Quiet.trans (h : s.Quiet s') (h' : s'.Quiet s'') : s.Quiet s'' where
  evolves := h.evolves.trans h'.evolves
  running i := (h'.running i).trans (h.running i)
  retired i := (h'.retired i).trans (h.retired i)
  broken i := (h'.broken i).trans (h.broken i)
  tells := by
    obtain ⟨later, hh, hp⟩ := h.tells
    obtain ⟨later', hh', hp'⟩ := h'.tells
    refine ⟨later' ++ later, by rw [hh', hh, List.append_assoc], fun e he => ?_⟩
    exact (List.mem_append.mp he).elim (hp' e) (hp e)

theorem quiet_push (s : Session) {e : Event} (he : e.isPlain = true) : s.Quiet (s.push e) :=
  ⟨evolves_push s e, fun _ => rfl, fun _ => rfl, fun _ => rfl, [e], rfl,
    List.forall_mem_singleton.mpr he⟩

theorem quiet_changeManager (s : Session) (m : Nat) (f : Manager → Manager) :
    s.Quiet (s.changeManager m f) :=
  ⟨evolves_changeManager s m f, fun _ => rfl, fun _ => rfl, fun _ => rfl, [], rfl,
    List.forall_mem_nil _⟩

theorem quiet_hear (s : Session) (i : Nat) (report : String) : s.Quiet (s.hear i report) := by
  refine (quiet_push s (e := .delivered i report) rfl).trans ?_
  exact ⟨evolves_changeLink _ i fun l _ => Link.evolves_onHandle (fun h => h.evolves_notify _) l,
    fun j => running_changeLink _ i j (fun _ => rfl) fun h => h.notify_inFlight _,
    fun j => retired_changeLink _ i j (fun _ => rfl) fun h => h.notify_isShutdown _,
    fun j => isBroken_changeLink _ i j fun _ => rfl, [], rfl,
    List.forall_mem_nil _⟩

/-- What is the same of a new link and of none is the same of all links after one was added. -/
theorem measure_addLink {α : Type} (s : Session) {l : Link} (measure : Option Link → α)
    (hsame : measure (some l) = measure none) (i : Nat) :
    measure (s.addLink l).links[i]? = measure s.links[i]? := by
  by_cases hi : i = s.links.length
  · rw [hi, links_addLink_length, List.getElem?_eq_none le_rfl, hsame]
  · rw [links_addLink s l hi]

/-- A new link carries no call yet, and nothing has become of it. -/
theorem quiet_addLink (s : Session) {l : Link} (hopen : l.isClosed = false)
    (hidle : (l.handle?.map Handle.inFlight).getD 0 = 0)
    (hadm : l.handle?.any Handle.isShutdown = false) : s.Quiet (s.addLink l) where
  evolves := evolves_addLink s l
  running := measure_addLink s (fun l? => ((l?.bind Link.handle?).map Handle.inFlight).getD 0) hidle
  retired := measure_addLink s (fun l? => (l?.bind Link.handle?).any Handle.isShutdown) hadm
  broken := measure_addLink s (fun l? => l?.any Link.isClosed) hopen
  tells := ⟨[], rfl, List.forall_mem_nil _⟩

instance : Lasting Quiet where
  refl := Quiet.refl
  trans := Quiet.trans
  evolves h := h.evolves
  note s e he := quiet_push s (by cases e <;> first | rfl | cases he)

theorem quiet_noted (s : Session) (source : LogSource) (level : LogLevel) (message : String) :
    s.Quiet (s.noted source level message) := related_noted s source level message

end Session

open Session

theorem deliver_quiet (i : Nat) (report : String) : Keeps Quiet (deliver i report) := by
  intro s _
  cases hi : s.handle? i with
  | none =>
    rw [deliver_run_none hi]
    exact Quiet.refl s
  | some h =>
    rw [deliver_run hi]
    split
    · exact quiet_hear s i report
    · exact (quiet_hear s i report).trans (quiet_noted _ _ _ _)

theorem makeLink_quiet (target : String) (options : ChannelOptions)
    (behaviour : ChannelBehaviour) : Keeps Quiet (makeLink target options behaviour) := by
  intro s hs
  rw [makeLink_run]
  cases behaviour.makingRaises? with
  | some r => exact Quiet.refl s
  | none =>
    cases behaviour.listeningRaises? with
    | some r => exact quiet_addLink s rfl rfl rfl
    | none =>
      have hadd : s.Quiet (s.addLink (Link.fresh target options behaviour).listen) :=
        quiet_addLink s rfl rfl rfl
      cases behaviour.initial? with
      | none => exact hadd
      | some report =>
        exact hadd.trans (deliver_quiet _ report _ (hadd.evolves.valid hs))

theorem changeManager_quiet (m : Nat) (f : Manager → Manager) :
    Keeps Quiet (changeManager m f) := fun s _ => quiet_changeManager s m f

theorem bindCalls_quiet (m i : Nat) : Keeps Quiet (bindCalls m i) := by
  intro s _
  rw [bindCalls_run]
  split
  · exact Quiet.refl s
  · exact (quiet_push s rfl).trans (quiet_changeManager _ m _)

/-! ## What the steps of calls and disconnects do -/

namespace Session

variable {s s' s'' : Session} {t i : Nat} {old : Log} {places : List Whereabouts}

/-- **What no step takes back**, apart from what sessions never take back: once a handle is shut
down and no call is in progress, none ever is. -/
structure Steady (s s' : Session) : Prop where
  evolves : s.Evolves s'
  drained : ∀ i, s.drained i = true → s'.drained i = true

theorem Steady.trans (h : s.Steady s') (h' : s'.Steady s'') : s.Steady s'' :=
  ⟨h.evolves.trans h'.evolves, fun i => h'.drained i ∘ h.drained i⟩

/-- A handle that is shut down stays so, so only the number of its calls matters. -/
theorem Steady.of_running (hev : s.Evolves s')
    (hrun : ∀ i, s.retired i = true → s.running i = 0 → s'.running i = 0) : s.Steady s' := by
  refine ⟨hev, fun i hi => ?_⟩
  obtain ⟨hret, hidle⟩ := Scene.drained_iff_running.mp hi
  exact Scene.drained_iff_running.mpr ⟨hev.retired hret, hrun i hret hidle⟩

theorem Quiet.steady (h : s.Quiet s') : s.Steady s' :=
  .of_running h.evolves fun i _ hidle => (h.running i).trans hidle

theorem running_enterCall (hadm : s.admits i = true) (j : Nat) :
    (s.enterCall i).running j = if i = j then s.running j + 1 else s.running j := by
  obtain ⟨h, hi, -⟩ := Scene.admits_iff.mp hadm
  rw [Session.enterCall, Scene.running, Scene.running, handle?_onHandle, push_toScene]
  split
  · subst j
    rw [hi]
    rfl
  · rfl

theorem running_leaveCall (s : Session) (i j : Nat) :
    (s.leaveCall i).running j = if i = j then s.running j - 1 else s.running j := by
  rw [Session.leaveCall, Scene.running, Scene.running, handle?_onHandle, push_toScene]
  split
  · cases s.handle? j <;> rfl
  · rfl

theorem steady_enterCall (hadm : s.admits i = true) : s.Steady (s.enterCall i) := by
  refine .of_running (evolves_enterCall s i) fun j hret hidle => ?_
  rw [running_enterCall hadm, if_neg]
  · exact hidle
  · -- nobody enters a handle that is shut down
    rintro rfl
    rw [Scene.admits_false_of_retired hret] at hadm
    cases hadm

theorem steady_leaveCall (s : Session) (i : Nat) : s.Steady (s.leaveCall i) := by
  refine .of_running (evolves_leaveCall s i) fun j _ hidle => ?_
  rw [running_leaveCall, hidle]
  split <;> rfl

theorem running_retire (s : Session) (i j : Nat) : (s.retire i).running j = s.running j :=
  running_changeLink _ i j (fun _ => rfl) fun _ => rfl

theorem retired_retire (hadm : s.admits i = true) (j : Nat) :
    (s.retire i).retired j = true ↔ s.retired j = true ∨ j = i := by
  obtain ⟨h, hi, -⟩ := Scene.admits_iff.mp hadm
  rw [retire, Scene.retired, handle?_changeLink_map _ i j fun _ => rfl, push_toScene]
  by_cases hij : i = j
  · subst j
    rw [if_pos rfl, hi]
    simp [Handle.shutDown]
  · rw [if_neg hij, Scene.retired]
    simp [Ne.symm hij]

theorem isBroken_closeLink (h : (s.closeLink i).isBroken t = true) :
    s.isBroken t = true ∨ t = i := by
  by_cases hit : i = t
  · exact .inr hit.symm
  · rw [closeLink, Scene.isBroken, links_changeLink, if_neg hit] at h
    exact .inl h

end Session

/-- **What became of a session and of a task in one step**: the log agrees with both, and nothing
was taken back. -/
structure Session.Proceeds (t : Nat) (old : Log) (places : List Whereabouts) (p : Whereabouts)
    (s s' : Session) : Prop where
  agrees : (s'.signed t old).Agrees (places.set t p) s'.toScene
  steady : s.Steady s'

namespace Session

variable {s s' s'' : Session} {t i : Nat} {old : Log} {places : List Whereabouts}
  {p q : Whereabouts}

theorem agrees_quiet (h : (s.signed t old).Agrees places s.toScene) (hq : s.Quiet s') :
    (s'.signed t old).Agrees places s'.toScene := by
  obtain ⟨later, hlater, hplain⟩ := hq.tells
  have htold : s'.signed t old = later.map (Prod.mk t) ++ s.signed t old := by
    unfold signed
    rw [hlater, List.map_append, List.append_assoc]
  rw [htold]
  exact (h.tell_all hplain t).of_scene hq.running hq.retired hq.broken

/-- A quiet step of a task that stays where it is. -/
theorem Quiet.proceeds (hq : s.Quiet s') (h : (s.signed t old).Agrees places s.toScene)
    (ht : places[t]? = some p) : Proceeds t old places p s s' where
  agrees := by
    rw [Whereabouts.set_self ht]
    exact agrees_quiet h hq
  steady := hq.steady

/-- A quiet step of a task that is over without having entered. -/
theorem Quiet.proceeds_over (hq : s.Quiet s') (h : (s.signed t old).Agrees places s.toScene)
    (ht : places[t]? = some .before) : Proceeds t old places .after s s' where
  agrees := (agrees_quiet h hq).finish ht
  steady := hq.steady

theorem Proceeds.quiet (h : Proceeds t old places p s s') (hq : s'.Quiet s'') :
    Proceeds t old places p s s'' where
  agrees := agrees_quiet h.agrees hq
  steady := h.steady.trans hq.steady

/-- **A task enters** a link that admits calls. -/
theorem proceeds_enterCall (h : (s.signed t old).Agrees places s.toScene)
    (ht : places[t]? = some .before) (hadm : s.admits i = true) :
    Proceeds t old places (.on i) s (s.enterCall i) where
  agrees := h.tell_entered ht (Scene.retired_false_of_admits hadm) (running_enterCall hadm)
    (fun j => retired_changeLink _ i j (fun _ => rfl) fun _ => rfl)
    fun j => isBroken_changeLink _ i j fun _ => rfl
  steady := steady_enterCall hadm

/-- **A task sends its request** on the link that it is on. -/
theorem proceeds_called (h : (s.signed t old).Agrees places s.toScene)
    (ht : places[t]? = some (.on i)) (path : String) (request : Wire.Octets) :
    Proceeds t old places (.on i) s (s.push (.called i path request)) where
  agrees := by
    rw [Whereabouts.set_self ht]
    exact h.tell_called ht path request
  steady := .of_running (evolves_push s _) fun _ _ => id

/-- **A task leaves** the link that it is on. -/
theorem proceeds_leaveCall (h : (s.signed t old).Agrees places s.toScene)
    (ht : places[t]? = some (.on i)) : Proceeds t old places .after s (s.leaveCall i) where
  agrees := h.tell_left ht (running_leaveCall s i)
    (fun j => retired_changeLink _ i j (fun _ => rfl) fun _ => rfl)
    fun j => isBroken_changeLink _ i j fun _ => rfl
  steady := steady_leaveCall s i

/-- **The handle of a link is shut down**, by a task that stays where it is. -/
theorem proceeds_retire (h : (s.signed t old).Agrees places s.toScene) (ht : places[t]? = some p)
    (hadm : s.admits i = true) : Proceeds t old places p s (s.retire i) where
  agrees := by
    rw [Whereabouts.set_self ht]
    exact h.tell_shutDown t (running_retire s i) (retired_retire hadm) fun j =>
      isBroken_changeLink _ i j fun _ => rfl
  steady := .of_running (evolves_retire s i) fun j _ hidle => (running_retire s i j).trans hidle

/-- **The channel of a link is told to close**, when its handle is shut down and no call is in
progress. -/
theorem proceeds_closed {done : Bool} {F : Link → Link} {f : Handle → Handle}
    (h : (s.signed t old).Agrees places s.toScene) (ht : places[t]? = some p)
    (hdrained : s.drained i = true) (hF : ∀ l, (F l).handle? = l.handle?.map f)
    (hrun : ∀ h, (f h).inFlight = h.inFlight) (hret : ∀ h, (f h).isShutdown = h.isShutdown)
    (hev : s.Evolves ((s.push (.closed i done)).changeLink i F))
    (hbr : ∀ j, ((s.push (.closed i done)).changeLink i F).isBroken j = true →
      s.isBroken j = true ∨ j = i ∧ done = true) :
    Proceeds t old places p s ((s.push (.closed i done)).changeLink i F) where
  agrees := by
    obtain ⟨hshut, hidle⟩ := Scene.drained_iff_running.mp hdrained
    rw [Whereabouts.set_self ht]
    exact h.tell_closed t hshut hidle (fun j => running_changeLink _ i j hF hrun)
      (fun j => retired_changeLink _ i j hF hret) hbr
  steady := .of_running hev fun j _ hidle => (running_changeLink _ i j hF hrun).trans hidle

theorem Proceeds.trans (h : Proceeds t old places p s s')
    (h' : Proceeds t old (places.set t p) q s' s'') : Proceeds t old places q s s'' where
  agrees := by
    have := h'.agrees
    rwa [List.set_set] at this
  steady := h.steady.trans h'.steady

/-- **Closing a channel** is in order when the handle is shut down and no call is in progress,
whether or not it was done before, and whether or not it raises. -/
theorem proceeds_close (h : (s.signed t old).Agrees places s.toScene) (ht : places[t]? = some p)
    (hdrained : s.drained i = true) : Proceeds t old places p s (close i s).2 := by
  obtain ⟨hd, hi, -, -⟩ := Scene.drained_iff.mp hdrained
  obtain ⟨l, hl, hh⟩ := handle?_eq_some.mp hi
  rw [close_run hl hh]
  split
  · -- closed already, so nothing is done and nothing is told
    exact (Quiet.refl s).proceeds h ht
  · cases l.behaviour.closingRaises? with
    | some r =>
      refine proceeds_closed (F := Link.closeInVain) (f := id) h ht hdrained
        (fun l => (Option.map_id_apply ..).symm) (fun _ => rfl) (fun _ => rfl)
        (evolves_closeLinkInVain s i) fun j hj => .inl ?_
      rwa [isBroken_changeLink (F := Link.closeInVain) _ i j fun _ => rfl] at hj
    | none =>
      have hclosed : Proceeds t old places p s (s.closeLink i) :=
        proceeds_closed (F := Link.close) (f := Handle.terminate) h ht hdrained (fun _ => rfl)
          (fun _ => rfl) (fun _ => rfl) (evolves_closeLink s i) fun j hj =>
            (isBroken_closeLink hj).imp_right fun hji => ⟨hji, rfl⟩
      exact hclosed.quiet (quiet_noted _ _ _ _)

/-- **Leaving a link** is in order, and so is closing its channel if the call was the last. -/
theorem proceeds_leave (h : (s.signed t old).Agrees places s.toScene)
    (ht : places[t]? = some (.on i)) : Proceeds t old places .after s (leave i s).2 := by
  have hleft := proceeds_leaveCall h ht
  have hplace : (places.set t .after)[t]? = some .after := by
    rw [Whereabouts.getElem?_set ht, if_pos rfl]
  rw [leave_run]
  split
  · exact hleft.trans (proceeds_close hleft.agrees hplace ‹_›)
  · exact hleft

end Session

end VectorLink
