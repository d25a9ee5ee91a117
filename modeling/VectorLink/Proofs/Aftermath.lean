import VectorLink.Proofs.Upkeep

/-!
# What comes after

Some things stay as they are once they have come about: a handle that was shut down is never ready
again, and a link that is drained stays drained. To say so one has to say what may come after a
session. That is whatever further steps make of it, and calls that were in progress may come to
their end in between (`Session.Onward`); and a step that takes long passes through moments of its
own, which come after as well (`Session.Later`).

So a relation between the ends of a run is not enough: it has to hold of every moment on the way, as
seen from either end (`Session.Along`). This costs nothing. A moment on the way is the end of one
part of the run and the beginning of another, and a relation that holds of all parts holds of both.
-/

namespace VectorLink

namespace Session

/-! ## Along a run -/

/-- **A relation holds along a run**: between its ends, and between each moment on the way and
either end. -/
structure Along (R : Session → Session → Prop) (s s' : Session) : Prop where
  whole : R s s'
  since : ∀ t ∈ momentsOf s'.history, t ∈ momentsOf s.history ∨ R s t ∧ R t s'

variable {R : Session → Session → Prop} {s s' : Session}

/-- Where no moment was added a relation between the ends is enough. -/
theorem Along.of_moments (h : R s s') (hpast : momentsOf s'.history = momentsOf s.history) :
    Along R s s' := ⟨h, fun _ ht => .inl (hpast ▸ ht)⟩

instance [Run.Lasting R] : Run.Lasting (Along R) where
  refl s := .of_moments (Run.Lasting.refl s) rfl
  trans h h' := by
    refine ⟨Run.Lasting.trans h.whole h'.whole, fun t ht => ?_⟩
    obtain ht | ⟨hbefore, hafter⟩ := h'.since t ht
    · exact (h.since t ht).imp_right fun ht' => ⟨ht'.1, Run.Lasting.trans ht'.2 h'.whole⟩
    · exact .inr ⟨Run.Lasting.trans h.whole hbefore, hafter⟩
  evolves h := Run.Lasting.evolves h.whole
  note s e he := .of_moments (Run.Lasting.note s he)
    (momentsOf_cons (by cases e <;> first | rfl | cases he) _)

/-- What is not disturbed between the ends is not disturbed along the way, since no activity on a
link adds a moment. -/
theorem along_tending (t : Run.Tending R) : Run.Tending (Along R) where
  enterCall s i hadm := .of_moments (t.enterCall s i hadm) rfl
  leave i s hs := .of_moments (t.leave i s hs) (aloof_indifferent.leave i s hs).moments
  hear s i report hi := .of_moments (t.hear s i report hi) rfl
  openCalls s calls := .of_moments (t.openCalls s calls) rfl
  shutDown i s hs := .of_moments (t.shutDown i s hs) (aloof_indifferent.shutDown i s hs).moments
  close i s hs := .of_moments (t.close i s hs) (aloof_indifferent.close i s hs).moments
  makeLink target options behaviour s hs :=
    .of_moments (t.makeLink target options behaviour s hs)
      (aloof_indifferent.makeLink target options behaviour s hs).moments

theorem along_unmanaged (u : Run.Unmanaged R) : Run.Unmanaged (Along R) where
  changeManager s m f hf := .of_moments (u.changeManager s m f hf) rfl
  installed s m i := .of_moments (u.installed s m i) rfl
  bound s m i := .of_moments (u.bound s m i) rfl
  addClient s c := .of_moments (u.addClient s c) rfl
  activate s m hm := .of_moments (u.activate s m hm) rfl
  kept s kept := .of_moments (u.kept s kept) rfl

/-- **A relation that nothing disturbs holds along every run.** -/
theorem along_respects [Run.Lasting R] (u : Run.Unmanaged R) (t : Run.Tending R)
    (hpush : ∀ (s : Session) (e : Event), R s (s.push e)) :
    Step.Respects (fun _ => true) (Along R) := by
  refine (along_unmanaged u).respects (along_tending t)
    (fun s _ _ _ => .of_moments (hpush s _) rfl) fun {s s'} answer h => ?_
  have hbegan := hpush s (.began s.toScene)
  have hended := hpush s' (.ended answer s'.toScene)
  have hin := Run.Lasting.trans hbegan h.whole
  refine ⟨Run.Lasting.trans hin hended, List.forall_mem_cons.mpr ⟨.inr ⟨hin, hended⟩, ?_⟩⟩
  intro t ht
  obtain ht | ⟨hbefore, hafter⟩ := h.since t ht
  · -- the first moment is the beginning itself
    obtain rfl | ht := List.mem_cons.mp ht
    · exact .inr ⟨Run.Lasting.refl s, Run.Lasting.trans hin hended⟩
    · exact .inl ht
  · exact .inr ⟨Run.Lasting.trans hbegan hbefore, Run.Lasting.trans hafter hended⟩

/-! ## Links that are drained -/

/-- **What was drained stays drained.** -/
structure Settles (s s' : Session) : Prop where
  evolves : s.Evolves s'
  drained : ∀ i, s.drained i = true → s'.drained i = true

variable {s s' : Session} {i : Nat}

/-- A change of the links only has to leave each handle that is drained without calls. -/
theorem Settles.of_handles (hev : s.Evolves s')
    (h : ∀ (i : Nat) (h h' : Handle), s.handle? i = some h → s'.handle? i = some h' →
      h.isShutdown = true → h.inFlight = 0 → h'.inFlight = 0) : Settles s s' := by
  refine ⟨hev, fun i hd => ?_⟩
  obtain ⟨hd, hi, hshut, hidle⟩ := Scene.drained_iff.mp hd
  obtain ⟨hd', hi', he⟩ := hev.handle hi
  exact Scene.drained_iff.mpr ⟨hd', hi', he.shutdown hshut, h i hd hd' hi hi' hshut hidle⟩

/-- What leaves the links alone leaves those that are drained alone. -/
theorem Settles.of_links (hev : s.Evolves s') (hl : s'.links = s.links) : Settles s s' :=
  ⟨hev, fun i h => by rwa [Scene.drained, Scene.handle?, hl]⟩

instance : Run.Lasting Settles where
  refl s := .of_links (.refl s) rfl
  trans h h' := ⟨h.evolves.trans h'.evolves, fun i hi => h'.drained i (h.drained i hi)⟩
  evolves := Settles.evolves
  note s e _ := .of_links (evolves_push s e) rfl

/-- What happens in the life of a link only has to leave its handle without calls if it is
drained. -/
theorem Settles.of_event {e : Event} {F : Link → Link} {f : Handle → Handle}
    (hev : s.Evolves ((s.push e).changeLink i F))
    (hF : ∀ l : Link, (F l).handle? = l.handle?.map f)
    (hf : ∀ h, s.handle? i = some h → h.isShutdown = true → h.inFlight = 0 →
      (f h).inFlight = 0) : Settles s ((s.push e).changeLink i F) := by
  refine .of_handles hev fun j h h' hj hj' hshut hidle => ?_
  rw [handle?_changeLink] at hj'
  by_cases hij : i = j
  · subst hij
    rw [if_pos rfl] at hj'
    obtain ⟨l, hl, hh⟩ := handle?_eq_some.mp hj
    rw [push_toScene, hl, Option.bind_some, hF, hh] at hj'
    cases hj'
    exact hf h hj hshut hidle
  · rw [if_neg hij, push_toScene, hj] at hj'
    cases hj'
    exact hidle

/-- A new link changes no other. -/
theorem settles_addLink (s : Session) (l : Link) : Settles s (s.addLink l) := by
  refine .of_handles (evolves_addLink s l) fun i h h' hi hi' _ hidle => ?_
  obtain ⟨k, hk, -⟩ := handle?_eq_some.mp hi
  rw [handle?_addLink, if_neg (List.getElem?_eq_some_iff.mp hk).1.ne, hi] at hi'
  cases hi'
  exact hidle

end Session

namespace Run

open Session

theorem settles_close (i : Nat) : Keeps Settles (close i) := by
  intro s _
  cases hi : s.handle? i with
  | none =>
    rw [close_run_none hi]
    exact Lasting.refl s
  | some h =>
    obtain ⟨l, hl, hh⟩ := handle?_eq_some.mp hi
    rw [close_run hl hh]
    split
    · exact Lasting.refl s
    · cases l.behaviour.closingRaises? with
      | some r =>
        exact .of_event (f := id) (evolves_closeLinkInVain s i)
          (fun l => (congrFun Option.map_id l.handle?).symm) fun _ _ _ => id
      | none =>
        have hclosed : Settles s (s.closeLink i) :=
          .of_event (evolves_closeLink s i) (fun _ => rfl) fun _ _ _ => id
        exact Lasting.trans hclosed (related_noted _ _ _ _)

/-- **No call enters a link** once it is drained. -/
theorem settles_considerate : Considerate Settles where
  enterCall s i hadm := by
    refine .of_event (evolves_enterCall s i) (fun _ => rfl) fun h hi hshut => ?_
    obtain ⟨h', hi', hopen⟩ := Scene.admits_iff.mp hadm
    obtain rfl := Option.some_inj.mp (hi.symm.trans hi')
    exact absurd (hopen.symm.trans hshut) Bool.false_ne_true
  leave i := by
    intro s hs
    have hleft : Settles s (s.leaveCall i) := by
      refine .of_event (evolves_leaveCall s i) (fun _ => rfl) fun h _ _ hidle => ?_
      show h.inFlight - 1 = 0
      rw [hidle]
    rw [leave_run]
    split
    · exact Lasting.trans hleft (settles_close i _ (hleft.evolves.valid hs))
    · exact hleft
  hear s i report _ := by
    refine .of_event (evolves_hear s i report) (fun _ => rfl) fun h _ _ hidle => ?_
    rw [h.notify_inFlight, hidle]
  openCalls s calls := .of_links (evolves_indifferent.openCalls s calls) rfl

theorem settles_tending : Tending Settles where
  toConsiderate := settles_considerate
  shutDown i := by
    intro s _
    rw [shutDown_run]
    split
    · exact .of_event (evolves_retire s i) (fun _ => rfl) fun _ _ _ => id
    · exact Lasting.refl s
  close := settles_close
  makeLink _ _ _ :=
    keeps_makeLink (fun _ _ s => settles_addLink s _) (fun _ s => settles_addLink s _)
      settles_considerate.deliver

theorem settles_unmanaged : Unmanaged Settles :=
  .of_events (fun s _ _ => .of_links (evolves_push s _) rfl) fun hev _ hl _ => .of_links hev hl

/-- **What was drained stays drained along every run.** -/
theorem settles_respects : Step.Respects (fun _ => true) (Along Settles) :=
  along_respects settles_unmanaged settles_tending fun s e => .of_links (evolves_push s e) rfl

end Run

namespace Session

/-! ## What may come after a session -/

variable {p : Step → Bool} {s s' t : Session}

/-- **The sessions that come of a session**: by further steps that are allowed, and by calls that
were in progress and leave. -/
inductive Onward (p : Step → Bool) (s : Session) : Session → Prop
  | here : Onward p s s
  | step {t : Session} (step : Step) (hstep : step.within p = true) (ht : Onward p s t) :
    Onward p s (step.run t).2
  | leave {t : Session} (i : Nat) (ht : Onward p s t) : Onward p s (Run.leave i t).2

/-- **A run passes through a session** on its way from one session to another. -/
def Passes (s s' t : Session) : Prop :=
  t = s' ∨ t ∈ momentsOf s'.history ∧ t ∉ momentsOf s.history

/-- **The sessions that come after a session**, at the end of a step or within it. -/
def Later (p : Step → Bool) (s t : Session) : Prop := ∃ s', s.Onward p s' ∧ s.Passes s' t

/-- What holds along a run holds between either end and any session that it passes through. -/
theorem Along.passes {R : Session → Session → Prop} [Run.Lasting R] (h : Along R s s')
    (ht : s.Passes s' t) : R s t ∧ R t s' := by
  obtain rfl | ⟨hmem, hnew⟩ := ht
  · exact ⟨h.whole, Run.Lasting.refl t⟩
  · exact (h.since t hmem).resolve_left hnew

/-- What has always held holds of every session that was passed through. -/
theorem Always.passes {I : Session → Prop} (h : s'.Always I) (ht : s.Passes s' t) : t.Always I := by
  obtain rfl | ⟨hmem, -⟩ := ht
  · exact h
  · exact ⟨h.past t hmem, fun u hu => h.past u (momentsOf_trans hmem hu)⟩

/-- **A relation kept by steps and by calls that leave** holds to whatever comes of a session. -/
theorem Onward.related {R : Session → Session → Prop} [Run.Lasting R] (h : Step.Respects p R)
    (hleave : ∀ i, Run.Keeps R (Run.leave i)) (ht : s.Onward p t) (hs : s.Valid) : R s t := by
  induction ht with
  | here => exact Run.Lasting.refl s
  | step step hstep _ ih =>
    have hrun : Run.Keeps R step.run := h.writtenDown (Step.keeps_perform h step hstep)
    exact Run.Lasting.trans ih (hrun _ ((Run.Lasting.evolves ih).valid hs))
  | leave i _ ih =>
    exact Run.Lasting.trans ih (hleave i _ ((Run.Lasting.evolves ih).valid hs))

theorem Onward.mono {q : Step → Bool} (hpq : ∀ step, p step = true → q step = true)
    (ht : s.Onward p t) : s.Onward q t := by
  induction ht with
  | here => exact .here
  | step step hstep _ ih => exact .step step (Step.within_mono hpq step hstep) ih
  | leave i _ ih => exact .leave i ih

/-- **What comes after a session** evolved from it, and what was drained is drained. -/
theorem Later.settles (ht : s.Later p t) (hs : s.Valid) : Settles s t := by
  obtain ⟨s', hon, hpass⟩ := ht
  have hall : s.Onward (fun _ => true) s' := hon.mono fun _ _ => rfl
  exact ((hall.related Run.settles_respects (along_tending Run.settles_tending).leave hs).passes
    hpass).1

/-- Whatever comes after a session that was tidy is tidy. -/
theorem Later.tidy (ht : s.Later p t) (hp : ∀ step, p step = true → (!step.closesByHand) = true)
    (hs : s.Valid) (htidy : s.Always (Tidy none)) : t.Always (Tidy none) := by
  obtain ⟨s', hon, hpass⟩ := ht
  have hup : Upholds (Tidy none) s s' :=
    (hon.mono hp).related Run.tidy_respects Run.tidy_considerate.leave hs
  exact (hup.always htidy).passes hpass

end Session

end VectorLink
