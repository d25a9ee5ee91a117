import Mathlib.Data.List.Infix
import VectorLink.Connection.Session

/-!
# How a session evolves

Whatever a client does, some things only ever go one way: links are added and never removed, a link
keeps its target and its behaviour, a handle that is shut down stays so, and the history grows at
its latest end. `Session.Evolves` says all of it at once, and it is a preorder, so it holds along a
run as soon as it holds of each change.

The changes themselves are the five of `Session`: something is written down (`Session.push`), a link
or a manager changes, a link is added, or a list that no link depends on is replaced.
-/

namespace VectorLink

/-- **What a handle never takes back.** -/
structure Handle.Evolves (h h' : Handle) : Prop where
  target : h'.target = h.target
  shutdown : h.isShutdown = true → h'.isShutdown = true
  terminated : h.isTerminated = true → h'.isTerminated = true

namespace Handle

theorem Evolves.refl (h : Handle) : h.Evolves h := ⟨rfl, id, id⟩

theorem Evolves.trans {a b c : Handle} (hab : a.Evolves b) (hbc : b.Evolves c) : a.Evolves c :=
  ⟨hbc.target.trans hab.target, hbc.shutdown ∘ hab.shutdown, hbc.terminated ∘ hab.terminated⟩

/-- A report of the channel is remembered, or not even that. -/
theorem notify_eq (h : Handle) (c : Connectivity) :
    ∃ reported, h.notify c = { h with reported := reported } := by
  unfold notify
  split
  · exact ⟨h.reported, rfl⟩
  · exact ⟨c, rfl⟩

theorem notify_inFlight (h : Handle) (c : Connectivity) : (h.notify c).inFlight = h.inFlight := by
  obtain ⟨_, hn⟩ := h.notify_eq c
  rw [hn]

theorem notify_isShutdown (h : Handle) (c : Connectivity) :
    (h.notify c).isShutdown = h.isShutdown := by
  obtain ⟨_, hn⟩ := h.notify_eq c
  rw [hn]

theorem notify_isTerminated (h : Handle) (c : Connectivity) :
    (h.notify c).isTerminated = h.isTerminated := by
  obtain ⟨_, hn⟩ := h.notify_eq c
  rw [hn]

theorem evolves_notify (h : Handle) (c : Connectivity) : h.Evolves (h.notify c) := by
  obtain ⟨_, hn⟩ := h.notify_eq c
  rw [hn]
  exact ⟨rfl, id, id⟩

theorem evolves_enter (h : Handle) : h.Evolves h.enter := ⟨rfl, id, id⟩

theorem evolves_leave (h : Handle) : h.Evolves h.leave := ⟨rfl, id, id⟩

theorem evolves_shutDown (h : Handle) : h.Evolves h.shutDown := ⟨rfl, fun _ => rfl, id⟩

theorem evolves_terminate (h : Handle) : h.Evolves h.terminate := ⟨rfl, id, fun _ => rfl⟩

end Handle

/-- **What a link never takes back.** -/
structure Link.Evolves (l l' : Link) : Prop where
  target : l'.target = l.target
  options : l'.options = l.options
  behaviour : l'.behaviour = l.behaviour
  closes : l.closes ≤ l'.closes
  closed : l.isClosed = true → l'.isClosed = true
  handle : ∀ h : Handle, l.handle? = some h → ∃ h', l'.handle? = some h' ∧ h.Evolves h'

namespace Link

theorem Evolves.refl (l : Link) : l.Evolves l :=
  ⟨rfl, rfl, rfl, le_rfl, id, fun h hh => ⟨h, hh, .refl h⟩⟩

theorem Evolves.trans {a b c : Link} (hab : a.Evolves b) (hbc : b.Evolves c) : a.Evolves c where
  target := hbc.target.trans hab.target
  options := hbc.options.trans hab.options
  behaviour := hbc.behaviour.trans hab.behaviour
  closes := hab.closes.trans hbc.closes
  closed := hbc.closed ∘ hab.closed
  handle h hh := by
    obtain ⟨h₁, hh₁, he₁⟩ := hab.handle h hh
    obtain ⟨h₂, hh₂, he₂⟩ := hbc.handle h₁ hh₁
    exact ⟨h₂, hh₂, he₁.trans he₂⟩

/-- A link evolves when its handle does. -/
theorem evolves_onHandle {f : Handle → Handle} (hf : ∀ h : Handle, h.Evolves (f h)) (l : Link) :
    l.Evolves (l.onHandle f) where
  target := rfl
  options := rfl
  behaviour := rfl
  closes := le_rfl
  closed := id
  handle h hh := ⟨f h, by simp [onHandle, hh], hf h⟩

theorem evolves_shutDown (l : Link) : l.Evolves l.shutDown :=
  let e := evolves_onHandle Handle.evolves_shutDown l
  ⟨rfl, rfl, rfl, le_rfl, id, e.handle⟩

theorem evolves_closeInVain (l : Link) : l.Evolves l.closeInVain :=
  ⟨rfl, rfl, rfl, Nat.le_succ _, id, (Evolves.refl l).handle⟩

theorem evolves_close (l : Link) : l.Evolves l.close :=
  let e := evolves_onHandle Handle.evolves_terminate l
  ⟨rfl, rfl, rfl, Nat.le_succ _, fun _ => rfl, e.handle⟩

end Link

namespace Session

/-! ## What a change leaves alone -/

@[simp] theorem push_toScene (s : Session) (e : Event) : (s.push e).toScene = s.toScene := rfl

@[simp] theorem push_history (s : Session) (e : Event) :
    (s.push e).history = e :: s.history := rfl

@[simp] theorem changeLink_history (s : Session) (i : Nat) (f : Link → Link) :
    (s.changeLink i f).history = s.history := rfl

theorem changeLink_openCalls (s : Session) (i : Nat) (f : Link → Link) :
    (s.changeLink i f).openCalls = s.openCalls := rfl

theorem links_changeLink (s : Session) (i j : Nat) (f : Link → Link) :
    (s.changeLink i f).links[j]? = if i = j then s.links[j]?.map f else s.links[j]? := by
  rw [changeLink, List.getElem?_modify]
  by_cases hij : i = j
  · simp [hij]
  · simp [hij]

/-- The handles after one link changed. -/
theorem handle?_changeLink (s : Session) (i j : Nat) (f : Link → Link) :
    (s.changeLink i f).handle? j
      = if i = j then s.links[j]?.bind (fun l => (f l).handle?) else s.handle? j := by
  rw [Scene.handle?, links_changeLink]
  by_cases hij : i = j
  · rw [if_pos hij, if_pos hij, Option.bind_map]
    rfl
  · rw [if_neg hij, if_neg hij]
    rfl

/-- The handles after a change that changes one of them. -/
theorem handle?_changeLink_map (s : Session) (i j : Nat) {F : Link → Link} {f : Handle → Handle}
    (hF : ∀ l : Link, (F l).handle? = l.handle?.map f) :
    (s.changeLink i F).handle? j = if i = j then (s.handle? j).map f else s.handle? j := by
  rw [handle?_changeLink]
  by_cases hij : i = j
  · rw [if_pos hij, if_pos hij, Scene.handle?]
    cases s.links[j]? with
    | none => rfl
    | some l => exact hF l
  · rw [if_neg hij, if_neg hij]

theorem handle?_onHandle (s : Session) (i j : Nat) (f : Handle → Handle) :
    (s.changeLink i (Link.onHandle f)).handle? j
      = if i = j then (s.handle? j).map f else s.handle? j :=
  handle?_changeLink_map s i j fun _ => rfl

/-- A handle belongs to a link. -/
theorem handle?_eq_some {s : Scene} {i : Nat} {h : Handle} :
    s.handle? i = some h ↔ ∃ l, s.links[i]? = some l ∧ l.handle? = some h := by
  rw [Scene.handle?]
  cases s.links[i]? with
  | none => simp
  | some l => simp

/-- Only a link that was made has a handle. -/
theorem lt_length_of_handle? {s : Scene} {i : Nat} {h : Handle} (hi : s.handle? i = some h) :
    i < s.links.length := by
  obtain ⟨l, hl, -⟩ := handle?_eq_some.mp hi
  exact (List.getElem?_eq_some_iff.mp hl).1

theorem manager_changeManager (s : Session) {m : Nat} (hm : m < s.managers.length) (n : Nat)
    (f : Manager → Manager) :
    (s.changeManager m f).manager n = if m = n then f (s.manager n) else s.manager n := by
  unfold Scene.manager changeManager
  simp only [List.getD_eq_getElem?_getD, List.getElem?_modify]
  by_cases hmn : m = n
  · subst hmn
    simp [List.getElem?_eq_getElem hm]
  · simp [hmn]

/-- A change of one manager concerns no other. -/
theorem manager_changeManager_ne (s : Session) {m n : Nat} (hmn : m ≠ n) (f : Manager → Manager) :
    (s.changeManager m f).manager n = s.manager n := by
  unfold Scene.manager changeManager
  simp [List.getD_eq_getElem?_getD, hmn]

theorem length_changeManager (s : Session) (m : Nat) (f : Manager → Manager) :
    (s.changeManager m f).managers.length = s.managers.length := List.length_modify ..

/-! ## Evolving -/

/-- Whether the manager in use exists. -/
def Valid (s : Session) : Prop := s.active < s.managers.length

/-- **What a session never takes back.** -/
structure Evolves (s s' : Session) : Prop where
  history : s.history <:+ s'.history
  managers : s.managers.length ≤ s'.managers.length
  valid : s.Valid → s'.Valid
  links : ∀ (i : Nat) (l : Link), s.links[i]? = some l → ∃ l', s'.links[i]? = some l' ∧ l.Evolves l'

theorem Evolves.refl (s : Session) : s.Evolves s :=
  ⟨List.suffix_rfl, le_rfl, id, fun _ l hl => ⟨l, hl, .refl l⟩⟩

theorem Evolves.trans {a b c : Session} (hab : a.Evolves b) (hbc : b.Evolves c) :
    a.Evolves c where
  history := hab.history.trans hbc.history
  managers := hab.managers.trans hbc.managers
  valid := hbc.valid ∘ hab.valid
  links i l hl := by
    obtain ⟨l₁, hl₁, he₁⟩ := hab.links i l hl
    obtain ⟨l₂, hl₂, he₂⟩ := hbc.links i l₁ hl₁
    exact ⟨l₂, hl₂, he₁.trans he₂⟩

/-- A handle evolves with its session. -/
theorem Evolves.handle {s s' : Session} (hs : s.Evolves s') {i : Nat} {h : Handle}
    (hh : s.handle? i = some h) : ∃ h', s'.handle? i = some h' ∧ h.Evolves h' := by
  obtain ⟨l, hl, hlh⟩ := handle?_eq_some.mp hh
  obtain ⟨l', hl', hll'⟩ := hs.links i l hl
  obtain ⟨h', hh', hhh'⟩ := hll'.handle h hlh
  exact ⟨h', handle?_eq_some.mpr ⟨l', hl', hh'⟩, hhh'⟩

/-- Links are never removed. -/
theorem Evolves.length_le {s s' : Session} (hs : s.Evolves s') :
    s.links.length ≤ s'.links.length := by
  refine Nat.le_of_not_lt fun hlt => ?_
  obtain ⟨l', hl', -⟩ := hs.links _ _ (List.getElem?_eq_getElem hlt)
  rw [List.getElem?_eq_none le_rfl] at hl'
  cases hl'

/-- A change that leaves links and managers alone and only adds to the history. -/
theorem Evolves.of_same {s s' : Session} (hl : s'.links = s.links)
    (hm : s'.managers = s.managers) (ha : s'.active = s.active)
    (hh : s.history <:+ s'.history) : s.Evolves s' where
  history := hh
  managers := by rw [hm]
  valid hs := by rw [Valid, hm, ha]; exact hs
  links i l hi := ⟨l, by rw [hl]; exact hi, .refl l⟩

theorem evolves_push (s : Session) (e : Event) : s.Evolves (s.push e) :=
  .of_same rfl rfl rfl (List.suffix_cons e s.history)

theorem evolves_changeLink (s : Session) (i : Nat) {f : Link → Link}
    (hf : ∀ l, s.links[i]? = some l → l.Evolves (f l)) : s.Evolves (s.changeLink i f) where
  history := List.suffix_rfl
  managers := le_rfl
  valid := id
  links j l hl := by
    rw [links_changeLink]
    by_cases hij : i = j
    · subst hij
      exact ⟨f l, by simp [hl], hf l hl⟩
    · exact ⟨l, by simp [hij, hl], .refl l⟩

theorem evolves_changeManager (s : Session) (m : Nat) (f : Manager → Manager) :
    s.Evolves (s.changeManager m f) where
  history := List.suffix_rfl
  managers := (length_changeManager s m f).ge
  valid hs := by rw [Valid, length_changeManager]; exact hs
  links _ l hl := ⟨l, hl, .refl l⟩

/-- A new link comes after the others, and leaves them as they are. -/
theorem links_addLink (s : Session) (l : Link) {i : Nat} (hi : i ≠ s.links.length) :
    (s.addLink l).links[i]? = s.links[i]? := by
  show (s.links ++ [l])[i]? = _
  rcases Nat.lt_or_gt_of_ne hi with hlt | hgt
  · exact List.getElem?_append_left hlt
  · rw [List.getElem?_append_right hgt.le, List.getElem?_singleton,
      if_neg (Nat.sub_ne_zero_of_lt hgt), List.getElem?_eq_none hgt.le]

theorem links_addLink_length (s : Session) (l : Link) :
    (s.addLink l).links[s.links.length]? = some l := by simp [addLink]

/-- Changing a link that was just added is adding a changed link. -/
theorem changeLink_addLink (s : Session) (l : Link) (f : Link → Link) :
    (s.addLink l).changeLink s.links.length f = s.addLink (f l) := by
  simp only [changeLink, addLink]
  rw [List.modify_eq_set_getElem?, List.getElem?_concat_length]
  simp

theorem evolves_addLink (s : Session) (l : Link) : s.Evolves (s.addLink l) where
  history := List.suffix_rfl
  managers := le_rfl
  valid := id
  links i l' hi := by
    have hlt : i < s.links.length := (List.getElem?_eq_some_iff.mp hi).1
    exact ⟨l', by rw [links_addLink s l hlt.ne]; exact hi, .refl l'⟩

end Session

end VectorLink
