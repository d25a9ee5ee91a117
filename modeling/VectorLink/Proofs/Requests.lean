import VectorLink.Proofs.Moments

/-!
# The requests of an activity

While a call is in progress other activities may take place, and they may make calls of their own.
The history holds the requests of all of them in one list. To say what one activity sent, the
requests that are not its own have to be told apart from those that are.

The brackets of the history tell them apart. What takes place inside an activity is written down as
activities of their own, between a beginning and an end, so an activity's own requests are those
outside of all brackets that were opened since it began (`ownRequests`). That this can be counted
piece by piece rests on one fact: every activity closes the brackets that it opens (`Balanced`),
however it ends.

What is said of requests goes for all that an activity writes down itself (`Session.Wrote`). Steps
inside an activity are all bracketed, so of these it has none (`Run.wrote_runAll`).
-/

namespace VectorLink

/-- **A request on the channel of a link.** -/
structure Request where
  link : Nat
  path : String
  octets : Wire.Octets
  deriving DecidableEq, Repr

/-- Whether an event is a request. -/
def Event.isCall : Event → Bool
  | .called _ _ _ => true
  | _ => false

theorem Event.isCall_of_isOfLink {e : Event} (he : e.isOfLink = true) : e.isCall = false := by
  cases e <;> first | rfl | cases he

theorem Event.isCall_of_isOfManager {e : Event} (he : e.isOfManager = true) : e.isCall = false := by
  cases e <;> first | rfl | cases he

/-- **The requests outside of all brackets**, latest first. The depth is the number of brackets that
are open, seen from the end. -/
def ownRequests (depth : Nat) : List Event → List Request
  | [] => []
  | .ended _ _ :: before => ownRequests (depth + 1) before
  | .began _ :: before => ownRequests (depth - 1) before
  | .called link path octets :: before =>
    if depth = 0 then ⟨link, path, octets⟩ :: ownRequests depth before
    else ownRequests depth before
  | _ :: before => ownRequests depth before

/-- **A part of a history in which every bracket is closed**, and closes one that was opened
there. -/
inductive Balanced : List Event → Prop where
  | nil : Balanced []
  | event {e : Event} (he : e.isBracket = false) : Balanced [e]
  | append {later earlier : List Event} (hl : Balanced later) (he : Balanced earlier) :
    Balanced (later ++ earlier)
  | bracketed {inner : List Event} (hi : Balanced inner) (answer : Except Failure Answer)
    (seen seen' : Scene) : Balanced (.ended answer seen' :: (inner ++ [.began seen]))

/-- An event that is neither a bracket nor a request is no matter. -/
theorem ownRequests_cons {e : Event} (hb : e.isBracket = false) (hc : e.isCall = false)
    (depth : Nat) (before : List Event) :
    ownRequests depth (e :: before) = ownRequests depth before := by
  cases e with
  | began => exact absurd hb Bool.false_ne_true.symm
  | ended => exact absurd hb Bool.false_ne_true.symm
  | called => exact absurd hc Bool.false_ne_true.symm
  | _ => rfl

/-! ## What is outside of all brackets -/

/-- **The events outside of all brackets**, latest first. -/
def ownEvents (depth : Nat) : List Event → List Event
  | [] => []
  | .ended _ _ :: before => ownEvents (depth + 1) before
  | .began _ :: before => ownEvents (depth - 1) before
  | e :: before => (if depth = 0 then [e] else []) ++ ownEvents depth before

theorem ownEvents_cons {e : Event} (he : e.isBracket = false) (depth : Nat)
    (before : List Event) :
    ownEvents depth (e :: before) = (if depth = 0 then [e] else []) ++ ownEvents depth before := by
  cases e with
  | began => exact absurd he Bool.false_ne_true.symm
  | ended => exact absurd he Bool.false_ne_true.symm
  | _ => rfl

/-- **A balanced part of a history stands for itself**: inside a bracket it has no own events, and
outside it adds those that it has alone. -/
theorem ownEvents_append {later : List Event} (hb : Balanced later) (depth : Nat)
    (before : List Event) :
    ownEvents depth (later ++ before)
      = (if depth = 0 then ownEvents 0 later else []) ++ ownEvents depth before := by
  induction hb generalizing depth before with
  | nil => cases depth <;> rfl
  | @event e he =>
    have halone : ownEvents 0 [e] = [e] := ownEvents_cons he 0 []
    rw [List.singleton_append, ownEvents_cons he, halone]
  | append hl he ihl ihe =>
    rw [List.append_assoc, ihl, ihe, ihl 0]
    cases depth with
    | zero => simp
    | succ depth => simp
  | @bracketed inner hi answer seen seen' ih =>
    -- inside the bracket the depth is positive, so nothing there counts
    have hclosed : ∀ (d : Nat) (rest : List Event),
        ownEvents d (.ended answer seen' :: (inner ++ .began seen :: rest))
          = ownEvents d rest := by
      intro d rest
      rw [ownEvents, ih, if_neg (Nat.succ_ne_zero d), List.nil_append, ownEvents,
        Nat.add_sub_cancel]
    rw [List.cons_append, List.append_assoc, List.singleton_append, hclosed, hclosed, ownEvents]
    split <;> rfl

/-- A bracket has no own events, whatever there is inside. -/
theorem ownEvents_bracketed {inner : List Event} (hi : Balanced inner)
    (answer : Except Failure Answer) (seen seen' : Scene) :
    ownEvents 0 (.ended answer seen' :: (inner ++ [.began seen])) = [] := by
  rw [ownEvents, ownEvents_append hi]
  rfl

/-- The request that an event is. -/
def Event.request? : Event → Option Request
  | .called link path octets => some ⟨link, path, octets⟩
  | _ => none

/-- **Own requests are own events.** -/
theorem ownRequests_eq (depth : Nat) (history : List Event) :
    ownRequests depth history = (ownEvents depth history).filterMap Event.request? := by
  induction history generalizing depth with
  | nil => rfl
  | cons e before ih =>
    cases e with
    | began => exact ih _
    | ended => exact ih _
    | called => rw [ownRequests, ownEvents_cons rfl, List.filterMap_append, ih]; split <;> rfl
    | _ =>
      rw [ownRequests_cons rfl rfl, ownEvents_cons rfl, List.filterMap_append, ih]
      split <;> rfl

/-- **A balanced part of a history stands for itself**: inside a bracket it has no own requests, and
outside it adds those that it has alone. -/
theorem ownRequests_append {later : List Event} (hb : Balanced later) (depth : Nat)
    (before : List Event) :
    ownRequests depth (later ++ before)
      = (if depth = 0 then ownRequests 0 later else []) ++ ownRequests depth before := by
  rw [ownRequests_eq, ownRequests_eq, ownRequests_eq, ownEvents_append hb, List.filterMap_append]
  cases depth <;> rfl

namespace Session

/-! ## What was sent between two sessions -/

/-- **The own requests between an earlier and a later session**, in order. -/
def requestsUntil (s s' : Session) : List Request :=
  (ownRequests 0 (s'.history.take (s'.history.length - s.history.length))).reverse

/-- **What an activity wrote down itself**: from one session to the other the history grew by a
balanced part with those own events, in order. -/
structure Wrote (s s' : Session) (events : List Event) : Prop where
  evolves : s.Evolves s'
  written : ∃ part, s'.history = part ++ s.history ∧ Balanced part ∧
    (ownEvents 0 part).reverse = events

/-- **What an activity sent itself**: from one session to the other it wrote down a balanced part of
the history with those own requests, in order. -/
structure Sent (s s' : Session) (requests : List Request) : Prop where
  evolves : s.Evolves s'
  written : ∃ part, s'.history = part ++ s.history ∧ Balanced part ∧
    (ownRequests 0 part).reverse = requests

section

variable {s s' s'' : Session} {events events' : List Event}

theorem Wrote.refl (s : Session) : Wrote s s [] := ⟨.refl s, [], rfl, .nil, rfl⟩

/-- **Own events add up** along a sequence. -/
theorem Wrote.trans (h : Wrote s s' events) (h' : Wrote s' s'' events') :
    Wrote s s'' (events ++ events') := by
  obtain ⟨part, hpart, hb, hown⟩ := h.written
  obtain ⟨part', hpart', hb', hown'⟩ := h'.written
  refine ⟨h.evolves.trans h'.evolves, part' ++ part, ?_, .append hb' hb, ?_⟩
  · rw [hpart', hpart, List.append_assoc]
  · rw [ownEvents_append hb', if_pos rfl, List.reverse_append, hown, hown']

theorem wrote_push (s : Session) {e : Event} (he : e.isBracket = false) :
    Wrote s (s.push e) [e] := by
  refine ⟨evolves_push s e, [e], rfl, .event he, ?_⟩
  rw [ownEvents_cons he]
  rfl

/-- Requests are among what was written down. -/
theorem Wrote.sent (h : Wrote s s' events) : Sent s s' (events.filterMap Event.request?) := by
  obtain ⟨part, hpart, hb, rfl⟩ := h.written
  refine ⟨h.evolves, part, hpart, hb, ?_⟩
  rw [ownRequests_eq, List.filterMap_reverse]

end

variable {s s' s'' : Session} {requests requests' : List Request}

theorem Sent.requestsUntil_eq (h : Sent s s' requests) : s.requestsUntil s' = requests := by
  obtain ⟨part, hpart, -, hown⟩ := h.written
  rw [requestsUntil, hpart, List.length_append, Nat.add_sub_cancel, List.take_left, hown]

theorem Sent.refl (s : Session) : Sent s s [] := ⟨.refl s, [], rfl, .nil, rfl⟩

/-- **Requests add up** along a sequence. -/
theorem Sent.trans (h : Sent s s' requests) (h' : Sent s' s'' requests') :
    Sent s s'' (requests ++ requests') := by
  obtain ⟨part, hpart, hb, hown⟩ := h.written
  obtain ⟨part', hpart', hb', hown'⟩ := h'.written
  refine ⟨h.evolves.trans h'.evolves, part' ++ part, ?_, .append hb' hb, ?_⟩
  · rw [hpart', hpart, List.append_assoc]
  · rw [ownRequests_append hb', if_pos rfl, List.reverse_append, hown, hown']

/-- What changes the session without writing anything down sends nothing. -/
theorem Sent.of_history (hev : s.Evolves s') (hh : s'.history = s.history) : Sent s s' [] :=
  ⟨hev, [], hh, .nil, rfl⟩

/-- An event that is neither a bracket nor a request sends nothing. -/
theorem Sent.of_event (hev : s.Evolves s') {e : Event} (hb : e.isBracket = false)
    (hc : e.isCall = false) (hh : s'.history = e :: s.history) : Sent s s' [] := by
  refine ⟨hev, [e], hh, .event hb, ?_⟩
  rw [ownRequests_cons hb hc]
  rfl

theorem sent_called (s : Session) (i : Nat) (path : String) (octets : Wire.Octets) :
    Sent s (s.push (.called i path octets)) [⟨i, path, octets⟩] :=
  ⟨evolves_push s _, [_], rfl, .event rfl, rfl⟩

/-- What was sent inside a bracket is not sent by the activity around it, nor is anything else
there its own. -/
theorem Sent.enclosed (h : Sent (s.push (.began s.toScene)) s' requests)
    (answer : Except Failure Answer) : Wrote s (s'.push (.ended answer s'.toScene)) [] := by
  obtain ⟨part, hpart, hb, -⟩ := h.written
  refine ⟨((evolves_push s _).trans h.evolves).trans (evolves_push s' _), _, ?_,
    hb.bracketed answer s.toScene s'.toScene, ?_⟩
  · rw [push_history, hpart, push_history, List.cons_append, List.append_assoc]
    rfl
  · rw [ownEvents_bracketed hb]
    rfl

theorem Sent.bracketed (h : Sent (s.push (.began s.toScene)) s' requests)
    (answer : Except Failure Answer) : Sent s (s'.push (.ended answer s'.toScene)) [] :=
  (h.enclosed answer).sent

/-! ## Activities that send nothing themselves -/

/-- **Nothing was sent** by the activity itself. -/
def Silent (s s' : Session) : Prop := Sent s s' []

/-- **The brackets that were opened are closed.** -/
def Closes (s s' : Session) : Prop := ∃ requests, Sent s s' requests

theorem Silent.closes (h : Silent s s') : Closes s s' := ⟨[], h⟩

instance : Run.Lasting Silent where
  refl := Sent.refl
  trans h h' := h.trans h'
  evolves h := h.evolves
  note s e he :=
    .of_event (evolves_push s e) (by cases e <;> first | rfl | cases he)
      (by cases e <;> first | rfl | cases he) rfl

instance : Run.Lasting Closes where
  refl s := ⟨[], .refl s⟩
  trans := fun ⟨_, h⟩ ⟨_, h'⟩ => ⟨_, h.trans h'⟩
  evolves := fun ⟨_, h⟩ => h.evolves
  note s _ he := Silent.closes (Run.Lasting.note (R := Silent) s he)

theorem silent_indifferent : Run.Indifferent Silent :=
  .of_events
    (fun hev he hh _ =>
      .of_event hev (Event.isBracket_of_isOfLink he) (Event.isCall_of_isOfLink he) hh)
    fun hev hh _ => .of_history hev hh

theorem silent_unmanaged : Run.Unmanaged Silent :=
  .of_events
    (fun s _ he => .of_event (evolves_push s _) (Event.isBracket_of_isOfManager he)
      (Event.isCall_of_isOfManager he) rfl)
    fun hev hh _ _ => .of_history hev hh

theorem closes_indifferent : Run.Indifferent Closes := silent_indifferent.mono Silent.closes

theorem closes_unmanaged : Run.Unmanaged Closes := silent_unmanaged.mono Silent.closes

end Session

namespace Run

open Session

/-- Every step closes the brackets that it opens, whatever the steps inside it are. -/
theorem closes_respects : Step.Respects (fun _ => true) Closes :=
  closes_unmanaged.respects closes_indifferent.tending
    (fun s i path octets => ⟨_, sent_called s i path octets⟩)
    fun answer ⟨_, h⟩ => ⟨[], h.bracketed answer⟩

/-- A step inside an activity writes down nothing that is the activity's own. -/
theorem wrote_writtenDown (step : Step) {s : Session} (hs : s.Valid) :
    Wrote s (step.writtenDown (Step.perform step) s).2 [] := by
  cases hstep : step.isInterrupt with
  | true =>
    -- an interrupt is not written down, and does nothing
    obtain ⟨text, rfl⟩ : ∃ text, step = .interrupt text := by
      cases step <;> first | exact ⟨_, rfl⟩ | exact absurd hstep Bool.false_ne_true
    rw [Step.writtenDown, if_pos hstep, Step.perform, raise_bind_run]
    exact .refl s
  | false =>
    rw [Step.writtenDown_run hstep]
    obtain ⟨_, hin⟩ := Step.keeps_perform closes_respects step (Step.within_true step)
      (s.push (.began s.toScene)) hs
    exact hin.enclosed _

/-- **Steps inside an activity write down nothing that is its own**, however they end. -/
theorem wrote_runAll (steps : List Step) {s : Session} (hs : s.Valid) :
    Wrote s (Step.runAll steps s).2 [] := by
  induction steps generalizing s with
  | nil =>
    rw [Step.runAll]
    exact .refl s
  | cons step steps ih =>
    have hfirst := wrote_writtenDown step hs
    rw [Step.runAll, bind_run]
    cases hrun : step.writtenDown (Step.perform step) s with
    | mk r t =>
      rw [hrun] at hfirst
      cases r with
      | error e => exact hfirst
      | ok => exact hfirst.trans (ih (hfirst.evolves.valid hs))

/-- **Steps inside an activity send nothing that is its own.** -/
theorem silent_runAll (steps : List Step) : Keeps Silent (Step.runAll steps) :=
  fun _ hs => (wrote_runAll steps hs).sent

end Run

end VectorLink
