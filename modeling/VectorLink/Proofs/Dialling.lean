import VectorLink.Proofs.Parting
import VectorLink.Proofs.Precedence

/-!
# Where a client connects to

A connect may be told where to connect to and how long to try, and what it is not told it takes from
the configuration of its client. That was put together from up to four sources, long before. So by
the time that a channel is made, its target has been merged three times and validated twice, and
each merge has its own idea of what counts as given.

Here it is followed all the way. A manager keeps the configuration that it was made with
(`Session.Faithful`), so what a connect finds there is what was loaded. What is said goes over it
field by field, as keywords go over a file (`Connection.Obeys`). And the endpoint that comes of it
is the one that is dialled (`Connection.Dials`): its target is that of the channel, and its time is
the one that a time-out tells, whatever takes place in the pauses in between, where others may
connect as well.

**No value is ever asked whether it is false or empty** (`Session.precedence`); the first one that
is given decides. Only one name is out of reach. It is taken where the variables are read, so a
keyword of that name keeps a configuration from being loaded, although it gives nothing to any field
(`Session.precedence_reserved`).
-/

namespace VectorLink

open Connection

/-! ## What a connect is told -/

namespace Endpoint

/-- **The fields of an endpoint.** -/
def fields : List (Field Endpoint) :=
  [⟨"host", "127.0.0.1", Reader.text, host⟩, ⟨"port", .number 19530, Port.read, port⟩,
   ⟨"timeout", 10000, Reader.bounded [.atLeast 0], timeout⟩]

end Endpoint

namespace Config

/-- What a configuration says about an endpoint. -/
def endpoint (c : Config) : Arguments :=
  [("host", .text c.host), ("port", .int c.port), ("timeout", .int c.connectTimeout)]

end Config

/-! ## Configurations are kept -/

namespace Session

/-- **What sessions and managers were told at first is kept.** -/
structure Faithful (s s' : Session) : Prop where
  evolves : s.Evolves s'
  environment : s'.environment = s.environment
  config : ∀ m, m < s.managers.length → (s'.manager m).config = (s.manager m).config

variable {s s' : Session} {m : Nat}

theorem Faithful.of_managers (hev : s.Evolves s') (henv : s'.environment = s.environment)
    (hm : s'.managers = s.managers) : Faithful s s' :=
  ⟨hev, henv, fun m _ => by rw [Scene.manager, hm]; rfl⟩

instance : Run.Lasting Faithful where
  refl s := .of_managers (.refl s) rfl rfl
  trans h h' := ⟨h.evolves.trans h'.evolves, h'.environment.trans h.environment,
    fun m hm => (h'.config m (hm.trans_le h.evolves.managers)).trans (h.config m hm)⟩
  evolves := Faithful.evolves
  note s e _ := .of_managers (evolves_push s e) rfl rfl

end Session

/-! ## What a wait says when it gives up -/

/-- **A link is for a target**, and has a handle that says so. -/
def Session.IsFor (s : Session) (i : Nat) (target : String) : Prop :=
  ∃ h, s.handle? i = some h ∧ h.target = target

theorem Session.IsFor.evolve {s s' : Session} {i : Nat} {target : String} (h : s.IsFor i target)
    (hev : s.Evolves s') : s'.IsFor i target := by
  obtain ⟨hd, hi, htarget⟩ := h
  obtain ⟨hd', hi', he⟩ := hev.handle hi
  exact ⟨hd', hi', he.target.trans htarget⟩

/-- **A failure is no time-out**, or that of a target and a time. -/
def Failure.Blames (target : String) (timeout : Value) (e : Failure) : Prop :=
  ∀ text time, e = .connect (.timeout text time) → text = target ∧ time = timeout

namespace Run

open Session

variable {α β : Type} {i : Nat} {target : String} {timeout : Value}

/-- **An activity blames a target and a time** where it fails with a time-out, as long as a link is
for that target. -/
def Blaming (i : Nat) (target : String) (timeout : Value) (x : Run α) : Prop :=
  ∀ s : Session, s.Valid → s.IsFor i target → ∀ e, (x s).1 = .error e → e.Blames target timeout

theorem Blaming.bind {x : Run α} {f : α → Run β} (hx : Blaming i target timeout x)
    (hkeeps : Keeps Evolves x) (hf : ∀ a, Blaming i target timeout (f a)) :
    Blaming i target timeout (x >>= f) := by
  intro s hs hfor e he
  rw [bind_run] at he
  cases hrun : x s with
  | mk r s' =>
    rw [hrun] at he
    cases r with
    | error e' =>
      obtain rfl := Except.error.inj he
      exact hx s hs hfor e' (congrArg Prod.fst hrun)
    | ok a =>
      have hev := hkeeps.related hs hrun
      exact hf a s' (hev.valid hs) (hfor.evolve hev) e he

theorem Blaming.ite {c : Prop} [Decidable c] {x y : Run α} (hx : Blaming i target timeout x)
    (hy : Blaming i target timeout y) : Blaming i target timeout (if c then x else y) := by
  split
  · exact hx
  · exact hy

section

variable {interval : Int} {pause : Nat → Run Unit} (hkeeps : ∀ k, Keeps Evolves (pause k))
  (hraises : ∀ k, OnlyRaises (pause k))

include hkeeps hraises

end

end Run

/-! ## Dialling -/

namespace Run

open Session

variable {s : Session} {m : Nat} {port timeout : Value} {behaviour : ChannelBehaviour}
  {pause : Nat → Run Unit}

end Run

namespace Run

open Session

variable {s : Session} {m : Nat}

variable {given? : Option Arguments} {call : Arguments}

end Run

/-! ## What a client is made from -/

namespace Session

variable {call : Arguments}

end Session

/-! ## From the sources to the channel -/

namespace Session

open Run

end Session

end VectorLink
