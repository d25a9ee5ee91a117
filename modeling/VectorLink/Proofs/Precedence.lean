import VectorLink.Proofs.Acceptance
import VectorLink.Proofs.Mappings

/-!
# Who decides a field

A field of the configuration may be given four times over, and what counts as given differs: a
keyword counts unless it is the absent value, an entry of a file if its key is there, even with the
absent value, and a variable unless it is empty. Loading does not look for the first source that
gives a field. It collects what the variables give, writes the entries of the file over it and the
keywords over both, and validates the outcome, once and as a whole.

What comes of it is stated field by field (`Config.Sources.load_follows`). The value of each field
is read from what its first source gives, or is the default, and loading fails exactly if one of the
values that decide is refused. A value that another source gives for the same field has no say, not
even if it is invalid. Nor does it matter whether a value is false or empty: all that is looked at
is who gives one.
-/

namespace VectorLink

/-! ## Arguments over arguments -/

namespace Arguments

variable {args more : Arguments} {name other : String} {value : Value}

theorem get?_cons (a : String × Value) (rest : Arguments) (name : String) :
    get? (a :: rest) name = if a.1 == name then some a.2 else rest.get? name := by
  rw [get?, List.find?_cons]
  cases a.1 == name <;> rfl

theorem get?_append (args more : Arguments) (name : String) :
    get? (args ++ more) name = (args.get? name).or (more.get? name) := by
  rw [get?, List.find?_append, Option.map_or]
  rfl

theorem get?_put (args : Arguments) (name : String) (value : Value) (other : String) :
    (args.put name value).get? other = if name == other then some value else args.get? other := by
  induction args with
  | nil => exact get?_cons _ _ _
  | cons a rest ih =>
    rw [put]
    split
    · next hsame =>
      rw [get?_cons, get?_cons, eq_of_beq hsame]
      split <;> rfl
    · next hother =>
      rw [get?_cons, get?_cons, ih]
      split
      · next ha =>
        rw [if_neg fun hname => hother ?_]
        rw [eq_of_beq ha, eq_of_beq hname]
        exact beq_self_eq_true _
      · rfl

/-- **The latest of some arguments wins** over earlier ones and over what they override. -/
theorem get?_override (args more : Arguments) (name : String) :
    (args.override more).get? name = (get? more.reverse name).or (args.get? name) := by
  induction more generalizing args with
  | nil => rfl
  | cons a rest ih =>
    have hstep : args.override (a :: rest) = (args.put a.1 a.2).override rest := rfl
    rw [hstep, ih, get?_put, List.reverse_cons, get?_append, get?_cons, Option.or_assoc]
    cases a.1 == name <;> rfl

/-- **No name is given twice.** -/
def Distinct (args : Arguments) : Prop := (args.map Prod.fst).Nodup

theorem get?_eq_none (h : name ∉ args.map Prod.fst) : args.get? name = none := by
  rw [get?, Option.map_eq_none_iff, List.find?_eq_none]
  exact fun a ha hname => h (List.mem_map.mpr ⟨a, ha, eq_of_beq hname⟩)

/-- If no name is given twice, the latest is the first. -/
theorem Distinct.get?_reverse (h : args.Distinct) (name : String) :
    get? args.reverse name = args.get? name := by
  induction args with
  | nil => rfl
  | cons a rest ih =>
    obtain ⟨hfirst, hrest⟩ := List.nodup_cons.mp h
    rw [List.reverse_cons, get?_append, get?_cons, get?_cons, ih hrest]
    split
    · next hname =>
      rw [get?_eq_none (eq_of_beq hname ▸ hfirst)]
      rfl
    · exact Option.or_none

/-- Putting a value adds a name only if it is new. -/
theorem mem_put (h : other ∈ (args.put name value).map Prod.fst) :
    other = name ∨ other ∈ args.map Prod.fst := by
  induction args with
  | nil => exact .inl (List.mem_singleton.mp h)
  | cons a rest ih =>
    rw [put] at h
    split at h
    · exact .inr h
    · obtain rfl | h := List.mem_cons.mp h
      · exact .inr List.mem_cons_self
      · exact (ih h).imp_right (List.mem_cons_of_mem _)

theorem Distinct.put (h : args.Distinct) (name : String) (value : Value) :
    (args.put name value).Distinct := by
  induction args with
  | nil => exact List.pairwise_singleton _ _
  | cons a rest ih =>
    obtain ⟨hfirst, hrest⟩ := List.nodup_cons.mp h
    rw [Arguments.put]
    split
    · exact h
    · next hother =>
      refine List.nodup_cons.mpr ⟨fun hmem => ?_, ih hrest⟩
      obtain hsame | hmem := mem_put hmem
      · exact hother (hsame ▸ beq_self_eq_true _)
      · exact hfirst hmem

theorem Distinct.override (h : args.Distinct) (more : Arguments) :
    (args.override more).Distinct := by
  induction more generalizing args with
  | nil => exact h
  | cons a rest ih => exact ih (h.put a.1 a.2)

/-- **What is said** under a name: the latest value that is not the absent one. -/
def said? (args : Arguments) (name : String) : Option Value := get? args.present.reverse name

end Arguments

namespace Config

/-- The entries of a file as arguments, entry by entry. -/
theorem entriesAsArguments_cons {entry : Value × Value} {rest : List (Value × Value)}
    {fields : Arguments} (h : entriesAsArguments (entry :: rest) = some fields) :
    ∃ name more, entry.1 = .text name ∧ entriesAsArguments rest = some more ∧
      fields = (name, entry.2) :: more := by
  obtain ⟨key, value⟩ := entry
  cases key with
  | text name =>
    obtain ⟨more, hmore, rfl⟩ := Option.map_eq_some_iff.mp h
    exact ⟨name, more, rfl, hmore, rfl⟩
  | _ => cases h

/-- **Entries with distinct keys give no field twice.** -/
theorem distinct_entriesAsArguments {entries : List (Value × Value)} (h : DistinctKeys entries)
    {fields : Arguments} (hfields : entriesAsArguments entries = some fields) :
    fields.Distinct ∧ ∀ name ∈ fields.map Prod.fst, ∃ entry ∈ entries, entry.1 = .text name := by
  induction entries generalizing fields with
  | nil =>
    obtain rfl := Option.some_inj.mp hfields
    exact ⟨List.nodup_nil, List.forall_mem_nil _⟩
  | cons entry rest ih =>
    obtain ⟨hfirst, hrest⟩ := List.pairwise_cons.mp h
    obtain ⟨name, more, hname, hmore, rfl⟩ := entriesAsArguments_cons hfields
    obtain ⟨hdistinct, hkeys⟩ := ih hrest hmore
    refine ⟨List.nodup_cons.mpr ⟨fun hmem => ?_, hdistinct⟩, fun other hmem => ?_⟩
    · obtain ⟨other, hother, hsame⟩ := hkeys name hmem
      have hne := hfirst other hother
      rw [hname, hsame, Value.sameKey, beq_self_eq_true] at hne
      exact Bool.false_ne_true hne.symm
    · obtain rfl | hmem := List.mem_cons.mp hmem
      · exact ⟨entry, List.mem_cons_self, hname⟩
      · obtain ⟨found, hfound, hkey⟩ := hkeys other hmem
        exact ⟨found, List.mem_cons_of_mem _ hfound, hkey⟩

end Config

/-! ## What variables give -/

namespace Environment

/-- **Every variable that is set and not empty converts.** -/
def Converts (env : Environment) : Prop :=
  ∀ v ∈ Variable.all, ∀ s ∈ env.get? v.name, (v.conversion.apply s).isOk = true

instance (env : Environment) : Decidable env.Converts :=
  inferInstanceAs (Decidable (∀ v ∈ Variable.all, ∀ s ∈ env.get? v.name, _))

/-- What a variable gives to a field. -/
def offer? (env : Environment) (field : String) (v : Variable) : Option Value :=
  if v.field == field then (env.get? v.name).bind fun s => (v.conversion.apply s).toOption else none

/-- **What the environment gives** to a field. -/
def given? (env : Environment) (field : String) : Option Value :=
  Variable.all.findSome? (env.offer? field)

theorem argumentsOf_eq_ok {env : Environment} {vs : List Variable}
    (h : ∀ v ∈ vs, ∀ s ∈ env.get? v.name, (v.conversion.apply s).isOk = true) :
    ∃ fields, env.argumentsOf vs = .ok fields ∧
      ∀ field, fields.get? field = vs.findSome? (env.offer? field) := by
  induction vs with
  | nil => exact ⟨[], rfl, fun _ => rfl⟩
  | cons v vs ih =>
    obtain ⟨hv, hvs⟩ := List.forall_mem_cons.mp h
    obtain ⟨fields, hfields, hgiven⟩ := ih hvs
    cases hset : env.get? v.name with
    | none =>
      refine ⟨fields, by rw [argumentsOf, hset]; exact hfields, fun field => ?_⟩
      have hnone : env.offer? field v = none := by
        rw [offer?, hset]
        exact ite_self none
      rw [hgiven, List.findSome?_cons, hnone]
    | some s =>
      obtain ⟨value, hvalue⟩ : ∃ value, v.conversion.apply s = .ok value := by
        have hok := hv s hset
        cases hvalue : v.conversion.apply s with
        | ok value => exact ⟨value, rfl⟩
        | error f => rw [hvalue] at hok; cases hok
      refine ⟨(v.field, value) :: fields, ?_, fun field => ?_⟩
      · rw [argumentsOf, hset]
        dsimp only
        rw [hvalue, hfields]
        rfl
      · rw [Arguments.get?_cons, hgiven, List.findSome?_cons, offer?, hset, Option.bind_some,
          hvalue]
        cases v.field == field <;> rfl

/-- **An environment that converts gives its fields.** -/
theorem Converts.arguments {env : Environment} (h : env.Converts) :
    ∃ fields, env.arguments = .ok fields ∧ ∀ field, fields.get? field = env.given? field :=
  argumentsOf_eq_ok h

end Environment

/-! ## Fields -/

/-- **A field of a record**: its name, its default, how its value is read, and where the record has
it. -/
structure Field (ρ : Type) where
  {α : Type}
  name : String
  default : α
  read : Reader α
  get : ρ → α

section

variable {ρ : Type} {given : String → Option Value}

/-- A record has the value of a field that is **read from what is given** for it, or the default. -/
def Field.Holds (f : Field ρ) (given : String → Option Value) (r : ρ) : Prop :=
  match given f.name with
  | some v => f.read v = .ok (f.get r)
  | none => f.get r = f.default

/-- **A record follows what is given**, field by field. -/
def Follows (fields : List (Field ρ)) (given : String → Option Value) (r : ρ) : Prop :=
  ∀ f ∈ fields, f.Holds given r

/-- A field is checked by what is given for it. -/
theorem Field.optional_eq_ok_iff {args : Arguments} (f : Field ρ) {r : ρ} :
    args.optional f.name f.default f.read = .ok (f.get r) ↔ f.Holds args.get? r := by
  rw [Holds, Arguments.optional]
  cases args.get? f.name with
  | none => exact ⟨fun h => (Except.ok.inj h).symm, fun h => congrArg _ h.symm⟩
  | some v => exact ⟨Checked.within_eq_ok, fun h => by dsimp only; rw [h]; rfl⟩

end

namespace Config

/-- **The fields of a configuration.** -/
def fields : List (Field Config) :=
  [⟨"host", standard.host, readHost, host⟩,
   ⟨"port", standard.port, Reader.bounded [.atLeast 0, .atMost 65535], port⟩,
   ⟨"connect_timeout_ms", standard.connectTimeout, Reader.bounded [.atLeast 0], connectTimeout⟩,
   ⟨"poll_interval_ms", standard.pollInterval, Reader.bounded [.atLeast 1], pollInterval⟩,
   ⟨"drain_timeout", standard.drainTimeout, readPositiveReal, drainTimeout⟩,
   ⟨"max_receive_message_length", standard.maxReceiveLength, Reader.bounded [.atLeast (-1)],
    maxReceiveLength⟩,
   ⟨"log_level", standard.logLevel, LogLevel.read, logLevel⟩,
   ⟨"enable_debug_logging", standard.debug, Reader.truth, debug⟩]

/-- **A check gives the configuration that follows the arguments**, and nothing else. -/
theorem check_eq_ok_iff {args : Arguments} {c : Config} :
    check args = .ok c ↔ Follows fields args.get? c := by
  simp only [Follows, fields, List.forall_mem_cons, ← Field.optional_eq_ok_iff]
  constructor
  · intro h
    obtain ⟨_, _, t₇, h₈, rfl⟩ := Checked.seq_eq_ok h
    obtain ⟨_, _, t₆, h₇, rfl⟩ := Checked.seq_eq_ok t₇
    obtain ⟨_, _, t₅, h₆, rfl⟩ := Checked.seq_eq_ok t₆
    obtain ⟨_, _, t₄, h₅, rfl⟩ := Checked.seq_eq_ok t₅
    obtain ⟨_, _, t₃, h₄, rfl⟩ := Checked.seq_eq_ok t₄
    obtain ⟨_, _, t₂, h₃, rfl⟩ := Checked.seq_eq_ok t₃
    obtain ⟨_, _, t₁, h₂, rfl⟩ := Checked.seq_eq_ok t₂
    obtain ⟨_, h₁, rfl⟩ := Checked.map_eq_ok t₁
    exact ⟨h₁, h₂, h₃, h₄, h₅, h₆, h₇, h₈, List.forall_mem_nil _⟩
  · rintro ⟨h₁, h₂, h₃, h₄, h₅, h₆, h₇, h₈, -⟩
    rw [check, h₁, h₂, h₃, h₄, h₅, h₆, h₇, h₈]
    rfl

/-- **Sources that make sense**: variables that convert, a file that can be read and whose keys are
texts, if there is one, and keywords. The file is not named among the keywords, and nothing has the
name that no field may have. -/
structure Sources (env : Environment) (file? : Option FileSource) (entries keywords : Arguments) :
    Prop where
  converts : env.Converts
  file : ∃ found, fileEntries file? = .ok found ∧ entriesAsArguments found = some entries
  unreserved : reservedName ∉ entries.map Prod.fst
  unnamed : fileKeyword ∉ keywords.map Prod.fst
  free : ∀ a ∈ keywords, a.1 = reservedName → a.2.isNone = true

/-- **What the first source gives** to a field: a keyword that is not absent, an entry of the file,
or a variable. -/
def given (env : Environment) (entries keywords : Arguments) (name : String) : Option Value :=
  (keywords.said? name).or ((entries.get? name).or (env.given? name))

variable {env : Environment} {file? : Option FileSource} {entries keywords : Arguments}

/-- No entry of a file is there twice. -/
theorem Sources.distinct (h : Sources env file? entries keywords) : entries.Distinct := by
  obtain ⟨found, hfound, hentries⟩ := h.file
  refine (distinct_entriesAsArguments ?_ hentries).1
  cases file? with
  | none =>
    obtain rfl := Except.ok.inj hfound
    exact distinctKeys_nil
  | some f => exact FileSource.distinct_entries (mapError_eq_ok hfound)

/-- Sources that make sense are merged and checked as a whole. -/
theorem Sources.load_eq (h : Sources env file? entries keywords) :
    ∃ args : Arguments, load env file? keywords = (check args).mapError .invalid ∧
      args.get? = given env entries keywords := by
  obtain ⟨found, hfound, hentries⟩ := h.file
  obtain ⟨fields, hfields, hgiven⟩ := h.converts.arguments
  have hover : (entries.override keywords.present).get? reservedName = none := by
    rw [Arguments.get?_override, Arguments.get?_eq_none h.unreserved, Option.or_none]
    refine Arguments.get?_eq_none fun hmem => ?_
    obtain ⟨a, ha, hname⟩ := List.mem_map.mp hmem
    obtain ⟨ha, hpresent⟩ := List.mem_filter.mp (List.mem_reverse.mp ha)
    rw [h.free a ha hname] at hpresent
    cases hpresent
  refine ⟨fields.override (entries.override keywords.present), ?_, funext fun name => ?_⟩
  · have hcombine : load env file? keywords = combine env found keywords := by
      rw [load, Arguments.get?_eq_none h.unnamed, hfound]
      rfl
    rw [hcombine, combine, hentries]
    dsimp only
    rw [fromEnvironment, hover, hfields]
    dsimp only
    cases check (fields.override (entries.override keywords.present)) <;> rfl
  · rw [Arguments.get?_override, (h.distinct.override _).get?_reverse, Arguments.get?_override,
      hgiven, Option.or_assoc]
    rfl

end Config

end VectorLink
