import VectorLink.Proofs.Precedence

/-!
# Variables that have no say

A field that is given by a keyword or by the file does not take its value from the environment, so
the variable of such a field should not matter at all. Two environments that differ in nothing else
should come to the same: the same configuration, or the same error.

For the values this is so. What is validated is one set of arguments, and a hidden variable is not
in it, whatever it holds. But variables are read before it is known which of them are hidden, and
the first one that cannot be read ends the loading. So a hidden variable can do one thing, and
`Config.load_hidden` says that it can do nothing else: make loading fail by not being a number.

Whether it does is decided without looking at the rest. Two environments that agree on what is not
hidden come to the same exactly if reading them fails in the same way, or if loading fails before
they are read.
-/

namespace VectorLink

theorem Arguments.isSome_get? {args : Arguments} {name : String} :
    (args.get? name).isSome = true ↔ ∃ a ∈ args, a.1 = name := by
  rw [get?, Option.isSome_map, List.find?_isSome]
  exact exists_congr fun a => and_congr_right fun _ => beq_iff_eq

/-- Something is said under a name by an argument that is not the absent value. -/
theorem Arguments.isSome_said? {args : Arguments} {name : String} :
    (args.said? name).isSome = true ↔ ∃ a ∈ args, a.1 = name ∧ a.2.isNone = false := by
  rw [said?, isSome_get?]
  refine exists_congr fun a => ?_
  rw [List.mem_reverse, present, List.mem_filter, Bool.not_eq_true', and_assoc]
  exact and_congr_right fun _ => and_comm

/-! ## Variables that cannot be read -/

namespace Environment

variable {env env' : Environment} {v : Variable} {vs : List Variable} {f : NumeralFault}

/-- What is wrong with a variable, if it is set. -/
def faultOf? (env : Environment) (v : Variable) : Option NumeralFault :=
  (env.get? v.name).bind fun s =>
    match v.conversion.apply s with
    | .error f => some f
    | .ok _ => none

/-- **What is wrong with the first variable that cannot be read.** -/
def fault? (env : Environment) : Option NumeralFault := Variable.all.findSome? env.faultOf?

/-- **Two environments agree on all that is not hidden.** An empty variable counts as not set. -/
def AgreesOutside (env env' : Environment) (hidden : String → Prop) : Prop :=
  ∀ v ∈ Variable.all, ¬ hidden v.field → env.get? v.name = env'.get? v.name

theorem faultOf?_congr (h : env.get? v.name = env'.get? v.name) :
    env.faultOf? v = env'.faultOf? v := by
  rw [faultOf?, faultOf?, h]

theorem isOk_of_faultOf? (h : env.faultOf? v = none) :
    ∀ s ∈ env.get? v.name, (v.conversion.apply s).isOk = true := by
  intro s hs
  rw [faultOf?, Option.mem_def.mp hs, Option.bind_some] at h
  cases hread : v.conversion.apply s with
  | ok value => rfl
  | error f =>
    rw [hread] at h
    cases h

/-- An environment of which nothing is wrong converts. -/
theorem converts_of_fault? (h : env.fault? = none) : env.Converts :=
  fun v hv => isOk_of_faultOf? (List.findSome?_eq_none_iff.mp h v hv)

/-- **Reading stops at the first variable that cannot be read.** -/
theorem argumentsOf_eq_error (h : vs.findSome? env.faultOf? = some f) :
    env.argumentsOf vs = .error f := by
  induction vs with
  | nil => cases h
  | cons v vs ih =>
    rw [List.findSome?_cons, faultOf?] at h
    rw [argumentsOf]
    cases hset : env.get? v.name with
    | none =>
      rw [hset, Option.bind_none] at h
      exact ih h
    | some s =>
      rw [hset, Option.bind_some] at h
      dsimp only
      cases hread : v.conversion.apply s with
      | error g =>
        rw [hread] at h
        obtain rfl := Option.some_inj.mp h
        rfl
      | ok value =>
        rw [hread] at h
        rw [ih h]
        rfl

/-- **The first difference between two readings** is what one of them stops at. -/
theorem exists_faultOf?_ne {g g' : Variable → Option NumeralFault}
    (h : vs.findSome? g ≠ vs.findSome? g') :
    ∃ v ∈ vs, g v ≠ g' v ∧ ∃ f, g v = some f ∧ vs.findSome? g = some f ∨
      g' v = some f ∧ vs.findSome? g' = some f := by
  induction vs with
  | nil => exact absurd rfl h
  | cons v vs ih =>
    rw [List.findSome?_cons, List.findSome?_cons] at h ⊢
    cases hg : g v with
    | some f =>
      cases hg' : g' v with
      | some f' =>
        rw [hg, hg'] at h
        exact ⟨v, List.mem_cons_self, by rw [hg, hg']; exact h, f, .inl ⟨hg, rfl⟩⟩
      | none => exact ⟨v, List.mem_cons_self, by rw [hg, hg']; exact nofun, f, .inl ⟨hg, rfl⟩⟩
    | none =>
      cases hg' : g' v with
      | some f' => exact ⟨v, List.mem_cons_self, by rw [hg, hg']; exact nofun, f', .inr ⟨hg', rfl⟩⟩
      | none =>
        -- nothing is wrong so far, so the difference is further on
        rw [hg, hg'] at h
        obtain ⟨w, hw, hne, hfirst⟩ := ih h
        exact ⟨w, List.mem_cons_of_mem _ hw, hne, hfirst⟩

end Environment

namespace Config

variable {env env' : Environment} {file? : Option FileSource} {keywords overrides : Arguments}
  {field : String}

/-! ## What the other sources give -/

/-- **A field is given by a keyword or by the file**, so that its variable is hidden: a keyword
counts unless it is absent, and an entry if its key is there. -/
def IsGiven (file? : Option FileSource) (keywords : Arguments) (field : String) : Prop :=
  (∃ a ∈ keywords, a.1 = field ∧ a.2.isNone = false) ∨
    ∃ entries, fileEntries file? = .ok entries ∧ ∃ e ∈ entries, e.1 = .text field

/-- **What the file and the keywords give together**, or why loading fails before any variable is
read. -/
def overriding (file? : Option FileSource) (keywords : Arguments) : Except LoadError Arguments :=
  if (keywords.get? fileKeyword).isSome then .error (.nameTaken "load_config" fileKeyword)
  else (fileEntries file?).bind fun entries =>
    match entriesAsArguments entries with
    | none => .error .keyNotText
    | some fields =>
      let overrides := fields.override keywords.present
      if (overrides.get? reservedName).isSome then
        .error (.nameTaken "ClientConfig.from_env" reservedName)
      else .ok overrides

/-- The configuration of an environment under what overrides it. -/
def underneath (overrides : Arguments) (env : Environment) : Except LoadError Config :=
  match env.arguments with
  | .error f => .error (.numeral f)
  | .ok fields => (check (fields.override overrides)).mapError .invalid

/-- **Loading looks at the environment last.** -/
theorem load_eq (env : Environment) (file? : Option FileSource) (keywords : Arguments) :
    load env file? keywords
      = (overriding file? keywords).bind fun overrides => underneath overrides env := by
  unfold load overriding combine
  split
  · rfl
  · cases fileEntries file? with
    | error e => rfl
    | ok entries =>
      dsimp only [Except.bind]
      cases entriesAsArguments entries with
      | none => rfl
      | some fields =>
        dsimp only [fromEnvironment]
        split
        · rfl
        · show _ = underneath (fields.override keywords.present) env
          rw [underneath]
          cases env.arguments with
          | error f => rfl
          | ok given =>
            dsimp only
            cases check (given.override (fields.override keywords.present)) <;> rfl

/-- The names of entries are the keys that are texts. -/
theorem exists_entriesAsArguments {entries : List (Value × Value)} {fields : Arguments}
    (h : entriesAsArguments entries = some fields) (name : String) :
    (∃ a ∈ fields, a.1 = name) ↔ ∃ e ∈ entries, e.1 = .text name := by
  induction entries generalizing fields with
  | nil =>
    obtain rfl := Option.some_inj.mp h
    simp
  | cons entry rest ih =>
    obtain ⟨key, more, hkey, hmore, rfl⟩ := entriesAsArguments_cons h
    rw [List.exists_mem_cons_iff, List.exists_mem_cons_iff, ih hmore, hkey, Value.text.injEq]

/-- **What overrides the environment are the fields that are given.** -/
theorem isSome_overriding (h : overriding file? keywords = .ok overrides) (field : String) :
    (overrides.get? field).isSome = true ↔ IsGiven file? keywords field := by
  unfold overriding at h
  split at h
  · cases h
  · obtain ⟨entries, hentries, h⟩ := bind_eq_ok h
    cases hfields : entriesAsArguments entries with
    | none =>
      rw [hfields] at h
      cases h
    | some fields =>
      rw [hfields] at h
      dsimp only at h
      split at h
      · cases h
      · obtain rfl := Except.ok.inj h
        have hfile : (∃ found, fileEntries file? = .ok found ∧ ∃ e ∈ found, e.1 = .text field) ↔
            ∃ e ∈ entries, e.1 = .text field := by
          rw [hentries]
          simp
        rw [IsGiven, hfile, ← exists_entriesAsArguments hfields, ← Arguments.isSome_get?,
          ← Arguments.isSome_said?, Arguments.get?_override, Option.isSome_or, Bool.or_eq_true]
        rfl

/-! ## Two environments -/

/-- Validation looks at nothing but what is given under the names of its fields. -/
theorem check_congr {args args' : Arguments} (h : args.get? = args'.get?) :
    check args = check args' := by
  simp only [check, Arguments.optional, h]

/-- **A variable that is hidden gives nothing**, and the others give the same if they are the
same. -/
theorem given?_congr
    (h : ∀ v ∈ Variable.all, v.field = field → env.get? v.name = env'.get? v.name) :
    env.given? field = env'.given? field := by
  have hoffer : ∀ v ∈ Variable.all, env.offer? field v = env'.offer? field v := by
    intro v hv
    unfold Environment.offer?
    split
    · next hsame => rw [h v hv (eq_of_beq hsame)]
    · rfl
  rw [Environment.given?, Environment.given?, ← List.head?_filterMap, ← List.head?_filterMap,
    List.filterMap_congr hoffer]

theorem underneath_faulty {f : NumeralFault} (h : env.fault? = some f) :
    underneath overrides env = .error (.numeral f) := by
  have harguments : env.arguments = .error f := Environment.argumentsOf_eq_error h
  rw [underneath, harguments]

/-- An environment that can be read does not end in a numeral. -/
theorem underneath_ne_numeral (h : env.fault? = none) (f : NumeralFault) :
    underneath overrides env ≠ .error (.numeral f) := by
  obtain ⟨fields, hfields, -⟩ := (Environment.converts_of_fault? h).arguments
  rw [underneath, hfields]
  dsimp only
  cases check (fields.override overrides) <;> exact nofun

/-- **Environments that can be read and agree on what is not overridden come to the same.** -/
theorem underneath_congr
    (hagree : env.AgreesOutside env' fun field => (overrides.get? field).isSome)
    (h : env.fault? = none) (h' : env'.fault? = none) :
    underneath overrides env = underneath overrides env' := by
  obtain ⟨fields, hfields, hgiven⟩ := (Environment.converts_of_fault? h).arguments
  obtain ⟨fields', hfields', hgiven'⟩ := (Environment.converts_of_fault? h').arguments
  have hsame : (fields.override overrides).get? = (fields'.override overrides).get? := by
    funext name
    rw [Arguments.get?_override, Arguments.get?_override, hgiven, hgiven']
    cases hover : Arguments.get? overrides.reverse name with
    | some value => rfl
    | none =>
      -- the name is not overridden, so its variable is the same in both
      have hnone : overrides.get? name = none := by
        rw [Arguments.get?, Option.map_eq_none_iff, List.find?_eq_none] at hover ⊢
        exact fun a ha => hover a (List.mem_reverse.mpr ha)
      refine given?_congr fun v hv hfield => hagree v hv ?_
      show ¬ (overrides.get? v.field).isSome = true
      rw [hfield, hnone]
      exact Bool.false_ne_true
  rw [underneath, underneath, hfields, hfields']
  dsimp only
  rw [check_congr hsame]

/-- **Two environments that agree on what is not overridden come to the same exactly if the same is
wrong with them**, or nothing with either. -/
theorem underneath_eq_iff
    (hagree : env.AgreesOutside env' fun field => (overrides.get? field).isSome) :
    underneath overrides env = underneath overrides env' ↔ env.fault? = env'.fault? := by
  cases h : env.fault? with
  | none =>
    cases h' : env'.fault? with
    | none => exact iff_of_true (underneath_congr hagree h h') rfl
    | some f =>
      rw [underneath_faulty h']
      exact iff_of_false (underneath_ne_numeral h f) nofun
  | some f =>
    rw [underneath_faulty h]
    cases h' : env'.fault? with
    | none => exact iff_of_false (underneath_ne_numeral h' f).symm nofun
    | some f' =>
      rw [underneath_faulty h']
      simp

/-! ## Loading -/

/-- A loading that comes to the environment reads it and puts the rest on top of it. -/
theorem load_of_overriding (h : overriding file? keywords = .ok overrides) (env : Environment) :
    load env file? keywords = underneath overrides env := by
  rw [load_eq, h]
  rfl

/-- **A hidden variable has no say, except that it has to be a number if it is set.** Two
environments that agree on the variables of all fields that neither a keyword nor the file gives
come to the same, be it a configuration or an error, exactly if the same is wrong with the first
variable that cannot be read, if any, or if loading fails before it looks at them. So they come to
the same if every hidden variable can be read, whatever it holds; and if they do not, then one of
them fails for a hidden variable that it would not have used. -/
theorem load_hidden (h : env.AgreesOutside env' (IsGiven file? keywords)) :
    (load env file? keywords = load env' file? keywords ↔
        (∃ e, overriding file? keywords = .error e) ∨ env.fault? = env'.fault?) ∧
      ((∀ v ∈ Variable.all, IsGiven file? keywords v.field →
          env.faultOf? v = none ∧ env'.faultOf? v = none) →
        load env file? keywords = load env' file? keywords) ∧
      (load env file? keywords ≠ load env' file? keywords →
        ∃ v ∈ Variable.all, IsGiven file? keywords v.field ∧ ∃ f,
          env.faultOf? v = some f ∧ load env file? keywords = .error (.numeral f) ∨
            env'.faultOf? v = some f ∧ load env' file? keywords = .error (.numeral f)) := by
  cases hover : overriding file? keywords with
  | error e =>
    have hload : ∀ env, load env file? keywords = .error e := by
      intro env
      rw [load_eq, hover]
      rfl
    rw [hload env, hload env']
    exact ⟨iff_of_true rfl (.inl ⟨e, rfl⟩), fun _ => rfl, fun hne => absurd rfl hne⟩
  | ok overrides =>
    have hgiven := isSome_overriding hover
    have hagree : env.AgreesOutside env' fun field => (overrides.get? field).isSome = true :=
      fun v hv hnot => h v hv fun hv' => hnot ((hgiven v.field).mpr hv')
    have hiff := underneath_eq_iff hagree
    rw [load_of_overriding hover, load_of_overriding hover]
    refine ⟨hiff.trans ⟨.inr, fun hor => hor.resolve_left ?_⟩, fun hread => hiff.mpr ?_,
      fun hne => ?_⟩
    · rintro ⟨e, ⟨⟩⟩
    · -- what is not hidden is the same in both, and of what is hidden nothing is wrong
      by_contra hfault
      obtain ⟨v, hv, hne, -⟩ := Environment.exists_faultOf?_ne hfault
      by_cases hhidden : IsGiven file? keywords v.field
      · obtain ⟨hnone, hnone'⟩ := hread v hv hhidden
        exact hne (hnone.trans hnone'.symm)
      · exact hne (Environment.faultOf?_congr (h v hv hhidden))
    · obtain ⟨v, hv, hdiffer, f, hfirst⟩ := Environment.exists_faultOf?_ne fun hfault =>
        hne (hiff.mpr hfault)
      have hhidden : IsGiven file? keywords v.field := by
        by_contra hnot
        exact hdiffer (Environment.faultOf?_congr (h v hv hnot))
      refine ⟨v, hv, hhidden, f, hfirst.imp (fun hf => ⟨hf.1, ?_⟩) fun hf => ⟨hf.1, ?_⟩⟩
      · exact underneath_faulty hf.2
      · exact underneath_faulty hf.2

/-- A port that is no number stops the loading although the port is given by a keyword; a port that
would be refused does not. -/
theorem load_hidden_port :
    let keywords : Arguments := [("port", .int 1)]
    let wrong : Environment := ⟨[("MILVUS_PORT", "abc")], .system⟩
    let high : Environment := ⟨[("MILVUS_PORT", "70000")], .system⟩
    wrong.AgreesOutside .bare (IsGiven none keywords) ∧
      high.AgreesOutside .bare (IsGiven none keywords) ∧
      load wrong none keywords ≠ load .bare none keywords ∧
      load high none keywords = load .bare none keywords ∧
      load .bare none keywords = .ok { Config.standard with port := 1 } := by
  intro keywords wrong high
  have hgiven : IsGiven none keywords "port" :=
    .inl ⟨("port", .int 1), List.mem_singleton_self _, rfl, rfl⟩
  have hagree : ∀ text, Environment.AgreesOutside ⟨[("MILVUS_PORT", text)], .system⟩ .bare
      (IsGiven none keywords) := by
    intro text
    simp only [Environment.AgreesOutside, Variable.all, List.forall_mem_cons]
    exact ⟨fun _ => rfl, fun h => absurd hgiven h, fun _ => rfl, fun _ => rfl, fun _ => rfl,
      fun _ => rfl, fun _ => rfl, List.forall_mem_nil _⟩
  refine ⟨hagree _, hagree _, ?_, ?_, rfl⟩
  · refine fun hsame => ((load_hidden (hagree "abc")).1.mp hsame).elim ?_ (by decide +kernel)
    rintro ⟨e, ⟨⟩⟩
  · have hread : ∀ v ∈ Variable.all,
        high.faultOf? v = none ∧ Environment.faultOf? .bare v = none := by decide +kernel
    exact (load_hidden (hagree "70000")).2.1 fun v hv _ => hread v hv

end Config

end VectorLink
