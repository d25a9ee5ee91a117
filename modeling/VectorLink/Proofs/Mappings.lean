import VectorLink.Config.Load

/-!
# Keys of mappings

A mapping is a list of its entries, and a list may hold two entries of the same key; which of them
counts would then depend on who looks. Documents never give such a mapping. Their readers put one
entry after another under its key, so that an entry takes the place of an earlier one, and no key is
there twice (`FileSource.distinct_entries`). This holds for both kinds of documents, and in YAML
documents also where one mapping is merged into another.
-/

namespace VectorLink

/-- **No two entries have the same key.** -/
def DistinctKeys (entries : List (Value × Value)) : Prop :=
  entries.Pairwise fun a b => a.1.sameKey b.1 = false

/-- **A value is no mapping, or one with distinct keys.** -/
def Value.Keyed (v : Value) : Prop := ∀ entries, v = .mapping entries → DistinctKeys entries

/-- An entry that was put has the new key, or the key of an entry that was there. -/
theorem mem_putEntry {entries : List (Value × Value)} {key value : Value} {e : Value × Value}
    (he : e ∈ putEntry entries key value) : e.1 = key ∨ ∃ a ∈ entries, a.1 = e.1 := by
  induction entries with
  | nil => exact .inl (by rw [List.mem_singleton.mp he])
  | cons a rest ih =>
    rw [putEntry] at he
    split at he
    · obtain rfl | he := List.mem_cons.mp he
      · exact .inr ⟨a, List.mem_cons_self, rfl⟩
      · exact .inr ⟨e, List.mem_cons_of_mem _ he, rfl⟩
    · obtain rfl | he := List.mem_cons.mp he
      · exact .inr ⟨_, List.mem_cons_self, rfl⟩
      · exact (ih he).imp_right fun ⟨b, hb, hkey⟩ => ⟨b, List.mem_cons_of_mem _ hb, hkey⟩

/-- **Putting an entry keeps keys distinct.** -/
theorem DistinctKeys.putEntry {entries : List (Value × Value)} (h : DistinctKeys entries)
    (key value : Value) : DistinctKeys (putEntry entries key value) := by
  induction entries with
  | nil => exact List.pairwise_singleton _ _
  | cons a rest ih =>
    obtain ⟨hhead, htail⟩ := List.pairwise_cons.mp h
    rw [VectorLink.putEntry]
    cases hsame : a.1.sameKey key with
    | true => exact List.pairwise_cons.mpr ⟨hhead, htail⟩
    | false =>
      refine List.pairwise_cons.mpr ⟨fun e he => ?_, ih htail⟩
      obtain hkey | ⟨b, hb, hkey⟩ := mem_putEntry he
      · rw [hkey]
        exact hsame
      · rw [← hkey]
        exact hhead b hb

theorem distinctKeys_nil : DistinctKeys [] := List.Pairwise.nil

/-! ## Reading goes on only after what went well -/

section

variable {ε δ α β : Type}

theorem bind_eq_ok {x : Except ε α} {f : α → Except ε β} {b : β} (h : x >>= f = .ok b) :
    ∃ a, x = .ok a ∧ f a = .ok b := by
  cases x with
  | error e => cases h
  | ok a => exact ⟨a, rfl, h⟩

theorem map_eq_ok {x : Except ε α} {f : α → β} {b : β} (h : x.map f = .ok b) :
    ∃ a, x = .ok a ∧ f a = b := by
  cases x with
  | error e => cases h
  | ok a => exact ⟨a, rfl, Except.ok.inj h⟩

theorem mapError_eq_ok {x : Except ε α} {f : ε → δ} {a : α} (h : x.mapError f = .ok a) :
    x = .ok a := by
  cases x with
  | error e => cases h
  | ok b => exact congrArg _ (Except.ok.inj h)

end

/-! ## JSON documents -/

namespace Json

theorem distinct_readEntries {fuel : Nat} {done : List (Value × Value)} {cs : List Char}
    {found : List (Value × Value) × List Char} (hdone : DistinctKeys done)
    (h : readEntries fuel done cs = .ok found) : DistinctKeys found.1 := by
  induction fuel generalizing done cs with
  | zero =>
    rw [readEntries] at h
    cases h
  | succ fuel ih =>
    unfold readEntries at h
    split at h
    · obtain ⟨⟨name, afterName⟩, -, h⟩ := bind_eq_ok h
      dsimp only at h
      split at h
      · obtain ⟨⟨v, afterValue⟩, -, h⟩ := bind_eq_ok h
        have hput := hdone.putEntry (.text name) v
        dsimp only at h
        split at h
        · obtain rfl := Except.ok.inj h
          exact hput
        · exact ih hput h
        · cases h
      · cases h
    · cases h

theorem keyed_readWord? {cs : List Char} {found : Value × List Char}
    (h : readWord? cs = some found) : found.1.Keyed := by
  obtain ⟨⟨word, v⟩, hmem, hfound⟩ := List.exists_of_findSome?_eq_some h
  dsimp only at hfound
  split at hfound
  · obtain rfl := Option.some_inj.mp hfound
    -- no word writes a mapping
    simp only [words, List.mem_cons, Prod.mk.injEq, List.not_mem_nil, or_false] at hmem
    obtain ⟨-, rfl⟩ | ⟨-, rfl⟩ | ⟨-, rfl⟩ | ⟨-, rfl⟩ | ⟨-, rfl⟩ | ⟨-, rfl⟩ := hmem <;> exact nofun
  · cases hfound

theorem keyed_readNumber {cs : List Char} {found : Value × List Char}
    (h : readNumber cs = .ok found) : found.1.Keyed := by
  unfold readNumber at h
  split at h
  all_goals
    -- with and without a minus sign in front
    split at h
    · cases h
    · dsimp only at h
      split at h
      · split at h
        · obtain rfl := Except.ok.inj h
          exact nofun
        · cases h
      · split at h
        · obtain rfl := Except.ok.inj h
          exact nofun
        · cases h

theorem keyed_readValue {fuel : Nat} {cs : List Char} {found : Value × List Char}
    (h : readValue fuel cs = .ok found) : found.1.Keyed := by
  cases fuel with
  | zero =>
    rw [readValue] at h
    cases h
  | succ fuel =>
    unfold readValue at h
    split at h
    · obtain ⟨_, -, rfl⟩ := map_eq_ok h
      exact nofun
    · split at h
      · obtain rfl := Except.ok.inj h
        exact nofun
      · obtain ⟨_, -, rfl⟩ := map_eq_ok h
        exact nofun
    · split at h
      · obtain rfl := Except.ok.inj h
        rintro _ ⟨⟩
        exact distinctKeys_nil
      · obtain ⟨_, hentries, rfl⟩ := map_eq_ok h
        rintro _ ⟨⟩
        exact distinct_readEntries distinctKeys_nil hentries
    · split at h
      · next hword =>
        obtain rfl := Except.ok.inj h
        exact keyed_readWord? hword
      · exact keyed_readNumber h

theorem keyed_read {document : List Char} {v : Value} (h : read document = .ok v) : v.Keyed := by
  unfold read at h
  split at h
  · cases h
  · obtain ⟨found, hfound, h⟩ := bind_eq_ok h
    dsimp only at h
    split at h
    · obtain rfl := Except.ok.inj h
      exact keyed_readValue hfound
    · cases h

end Json

/-! ## YAML documents -/

namespace Yaml

theorem distinct_mappingPart {level : Nat} {read : Node → Part Value} {n : Node}
    {entries : List (Value × Value)} (h : n.mappingPart level read = .ok entries) :
    DistinctKeys entries := by
  have hfold : ∀ (pairs : List (Value × Value)) {done : List (Value × Value)},
      DistinctKeys done →
        DistinctKeys (pairs.foldl (fun done e => putEntry done e.1 e.2) done) := by
    intro pairs
    induction pairs with
    | nil => exact id
    | cons pair pairs ih => exact fun hdone => ih (hdone.putEntry _ _)
  unfold Node.mappingPart at h
  split at h
  · split at h
    · cases h
    · obtain ⟨pairs, -, rfl⟩ := map_eq_ok h
      exact hfold pairs distinctKeys_nil
  · cases h

namespace Scalar

theorem keyed_truth {s : String} {v : Value} (h : truth s = .ok v) : v.Keyed := by
  unfold truth at h
  dsimp only at h
  split at h
  · obtain rfl := Except.ok.inj h
    exact nofun
  · cases h

theorem keyed_whole {s : String} {v : Value} (h : whole s = .ok v) : v.Keyed := by
  unfold whole at h
  split at h
  · cases h
  · obtain ⟨n, -, h⟩ := bind_eq_ok h
    obtain rfl := Except.ok.inj h
    exact nofun

theorem keyed_real {s : String} {v : Value} (h : real s = .ok v) : v.Keyed := by
  unfold real at h
  split at h
  · cases h
  · dsimp only at h
    split at h
    · obtain rfl := Except.ok.inj h
      exact nofun
    · obtain ⟨x, -, h⟩ := bind_eq_ok h
      obtain rfl := Except.ok.inj h
      exact nofun

theorem keyed_octets {s : String} {v : Value} (h : octets s = .ok v) : v.Keyed := by
  unfold octets at h
  split at h
  · split at h
    · obtain rfl := Except.ok.inj h
      exact nofun
    · cases h
  · cases h

theorem keyed_stampValue {stamp : Stamp} {v : Value} (h : stampValue stamp = .ok v) : v.Keyed := by
  unfold stampValue at h
  dsimp only at h
  split at h
  · obtain ⟨date, -, h⟩ := bind_eq_ok h
    obtain rfl := Except.ok.inj h
    exact nofun
  · obtain ⟨offset?, -, h⟩ := bind_eq_ok h
    obtain ⟨date, -, h⟩ := bind_eq_ok h
    obtain ⟨time, -, h⟩ := bind_eq_ok h
    obtain rfl := Except.ok.inj h
    exact nofun

theorem keyed_timestamp {s : String} {v : Value} (h : timestamp s = .ok v) : v.Keyed := by
  unfold timestamp at h
  split at h
  · exact keyed_stampValue (mapError_eq_ok h)
  · cases h

/-- No scalar is a mapping. -/
theorem keyed_value {tag : Tag} {s : String} {v : Value} (h : value tag s = .ok v) : v.Keyed := by
  unfold value at h
  split at h
  · obtain rfl := Except.ok.inj h
    exact nofun
  · exact keyed_truth h
  · exact keyed_whole h
  · exact keyed_real h
  · exact keyed_octets h
  · exact keyed_timestamp h
  · obtain rfl := Except.ok.inj h
    exact nofun
  · cases h

end Scalar

theorem keyed_part {fuel level : Nat} {n : Node} {v : Value} (h : n.part fuel level = .ok v) :
    v.Keyed := by
  cases fuel with
  | zero => cases h
  | succ fuel =>
    unfold Node.part at h
    dsimp only at h
    split at h
    · split at h
      · obtain ⟨_, -, rfl⟩ := map_eq_ok h
        exact nofun
      · cases h
    · obtain ⟨entries, hentries, rfl⟩ := map_eq_ok h
      rintro _ ⟨⟩
      exact distinct_mappingPart hentries
    · obtain ⟨_, -, rfl⟩ := map_eq_ok h
      exact nofun
    · split at h
      · obtain ⟨_, -, rfl⟩ := map_eq_ok h
        exact nofun
      · cases h
    · split at h
      · exact Scalar.keyed_value (mapError_eq_ok h)
      · cases h

theorem keyed_read {document : List Char} {v : Value} (h : read document = .ok v) : v.Keyed := by
  unfold read at h
  split at h
  · cases h
  · obtain ⟨n?, -, h⟩ := bind_eq_ok h
    split at h
    · exact keyed_part (mapError_eq_ok h)
    · obtain rfl := Except.ok.inj h
      exact nofun

end Yaml

/-! ## Configuration files -/

/-- **The entries of a configuration file have distinct keys.** -/
theorem FileSource.distinct_entries {f : FileSource} {entries : List (Value × Value)}
    (h : f.entries = .ok entries) : DistinctKeys entries := by
  have hkeyed : ∀ v, f.value = .ok v → v.Keyed := by
    intro v hv
    obtain ⟨octets, -, hv⟩ := bind_eq_ok hv
    obtain ⟨text, -, hv⟩ := bind_eq_ok hv
    dsimp only at hv
    split at hv
    · split at hv
      · exact Yaml.keyed_read (mapError_eq_ok hv)
      · cases hv
    · exact Json.keyed_read (mapError_eq_ok hv)
  obtain ⟨v, hv, h⟩ := bind_eq_ok h
  split at h
  · obtain rfl := Except.ok.inj h
    exact hkeyed _ hv _ rfl
  · cases h

end VectorLink
