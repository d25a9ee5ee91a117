import VectorLink.Proofs.Items

/-!
# Ids in arrays

The ids of an insertion may be handed in as a list or as an array, and one would expect an array to
be as good as the list of its elements. It is not. The elements of a list are validated: a real has
to be whole and within the bounds of an integer, and whatever is no id is refused. The elements of
an array are cast to words of 64 bits before anything is validated, and a cast refuses nothing: a
fraction is cut off, what is no number becomes the least word, and an unsigned word beyond the
signed ones wraps around.

So a list never changes an id, and an array does, without a word. The two ways lead to the same
insertion exactly if every element is an id for both (`Element.IsId`), and the ids that an array
leaves are its elements exactly if those are integers that have a word
(`Insertion.takes_arrays`).
-/

namespace VectorLink

theorem isWord_iff {n : Int} : isWord n = true ↔ -(2 ^ 63) ≤ n ∧ n < 2 ^ 63 := by
  rw [isWord, Bool.and_eq_true, decide_eq_true_iff, decide_eq_true_iff]

namespace Element

variable {e : Element} {n : Int}

/-- The value that an element is by itself. -/
def value : Element → Value
  | .whole n => .int n
  | .real x => .float x

/-- The integer that an element is, if it is one. -/
def toInt? : Element → Option Int
  | .whole n => some n
  | .real x => x.toInt?

/-- **An element is an id**, for an array as for a list: an integer that has a word. The least word
is no id if it is written as a real. -/
def IsId : Element → Prop
  | .whole n => isWord n = true
  | .real x => ∃ n, x.toInt? = some n ∧ -(2 ^ 63) < n ∧ n < 2 ^ 63

/-- An element is an integer that has a word. -/
def HasWord (e : Element) : Prop := ∃ n, e.toInt? = some n ∧ isWord n = true

/-! ## Casts -/

/-- A wrapped integer has a word. -/
theorem isWord_wrapWord (n : Int) : isWord (wrapWord n) = true := by
  have hlower := Int.le_bmod (x := n) (m := 2 ^ 64) (by decide)
  have hupper := Int.bmod_lt (x := n) (m := 2 ^ 64) (by decide)
  rw [isWord_iff, wrapWord]
  omega

/-- **An integer wraps to itself** exactly if it has a word. -/
theorem wrapWord_eq_self_iff : wrapWord n = n ↔ isWord n = true := by
  constructor
  · exact fun h => h ▸ isWord_wrapWord n
  · rw [isWord_iff]
    rintro ⟨hlower, hupper⟩
    exact Int.bmod_eq_of_le (by omega) (by omega)

/-- **Whatever is cast has a word** afterwards. -/
theorem isWord_toWord (e : Element) : isWord e.toWord = true := by
  cases e with
  | whole n => exact isWord_wrapWord n
  | real x =>
    rw [toWord]
    cases x.truncate? with
    | none => decide
    | some n =>
      dsimp only
      split
      · next hn => exact hn
      · decide

/-- **A whole real is cut off to itself.** -/
theorem truncate?_of_toInt? {x : Binary64} (h : x.toInt? = some n) : x.truncate? = some n := by
  rw [Binary64.toInt?] at h
  rw [Binary64.truncate?]
  cases hx : x.fraction? with
  | none =>
    rw [hx] at h
    cases h
  | some fraction =>
    obtain ⟨negative, num, den⟩ := fraction
    rw [hx] at h
    dsimp only at h
    split at h
    · exact h
    · cases h

/-- **An element is cast to itself** exactly if it is an integer that has a word. -/
theorem toInt?_toWord_iff : e.toInt? = some e.toWord ↔ e.HasWord := by
  constructor
  · exact fun h => ⟨_, h, e.isWord_toWord⟩
  · rintro ⟨n, hn, hword⟩
    rw [hn]
    refine congrArg some ?_
    cases e with
    | whole m =>
      obtain rfl := Option.some.inj hn
      exact (wrapWord_eq_self_iff.mpr hword).symm
    | real x =>
      have hword : (decide (-(2 ^ 63) ≤ n) && decide (n < 2 ^ 63)) = true := hword
      rw [toWord, truncate?_of_toInt? hn]
      exact (if_pos hword).symm

/-! ## Listed elements -/

theorem integerOfReal_eq_ok_iff {x : Binary64} :
    integerOfReal x = .ok n ↔ x.toInt? = some n ∧ -(2 ^ 63) < n ∧ n < 2 ^ 63 := by
  rw [integerOfReal]
  cases hx : x.fraction? with
  | none =>
    rw [Binary64.toInt?, hx]
    exact ⟨nofun, nofun⟩
  | some fraction =>
    dsimp only
    cases x.toInt? with
    | none => exact ⟨nofun, nofun⟩
    | some m =>
      dsimp only
      split
      · next hm =>
        have hm : -(2 ^ 63) < m ∧ m < 2 ^ 63 := by simpa using hm
        refine ⟨fun h => ?_, fun h => congrArg _ (Option.some.inj h.1)⟩
        obtain rfl := Except.ok.inj h
        exact ⟨rfl, hm⟩
      · next hm =>
        refine ⟨nofun, fun h => absurd ?_ hm⟩
        obtain rfl := Option.some.inj h.1
        simpa using h.2

/-- **A listed element is read as the integer that it is.** -/
theorem toInt?_of_integer (h : Reader.integer e.value = .ok n) : e.toInt? = some n := by
  cases e with
  | whole m => exact congrArg some (Except.ok.inj h)
  | real x => exact (integerOfReal_eq_ok_iff.mp h).1

/-- **An element is read as it is cast** exactly if it is an id. -/
theorem integer_eq_toWord_iff : Reader.integer e.value = .ok e.toWord ↔ e.IsId := by
  cases e with
  | whole m =>
    rw [IsId, ← wrapWord_eq_self_iff]
    exact ⟨fun h => (Except.ok.inj h).symm, fun h => congrArg _ h.symm⟩
  | real x =>
    constructor
    · exact fun h => ⟨_, integerOfReal_eq_ok_iff.mp h⟩
    · rintro ⟨n, hn, hlower, hupper⟩
      have hword : Element.HasWord (.real x) := ⟨n, hn, isWord_iff.mpr ⟨by omega, hupper⟩⟩
      have hcast : x.toInt? = some (Element.toWord (.real x)) := toInt?_toWord_iff.mpr hword
      rw [hcast] at hn
      obtain rfl := Option.some.inj hn
      exact integerOfReal_eq_ok_iff.mpr ⟨hcast, hlower, hupper⟩

end Element

/-! ## Arrays beside lists -/

namespace Tensor

/-- **An array along one axis.** -/
def IsLine (t : Tensor) : Prop := t.shape = [t.elements.length]

/-- The list of the elements of an array of numbers. -/
def listed (t : Tensor) : Value := .list (t.elements.map Element.value)

end Tensor

/-- **The ids of an array are its words**; none is refused. -/
theorem readIds_array {t : Tensor} (h : t.IsLine) :
    readIds (.array t) = .ok (t.elements.map Element.toWord) := by
  have hread : readIds (.array t)
      = Reader.list Reader.integer (nested (fun e => .int e.toWord) t.shape t.elements) := rfl
  rw [hread, h, nested_one_axis]
  exact Reader.list_map fun _ _ => rfl

theorem readIds_listed_eq_ok_iff {t : Tensor} {ids : List Int} :
    readIds t.listed = .ok ids ↔
      List.Forall₂ (fun e id => Reader.integer e.value = .ok id) t.elements ids := by
  have hread : readIds t.listed = Reader.list Reader.integer t.listed := rfl
  rw [hread, Tensor.listed, Reader.list_eq_ok_iff, List.forall₂_map_left_iff]

/-- **A list is read as an array is cast** exactly if all elements are ids. -/
theorem readIds_listed_eq_words_iff {t : Tensor} :
    readIds t.listed = .ok (t.elements.map Element.toWord) ↔ ∀ e ∈ t.elements, e.IsId := by
  rw [readIds_listed_eq_ok_iff, List.forall₂_map_right_iff, List.forall₂_same]
  exact forall₂_congr fun e _ => Element.integer_eq_toWord_iff

namespace Insertion

variable {args : Arguments} {i : Insertion} {t : Tensor}

/-- **An insertion is checked** field by field, and its ids are aligned. -/
theorem check_eq_ok_iff :
    check args = .ok i ↔
      args.required "table_name" Reader.nonemptyText = .ok i.tableName ∧
        args.required "vectors" Rows.read = .ok i.rows ∧
        args.optional "vector_ids" [] readIds = .ok i.ids ∧ i.isAligned = true := by
  constructor
  · intro h
    obtain ⟨hmade, haligned⟩ := Checked.ensure_eq_ok h
    obtain ⟨_, _, h₂, hids, rfl⟩ := Checked.seq_eq_ok hmade
    obtain ⟨_, _, h₁, hrows, rfl⟩ := Checked.seq_eq_ok h₂
    obtain ⟨_, hname, rfl⟩ := Checked.map_eq_ok h₁
    exact ⟨hname, hrows, hids, haligned⟩
  · rintro ⟨hname, hrows, hids, haligned⟩
    rw [check, hname, hrows, hids]
    exact if_pos haligned

/-- An insertion with ids in place of any others. -/
theorem check_put_ids_eq_ok_iff {v : Value} :
    check (args.put "vector_ids" v) = .ok i ↔
      args.required "table_name" Reader.nonemptyText = .ok i.tableName ∧
        args.required "vectors" Rows.read = .ok i.rows ∧
        readIds v = .ok i.ids ∧ i.isAligned = true := by
  rw [check_eq_ok_iff, Arguments.required_put (show "vector_ids" ≠ "table_name" by decide),
    Arguments.required_put (show "vector_ids" ≠ "vectors" by decide), Arguments.optional_put_self,
    Checked.within_eq_ok_iff]

/-- The ids of an accepted array are its words. -/
theorem ids_of_array (ht : t.IsLine) (h : check (args.put "vector_ids" (.array t)) = .ok i) :
    i.ids = t.elements.map Element.toWord := by
  have hids := (check_put_ids_eq_ok_iff.mp h).2.2.1
  rw [readIds_array ht] at hids
  exact (Except.ok.inj hids).symm

/-- **An array is accepted where the list is**: no id of it is looked at, only their number. -/
theorem exists_of_listed (ht : t.IsLine) (h : check (args.put "vector_ids" t.listed) = .ok i) :
    check (args.put "vector_ids" (.array t))
      = .ok { i with ids := t.elements.map Element.toWord } := by
  obtain ⟨hname, hrows, hids, haligned⟩ := check_put_ids_eq_ok_iff.mp h
  have hlength := (readIds_listed_eq_ok_iff.mp hids).length_eq
  refine check_put_ids_eq_ok_iff.mpr ⟨hname, hrows, readIds_array ht, ?_⟩
  rw [isAligned, Bool.or_eq_true, List.isEmpty_iff_length_eq_zero, decide_eq_true_iff] at haligned ⊢
  rwa [List.length_map, hlength]

/-- **An array is as good as its list** exactly if all its elements are ids, or it is not accepted
at all. -/
theorem same_iff (ht : t.IsLine) :
    (∀ i, check (args.put "vector_ids" (.array t)) = .ok i ↔
        check (args.put "vector_ids" t.listed) = .ok i) ↔
      ((∃ i, check (args.put "vector_ids" (.array t)) = .ok i) → ∀ e ∈ t.elements, e.IsId) := by
  constructor
  · rintro hsame ⟨i, hi⟩
    have hids := (check_put_ids_eq_ok_iff.mp ((hsame i).mp hi)).2.2.1
    rw [ids_of_array ht hi] at hids
    exact readIds_listed_eq_words_iff.mp hids
  · -- An array is refused for nothing but what is said beside it, and so is the list then.
    intro hids i
    have hread : (∃ j, check (args.put "vector_ids" (.array t)) = .ok j) →
        readIds t.listed = readIds (.array t) := fun hj => by
      rw [readIds_array ht]
      exact readIds_listed_eq_words_iff.mpr (hids hj)
    rw [check_put_ids_eq_ok_iff, check_put_ids_eq_ok_iff]
    constructor
    · intro h
      rwa [hread ⟨i, check_put_ids_eq_ok_iff.mpr h⟩]
    · intro h
      rwa [← hread ⟨_, exists_of_listed ht (check_put_ids_eq_ok_iff.mpr h)⟩]

/-- **What becomes of ids in an array**, beside the list of its elements and some other
arguments. -/
structure TakesArray (t : Tensor) (args : Arguments) : Prop where
  /-- An array is accepted where the list is. -/
  accepted : ∀ i, check (args.put "vector_ids" t.listed) = .ok i →
    ∃ j, check (args.put "vector_ids" (.array t)) = .ok j
  /-- The ids are words, cut off or wrapped around. -/
  words : ∀ i, check (args.put "vector_ids" (.array t)) = .ok i →
    i.ids = t.elements.map Element.toWord
  /-- The two are accepted alike and leave the same insertion exactly if all elements of an accepted
  array are ids. -/
  same_iff : (∀ i, check (args.put "vector_ids" (.array t)) = .ok i ↔
      check (args.put "vector_ids" t.listed) = .ok i) ↔
    ((∃ i, check (args.put "vector_ids" (.array t)) = .ok i) → ∀ e ∈ t.elements, e.IsId)
  /-- No id is changed exactly if all elements are integers that have a word. -/
  unchanged_iff : ∀ i, check (args.put "vector_ids" (.array t)) = .ok i →
    (List.Forall₂ (fun e id => e.toInt? = some id) t.elements i.ids ↔
      ∀ e ∈ t.elements, e.HasWord)
  /-- The list never changes an id. -/
  listed : ∀ i, check (args.put "vector_ids" t.listed) = .ok i →
    List.Forall₂ (fun e id => e.toInt? = some id) t.elements i.ids

/-- **An array along one axis is taken word by word**, and so it is as good as its list only if all
its elements are ids. -/
theorem takes_arrays {t : Tensor} (ht : t.IsLine) (args : Arguments) : TakesArray t args where
  accepted _ h := ⟨_, exists_of_listed ht h⟩
  words _ h := ids_of_array ht h
  same_iff := same_iff ht
  unchanged_iff _ h := by
    rw [ids_of_array ht h, List.forall₂_map_right_iff, List.forall₂_same]
    exact forall₂_congr fun _ _ => Element.toInt?_toWord_iff
  listed _ h := (readIds_listed_eq_ok_iff.mp (check_put_ids_eq_ok_iff.mp h).2.2.1).imp
    fun _ _ => Element.toInt?_of_integer

/-- One vector of one component, and a table for it. -/
def oneVector : Arguments :=
  [("table_name", .text "t"), ("vectors", .list [.list [.float ⟨0x3FF0000000000000⟩]])]

/-- The array of one and a half. -/
def fractional : Tensor := ⟨.real .binary64, [1], [.real ⟨0x3FF8000000000000⟩]⟩

/-- One and a half is the id one in an array, and in a list it is refused. -/
theorem takes_arrays_fractional : fractional.IsLine ∧ TakesArray fractional oneVector ∧
    (∃ i, check (oneVector.put "vector_ids" (.array fractional)) = .ok i ∧ i.ids = [1]) ∧
    (∀ i, check (oneVector.put "vector_ids" fractional.listed) ≠ .ok i) ∧
    ¬ ∀ i, check (oneVector.put "vector_ids" (.array fractional)) = .ok i ↔
      check (oneVector.put "vector_ids" fractional.listed) = .ok i := by
  have hline : fractional.IsLine := rfl
  have htakes := takes_arrays hline oneVector
  have hi : check (oneVector.put "vector_ids" (.array fractional))
      = .ok ⟨"t", [[⟨0x3FF0000000000000⟩]], [1]⟩ := by rfl
  have hnone : Binary64.toInt? ⟨0x3FF8000000000000⟩ = none := by decide
  have hlisted : ∀ i, check (oneVector.put "vector_ids" fractional.listed) ≠ .ok i := fun i h => by
    obtain ⟨id, _, hid, -, -⟩ := List.forall₂_cons_left_iff.mp (htakes.listed i h)
    have hid : Binary64.toInt? ⟨0x3FF8000000000000⟩ = some id := hid
    rw [hnone] at hid
    cases hid
  exact ⟨hline, htakes, ⟨_, hi, rfl⟩, hlisted, fun hsame => hlisted _ ((hsame _).mp hi)⟩

end Insertion

end VectorLink
