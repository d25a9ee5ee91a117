import Mathlib.Data.List.Forall2
import VectorLink.Domain.Vectors
import VectorLink.Proofs.Precedence

/-!
# Items one by one

Validation reads a list item by item and a record field by field. That a whole list is accepted says
no more than that each of its items is (`Reader.list_eq_ok_iff`), and what a reader makes of an
array is what it makes of the lists in the array's place: of one list for an array along one axis
(`nested_one_axis`), and of a list of lists for one along two (`nested_two_axes`).
-/

namespace VectorLink

variable {α : Type} {read : Reader α}

/-! ## Lists -/

theorem Checked.within_eq_ok_iff {p : Place} {c : Checked α} {a : α} :
    Checked.within p c = .ok a ↔ c = .ok a := by
  refine ⟨within_eq_ok, fun h => ?_⟩
  rw [h]
  rfl

/-- **The items of a list are read** exactly if each of them is. -/
theorem Checked.itemsFrom_eq_ok_iff {i : Nat} {vs : List Value} {xs : List α} :
    itemsFrom read i vs = .ok xs ↔ List.Forall₂ (fun v x => read v = .ok x) vs xs := by
  induction vs generalizing i xs with
  | nil =>
    rw [List.forall₂_nil_left_iff]
    exact ⟨fun h => (Except.ok.inj h).symm, fun h => congrArg _ h.symm⟩
  | cons v vs ih =>
    rw [List.forall₂_cons_left_iff]
    have hitems : itemsFrom read i (v :: vs)
        = List.cons <$> within (.position i) (read v) <*> itemsFrom read (i + 1) vs := rfl
    rw [hitems]
    constructor
    · intro h
      obtain ⟨_, rest, hfirst, hrest, rfl⟩ := Checked.seq_eq_ok h
      obtain ⟨x, hx, rfl⟩ := Checked.map_eq_ok hfirst
      exact ⟨x, rest, within_eq_ok hx, ih.mp hrest, rfl⟩
    · rintro ⟨x, rest, hx, hrest, rfl⟩
      rw [within_eq_ok_iff.mpr hx, ih.mpr hrest]
      rfl

theorem Reader.list_eq_ok_iff {vs : List Value} {xs : List α} :
    Reader.list read (.list vs) = .ok xs ↔ List.Forall₂ (fun v x => read v = .ok x) vs xs :=
  Checked.itemsFrom_eq_ok_iff

/-- A list of values that are read one by one. -/
theorem Reader.list_map {β : Type} {value : β → Value} {result : β → α} {bs : List β}
    (h : ∀ b ∈ bs, read (value b) = .ok (result b)) :
    Reader.list read (.list (bs.map value)) = .ok (bs.map result) := by
  rw [list_eq_ok_iff, List.forall₂_map_left_iff, List.forall₂_map_right_iff]
  exact List.forall₂_same.mpr h

/-- Whatever was read as a list was read item by item. -/
theorem Reader.exists_of_list {v : Value} {xs : List α} (h : Reader.list read v = .ok xs) :
    ∀ x ∈ xs, ∃ item, read item = .ok x := by
  have hitems : ∃ vs, List.Forall₂ (fun v x => read v = .ok x) vs xs := by
    cases v with
    | list vs => exact ⟨vs, Checked.itemsFrom_eq_ok_iff.mp h⟩
    | tuple vs => exact ⟨vs, Checked.itemsFrom_eq_ok_iff.mp h⟩
    | array t =>
      unfold Reader.list at h
      dsimp only at h
      split at h
      · exact ⟨_, Checked.itemsFrom_eq_ok_iff.mp h⟩
      · cases h
    | _ => cases h
  obtain ⟨vs, hvs⟩ := hitems
  clear h
  induction hvs with
  | nil => exact List.forall_mem_nil _
  | cons hx _ ih => exact List.forall_mem_cons.mpr ⟨⟨_, hx⟩, ih⟩

/-! ## Arrays -/

section

variable (one : Element → Value)

/-- **An array along one axis is a list.** -/
theorem nested_one_axis (es : List Element) : nested one [es.length] es = .list (es.map one) := by
  have hitems : ((List.range es.length).map fun i => nested one [] ((es.drop (i * 1)).take 1))
      = es.map one := by
    refine List.ext_getElem (by simp) fun i hi _ => ?_
    have hi : i < es.length := by simpa using hi
    have hhead : ((es.drop i).take 1).head? = some es[i] := by
      rw [List.head?_take, if_neg Nat.one_ne_zero, List.head?_drop, List.getElem?_eq_getElem hi]
    rw [List.getElem_map, List.getElem_map, List.getElem_range, Nat.mul_one, nested, hhead]
    rfl
  rw [nested]
  exact congrArg Value.list hitems

/-- A row of rows of one width, when they are one after another. -/
theorem take_drop_flatten {rows : List (List α)} {width : Nat}
    (hwidth : ∀ row ∈ rows, row.length = width) (i : Nat) (hi : i < rows.length) :
    (rows.flatten.drop (i * width)).take width = rows[i] := by
  induction rows generalizing i with
  | nil => cases hi
  | cons row rows ih =>
    obtain ⟨hrow, hrows⟩ := List.forall_mem_cons.mp hwidth
    rw [List.flatten_cons]
    cases i with
    | zero => rw [Nat.zero_mul, List.drop_zero, ← hrow, List.take_left, List.getElem_cons_zero]
    | succ i =>
      have hplace : (i + 1) * width = row.length + i * width := by
        rw [Nat.succ_mul, Nat.add_comm, hrow]
      rw [hplace, List.drop_append, List.drop_of_length_le (Nat.le_add_right _ _),
        Nat.add_sub_cancel_left, List.nil_append, ih hrows i (Nat.lt_of_succ_lt_succ hi),
        List.getElem_cons_succ]

/-- **An array along two axes is a list of lists**, one for each row. -/
theorem nested_two_axes {rows : List (List Element)} {width : Nat}
    (hwidth : ∀ row ∈ rows, row.length = width) :
    nested one [rows.length, width] rows.flatten
      = .list (rows.map fun row => .list (row.map one)) := by
  have hitems : ((List.range rows.length).map fun i =>
      nested one [width] ((rows.flatten.drop (i * (1 * width))).take (1 * width)))
      = rows.map fun row => .list (row.map one) := by
    refine List.ext_getElem (by simp) fun i hi _ => ?_
    have hi : i < rows.length := by simpa using hi
    have hlength : rows[i].length = width := hwidth _ (List.getElem_mem hi)
    rw [List.getElem_map, List.getElem_map, List.getElem_range, Nat.one_mul,
      take_drop_flatten hwidth i hi, ← hlength, nested_one_axis]
  rw [nested]
  exact congrArg Value.list hitems

end

/-! ## Fields -/

namespace Arguments

variable {args : Arguments} {name other : String} {v : Value} {a default : α}

theorem required_eq_ok_iff :
    args.required name read = .ok a ↔ ∃ v, args.get? name = some v ∧ read v = .ok a := by
  rw [required, Checked.within_eq_ok_iff]
  cases args.get? name with
  | none => exact ⟨nofun, nofun⟩
  | some v => exact ⟨fun h => ⟨v, rfl, h⟩, fun ⟨_, hv, h⟩ => Option.some.inj hv ▸ h⟩

theorem optional_eq_ok_iff :
    args.optional name default read = .ok a ↔
      (args.get? name = none ∧ a = default) ∨ ∃ v, args.get? name = some v ∧ read v = .ok a := by
  rw [optional]
  cases args.get? name with
  | none =>
    refine ⟨fun h => .inl ⟨rfl, (Except.ok.inj h).symm⟩, ?_⟩
    rintro (⟨-, rfl⟩ | ⟨_, ⟨⟩, -⟩)
    rfl
  | some v =>
    refine ⟨fun h => .inr ⟨v, rfl, Checked.within_eq_ok h⟩, ?_⟩
    rintro (⟨⟨⟩, -⟩ | ⟨_, hv, h⟩)
    obtain rfl := Option.some.inj hv
    exact Checked.within_eq_ok_iff.mpr h

/-- Another field is what it was. -/
theorem required_put (h : name ≠ other) :
    (args.put name v).required other read = args.required other read := by
  rw [required, required, get?_put, if_neg (by simpa using h)]

theorem optional_put (h : name ≠ other) :
    (args.put name v).optional other default read = args.optional other default read := by
  rw [optional, optional, get?_put, if_neg (by simpa using h)]

theorem required_put_self :
    (args.put name v).required name read = Checked.within (.field name) (read v) := by
  rw [required, get?_put, if_pos (beq_self_eq_true name)]

theorem optional_put_self :
    (args.put name v).optional name default read = Checked.within (.field name) (read v) := by
  rw [optional, get?_put, if_pos (beq_self_eq_true name)]

end Arguments

end VectorLink
