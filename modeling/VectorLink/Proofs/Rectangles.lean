import VectorLink.Proofs.Echo

/-!
# Hits in rows and as rectangles

A reply to a search holds one message for each vector that was asked about, and in it one message
for each hit. What a caller gets is a list of lists of hits that stand in the same places, as many
as were found for each vector and also none.

As rectangles they are as wide as the longest of the lists. A rectangle is one list of cells, row
after row, so it depends on all rows being equally long that a cell is where it belongs
(`Grid.tabulates_ofRows`). A hit of a reply always has an id that fits a cell, so rectangles of hits
that came with a reply never fail (`Operation.tabulates`).
-/

namespace VectorLink

open Wire (Datum Message contentsFit)

/-! ## Cells of a rectangle -/

namespace Grid

variable {α : Type}

/-- **The cell in a row and a column**, if there is one. -/
def cell? (g : Grid α) (i j : Nat) : Option α :=
  if j < g.columns then g.cells[i * g.columns + j]? else none

/-- **A rectangle holds some rows**: each of them stands in its own row at the beginning, with the
filler behind it, and no column is there in vain. -/
structure Tabulates (g : Grid α) (filler : α) (rows : List (List α)) : Prop where
  rows_eq : g.rows = rows.length
  size : g.cells.length = g.rows * g.columns
  wide : ∀ row ∈ rows, row.length ≤ g.columns
  tight : g.columns ≠ 0 → ∃ row ∈ rows, row.length = g.columns
  held : ∀ (i : Nat) (row : List α), rows[i]? = some row → ∀ j < row.length,
    g.cell? i j = row[j]?
  filled : ∀ (i : Nat) (row : List α), rows[i]? = some row → ∀ j, row.length ≤ j →
    j < g.columns → g.cell? i j = some filler

/-- Equally long lists one after another, read by list and place. -/
theorem getElem?_flatMap_of_length {β : Type} {f : β → List α} {width : Nat} {bs : List β}
    (hf : ∀ b ∈ bs, (f b).length = width) (i : Nat) {j : Nat} (hj : j < width) :
    (bs.flatMap f)[i * width + j]? = (bs[i]?).bind fun b => (f b)[j]? := by
  induction bs generalizing i with
  | nil => rfl
  | cons b bs ih =>
    obtain ⟨hb, hbs⟩ := List.forall_mem_cons.mp hf
    rw [List.flatMap_cons]
    cases i with
    | zero =>
      rw [Nat.zero_mul, Nat.zero_add, List.getElem?_append_left (hj.trans_eq hb.symm)]
      rfl
    | succ i =>
      have hplace : (i + 1) * width + j = width + (i * width + j) := by
        rw [Nat.succ_mul, Nat.add_comm (i * width), Nat.add_assoc]
      rw [hplace, List.getElem?_append_right (hb ▸ Nat.le_add_right _ _), hb,
        Nat.add_sub_cancel_left, ih hbs]
      rfl

theorem length_flatMap_of_length {β : Type} {f : β → List α} {width : Nat} {bs : List β}
    (hf : ∀ b ∈ bs, (f b).length = width) : (bs.flatMap f).length = bs.length * width := by
  rw [List.length_flatMap, List.map_congr_left hf, List.map_const', List.sum_replicate_nat]

/-- **A rectangle is as wide as its longest row**, and no row is longer. -/
theorem columns_ofRows (filler : α) (rows : List (List α)) :
    (∀ row ∈ rows, row.length ≤ (ofRows filler rows).columns) ∧
      ((ofRows filler rows).columns ≠ 0 →
        ∃ row ∈ rows, row.length = (ofRows filler rows).columns) := by
  have hcolumns : (ofRows filler rows).columns = ((rows.map List.length).max?).getD 0 := by
    show (rows.map List.length).foldl max 0 = _
    rw [List.foldl_max, Nat.zero_max]
  rw [hcolumns]
  cases hmax : (rows.map List.length).max? with
  | none =>
    obtain rfl : rows = [] := List.map_eq_nil_iff.mp (List.max?_eq_none_iff.mp hmax)
    exact ⟨List.forall_mem_nil _, fun h => absurd rfl h⟩
  | some width =>
    obtain ⟨hmem, hwide⟩ := List.max?_eq_some_iff.mp hmax
    exact ⟨List.forall_mem_map.mp hwide, fun _ => List.mem_map.mp hmem⟩

/-- **Rows of unequal length are held by their rectangle.** -/
theorem tabulates_ofRows (filler : α) (rows : List (List α)) :
    (ofRows filler rows).Tabulates filler rows := by
  obtain ⟨hwide, htight⟩ := columns_ofRows filler rows
  have hcells : (ofRows filler rows).cells = rows.flatMap fun row =>
      row ++ List.replicate ((ofRows filler rows).columns - row.length) filler := rfl
  have hrows : (ofRows filler rows).rows = rows.length := rfl
  generalize ofRows filler rows = g at hwide htight hcells hrows ⊢
  -- with its filler every row is as wide as the rectangle
  have hlength : ∀ row ∈ rows,
      (row ++ List.replicate (g.columns - row.length) filler).length = g.columns := by
    intro row hrow
    rw [List.length_append, List.length_replicate, Nat.add_sub_cancel' (hwide row hrow)]
  have hcell : ∀ (i : Nat) (row : List α), rows[i]? = some row → ∀ j < g.columns,
      g.cell? i j = (row ++ List.replicate (g.columns - row.length) filler)[j]? := by
    intro i row hrow j hj
    rw [cell?, if_pos hj, hcells, getElem?_flatMap_of_length hlength i hj, hrow, Option.bind_some]
  refine ⟨hrows, ?_, hwide, htight, fun i row hrow j hj => ?_, fun i row hrow j hle hj => ?_⟩
  · rw [hcells, length_flatMap_of_length hlength, hrows]
  · have hj' := hj.trans_le (hwide row (List.mem_of_getElem? hrow))
    rw [hcell i row hrow j hj', List.getElem?_append_left hj]
  · rw [hcell i row hrow j hj, List.getElem?_append_right hle, List.getElem?_replicate,
      if_pos (Nat.sub_lt_sub_right hle hj)]

end Grid

/-! ## Ids that fit a cell -/

namespace Operation

open Wire (Schema Shape fits_slot contentsFit_cons_iff)

/-- The id of a hit in a reply has a word of 64 bits. -/
theorem isWord_of_fits {h : Hit} (hfits : Schema.queryResult.shape.fits (.message (hitMessage h))
    = true) : isWord h.id = true := by
  obtain ⟨_, _, heq, hid, -⟩ := contentsFit_cons_iff.mp hfits
  obtain ⟨rfl, -⟩ := List.cons.inj heq
  exact hid.each _ (List.mem_singleton_self _)

variable {op : Operation} {m : Message} {rows : List (List Hit)}

/-- Operations that bring back hits have replies of one schema. -/
theorem reply_of_form (hop : op.form = .hits) : op.method.reply = Schema.topKQueryResultList := by
  cases op with
  | search s => rfl
  | searchInFiles s => rfl
  | _ => cases hop

/-- **A report of success is read as the hits that it holds**, nothing being wrong with it. -/
theorem exists_hits_of_success (hop : op.form = .hits)
    (hfits : contentsFit op.method.reply.fields m = true) (hcode : op.codeOf m = 0) :
    ∃ rows : List (List Hit),
      m.slot 1 = rows.map (fun row => .message [row.map fun h => .message (hitMessage h)]) ∧
        op.interpret (.reply m) = .succeeded (.hits rows) := by
  have hsound : op.complaints m = [] := by
    cases op with
    | search s => rfl
    | searchInFiles s => rfl
    | _ => cases hop
  have hcarries := carries_payloadOf hfits hsound
  rw [interpret_success hfits hcode, if_pos hsound]
  cases op with
  | search s => exact ⟨_, hcarries, rfl⟩
  | searchInFiles s => exact ⟨_, hcarries, rfl⟩
  | _ => cases hop

/-- **Every hit in a reply has an id that fits a cell.** -/
theorem isWord_of_slot (hfits : contentsFit Schema.topKQueryResultList.fields m = true)
    (hslot : m.slot 1 = rows.map fun row => .message [row.map fun h => .message (hitMessage h)]) :
    ∀ row ∈ rows, ∀ h ∈ row, isWord h.id = true := by
  intro row hrow h hh
  have hlists := (fits_slot hfits (i := 1) rfl).each
  rw [hslot, List.forall_mem_map] at hlists
  obtain ⟨_, _, heq, hhits, -⟩ := contentsFit_cons_iff.mp (hlists row hrow)
  obtain ⟨rfl, -⟩ := List.cons.inj heq
  exact isWord_of_fits (hhits.each _ (List.mem_map_of_mem hh))

/-- Rectangles of ids that fit their cells never fail. -/
theorem rectangles_eq_ok (hwords : ∀ row ∈ rows, ∀ h ∈ row, isWord h.id = true) :
    rectangles rows = .ok (Grid.ofRows (-1) (rows.map (·.map Hit.id)),
      Grid.ofRows missingDistance (rows.map (·.map fun h => h.distance.toBinary32))) := by
  have hnone : (rows.flatten.find? fun h => !isWord h.id) = none := by
    refine List.find?_eq_none.mpr fun h hh => ?_
    obtain ⟨row, hrow, hmem⟩ := List.mem_flatten.mp hh
    rw [hwords row hrow h hmem]
    exact Bool.false_ne_true
  rw [rectangles, hnone]

end Operation

/-! ## From a reply to rectangles -/

/-- **Hits come through as the reply holds them, and as rectangles.** -/
theorem Operation.tabulates {op : Operation} (hop : op.form = .hits) {octets : Wire.Octets}
    {message : Message} (hread : op.method.reply.decode? octets = some message)
    (hcode : op.codeOf message = 0) :
    ∃ rows : List (List Hit),
      message.slot 1 = rows.map (fun row => .message [row.map fun h => .message (hitMessage h)]) ∧
      (∀ s : Session, (Run.conclude op (.reply message) s).1 = .ok (.succeeded (.hits rows))) ∧
      (∀ (s : Session) (m : Nat), s.Reached (fun step => !step.rebindsByHand) →
        s.isConnected m = true → (s.manager m).dispatcher?.isSome = true → op.IntegersFit →
          ∀ steps, s.Undisturbed steps →
            (Run.operate m op (Step.runAll steps) (.octets octets) s).1
              = .ok (.succeeded (.hits rows))) ∧
      ∃ ids distances, rectangles rows = .ok (ids, distances) ∧
        ids.Tabulates (-1) (rows.map (·.map Hit.id)) ∧
        distances.Tabulates missingDistance
          (rows.map (·.map fun h => h.distance.toBinary32)) ∧
        missingDistance.toBinary64.isNaN = true := by
  have hfits : contentsFit op.method.reply.fields message = true :=
    Wire.Schema.fits_of_decode? hread
  obtain ⟨rows, hslot, hresult⟩ := exists_hits_of_success hop hfits hcode
  rw [reply_of_form hop] at hfits
  refine ⟨rows, hslot, fun s => ?_, fun s m hs hcon hbound hintegers steps hsteps => ?_,
    _, _, rectangles_eq_ok (isWord_of_slot hfits hslot), Grid.tabulates_ofRows _ _,
    Grid.tabulates_ofRows _ _, by decide⟩
  · rw [Run.conclude_run, hresult]
  · rw [hs.operate_octets hcon hbound hintegers hread hsteps, hresult]

namespace Operation

/-- Hits of three vectors, none for the second, with the least and the greatest id, a distance that
is no number and one that no single comes near. -/
def raggedHits : List (List Hit) :=
  [[⟨2 ^ 63 - 1, ⟨0x3FB999999999999A⟩⟩, ⟨-(2 ^ 63), .nan⟩], [], [⟨7, ⟨0x7FEFFFFFFFFFFFFF⟩⟩]]

/-- A reply with these hits that says nothing about how the call went. -/
def raggedReply : Message :=
  [[], raggedHits.map fun row => .message [row.map fun h => .message (hitMessage h)]]

/-- The hits come through, and missing ones are filled up to the longest row. -/
theorem tabulates_ragged : let op : Operation := .search ⟨"t", [], [], 2, 1⟩
    let octets := Wire.Schema.topKQueryResultList.encode raggedReply
    (op.form = .hits ∧ op.method.reply.decode? octets = some raggedReply ∧
        op.codeOf raggedReply = 0) ∧
      (∀ s, (Run.conclude op (.reply raggedReply) s).1 = .ok (.succeeded (.hits raggedHits))) ∧
      ∃ ids distances, rectangles raggedHits = .ok (ids, distances) ∧
        ids = ⟨3, 2, [2 ^ 63 - 1, -(2 ^ 63), -1, -1, 7, -1]⟩ ∧
        distances = ⟨3, 2, [⟨0x3DCCCCCD⟩, ⟨0x7FC00000⟩, ⟨0x7FC00000⟩, ⟨0x7FC00000⟩,
          ⟨0x7F800000⟩, ⟨0x7FC00000⟩]⟩ ∧
        distances.cell? 2 1 = some missingDistance := by
  intro op octets
  have hread : op.method.reply.decode? octets = some raggedReply :=
    Wire.Schema.decode?_encode (by decide) (by decide) (by decide +kernel)
  obtain ⟨rows, hslot, hrun, -, ids, distances, hok, -, hdistances, -⟩ :=
    tabulates (show op.form = .hits from rfl) hread rfl
  obtain rfl : raggedHits = rows := (replyHits_eq rfl).symm.trans (replyHits_eq hslot)
  have hcells : rectangles raggedHits = .ok (⟨3, 2, [2 ^ 63 - 1, -(2 ^ 63), -1, -1, 7, -1]⟩,
      ⟨3, 2, [⟨0x3DCCCCCD⟩, ⟨0x7FC00000⟩, ⟨0x7FC00000⟩, ⟨0x7FC00000⟩, ⟨0x7F800000⟩,
        ⟨0x7FC00000⟩]⟩) := by decide +kernel
  obtain ⟨rfl, rfl⟩ := Prod.mk.inj (Except.ok.inj (hok.symm.trans hcells))
  exact ⟨⟨rfl, hread, rfl⟩, hrun, _, _, hok, rfl, rfl,
    hdistances.filled 2 _ rfl 1 (by decide) (by decide)⟩

end Operation

end VectorLink
