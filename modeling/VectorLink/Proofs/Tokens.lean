import VectorLink.Wire.Token

/-!
# Tokens read back

A reader is handed the octets of a whole message and does not know where a token ends. So each
reader is asked to give back what was written and to leave whatever follows it untouched, and these
statements add up: from the octets of a number to those of a token, and from there to all items of a
message.

## What can be written

A number is read in at most ten groups of seven bits and cut to 64, and a run has its length before
it. What is past 64 bits is therefore not read back, and `Content.IsWritable` says what is not past
them. An item moreover needs a number that a tag has room for.
-/

namespace VectorLink.Wire

/-! ## Numbers -/

/-- **The groups of a number are read back**, if the reader allows as many as the number needs. -/
theorem readVarintWithin_varintWithin {allowed groups n : Nat} (hn : n < 2 ^ (7 * (allowed + 1)))
    (hle : allowed ≤ groups) (rest : Octets) :
    readVarintWithin (allowed + 1) (varintWithin (groups + 1) n ++ rest) = some (n, rest) := by
  induction allowed generalizing groups n with
  | zero =>
    have hlt : n < 0x80 := hn
    have hb : (UInt8.ofNat n).toNat = n := by rw [UInt8.toNat_ofNat']; omega
    have hlast : UInt8.ofNat n < 0x80 := by rw [UInt8.lt_iff_toNat_lt, hb]; exact hlt
    rw [varintWithin, if_pos hlt, List.singleton_append, readVarintWithin, if_pos hlast, hb]
  | succ allowed ih =>
    obtain ⟨groups, rfl⟩ : ∃ g, groups = g + 1 := ⟨groups - 1, by omega⟩
    by_cases hlt : n < 0x80
    · have hb : (UInt8.ofNat n).toNat = n := by rw [UInt8.toNat_ofNat']; omega
      have hlast : UInt8.ofNat n < 0x80 := by rw [UInt8.lt_iff_toNat_lt, hb]; exact hlt
      rw [varintWithin, if_pos hlt, List.singleton_append, readVarintWithin, if_pos hlast, hb]
    · -- the low group is marked, and the others are those of the quotient
      have hb : (UInt8.ofNat (n % 0x80 + 0x80)).toNat = n % 0x80 + 0x80 := by
        rw [UInt8.toNat_ofNat']
        omega
      have hmarked : ¬ UInt8.ofNat (n % 0x80 + 0x80) < 0x80 := by
        rw [UInt8.lt_iff_toNat_lt, hb]
        exact Nat.not_lt.mpr (Nat.le_add_left _ _)
      have hrest : n / 0x80 < 2 ^ (7 * (allowed + 1)) := by
        rw [Nat.div_lt_iff_lt_mul (by decide)]
        calc n < 2 ^ (7 * (allowed + 1 + 1)) := hn
          _ = 2 ^ (7 * (allowed + 1)) * 0x80 := by rw [Nat.mul_succ 7 (allowed + 1), Nat.pow_add]
      have hsum : (n % 0x80 + 0x80) % 0x80 + 0x80 * (n / 0x80) = n := by omega
      rw [varintWithin, if_neg hlt, List.cons_append, readVarintWithin, if_neg hmarked,
        ih hrest (Nat.le_of_succ_le_succ hle), Option.map_some, hb, hsum]

/-- **A number of 64 bits is read back.** -/
theorem readVarint_varint {n : Nat} (hn : n < 2 ^ 64) (rest : Octets) :
    readVarint (varint n ++ rest) = some (n, rest) := by
  have hlt : n < 2 ^ (7 * (9 + 1)) := Nat.lt_trans hn (by decide)
  rw [readVarint, varint, readVarintWithin_varintWithin hlt (Nat.le_refl 9), Option.map_some,
    Nat.mod_eq_of_lt hn]

theorem length_varintWithin_pos (groups n : Nat) : 0 < (varintWithin (groups + 1) n).length := by
  rw [varintWithin]
  split <;> exact Nat.succ_pos _

/-- **A number of some octets is read back**, the low octet first. -/
theorem readLittleEndian_littleEndian (count : Nat) {n : Nat} (hn : n < 0x100 ^ count)
    (rest : Octets) :
    readLittleEndian count (littleEndian count n ++ rest) = some (n, rest) := by
  induction count generalizing n with
  | zero =>
    obtain rfl : n = 0 := Nat.lt_one_iff.mp hn
    rfl
  | succ count ih =>
    have hb : (UInt8.ofNat (n % 0x100)).toNat = n % 0x100 := by rw [UInt8.toNat_ofNat']; omega
    have hrest : n / 0x100 < 0x100 ^ count := by
      rw [Nat.div_lt_iff_lt_mul (by decide), ← Nat.pow_succ]
      exact hn
    rw [littleEndian, List.cons_append, readLittleEndian, ih hrest, Option.map_some, hb,
      Nat.mod_add_div]

theorem length_littleEndian (count n : Nat) : (littleEndian count n).length = count := by
  induction count generalizing n with
  | zero => rfl
  | succ count ih => rw [littleEndian, List.length_cons, ih]

/-! ## Contents -/

/-- **Whether a content can be written** so that it is read back. -/
def Content.IsWritable : Content → Prop
  | .number n => n < 2 ^ 64
  | .eight n => n < 2 ^ 64
  | .run bs => bs.length < 2 ^ 64
  | .four n => n < 2 ^ 32

/-- **A run is read back.** -/
theorem readRun_delimited {bs : Octets} (hbs : bs.length < 2 ^ 64) (rest : Octets) :
    readRun (delimited bs ++ rest) = some (bs, rest) := by
  have hall : ¬ (bs ++ rest).length < bs.length := by
    rw [List.length_append]
    exact Nat.not_lt.mpr (Nat.le_add_right _ _)
  rw [readRun, delimited, List.append_assoc, readVarint_varint hbs]
  show (if (bs ++ rest).length < bs.length then none
    else some ((bs ++ rest).take bs.length, (bs ++ rest).drop bs.length)) = _
  rw [if_neg hall, List.take_left, List.drop_left]

/-- **A content is read back** by the code that its tag announces. -/
theorem readContent_write {c : Content} (hc : c.IsWritable) (number : Nat) (rest : Octets) :
    readContent number c.code (c.write ++ rest) = some (.item number c, rest) := by
  cases c with
  | number n => rw [Content.code, Content.write, readContent, readVarint_varint hc, Option.map_some]
  | eight n =>
    rw [Content.code, Content.write, readContent, readLittleEndian_littleEndian 8 hc,
      Option.map_some]
  | run bs => rw [Content.code, Content.write, readContent, readRun_delimited hc, Option.map_some]
  | four n =>
    rw [Content.code, Content.write, readContent, readLittleEndian_littleEndian 4 hc,
      Option.map_some]

theorem Content.code_lt (c : Content) : c.code < 8 := by
  cases c <;> simp [code]

/-- A run is no longer than the octets that it is written in. -/
theorem Content.length_le_write (bs : Octets) : bs.length ≤ (Content.run bs).write.length := by
  rw [write, delimited, List.length_append]
  exact Nat.le_add_left _ _

/-! ## Many in a row -/

section Many

variable {α β : Type} {write : α → Octets} {value : α → β} {xs : List α}

/-- What is written takes at least one octet each. -/
theorem length_le_flatMap (hpos : ∀ x ∈ xs, 0 < (write x).length) :
    xs.length ≤ (xs.flatMap write).length := by
  induction xs with
  | nil => exact Nat.zero_le _
  | cons x xs ih =>
    obtain ⟨hx, hxs⟩ := List.forall_mem_cons.mp hpos
    rw [List.flatMap_cons, List.length_append, List.length_cons, Nat.add_comm]
    exact Nat.add_le_add hx (ih hxs)

/-- **Many in a row are read back** if each is, whatever follows it. Readers of many differ in what
they read one of with; each of them reads until nothing is left, as often as it is allowed. -/
theorem many_flatMap (read : Octets → Option (β × Octets))
    {many : Nat → Octets → Option (List β)} (hnil : ∀ allowed, many allowed [] = some [])
    (hcons : ∀ allowed b bs, many (allowed + 1) (b :: bs) = do
      let (y, rest) ← read (b :: bs)
      return y :: (← many allowed rest))
    (hread : ∀ x ∈ xs, ∀ rest, read (write x ++ rest) = some (value x, rest))
    (hpos : ∀ x ∈ xs, 0 < (write x).length) {allowed : Nat} (hle : xs.length ≤ allowed) :
    many allowed (xs.flatMap write) = some (xs.map value) := by
  induction xs generalizing allowed with
  | nil => exact hnil allowed
  | cons x xs ih =>
    obtain ⟨allowed, rfl⟩ : ∃ k, allowed = k + 1 :=
      Nat.exists_eq_succ_of_ne_zero (Nat.ne_of_gt (Nat.lt_of_lt_of_le (Nat.succ_pos _) hle))
    obtain ⟨hx, hxs⟩ := List.forall_mem_cons.mp hread
    obtain ⟨hxpos, hxspos⟩ := List.forall_mem_cons.mp hpos
    obtain ⟨b, bs, hbs⟩ := List.exists_cons_of_ne_nil (List.ne_nil_of_length_pos hxpos)
    have hfirst := hx (xs.flatMap write)
    rw [List.flatMap_cons]
    rw [hbs, List.cons_append] at hfirst ⊢
    rw [hcons, hfirst]
    show (many allowed (xs.flatMap write)).bind _ = _
    rw [ih hxs hxspos (Nat.le_of_succ_le_succ hle)]
    rfl

end Many

/-! ## Items -/

/-- Whether a tag has room for the number of a field. -/
def IsFieldNumber (number : Nat) : Prop := 0 < number ∧ number < 2 ^ 29

/-- **A token is read back.** -/
theorem readToken_writeItem {number : Nat} (hnumber : IsFieldNumber number) {c : Content}
    (hc : c.IsWritable) (rest : Octets) :
    readToken (writeItem number c ++ rest) = some (.item number c, rest) := by
  have hcode := c.code_lt
  have htag : number * 8 + c.code < 2 ^ 32 := by
    have := hnumber.2
    omega
  have hgroups : number * 8 + c.code < 2 ^ (7 * (4 + 1)) := Nat.lt_trans htag (by decide)
  have hnum : (number * 8 + c.code) / 8 = number := by omega
  have hrem : (number * 8 + c.code) % 8 = c.code := by omega
  have hread : readTag (writeItem number c ++ rest)
      = some (number * 8 + c.code, c.write ++ rest) := by
    rw [readTag, writeItem, tag, varint, List.append_assoc,
      readVarintWithin_varintWithin hgroups (by decide), Option.filter_some,
      if_pos (decide_eq_true htag)]
  rw [readToken, hread]
  show (if (number * 8 + c.code) / 8 = 0 then none
    else readContent ((number * 8 + c.code) / 8) ((number * 8 + c.code) % 8) (c.write ++ rest)) = _
  rw [hnum, hrem, if_neg (Nat.ne_of_gt hnumber.1), readContent_write hc]

theorem length_writeItem_pos (number : Nat) (c : Content) : 0 < (writeItem number c).length := by
  rw [writeItem, List.length_append]
  exact Nat.add_pos_left (length_varintWithin_pos _ _) _

/-- The octets of items. -/
def writeItems (items : List Item) : Octets := items.flatMap fun i => writeItem i.number i.content

/-- Whether an item can be written so that it is read back. -/
def Item.IsWritable (i : Item) : Prop := IsFieldNumber i.number ∧ i.content.IsWritable

/-- The octets of a content are among those of its item, and those among the octets of all. -/
theorem length_write_le_writeItems {items : List Item} {i : Item} (hi : i ∈ items) :
    i.content.write.length ≤ (writeItems items).length := by
  induction items with
  | nil => cases hi
  | cons j items ih =>
    rw [writeItems, List.flatMap_cons, List.length_append]
    obtain rfl | hi := List.mem_cons.mp hi
    · rw [writeItem, List.length_append]
      omega
    · exact Nat.le_trans (ih hi) (Nat.le_add_left _ _)

/-- **Tokens are read back.** -/
theorem readTokens_writeItems {items : List Item} (hitems : ∀ i ∈ items, i.IsWritable) :
    readTokens (writeItems items) = some (items.map fun i => .item i.number i.content) := by
  have hpos : ∀ i ∈ items, 0 < (writeItem i.number i.content).length :=
    fun i _ => length_writeItem_pos i.number i.content
  refine many_flatMap readToken (fun allowed => ?_) (fun allowed b bs => ?_)
    (fun i hi => readToken_writeItem (hitems i hi).1 (hitems i hi).2) hpos
    (length_le_flatMap hpos)
  · cases allowed <;> rfl
  · rw [readTokensWithin]
    exact List.cons_ne_nil b bs

/-- Without groups all items count. -/
theorem outsideGroups_items (allowed : Nat) (items : List Item) :
    outsideGroups allowed [] (items.map fun i => .item i.number i.content) = some items := by
  induction items with
  | nil => rw [List.map_nil, outsideGroups]
  | cons i items ih => rw [List.map_cons, outsideGroups, ih, Option.map_some]

/-- **Items are read back**, wherever they stand. -/
theorem readItems_writeItems (depth : Nat) {items : List Item}
    (hitems : ∀ i ∈ items, i.IsWritable) : readItems depth (writeItems items) = some items := by
  rw [readItems, readTokens_writeItems hitems]
  exact outsideGroups_items _ items

end VectorLink.Wire
