import Mathlib.Data.Set.List
import Mathlib.Data.List.Basic
import VectorLink.Proofs.Tokens
import VectorLink.Wire.Reply

/-!
# Messages read back

The writer goes over the fields in order and puts their items one after another. The reader goes
over the fields too, but looks for the items of each among all items of the message, and it joins
what belongs to one field however it was cut. The two do not meet item by item. They meet in the
items *at a number*: `contentsAt` gives of the items of a message those of one field, as they were
written, and that is all a field is read from.

## Why the octets of a message are counted

The length of a run stands before it as a number of 64 bits. A message that takes `2 ^ 64` octets or
more may hold a run whose length does not fit there; no other message does. So what is read back is
every message of fewer octets, however its fields are filled.
-/

namespace VectorLink.Wire

/-! ## Fields and what fits them -/

/-- Whether a field of a shape may have as many values. -/
def Shape.admitsCount : (repeated : Bool) → Shape → Nat → Bool
  | true, _, _ => true
  | false, .message _ _, count => count ≤ 1
  | false, _, count => count = 1

/-- **Values fit a field**: they are as many as it may have, and each is of its shape. -/
structure Shape.FitsField (shape : Shape) (repeated : Bool) (values : List Datum) : Prop where
  count : shape.admitsCount repeated values.length = true
  each : ∀ v ∈ values, shape.fits v = true

theorem contentsFit_cons (name : String) (repeated : Bool) (shape : Shape) (fields : List Field)
    (values : List Datum) (contents : Message) :
    contentsFit (⟨name, repeated, shape⟩ :: fields) (values :: contents) = true
      ↔ shape.FitsField repeated values ∧ contentsFit fields contents = true := by
  have hcount : contentsFit (⟨name, repeated, shape⟩ :: fields) (values :: contents)
      = (shape.admitsCount repeated values.length && values.all (fun v => shape.fits v)
        && contentsFit fields contents) := by
    cases repeated <;> cases shape <;> rfl
  rw [hcount, Bool.and_eq_true, Bool.and_eq_true, List.all_eq_true]
  exact and_congr_left' ⟨fun h => ⟨h.1, h.2⟩, fun h => ⟨h.count, h.each⟩⟩

theorem contentsFit_cons_iff {name : String} {repeated : Bool} {shape : Shape}
    {fields : List Field} {m : Message} :
    contentsFit (⟨name, repeated, shape⟩ :: fields) m = true
      ↔ ∃ values contents, m = values :: contents ∧ shape.FitsField repeated values
        ∧ contentsFit fields contents = true := by
  cases m with
  | nil => exact iff_of_false nofun nofun
  | cons values contents =>
    rw [contentsFit_cons]
    constructor
    · rintro ⟨hvalues, hcontents⟩
      exact ⟨values, contents, rfl, hvalues, hcontents⟩
    · rintro ⟨_, _, heq, hvalues, hcontents⟩
      cases heq
      exact ⟨hvalues, hcontents⟩

theorem contentsFit_nil_iff {m : Message} : contentsFit [] m = true ↔ m = [] := by
  cases m <;> simp [contentsFit]

/-- **The values at the place of a field fit it.** -/
theorem fits_slot {fields : List Field} {m : Message} (hfits : contentsFit fields m = true)
    {i : Nat} {field : Field} (hfield : fields[i]? = some field) :
    field.shape.FitsField field.repeated (m.slot i) := by
  induction fields generalizing m i with
  | nil => cases hfield
  | cons first fields ih =>
    obtain ⟨values, contents, rfl, hvalues, hcontents⟩ := contentsFit_cons_iff.mp hfits
    cases i with
    | zero =>
      obtain rfl : first = field := Option.some.inj hfield
      exact hvalues
    | succ i => exact ih hcontents hfield

/-- The values of a field are made from what the values of its shape are made from. -/
theorem Shape.FitsField.exists_map {α : Type} {shape : Shape} {repeated : Bool}
    {values : List Datum} {f : α → Datum} (hfits : shape.FitsField repeated values)
    (hf : ∀ v, shape.fits v = true → ∃ a, f a = v) : ∃ as : List α, values = as.map f := by
  obtain ⟨as, has⟩ : values ∈ Set.range (List.map f) := by
    rw [Set.range_list_map]
    exact fun v hv => hf v (hfits.each v hv)
  exact ⟨as, has.symm⟩

/-- A singular field that is not a message has one value. -/
theorem Shape.FitsField.exists_one {α : Type} {shape : Shape} {values : List Datum}
    {f : α → Datum} (hfits : shape.FitsField false values)
    (hcount : ∀ count, shape.admitsCount false count = true → count = 1)
    (hf : ∀ v, shape.fits v = true → ∃ a, f a = v) : ∃ a, values = [f a] := by
  obtain ⟨v, rfl⟩ := List.length_eq_one_iff.mp (hcount _ hfits.count)
  obtain ⟨a, rfl⟩ := hf v (hfits.each v (List.mem_singleton_self v))
  exact ⟨a, rfl⟩

theorem Shape.exists_text : ∀ v, Shape.text.fits v = true → ∃ s, Datum.text s = v
  | .text s, _ => ⟨s, rfl⟩

theorem Shape.exists_bool : ∀ v, Shape.bool.fits v = true → ∃ b, Datum.bool b = v
  | .bool b, _ => ⟨b, rfl⟩

theorem Shape.exists_int32 : ∀ v, Shape.int32.fits v = true → ∃ n, Datum.int n = v
  | .int n, _ => ⟨n, rfl⟩

theorem Shape.exists_int64 : ∀ v, Shape.int64.fits v = true → ∃ n, Datum.int n = v
  | .int n, _ => ⟨n, rfl⟩

theorem Shape.exists_double : ∀ v, Shape.double.fits v = true → ∃ x, Datum.double x = v
  | .double x, _ => ⟨x, rfl⟩

theorem Shape.exists_message {name : String} {fields : List Field} :
    ∀ v, (Shape.message name fields).fits v = true → ∃ m, Datum.message m = v
  | .message m, _ => ⟨m, rfl⟩

theorem Shape.admitsCount_one (shape : Shape) : shape.admitsCount false 1 = true := by
  cases shape <;> rfl

/-- The last of some values, or the default, fits a singular field. -/
theorem Shape.FitsField.lastOr {shape : Shape} {default : Datum} {values : List Datum}
    (hdefault : shape.fits default = true) (hvalues : ∀ v ∈ values, shape.fits v = true) :
    shape.FitsField false (lastOr default values) where
  count := shape.admitsCount_one
  each := by
    intro v hv
    obtain rfl := List.mem_singleton.mp hv
    cases hlast : values.getLast? with
    | none => exact hdefault
    | some w => exact hvalues w (List.mem_of_getLast? hlast)

/-! ## Fields read by their kind -/

theorem textsOf_map (ss : List String) : Datum.textsOf (ss.map .text) = ss := by
  rw [Datum.textsOf, List.filterMap_map]
  exact (congrFun List.filterMap_eq_map' ss).trans (List.map_id ss)

theorem intsOf_map (ns : List Int) : Datum.intsOf (ns.map .int) = ns := by
  rw [Datum.intsOf, List.filterMap_map]
  exact (congrFun List.filterMap_eq_map' ns).trans (List.map_id ns)

theorem messagesOf_map {α : Type} (f : α → Message) (xs : List α) :
    Datum.messagesOf (xs.map fun x => .message (f x)) = xs.map f := by
  rw [Datum.messagesOf, List.filterMap_map]
  exact congrFun List.filterMap_eq_map' xs

/-! ## Numbered fields -/

mutual

/-- Whether a tag has room for the numbers of all fields of a shape, at every depth. -/
def Shape.isNumbered : Shape → Bool
  | .message _ fields => fields.length < 2 ^ 29 - 1 && fieldsNumbered fields
  | _ => true

/-- Whether a tag has room for the numbers of all fields inside some fields. -/
def fieldsNumbered : List Field → Bool
  | [] => true
  | ⟨_, _, shape⟩ :: fields => shape.isNumbered && fieldsNumbered fields

end

theorem Schema.isNumbered_of_mem_all {s : Schema} (hs : s ∈ Schema.all) :
    s.shape.isNumbered = true :=
  List.all_eq_true.mp (by decide : (Schema.all.all fun s => s.shape.isNumbered) = true) s hs

/-! ## Words -/

theorem wordOfInt_lt (n : Int) : wordOfInt n < 2 ^ 64 := by
  unfold wordOfInt
  omega

theorem intOfWord32_wordOfInt {n : Int} (hn : isInt32 n = true) :
    intOfWord32 (wordOfInt n) = n := by
  simp only [isInt32, Bool.and_eq_true, decide_eq_true_eq] at hn
  unfold intOfWord32 wordOfInt
  rw [Int.bmod_def]
  omega

theorem intOfWord64_wordOfInt {n : Int} (hn : isInt64 n = true) :
    intOfWord64 (wordOfInt n) = n := by
  simp only [isInt64, Bool.and_eq_true, decide_eq_true_eq] at hn
  unfold intOfWord64 wordOfInt
  rw [Int.bmod_def]
  omega

theorem isInt32_intOfWord32 (w : Nat) : isInt32 (intOfWord32 w) = true := by
  simp only [isInt32, Bool.and_eq_true, decide_eq_true_eq]
  unfold intOfWord32
  rw [Int.bmod_def]
  omega

theorem isInt64_intOfWord64 (w : Nat) : isInt64 (intOfWord64 w) = true := by
  simp only [isInt64, Bool.and_eq_true, decide_eq_true_eq]
  unfold intOfWord64
  rw [Int.bmod_def]
  omega

/-- The word that a value of a number-like shape is written as. -/
def Datum.word : Datum → Nat
  | .bool b => if b then 1 else 0
  | .int n => wordOfInt n
  | .single x => x.bits.toNat
  | .double x => x.bits.toNat
  | _ => 0

namespace Width

/-- The content of a word of a width. -/
def content : Width → Nat → Content
  | .number => .number
  | .four => .four
  | .eight => .eight

/-- What the words of a width are below. -/
def bound : Width → Nat
  | .number => 2 ^ 64
  | .four => 2 ^ 32
  | .eight => 2 ^ 64

theorem word?_content (w : Width) (n : Nat) : w.word? (w.content n) = some n := by
  cases w <;> rfl

theorem isWritable_content {w : Width} {n : Nat} (hn : n < w.bound) : (w.content n).IsWritable := by
  cases w <;> exact hn

theorem read_content {w : Width} {n : Nat} (hn : n < w.bound) (rest : Octets) :
    w.read ((w.content n).write ++ rest) = some (n, rest) := by
  cases w with
  | number => exact readVarint_varint hn rest
  | four => exact readLittleEndian_littleEndian 4 hn rest
  | eight => exact readLittleEndian_littleEndian 8 hn rest

theorem length_content_pos (w : Width) (n : Nat) : 0 < (w.content n).write.length := by
  cases w with
  | number => exact length_varintWithin_pos 9 n
  | four => exact Nat.lt_of_lt_of_eq (by decide) (length_littleEndian 4 n).symm
  | eight => exact Nat.lt_of_lt_of_eq (by decide) (length_littleEndian 8 n).symm

/-- **Packed words are read back.** -/
theorem readPacked_content {w : Width} {words : List Nat} (hwords : ∀ n ∈ words, n < w.bound) :
    readPacked w.read (words.flatMap fun n => (w.content n).write) = some words := by
  have hpos : ∀ n ∈ words, 0 < (w.content n).write.length := fun n _ => w.length_content_pos n
  refine (many_flatMap w.read (fun allowed => ?_) (fun allowed b bs => ?_)
    (fun n hn => read_content (hwords n hn)) hpos (length_le_flatMap hpos)).trans
    (congrArg some (List.map_id words))
  · cases allowed <;> rfl
  · rw [readPackedWithin]
    exact List.cons_ne_nil b bs

end Width

/-- **How a number-like shape stands on the wire**: its words have a width, every word means a value
of the shape, and a value is written as a word that means it. -/
structure Shape.Words (shape : Shape) where
  width : Width
  default : Datum
  value : Nat → Datum
  packed : shape.isPacked = true
  reads : ∀ depth repeated cs,
    shape.read depth repeated cs = readWords width repeated default value cs
  fits_value : ∀ n, shape.fits (value n) = true
  fits_default : shape.fits default = true
  word_lt : ∀ v, shape.fits v = true → v.word < width.bound
  content_eq : ∀ v, shape.fits v = true → shape.content v = width.content v.word
  value_word : ∀ v, shape.fits v = true → value v.word = v
  default_eq : ∀ v, shape.fits v = true → v.isDefault = true → v = default

namespace Shape.Words

/-- Truth values. -/
def ofBool : Words .bool where
  width := .number
  default := .bool false
  value n := .bool (n != 0)
  packed := rfl
  reads _ _ _ := rfl
  fits_value _ := rfl
  fits_default := rfl
  word_lt
    | .bool true, _ => by decide
    | .bool false, _ => by decide
  content_eq
    | .bool _, _ => rfl
  value_word
    | .bool true, _ => rfl
    | .bool false, _ => rfl
  default_eq
    | .bool false, _, _ => rfl

/-- Integers of 32 bits. -/
def ofInt32 : Words .int32 where
  width := .number
  default := .int 0
  value n := .int (intOfWord32 n)
  packed := rfl
  reads _ _ _ := rfl
  fits_value := isInt32_intOfWord32
  fits_default := rfl
  word_lt
    | .int n, _ => wordOfInt_lt n
  content_eq
    | .int _, _ => rfl
  value_word
    | .int _, h => congrArg Datum.int (intOfWord32_wordOfInt h)
  default_eq
    | .int _, _, h => congrArg Datum.int (of_decide_eq_true h)

/-- Numbers of the enumeration of outcomes, written like integers of 32 bits. -/
def ofCode : Words .code where
  width := .number
  default := .int 0
  value n := .int (intOfWord32 n)
  packed := rfl
  reads _ _ _ := rfl
  fits_value := isInt32_intOfWord32
  fits_default := rfl
  word_lt
    | .int n, _ => wordOfInt_lt n
  content_eq
    | .int _, _ => rfl
  value_word
    | .int _, h => congrArg Datum.int (intOfWord32_wordOfInt h)
  default_eq
    | .int _, _, h => congrArg Datum.int (of_decide_eq_true h)

/-- Integers of 64 bits. -/
def ofInt64 : Words .int64 where
  width := .number
  default := .int 0
  value n := .int (intOfWord64 n)
  packed := rfl
  reads _ _ _ := rfl
  fits_value := isInt64_intOfWord64
  fits_default := rfl
  word_lt
    | .int n, _ => wordOfInt_lt n
  content_eq
    | .int _, _ => rfl
  value_word
    | .int _, h => congrArg Datum.int (intOfWord64_wordOfInt h)
  default_eq
    | .int _, _, h => congrArg Datum.int (of_decide_eq_true h)

/-- Single precision numbers. -/
def ofSingle : Words .single where
  width := .four
  default := .single ⟨0⟩
  value n := .single ⟨UInt32.ofNat n⟩
  packed := rfl
  reads _ _ _ := rfl
  fits_value _ := rfl
  fits_default := rfl
  word_lt
    | .single x, _ => x.bits.toNat_lt
  content_eq
    | .single _, _ => rfl
  value_word
    | .single x, _ => congrArg (fun w => Datum.single ⟨w⟩) (UInt32.ofNat_toNat (x := x.bits))
  default_eq
    | .single _, _, h => congrArg (fun w => Datum.single ⟨w⟩) (of_decide_eq_true h)

/-- Double precision numbers. -/
def ofDouble : Words .double where
  width := .eight
  default := .double ⟨0⟩
  value n := .double ⟨UInt64.ofNat n⟩
  packed := rfl
  reads _ _ _ := rfl
  fits_value _ := rfl
  fits_default := rfl
  word_lt
    | .double x, _ => x.bits.toNat_lt
  content_eq
    | .double _, _ => rfl
  value_word
    | .double x, _ => congrArg (fun w => Datum.double ⟨w⟩) (UInt64.ofNat_toNat (x := x.bits))
  default_eq
    | .double _, _, h => congrArg (fun w => Datum.double ⟨w⟩) (of_decide_eq_true h)

variable {shape : Shape} {repeated : Bool} {values : List Datum}

/-- A singular field that is not a message has one value. -/
theorem count_eq_one (ws : shape.Words) {count : Nat}
    (h : shape.admitsCount false count = true) : count = 1 := by
  have hpacked := ws.packed
  cases shape with
  | text => cases hpacked
  | message name fields => cases hpacked
  | _ => exact of_decide_eq_true h

/-- **The values of a number-like field are read back** from their items. -/
theorem read_itemsOf (ws : shape.Words) (depth : Nat) (hfits : shape.FitsField repeated values) :
    shape.read depth repeated (itemsOf repeated shape.isPacked values fun v => shape.content v)
      = some values := by
  rw [ws.reads, ws.packed, readWords]
  cases repeated with
  | true =>
    have hvalues : (values.map Datum.word).map ws.value = values := by
      rw [List.map_map]
      exact (List.map_congr_left fun v hv => ws.value_word v (hfits.each v hv)).trans
        (List.map_id values)
    have hwords : ∀ n ∈ values.map Datum.word, n < ws.width.bound :=
      List.forall_mem_map.mpr fun v hv => ws.word_lt v (hfits.each v hv)
    have hrun : (values.flatMap fun v => (shape.content v).write)
        = (values.map Datum.word).flatMap fun n => (ws.width.content n).write := by
      rw [List.flatMap_map]
      exact List.flatMap_congr fun v hv =>
        congrArg Content.write (ws.content_eq v (hfits.each v hv))
    rw [if_pos rfl, itemsOf, if_pos rfl, if_pos rfl]
    cases values with
    | nil => rfl
    | cons v values =>
      rw [List.isEmpty_cons, if_neg Bool.false_ne_true, Width.words, hrun,
        Width.readPacked_content hwords]
      show some (((v :: values).map Datum.word ++ []).map ws.value) = _
      rw [List.append_nil, hvalues]
  | false =>
    obtain ⟨v, rfl⟩ := List.length_eq_one_iff.mp (ws.count_eq_one hfits.count)
    have hv := hfits.each v (List.mem_singleton_self v)
    rw [if_neg Bool.false_ne_true, itemsOf, if_neg Bool.false_ne_true]
    by_cases hdefault : v.isDefault = true
    · rw [List.filter_singleton, hdefault, ws.default_eq v hv hdefault]
      rfl
    · rw [List.filter_singleton, Bool.eq_false_iff.mpr hdefault]
      show some (lastOr ws.default
        (([shape.content v].filterMap ws.width.word?).map ws.value)) = _
      rw [ws.content_eq v hv, List.filterMap_cons_some (ws.width.word?_content v.word)]
      exact congrArg (fun v => some [v]) (ws.value_word v hv)

/-- What is read of a number-like field fits it. -/
theorem fits_of_read (ws : shape.Words) {depth : Nat} {cs : List Content}
    (h : shape.read depth repeated cs = some values) : shape.FitsField repeated values := by
  rw [ws.reads, readWords] at h
  cases repeated with
  | true =>
    obtain ⟨words, -, rfl⟩ := Option.map_eq_some_iff.mp h
    exact ⟨rfl, List.forall_mem_map.mpr fun n _ => ws.fits_value n⟩
  | false =>
    obtain rfl := Option.some.inj h
    exact .lastOr ws.fits_default (List.forall_mem_map.mpr fun n _ => ws.fits_value n)

end Shape.Words

/-! ## Texts -/

theorem textOfOctets?_textOctets (s : String) : textOfOctets? (textOctets s) = some s := by
  show String.fromUTF8? s.toByteArray = some s
  exact dif_pos s.isValidUTF8

theorem runs_map_run {α : Type} (octets : α → Octets) (xs : List α) :
    runs (xs.map fun x => .run (octets x)) = xs.map octets := by
  rw [runs, List.filterMap_map]
  exact congrFun List.filterMap_eq_map' xs

/-- Many that are read one by one are read all. -/
theorem mapM_map_some {α β γ : Type} {f : β → Option γ} {g : α → β} {h : α → γ} {xs : List α}
    (hread : ∀ x ∈ xs, f (g x) = some (h x)) : (xs.map g).mapM f = some (xs.map h) := by
  induction xs with
  | nil => rfl
  | cons x xs ih =>
    obtain ⟨hx, hxs⟩ := List.forall_mem_cons.mp hread
    rw [List.map_cons, List.mapM_cons, hx, ih hxs]
    rfl

theorem forall_of_mapM_some {α β : Type} {f : α → Option β} {P : β → Prop} {xs : List α}
    {ys : List β} (hP : ∀ x y, f x = some y → P y) (h : xs.mapM f = some ys) : ∀ y ∈ ys, P y := by
  induction xs generalizing ys with
  | nil =>
    obtain rfl := Option.some.inj h
    exact List.forall_mem_nil P
  | cons x xs ih =>
    rw [List.mapM_cons] at h
    obtain ⟨y, hy, h⟩ := Option.bind_eq_some_iff.mp h
    obtain ⟨zs, hzs, h⟩ := Option.bind_eq_some_iff.mp h
    obtain rfl := Option.some.inj h
    exact List.forall_mem_cons.mpr ⟨hP x y hy, ih hzs⟩

namespace Shape

variable {repeated : Bool} {values : List Datum}

/-- **The texts of a field are read back** from their items. -/
theorem read_text (depth : Nat) (hfits : Shape.text.FitsField repeated values) :
    Shape.text.read depth repeated (itemsOf repeated false values fun v => Shape.text.content v)
      = some values := by
  obtain ⟨texts, rfl⟩ := hfits.exists_map Shape.exists_text
  have hread : ∀ texts : List String,
      (runs ((texts.map Datum.text).map fun v => Shape.text.content v)).mapM
        (fun bs => (textOfOctets? bs).map Datum.text) = some (texts.map Datum.text) := by
    intro texts
    rw [List.map_map]
    show (runs (texts.map fun s => .run (textOctets s))).mapM _ = _
    rw [runs_map_run]
    exact mapM_map_some fun s _ => congrArg (Option.map Datum.text) (textOfOctets?_textOctets s)
  rw [Shape.read]
  cases repeated with
  | true =>
    rw [itemsOf, if_pos rfl, if_neg Bool.false_ne_true, hread]
    rfl
  | false =>
    have hcount : (texts.map Datum.text).length = 1 := of_decide_eq_true hfits.count
    rw [List.length_map] at hcount
    obtain ⟨s, rfl⟩ := List.length_eq_one_iff.mp hcount
    rw [itemsOf, if_neg Bool.false_ne_true]
    by_cases hempty : s.isEmpty = true
    · -- nothing is written, and the reader puts the empty text
      obtain rfl := String.isEmpty_iff.mp hempty
      rfl
    · rw [List.map_singleton, List.filter_singleton, Datum.isDefault,
        Bool.eq_false_iff.mpr hempty]
      show ((runs (([s].map Datum.text).map fun v => Shape.text.content v)).mapM
        (fun bs => (textOfOctets? bs).map Datum.text)).bind _ = _
      rw [hread]
      rfl

/-- What is read of a field of texts fits it. -/
theorem fits_of_read_text {depth : Nat} {cs : List Content}
    (h : Shape.text.read depth repeated cs = some values) :
    Shape.text.FitsField repeated values := by
  rw [Shape.read] at h
  obtain ⟨texts, htexts, h⟩ := Option.bind_eq_some_iff.mp h
  have hfits : ∀ v ∈ texts, Shape.text.fits v = true :=
    forall_of_mapM_some (fun bs v hv => by
      obtain ⟨s, -, rfl⟩ := Option.map_eq_some_iff.mp hv
      rfl) htexts
  obtain rfl := Option.some.inj h
  cases repeated with
  | true => exact ⟨rfl, hfits⟩
  | false => exact .lastOr rfl hfits

end Shape

/-! ## The items of a message -/

/-- **The items of the fields from a number on**, as the writer puts them. -/
def messageItems : Nat → List Field → Message → List Item
  | number, ⟨_, repeated, shape⟩ :: fields, values :: contents =>
    (itemsOf repeated shape.isPacked values fun v => shape.content v).map (Item.mk number)
      ++ messageItems (number + 1) fields contents
  | _, _, _ => []

theorem writeFields_eq_writeItems (number : Nat) (fields : List Field) (m : Message) :
    writeFields number fields m = writeItems (messageItems number fields m) := by
  induction fields generalizing number m with
  | nil => cases m <;> rfl
  | cons field fields ih =>
    cases m with
    | nil => rfl
    | cons values contents =>
      rw [writeFields, messageItems, ih, writeItems, writeItems, List.flatMap_append,
        List.flatMap_map]

/-- A run in few octets can be written. -/
theorem Content.isWritable_run {bs : Octets} (hlen : (Content.run bs).write.length < 2 ^ 64) :
    (Content.run bs).IsWritable :=
  Nat.lt_of_le_of_lt (Content.length_le_write bs) hlen

/-- A value that takes few octets can be written. -/
theorem Shape.isWritable_content {shape : Shape} {v : Datum} (hfits : shape.fits v = true)
    (hlen : (shape.content v).write.length < 2 ^ 64) : (shape.content v).IsWritable := by
  have hwords : ∀ ws : shape.Words, (shape.content v).IsWritable := fun ws => by
    rw [ws.content_eq v hfits]
    exact Width.isWritable_content (ws.word_lt v hfits)
  cases shape with
  | text =>
    cases v with
    | text s => exact Content.isWritable_run hlen
    | _ => cases hfits
  | message name fields =>
    cases v with
    | message m => exact Content.isWritable_run hlen
    | _ => cases hfits
  | bool => exact hwords .ofBool
  | int32 => exact hwords .ofInt32
  | int64 => exact hwords .ofInt64
  | code => exact hwords .ofCode
  | single => exact hwords .ofSingle
  | double => exact hwords .ofDouble

/-- The items of a field in few octets can be written. -/
theorem Shape.FitsField.isWritable {shape : Shape} {repeated : Bool} {values : List Datum}
    (hfits : shape.FitsField repeated values) {c : Content}
    (hc : c ∈ itemsOf repeated shape.isPacked values fun v => shape.content v)
    (hlen : c.write.length < 2 ^ 64) : c.IsWritable := by
  have heach : ∀ vs : List Datum, (∀ v ∈ vs, v ∈ values) →
      c ∈ vs.map (fun v => shape.content v) → c.IsWritable := by
    intro vs hvs hc
    obtain ⟨v, hv, rfl⟩ := List.mem_map.mp hc
    exact Shape.isWritable_content (hfits.each v (hvs v hv)) hlen
  rw [itemsOf] at hc
  split at hc
  · split at hc
    · split at hc
      · cases hc
      · obtain rfl := List.mem_singleton.mp hc
        exact Content.isWritable_run hlen
    · exact heach values (fun _ hv => hv) hc
  · exact heach _ (fun _ hv => (List.mem_filter.mp hv).1) hc

/-- **The items of a message**: their numbers are those of its fields, and they can be written in
few octets. -/
theorem mem_messageItems {number : Nat} {fields : List Field} {m : Message} {i : Item}
    (hfits : contentsFit fields m = true) (hi : i ∈ messageItems number fields m) :
    number ≤ i.number ∧ i.number < number + fields.length
      ∧ (i.content.write.length < 2 ^ 64 → i.content.IsWritable) := by
  induction fields generalizing number m with
  | nil =>
    cases m with
    | nil => cases hi
    | cons values contents => cases hi
  | cons field fields ih =>
    cases m with
    | nil => cases hi
    | cons values contents =>
      obtain ⟨hvalues, hcontents⟩ := (contentsFit_cons ..).mp hfits
      rw [List.length_cons]
      obtain hi | hi := List.mem_append.mp hi
      · obtain ⟨c, hc, rfl⟩ := List.mem_map.mp hi
        exact ⟨Nat.le_refl _, by simp, hvalues.isWritable hc⟩
      · obtain ⟨hlow, hhigh, hwritable⟩ := ih hcontents hi
        exact ⟨Nat.le_of_succ_le hlow, by omega, hwritable⟩

/-- **The items of a message of few octets can be written**, if its fields are numbered. -/
theorem isWritable_messageItems {fields : List Field} {m : Message}
    (hnumbered : fields.length < 2 ^ 29 - 1) (hfits : contentsFit fields m = true)
    (hlen : (writeFields 1 fields m).length < 2 ^ 64) :
    ∀ i ∈ messageItems 1 fields m, i.IsWritable := by
  intro i hi
  obtain ⟨hlow, hhigh, hwritable⟩ := mem_messageItems hfits hi
  rw [writeFields_eq_writeItems] at hlen
  exact ⟨⟨hlow, by omega⟩,
    hwritable (Nat.lt_of_le_of_lt (length_write_le_writeItems hi) hlen)⟩

/-- **The octets of a message are read as its items.** -/
theorem readItems_writeFields (depth : Nat) {fields : List Field} {m : Message}
    (hnumbered : fields.length < 2 ^ 29 - 1) (hfits : contentsFit fields m = true)
    (hlen : (writeFields 1 fields m).length < 2 ^ 64) :
    readItems depth (writeFields 1 fields m) = some (messageItems 1 fields m) := by
  rw [writeFields_eq_writeItems]
  exact readItems_writeItems depth (isWritable_messageItems hnumbered hfits hlen)

/-! ## The items at a number -/

theorem contentsAt_append (number : Nat) (is js : List Item) :
    contentsAt number (is ++ js) = contentsAt number is ++ contentsAt number js :=
  List.filterMap_append

theorem contentsAt_map_mk (number : Nat) (cs : List Content) :
    contentsAt number (cs.map (Item.mk number)) = cs := by
  induction cs with
  | nil => rfl
  | cons c cs ih =>
    have hcons : contentsAt number (Item.mk number c :: cs.map (Item.mk number))
        = c :: contentsAt number (cs.map (Item.mk number)) :=
      List.filterMap_cons_some (if_pos rfl)
    rw [List.map_cons, hcons, ih]

theorem contentsAt_eq_nil {number : Nat} {items : List Item}
    (h : ∀ i ∈ items, i.number ≠ number) : contentsAt number items = [] :=
  List.filterMap_eq_nil_iff.mpr fun i hi => if_neg (h i hi)

variable {number : Nat} {name : String} {repeated : Bool} {shape : Shape} {fields : List Field}
  {values : List Datum} {contents : Message}

/-- At the number of the first field stand its items. -/
theorem contentsAt_messageItems_self (hfits : contentsFit fields contents = true) :
    contentsAt number (messageItems number (⟨name, repeated, shape⟩ :: fields) (values :: contents))
      = itemsOf repeated shape.isPacked values fun v => shape.content v := by
  have hothers : contentsAt number (messageItems (number + 1) fields contents) = [] :=
    contentsAt_eq_nil fun i hi => Nat.ne_of_gt (mem_messageItems hfits hi).1
  rw [messageItems, contentsAt_append, contentsAt_map_mk, hothers, List.append_nil]

/-- At a later number stand the items of a later field. -/
theorem contentsAt_messageItems_of_lt {j : Nat} (hj : number < j) :
    contentsAt j (messageItems number (⟨name, repeated, shape⟩ :: fields) (values :: contents))
      = contentsAt j (messageItems (number + 1) fields contents) := by
  have hfirst : contentsAt j
      ((itemsOf repeated shape.isPacked values fun v => shape.content v).map (Item.mk number))
      = [] :=
    contentsAt_eq_nil (List.forall_mem_map.mpr fun _ _ => Nat.ne_of_lt hj)
  rw [messageItems, contentsAt_append, hfirst, List.nil_append]

/-! ## Messages -/

/-- **The messages of a field are read back** from their items, if every message of their fields
is. -/
theorem Shape.read_message {depth : Nat}
    (hfits : (Shape.message name fields).FitsField repeated values)
    (hnumbered : fields.length < 2 ^ 29 - 1)
    (hwritable : ∀ c ∈ itemsOf repeated false values fun v => (Shape.message name fields).content v,
      c.IsWritable)
    (hread : ∀ m, contentsFit fields m = true → (writeFields 1 fields m).length < 2 ^ 64 →
      readFields (depth + 1) 1 fields (messageItems 1 fields m) = some m) :
    (Shape.message name fields).read depth repeated
        (itemsOf repeated false values fun v => (Shape.message name fields).content v)
      = some values := by
  obtain ⟨ms, rfl⟩ := hfits.exists_map Shape.exists_message
  -- a message is never left out, so that each value has its run
  have hitems : (itemsOf repeated false (ms.map Datum.message) fun v =>
        (Shape.message name fields).content v)
      = ms.map fun m => .run (writeFields 1 fields m) := by
    have hkept : (ms.map Datum.message).filter (fun v => !v.isDefault) = ms.map Datum.message :=
      List.filter_eq_self.mpr (List.forall_mem_map.mpr fun _ _ => rfl)
    cases repeated with
    | true =>
      rw [itemsOf, if_pos rfl, if_neg Bool.false_ne_true, List.map_map]
      rfl
    | false =>
      rw [itemsOf, if_neg Bool.false_ne_true, hkept, List.map_map]
      rfl
  rw [hitems] at hwritable ⊢
  have hfit : ∀ m ∈ ms, contentsFit fields m = true :=
    fun m hm => hfits.each _ (List.mem_map_of_mem hm)
  have hlen : ∀ m ∈ ms, (writeFields 1 fields m).length < 2 ^ 64 :=
    fun m hm => hwritable _ (List.mem_map_of_mem hm)
  have hpieces : (runs (ms.map fun m => .run (writeFields 1 fields m))).mapM
      (fun bs => readItems (depth + 1) bs) = some (ms.map fun m => messageItems 1 fields m) := by
    rw [runs_map_run]
    exact mapM_map_some fun m hm => readItems_writeFields _ hnumbered (hfit m hm) (hlen m hm)
  rw [Shape.read, hpieces]
  cases repeated with
  | true =>
    exact mapM_map_some fun m hm =>
      congrArg (Option.map Datum.message) (hread m (hfit m hm) (hlen m hm))
  | false =>
    have hcount : (ms.map Datum.message).length ≤ 1 := of_decide_eq_true hfits.count
    cases ms with
    | nil => rfl
    | cons m ms =>
      obtain rfl : ms = [] := by
        rw [List.length_map, List.length_cons] at hcount
        exact List.eq_nil_of_length_eq_zero (by omega)
      have hm := hread m (hfit m (List.mem_singleton_self m)) (hlen m (List.mem_singleton_self m))
      show (readFields (depth + 1) 1 fields (messageItems 1 fields m ++ [])).bind _ = _
      rw [List.append_nil, hm]
      rfl

mutual

/-- **The values of a field are read back** from their items. -/
theorem Shape.read_content (depth : Nat) {repeated : Bool} {values : List Datum} :
    (shape : Shape) → shape.isNumbered = true → shape.FitsField repeated values →
    (∀ c ∈ itemsOf repeated shape.isPacked values fun v => shape.content v, c.IsWritable) →
    shape.read depth repeated (itemsOf repeated shape.isPacked values fun v => shape.content v)
      = some values
  | .text, _, hfits, _ => Shape.read_text depth hfits
  | .bool, _, hfits, _ => Shape.Words.ofBool.read_itemsOf depth hfits
  | .int32, _, hfits, _ => Shape.Words.ofInt32.read_itemsOf depth hfits
  | .int64, _, hfits, _ => Shape.Words.ofInt64.read_itemsOf depth hfits
  | .code, _, hfits, _ => Shape.Words.ofCode.read_itemsOf depth hfits
  | .single, _, hfits, _ => Shape.Words.ofSingle.read_itemsOf depth hfits
  | .double, _, hfits, _ => Shape.Words.ofDouble.read_itemsOf depth hfits
  | .message name fields, hnumbered, hfits, hwritable => by
    rw [Shape.isNumbered, Bool.and_eq_true, decide_eq_true_eq] at hnumbered
    exact Shape.read_message hfits hnumbered.1 hwritable fun m hm hlen =>
      readFields_messageItems (depth + 1) 1 fields hnumbered.2 hm
        (isWritable_messageItems hnumbered.1 hm hlen) fun _ _ => rfl

/-- **The contents of the fields from a number on are read back** from any items that agree with
their own from that number on. -/
theorem readFields_messageItems (depth number : Nat) {m : Message} {items : List Item} :
    (fields : List Field) → fieldsNumbered fields = true → contentsFit fields m = true →
    (∀ i ∈ messageItems number fields m, i.IsWritable) →
    (∀ j, number ≤ j → contentsAt j items = contentsAt j (messageItems number fields m)) →
    readFields depth number fields items = some m
  | [], _, hfits, _, _ => by
    cases m with
    | nil => rfl
    | cons values contents => cases hfits
  | ⟨name, repeated, shape⟩ :: fields, hnumbered, hfits, hwritable, hitems => by
    cases m with
    | nil => cases hfits
    | cons values contents =>
      rw [fieldsNumbered, Bool.and_eq_true] at hnumbered
      obtain ⟨hvalues, hcontents⟩ := (contentsFit_cons ..).mp hfits
      rw [messageItems, List.forall_mem_append] at hwritable
      have hself := (hitems number (Nat.le_refl _)).trans (contentsAt_messageItems_self hcontents)
      have hfirst := Shape.read_content depth shape hnumbered.1 hvalues fun c hc =>
        (hwritable.1 _ (List.mem_map_of_mem hc)).2
      have hlater := readFields_messageItems depth (number + 1) fields hnumbered.2 hcontents
        hwritable.2 fun j hj =>
          (hitems j (Nat.le_of_succ_le hj)).trans (contentsAt_messageItems_of_lt hj)
      rw [readFields, hself, hfirst]
      show (readFields depth (number + 1) fields items).bind _ = _
      rw [hlater]
      rfl

end

/-! ## What is read fits -/

/-- What is read of a field of messages fits it, if what is read of their fields does. -/
theorem Shape.fitsField_of_read_message {depth : Nat} {cs : List Content}
    (hread : ∀ items m, readFields (depth + 1) 1 fields items = some m →
      contentsFit fields m = true)
    (h : (Shape.message name fields).read depth repeated cs = some values) :
    (Shape.message name fields).FitsField repeated values := by
  have heach : ∀ items v, (readFields (depth + 1) 1 fields items).map Datum.message = some v →
      (Shape.message name fields).fits v = true := by
    intro items v hv
    obtain ⟨m, hm, rfl⟩ := Option.map_eq_some_iff.mp hv
    exact hread items m hm
  rw [Shape.read] at h
  obtain ⟨pieces, -, h⟩ := Option.bind_eq_some_iff.mp h
  cases repeated with
  | true => exact ⟨rfl, forall_of_mapM_some heach h⟩
  | false =>
    cases pieces with
    | nil =>
      obtain rfl := Option.some.inj h
      exact ⟨rfl, List.forall_mem_nil _⟩
    | cons piece pieces =>
      obtain ⟨m, hm, h⟩ := Option.bind_eq_some_iff.mp h
      obtain rfl := Option.some.inj h
      exact ⟨rfl, List.forall_mem_singleton.mpr (hread _ m hm)⟩

mutual

/-- **What is read of a field fits it**, whatever its items are. -/
theorem Shape.fitsField_of_read (depth : Nat) {repeated : Bool} {values : List Datum}
    {cs : List Content} :
    (shape : Shape) → shape.read depth repeated cs = some values → shape.FitsField repeated values
  | .text, h => Shape.fits_of_read_text h
  | .bool, h => Shape.Words.ofBool.fits_of_read h
  | .int32, h => Shape.Words.ofInt32.fits_of_read h
  | .int64, h => Shape.Words.ofInt64.fits_of_read h
  | .code, h => Shape.Words.ofCode.fits_of_read h
  | .single, h => Shape.Words.ofSingle.fits_of_read h
  | .double, h => Shape.Words.ofDouble.fits_of_read h
  | .message _ fields, h =>
    Shape.fitsField_of_read_message
      (fun _ _ hm => contentsFit_of_readFields (depth + 1) 1 fields hm) h

/-- **The contents that are read of fields fit them.** -/
theorem contentsFit_of_readFields (depth number : Nat) {m : Message} {items : List Item} :
    (fields : List Field) → readFields depth number fields items = some m →
    contentsFit fields m = true
  | [], h => by
    obtain rfl := Option.some.inj h
    rfl
  | ⟨name, repeated, shape⟩ :: fields, h => by
    obtain ⟨values, hvalues, h⟩ := Option.bind_eq_some_iff.mp h
    obtain ⟨contents, hcontents, h⟩ := Option.bind_eq_some_iff.mp h
    obtain rfl := Option.some.inj h
    exact (contentsFit_cons ..).mpr
      ⟨Shape.fitsField_of_read depth shape hvalues,
        contentsFit_of_readFields depth (number + 1) fields hcontents⟩

end

namespace Schema

/-- **A message is read back from its octets**, if its schema is numbered. -/
theorem decode?_encode {s : Schema} (hnumbered : s.shape.isNumbered = true) {m : Message}
    (hfits : contentsFit s.fields m = true) (hlen : (s.encode m).length < 2 ^ 64) :
    s.decode? (s.encode m) = some m := by
  rw [shape, Shape.isNumbered, Bool.and_eq_true, decide_eq_true_eq] at hnumbered
  rw [decode?, encode, readItems_writeFields 0 hnumbered.1 hfits hlen]
  exact readFields_messageItems 0 1 s.fields hnumbered.2 hfits
    (isWritable_messageItems hnumbered.1 hfits hlen) fun _ _ => rfl

/-- **What octets are read as fits the schema.** -/
theorem fits_of_decode? {s : Schema} {bs : Octets} {m : Message} (h : s.decode? bs = some m) :
    contentsFit s.fields m = true := by
  obtain ⟨items, -, h⟩ := Option.bind_eq_some_iff.mp h
  exact contentsFit_of_readFields 0 1 s.fields h

/-- **The messages of the service survive the wire.** A message of any of its schemas that fits is
read back from its octets as it is: every value, every list in its order, and whether a message
inside it is there. What any octets were read as, however they came about, fits and is read back in
the same way. -/
theorem read_back {s : Schema} (hs : s ∈ Schema.all) {m : Message}
    (hlen : (s.encode m).length < 2 ^ 64) :
    (contentsFit s.fields m = true → s.decode? (s.encode m) = some m)
      ∧ ∀ bs, s.decode? bs = some m →
        contentsFit s.fields m = true ∧ s.decode? (s.encode m) = some m :=
  ⟨fun hfits => decode?_encode (isNumbered_of_mem_all hs) hfits hlen,
    fun _ hbs => ⟨fits_of_decode? hbs,
      decode?_encode (isNumbered_of_mem_all hs) (fits_of_decode? hbs) hlen⟩⟩

/-- A list of hits with a status in which nothing is set, no hit of a first vector, and one of a
second, with a negative id at the distance `-0.0`. -/
def hits : Message :=
  [[.message [[.int 0], [.text ""]]],
   [.message [[]], .message [[.message [[.int (-5)], [.double ⟨0x8000000000000000⟩]]]]]]

/-- A row of the components `-0.0` and `1.0`. -/
def pair : Message := [[.single ⟨0x80000000⟩, .single ⟨0x3F800000⟩]]

/-- Hits as their own octets, and a row of two components from octets in which one stands alone and
the other in a run. -/
theorem read_back_hits :
    (topKQueryResultList.encode hits).length < 2 ^ 64
      ∧ topKQueryResultList.decode? (topKQueryResultList.encode hits) = some hits
      ∧ (rowRecord.encode pair).length < 2 ^ 64
      ∧ rowRecord.decode? [13, 0, 0, 0, 128, 10, 4, 0, 0, 128, 63] = some pair
      ∧ rowRecord.decode? (rowRecord.encode pair) = some pair := by
  have hhits : topKQueryResultList ∈ all := List.mem_of_getElem? (i := 12) rfl
  have hrow : rowRecord ∈ all := List.mem_of_getElem? (i := 5) rfl
  have hlen : (topKQueryResultList.encode hits).length < 2 ^ 64 := by decide
  have hlen' : (rowRecord.encode pair).length < 2 ^ 64 := by decide
  have hread : rowRecord.decode? [13, 0, 0, 0, 128, 10, 4, 0, 0, 128, 63] = some pair := rfl
  exact ⟨hlen, (read_back hhits hlen).1 rfl, hlen', hread, ((read_back hrow hlen').2 _ hread).2⟩

end Schema

end VectorLink.Wire
