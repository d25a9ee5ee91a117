import VectorLink.Proofs.Fidelity

/-!
# Dates as a server compares them

A request carries dates as texts, and a server that compares texts has to find them in the order of
the dates. They are in that order if all years have the same number of digits: then the texts are of
the same form, yyyy-MM-dd, and differ first where the dates do. But a year is written without
padding, so the text of a date before the year 1000 is too short for that form. Such a date is told
by its text all the same, yet not to somebody who reads the form, and its text may come after that
of a later date.

What comes of it is said exactly here: which dates are written in the form (`Date.spelled_wireText`)
and read back from it (`Date.read_wireText`), and of which pairs of dates the texts are in order
(`Date.wireText_lt_iff`).
-/

namespace VectorLink

open Wire (Datum Message)

/-! ## Digits in order -/

/-- The number of digits of a number. -/
def digitCount (n : Nat) : Nat := (Nat.toDigits 10 n).length

theorem isDigit_of_mem_toDigits {n : Nat} {c : Char} (h : c ∈ Nat.toDigits 10 n) :
    c.isDigit = true := Nat.isDigit_of_mem_toDigits (by decide) (by decide) h

theorem isDigit_twoDigits {n : Nat} {c : Char} (h : c ∈ (twoDigits n).toList) :
    c.isDigit = true := by
  unfold twoDigits at h
  split at h
  · rw [String.toList_append, List.mem_append] at h
    rcases h with h | h
    · rw [List.mem_singleton.mp (show c ∈ ['0'] from h)]
      rfl
    · exact isDigit_of_mem_toDigits (by simpa using h)
  · exact isDigit_of_mem_toDigits (by simpa using h)

theorem length_twoDigits {n : Nat} (hn : n < 100) : (twoDigits n).toList.length = 2 := by
  unfold twoDigits
  split
  · next h => simp [Nat.toDigits_of_lt_base h]
  · next h =>
    have hle : digitCount n ≤ 2 := (Nat.length_toDigits_le_iff (by decide) (by decide)).mpr hn
    have hgt : ¬ digitCount n ≤ 1 := fun hle =>
      h ((Nat.length_toDigits_le_iff (by decide) (by decide)).mp hle)
    simp only [digitCount] at hle hgt
    simp
    omega

/-- A digit is between zero and nine. -/
theorem digit_bounds {c : Char} (hc : c.isDigit = true) : 48 ≤ c.toNat ∧ c.toNat ≤ 57 := by
  simp only [Char.isDigit, Bool.and_eq_true, decide_eq_true_eq] at hc
  exact hc

/-- What is smaller stays so, however many digits follow on both sides. -/
theorem ofDigitChars_lt {xs ys : List Char} (hxs : ∀ c ∈ xs, c.isDigit = true)
    (hlen : xs.length = ys.length) {a b : Nat} (hab : a < b) :
    Nat.ofDigitChars 10 xs a < Nat.ofDigitChars 10 ys b := by
  induction xs generalizing ys a b with
  | nil =>
    obtain rfl := List.length_eq_zero_iff.mp hlen.symm
    exact hab
  | cons x xs ih =>
    cases ys with
    | nil => cases hlen
    | cons y ys =>
      obtain ⟨hx, hxs⟩ := List.forall_mem_cons.mp hxs
      have hbounds := digit_bounds hx
      have hzero : '0'.toNat = 48 := rfl
      rw [Nat.ofDigitChars_cons, Nat.ofDigitChars_cons]
      exact ih hxs (Nat.succ.inj hlen) (by omega)

/-- **Equally many digits are in the order of their numbers**, and what follows them decides only if
the numbers are equal. -/
theorem append_lt_append_iff {xs ys s t : List Char} (hxs : ∀ c ∈ xs, c.isDigit = true)
    (hys : ∀ c ∈ ys, c.isDigit = true) (hlen : xs.length = ys.length) (a : Nat) :
    xs ++ s < ys ++ t ↔ Nat.ofDigitChars 10 xs a < Nat.ofDigitChars 10 ys a ∨
      Nat.ofDigitChars 10 xs a = Nat.ofDigitChars 10 ys a ∧ s < t := by
  induction xs generalizing ys a with
  | nil =>
    obtain rfl := List.length_eq_zero_iff.mp hlen.symm
    simp
  | cons x xs ih =>
    cases ys with
    | nil => cases hlen
    | cons y ys =>
      obtain ⟨hx, hxs'⟩ := List.forall_mem_cons.mp hxs
      obtain ⟨hy, hys'⟩ := List.forall_mem_cons.mp hys
      have hrest : xs.length = ys.length := Nat.succ.inj hlen
      have hxb := digit_bounds hx
      have hyb := digit_bounds hy
      have hzero : '0'.toNat = 48 := rfl
      rw [List.cons_append, List.cons_append, List.cons_lt_cons_iff, Nat.ofDigitChars_cons,
        Nat.ofDigitChars_cons]
      -- the first digits decide unless they are equal, whatever follows
      rcases Nat.lt_trichotomy x.toNat y.toNat with hlt | heq | hgt
      · have hvalue := ofDigitChars_lt hxs' hrest
          (show 10 * a + (x.toNat - '0'.toNat) < 10 * a + (y.toNat - '0'.toNat) by omega)
        exact iff_of_true (.inl hlt) (.inl hvalue)
      · obtain rfl : x = y := Char.toNat_inj.mp heq
        simp only [Char.lt_irrefl, true_and, false_or]
        exact ih hxs' hys' hrest _
      · have hvalue := ofDigitChars_lt hys' hrest.symm
          (show 10 * a + (y.toNat - '0'.toNat) < 10 * a + (x.toNat - '0'.toNat) by omega)
        refine iff_of_false (fun h => ?_) fun h => ?_
        · rcases h with h | ⟨rfl, -⟩
          · exact Nat.lt_asymm hgt h
          · exact Nat.lt_irrefl _ hgt
        · rcases h with h | ⟨h, -⟩ <;> omega

/-- The digits of a number begin with those of its quotient by a power of ten. -/
theorem exists_toDigits_append {k n : Nat} (hn : 10 ^ k ≤ n) :
    ∃ tail, Nat.toDigits 10 n = Nat.toDigits 10 (n / 10 ^ k) ++ tail ∧ tail.length = k ∧
      ∀ c ∈ tail, c.isDigit = true := by
  induction k with
  | zero => exact ⟨[], by rw [Nat.pow_zero, Nat.div_one, List.append_nil], rfl, nofun⟩
  | succ k ih =>
    have hpos := Nat.pow_pos (n := k) (show 0 < 10 by decide)
    rw [Nat.pow_succ] at hn
    obtain ⟨tail, hdigits, hlength, -⟩ := ih (by omega)
    have hten : 10 ≤ n / 10 ^ k := (Nat.le_div_iff_mul_le hpos).mpr (by rwa [Nat.mul_comm])
    rw [Nat.toDigits_of_base_le (by decide) hten, Nat.div_div_eq_div_mul, List.append_assoc]
      at hdigits
    refine ⟨_, by rw [Nat.pow_succ]; exact hdigits, by simp [hlength], ?_⟩
    intro c hc
    refine isDigit_of_mem_toDigits (n := n) ?_
    rw [hdigits]
    exact List.mem_append_right _ hc

theorem digitCount_mono {m n : Nat} (h : m ≤ n) : digitCount m ≤ digitCount n := by
  have hpos : 0 < digitCount n := Nat.length_toDigits_pos
  refine (Nat.length_toDigits_le_iff (by decide) hpos).mpr (h.trans_lt ?_)
  exact (Nat.length_toDigits_le_iff (by decide) hpos).mp le_rfl

/-- A number is no less than the power of ten that has as many digits. -/
theorem ten_pow_le {k n : Nat} (hn : 1 ≤ n) (hk : k < digitCount n) : 10 ^ k ≤ n := by
  rcases Nat.eq_zero_or_pos k with rfl | hpos
  · exact hn
  · exact Nat.le_of_not_lt fun hlt =>
      Nat.not_le_of_lt hk ((Nat.length_toDigits_le_iff (by decide) hpos).mpr hlt)

namespace Date

variable {d e : Date} {text : String}

/-! ## The order of dates and of their texts -/

/-- **A date is before another** in the calendar. -/
def Before (d e : Date) : Prop :=
  d.year < e.year ∨ d.year = e.year ∧
    (d.month < e.month ∨ d.month = e.month ∧ d.day < e.day)

theorem monthLength_le (year month : Nat) : monthLength year month ≤ 31 := by
  unfold monthLength
  split
  case h_12 => split <;> decide
  all_goals decide

theorem month_lt (d : Date) : d.month < 100 := by
  have := d.isValid.2.2.2.1
  omega

theorem day_lt (d : Date) : d.day < 100 := by
  have hday := d.isValid.2.2.2.2.2
  have hlength := monthLength_le d.year d.month
  omega

theorem before_trichotomy (d e : Date) : d.Before e ∨ d = e ∨ e.Before d := by
  rcases Nat.lt_trichotomy d.year e.year with h | hyear | h
  · exact .inl (.inl h)
  · rcases Nat.lt_trichotomy d.month e.month with h | hmonth | h
    · exact .inl (.inr ⟨hyear, .inl h⟩)
    · rcases Nat.lt_trichotomy d.day e.day with h | hday | h
      · exact .inl (.inr ⟨hyear, .inr ⟨hmonth, h⟩⟩)
      · obtain ⟨_, _, _, _⟩ := d
        obtain ⟨_, _, _, _⟩ := e
        cases hyear
        cases hmonth
        cases hday
        exact .inr (.inl rfl)
      · exact .inr (.inr (.inr ⟨hyear.symm, .inr ⟨hmonth.symm, h⟩⟩))
    · exact .inr (.inr (.inr ⟨hyear.symm, .inl h⟩))
  · exact .inr (.inr (.inl h))

/-- Months and days have two digits each, so their texts are in their order. -/
theorem monthDay_lt_iff (d e : Date) :
    (twoDigits d.month).toList ++ '-' :: (twoDigits d.day).toList
        < (twoDigits e.month).toList ++ '-' :: (twoDigits e.day).toList
      ↔ d.month < e.month ∨ d.month = e.month ∧ d.day < e.day := by
  have hmonth := (length_twoDigits d.month_lt).trans (length_twoDigits e.month_lt).symm
  have hday := (length_twoDigits d.day_lt).trans (length_twoDigits e.day_lt).symm
  have hlast := append_lt_append_iff (s := []) (t := []) (fun _ => isDigit_twoDigits)
    (fun _ => isDigit_twoDigits) hday 0
  simp only [List.append_nil, List.lt_irrefl, and_false, or_false, ofDigitChars_twoDigits]
    at hlast
  rw [append_lt_append_iff (fun _ => isDigit_twoDigits) (fun _ => isDigit_twoDigits) hmonth 0,
    ofDigitChars_twoDigits, ofDigitChars_twoDigits, List.cons_lt_cons_iff, hlast]
  simp only [Char.lt_irrefl, true_and, false_or]

/-- **When the text of a date is before that of a later one**: if its year is no more than the
number that the year of the later one begins with, taken with as many digits. -/
theorem wireText_lt_iff (h : d.Before e) : d.wireText < e.wireText ↔
    d.year ≤ e.year / 10 ^ (digitCount e.year - digitCount d.year) := by
  have hyears : d.year ≤ e.year := h.elim Nat.le_of_lt fun h => h.1.le
  have hcount := digitCount_mono hyears
  obtain ⟨k, hk⟩ := Nat.exists_eq_add_of_le hcount
  rw [hk, Nat.add_sub_cancel_left]
  have hpos : 0 < digitCount d.year := Nat.length_toDigits_pos
  have hpower : 10 ^ k ≤ e.year := ten_pow_le e.isValid.1 (by omega)
  obtain ⟨tail, hdigits, hlength, htail⟩ := exists_toDigits_append hpower
  have hsame : (Nat.toDigits 10 d.year).length = (Nat.toDigits 10 (e.year / 10 ^ k)).length := by
    have := congrArg List.length hdigits
    rw [List.length_append, hlength] at this
    simp only [digitCount] at hk
    omega
  rw [String.lt_iff, wireText_toList, wireText_toList, hdigits, List.append_assoc,
    append_lt_append_iff (fun _ => isDigit_of_mem_toDigits) (fun _ => isDigit_of_mem_toDigits)
      hsame 0, Nat.ofDigitChars_ten_toDigits, Nat.ofDigitChars_ten_toDigits,
    Nat.le_iff_lt_or_eq]
  refine or_congr_right (and_iff_left_of_imp fun hyear => ?_)
  cases tail with
  | nil =>
    -- equally many digits: months and days decide
    obtain rfl : 0 = k := hlength
    rw [Nat.pow_zero, Nat.div_one] at hyear
    rw [List.nil_append, List.cons_lt_cons_iff, monthDay_lt_iff]
    exact .inr ⟨rfl, (h.resolve_left (by omega)).2⟩
  | cons c tail =>
    -- the dash after the shorter year is before any digit
    have hdigit := digit_bounds (htail c List.mem_cons_self)
    have hdash : '-'.toNat < c.toNat := Nat.lt_of_lt_of_le (by decide) hdigit.1
    exact List.cons_lt_cons_iff.mpr (.inl hdash)

theorem digitCount_year_le (d : Date) : digitCount d.year ≤ 4 :=
  (Nat.length_toDigits_le_iff (by decide) (by decide)).mpr (Nat.lt_succ_of_le d.isValid.2.1)

/-- Years of the calendar have four digits from the year 1000 on. -/
theorem digitCount_year (d : Date) : digitCount d.year = 4 ↔ 1000 ≤ d.year := by
  have hmost := d.digitCount_year_le
  have hthree : digitCount d.year ≤ 3 ↔ d.year < 10 ^ 3 :=
    Nat.length_toDigits_le_iff (by decide) (by decide)
  omega

/-- **From the year 1000 on texts are in the order of their dates.** -/
theorem wireText_lt_iff_before (hd : 1000 ≤ d.year) (he : 1000 ≤ e.year) :
    d.wireText < e.wireText ↔ d.Before e := by
  have hordered : ∀ {d e : Date}, 1000 ≤ d.year → 1000 ≤ e.year → d.Before e →
      d.wireText < e.wireText := by
    intro d e hd he h
    rw [wireText_lt_iff h, d.digitCount_year.mpr hd, e.digitCount_year.mpr he, Nat.sub_self,
      Nat.pow_zero, Nat.div_one]
    exact h.elim Nat.le_of_lt fun h => h.1.le
  refine ⟨fun h => ?_, hordered hd he⟩
  rcases before_trichotomy d e with hbefore | rfl | hafter
  · exact hbefore
  · exact absurd h (String.lt_irrefl _)
  · exact absurd h (String.lt_asymm (hordered he hd hafter))

/-! ## The form yyyy-MM-dd -/

/-- **A text spells a date** in the form yyyy-MM-dd: four digits, two and two, with dashes
between. -/
structure SpelledBy (d : Date) (text : String) : Prop where
  form : ∃ year month day : List Char, text.toList = year ++ '-' :: (month ++ '-' :: day) ∧
    (∀ c ∈ year ++ month ++ day, c.isDigit = true) ∧
    (year.length = 4 ∧ Nat.ofDigitChars 10 year 0 = d.year) ∧
    (month.length = 2 ∧ Nat.ofDigitChars 10 month 0 = d.month) ∧
    (day.length = 2 ∧ Nat.ofDigitChars 10 day 0 = d.day)

theorem SpelledBy.length (h : d.SpelledBy text) : text.length = 10 := by
  obtain ⟨year, month, day, htext, -, ⟨hyear, -⟩, ⟨hmonth, -⟩, hday, -⟩ := h.form
  rw [← String.length_toList, htext]
  simp [hyear, hmonth, hday]

/-- The text of a date is as much longer than its year as months, days and dashes take up. -/
theorem length_wireText (d : Date) : d.wireText.length = digitCount d.year + 6 := by
  rw [← String.length_toList, wireText_toList, digitCount]
  have hmonth := length_twoDigits d.month_lt
  have hday := length_twoDigits d.day_lt
  rw [List.length_append, List.length_cons, List.length_append, List.length_cons, hmonth, hday]

/-- The text of a date has digits and dashes only. -/
theorem digit_or_dash (d : Date) : ∀ c ∈ d.wireText.toList, c.isDigit = true ∨ c = '-' := by
  intro c hc
  rw [wireText_toList, List.mem_append, List.mem_cons, List.mem_append, List.mem_cons] at hc
  rcases hc with hc | hc | hc | hc | hc
  · exact .inl (isDigit_of_mem_toDigits hc)
  · exact .inr hc
  · exact .inl (isDigit_twoDigits hc)
  · exact .inr hc
  · exact .inl (isDigit_twoDigits hc)

theorem length_wireText_le (d : Date) : d.wireText.length ≤ 10 := by
  have := d.digitCount_year_le
  rw [length_wireText]
  omega

theorem length_wireText_eq (d : Date) : d.wireText.length = 10 ↔ 1000 ≤ d.year := by
  rw [length_wireText, ← digitCount_year]
  omega

/-- **The text of a date spells it** from the year 1000 on, and not before. -/
theorem spelled_wireText (d : Date) : d.SpelledBy d.wireText ↔ 1000 ≤ d.year := by
  refine ⟨fun h => d.length_wireText_eq.mp h.length, fun h => ⟨_, _, _, d.wireText_toList, ?_, ?_⟩⟩
  · intro c hc
    rcases List.mem_append.mp hc with hc | hc
    · rcases List.mem_append.mp hc with hc | hc
      · exact isDigit_of_mem_toDigits hc
      · exact isDigit_twoDigits hc
    · exact isDigit_twoDigits hc
  · exact ⟨⟨d.digitCount_year.mpr h, Nat.ofDigitChars_ten_toDigits⟩,
      ⟨length_twoDigits d.month_lt, ofDigitChars_twoDigits _⟩,
      ⟨length_twoDigits d.day_lt, ofDigitChars_twoDigits _⟩⟩

end Date

/-! ## Reading the form -/

namespace Reading

/-- The octet of a character that has one. -/
def octet (c : Char) : UInt8 := c.val.toUInt8

theorem toNat_octet {c : Char} (hc : c.toNat < 256) : (octet c).toNat = c.toNat := by
  show c.val.toNat % 256 = c.val.toNat
  exact Nat.mod_eq_of_lt hc

/-- The octets of a text of such characters. -/
theorem octets_eq {text : String} (h : ∀ c ∈ text.toList, c.toNat < 128) :
    text.toUTF8.data.toList = text.toList.map octet := by
  have hflat : text.toUTF8.data.toList = text.toList.flatMap String.utf8EncodeChar := by
    show text.toByteArray.data.toList = _
    rw [← String.utf8Encode_toList, List.utf8Encode, List.data_toByteArray]
  have heach : ∀ c ∈ text.toList, String.utf8EncodeChar c = [octet c] := fun c hc =>
    String.utf8EncodeChar_eq_singleton (Char.utf8Size_eq_one_iff.mpr (Nat.le_of_lt_succ (h c hc)))
  rw [hflat, List.flatMap_congr heach, List.map_eq_flatMap]

theorem octet_bounds {c : Char} (hc : c.isDigit = true) :
    (octet c).toNat = c.toNat ∧ 0x30 ≤ octet c ∧ octet c ≤ 0x39 := by
  have hbounds := digit_bounds hc
  have hvalue := toNat_octet (show c.toNat < 256 by omega)
  refine ⟨hvalue, ?_, ?_⟩
  · show 48 ≤ (octet c).toNat
    omega
  · show (octet c).toNat ≤ 57
    omega

/-- **Digits are read as their number.** -/
theorem digits_octets (fault : Fault) {cs : List Char} (hcs : ∀ c ∈ cs, c.isDigit = true) (n : Nat)
    (rest : List UInt8) : digits fault cs.length n (cs.map octet ++ rest)
      = .ok (Nat.ofDigitChars 10 cs n, rest) := by
  induction cs generalizing n with
  | nil => rfl
  | cons c cs ih =>
    obtain ⟨hc, hcs⟩ := List.forall_mem_cons.mp hcs
    obtain ⟨hvalue, hlow, hhigh⟩ := octet_bounds hc
    have hdigit : digit fault (octet c :: (cs.map octet ++ rest))
        = .ok (c.toNat - 48, cs.map octet ++ rest) := by
      rw [digit, decide_eq_true hlow, decide_eq_true hhigh, Bool.and_self, if_pos rfl, hvalue]
    rw [List.map_cons, List.cons_append, List.length_cons, digits, hdigit, Nat.ofDigitChars_cons,
      Nat.mul_comm 10]
    exact ih hcs _

/-- The octets of a text of digits and dashes. -/
theorem octets_of_digits {text : String} (h : ∀ c ∈ text.toList, c.isDigit = true ∨ c = '-') :
    text.toUTF8.data.toList = text.toList.map octet := by
  refine octets_eq fun c hc => ?_
  rcases h c hc with hdigit | rfl
  · have := digit_bounds hdigit
    omega
  · decide

/-- **The form is read as the date that it spells.** -/
theorem dayAtFront_of_spelled {d : Date} {text : String} (h : d.SpelledBy text) :
    dayAtFront text.toUTF8.data.toList = .ok (⟨d.year, d.month, d.day⟩, []) := by
  obtain ⟨year, month, day, htext, hdigits, ⟨hyear, hyear'⟩, ⟨hmonth, hmonth'⟩, hday, hday'⟩ :=
    h.form
  simp only [List.forall_mem_append] at hdigits
  obtain ⟨⟨hyears, hmonths⟩, hdays⟩ := hdigits
  have hoctets : text.toUTF8.data.toList
      = year.map octet ++ 0x2D :: (month.map octet ++ 0x2D :: (day.map octet ++ [])) := by
    rw [octets_of_digits, htext]
    · simp only [List.map_append, List.map_cons, List.append_nil]
      rfl
    · rw [htext]
      grind
  have hreadYear := digits_octets .yearCharacter hyears 0
    (0x2D :: (month.map octet ++ 0x2D :: (day.map octet ++ [])))
  have hreadMonth := digits_octets .monthCharacter hmonths 0 (0x2D :: (day.map octet ++ []))
  have hreadDay := digits_octets .dayCharacter hdays 0 []
  rw [hyear, hyear'] at hreadYear
  rw [hmonth, hmonth'] at hreadMonth
  rw [hday, hday'] at hreadDay
  have hlength : ¬ (year.map octet
      ++ 0x2D :: (month.map octet ++ 0x2D :: (day.map octet ++ []))).length < 10 := by
    simp [hyear, hmonth, hday]
  obtain ⟨-, -, hmonthLow, hmonthHigh, hdayLow, hdayHigh⟩ := d.isValid
  have hmonthIn : (decide (d.month < 1) || decide (12 < d.month)) = false := by
    simp
    omega
  have hdayIn : (decide (d.day < 1) || decide (monthLength d.year d.month < d.day)) = false := by
    simp
    omega
  rw [hoctets, dayAtFront, if_neg hlength]
  simp only [hreadYear, hreadMonth, hreadDay, expect, bind, Except.bind, hmonthIn, hdayIn, if_true,
    if_false, Bool.false_eq_true]

/-- A digit is no sign. -/
theorem ne_sign {c : Char} (hc : c.isDigit = true) : octet c ≠ 0x2D ∧ octet c ≠ 0x2B := by
  obtain ⟨-, hlow, -⟩ := octet_bounds hc
  constructor
  · intro h
    exact absurd (h ▸ hlow) (by decide)
  · intro h
    exact absurd (h ▸ hlow) (by decide)

/-- Digits before a dash write no whole number. -/
theorem wholeText?_digits_dash {c : Char} (hc : c.isDigit = true) (cs : List Char)
    (rest : List UInt8) : wholeText? ((c :: cs).map octet ++ 0x2D :: rest) = none := by
  obtain ⟨hminus, hplus⟩ := ne_sign hc
  have hdash : ((c :: cs).map octet ++ 0x2D :: rest).all (fun b => 0x30 ≤ b && b ≤ 0x39) = false :=
    List.all_eq_false.mpr ⟨0x2D, List.mem_append_right _ List.mem_cons_self, by decide⟩
  rw [List.map_cons, List.cons_append] at hdash ⊢
  unfold wholeText?
  split
  next negative ds hsign =>
    split at hsign
    · next h => exact absurd (List.cons.inj h).1 hminus
    · next h => exact absurd (List.cons.inj h).1 hplus
    · cases hsign
      rw [hdash]
      rfl

/-- Digits before a dash write no number with a point. -/
theorem pointText?_digits_dash {c : Char} {cs : List Char} (hcs : ∀ x ∈ c :: cs, x.isDigit = true)
    (rest : List UInt8) : pointText? ((c :: cs).map octet ++ 0x2D :: rest) = none := by
  obtain ⟨hminus, hplus⟩ := ne_sign (hcs c List.mem_cons_self)
  have hdigits : ∀ b ∈ (c :: cs).map octet, (decide (0x30 ≤ b) && decide (b ≤ 0x39)) = true := by
    refine List.forall_mem_map.mpr fun x hx => ?_
    obtain ⟨-, hlow, hhigh⟩ := octet_bounds (hcs x hx)
    rw [decide_eq_true hlow, decide_eq_true hhigh, Bool.and_self]
  have hrest : ((c :: cs).map octet ++ 0x2D :: rest).dropWhile
      (fun b => decide (0x30 ≤ b) && decide (b ≤ 0x39)) = 0x2D :: rest := by
    rw [List.dropWhile_append_of_pos hdigits]
    rfl
  rw [List.map_cons, List.cons_append] at hrest ⊢
  unfold pointText?
  split
  next negative ds hsign =>
    split at hsign
    · next h => exact absurd (List.cons.inj h).1 hminus
    · next h => exact absurd (List.cons.inj h).1 hplus
    · cases hsign
      simp only [hrest]
      rfl

/-- **A year that is too short for the form is not read**, and neither is it a count. -/
theorem dayOfText_of_short {d : Date} (h : d.year < 1000) :
    dayOfText d.wireText.toUTF8.data.toList = .fault .tooShort := by
  obtain ⟨c, cs, hyear⟩ := List.exists_cons_of_length_pos (l := Nat.toDigits 10 d.year)
    Nat.length_toDigits_pos
  have hdigits : ∀ x ∈ c :: cs, x.isDigit = true := by
    rw [← hyear]
    exact fun _ => isDigit_of_mem_toDigits
  have hoctets := octets_of_digits d.digit_or_dash
  have hshort : d.wireText.toUTF8.data.toList.length < 10 := by
    rw [hoctets, List.length_map, String.length_toList]
    exact lt_of_le_of_ne d.length_wireText_le fun hten =>
      Nat.not_le_of_lt h (d.length_wireText_eq.mp hten)
  have hfront : dayAtFront d.wireText.toUTF8.data.toList = .error .tooShort := by
    rw [dayAtFront, if_pos hshort]
  have hmoment : dayTimeText d.wireText.toUTF8.data.toList = .error .tooShort := by
    rw [dayTimeText, hfront]
    rfl
  have hrest : d.wireText.toList.map octet = (c :: cs).map octet
      ++ 0x2D :: ((twoDigits d.month).toList ++ '-' :: (twoDigits d.day).toList).map octet := by
    rw [Date.wireText_toList, hyear, List.map_append, List.map_cons]
    rfl
  rw [dayOfText, hfront, dayTimeOfText, hmoment]
  simp only [hoctets, hrest, wholeText?_digits_dash (hdigits c List.mem_cons_self),
    pointText?_digits_dash hdigits]
  rfl

end Reading

namespace Date

/-- What spells a date is read as that date. -/
theorem SpelledBy.read {d : Date} {text : String} (h : d.SpelledBy text) :
    Reader.date (.text text) = .ok d := by
  have hread : Reading.dayOfText text.toUTF8.data.toList = .day ⟨d.year, d.month, d.day⟩ := by
    rw [Reading.dayOfText, Reading.dayAtFront_of_spelled h]
  rw [Reader.date, hread, Reader.dateOfOutcome, Date.ofParts?, dif_pos d.isValid]
  rfl

/-- **The text of a date is read back** as that date from the year 1000 on, and not before. -/
theorem read_wireText (d : Date) : Reader.date (.text d.wireText) = .ok d ↔ 1000 ≤ d.year := by
  refine ⟨fun h => ?_, fun h => (d.spelled_wireText.mpr h).read⟩
  by_contra hshort
  rw [Reader.date, Reading.dayOfText_of_short (Nat.lt_of_not_le hshort)] at h
  cases h

end Date

/-! ## Dates in requests -/

namespace Operation

/-- The ranges of dates that an operation is confined to. -/
def ranges : Operation → List DateRange
  | .search s => s.ranges
  | .searchInFiles s => s.search.ranges
  | .deleteByRange _ range => [range]
  | _ => []

/-- The texts of the ranges in a message of an operation. -/
def rangesIn (op : Operation) (m : Message) : List (String × String) :=
  match op with
  | .search _ => Datum.rangesOf (m.slot 2)
  | .searchInFiles _ =>
    (Datum.messagesOf (m.slot 1)).flatMap fun search => Datum.rangesOf (search.slot 2)
  | .deleteByRange _ _ => Datum.rangesOf (m.slot 0)
  | _ => []

theorem rangesIn_message (op : Operation) :
    op.rangesIn op.message = op.ranges.map DateRange.wireTexts := by
  cases op with
  | search s => exact Datum.rangesOf_rangeContents s.ranges
  | searchInFiles s =>
    show (Datum.rangesOf _ ++ []) = _
    rw [List.append_nil]
    exact Datum.rangesOf_rangeContents s.search.ranges
  | deleteByRange table range => exact Datum.rangesOf_rangeContents [range]
  | _ => rfl

/-- **Requests hold the dates that they are confined to as texts, in order.** A range of any two
dates is accepted. The text of a date has the form yyyy-MM-dd, and is read back from it, exactly
from the year 1000 on, and then texts are in the order of dates. A text tells its date in any year,
but the texts of two dates may be out of order if one of them is before that year. -/
theorem tells_dates {op : Operation} {message : Message} (hreq : op.request = .ok message) :
    (op.rangesIn message = op.ranges.map DateRange.wireTexts ∧
        ((op.method.request.encode message).length < 2 ^ 64 →
          op.method.request.decode? (op.method.request.encode message) = some message)) ∧
      (∀ r : DateRange, DateRange.check
        [("start_date", .date r.first), ("end_date", .date r.last)] = .ok r) ∧
      (∀ d : Date, (d.wireText.length = 10 ↔ 1000 ≤ d.year) ∧
        (d.SpelledBy d.wireText ↔ 1000 ≤ d.year) ∧
        (Reader.date (.text d.wireText) = .ok d ↔ 1000 ≤ d.year)) ∧
      ∀ d e : Date, (d.wireText = e.wireText → d = e) ∧
        (1000 ≤ d.year → 1000 ≤ e.year → (d.wireText < e.wireText ↔ d.Before e)) ∧
        (d.Before e → (d.wireText < e.wireText ↔
          d.year ≤ e.year / 10 ^ (digitCount e.year - digitCount d.year))) := by
  obtain ⟨hfit, rfl⟩ : op.IntegersFit ∧ op.message = message := by
    by_cases hfit : op.IntegersFit
    · exact ⟨hfit, Except.ok.inj ((request_eq_ok hfit).symm.trans hreq)⟩
    · obtain ⟨n, -, herror⟩ := request_eq_error hfit
      cases herror.symm.trans hreq
  exact ⟨⟨op.rangesIn_message,
      Wire.Schema.decode?_encode op.method.isNumbered_request (fits_message hfit)⟩,
    fun _ => rfl,
    fun d => ⟨d.length_wireText_eq, d.spelled_wireText, d.read_wireText⟩,
    fun _ _ => ⟨Date.wireText_injective, Date.wireText_lt_iff_before, Date.wireText_lt_iff⟩⟩

/-- A range of two days, the last of the year 999 and the one after it. -/
def turnRange : DateRange := ⟨⟨999, 12, 31, by decide⟩, ⟨1000, 1, 1, by decide⟩⟩

/-- The first of two dates is too short for the form, and its text comes after that of the other. -/
theorem tells_dates_turn : let op : Operation := .search ⟨"t", [], [turnRange], 1024, 20⟩
    op.request = .ok op.message ∧ op.rangesIn op.message = [("999-12-31", "1000-01-01")] ∧
      turnRange.first.Before turnRange.last ∧
      ¬ turnRange.first.wireText < turnRange.last.wireText ∧
      ¬ turnRange.first.SpelledBy turnRange.first.wireText := by
  intro op
  have hfit : op.IntegersFit := misfit?_eq_none.mp (by decide)
  have hbefore : turnRange.first.Before turnRange.last := .inl (by decide)
  obtain ⟨⟨hranges, -⟩, -, hspelled, hordered⟩ := tells_dates (request_eq_ok hfit)
  refine ⟨request_eq_ok hfit, hranges, hbefore, ?_, ?_⟩
  · rw [(hordered turnRange.first turnRange.last).2.2 hbefore]
    decide
  · rw [(hspelled turnRange.first).2.1]
    decide

end Operation

end VectorLink
