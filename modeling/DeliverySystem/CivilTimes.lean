import Mathlib

/-!
# Civil times and their texts

A date with a time of day, the text that names it in UTC with or without the
fraction of the second, and the groups that a pattern finds in such a text. The
groups of the text of a valid time are that time.
-/
namespace DeliverySystem.CivilTimes
set_option autoImplicit false

/-- A date and a time of day. -/
structure CivilTime where
  year : ℕ
  month : ℕ
  day : ℕ
  hour : ℕ
  minute : ℕ
  second : ℕ
  microsecond : ℕ
deriving DecidableEq

def leapYear (year : ℕ) : Bool := year % 4 = 0 && (year % 100 ≠ 0 || year % 400 = 0)

/-- The number of days in a month. -/
def daysOf (year month : ℕ) : ℕ :=
  if month = 2 then (if leapYear year then 29 else 28)
  else if month ∈ [4, 6, 9, 11] then 30
  else 31

def CivilTime.Valid (t : CivilTime) : Prop :=
  (1 ≤ t.year ∧ t.year ≤ 9999) ∧ (1 ≤ t.month ∧ t.month ≤ 12) ∧
    (1 ≤ t.day ∧ t.day ≤ daysOf t.year t.month) ∧ t.hour ≤ 23 ∧ t.minute ≤ 59 ∧ t.second ≤ 59 ∧
    t.microsecond < 1000000

instance (t : CivilTime) : Decidable t.Valid := by
  unfold CivilTime.Valid
  infer_instance

/-- The last digits of a number, as many as the width. -/
def padded : ℕ → ℕ → List Char
  | 0, _ => []
  | width + 1, n => padded width (n / 10) ++ [Nat.digitChar (n % 10)]

/-- The characters of a time, up to the suffix `Z`. -/
def civilCharacters (t : CivilTime) (fraction : Bool) : List Char :=
  padded 4 t.year ++ '-' :: (padded 2 t.month ++ '-' :: (padded 2 t.day ++
    'T' :: (padded 2 t.hour ++ ':' :: (padded 2 t.minute ++ ':' :: (padded 2 t.second ++
      if fraction then '.' :: (padded 6 t.microsecond ++ ['Z']) else ['Z'])))))

def civilText (t : CivilTime) (fraction : Bool) : String :=
  String.ofList (civilCharacters t fraction)

def decimal (digits : List Char) : ℕ := digits.foldl (fun n c => 10 * n + (c.toNat - 48)) 0

/-- As many digits, with the number they write. -/
def digitGroup (width : ℕ) (text : List Char) : Option (ℕ × List Char) :=
  if (text.take width).length = width ∧ ∀ c ∈ text.take width, c.isDigit = true then
    some (decimal (text.take width), text.drop width)
  else none

def literal (c : Char) : List Char → Option (List Char)
  | [] => none
  | d :: rest => if d = c then some rest else none

/-- The fraction of the second, of one to six digits, and the suffix. -/
def fractionGroup : List Char → Option (ℕ × Bool)
  | '.' :: rest =>
      let digits := rest.takeWhile Char.isDigit
      if 1 ≤ digits.length ∧ digits.length ≤ 6 ∧ rest.drop digits.length = ['Z'] then
        some (decimal digits * 10 ^ (6 - digits.length), true)
      else none
  | ['Z'] => some (0, false)
  | _ => none

/-- The groups of a timestamp, and whether it has a fraction. -/
def timestampGroups (text : List Char) : Option (CivilTime × Bool) := do
  let (year, text) ← digitGroup 4 text
  let text ← literal '-' text
  let (month, text) ← digitGroup 2 text
  let text ← literal '-' text
  let (day, text) ← digitGroup 2 text
  let text ← literal 'T' text
  let (hour, text) ← digitGroup 2 text
  let text ← literal ':' text
  let (minute, text) ← digitGroup 2 text
  let text ← literal ':' text
  let (second, text) ← digitGroup 2 text
  let (microsecond, fraction) ← fractionGroup text
  pure (⟨year, month, day, hour, minute, second, microsecond⟩, fraction)

/-- The text is that of the valid time that its groups name. -/
def canonicalCivil (s : String) : Bool :=
  match timestampGroups s.toList with
  | some (t, fraction) => t.Valid && civilText t fraction = s
  | none => false

/-! ## Digits -/

@[simp] theorem padded_length (width n : ℕ) : (padded width n).length = width := by
  induction width generalizing n with
  | zero => rfl
  | succ width ih => rw [padded, List.length_append, ih, List.length_singleton]

theorem digitChar_isDigit {n : ℕ} (h : n < 10) :
    (Nat.digitChar n).isDigit = true ∧ (Nat.digitChar n).toNat - 48 = n := by
  have hall : ∀ d < 10, (Nat.digitChar d).isDigit = true ∧ (Nat.digitChar d).toNat - 48 = d := by
    decide
  exact hall n h

theorem padded_digits (width n : ℕ) : ∀ c ∈ padded width n, c.isDigit = true := by
  induction width generalizing n with
  | zero => simp [padded]
  | succ width ih =>
      intro c hc
      rw [padded, List.mem_append, List.mem_singleton] at hc
      rcases hc with hc | rfl
      · exact ih _ c hc
      · exact (digitChar_isDigit (Nat.mod_lt n (by decide))).1

theorem decimal_concat (digits : List Char) (c : Char) :
    decimal (digits ++ [c]) = 10 * decimal digits + (c.toNat - 48) := by
  rw [decimal, List.foldl_append]
  rfl

theorem decimal_padded {width n : ℕ} (h : n < 10 ^ width) : decimal (padded width n) = n := by
  induction width generalizing n with
  | zero =>
      rw [pow_zero, Nat.lt_one_iff] at h
      rw [h]
      rfl
  | succ width ih =>
      have hrest : n / 10 < 10 ^ width := by
        rw [Nat.div_lt_iff_lt_mul (by decide)]
        exact h
      rw [padded, decimal_concat, ih hrest, (digitChar_isDigit (Nat.mod_lt n (by decide))).2]
      omega

/-- The digits of a number are read back. -/
theorem digitGroup_padded {width n : ℕ} (h : n < 10 ^ width) (rest : List Char) :
    digitGroup width (padded width n ++ rest) = some (n, rest) := by
  have htake : (padded width n ++ rest).take width = padded width n :=
    List.take_left' (padded_length width n)
  have hdrop : (padded width n ++ rest).drop width = rest :=
    List.drop_left' (padded_length width n)
  rw [digitGroup, htake, hdrop, if_pos ⟨padded_length width n, padded_digits width n⟩,
    decimal_padded h]

theorem literal_self (c : Char) (rest : List Char) : literal c (c :: rest) = some rest :=
  if_pos rfl

theorem fractionGroup_padded {n : ℕ} (h : n < 1000000) :
    fractionGroup ('.' :: (padded 6 n ++ ['Z'])) = some (n, true) := by
  have hdigits : (padded 6 n ++ ['Z']).takeWhile Char.isDigit = padded 6 n := by
    rw [List.takeWhile_append_of_pos (padded_digits 6 n)]
    simp
  have hdrop : (padded 6 n ++ ['Z']).drop 6 = ['Z'] := List.drop_left' (padded_length 6 n)
  simp only [fractionGroup, hdigits, padded_length, hdrop]
  rw [if_pos (by decide), decimal_padded h]
  simp

/-! ## Texts -/

theorem CivilTime.Valid.widths {t : CivilTime} (h : t.Valid) :
    t.year < 10 ^ 4 ∧ t.month < 10 ^ 2 ∧ t.day < 10 ^ 2 ∧ t.hour < 10 ^ 2 ∧ t.minute < 10 ^ 2 ∧
      t.second < 10 ^ 2 := by
  obtain ⟨⟨-, hyear⟩, ⟨-, hmonth⟩, ⟨-, hday⟩, hhour, hminute, hsecond, -⟩ := h
  have hdays : daysOf t.year t.month ≤ 31 := by
    unfold daysOf
    split_ifs <;> decide
  omega

/-- The end of the text of a valid time. -/
theorem fractionGroup_text {n : ℕ} (h : n < 1000000) (fraction : Bool) :
    fractionGroup (if fraction then '.' :: (padded 6 n ++ ['Z']) else ['Z']) =
      some (if fraction then n else 0, fraction) := by
  cases fraction
  · rfl
  · exact fractionGroup_padded h

/-- The groups of the text of a valid time. -/
theorem timestampGroups_text {t : CivilTime} (h : t.Valid) (fraction : Bool) :
    timestampGroups (civilCharacters t fraction) =
      some (if fraction then t else { t with microsecond := 0 }, fraction) := by
  obtain ⟨hyear, hmonth, hday, hhour, hminute, hsecond⟩ := h.widths
  obtain ⟨-, -, -, -, -, -, hmicrosecond⟩ := h
  rw [timestampGroups, civilCharacters]
  simp only [Option.bind_eq_bind, Option.bind_eq_some_iff, Prod.exists]
  refine ⟨_, _, digitGroup_padded hyear _, _, literal_self _ _, _, _, digitGroup_padded hmonth _,
    _, literal_self _ _, _, _, digitGroup_padded hday _, _, literal_self _ _, _, _,
    digitGroup_padded hhour _, _, literal_self _ _, _, _, digitGroup_padded hminute _, _,
    literal_self _ _, _, _, digitGroup_padded hsecond _, _, _,
    fractionGroup_text hmicrosecond fraction, ?_⟩
  cases fraction <;> rfl

/-- The text of a valid time is canonical. -/
theorem canonicalCivil_text {t : CivilTime} (h : t.Valid) (fraction : Bool) :
    canonicalCivil (civilText t fraction) = true := by
  rw [canonicalCivil, civilText, String.toList_ofList, timestampGroups_text h]
  cases fraction
  · have hwhole : CivilTime.Valid { t with microsecond := 0 } :=
      ⟨h.1, h.2.1, h.2.2.1, h.2.2.2.1, h.2.2.2.2.1, h.2.2.2.2.2.1, Nat.zero_lt_succ _⟩
    simp [hwhole, civilText, civilCharacters]
  · simp [h, civilText]

end DeliverySystem.CivilTimes
