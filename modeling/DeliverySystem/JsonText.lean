import DeliverySystem.PythonValues
import DeliverySystem.TextLines
import Mathlib.Data.List.TakeDrop

/-!
# JSON text

`json.dumps` with sorted keys, no blanks, and non-ASCII text as it is, and
`json.loads`, which gives the pairs of every object to a hook. Reading back what
was written from a value gives the value.
-/
namespace DeliverySystem.JsonText
open PythonValues
set_option autoImplicit false

/-! ## Writing -/

def hexDigit (n : Nat) : Char := if n < 10 then Char.ofNat (48 + n) else Char.ofNat (87 + n)

def escapeChar (c : Char) : List Char :=
  if c = '"' then ['\\', '"']
  else if c = '\\' then ['\\', '\\']
  else if c = '\n' then ['\\', 'n']
  else if c = '\r' then ['\\', 'r']
  else if c = '\t' then ['\\', 't']
  else if c.toNat = 8 then ['\\', 'b']
  else if c.toNat = 12 then ['\\', 'f']
  else if c.toNat < 32 then
    ['\\', 'u', '0', '0', hexDigit (c.toNat / 16), hexDigit (c.toNat % 16)]
  else [c]

def quoted (s : List Char) : List Char := '"' :: s.flatMap escapeChar ++ ['"']

mutual
/-- JSON without blanks and with sorted keys; `text` is applied to every string. -/
def render (text : String → List Char) : Value → List Char
  | .null => ['n', 'u', 'l', 'l']
  | .bool true => ['t', 'r', 'u', 'e']
  | .bool false => ['f', 'a', 'l', 's', 'e']
  | .int n => (toString n).toList
  | .float literal => literal.toList
  | .str s => quoted (text s)
  | .list items => '[' :: [','].intercalate (renderItems text items) ++ [']']
  | .tuple items => '[' :: [','].intercalate (renderItems text items) ++ [']']
  | .dict entries =>
      let fields := (renderEntries text entries).insertionSort fun a b => a.1 ≤ b.1
      '\x7b' :: [','].intercalate (fields.map fun field =>
        quoted field.1.toList ++ ':' :: field.2) ++ ['\x7d']

def renderItems (text : String → List Char) : List Value → List (List Char)
  | [] => []
  | item :: rest => render text item :: renderItems text rest

def renderEntries (text : String → List Char) :
    List (String × Value) → List (String × List Char)
  | [] => []
  | (key, value) :: rest => (key, render text value) :: renderEntries text rest
end

/-- `json.dumps(value, ensure_ascii=False, sort_keys=True, separators=(",", ":"))` -/
def dumps (value : Value) : String := String.ofList (render String.toList value)

/-! ## Reading -/

def isBlank (c : Char) : Bool := c = ' ' || c = '\t' || c = '\n' || c = '\r'

def skip (text : List Char) : List Char := text.dropWhile isBlank

def hexValue? (c : Char) : Option Nat :=
  if c.isDigit then some (c.toNat - 48)
  else if 'a' ≤ c ∧ c ≤ 'f' then some (c.toNat - 87)
  else if 'A' ≤ c ∧ c ≤ 'F' then some (c.toNat - 55)
  else none

/-- The code unit that four hexadecimal digits write. -/
def scanUnit : List Char → Option (Nat × List Char)
  | a :: b :: c :: d :: rest => do
      let a ← hexValue? a
      let b ← hexValue? b
      let c ← hexValue? c
      let d ← hexValue? d
      some (((a * 16 + b) * 16 + c) * 16 + d, rest)
  | _ => none

/-- The character after a backslash. A surrogate that is not half of a pair is
no character; Python keeps it in the text, from where it can never be encoded. -/
def scanEscape : List Char → Option (Char × List Char)
  | '"' :: rest => some ('"', rest)
  | '\\' :: rest => some ('\\', rest)
  | '/' :: rest => some ('/', rest)
  | 'b' :: rest => some (Char.ofNat 8, rest)
  | 'f' :: rest => some (Char.ofNat 12, rest)
  | 'n' :: rest => some ('\n', rest)
  | 'r' :: rest => some ('\r', rest)
  | 't' :: rest => some ('\t', rest)
  | 'u' :: rest => do
      let (high, rest) ← scanUnit rest
      if 0xd800 ≤ high ∧ high < 0xdc00 then
        match rest with
        | '\\' :: 'u' :: rest => do
            let (low, rest) ← scanUnit rest
            if 0xdc00 ≤ low ∧ low < 0xe000 then
              some (Char.ofNat (0x10000 + (high - 0xd800) * 0x400 + (low - 0xdc00)), rest)
            else none
        | _ => none
      else if 0xdc00 ≤ high ∧ high < 0xe000 then none
      else some (Char.ofNat high, rest)
  | _ => none

/-- The rest of a string after its opening quote, up to its closing one. -/
def scanString : Nat → List Char → Option (List Char × List Char)
  | 0, _ => none
  | _, [] => none
  | fuel + 1, c :: rest =>
      if c = '"' then some ([], rest)
      else if c = '\\' then do
        let (c, rest) ← scanEscape rest
        let (s, rest) ← scanString fuel rest
        some (c :: s, rest)
      else if c.toNat < 32 then none
      else do
        let (s, rest) ← scanString fuel rest
        some (c :: s, rest)

def scanFraction : List Char → List Char × List Char
  | '.' :: rest =>
      let (digits, after) := rest.span Char.isDigit
      if digits = [] then ([], '.' :: rest) else ('.' :: digits, after)
  | text => ([], text)

def scanExponent : List Char → List Char × List Char
  | [] => ([], [])
  | e :: rest =>
      let (sign, body) := match rest with
        | '-' :: body => (['-'], body)
        | '+' :: body => (['+'], body)
        | body => ([], body)
      let (digits, after) := body.span Char.isDigit
      if (e = 'e' ∨ e = 'E') ∧ digits ≠ [] then (e :: sign ++ digits, after)
      else ([], e :: rest)

/-- A number has no leading zeros. -/
def scanNumber (text : List Char) : Option (Value × List Char) :=
  let (sign, body) := match text with
    | '-' :: body => (['-'], body)
    | body => ([], body)
  let (digits, rest) := match body with
    | '0' :: rest => (['0'], rest)
    | body => body.span Char.isDigit
  if digits = [] then none
  else
    let (fraction, rest) := scanFraction rest
    let (exponent, rest) := scanExponent rest
    if fraction = [] ∧ exponent = [] then
      let n : Nat := Nat.ofDigitChars 10 digits 0
      some (.int (if sign = [] then n else -n), rest)
    else some (.float (String.ofList (sign ++ digits ++ fraction ++ exponent)), rest)

def scanLiteral : List Char → Option (Value × List Char)
  | 'n' :: 'u' :: 'l' :: 'l' :: rest => some (.null, rest)
  | 't' :: 'r' :: 'u' :: 'e' :: rest => some (.bool true, rest)
  | 'f' :: 'a' :: 'l' :: 's' :: 'e' :: rest => some (.bool false, rest)
  | 'N' :: 'a' :: 'N' :: rest => some (.float "NaN", rest)
  | 'I' :: 'n' :: 'f' :: 'i' :: 'n' :: 'i' :: 't' :: 'y' :: rest => some (.float "Infinity", rest)
  | '-' :: 'I' :: 'n' :: 'f' :: 'i' :: 'n' :: 'i' :: 't' :: 'y' :: rest =>
      some (.float "-Infinity", rest)
  | text => scanNumber text

mutual
/-- The value at the front of a text, which starts with no blank. -/
def scanValue (hook : Dict → Option Value) : Nat → List Char → Option (Value × List Char)
  | 0, _ => none
  | _, [] => none
  | fuel + 1, c :: text =>
      if c = '"' then do
        let (s, rest) ← scanString (text.length + 1) text
        some (.str (String.ofList s), rest)
      else if c = '[' then
        match skip text with
        | ']' :: rest => some (.list [], rest)
        | text => do
            let (items, rest) ← scanItems hook fuel text
            some (.list items, rest)
      else if c = '\x7b' then
        match skip text with
        | '\x7d' :: rest => do
            let value ← hook []
            some (value, rest)
        | text => do
            let (entries, rest) ← scanEntries hook fuel text
            let value ← hook entries
            some (value, rest)
      else scanLiteral (c :: text)

def scanItems (hook : Dict → Option Value) : Nat → List Char → Option (List Value × List Char)
  | 0, _ => none
  | fuel + 1, text => do
      let (item, rest) ← scanValue hook fuel text
      match skip rest with
      | ',' :: rest => do
          let (items, rest) ← scanItems hook fuel (skip rest)
          some (item :: items, rest)
      | ']' :: rest => some ([item], rest)
      | _ => none

def scanEntries (hook : Dict → Option Value) :
    Nat → List Char → Option (Dict × List Char)
  | 0, _ => none
  | fuel + 1, '"' :: text => do
      let (key, rest) ← scanString (text.length + 1) text
      match skip rest with
      | ':' :: rest => do
          let (value, rest) ← scanValue hook fuel (skip rest)
          match skip rest with
          | ',' :: rest => do
              let (entries, rest) ← scanEntries hook fuel (skip rest)
              some ((String.ofList key, value) :: entries, rest)
          | '\x7d' :: rest => some ([(String.ofList key, value)], rest)
          | _ => none
      | _ => none
  | _, _ => none
end

/-- `json.loads(text, object_pairs_hook=hook)`; `none` where it raises. -/
def loads (hook : Dict → Option Value) (text : String) : Option Value := do
  let (value, rest) ← scanValue hook (text.toList.length + 1) (skip text.toList)
  if skip rest = [] then some value else none

/-! ## Strings come back -/

theorem hexValue?_hexDigit {n : Nat} (h : n < 16) : hexValue? (hexDigit n) = some n := by
  have hall : ∀ k < 16, hexValue? (hexDigit k) = some k := by decide
  exact hall n h

/-- A control character is written by its code unit. -/
theorem scanEscape_control {n : Nat} (h : n < 32) (rest : List Char) :
    scanEscape ('u' :: '0' :: '0' :: hexDigit (n / 16) :: hexDigit (n % 16) :: rest) =
      some (Char.ofNat n, rest) := by
  have hzero : hexValue? '0' = some 0 := by decide
  have hhigh := hexValue?_hexDigit (n := n / 16) (by omega)
  have hlow := hexValue?_hexDigit (n := n % 16) (by omega)
  have hvalue : n / 16 * 16 + n % 16 = n := by omega
  have hhigh' : ¬(0xd800 ≤ n ∧ n < 0xdc00) := by omega
  have hlow' : ¬(0xdc00 ≤ n ∧ n < 0xe000) := by omega
  simp only [scanEscape, scanUnit, hzero, hhigh, hlow, Option.bind_eq_bind, Option.bind_some,
    Nat.zero_mul, Nat.zero_add, hvalue, if_neg hhigh', if_neg hlow']

theorem scanString_escapeChar (fuel : Nat) (c : Char) (text : List Char) :
    scanString (fuel + 1) (escapeChar c ++ text) =
      (scanString fuel text).map fun p => (c :: p.1, p.2) := by
  have hback : ∀ (e d : Char) (rest : List Char), scanEscape (e :: rest) = some (d, rest) →
      scanString (fuel + 1) ('\\' :: e :: rest) =
        (scanString fuel rest).map fun p => (d :: p.1, p.2) := by
    intro e d rest hescape
    simp only [scanString, if_true, hescape]
    cases hrest : scanString fuel rest <;> simp [hrest]
  unfold escapeChar
  split_ifs with h1 h2 h3 h4 h5 h6 h7 h8
  · subst h1
    exact hback '"' '"' text rfl
  · subst h2
    exact hback '\\' '\\' text rfl
  · subst h3
    exact hback 'n' '\n' text rfl
  · subst h4
    exact hback 'r' '\r' text rfl
  · subst h5
    exact hback 't' '\t' text rfl
  · rw [← Char.ofNat_toNat c, h6]
    exact hback 'b' _ text rfl
  · rw [← Char.ofNat_toNat c, h7]
    exact hback 'f' _ text rfl
  · have hcontrol := scanEscape_control h8 text
    rw [Char.ofNat_toNat] at hcontrol
    simp only [List.cons_append, List.nil_append, scanString, if_true, hcontrol]
    cases htext : scanString fuel text <;> simp [htext]
  · simp only [List.cons_append, List.nil_append, scanString, if_neg h1, if_neg h2, if_neg h8]
    cases scanString fuel text <;> simp

/-- A quoted text is read back, with what follows it. -/
theorem scanString_quoted (s rest : List Char) {fuel : Nat} (h : s.length < fuel) :
    scanString fuel (s.flatMap escapeChar ++ '"' :: rest) = some (s, rest) := by
  induction s generalizing fuel with
  | nil =>
      obtain ⟨fuel, rfl⟩ := Nat.exists_eq_add_of_lt h
      simp [scanString]
  | cons c s ih =>
      rw [List.length_cons] at h
      obtain ⟨fuel, rfl⟩ : ∃ n, fuel = n + 1 := ⟨fuel - 1, by omega⟩
      rw [List.flatMap_cons, List.append_assoc, scanString_escapeChar, ih (by omega)]
      rfl

/-! ## Numbers come back -/

/-- A positive number is not written with a leading zero. -/
theorem toDigits_head {n : Nat} (hn : 0 < n) : (Nat.toDigits 10 n).head? ≠ some '0' := by
  induction n using Nat.strong_induction_on with
  | _ n ih =>
      rcases Nat.lt_or_ge n 10 with hlt | hge
      · have hdigit : ∀ d < 10, 0 < d → [Nat.digitChar d].head? ≠ some '0' := by decide
        rw [Nat.toDigits_of_lt_base hlt]
        exact hdigit n hlt hn
      · rw [Nat.toDigits_of_base_le (by decide) hge,
          List.head?_append_of_ne_nil _ Nat.toDigits_ne_nil]
        exact ih (n / 10) (by omega) (by omega)

theorem isDigit_toDigits (n : Nat) : ∀ c ∈ Nat.toDigits 10 n, c.isDigit = true :=
  fun _ hc => Nat.isDigit_of_mem_toDigits (by decide) (by decide) hc

/-- What may follow a value: nothing that a number could go on with. -/
def Ends (rest : List Char) : Prop :=
  ∀ c ∈ rest.head?, c.isDigit = false ∧ c ≠ '.' ∧ c ≠ 'e' ∧ c ≠ 'E'

theorem span_digits {digits rest : List Char} (hdigits : ∀ c ∈ digits, c.isDigit = true)
    (hrest : ∀ c ∈ rest.head?, c.isDigit = false) :
    (digits ++ rest).span Char.isDigit = (digits, rest) := by
  obtain ⟨htaken, hdropped⟩ := TextLines.takeWhile_split hdigits hrest
  rw [List.span_eq_takeWhile_dropWhile, htaken, hdropped]

theorem scanFraction_ends {rest : List Char} (h : Ends rest) : scanFraction rest = ([], rest) := by
  unfold scanFraction
  split
  · exact absurd rfl (h '.' rfl).2.1
  · rfl

theorem scanExponent_ends {rest : List Char} (h : Ends rest) : scanExponent rest = ([], rest) := by
  cases rest with
  | nil => rfl
  | cons e rest =>
      obtain ⟨-, -, he, hE⟩ := h e rfl
      unfold scanExponent
      simp [he, hE]

theorem isDigit_of_toDigits_eq {n : Nat} {rest after : List Char} {c : Char}
    (h : Nat.toDigits 10 n ++ rest = c :: after) : c.isDigit = true := by
  cases hdigits : Nat.toDigits 10 n with
  | nil => exact absurd hdigits Nat.toDigits_ne_nil
  | cons d ds =>
      rw [hdigits, List.cons_append, List.cons.injEq] at h
      rw [← h.1]
      exact isDigit_toDigits n d (by rw [hdigits]; exact List.mem_cons_self)

/-- The digits of a number are read back, with either sign. -/
theorem scanNumber_digits (n : Nat) {rest : List Char} (h : Ends rest) :
    scanNumber (Nat.toDigits 10 n ++ rest) = some (.int n, rest) ∧
      scanNumber ('-' :: (Nat.toDigits 10 n ++ rest)) = some (.int (-n), rest) := by
  have hbody : (match Nat.toDigits 10 n ++ rest with
      | '0' :: rest => (['0'], rest)
      | body => body.span Char.isDigit) = (Nat.toDigits 10 n, rest) := by
    rcases Nat.eq_zero_or_pos n with rfl | hn
    · rfl
    · split
      · rename_i after heq
        have hhead := toDigits_head hn
        rw [← List.head?_append_of_ne_nil _ Nat.toDigits_ne_nil, heq] at hhead
        exact absurd rfl hhead
      · exact span_digits (isDigit_toDigits n) fun c hc => (h c hc).1
  have hsign : (match Nat.toDigits 10 n ++ rest with
      | '-' :: body => (['-'], body)
      | body => ([], body)) = ([], Nat.toDigits 10 n ++ rest) := by
    split
    · rename_i after heq
      exact absurd (isDigit_of_toDigits_eq heq) (by decide)
    · rfl
  constructor
  · simp only [scanNumber, hsign, hbody, Nat.toDigits_ne_nil, scanFraction_ends h,
      scanExponent_ends h, Nat.ofDigitChars_ten_toDigits, if_false, and_self, if_true]
  · simp only [scanNumber, hbody, Nat.toDigits_ne_nil, scanFraction_ends h,
      scanExponent_ends h, Nat.ofDigitChars_ten_toDigits, if_false, and_self, if_true,
      reduceCtorEq]

/-- A decimal is no literal. -/
theorem scanLiteral_int (n : Int) {rest : List Char} (h : Ends rest) :
    scanLiteral ((toString n).toList ++ rest) = some (.int n, rest) := by
  rw [Int.toString_eq_repr, Int.repr_eq_if]
  split_ifs with hn
  · obtain ⟨k, rfl⟩ := Int.eq_ofNat_of_zero_le hn
    rw [Int.toNat_natCast, Nat.toList_repr]
    unfold scanLiteral
    split
    all_goals first
      | exact (scanNumber_digits k h).1
      | exact absurd (isDigit_of_toDigits_eq ‹_›) (by decide)
  · obtain ⟨k, hk⟩ := Int.eq_ofNat_of_zero_le (a := -n) (by omega)
    have hn' : n = -(k : Int) := by omega
    rw [hk, Int.toNat_natCast, String.toList_append, Nat.toList_repr]
    have hcons : "-".toList ++ Nat.toDigits 10 k ++ rest = '-' :: (Nat.toDigits 10 k ++ rest) := rfl
    rw [hcons]
    unfold scanLiteral
    split
    case h_6 heq =>
      exact absurd (isDigit_of_toDigits_eq (List.cons.inj heq).2) (by decide)
    case h_7 =>
      rw [hn']
      exact (scanNumber_digits k h).2
    all_goals exact absurd (List.cons.inj ‹_›).1 (by decide)

/-! ## Floats come back -/

/-- The parts of the text that `float.__repr__` makes of a finite number, which
has decimals or a power of ten. -/
structure FloatParts where
  sign : List Char
  digits : List Char
  fraction : List Char
  exponent : List Char
  signed : sign = [] ∨ sign = ['-']
  nonempty : digits ≠ []
  decimal : ∀ c ∈ digits, c.isDigit = true
  leading : digits.head? = some '0' → digits = ['0']
  fractional : fraction = [] ∨ ∃ decimals, fraction = '.' :: decimals ∧ decimals ≠ [] ∧
    ∀ c ∈ decimals, c.isDigit = true
  exponential : exponent = [] ∨ ∃ sign power, exponent = 'e' :: sign :: power ∧
    (sign = '+' ∨ sign = '-') ∧ power ≠ [] ∧ ∀ c ∈ power, c.isDigit = true
  nonintegral : ¬(fraction = [] ∧ exponent = [])

def FloatParts.text (p : FloatParts) : List Char :=
  p.sign ++ p.digits ++ p.fraction ++ p.exponent

def FloatText (literal : String) : Prop := ∃ p : FloatParts, literal.toList = p.text

theorem scanFraction_read {fraction rest : List Char}
    (h : fraction = [] ∨ ∃ decimals, fraction = '.' :: decimals ∧ decimals ≠ [] ∧
      ∀ c ∈ decimals, c.isDigit = true)
    (hrest : ∀ c ∈ rest.head?, c.isDigit = false ∧ c ≠ '.') :
    scanFraction (fraction ++ rest) = (fraction, rest) := by
  obtain rfl | ⟨decimals, rfl, hne, hdigits⟩ := h
  · rw [List.nil_append]
    unfold scanFraction
    split
    · exact absurd rfl (hrest '.' rfl).2
    · rfl
  · rw [List.cons_append]
    simp only [scanFraction, span_digits hdigits fun c hc => (hrest c hc).1, if_neg hne]

theorem scanExponent_read {exponent rest : List Char}
    (h : exponent = [] ∨ ∃ sign power, exponent = 'e' :: sign :: power ∧
      (sign = '+' ∨ sign = '-') ∧ power ≠ [] ∧ ∀ c ∈ power, c.isDigit = true)
    (hrest : Ends rest) : scanExponent (exponent ++ rest) = (exponent, rest) := by
  obtain rfl | ⟨sign, power, rfl, hsign, hne, hdigits⟩ := h
  · exact scanExponent_ends hrest
  · have hspan := span_digits hdigits fun c hc => (hrest c hc).1
    rcases hsign with rfl | rfl <;>
      simp only [scanExponent, List.cons_append, hspan, true_or, true_and, ne_eq, hne,
        not_false_eq_true, if_true, List.nil_append]

/-- Where the whole part of a number ends. -/
theorem FloatParts.after_digits (p : FloatParts) {rest : List Char} (hrest : Ends rest) :
    (∀ c ∈ (p.fraction ++ p.exponent ++ rest).head?, c.isDigit = false) ∧
      ∀ c ∈ (p.exponent ++ rest).head?, c.isDigit = false ∧ c ≠ '.' := by
  have hexponent : ∀ c ∈ (p.exponent ++ rest).head?, c.isDigit = false ∧ c ≠ '.' := by
    obtain h | ⟨sign, power, h, -⟩ := p.exponential
    · rw [h, List.nil_append]
      exact fun c hc => ⟨(hrest c hc).1, (hrest c hc).2.1⟩
    · rw [h]
      intro c hc
      cases hc
      exact ⟨by decide, by decide⟩
  refine ⟨?_, hexponent⟩
  obtain h | ⟨decimals, h, -⟩ := p.fractional
  · rw [h, List.nil_append]
    exact fun c hc => (hexponent c hc).1
  · rw [h]
    intro c hc
    cases hc
    decide

/-- The whole part of a number is read up to its decimals. -/
theorem FloatParts.scan_whole (p : FloatParts) {rest : List Char} (hrest : Ends rest) :
    (match p.digits ++ (p.fraction ++ p.exponent ++ rest) with
      | '0' :: rest => (['0'], rest)
      | body => body.span Char.isDigit) = (p.digits, p.fraction ++ p.exponent ++ rest) := by
  split
  · rename_i after heq
    have hhead : p.digits.head? = some '0' := by
      rw [← List.head?_append_of_ne_nil _ p.nonempty, heq]
      rfl
    rw [p.leading hhead] at heq ⊢
    rw [List.singleton_append, List.cons.injEq] at heq
    rw [heq.2]
  · exact span_digits p.decimal (p.after_digits hrest).1

/-- The first digit of a number is no sign. -/
theorem FloatParts.digits_cons (p : FloatParts) : ∃ c digits, p.digits = c :: digits ∧
    c.isDigit = true := by
  obtain ⟨c, digits, hdigits⟩ := List.exists_cons_of_ne_nil p.nonempty
  exact ⟨c, digits, hdigits, p.decimal c (by rw [hdigits]; exact List.mem_cons_self)⟩

theorem scanNumber_float (p : FloatParts) {rest : List Char} (hrest : Ends rest) :
    scanNumber (p.text ++ rest) = some (.float (String.ofList p.text), rest) := by
  have hsign : (match p.text ++ rest with
      | '-' :: body => (['-'], body)
      | body => ([], body)) = (p.sign, p.digits ++ (p.fraction ++ p.exponent ++ rest)) := by
    rcases p.signed with h | h
    · obtain ⟨c, digits, hdigits, hc⟩ := p.digits_cons
      simp only [FloatParts.text, h, List.nil_append, List.append_assoc]
      split
      · rename_i after heq
        rw [hdigits, List.cons_append, List.cons.injEq] at heq
        rw [heq.1] at hc
        exact absurd hc (by decide)
      · rfl
    · simp only [FloatParts.text, h, List.cons_append, List.nil_append, List.append_assoc]
  have hfraction : scanFraction (p.fraction ++ p.exponent ++ rest) =
      (p.fraction, p.exponent ++ rest) := by
    rw [List.append_assoc]
    exact scanFraction_read p.fractional (p.after_digits hrest).2
  have hexponent := scanExponent_read p.exponential hrest
  simp only [scanNumber, hsign, p.scan_whole hrest, if_neg p.nonempty, hfraction, hexponent,
    if_neg p.nonintegral]
  rfl

/-- A float starts with a digit, or with a minus and a digit. -/
theorem FloatParts.text_cons (p : FloatParts) :
    (∃ c rest, p.text = c :: rest ∧ c.isDigit = true) ∨
      ∃ c rest, p.text = '-' :: c :: rest ∧ c.isDigit = true := by
  obtain ⟨c, digits, hdigits, hc⟩ := p.digits_cons
  rcases p.signed with h | h
  · exact .inl ⟨c, digits ++ p.fraction ++ p.exponent, by simp [FloatParts.text, h, hdigits], hc⟩
  · exact .inr ⟨c, digits ++ p.fraction ++ p.exponent, by simp [FloatParts.text, h, hdigits], hc⟩

theorem scanLiteral_float (p : FloatParts) {rest : List Char} (hrest : Ends rest) :
    scanLiteral (p.text ++ rest) = some (.float (String.ofList p.text), rest) := by
  have hnumber := scanNumber_float p hrest
  have hne : ∀ c d : Char, c.isDigit = true → d.isDigit = false → c ≠ d := by
    rintro c _ hc hd rfl
    rw [hc] at hd
    cases hd
  rcases p.text_cons with ⟨c, text, htext, hc⟩ | ⟨c, text, htext, hc⟩
  all_goals
    rw [htext] at hnumber ⊢
    simp only [List.cons_append] at hnumber ⊢
    unfold scanLiteral
    split
    case h_7 => exact hnumber
  all_goals
    rename_i heq
    simp only [List.cons.injEq] at heq
    first
      | exact absurd heq.1 (hne _ _ hc (by decide))
      | exact absurd heq.1 (by decide)
      | exact absurd heq.2.1 (hne _ _ hc (by decide))

/-! ## Values come back -/

mutual
/-- A value that JSON text holds as it is: finite floats, no tuples, and the keys
of every mapping in order. -/
def Plain : Value → Prop
  | .null | .bool _ | .int _ | .str _ => True
  | .float literal => FloatText literal
  | .tuple _ => False
  | .list items => PlainItems items
  | .dict entries => (entries.map Prod.fst).Pairwise (· < ·) ∧ PlainEntries entries

def PlainItems : List Value → Prop
  | [] => True
  | item :: rest => Plain item ∧ PlainItems rest

def PlainEntries : Dict → Prop
  | [] => True
  | (_, value) :: rest => Plain value ∧ PlainEntries rest
end

/-- The members of an object as they are written. -/
def renderFields (text : String → List Char) (entries : Dict) : List (List Char) :=
  (renderEntries text entries).map fun field => quoted field.1.toList ++ ':' :: field.2

theorem renderFields_cons (text : String → List Char) (key : String) (value : Value)
    (entries : Dict) : renderFields text ((key, value) :: entries) =
      (quoted key.toList ++ ':' :: render text value) :: renderFields text entries := rfl

theorem keys_renderEntries (text : String → List Char) (entries : Dict) :
    (renderEntries text entries).map Prod.fst = entries.map Prod.fst := by
  induction entries with
  | nil => rfl
  | cons entry entries ih =>
      obtain ⟨key, value⟩ := entry
      simp [renderEntries, ih]

theorem render_dict {entries : Dict} (text : String → List Char)
    (h : (entries.map Prod.fst).Pairwise (· < ·)) : render text (.dict entries) =
      '\x7b' :: [','].intercalate (renderFields text entries) ++ ['\x7d'] := by
  have hsorted : (renderEntries text entries).Pairwise fun a b => a.1 ≤ b.1 := by
    have hkeys := keys_renderEntries text entries ▸ h
    exact (List.pairwise_map.mp hkeys).imp fun hlt => hlt.le
  simp only [render, hsorted.insertionSort_eq, renderFields]

/-- The first character of a value is no blank and closes no array. -/
def Opens (text : List Char) : Prop :=
  ∃ c rest, text = c :: rest ∧ isBlank c = false ∧ c ≠ ']'

theorem Opens.append {text : List Char} (h : Opens text) (rest : List Char) :
    Opens (text ++ rest) := by
  obtain ⟨c, text, rfl, hblank, hclose⟩ := h
  exact ⟨c, text ++ rest, rfl, hblank, hclose⟩

theorem Opens.skip {text : List Char} (h : Opens text) : skip text = text := by
  obtain ⟨c, text, rfl, hblank, -⟩ := h
  exact List.dropWhile_cons_of_neg (by simp [hblank])

theorem toDigits_cons (n : Nat) :
    ∃ c rest, Nat.toDigits 10 n = c :: rest ∧ c.isDigit = true := by
  cases hdigits : Nat.toDigits 10 n with
  | nil => exact absurd hdigits Nat.toDigits_ne_nil
  | cons c rest => exact ⟨c, rest, rfl, isDigit_toDigits n c (by rw [hdigits]; simp)⟩

/-- A decimal starts with a digit or a minus. -/
theorem toString_cons (n : Int) :
    ∃ c rest, (toString n).toList = c :: rest ∧ (c.isDigit = true ∨ c = '-') := by
  rw [Int.toString_eq_repr, Int.repr_eq_if]
  split_ifs with hn
  · obtain ⟨c, rest, hdigits, hc⟩ := toDigits_cons n.toNat
    exact ⟨c, rest, by rw [Nat.toList_repr, hdigits], .inl hc⟩
  · refine ⟨'-', Nat.toDigits 10 (-n).toNat, ?_, .inr rfl⟩
    rw [String.toList_append, Nat.toList_repr]
    rfl

/-- A character of a number is no blank and neither opens nor closes a value. -/
theorem numeral_ne {c : Char} (h : c.isDigit = true ∨ c = '-') :
    isBlank c = false ∧ c ≠ ']' ∧ c ≠ '"' ∧ c ≠ '[' ∧ c ≠ '\x7b' := by
  have hne : ∀ d : Char, d.isDigit = false → d ≠ '-' → c ≠ d := by
    rintro d hdigit hminus rfl
    rcases h with h | h
    · rw [h] at hdigit
      cases hdigit
    · exact hminus h
  refine ⟨?_, hne _ (by decide) (by decide), hne _ (by decide) (by decide),
    hne _ (by decide) (by decide), hne _ (by decide) (by decide)⟩
  simp only [isBlank, Bool.or_eq_false_iff, decide_eq_false_iff_not]
  exact ⟨⟨⟨hne _ (by decide) (by decide), hne _ (by decide) (by decide)⟩,
    hne _ (by decide) (by decide)⟩, hne _ (by decide) (by decide)⟩

/-- A float starts with a digit or a minus. -/
theorem FloatParts.text_head (p : FloatParts) :
    ∃ c rest, p.text = c :: rest ∧ (c.isDigit = true ∨ c = '-') := by
  rcases p.text_cons with ⟨c, rest, h, hc⟩ | ⟨c, rest, h, -⟩
  · exact ⟨c, rest, h, .inl hc⟩
  · exact ⟨'-', c :: rest, h, .inr rfl⟩

theorem render_opens (text : String → List Char) {v : Value} (h : Plain v) :
    Opens (render text v) := by
  cases v with
  | null => exact ⟨'n', _, rfl, by decide, by decide⟩
  | bool b =>
      cases b
      · exact ⟨'f', _, rfl, by decide, by decide⟩
      · exact ⟨'t', _, rfl, by decide, by decide⟩
  | int n =>
      obtain ⟨c, rest, hcons, hc⟩ := toString_cons n
      exact ⟨c, rest, hcons, (numeral_ne hc).1, (numeral_ne hc).2.1⟩
  | float literal =>
      obtain ⟨p, hp⟩ := h
      obtain ⟨c, rest, hcons, hc⟩ := p.text_head
      exact ⟨c, rest, hp.trans hcons, (numeral_ne hc).1, (numeral_ne hc).2.1⟩
  | tuple => exact h.elim
  | str s => exact ⟨'"', _, rfl, by decide, by decide⟩
  | list items => exact ⟨'[', _, rfl, by decide, by decide⟩
  | dict entries => exact ⟨'\x7b', _, rfl, by decide, by decide⟩

theorem scanValue_literal (hook : Dict → Option Value) (fuel : Nat) {c : Char} {text : List Char}
    (hquote : c ≠ '"') (hlist : c ≠ '[') (hdict : c ≠ '\x7b') :
    scanValue hook (fuel + 1) (c :: text) = scanLiteral (c :: text) := by
  simp only [scanValue, if_neg hquote, if_neg hlist, if_neg hdict]

theorem scanValue_int (hook : Dict → Option Value) (fuel : Nat) (n : Int) {rest : List Char}
    (h : Ends rest) :
    scanValue hook (fuel + 1) ((toString n).toList ++ rest) = some (.int n, rest) := by
  obtain ⟨c, digits, hcons, hc⟩ := toString_cons n
  obtain ⟨-, -, hquote, hlist, hdict⟩ := numeral_ne hc
  rw [← scanLiteral_int n h, hcons, List.cons_append]
  exact scanValue_literal hook fuel hquote hlist hdict

theorem scanValue_float (hook : Dict → Option Value) (fuel : Nat) {literal : String}
    (hliteral : FloatText literal) {rest : List Char} (h : Ends rest) :
    scanValue hook (fuel + 1) (literal.toList ++ rest) = some (.float literal, rest) := by
  obtain ⟨p, hp⟩ := hliteral
  obtain ⟨c, text, hcons, hc⟩ := p.text_head
  obtain ⟨-, -, hquote, hlist, hdict⟩ := numeral_ne hc
  have hread := scanLiteral_float p h
  rw [← hp, String.ofList_toList] at hread
  rw [← hread, hp, hcons, List.cons_append]
  exact scanValue_literal hook fuel hquote hlist hdict

/-- What follows the first of the texts that are separated by commas and closed. -/
def following (close : Char) (texts : List (List Char)) (rest : List Char) : List Char :=
  match texts with
  | [] => close :: rest
  | texts => ',' :: ([','].intercalate texts ++ close :: rest)

theorem intercalate_following (close : Char) (text : List Char) (texts : List (List Char))
    (rest : List Char) : [','].intercalate (text :: texts) ++ close :: rest =
      text ++ following close texts rest := by
  cases texts with
  | nil => simp [following]
  | cons next texts => simp [following]

/-- What follows ends a value and starts with no blank. -/
theorem following_ends {close : Char} (hclose : close = ']' ∨ close = '\x7d')
    (texts : List (List Char)) (rest : List Char) : Ends (following close texts rest) ∧
      skip (following close texts rest) = following close texts rest := by
  cases texts with
  | nil => rcases hclose with rfl | rfl <;> exact ⟨by simp [Ends, following], rfl⟩
  | cons next texts => exact ⟨by simp [Ends, following], rfl⟩

/-- A hook that keeps a mapping whose keys differ. -/
def KeepsDistinct (hook : Dict → Option Value) : Prop :=
  ∀ entries : Dict, (entries.map Prod.fst).Nodup → hook entries = some (.dict entries)

/-- Enough fuel reads a written value, array rest, or object rest back, with what
follows it. -/
structure ReadsBack (hook : Dict → Option Value) (fuel : Nat) : Prop where
  value : ∀ (v : Value) (rest : List Char), Plain v → (render String.toList v).length ≤ fuel →
    Ends rest → scanValue hook fuel (render String.toList v ++ rest) = some (v, rest)
  items : ∀ (item : Value) (items : List Value) (rest : List Char), PlainItems (item :: items) →
    ([','].intercalate (renderItems String.toList (item :: items))).length < fuel →
    scanItems hook fuel ([','].intercalate (renderItems String.toList (item :: items)) ++
      ']' :: rest) = some (item :: items, rest)
  entries : ∀ (key : String) (value : Value) (entries : Dict) (rest : List Char),
    PlainEntries ((key, value) :: entries) →
    ([','].intercalate (renderFields String.toList ((key, value) :: entries))).length < fuel →
    scanEntries hook fuel
      ([','].intercalate (renderFields String.toList ((key, value) :: entries)) ++ '\x7d' :: rest) =
        some ((key, value) :: entries, rest)

variable {hook : Dict → Option Value} {fuel : Nat}

theorem length_le_flatMap_escapeChar (s : List Char) : s.length ≤ (s.flatMap escapeChar).length := by
  have hone : ∀ c, 1 ≤ (escapeChar c).length := by
    intro c
    unfold escapeChar
    split_ifs <;> simp
  induction s with
  | nil => simp
  | cons c s ih =>
      have := hone c
      rw [List.flatMap_cons, List.length_append, List.length_cons]
      omega

theorem scanString_enough (s rest : List Char) :
    scanString ((s.flatMap escapeChar ++ '"' :: rest).length + 1)
      (s.flatMap escapeChar ++ '"' :: rest) = some (s, rest) := by
  have hlength := length_le_flatMap_escapeChar s
  refine scanString_quoted s rest ?_
  rw [List.length_append]
  omega

/-- The first of several texts is no longer than all of them. -/
theorem length_intercalate_cons (text : List Char) (texts : List (List Char)) :
    text.length ≤ ([','].intercalate (text :: texts)).length ∧
      (texts ≠ [] → ([','].intercalate texts).length <
        ([','].intercalate (text :: texts)).length) := by
  cases texts with
  | nil => simp
  | cons next texts =>
      rw [List.intercalate_cons_cons, List.length_append, List.length_append]
      refine ⟨by omega, fun _ => ?_⟩
      rw [List.length_singleton]
      omega

theorem scanValue_array {text : List Char} (h : Opens text) :
    scanValue hook (fuel + 1) ('[' :: text) =
      (scanItems hook fuel text).map fun p => (.list p.1, p.2) := by
  have hskip := h.skip
  obtain ⟨c, text, rfl, -, hclose⟩ := h
  have hquote : '[' ≠ '"' := by decide
  simp only [scanValue, hskip, if_true, if_neg hquote]
  split
  · rename_i heq
    exact absurd (List.cons.inj heq).1 hclose
  · cases scanItems hook fuel (c :: text) <;> rfl

theorem scanValue_object (text : List Char) :
    scanValue hook (fuel + 1) ('\x7b' :: '"' :: text) =
      (scanEntries hook fuel ('"' :: text)).bind fun p =>
        (hook p.1).map fun value => (value, p.2) := by
  have hskip : skip ('"' :: text) = '"' :: text := rfl
  have hquote : '\x7b' ≠ '"' := by decide
  have hlist : '\x7b' ≠ '[' := by decide
  simp only [scanValue, hskip, if_true, if_neg hquote, if_neg hlist, Option.bind_eq_bind]
  split
  · rename_i heq
    exact absurd (List.cons.inj heq).1 (by decide)
  · cases scanEntries hook fuel ('"' :: text) with
    | none => rfl
    | some p =>
        simp only [Option.bind_some]
        cases hook p.1 <;> rfl

theorem ReadsBack.list (h : ReadsBack hook fuel) {items : List Value} {rest : List Char}
    (hplain : PlainItems items)
    (hfuel : (render String.toList (.list items)).length ≤ fuel + 1) :
    scanValue hook (fuel + 1) (render String.toList (.list items) ++ rest) =
      some (.list items, rest) := by
  cases items with
  | nil => rfl
  | cons item items =>
      have hlength : ([','].intercalate (renderItems String.toList (item :: items))).length <
          fuel := by
        simp only [render, List.length_append, List.length_cons, List.length_nil] at hfuel
        omega
      have htext : render String.toList (.list (item :: items)) ++ rest =
          '[' :: ([','].intercalate (renderItems String.toList (item :: items)) ++ ']' :: rest) := by
        simp only [render, List.cons_append, List.append_assoc, List.nil_append]
      have hopens : Opens ([','].intercalate (renderItems String.toList (item :: items)) ++
          ']' :: rest) := by
        rw [renderItems, intercalate_following]
        exact (render_opens String.toList hplain.1).append _
      rw [htext, scanValue_array hopens, h.items item items rest hplain hlength]
      rfl

theorem ReadsBack.dict (h : ReadsBack hook fuel) (hhook : KeepsDistinct hook) {entries : Dict}
    {rest : List Char} (hplain : Plain (.dict entries))
    (hfuel : (render String.toList (.dict entries)).length ≤ fuel + 1) :
    scanValue hook (fuel + 1) (render String.toList (.dict entries) ++ rest) =
      some (.dict entries, rest) := by
  obtain ⟨hsorted, hentries⟩ := hplain
  have hkept : hook entries = some (.dict entries) :=
    hhook entries (hsorted.imp fun hlt => hlt.ne)
  rw [render_dict _ hsorted] at hfuel ⊢
  have htext : '\x7b' :: [','].intercalate (renderFields String.toList entries) ++ ['\x7d'] ++ rest =
      '\x7b' :: ([','].intercalate (renderFields String.toList entries) ++ '\x7d' :: rest) := by
    simp
  rw [htext]
  cases entries with
  | nil =>
      have hskip : skip ('\x7d' :: rest) = '\x7d' :: rest := rfl
      simp [renderFields, renderEntries, scanValue, hskip, hkept]
  | cons entry entries =>
      obtain ⟨key, value⟩ := entry
      have hlength : ([','].intercalate (renderFields String.toList
          ((key, value) :: entries))).length < fuel := by
        simp only [List.length_append, List.length_cons, List.length_nil] at hfuel
        omega
      have hread := h.entries key value entries rest hentries hlength
      rw [renderFields_cons, intercalate_following, quoted] at hread ⊢
      simp only [List.cons_append] at hread ⊢
      rw [scanValue_object, hread, Option.bind_some, hkept]
      rfl

theorem ReadsBack.nextItem (h : ReadsBack hook fuel) {item : Value} {items : List Value}
    {rest : List Char} (hplain : PlainItems (item :: items))
    (hfuel : ([','].intercalate (renderItems String.toList (item :: items))).length < fuel + 1) :
    scanItems hook (fuel + 1) ([','].intercalate (renderItems String.toList (item :: items)) ++
      ']' :: rest) = some (item :: items, rest) := by
  rw [renderItems] at hfuel ⊢
  obtain ⟨hfirst, hothers⟩ := length_intercalate_cons (render String.toList item)
    (renderItems String.toList items)
  obtain ⟨hends, hskip⟩ := following_ends (.inl rfl) (renderItems String.toList items) rest
  have hitem := h.value item _ hplain.1 (by omega) hends
  rw [intercalate_following]
  cases items with
  | nil =>
      simp only [scanItems, hitem, hskip, Option.bind_eq_bind, Option.bind_some]
      rfl
  | cons next items =>
      have hread := h.items next items rest hplain.2 (by
        have := hothers (by simp [renderItems])
        omega)
      have hopens : Opens ([','].intercalate (renderItems String.toList (next :: items)) ++
          ']' :: rest) := by
        rw [renderItems, intercalate_following]
        exact (render_opens String.toList hplain.2.1).append _
      have hcomma : following ']' (renderItems String.toList (next :: items)) rest =
          ',' :: ([','].intercalate (renderItems String.toList (next :: items)) ++ ']' :: rest) :=
        rfl
      rw [hcomma] at hitem hskip ⊢
      simp only [scanItems, hitem, hskip, hopens.skip, hread, Option.bind_eq_bind,
        Option.bind_some]

theorem ReadsBack.nextEntry (h : ReadsBack hook fuel) {key : String} {value : Value}
    {entries : Dict} {rest : List Char} (hplain : PlainEntries ((key, value) :: entries))
    (hfuel : ([','].intercalate (renderFields String.toList ((key, value) :: entries))).length <
      fuel + 1) :
    scanEntries hook (fuel + 1)
      ([','].intercalate (renderFields String.toList ((key, value) :: entries)) ++ '\x7d' :: rest) =
        some ((key, value) :: entries, rest) := by
  rw [renderFields_cons] at hfuel ⊢
  obtain ⟨hfirst, hothers⟩ := length_intercalate_cons
    (quoted key.toList ++ ':' :: render String.toList value) (renderFields String.toList entries)
  rw [List.length_append, List.length_cons] at hfirst
  obtain ⟨hends, hskip⟩ := following_ends (.inr rfl) (renderFields String.toList entries) rest
  have hvalue := h.value value _ hplain.1 (by omega) hends
  have hopens := (render_opens String.toList hplain.1).append
    (following '\x7d' (renderFields String.toList entries) rest)
  rw [intercalate_following]
  have htext : quoted key.toList ++ ':' :: render String.toList value ++
      following '\x7d' (renderFields String.toList entries) rest =
        '"' :: (key.toList.flatMap escapeChar ++ '"' :: ':' :: (render String.toList value ++
          following '\x7d' (renderFields String.toList entries) rest)) := by
    simp [quoted]
  have hcolon : ∀ text, skip (':' :: text) = ':' :: text := fun _ => rfl
  rw [htext]
  simp only [scanEntries, scanString_enough, hcolon, hopens.skip, hvalue, hskip,
    Option.bind_eq_bind, Option.bind_some, String.ofList_toList]
  cases entries with
  | nil => rfl
  | cons next entries =>
      obtain ⟨key', value'⟩ := next
      have hread := h.entries key' value' entries rest hplain.2 (by
        have := hothers (by simp [renderFields_cons])
        omega)
      have hquote : skip ([','].intercalate (renderFields String.toList
          ((key', value') :: entries)) ++ '\x7d' :: rest) = [','].intercalate (renderFields
            String.toList ((key', value') :: entries)) ++ '\x7d' :: rest := by
        rw [renderFields_cons, intercalate_following]
        rfl
      have hcomma : following '\x7d' (renderFields String.toList ((key', value') :: entries)) rest =
          ',' :: ([','].intercalate (renderFields String.toList ((key', value') :: entries)) ++
            '\x7d' :: rest) := rfl
      rw [hcomma]
      simp only [hquote, hread, Option.bind_some]

theorem ReadsBack.succ (h : ReadsBack hook fuel) (hhook : KeepsDistinct hook) :
    ReadsBack hook (fuel + 1) := by
  refine ⟨fun v rest hplain hfuel hrest => ?_, fun _ _ _ => h.nextItem,
    fun _ _ _ _ => h.nextEntry⟩
  cases v with
  | null => exact scanValue_literal hook fuel (by decide) (by decide) (by decide)
  | bool b => cases b <;> exact scanValue_literal hook fuel (by decide) (by decide) (by decide)
  | int n => exact scanValue_int hook fuel n hrest
  | float literal => exact scanValue_float hook fuel hplain hrest
  | tuple => exact hplain.elim
  | str s =>
      simp only [render, quoted, List.cons_append, List.append_assoc, List.nil_append, scanValue,
        if_true, scanString_enough, Option.bind_eq_bind, Option.bind_some, String.ofList_toList]
  | list items => exact h.list hplain hfuel
  | dict entries => exact h.dict hhook hplain hfuel

theorem readsBack (hhook : KeepsDistinct hook) (fuel : Nat) : ReadsBack hook fuel := by
  induction fuel with
  | zero =>
      refine ⟨fun v rest hplain hfuel _ => ?_, fun _ _ _ _ h => absurd h (Nat.not_lt_zero _),
        fun _ _ _ _ _ h => absurd h (Nat.not_lt_zero _)⟩
      obtain ⟨c, text, hcons, -⟩ := render_opens String.toList hplain
      rw [hcons] at hfuel
      exact absurd hfuel (Nat.not_succ_le_zero _)
  | succ fuel ih => exact ih.succ hhook

theorem scanValue_dumps (hhook : KeepsDistinct hook) {v : Value} (h : Plain v) :
    scanValue hook ((dumps v).toList.length + 1) (dumps v).toList = some (v, []) := by
  have htext : (dumps v).toList = render String.toList v ++ [] := by
    rw [dumps, String.toList_ofList, List.append_nil]
  rw [htext]
  apply (readsBack hhook _).value v [] h
  · rw [List.append_nil]
    exact Nat.le_succ _
  · simp [Ends]

/-- What was written from a plain value is read back as that value. -/
theorem loads_dumps (hhook : KeepsDistinct hook) {v : Value} (h : Plain v) :
    loads hook (dumps v) = some v := by
  have hskip : skip (dumps v).toList = (dumps v).toList := by
    rw [dumps, String.toList_ofList, (render_opens String.toList h).skip]
  rw [loads, hskip, scanValue_dumps hhook h]
  rfl

/-! ## Values are written in one line -/

theorem escapeChar_breakless (c : Char) : '\n' ∉ escapeChar c := by
  have hdigit : ∀ k < 16, '\n' ≠ hexDigit k := by decide
  unfold escapeChar
  split_ifs with h1 h2 h3 h4 h5 h6 h7 h8
  · decide
  · decide
  · decide
  · decide
  · decide
  · decide
  · decide
  · have hhigh := hdigit (c.toNat / 16) (by omega)
    have hlow := hdigit (c.toNat % 16) (by omega)
    simp [hhigh, hlow]
  · exact fun hc => h3 (List.mem_singleton.mp hc).symm

theorem quoted_breakless (s : List Char) : '\n' ∉ quoted s := by
  intro hc
  rw [quoted, List.mem_append, List.mem_cons, List.mem_flatMap] at hc
  rcases hc with (hc | ⟨c, -, hc⟩) | hc
  · exact absurd hc (by decide)
  · exact escapeChar_breakless c hc
  · exact absurd hc (by decide)

/-- The characters of a number are decimal digits and a sign. -/
theorem toString_numeral (n : Int) : ∀ c ∈ (toString n).toList, c.isDigit = true ∨ c = '-' := by
  rw [Int.toString_eq_repr, Int.repr_eq_if]
  split_ifs
  · rw [Nat.toList_repr]
    exact fun c hc => .inl (isDigit_toDigits _ c hc)
  · rw [String.toList_append, Nat.toList_repr, List.forall_mem_append]
    exact ⟨fun c hc => .inr (List.mem_singleton.mp hc),
      fun c hc => .inl (isDigit_toDigits _ c hc)⟩

theorem toString_breakless (n : Int) : '\n' ∉ (toString n).toList := fun hc =>
  (toString_numeral n _ hc).elim (absurd · (by decide)) (absurd · (by decide))

theorem FloatParts.text_breakless (p : FloatParts) : '\n' ∉ p.text := by
  have hdigits : ∀ digits : List Char, (∀ c ∈ digits, c.isDigit = true) → '\n' ∉ digits :=
    fun digits h hc => absurd (h _ hc) (by decide)
  simp only [FloatParts.text, List.mem_append, not_or]
  refine ⟨⟨⟨?_, hdigits _ p.decimal⟩, ?_⟩, ?_⟩
  · rcases p.signed with h | h <;> rw [h] <;> decide
  · obtain h | ⟨decimals, h, -, hdecimals⟩ := p.fractional
    · rw [h]
      exact List.not_mem_nil
    · rw [h, List.mem_cons, not_or]
      exact ⟨by decide, hdigits _ hdecimals⟩
  · obtain h | ⟨sign, power, h, hsign, -, hpower⟩ := p.exponential
    · rw [h]
      exact List.not_mem_nil
    · rw [h, List.mem_cons, List.mem_cons, not_or, not_or]
      refine ⟨by decide, ?_, hdigits _ hpower⟩
      rcases hsign with rfl | rfl <;> decide

theorem separated_breakless {texts : List (List Char)} (h : ∀ text ∈ texts, '\n' ∉ text) :
    '\n' ∉ [','].intercalate texts := by
  intro hc
  rcases TextLines.mem_intercalate hc with hc | ⟨text, htext, hc⟩
  · exact absurd hc (by decide)
  · exact h text htext hc

mutual
/-- No line break of a value is written as it is. -/
theorem render_breakless (text : String → List Char) :
    (v : Value) → Plain v → '\n' ∉ render text v
  | .null, _ => by
      rw [render]
      decide
  | .bool true, _ => by
      rw [render]
      decide
  | .bool false, _ => by
      rw [render]
      decide
  | .int n, _ => toString_breakless n
  | .float literal, h => by
      obtain ⟨p, hp⟩ := h
      rw [render, hp]
      exact p.text_breakless
  | .str s, _ => quoted_breakless _
  | .list items, h => by
      have hitems := separated_breakless (renderItems_breakless text items h)
      simp only [render, List.mem_append, List.mem_cons, hitems, List.not_mem_nil, or_false,
        not_or]
      decide
  | .dict entries, h => by
      have hfields := separated_breakless (renderFields_breakless text entries h.2)
      rw [render_dict text h.1]
      simp only [List.mem_append, List.mem_cons, hfields, List.not_mem_nil, or_false, not_or]
      decide

theorem renderItems_breakless (text : String → List Char) :
    (items : List Value) → PlainItems items → ∀ line ∈ renderItems text items, '\n' ∉ line
  | [], _ => fun _ hline => absurd hline List.not_mem_nil
  | item :: rest, h => by
      intro line hline
      rcases List.mem_cons.mp hline with rfl | hline
      · exact render_breakless text item h.1
      · exact renderItems_breakless text rest h.2 line hline

theorem renderFields_breakless (text : String → List Char) :
    (entries : Dict) → PlainEntries entries → ∀ line ∈ renderFields text entries, '\n' ∉ line
  | [], _ => fun _ hline => absurd hline List.not_mem_nil
  | (key, value) :: rest, h => by
      intro line hline
      rw [renderFields_cons] at hline
      rcases List.mem_cons.mp hline with rfl | hline
      · rw [List.mem_append, List.mem_cons, not_or, not_or]
        exact ⟨quoted_breakless _, by decide, render_breakless text value h.1⟩
      · exact renderFields_breakless text rest h.2 line hline
end

end DeliverySystem.JsonText
