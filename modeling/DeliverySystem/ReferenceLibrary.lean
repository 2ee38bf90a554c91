import DeliverySystem.CanonicalValues
import DeliverySystem.JsonText

/-!
# A reference implementation of the library functions

SHA-256 over the canonical JSON text, UTC timestamps, and the text functions,
as Python computes them on ASCII text. Results about the program hold for every
`PythonLibrary`; concrete runs are taken over this one.
-/
namespace DeliverySystem.ReferenceLibrary
open PythonValues JsonText
set_option autoImplicit false

/-! ## SHA-256 -/

def roundConstants : List UInt32 :=
  [0x428a2f98, 0x71374491, 0xb5c0fbcf, 0xe9b5dba5, 0x3956c25b, 0x59f111f1, 0x923f82a4, 0xab1c5ed5,
    0xd807aa98, 0x12835b01, 0x243185be, 0x550c7dc3, 0x72be5d74, 0x80deb1fe, 0x9bdc06a7, 0xc19bf174,
    0xe49b69c1, 0xefbe4786, 0x0fc19dc6, 0x240ca1cc, 0x2de92c6f, 0x4a7484aa, 0x5cb0a9dc, 0x76f988da,
    0x983e5152, 0xa831c66d, 0xb00327c8, 0xbf597fc7, 0xc6e00bf3, 0xd5a79147, 0x06ca6351, 0x14292967,
    0x27b70a85, 0x2e1b2138, 0x4d2c6dfc, 0x53380d13, 0x650a7354, 0x766a0abb, 0x81c2c92e, 0x92722c85,
    0xa2bfe8a1, 0xa81a664b, 0xc24b8b70, 0xc76c51a3, 0xd192e819, 0xd6990624, 0xf40e3585, 0x106aa070,
    0x19a4c116, 0x1e376c08, 0x2748774c, 0x34b0bcb5, 0x391c0cb3, 0x4ed8aa4a, 0x5b9cca4f, 0x682e6ff3,
    0x748f82ee, 0x78a5636f, 0x84c87814, 0x8cc70208, 0x90befffa, 0xa4506ceb, 0xbef9a3f7, 0xc67178f2]

def rotr (x n : UInt32) : UInt32 := (x >>> n) ||| (x <<< (32 - n))

/-- Extend the sixteen words of a block, newest first, to sixty-four. -/
def extend : Nat → List UInt32 → List UInt32
  | 0, w => w
  | n + 1, w =>
      let at_ (i : Nat) : UInt32 := w.getD i 0
      let s0 := rotr (at_ 14) 7 ^^^ rotr (at_ 14) 18 ^^^ (at_ 14 >>> 3)
      let s1 := rotr (at_ 1) 17 ^^^ rotr (at_ 1) 19 ^^^ (at_ 1 >>> 10)
      extend n ((at_ 15 + s0 + at_ 6 + s1) :: w)

/-- The eight working words. -/
structure State where
  a : UInt32
  b : UInt32
  c : UInt32
  d : UInt32
  e : UInt32
  f : UInt32
  g : UInt32
  h : UInt32

def State.add (s t : State) : State :=
  ⟨s.a + t.a, s.b + t.b, s.c + t.c, s.d + t.d, s.e + t.e, s.f + t.f, s.g + t.g, s.h + t.h⟩

def round (s : State) (kw : UInt32 × UInt32) : State :=
  let s1 := rotr s.e 6 ^^^ rotr s.e 11 ^^^ rotr s.e 25
  let ch := (s.e &&& s.f) ^^^ (~~~s.e &&& s.g)
  let t1 := s.h + s1 + ch + kw.1 + kw.2
  let s0 := rotr s.a 2 ^^^ rotr s.a 13 ^^^ rotr s.a 22
  let maj := (s.a &&& s.b) ^^^ (s.a &&& s.c) ^^^ (s.b &&& s.c)
  ⟨t1 + (s0 + maj), s.a, s.b, s.c, s.d + t1, s.e, s.f, s.g⟩

def compress (s : State) (block : List UInt32) : State :=
  s.add ((roundConstants.zip (extend 48 block.reverse).reverse).foldl round s)

def wordsOf : List UInt8 → List UInt32
  | a :: b :: c :: d :: rest =>
      (a.toUInt32 <<< 24 ||| b.toUInt32 <<< 16 ||| c.toUInt32 <<< 8 ||| d.toUInt32) :: wordsOf rest
  | _ => []

def compressAll : Nat → State → List UInt32 → State
  | 0, s, _ => s
  | n + 1, s, words => compressAll n (compress s (words.take 16)) (words.drop 16)

def initial : State :=
  ⟨0x6a09e667, 0xbb67ae85, 0x3c6ef372, 0xa54ff53a, 0x510e527f, 0x9b05688c, 0x1f83d9ab, 0x5be0cd19⟩

def lengthBytes (n : Nat) : List UInt8 :=
  [56, 48, 40, 32, 24, 16, 8, 0].map fun shift => UInt8.ofNat (n >>> shift)

def pad (message : List UInt8) : List UInt8 :=
  let zeros := (119 - message.length % 64) % 64
  message ++ 0x80 :: List.replicate zeros 0 ++ lengthBytes (8 * message.length)

def wordHex (w : UInt32) : List Char :=
  [28, 24, 20, 16, 12, 8, 4, 0].map fun shift => hexDigit ((w.toNat >>> shift) % 16)

def sha256Hex (message : List UInt8) : String :=
  let padded := pad message
  let s := compressAll (padded.length / 64) initial (wordsOf padded)
  String.ofList ([s.a, s.b, s.c, s.d, s.e, s.f, s.g, s.h].flatMap wordHex)

theorem hexDigit_hexadecimal {n : Nat} (h : n < 16) :
    (hexDigit n).isDigit || ('a' ≤ hexDigit n && hexDigit n ≤ 'f') := by
  have hall : ∀ k < 16, (hexDigit k).isDigit || ('a' ≤ hexDigit k && hexDigit k ≤ 'f') := by decide
  exact hall n h

/-- A digest is sixty-four lowercase hexadecimal digits. -/
theorem sha256Hex_hexadecimal (message : List UInt8) :
    (sha256Hex message).toList.length = 64 ∧
      ∀ c ∈ (sha256Hex message).toList, c.isDigit || ('a' ≤ c && c ≤ 'f') := by
  simp only [sha256Hex, String.toList_ofList]
  constructor
  · simp [wordHex]
  · intro c hc
    obtain ⟨w, -, hw⟩ := List.mem_flatMap.mp hc
    obtain ⟨shift, -, rfl⟩ := List.mem_map.mp hw
    exact hexDigit_hexadecimal (Nat.mod_lt _ (by decide))

/-! ## Canonical JSON -/

def stripRight (s : List Char) : List Char := (s.reverse.dropWhile Char.isWhitespace).reverse

def stripText (s : List Char) : List Char := stripRight (s.dropWhile Char.isWhitespace)

/-- `_text`: unified line breaks, no blanks at line ends or around the text. -/
def canonicalText (s : String) : List Char :=
  stripText (['\n'].intercalate (((CanonicalValues.unifyBreaks s.toList).splitOn '\n').map stripRight))

def canonicalJson (value : Value) : String := String.ofList (render canonicalText value)

/-! ## Timestamps -/

/-- The civil date of a day counted from the epoch. -/
def civilDate (days : Int) : Int × Int × Int :=
  let z := days + 719468
  let era := z / 146097
  let doe := z - era * 146097
  let yoe := (doe - doe / 1460 + doe / 36524 - doe / 146096) / 365
  let doy := doe - (365 * yoe + yoe / 4 - yoe / 100)
  let mp := (5 * doy + 2) / 153
  let month := if mp < 10 then mp + 3 else mp - 9
  (yoe + era * 400 + (if month ≤ 2 then 1 else 0), month, doy - (153 * mp + 2) / 5 + 1)

def padded (width : Nat) (n : Int) : String :=
  let digits := (toString n.toNat).toList
  String.ofList (List.replicate (width - digits.length) '0' ++ digits)

/-- `isoformat` leaves out the fraction of a whole second. -/
def isoformat (t : Instant) : String :=
  let second := t / 1000000
  let micros := t % 1000000
  let ofDay := second % 86400
  let (year, month, day) := civilDate (second / 86400)
  padded 4 year ++ "-" ++ padded 2 month ++ "-" ++ padded 2 day ++ "T" ++
    padded 2 (ofDay / 3600) ++ ":" ++ padded 2 (ofDay / 60 % 60) ++ ":" ++
    padded 2 (ofDay % 60) ++ (if micros = 0 then "" else "." ++ padded 6 micros) ++ "Z"

/-- The library on ASCII text. -/
@[reducible] def referenceLibrary : PythonLibrary where
  hexdigest value := sha256Hex (canonicalJson value).toUTF8.toList
  isoformat := isoformat
  lower s := String.ofList (s.toList.map Char.toLower)
  strip s := String.ofList (stripText s.toList)
  textOf value := canonicalJson value
  jsonDumps := dumps

/-! ## The digest over bytes -/

theorem toList_loop (b : ByteArray) (i : Nat) (acc : List UInt8) :
    ByteArray.toList.loop b i acc = acc.reverse ++ b.data.toList.drop i := by
  induction hn : b.size - i generalizing i acc with
  | zero =>
      have hle : b.data.toList.length ≤ i := by
        rw [Array.length_toList]
        change b.size ≤ i
        omega
      rw [ByteArray.toList.loop, if_neg (by omega), List.drop_eq_nil_of_le hle, List.append_nil]
  | succ n ih =>
      have hlt : i < b.size := by omega
      have hlt' : i < b.data.toList.length := by
        rw [Array.length_toList]
        exact hlt
      rw [ByteArray.toList.loop, if_pos hlt, ih _ _ (by omega), List.reverse_cons,
        List.append_assoc, List.drop_eq_getElem_cons hlt', List.singleton_append]
      congr 2
      rw [ByteArray.get!, Array.getElem_toList]
      exact getElem!_pos b.data i hlt

theorem toUTF8_toList (s : List Char) :
    (String.ofList s).toUTF8.toList = s.flatMap String.utf8EncodeChar := by
  rw [ByteArray.toList, toList_loop, List.reverse_nil, List.nil_append, List.drop_zero]
  change (String.ofList s).toByteArray.data.toList = _
  rw [String.toByteArray_ofList, List.utf8Encode, List.toList_data_toByteArray]

section
attribute [local instance] referenceLibrary

/-- The digest without the way through byte arrays, which the kernel takes long for. -/
theorem referenceLibrary_digest (value : Value) : digest value =
    "sha256:" ++ sha256Hex ((render canonicalText value).flatMap String.utf8EncodeChar) := by
  change "sha256:" ++ sha256Hex (canonicalJson value).toUTF8.toList = _
  rw [canonicalJson, toUTF8_toList]

end
end DeliverySystem.ReferenceLibrary
