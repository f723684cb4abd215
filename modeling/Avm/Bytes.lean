import Mathlib

/-! # Byte strings, hex keys and token ids

    Every stack element, script and stored value of the AVM is a byte
    string (`valtype`).  The contract state lives in JSON objects whose keys
    are lowercase hex strings: `HexStr` prints bytes, `HexStrWith00Null`
    (script_utils.h) prints the empty string as `"00"`, `ParseHex` reads
    them back, and `isHexStr` is the key check of the state validator.

    `HexStr` and `ParseHex` come from util/strencodings and the 36-byte token
    id `uint288` from uint256.h; neither file is in the repository, so both
    are modelled from the spec (lowercase hex keys, 36-byte atomical refs).
-/

namespace Avm

/-! ## Section 1: Byte strings -/

/-- A stack element, a script or a stored value (`valtype`). -/
abbrev Valtype := List UInt8

/-- A byte property is settled by checking the 256 byte values. -/
theorem byte_cases {P : UInt8 → Prop} (h : ∀ n, n < 256 → P (UInt8.ofNat n))
    (b : UInt8) : P b := by
  simpa [UInt8.ofNat, UInt8.toNat] using h b.toNat b.val.isLt

/-! ## Section 2: Hex strings -/

/-- The lowercase hex digit of a nibble. -/
def hexDigit (n : Nat) : Char :=
  if n < 10 then Char.ofNat (n + 48) else Char.ofNat (n + 87)

/-- The nibble a hex digit stands for, either case (`HexDigit`). -/
def hexValue (c : Char) : Option Nat :=
  if '0' ≤ c ∧ c ≤ '9' then some (c.toNat - 48)
  else if 'a' ≤ c ∧ c ≤ 'f' then some (c.toNat - 87)
  else if 'A' ≤ c ∧ c ≤ 'F' then some (c.toNat - 55)
  else none

/-- The blanks `ParseHex` skips before each byte (`IsSpace`). -/
def isSpace (c : Char) : Bool :=
  c = ' ' || c = '\x0c' || c = '\n' || c = '\r' || c = '\t' || c = '\x0b'

/-- Modelled from the spec: `HexStr` prints each byte as two lowercase hex
    digits, high nibble first. -/
def hexStr (v : Valtype) : String :=
  ⟨v.flatMap fun b => [hexDigit (b.toNat / 16), hexDigit (b.toNat % 16)]⟩

/-- `ParseHex` over characters: skip blanks, read two digits per byte, stop
    at the first character that is not a digit. -/
def parseHexChars : List Char → Valtype
  | [] => []
  | c :: rest =>
    if isSpace c then parseHexChars rest
    else match hexValue c, rest with
      | some h, c' :: rest' =>
        match hexValue c' with
        | some l => UInt8.ofNat (h * 16 + l) :: parseHexChars rest'
        | none => []
      | _, _ => []

/-- Modelled from the spec: `ParseHex` reads the bytes a hex string spells. -/
def parseHex (s : String) : Valtype := parseHexChars s.data

/-- A character `isHexStr` accepts. -/
def isLowerHexDigit (c : Char) : Bool :=
  ('0' ≤ c && c ≤ '9') || ('a' ≤ c && c ≤ 'f')

/-- `isHexStr` (script_utils.h): lowercase hex digits only, of even length,
    at least two of them. -/
def isHexStr (s : String) : Bool :=
  s.data.all isLowerHexDigit && s.length % 2 == 0 && 2 ≤ s.length

/-- `HexStrWith00Null` (script_utils.h): the empty string is printed `"00"`. -/
def hexStrWith00Null (v : Valtype) : String :=
  if v.length = 0 then "00" else hexStr v

theorem hexValue_hexDigit {n : Nat} (h : n < 16) : hexValue (hexDigit n) = some n := by
  revert n; decide

theorem isSpace_hexDigit {n : Nat} (h : n < 16) : isSpace (hexDigit n) = false := by
  revert n; decide

theorem isLowerHexDigit_hexDigit {n : Nat} (h : n < 16) : isLowerHexDigit (hexDigit n) = true := by
  revert n; decide

set_option maxRecDepth 8000 in
theorem byte_nibbles (b : UInt8) : UInt8.ofNat (b.toNat / 16 * 16 + b.toNat % 16) = b :=
  byte_cases (P := fun b => UInt8.ofNat (b.toNat / 16 * 16 + b.toNat % 16) = b) (by decide) b

theorem nibble_hi_lt (b : UInt8) : b.toNat / 16 < 16 := by
  have := b.val.isLt; simp only [UInt8.toNat] at *; omega

theorem nibble_lo_lt (b : UInt8) : b.toNat % 16 < 16 := Nat.mod_lt _ (by decide)

@[simp] theorem hexStr_data (v : Valtype) :
    (hexStr v).data = v.flatMap fun b => [hexDigit (b.toNat / 16), hexDigit (b.toNat % 16)] :=
  rfl

@[simp] theorem hexStr_nil : hexStr [] = "" := rfl

@[simp] theorem length_hexStr (v : Valtype) : (hexStr v).length = 2 * v.length := by
  simp only [String.length, hexStr_data]
  induction v with
  | nil => rfl
  | cons b v ih => simp [ih]; omega

/-- `ParseHex` inverts `HexStr`. -/
@[simp] theorem parseHex_hexStr (v : Valtype) : parseHex (hexStr v) = v := by
  simp only [parseHex, hexStr_data]
  induction v with
  | nil => rfl
  | cons b v ih =>
    have hi := hexValue_hexDigit (nibble_hi_lt b)
    have lo := hexValue_hexDigit (nibble_lo_lt b)
    have sp := isSpace_hexDigit (nibble_hi_lt b)
    simp only [List.flatMap_cons, List.cons_append, List.nil_append]
    rw [parseHexChars.eq_2 _ _ _ _ hi]
    simp only [sp, lo, Bool.false_eq_true, ite_false, byte_nibbles, ih]

theorem hexStr_injective {v w : Valtype} (h : hexStr v = hexStr w) : v = w := by
  rw [← parseHex_hexStr v, h, parseHex_hexStr]

theorem isHexStr_hexStr {v : Valtype} (hv : v ≠ []) : isHexStr (hexStr v) = true := by
  have hlen : 0 < v.length := List.length_pos.mpr hv
  have hall : ∀ c ∈ (hexStr v).data, isLowerHexDigit c = true := by
    simp only [hexStr_data, List.mem_flatMap, List.mem_cons, List.mem_singleton,
      List.not_mem_nil, or_false]
    rintro c ⟨b, -, rfl | rfl⟩
    · exact isLowerHexDigit_hexDigit (nibble_hi_lt b)
    · exact isLowerHexDigit_hexDigit (nibble_lo_lt b)
  simp only [isHexStr, List.all_eq_true.mpr hall, length_hexStr, Bool.true_and,
    Bool.and_eq_true, beq_iff_eq, decide_eq_true_eq]
  omega

/-- Every key `HexStrWith00Null` prints passes the validator's hex check. -/
theorem isHexStr_hexStrWith00Null (v : Valtype) : isHexStr (hexStrWith00Null v) = true := by
  unfold hexStrWith00Null
  split
  · decide
  · exact isHexStr_hexStr (by rintro rfl; simp_all)

@[simp] theorem parseHex_hexStrWith00Null (v : Valtype) :
    parseHex (hexStrWith00Null v) = if v = [] then [0] else v := by
  unfold hexStrWith00Null
  split
  · simp_all; decide
  · simp_all

/-! ## Section 3: Token ids -/

/-- Modelled from the spec: `uint288`, the 36-byte atomical reference (a
    32-byte txid and a 4-byte output index).  Its bytes are those of the
    36-byte stack element it is built from. -/
structure Uint288 where
  bytes : Valtype
  size_eq : bytes.length = 36
  deriving DecidableEq

/-- Modelled from the spec: `GetHex` prints the id as lowercase hex, bytes in
    reverse order as Bitcoin's blobs print. -/
def Uint288.getHex (x : Uint288) : String := hexStr x.bytes.reverse

theorem Uint288.isHexStr_getHex (x : Uint288) : isHexStr x.getHex = true :=
  isHexStr_hexStr (by intro h; have := x.size_eq; simp_all)

end Avm
