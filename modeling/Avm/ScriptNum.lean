import Avm.Error

/-! # Script numbers

    A script number (`CScriptNum`) holds an `int64_t` or an `avm::bigint`.
    Numbers read from the stack are always big; the interpreter's constants
    and the results of comparisons are small.  Both kinds print as the same
    sign-magnitude little-endian bytes: `avm::serialize` writes an `int64_t`
    byte by byte, `bigint::serialize` reverses what OpenSSL's `BN_bn2mpi`
    writes.  Reading bytes back (`CScriptNum(span, nMaxNumSize)`) demands the
    minimal encoding.

    The round trip is proved through the sign and magnitude a byte string
    spells (`decodeSM`): the loop of `avm::serialize` is the inverse of
    `decodeSM` on minimally encoded strings, and the OpenSSL side agrees with
    it.  `bigint` values are modelled as `Int`, `int64_t` as `BitVec 64`.
-/

namespace Avm

/-! ## Section 1: Model -/

/-- `CScriptNum::MAXIMUM_ITEM_SIZE`: the longest script number, in bytes. -/
def MAXIMUM_ITEM_SIZE : Nat := 100000

/-- `avm::abs` on `int64_t`: the magnitude as a `uint64_t`, so `INT64_MIN`
    gives `2^63`. -/
def abs64 (num : BitVec 64) : BitVec 64 := if num.slt 0 then -num else num

/-- The loop of `avm::serialize`: the magnitude low byte first; the last
    byte carries the sign, with one byte more when its top bit is taken. -/
def serializeLoop (negative : Bool) (absoluteValue : Nat) : Valtype :=
  if absoluteValue = 0 then [] else
    let tmp := absoluteValue % 256
    if absoluteValue / 256 ≠ 0 then
      UInt8.ofNat tmp :: serializeLoop negative (absoluteValue / 256)
    else if tmp &&& 0x80 ≠ 0 then [UInt8.ofNat tmp, if negative then 0x80 else 0]
    else [if negative then UInt8.ofNat (tmp ||| 0x80) else UInt8.ofNat tmp]
termination_by absoluteValue
decreasing_by omega

/-- `avm::serialize<int64_t>` (serialize_number.h). -/
def serialize (value : BitVec 64) : Valtype :=
  if value = 0 then [] else serializeLoop (value.slt 0) (abs64 value).toNat

/-- Modelled from the spec: `BN_bn2bin` (OpenSSL), the minimal big-endian
    bytes of a magnitude. -/
def natToBE (m : Nat) : Valtype :=
  if m = 0 then [] else natToBE (m / 256) ++ [UInt8.ofNat (m % 256)]
termination_by m
decreasing_by omega

/-- Modelled from the spec: the MPI body of a sign and the big-endian bytes
    of a magnitude: a zero byte in front when the top bit is set, and the sign
    in the top bit of the first byte. -/
def mpiBody (negative : Bool) : Valtype → Valtype
  | [] => []
  | b :: bs =>
    let body := if b &&& 0x80 ≠ 0 then 0 :: b :: bs else b :: bs
    if negative then (body.headD 0 ||| 0x80) :: body.tail else body

/-- Modelled from the spec: what `BN_bn2mpi` (OpenSSL) writes after its
    4-byte length. -/
def bn2mpiBody (n : Int) : Valtype := mpiBody (decide (n < 0)) (natToBE n.natAbs)

/-- `bigint::serialize` (big_int.cpp): the MPI body, reversed. -/
def Bigint.serialize (n : Int) : Valtype := (bn2mpiBody n).reverse

/-- The value of big-endian bytes. -/
def beValue (d : Valtype) : Nat := d.foldl (fun acc b => acc * 256 + b.toNat) 0

/-- Modelled from the spec: `BN_mpi2bn` (OpenSSL) on an MPI body: the top
    bit of the first byte is the sign, the rest the big-endian magnitude. -/
def mpi2bn : Valtype → Int
  | [] => 0
  | b :: bs =>
    if b &&& 0x80 ≠ 0 then -((beValue ((b &&& 0x7f) :: bs) : Nat) : Int)
    else ((beValue (b :: bs) : Nat) : Int)

/-- `bigint::deserialize`: the little-endian bytes, reversed into an MPI body. -/
def Bigint.deserialize (s : Valtype) : Int := mpi2bn s.reverse

/-- `avm::IsMinimallyEncoded` (serialize_number.h). -/
def isMinimallyEncoded (span : Valtype) (nMaxNumSize : Nat) : Bool :=
  let size := span.length
  if size > nMaxNumSize then false
  else if 0 < size ∧ span.getLastD 0 &&& 0x7f = 0 ∧
      (size ≤ 1 ∨ span.getD (size - 2) 0 &&& 0x80 = 0) then false
  else true

/-- `CScriptNum`: a script number held as `int64_t` or as `avm::bigint`. -/
inductive CScriptNum
  | small (n : BitVec 64)
  | big (n : Int)
  deriving DecidableEq, Repr

namespace CScriptNum

/-- The integer a script number stands for. -/
def value : CScriptNum → Int
  | small n => n.toInt
  | big n => n

/-- `CScriptNum(span, nMaxNumSize)`: throws on an oversized or non-minimal
    encoding, and reads a big number otherwise. -/
def ofSpan (span : Valtype) (nMaxNumSize : Nat) : Except Thrown CScriptNum :=
  if span.length > nMaxNumSize then .error (.obj .scriptnumOverflow)
  else if !isMinimallyEncoded span nMaxNumSize then .error (.obj .scriptnumMinimalEncoding)
  else if span.isEmpty then .ok (big 0)
  else .ok (big (Bigint.deserialize span))

/-- `getvch`: the minimal encoding, by the serializer of the number's kind. -/
def getvch : CScriptNum → Valtype
  | small n => serialize n
  | big n => Bigint.serialize n

/-- `operator==`: by value, across kinds. -/
def equal : CScriptNum → CScriptNum → Bool
  | small a, small b => a == b
  | big a, big b => a == b
  | small a, big b => a.toInt == b
  | big a, small b => a == b.toInt

/-- `operator<`: by value, across kinds. -/
def lt : CScriptNum → CScriptNum → Bool
  | small a, small b => a.slt b
  | big a, big b => decide (a < b)
  | small a, big b => decide (a.toInt < b)
  | big a, small b => decide (a < b.toInt)

end CScriptNum

/-! ## Section 2: Bytes and their bits -/

set_option maxRecDepth 8000 in
theorem land_0x80_ne_zero {t : Nat} (h : t < 256) : t &&& 0x80 ≠ 0 ↔ 128 ≤ t := by
  revert t; decide

set_option maxRecDepth 8000 in
theorem toNat_ofNat_of_lt {t : Nat} (h : t < 256) : (UInt8.ofNat t).toNat = t := by
  revert t; decide

set_option maxRecDepth 8000 in
theorem toNat_ofNat_lor_0x80 {t : Nat} (h : t < 128) :
    (UInt8.ofNat (t ||| 0x80)).toNat = t + 128 := by
  revert t; decide

set_option maxRecDepth 8000 in
theorem byte_land_0x80 (b : UInt8) : b &&& 0x80 ≠ 0 ↔ 128 ≤ b.toNat :=
  byte_cases (P := fun b => b &&& 0x80 ≠ 0 ↔ 128 ≤ b.toNat) (by decide) b

set_option maxRecDepth 8000 in
theorem byte_land_0x7f (b : UInt8) : (b &&& 0x7f).toNat = b.toNat % 128 :=
  byte_cases (P := fun b => (b &&& 0x7f).toNat = b.toNat % 128) (by decide) b

set_option maxRecDepth 8000 in
/-- A byte is its low seven bits with its top bit put back. -/
theorem byte_of_low_sign (b : UInt8) :
    (if 128 ≤ b.toNat then UInt8.ofNat (b.toNat % 128 ||| 0x80) else UInt8.ofNat (b.toNat % 128))
      = b :=
  byte_cases (P := fun b => (if 128 ≤ b.toNat then UInt8.ofNat (b.toNat % 128 ||| 0x80)
    else UInt8.ofNat (b.toNat % 128)) = b) (by decide) b

set_option maxRecDepth 8000 in
theorem byte_eq_ofNat (b : UInt8) : UInt8.ofNat b.toNat = b :=
  byte_cases (P := fun b => UInt8.ofNat b.toNat = b) (by decide) b

theorem byte_toNat_lt (b : UInt8) : b.toNat < 256 := b.val.isLt

set_option maxRecDepth 8000 in
theorem byte_land_0x7f_eq_zero (b : UInt8) : b &&& 0x7f = 0 ↔ b.toNat % 128 = 0 :=
  byte_cases (P := fun b => b &&& 0x7f = 0 ↔ b.toNat % 128 = 0) (by decide) b

set_option maxRecDepth 8000 in
theorem byte_land_0x80_eq_zero (b : UInt8) : b &&& 0x80 = 0 ↔ b.toNat < 128 :=
  byte_cases (P := fun b => b &&& 0x80 = 0 ↔ b.toNat < 128) (by decide) b

/-! ## Section 3: Sign and magnitude -/

/-- The sign and the magnitude a sign-magnitude little-endian string spells:
    the top bit of the last byte is the sign. -/
def decodeSM : Valtype → Bool × Nat
  | [] => (false, 0)
  | [b] => (decide (128 ≤ b.toNat), b.toNat % 128)
  | b :: rest => ((decodeSM rest).1, b.toNat + 256 * (decodeSM rest).2)

/-- The integer of a sign and a magnitude. -/
def signed (sm : Bool × Nat) : Int := if sm.1 then -(sm.2 : Int) else sm.2

theorem decodeSM_cons {b : UInt8} {rest : Valtype} (h : rest ≠ []) :
    decodeSM (b :: rest) = ((decodeSM rest).1, b.toNat + 256 * (decodeSM rest).2) := by
  cases rest with
  | nil => contradiction
  | cons c rest => rfl

/-- The structural form of `isMinimallyEncoded`, below its size cap. -/
def minimalTail : Valtype → Bool
  | [] => true
  | [b] => b.toNat % 128 != 0
  | [b, c] => c.toNat % 128 != 0 || 128 ≤ b.toNat
  | _ :: c :: d :: rest => minimalTail (c :: d :: rest)

theorem minimalTail_cons {b : UInt8} {t : Valtype} (ht : t ≠ []) (h : minimalTail t = true) :
    minimalTail (b :: t) = true := by
  match t, ht with
  | [c], _ => simp_all [minimalTail]
  | c :: d :: rest, _ => simpa [minimalTail] using h

theorem getLastD_cons_cons (b c : UInt8) (t : Valtype) :
    (b :: c :: t).getLastD 0 = (c :: t).getLastD 0 := by
  simp only [List.getLastD_cons]

/-- `IsMinimallyEncoded` below its cap is `minimalTail`: the reject test only
    looks at the last two bytes. -/
theorem minimallyEncoded_test (span : Valtype) :
    (if 0 < span.length ∧ span.getLastD 0 &&& 0x7f = 0 ∧
      (span.length ≤ 1 ∨ span.getD (span.length - 2) 0 &&& 0x80 = 0) then false else true)
      = minimalTail span := by
  match span with
  | [] => rfl
  | [b] =>
    by_cases h : b.toNat % 128 = 0 <;>
      simp [minimalTail, byte_land_0x7f_eq_zero, h]
  | [b, c] =>
    by_cases h : c.toNat % 128 = 0 <;> by_cases h' : b.toNat < 128 <;>
      simp [minimalTail, byte_land_0x7f_eq_zero, byte_land_0x80_eq_zero, h, h']
    all_goals omega
  | b :: c :: d :: rest =>
    have ih := minimallyEncoded_test (c :: d :: rest)
    have hlast := getLastD_cons_cons b c (d :: rest)
    have hpen : (b :: c :: d :: rest).getD ((b :: c :: d :: rest).length - 2) 0
        = (c :: d :: rest).getD ((c :: d :: rest).length - 2) 0 := by
      simp only [List.length_cons, show rest.length + 1 + 1 + 1 - 2 = rest.length + 1 from by omega,
        show rest.length + 1 + 1 - 2 = rest.length from by omega, List.getD_cons_succ]
    rw [minimalTail, ← ih, hlast, hpen]
    simp only [List.length_cons]
    congr 1
    apply propext
    constructor <;> rintro ⟨-, h₁, h₂⟩ <;>
      exact ⟨by omega, h₁, Or.inr (h₂.resolve_left (by omega))⟩

/-! ## Section 4: The serializer loop -/

theorem serializeLoop_zero (negative : Bool) : serializeLoop negative 0 = [] := by
  rw [serializeLoop]; rfl

/-- A magnitude of more than one byte: its low byte, then the rest. -/
theorem serializeLoop_of_ge {negative : Bool} {a : Nat} (h : 256 ≤ a) :
    serializeLoop negative a = UInt8.ofNat (a % 256) :: serializeLoop negative (a / 256) := by
  rw [serializeLoop, if_neg (by omega), if_pos (by omega)]

/-- A one-byte magnitude with its top bit set: a sign byte follows. -/
theorem serializeLoop_of_top {negative : Bool} {a : Nat} (h₀ : 128 ≤ a) (h₁ : a < 256) :
    serializeLoop negative a = [UInt8.ofNat a, if negative then 0x80 else 0] := by
  rw [serializeLoop, if_neg (by omega), if_neg (by omega),
    if_pos ((land_0x80_ne_zero (Nat.mod_lt _ (by decide))).mpr (by omega)), Nat.mod_eq_of_lt h₁]

/-- A one-byte magnitude below `0x80`: the sign goes into its top bit. -/
theorem serializeLoop_of_low {negative : Bool} {a : Nat} (h₀ : 0 < a) (h₁ : a < 128) :
    serializeLoop negative a =
      [if negative then UInt8.ofNat (a ||| 0x80) else UInt8.ofNat a] := by
  rw [serializeLoop, if_neg (by omega), if_neg (by omega), Nat.mod_eq_of_lt (by omega),
    if_neg (by rw [land_0x80_ne_zero (by omega)]; omega)]

theorem serializeLoop_ne_nil {negative : Bool} {a : Nat} (h : a ≠ 0) :
    serializeLoop negative a ≠ [] := by
  rcases Nat.lt_or_ge a 128 with h₁ | h₁
  · rw [serializeLoop_of_low (by omega) h₁]; simp
  · rcases Nat.lt_or_ge a 256 with h₂ | h₂
    · rw [serializeLoop_of_top h₁ h₂]; simp
    · rw [serializeLoop_of_ge h₂]; simp

/-- The loop writes the sign and magnitude it is given. -/
theorem decodeSM_serializeLoop (negative : Bool) {a : Nat} (h : a ≠ 0) :
    decodeSM (serializeLoop negative a) = (negative, a) := by
  induction a using Nat.strong_induction_on with
  | _ a ih =>
    rcases Nat.lt_or_ge a 128 with h₁ | h₁
    · rw [serializeLoop_of_low (by omega) h₁]
      cases negative <;> simp [decodeSM, toNat_ofNat_lor_0x80 h₁, toNat_ofNat_of_lt (show a < 256 by omega)] <;>
        omega
    · rcases Nat.lt_or_ge a 256 with h₂ | h₂
      · rw [serializeLoop_of_top h₁ h₂]
        cases negative <;> simp [decodeSM, toNat_ofNat_of_lt h₂, UInt8.size]
      · rw [serializeLoop_of_ge h₂, decodeSM_cons (serializeLoop_ne_nil (by omega)),
          ih _ (by omega) (by omega), toNat_ofNat_of_lt (Nat.mod_lt _ (by decide))]
        simp only [Prod.mk.injEq, true_and]
        omega

/-- What the loop writes passes the minimality test. -/
theorem minimalTail_serializeLoop (negative : Bool) {a : Nat} (h : a ≠ 0) :
    minimalTail (serializeLoop negative a) = true := by
  induction a using Nat.strong_induction_on with
  | _ a ih =>
    rcases Nat.lt_or_ge a 128 with h₁ | h₁
    · rw [serializeLoop_of_low (by omega) h₁]
      cases negative <;> simp [minimalTail, toNat_ofNat_lor_0x80 h₁, toNat_ofNat_of_lt (show a < 256 by omega)] <;>
        omega
    · rcases Nat.lt_or_ge a 256 with h₂ | h₂
      · rw [serializeLoop_of_top h₁ h₂]
        cases negative <;> simp [minimalTail, toNat_ofNat_of_lt h₂, h₁]
      · rw [serializeLoop_of_ge h₂]
        exact minimalTail_cons (serializeLoop_ne_nil (by omega)) (ih _ (by omega) (by omega))

set_option maxRecDepth 8000 in
theorem byte_sign_of_low_zero (c : UInt8) (h : c.toNat % 128 = 0) :
    (if 128 ≤ c.toNat then (0x80 : UInt8) else 0) = c := by
  revert h
  exact byte_cases (P := fun c => c.toNat % 128 = 0 → (if 128 ≤ c.toNat then (0x80 : UInt8) else 0) = c)
    (by decide) c

/-- On a minimal, non-empty string the loop rewrites exactly the string from
    its sign and magnitude, and the magnitude is not zero. -/
theorem serializeLoop_decodeSM {s : Valtype} (hs : s ≠ []) (hmin : minimalTail s = true) :
    serializeLoop (decodeSM s).1 (decodeSM s).2 = s ∧ (decodeSM s).2 ≠ 0 := by
  induction s with
  | nil => contradiction
  | cons b rest ih =>
    match rest, ih, hmin with
    | [], _, hmin =>
      simp only [minimalTail, bne_iff_ne, ne_eq] at hmin
      simp only [decodeSM]
      rw [serializeLoop_of_low (by omega) (Nat.mod_lt _ (by decide))]
      exact ⟨by simpa using byte_of_low_sign b, hmin⟩
    | [c], ih, hmin =>
      have hb := byte_toNat_lt b
      simp only [decodeSM]
      by_cases hc : c.toNat % 128 = 0
      · have hb' : 128 ≤ b.toNat := by simpa [minimalTail, hc] using hmin
        rw [hc, Nat.mul_zero, Nat.add_zero, serializeLoop_of_top hb' hb, byte_eq_ofNat]
        simp only [decide_eq_true_eq, List.cons.injEq, and_true, true_and]
        exact ⟨byte_sign_of_low_zero c hc, by omega⟩
      · have hc' := ih (by simp) (by simpa [minimalTail] using hc)
        simp only [decodeSM] at hc'
        rw [serializeLoop_of_ge (by omega), show (b.toNat + 256 * (c.toNat % 128)) / 256
          = c.toNat % 128 from by omega, hc'.1,
          show (b.toNat + 256 * (c.toNat % 128)) % 256 = b.toNat from by omega, byte_eq_ofNat]
        exact ⟨rfl, by omega⟩
    | c :: d :: rest, ih, hmin =>
      obtain ⟨h₁, h₂⟩ := ih (by simp) (by simpa [minimalTail] using hmin)
      rw [decodeSM_cons (by simp)]
      have hb := byte_toNat_lt b
      rw [serializeLoop_of_ge (by omega),
        show (b.toNat + 256 * (decodeSM (c :: d :: rest)).2) / 256
          = (decodeSM (c :: d :: rest)).2 from by omega, h₁,
        show (b.toNat + 256 * (decodeSM (c :: d :: rest)).2) % 256 = b.toNat from by omega,
        byte_eq_ofNat]
      exact ⟨rfl, by omega⟩

/-! ## Section 5: The three serializers agree -/

theorem slt_zero (v : BitVec 64) : v.slt 0 = decide (v.toInt < 0) := by
  simp [BitVec.slt]

theorem abs64_toNat (v : BitVec 64) : (abs64 v).toNat = v.toInt.natAbs := by
  have hv := v.isLt
  have hc := BitVec.toInt_eq_toNat_cond v
  unfold abs64
  rw [slt_zero]
  split
  · next h =>
    rw [BitVec.toNat_neg]
    simp only [decide_eq_true_eq] at h
    split at hc <;> omega
  · next h =>
    simp only [decide_eq_true_eq] at h
    split at hc <;> omega

/-- `avm::serialize` on an `int64_t` is the loop on its sign and magnitude. -/
theorem serialize_eq (v : BitVec 64) :
    serialize v = serializeLoop (decide (v.toInt < 0)) v.toInt.natAbs := by
  unfold serialize
  split
  · next h => subst h; exact (serializeLoop_zero _).symm
  · rw [abs64_toNat, slt_zero]

theorem natToBE_zero : natToBE 0 = [] := by rw [natToBE]; rfl

theorem natToBE_of_pos {m : Nat} (h : m ≠ 0) :
    natToBE m = natToBE (m / 256) ++ [UInt8.ofNat (m % 256)] := by
  rw [natToBE, if_neg h]

theorem natToBE_ne_nil {m : Nat} (h : m ≠ 0) : natToBE m ≠ [] := by
  rw [natToBE_of_pos h]; simp

/-- The sign only touches the first byte of the body. -/
theorem mpiBody_append (negative : Bool) (b y : UInt8) (bs : Valtype) :
    mpiBody negative (b :: bs ++ [y]) = mpiBody negative (b :: bs) ++ [y] := by
  by_cases hb : b &&& 0x80 = 0 <;> cases negative <;> simp [mpiBody, hb]

set_option maxRecDepth 8000 in
theorem ofNat_lor_0x80 {t : Nat} (h : t < 128) :
    UInt8.ofNat t ||| 0x80 = UInt8.ofNat (t ||| 0x80) := by
  revert t; decide

/-- `bigint::serialize` is the loop on the number's sign and magnitude. -/
theorem Bigint.serialize_eq (n : Int) :
    Bigint.serialize n = serializeLoop (decide (n < 0)) n.natAbs := by
  unfold Bigint.serialize bn2mpiBody
  generalize decide (n < 0) = negative
  generalize n.natAbs = m
  induction m using Nat.strong_induction_on with
  | _ m ih =>
    rcases Nat.eq_zero_or_pos m with rfl | h₀
    · rw [natToBE_zero, serializeLoop_zero]; rfl
    rcases Nat.lt_or_ge m 256 with h₁ | h₁
    · rw [natToBE_of_pos (by omega), Nat.div_eq_of_lt h₁, natToBE_zero, List.nil_append,
        Nat.mod_eq_of_lt h₁]
      rcases Nat.lt_or_ge m 128 with h₂ | h₂
      · have hs : ¬(UInt8.ofNat m &&& 0x80 ≠ 0) := by
          rw [byte_land_0x80, toNat_ofNat_of_lt h₁]; omega
        rw [serializeLoop_of_low h₀ h₂]
        cases negative <;> simp [mpiBody, hs, ofNat_lor_0x80 h₂]
      · have hs : UInt8.ofNat m &&& 0x80 ≠ 0 := by
          rw [byte_land_0x80, toNat_ofNat_of_lt h₁]; omega
        rw [serializeLoop_of_top h₂ h₁]
        cases negative
        · simp [mpiBody, hs]
        · simp [mpiBody, hs]; rfl
    · obtain ⟨b, bs, hb⟩ := List.exists_cons_of_ne_nil (natToBE_ne_nil (m := m / 256) (by omega))
      rw [natToBE_of_pos (by omega), hb, mpiBody_append, ← hb, List.reverse_append,
        ih _ (by omega), serializeLoop_of_ge h₁]
      rfl

/-- The sign and magnitude of an MPI body. -/
def mpiSM : Valtype → Bool × Nat
  | [] => (false, 0)
  | b :: bs => (decide (b &&& 0x80 ≠ 0), beValue ((b &&& 0x7f) :: bs))

set_option maxRecDepth 8000 in
theorem byte_land_0x7f_of_low (b : UInt8) : b &&& 0x80 = 0 → b &&& 0x7f = b :=
  byte_cases (P := fun b => b &&& 0x80 = 0 → b &&& 0x7f = b) (by decide) b

theorem mpi2bn_eq (d : Valtype) : mpi2bn d = signed (mpiSM d) := by
  cases d with
  | nil => rfl
  | cons b bs =>
    unfold mpi2bn mpiSM signed
    by_cases hb : b &&& 0x80 = 0
    · simp [hb, byte_land_0x7f_of_low b hb]
    · simp [hb]

theorem beValue_append (d : Valtype) (b : UInt8) :
    beValue (d ++ [b]) = beValue d * 256 + b.toNat := by
  simp [beValue, List.foldl_append]

theorem mpiSM_append {d : Valtype} (hd : d ≠ []) (b : UInt8) :
    mpiSM (d ++ [b]) = ((mpiSM d).1, (mpiSM d).2 * 256 + b.toNat) := by
  obtain ⟨h, t, rfl⟩ := List.exists_cons_of_ne_nil hd
  simp only [List.cons_append, mpiSM]
  rw [← List.cons_append, beValue_append]

/-- The OpenSSL reading of the reversed bytes is `decodeSM`. -/
theorem decodeSM_eq_mpiSM (s : Valtype) : decodeSM s = mpiSM s.reverse := by
  induction s with
  | nil => rfl
  | cons b rest ih =>
    by_cases hr : rest = []
    · subst hr
      have h7f : b.toNat &&& 127 = b.toNat % 128 := by simpa using byte_land_0x7f b
      simp [decodeSM, mpiSM, beValue, byte_land_0x80, h7f, UInt8.size]
    · rw [decodeSM_cons hr, List.reverse_cons, mpiSM_append (by simpa using hr), ← ih]
      simp only [Prod.mk.injEq, true_and]
      ring

theorem Bigint.deserialize_eq (s : Valtype) : Bigint.deserialize s = signed (decodeSM s) := by
  rw [Bigint.deserialize, mpi2bn_eq, decodeSM_eq_mpiSM]

theorem isMinimallyEncoded_eq (span : Valtype) (cap : Nat) :
    isMinimallyEncoded span cap = (decide (span.length ≤ cap) && minimalTail span) := by
  unfold isMinimallyEncoded
  by_cases hc : span.length ≤ cap
  · rw [if_neg (by omega), decide_eq_true hc, Bool.true_and]
    exact minimallyEncoded_test span
  · simp [show span.length > cap from by omega, hc]

/-! ## Section 6: The round trip -/

namespace CScriptNum

/-- `getvch`, whatever the kind, is the loop on the sign and magnitude. -/
theorem getvch_eq (n : CScriptNum) :
    n.getvch = serializeLoop (decide (n.value < 0)) n.value.natAbs := by
  cases n with
  | small v => exact serialize_eq v
  | big n => exact Bigint.serialize_eq n

theorem equal_iff (a b : CScriptNum) : a.equal b = true ↔ a.value = b.value := by
  cases a <;> cases b <;> simp [equal, value, BitVec.toInt_inj]

theorem ofSpan_ok_iff {s : Valtype} {cap : Nat} (h : s.length ≤ cap) :
    (∃ m, ofSpan s cap = .ok m) ↔ isMinimallyEncoded s cap = true := by
  unfold ofSpan
  rw [if_neg (by omega)]
  by_cases hm : isMinimallyEncoded s cap = true
  · simp only [hm, Bool.not_true, Bool.false_eq_true, ite_false, iff_true]
    split <;> exact ⟨_, rfl⟩
  · simp [hm]

end CScriptNum

theorem signed_sign_natAbs (v : Int) : signed (decide (v < 0), v.natAbs) = v := by
  unfold signed
  by_cases h : v < 0
  · simp only [h, decide_true_eq_true, ite_true, Int.ofNat_natAbs_of_nonpos h.le, neg_neg]
  · simp only [h, decide_false_eq_false, Bool.false_eq_true, ite_false]
    exact Int.natAbs_of_nonneg (by omega)

theorem signed_of_pos {sm : Bool × Nat} (h : sm.2 ≠ 0) :
    decide (signed sm < 0) = sm.1 ∧ (signed sm).natAbs = sm.2 := by
  obtain ⟨sg, m⟩ := sm
  cases sg
  · simp [signed] at h ⊢
  · simp [signed] at h ⊢; omega

/-- A number's bytes read back as the number. -/
theorem CScriptNum.ofSpan_getvch (n : CScriptNum) {cap : Nat} (h : n.getvch.length ≤ cap) :
    ∃ m, CScriptNum.ofSpan n.getvch cap = .ok m ∧ m.equal n = true := by
  rw [getvch_eq] at h ⊢
  by_cases hz : n.value.natAbs = 0
  · rw [hz, serializeLoop_zero]
    exact ⟨.big 0, rfl, by rw [equal_iff, value, Int.natAbs_eq_zero.mp hz]⟩
  · have hmin : isMinimallyEncoded (serializeLoop (decide (n.value < 0)) n.value.natAbs) cap
        = true := by
      rw [isMinimallyEncoded_eq, minimalTail_serializeLoop _ hz]; simpa using h
    have hne : serializeLoop (decide (n.value < 0)) n.value.natAbs ≠ [] := serializeLoop_ne_nil hz
    refine ⟨.big (Bigint.deserialize (serializeLoop (decide (n.value < 0)) n.value.natAbs)), ?_, ?_⟩
    · unfold ofSpan
      rw [if_neg (by omega), hmin]
      simp [hne]
    · rw [equal_iff, value, Bigint.deserialize_eq, decodeSM_serializeLoop _ hz,
        signed_sign_natAbs]

/-- A number read from bytes prints as those bytes. -/
theorem CScriptNum.getvch_ofSpan {s : Valtype} {cap : Nat} {m : CScriptNum}
    (h : CScriptNum.ofSpan s cap = .ok m) : m.getvch = s := by
  unfold CScriptNum.ofSpan at h
  split at h
  · cases h
  split at h
  · cases h
  next hmin =>
  simp only [Bool.not_eq_true', Bool.not_eq_false] at hmin
  split at h
  · next he =>
    cases h
    rw [List.isEmpty_iff.mp he, getvch_eq]
    exact serializeLoop_zero _
  · next he =>
    cases h
    have hs : s ≠ [] := fun hs => he (by simp [hs])
    have hmt : minimalTail s = true := by
      rw [isMinimallyEncoded_eq] at hmin; exact (by simpa using hmin : _ ∧ _).2
    obtain ⟨hloop, hpos⟩ := serializeLoop_decodeSM hs hmt
    obtain ⟨hsg, hab⟩ := signed_of_pos hpos
    rw [getvch_eq, value, Bigint.deserialize_eq, hsg, hab, hloop]

/-- The script-number format round-trips in both representations, and the
    two serializers agree on every `int64_t`. -/
theorem scriptNum_round_trip :
    (∀ n : CScriptNum,
      (∀ cap, n.getvch.length ≤ cap → isMinimallyEncoded n.getvch cap = true) ∧
      (n.getvch.length ≤ MAXIMUM_ITEM_SIZE →
        ∃ m, CScriptNum.ofSpan n.getvch MAXIMUM_ITEM_SIZE = .ok m ∧ m.equal n = true)) ∧
    (∀ s : Valtype, s.length ≤ MAXIMUM_ITEM_SIZE →
      ((∃ m, CScriptNum.ofSpan s MAXIMUM_ITEM_SIZE = .ok m) ↔
        isMinimallyEncoded s MAXIMUM_ITEM_SIZE = true) ∧
      ∀ m, CScriptNum.ofSpan s MAXIMUM_ITEM_SIZE = .ok m → m.getvch = s) ∧
    (∀ v : BitVec 64, serialize v = Bigint.serialize v.toInt) := by
  refine ⟨fun n => ⟨fun cap hcap => ?_, n.ofSpan_getvch⟩,
    fun s hs => ⟨CScriptNum.ofSpan_ok_iff hs, fun m => CScriptNum.getvch_ofSpan⟩,
    fun v => by rw [serialize_eq, Bigint.serialize_eq]⟩
  obtain ⟨m, hm, -⟩ := n.ofSpan_getvch hcap
  exact (CScriptNum.ofSpan_ok_iff hcap).mp ⟨m, hm⟩

/-! ## Section 7: Arithmetic

    The operators of `CScriptNum` (script_num.cpp) assert that both
    operands are of one kind, and `+=` and `-=` that a small result does not
    overflow; a failed `assert` aborts.  Big numbers divide as OpenSSL's
    `BN_div` does, rounding toward zero. -/

namespace CScriptNum

/-- `CScriptNum(int64_t)`. -/
def ofInt64 (n : Int) : CScriptNum := small (BitVec.ofInt 64 n)

/-- Whether an `int64_t` holds the integer. -/
def fitsInt64 (n : Int) : Bool := -2 ^ 63 ≤ n && n < 2 ^ 63

/-- `operator+=`. -/
def add : CScriptNum → CScriptNum → Except Thrown CScriptNum
  | small a, small b => if fitsInt64 (a.toInt + b.toInt) then .ok (small (a + b)) else .error .abort
  | big a, big b => .ok (big (a + b))
  | _, _ => .error .abort

/-- `operator-=`. -/
def sub : CScriptNum → CScriptNum → Except Thrown CScriptNum
  | small a, small b => if fitsInt64 (a.toInt - b.toInt) then .ok (small (a - b)) else .error .abort
  | big a, big b => .ok (big (a - b))
  | _, _ => .error .abort

/-- `operator*=`. -/
def mul : CScriptNum → CScriptNum → Except Thrown CScriptNum
  | small a, small b => .ok (small (a * b))
  | big a, big b => .ok (big (a * b))
  | _, _ => .error .abort

/-- `operator/=`. -/
def div : CScriptNum → CScriptNum → Except Thrown CScriptNum
  | small a, small b => .ok (small (a.sdiv b))
  | big a, big b => .ok (big (a.tdiv b))
  | _, _ => .error .abort

/-- `operator%=`. -/
def mod : CScriptNum → CScriptNum → Except Thrown CScriptNum
  | small a, small b => .ok (small (a.srem b))
  | big a, big b => .ok (big (a.tmod b))
  | _, _ => .error .abort

/-- `operator-()`. -/
def neg : CScriptNum → CScriptNum
  | small a => small (-a)
  | big a => big (-a)

/-- `getint`: the value, saturated to `int`. -/
def getint (n : CScriptNum) : Int := max (-2 ^ 31) (min n.value (2 ^ 31 - 1))

/-- `getSizeType`: asserts that the value is in `0 .. INT32_MAX`. -/
def getSizeType (n : CScriptNum) : Except Thrown Nat :=
  if 0 ≤ n.value ∧ n.value ≤ 2 ^ 31 - 1 then .ok n.value.toNat else .error .abort

@[simp] theorem value_ofInt64 (n : Int) : (ofInt64 n).value = (BitVec.ofInt 64 n).toInt := rfl

theorem getint_le (n : CScriptNum) : n.getint ≤ 2 ^ 31 - 1 := by
  unfold getint; omega

end CScriptNum

/-! ## Section 8: Sizes

    An encoding has one byte per base-256 digit of the magnitude, and one
    more when the top digit has its top bit set: below `128 * 256 ^ k` it
    has at most `k + 1` bytes, and from there on at least `k + 2`. -/

theorem length_serializeLoop_of_ge {negative : Bool} {a : Nat} (h : 256 ≤ a) :
    (serializeLoop negative a).length = (serializeLoop negative (a / 256)).length + 1 := by
  rw [serializeLoop_of_ge h, List.length_cons]

theorem length_serializeLoop_of_lt {negative : Bool} {a : Nat} (h : a < 256) :
    (serializeLoop negative a).length = if a = 0 then 0 else if a < 128 then 1 else 2 := by
  rcases Nat.eq_zero_or_pos a with rfl | h₀
  · simp [serializeLoop_zero]
  rcases Nat.lt_or_ge a 128 with h₁ | h₁
  · simp [serializeLoop_of_low h₀ h₁, h₁, h₀.ne']
  · simp [serializeLoop_of_top h₁ h, h₀.ne', Nat.not_lt.mpr h₁]

/-- Below `128 * 256 ^ k` the loop writes at most `k + 1` bytes. -/
theorem length_serializeLoop_le {negative : Bool} {a k : Nat} (h : a < 128 * 256 ^ k) :
    (serializeLoop negative a).length ≤ k + 1 := by
  induction k generalizing a with
  | zero =>
    rw [length_serializeLoop_of_lt (by omega)]
    split_ifs <;> omega
  | succ k ih =>
    rcases Nat.lt_or_ge a 256 with h₁ | h₁
    · rw [length_serializeLoop_of_lt h₁]
      split_ifs <;> omega
    · rw [length_serializeLoop_of_ge h₁]
      have := @ih (a / 256) (by rw [pow_succ] at h; omega)
      omega

/-- From `128 * 256 ^ k` on the loop writes at least `k + 2` bytes. -/
theorem le_length_serializeLoop {negative : Bool} {a k : Nat} (h : 128 * 256 ^ k ≤ a) :
    k + 2 ≤ (serializeLoop negative a).length := by
  induction k generalizing a with
  | zero =>
    rcases Nat.lt_or_ge a 256 with h₁ | h₁
    · rw [length_serializeLoop_of_lt h₁]
      split_ifs <;> omega
    · rw [length_serializeLoop_of_ge h₁]
      have h₂ : a / 256 ≠ 0 := by omega
      have := List.length_pos.mpr (@serializeLoop_ne_nil negative _ h₂)
      omega
  | succ k ih =>
    have h₁ : 256 ≤ a := by
      have : 1 ≤ 256 ^ k := Nat.one_le_pow _ _ (by decide)
      rw [pow_succ] at h; omega
    rw [length_serializeLoop_of_ge h₁]
    have := @ih (a / 256) (by rw [pow_succ] at h; omega)
    omega

/-- The loop never writes more bytes than the magnitude. -/
theorem length_serializeLoop_le_self (negative : Bool) (a : Nat) :
    (serializeLoop negative a).length ≤ a := by
  induction a using Nat.strong_induction_on with
  | _ a ih =>
    rcases Nat.lt_or_ge a 256 with h₁ | h₁
    · rw [length_serializeLoop_of_lt h₁]
      split_ifs <;> omega
    · rw [length_serializeLoop_of_ge h₁]
      have := ih (a / 256) (by omega)
      omega

namespace CScriptNum

theorem length_getvch_le {n : CScriptNum} {k : Nat} (h : n.value.natAbs < 128 * 256 ^ k) :
    n.getvch.length ≤ k + 1 := by
  rw [getvch_eq]; exact length_serializeLoop_le h

/-- A number printed in at most `k` bytes is below `256 ^ k` in magnitude. -/
theorem natAbs_value_lt {n : CScriptNum} {k : Nat} (h : n.getvch.length ≤ k) :
    n.value.natAbs < 256 ^ k := by
  rw [getvch_eq] at h
  by_contra hge
  cases k with
  | zero =>
    have h₁ : n.value.natAbs ≠ 0 := by rw [pow_zero] at hge; omega
    exact @serializeLoop_ne_nil (decide (n.value < 0)) _ h₁ (List.length_eq_zero.mp (by omega))
  | succ k =>
    have := @le_length_serializeLoop (decide (n.value < 0)) _ _
      (show 128 * 256 ^ k ≤ n.value.natAbs by rw [pow_succ] at hge; omega)
    omega

theorem ofSpan_big {s : Valtype} {cap : Nat} {m : CScriptNum} (h : ofSpan s cap = .ok m) :
    m = .big m.value := by
  unfold ofSpan at h
  split_ifs at h <;> cases h <;> rfl

/-- A number read from `s` is below `256 ^ s.length` in magnitude. -/
theorem natAbs_value_lt_of_ofSpan {s : Valtype} {cap : Nat} {m : CScriptNum}
    (h : ofSpan s cap = .ok m) : m.value.natAbs < 256 ^ s.length :=
  natAbs_value_lt (congrArg List.length (getvch_ofSpan h)).le

theorem length_le_of_ofSpan {s : Valtype} {cap : Nat} {m : CScriptNum}
    (h : ofSpan s cap = .ok m) : s.length ≤ cap := by
  unfold ofSpan at h
  split_ifs at h with h₁ <;> cases h <;> omega

theorem natAbs_value_ofInt64_le (n : Int) : (ofInt64 n).value.natAbs ≤ 2 ^ 63 := by
  have hv := (BitVec.ofInt 64 n).isLt
  have hc := BitVec.toInt_eq_toNat_cond (BitVec.ofInt 64 n)
  simp only [value_ofInt64]
  split at hc <;> omega

theorem length_getvch_ofInt64_le (n : Int) : (ofInt64 n).getvch.length ≤ 9 :=
  length_getvch_le (lt_of_le_of_lt (natAbs_value_ofInt64_le n) (by decide))

end CScriptNum

end Avm
