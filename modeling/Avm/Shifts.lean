import Avm.ElementSize
import Avm.MinimalEncoding

/-! # `OP_LSHIFT` and `OP_RSHIFT`

    `LShift` and `RShift` (interpreter.cpp) shift a byte string, read as one
    big-endian number, by `n` bits.  They split `n` into a byte offset
    `n / 8` and a bit offset `n % 8`, and build the result from zeros.  For
    each source byte they or into one result byte its bits that stay in the
    byte (under `make_lshift_mask` or `make_rshift_mask`), shifted by the bit
    offset, and into the next result byte the bits that carry over.  Each
    result byte so gets two contributions, from neighbouring source bytes,
    on disjoint bits.

    Bit `i` of the big-endian value of `l` is bit `i % 8` of byte
    `l.length - 1 - i / 8`.  Comparing the result with the shifted value bit
    by bit, `LShift x n` is `beValue x * 2^n` modulo `2^(8 * x.length)` and
    `RShift x n` is `beValue x / 2^n`.  The opcodes shift by `getint` of the
    count and take `INT32_MAX` off it until it is used up, and shifts
    compose, so they shift by the whole count.
-/

namespace Avm

/-! ## Section 1: the bits of a byte -/

theorem toUInt8_mod_eight {s : Nat} (hs : s < 8) : (s.toUInt8 % 8).toBitVec.toNat = s := by
  interval_cases s <;> rfl

theorem toUInt8_sub_mod_eight {s : Nat} (hs : s < 8) :
    ((8 - s).toUInt8 % 8).toBitVec.toNat = (8 - s) % 8 := by
  interval_cases s <;> rfl

theorem lshift_mask_eq {s : Nat} (hs : s < 8) :
    make_lshift_mask s = ⟨BitVec.ofNat 8 (2 ^ (8 - s) - 1)⟩ := by
  interval_cases s <;> rfl

theorem rshift_mask_eq {s : Nat} (hs : s < 8) :
    make_rshift_mask s = ⟨~~~BitVec.ofNat 8 (2 ^ s - 1)⟩ := by
  interval_cases s <;> rfl

/-- The bits of `make_lshift_mask s` are those below `8 - s`. -/
theorem getLsbD_lshift_mask {s : Nat} (hs : s < 8) (k : Nat) :
    (make_lshift_mask s).toBitVec.getLsbD k = decide (k < 8 - s) := by
  rw [lshift_mask_eq hs, BitVec.getLsbD_ofNat, Nat.testBit_two_pow_sub_one]
  by_cases hk : k < 8 - s
  · simp [hk, show k < 8 by omega]
  · simp [hk]

/-- The bits of `make_rshift_mask s` are those from `s` up. -/
theorem getLsbD_rshift_mask {s : Nat} (hs : s < 8) (k : Nat) :
    (make_rshift_mask s).toBitVec.getLsbD k = (decide (s ≤ k) && decide (k < 8)) := by
  rw [rshift_mask_eq hs, BitVec.getLsbD_not, BitVec.getLsbD_ofNat, Nat.testBit_two_pow_sub_one]
  by_cases hk : k < 8 <;> by_cases hsk : s ≤ k <;> simp [hk, hsk]
  omega

section Parts

variable {s i : Nat} (hs : s < 8) (hi : i < 8)

include hs hi

/-- `LShift`'s part of byte `a` that stays: its bits shifted up by `s`. -/
theorem testBit_lshift_stay (a : UInt8) :
    ((a &&& make_lshift_mask s) <<< s.toUInt8).toNat.testBit i =
      (decide (s ≤ i) && a.toNat.testBit (i - s)) := by
  show ((a.toBitVec &&& (make_lshift_mask s).toBitVec) <<< (s.toUInt8 % 8).toBitVec.toNat).getLsbD i = _
  rw [BitVec.getLsbD_shiftLeft, toUInt8_mod_eight hs, BitVec.getLsbD_and,
    getLsbD_lshift_mask hs, ← BitVec.testBit_toNat]
  have ha : a.toBitVec.toNat = a.toNat := rfl
  by_cases h : s ≤ i
  · simp [h, hi, ha, show ¬i < s by omega, show i - s < 8 - s by omega]
  · simp [h, show i < s by omega]

/-- `LShift`'s carry of byte `c` into the byte above: its top `s` bits,
    shifted down by `8 - s`. -/
theorem testBit_lshift_carry (c : UInt8) :
    ((c &&& ~~~make_lshift_mask s) >>> (8 - s).toUInt8).toNat.testBit i =
      (decide (i < s) && c.toNat.testBit (i + 8 - s)) := by
  show ((c.toBitVec &&& ~~~(make_lshift_mask s).toBitVec) >>>
    ((8 - s).toUInt8 % 8).toBitVec.toNat).getLsbD i = _
  rw [BitVec.getLsbD_ushiftRight, toUInt8_sub_mod_eight hs, BitVec.getLsbD_and,
    BitVec.getLsbD_not, getLsbD_lshift_mask hs, ← BitVec.testBit_toNat]
  rcases Nat.eq_zero_or_pos s with rfl | hpos
  · simp
  · rw [Nat.mod_eq_of_lt (by omega), show 8 - s + i = i + 8 - s by omega]
    have hc : c.toBitVec.toNat = c.toNat := rfl
    by_cases h : i < s
    · simp [h, hc, show i + 8 - s < 8 by omega, show ¬i + 8 - s < 8 - s by omega]
    · simp [h, show ¬i + 8 - s < 8 by omega]

omit hi in
/-- `RShift`'s part of byte `a` that stays: its bits shifted down by `s`. -/
theorem testBit_rshift_stay (a : UInt8) :
    ((a &&& make_rshift_mask s) >>> s.toUInt8).toNat.testBit i =
      (decide (i + s < 8) && a.toNat.testBit (i + s)) := by
  show ((a.toBitVec &&& (make_rshift_mask s).toBitVec) >>> (s.toUInt8 % 8).toBitVec.toNat).getLsbD i = _
  rw [BitVec.getLsbD_ushiftRight, toUInt8_mod_eight hs, BitVec.getLsbD_and,
    getLsbD_rshift_mask hs, ← BitVec.testBit_toNat, Nat.add_comm s i]
  have ha : a.toBitVec.toNat = a.toNat := rfl
  by_cases h : i + s < 8 <;> simp [h, ha]

/-- `RShift`'s carry of byte `c` into the byte below: its low `s` bits,
    shifted up by `8 - s`. -/
theorem testBit_rshift_carry (c : UInt8) :
    ((c &&& ~~~make_rshift_mask s) <<< (8 - s).toUInt8).toNat.testBit i =
      (decide (8 - s ≤ i) && c.toNat.testBit (i - (8 - s))) := by
  show ((c.toBitVec &&& ~~~(make_rshift_mask s).toBitVec) <<<
    ((8 - s).toUInt8 % 8).toBitVec.toNat).getLsbD i = _
  rw [BitVec.getLsbD_shiftLeft, toUInt8_sub_mod_eight hs, BitVec.getLsbD_and,
    BitVec.getLsbD_not, getLsbD_rshift_mask hs, ← BitVec.testBit_toNat]
  rcases Nat.eq_zero_or_pos s with rfl | hpos
  · simp [hi]
  · rw [Nat.mod_eq_of_lt (by omega)]
    have hc : c.toBitVec.toNat = c.toNat := rfl
    by_cases h : 8 - s ≤ i
    · simp [h, hi, hc, show ¬i < 8 - s by omega, show i - (8 - s) < 8 by omega,
        show ¬s ≤ i - (8 - s) by omega]
    · simp [h, show i < 8 - s by omega]

end Parts

/-- No bit of a zero byte stays or carries. -/
@[simp] theorem zero_and_shiftLeft (m k : UInt8) : ((0 : UInt8) &&& m) <<< k = 0 := by
  apply UInt8.ext
  show ((0#8 &&& m.toBitVec) <<< (k % 8).toBitVec.toNat).toNat = 0
  simp

@[simp] theorem zero_and_shiftRight (m k : UInt8) : ((0 : UInt8) &&& m) >>> k = 0 := by
  apply UInt8.ext
  show ((0#8 &&& m.toBitVec) >>> (k % 8).toBitVec.toNat).toNat = 0
  simp

/-! ## Section 2: the loops -/

theorem getD_orAt {r : Valtype} {j : Nat} (hj : j < r.length) (k : Nat) (v : UInt8) :
    ((orAt r k v).getD j 0).toNat =
      if k = j then (r.getD j 0).toNat ||| v.toNat else (r.getD j 0).toNat := by
  unfold orAt
  rw [List.getD_eq_getElem _ _ (by simpa using hj), List.getD_eq_getElem _ _ hj,
    List.getElem_modify]
  split <;> simp [byte_toNat_lor]

/-- A conditional `orAt` ors `v` into byte `j` when it is made at `j`. -/
theorem getD_orAt_if {r : Valtype} {j : Nat} (hj : j < r.length) (c : Prop) [Decidable c]
    (k : Nat) (v : UInt8) :
    ((if c then orAt r k v else r).getD j 0).toNat =
      (r.getD j 0).toNat ||| (if c ∧ k = j then v.toNat else 0) := by
  by_cases hc : c
  · rw [if_pos hc, getD_orAt hj]
    by_cases hk : k = j <;> simp [hc, hk]
  · simp [hc]

section LShift

variable (x : Valtype) (n : Nat)

/-- The body of `LShift`'s loop, as `lShift` folds it over the source bytes
    from the last down. -/
def lShiftBody (result : Valtype) (i : Nat) : Valtype :=
  let xi := x.getD i 0
  let result :=
    if n / 8 ≤ i then orAt result (i - n / 8) ((xi &&& make_lshift_mask (n % 8)) <<< (n % 8).toUInt8)
    else result
  if n / 8 + 1 ≤ i then
    orAt result (i - n / 8 - 1) ((xi &&& ~~~make_lshift_mask (n % 8)) >>> (8 - n % 8).toUInt8)
  else result

theorem lShift_eq_foldl :
    lShift x n = (List.range x.length).reverse.foldl (lShiftBody x n) (List.replicate x.length 0) :=
  rfl

/-- The part of source byte `k` that `LShift` keeps in its byte. -/
def lShiftStay (k : Nat) : Nat :=
  ((x.getD k 0 &&& make_lshift_mask (n % 8)) <<< (n % 8).toUInt8).toNat

/-- The part of source byte `k` that `LShift` carries into the byte above. -/
def lShiftCarry (k : Nat) : Nat :=
  ((x.getD k 0 &&& ~~~make_lshift_mask (n % 8)) >>> (8 - n % 8).toUInt8).toNat

/-- One turn of the loop, on source byte `i`, ors its part that stays into
    byte `i - n / 8` and its carry into the byte before. -/
theorem getD_lShiftBody {r : Valtype} {j : Nat} (hj : j < r.length) (i : Nat) :
    ((lShiftBody x n r i).getD j 0).toNat =
      (r.getD j 0).toNat ||| (if j + n / 8 = i then lShiftStay x n i else 0) |||
        (if j + n / 8 + 1 = i then lShiftCarry x n i else 0) := by
  unfold lShiftBody
  dsimp only
  rw [getD_orAt_if (by split <;> simp [hj]), getD_orAt_if hj]
  simp only [show n / 8 ≤ i ∧ i - n / 8 = j ↔ j + n / 8 = i by omega,
    show n / 8 + 1 ≤ i ∧ i - n / 8 - 1 = j ↔ j + n / 8 + 1 = i by omega]
  rfl

theorem length_lShiftBody (r : Valtype) (i : Nat) : (lShiftBody x n r i).length = r.length := by
  unfold lShiftBody
  split_ifs <;> simp

/-- What byte `j` of the result holds once the loop has visited the source
    bytes from `t` up: the part of byte `j + n / 8` that stays, and the
    carry of the byte after it, each once it has been visited. -/
def lShiftByte (t j : Nat) : Nat :=
  (if t ≤ j + n / 8 then lShiftStay x n (j + n / 8) else 0) |||
    (if t ≤ j + n / 8 + 1 then lShiftCarry x n (j + n / 8 + 1) else 0)

theorem lShiftByte_step (i j : Nat) :
    lShiftByte x n i j = lShiftByte x n (i + 1) j |||
      (if j + n / 8 = i then lShiftStay x n i else 0) |||
        (if j + n / 8 + 1 = i then lShiftCarry x n i else 0) := by
  unfold lShiftByte
  rcases (show j + n / 8 = i ∨ j + n / 8 + 1 = i ∨ (j + n / 8 ≠ i ∧ j + n / 8 + 1 ≠ i) by omega)
    with rfl | rfl | ⟨h₁, h₂⟩
  · simp [Nat.lor_comm]
  · simp [show ¬j + n / 8 + 1 + 1 ≤ j + n / 8 by omega]
  · simp only [h₁, h₂, if_false, Nat.or_zero]
    congr 2 <;> simp only [eq_iff_iff] <;> omega

theorem lShiftByte_length (j : Nat) : lShiftByte x n x.length j = 0 := by
  have h₀ : ∀ k, x.length ≤ k → x.getD k 0 = 0 := fun k hk => List.getD_eq_default _ _ hk
  unfold lShiftByte lShiftStay lShiftCarry
  split_ifs <;> (try simp (disch := omega) only [h₀, zero_and_shiftLeft, zero_and_shiftRight]) <;>
    rfl

/-- The loop from source byte `t - 1` down to byte 0 completes the bytes. -/
theorem getD_foldl_lShiftBody (t : Nat) {r : Valtype} (hr : r.length = x.length)
    (h : ∀ j < x.length, (r.getD j 0).toNat = lShiftByte x n t j) :
    ∀ j < x.length,
      (((List.range t).reverse.foldl (lShiftBody x n) r).getD j 0).toNat = lShiftByte x n 0 j := by
  induction t generalizing r with
  | zero => simpa using h
  | succ t ih =>
    rw [List.range_succ, List.reverse_append, List.reverse_singleton, List.singleton_append,
      List.foldl_cons]
    refine ih (by rw [length_lShiftBody, hr]) fun j hj => ?_
    rw [getD_lShiftBody x n (hr ▸ hj), h j hj, lShiftByte_step x n t j]

/-- Byte `j` of `LShift x n`: the part of byte `j + n / 8` that stays and
    the carry of byte `j + n / 8 + 1`. -/
theorem getD_lShift {j : Nat} (hj : j < x.length) :
    ((lShift x n).getD j 0).toNat = lShiftStay x n (j + n / 8) ||| lShiftCarry x n (j + n / 8 + 1) := by
  rw [lShift_eq_foldl, getD_foldl_lShiftBody x n x.length (by simp)
    (fun j hj => by simp [lShiftByte_length x n j, List.getD_eq_getElem?_getD,
      List.getElem?_replicate, hj]) j hj]
  simp [lShiftByte]

end LShift

section RShift

variable (x : Valtype) (n : Nat)

/-- The body of `RShift`'s loop, as `rShift` folds it over the source bytes
    from the first up. -/
def rShiftBody (result : Valtype) (i : Nat) : Valtype :=
  let k := i + n / 8
  let xi := x.getD i 0
  let result :=
    if k < x.length then orAt result k ((xi &&& make_rshift_mask (n % 8)) >>> (n % 8).toUInt8)
    else result
  if k + 1 < x.length then
    orAt result (k + 1) ((xi &&& ~~~make_rshift_mask (n % 8)) <<< (8 - n % 8).toUInt8)
  else result

theorem rShift_eq_foldl :
    rShift x n = (List.range x.length).foldl (rShiftBody x n) (List.replicate x.length 0) :=
  rfl

/-- The part of source byte `k` that `RShift` keeps in its byte. -/
def rShiftStay (k : Nat) : Nat :=
  ((x.getD k 0 &&& make_rshift_mask (n % 8)) >>> (n % 8).toUInt8).toNat

/-- The part of source byte `k` that `RShift` carries into the byte below. -/
def rShiftCarry (k : Nat) : Nat :=
  ((x.getD k 0 &&& ~~~make_rshift_mask (n % 8)) <<< (8 - n % 8).toUInt8).toNat

theorem length_rShiftBody (r : Valtype) (i : Nat) : (rShiftBody x n r i).length = r.length := by
  unfold rShiftBody
  dsimp only
  split_ifs <;> simp

/-- One turn of the loop, on source byte `i`, ors its part that stays into
    byte `i + n / 8` and its carry into the byte after. -/
theorem getD_rShiftBody {r : Valtype} {j : Nat} (hj : j < x.length) (hr : r.length = x.length)
    (i : Nat) :
    ((rShiftBody x n r i).getD j 0).toNat =
      (r.getD j 0).toNat ||| (if i + n / 8 = j then rShiftStay x n i else 0) |||
        (if i + n / 8 + 1 = j then rShiftCarry x n i else 0) := by
  unfold rShiftBody
  dsimp only
  rw [getD_orAt_if (by split <;> simp [hr, hj]), getD_orAt_if (hr ▸ hj)]
  simp only [show i + n / 8 < x.length ∧ i + n / 8 = j ↔ i + n / 8 = j by omega,
    show i + n / 8 + 1 < x.length ∧ i + n / 8 + 1 = j ↔ i + n / 8 + 1 = j by omega]
  rfl

/-- What byte `j` of the result holds once the loop has visited the source
    bytes below `t`: the part of byte `j - n / 8` that stays, and the carry
    of the byte before it, each once it has been visited. -/
def rShiftByte (t j : Nat) : Nat :=
  (if n / 8 ≤ j ∧ j - n / 8 < t then rShiftStay x n (j - n / 8) else 0) |||
    (if n / 8 + 1 ≤ j ∧ j - n / 8 - 1 < t then rShiftCarry x n (j - n / 8 - 1) else 0)

theorem rShiftByte_step (t j : Nat) :
    rShiftByte x n (t + 1) j = rShiftByte x n t j |||
      (if t + n / 8 = j then rShiftStay x n t else 0) |||
        (if t + n / 8 + 1 = j then rShiftCarry x n t else 0) := by
  unfold rShiftByte
  rcases (show t + n / 8 = j ∨ t + n / 8 + 1 = j ∨ (t + n / 8 ≠ j ∧ t + n / 8 + 1 ≠ j) by omega)
    with rfl | rfl | ⟨h₁, h₂⟩
  · simp (disch := omega) only [if_pos, if_neg, show t + n / 8 - n / 8 = t by omega, if_true,
      Nat.zero_or, Nat.or_zero,
      show n / 8 + 1 ≤ t + n / 8 ∧ t - 1 < t + 1 ↔ n / 8 + 1 ≤ t + n / 8 ∧ t - 1 < t by omega]
    exact Nat.lor_comm _ _
  · simp (disch := omega) only [if_pos, if_neg, show t + n / 8 + 1 - n / 8 - 1 = t by omega,
      if_true, Nat.zero_or, Nat.or_zero]
  · simp only [h₁, h₂, if_false, Nat.or_zero]
    congr 2 <;> simp only [eq_iff_iff] <;> omega

/-- The loop over the source bytes below `t`. -/
theorem getD_foldl_rShiftBody (t : Nat) {j : Nat} (hj : j < x.length) :
    (((List.range t).foldl (rShiftBody x n) (List.replicate x.length 0)).getD j 0).toNat =
      rShiftByte x n t j := by
  induction t with
  | zero => simp [rShiftByte, List.getD_eq_getElem?_getD, List.getElem?_replicate, hj]
  | succ t ih =>
    rw [List.range_succ, List.foldl_append, List.foldl_cons, List.foldl_nil,
      getD_rShiftBody x n hj (by rw [length_foldl_orAt _ (length_rShiftBody x n), List.length_replicate]),
      ih, rShiftByte_step]

/-- Byte `j` of `RShift x n`: the part of byte `j - n / 8` that stays and the
    carry of byte `j - n / 8 - 1`, where they exist. -/
theorem getD_rShift {j : Nat} (hj : j < x.length) :
    ((rShift x n).getD j 0).toNat =
      (if n / 8 ≤ j then rShiftStay x n (j - n / 8) else 0) |||
        (if n / 8 + 1 ≤ j then rShiftCarry x n (j - n / 8 - 1) else 0) := by
  rw [rShift_eq_foldl, getD_foldl_rShiftBody x n _ hj, rShiftByte]
  simp only [show j - n / 8 < x.length by omega, show j - n / 8 - 1 < x.length by omega, and_true]

end RShift

/-! ## Section 3: the bits of a big-endian value -/

/-- Bit `i` of the big-endian value of `l` is bit `i % 8` of byte
    `l.length - 1 - i / 8`. -/
theorem testBit_beValue (l : Valtype) (i : Nat) :
    (beValue l).testBit i =
      (decide (i < 8 * l.length) && (l.getD (l.length - 1 - i / 8) 0).toNat.testBit (i % 8)) := by
  induction l using List.reverseRecOn generalizing i with
  | nil => simp [beValue]
  | append_singleton l b ih =>
    rw [beValue_append, show beValue l * 256 + b.toNat = 2 ^ 8 * beValue l + b.toNat by ring,
      Nat.testBit_mul_pow_two_add _ (byte_toNat_lt b), List.length_append, List.length_singleton]
    split_ifs with hi
    · rw [show l.length + 1 - 1 - i / 8 = l.length by omega, Nat.mod_eq_of_lt hi,
        List.getD_append_right _ _ _ _ le_rfl, Nat.sub_self]
      simp [show i < 8 * (l.length + 1) by omega]
    · rw [ih]
      by_cases hl : i - 8 < 8 * l.length
      · rw [List.getD_append _ _ _ _ (by omega),
          show l.length + 1 - 1 - i / 8 = l.length - 1 - (i - 8) / 8 by omega,
          show i % 8 = (i - 8) % 8 by omega]
        simp [hl, show i < 8 * (l.length + 1) by omega]
      · simp [hl, show ¬i < 8 * (l.length + 1) by omega]

/-! ## Section 4: the shifted values -/

/-- `LShift x n` is the big-endian value of `x` shifted left by `n` bits,
    modulo `2^(8 * x.length)`. -/
theorem beValue_lShift (x : Valtype) (n : Nat) :
    beValue (lShift x n) = beValue x * 2 ^ n % 2 ^ (8 * x.length) := by
  apply Nat.eq_of_testBit_eq
  intro i
  rw [testBit_beValue, length_lShift, Nat.testBit_mod_two_pow, ← Nat.shiftLeft_eq,
    Nat.testBit_shiftLeft, testBit_beValue]
  by_cases hi : i < 8 * x.length
  swap
  · simp [hi]
  have hs : n % 8 < 8 := Nat.mod_lt _ (by omega)
  have hb : i % 8 < 8 := Nat.mod_lt _ (by omega)
  rw [getD_lShift x n (by omega), Nat.testBit_or, lShiftStay, lShiftCarry,
    testBit_lshift_stay hs hb, testBit_lshift_carry hs hb]
  simp only [hi, decide_True, Bool.true_and]
  by_cases hsb : n % 8 ≤ i % 8
  · -- bit `i` comes from the part of its byte's source that stays
    simp only [hsb, show ¬i % 8 < n % 8 by omega, decide_True, decide_False, Bool.true_and,
      Bool.false_and, Bool.or_false]
    by_cases hni : n ≤ i
    · rw [show x.length - 1 - i / 8 + n / 8 = x.length - 1 - (i - n) / 8 by omega,
        show i % 8 - n % 8 = (i - n) % 8 by omega]
      simp [hni, show i - n < 8 * x.length by omega]
    · rw [List.getD_eq_default x 0 (show x.length ≤ x.length - 1 - i / 8 + n / 8 by omega)]
      simp [hni]
  · -- bit `i` is carried from the byte after its source
    simp only [hsb, show i % 8 < n % 8 by omega, decide_True, decide_False, Bool.true_and,
      Bool.false_and, Bool.false_or]
    by_cases hni : n ≤ i
    · rw [show x.length - 1 - i / 8 + n / 8 + 1 = x.length - 1 - (i - n) / 8 by omega,
        show i % 8 + 8 - n % 8 = (i - n) % 8 by omega]
      simp [hni, show i - n < 8 * x.length by omega]
    · rw [List.getD_eq_default x 0 (show x.length ≤ x.length - 1 - i / 8 + n / 8 + 1 by omega)]
      simp [hni]

/-- `RShift x n` is the big-endian value of `x` shifted right by `n` bits. -/
theorem beValue_rShift (x : Valtype) (n : Nat) : beValue (rShift x n) = beValue x / 2 ^ n := by
  apply Nat.eq_of_testBit_eq
  intro i
  rw [testBit_beValue, length_rShift, ← Nat.shiftRight_eq_div_pow, Nat.testBit_shiftRight,
    testBit_beValue]
  by_cases hi : i < 8 * x.length
  swap
  · simp [hi, show ¬n + i < 8 * x.length by omega]
  have hs : n % 8 < 8 := Nat.mod_lt _ (by omega)
  have hb : i % 8 < 8 := Nat.mod_lt _ (by omega)
  rw [getD_rShift x n (by omega), Nat.testBit_or]
  simp only [hi, decide_True, Bool.true_and]
  by_cases hbs : i % 8 + n % 8 < 8
  · -- bit `i` is the part of its source byte that stays
    have hc : (if n / 8 + 1 ≤ x.length - 1 - i / 8 then
        rShiftCarry x n (x.length - 1 - i / 8 - n / 8 - 1) else 0).testBit (i % 8) = false := by
      split <;> simp [rShiftCarry, testBit_rshift_carry hs hb, show ¬8 - n % 8 ≤ i % 8 by omega]
    rw [hc, Bool.or_false]
    by_cases hq : n / 8 ≤ x.length - 1 - i / 8
    · rw [if_pos hq, rShiftStay, testBit_rshift_stay hs, decide_eq_true hbs, Bool.true_and,
        show x.length - 1 - i / 8 - n / 8 = x.length - 1 - (n + i) / 8 by omega,
        show i % 8 + n % 8 = (n + i) % 8 by omega]
      simp [show n + i < 8 * x.length by omega]
    · rw [if_neg hq]
      simp [show ¬n + i < 8 * x.length by omega]
  · -- bit `i` is carried from the byte before its source
    have hst : (if n / 8 ≤ x.length - 1 - i / 8 then
        rShiftStay x n (x.length - 1 - i / 8 - n / 8) else 0).testBit (i % 8) = false := by
      split <;> simp [rShiftStay, testBit_rshift_stay hs, hbs]
    rw [hst, Bool.false_or]
    by_cases hq : n / 8 + 1 ≤ x.length - 1 - i / 8
    · rw [if_pos hq, rShiftCarry, testBit_rshift_carry hs hb,
        decide_eq_true (show 8 - n % 8 ≤ i % 8 by omega), Bool.true_and,
        show x.length - 1 - i / 8 - n / 8 - 1 = x.length - 1 - (n + i) / 8 by omega,
        show i % 8 - (8 - n % 8) = (n + i) % 8 by omega]
      simp [show n + i < 8 * x.length by omega]
    · rw [if_neg hq]
      simp [show ¬n + i < 8 * x.length by omega]

/-! ## Section 5: the opcodes -/

/-- The shift loop of the opcodes shifts by the whole count, given a shift
    whose effect on the value composes: `g L a k` is the value of a shift by
    `k` of `L` bytes of value `a`. -/
theorem beValue_shiftLoop {shift : Valtype → Nat → Valtype} (g : Nat → Nat → Nat → Nat)
    (hs : ∀ v k, (shift v k).length = v.length)
    (hval : ∀ v k, beValue (shift v k) = g v.length (beValue v) k)
    (hcomp : ∀ L a k₁ k₂, g L (g L a k₁) k₂ = g L a (k₁ + k₂)) (v : Valtype) (n : Int)
    (h0 : 0 ≤ n) : beValue (shiftLoop shift v n) = g v.length (beValue v) n.toNat := by
  induction v, n using shiftLoop.induct shift with
  | case1 v n _ h ih =>
    rw [shiftLoop, if_pos h, ih (by omega), hs, hval, hcomp, CScriptNum.getint,
      show (CScriptNum.big n).value = n from rfl]
    unfold INT32_MAX at h ⊢
    congr 1
    omega
  | case2 v n h =>
    rw [shiftLoop, if_neg h, hval, CScriptNum.getint, show (CScriptNum.big n).value = n from rfl]
    unfold INT32_MAX at h
    congr 1
    omega

theorem beValue_shiftLoop_lShift (v : Valtype) {n : Int} (h0 : 0 ≤ n) :
    beValue (shiftLoop lShift v n) = beValue v * 2 ^ n.toNat % 2 ^ (8 * v.length) :=
  beValue_shiftLoop (fun L a k => a * 2 ^ k % 2 ^ (8 * L)) length_lShift beValue_lShift
    (fun L a k₁ k₂ => by dsimp only; rw [Nat.mod_mul_mod, pow_add, Nat.mul_assoc]) v n h0

theorem beValue_shiftLoop_rShift (v : Valtype) {n : Int} (h0 : 0 ≤ n) :
    beValue (shiftLoop rShift v n) = beValue v / 2 ^ n.toNat :=
  beValue_shiftLoop (fun _ a k => a / 2 ^ k) length_rShift beValue_rShift
    (fun L a k₁ k₂ => by dsimp only; rw [Nat.div_div_eq_div_mul, pow_add]) v n h0

theorem beValue_replicate_zero (k : Nat) : beValue (List.replicate k 0) = 0 := by
  induction k with
  | zero => rfl
  | succ k ih => rw [List.replicate_succ', beValue_append, ih]; rfl

theorem beValue_lt (l : Valtype) : beValue l < 2 ^ (8 * l.length) :=
  Nat.lt_pow_two_of_testBit _ fun i hi => by
    rw [testBit_beValue]
    simp [show ¬i < 8 * l.length by omega]

/-- `OP_LSHIFT` and `OP_RSHIFT` on a count they read: a negative count
    fails, a count of at least the string's bits clears it, and any other
    runs the shift loop. -/
theorem execShift_eq {shift : Valtype → Nat → Valtype} {m : Machine} {nv x : Valtype}
    {rest : List Valtype} (hstack : m.stack = nv :: x :: rest) {n : CScriptNum}
    (hn : num nv = .ok n) :
    execShift shift m =
      if n.value < 0 then fail .INVALID_NUMBER_RANGE m
      else next m ((if n.value ≥ x.length * 8 then List.replicate x.length 0
        else shiftLoop shift x n.value) :: rest) := by
  rw [execShift, hstack]
  simp only [hn, except_ok_bind]

/-- `OP_LSHIFT` and `OP_RSHIFT` are logical shifts of the big-endian bit
    string.  On a string `x` and a count `n` the opcode reads (a minimally
    encoded number of at most `MAXIMUM_ITEM_SIZE` bytes), both fail with
    `INVALID_NUMBER_RANGE` when `n < 0`.  Otherwise `OP_LSHIFT` pushes the
    string of `x.length` bytes whose big-endian value is that of `x` times
    `2^n`, modulo `2^(8 * x.length)`, and `OP_RSHIFT` the one whose value is
    that of `x` divided by `2^n`. -/
theorem shifts_are_logical (env : Env) (fExec : Bool) {m : Machine} {nv x : Valtype}
    {rest : List Valtype} (hstack : m.stack = nv :: x :: rest) {n : CScriptNum}
    (hn : num nv = .ok n) :
    (n.value < 0 →
      execOpcode env fExec .OP_LSHIFT m = fail .INVALID_NUMBER_RANGE m ∧
        execOpcode env fExec .OP_RSHIFT m = fail .INVALID_NUMBER_RANGE m) ∧
    (0 ≤ n.value →
      (∃ y, execOpcode env fExec .OP_LSHIFT m = next m (y :: rest) ∧ y.length = x.length ∧
        beValue y = beValue x * 2 ^ n.value.toNat % 2 ^ (8 * x.length)) ∧
      (∃ y, execOpcode env fExec .OP_RSHIFT m = next m (y :: rest) ∧ y.length = x.length ∧
        beValue y = beValue x / 2 ^ n.value.toNat)) := by
  have hl : execOpcode env fExec .OP_LSHIFT m = execShift lShift m := rfl
  have hr : execOpcode env fExec .OP_RSHIFT m = execShift rShift m := rfl
  rw [hl, hr, execShift_eq hstack hn, execShift_eq hstack hn]
  refine ⟨fun hneg => by simp only [if_pos hneg, and_self], fun h0 => ?_⟩
  simp only [if_neg (not_lt.mpr h0)]
  by_cases hbig : n.value ≥ x.length * 8
  · have hk : 8 * x.length ≤ n.value.toNat := by omega
    simp only [if_pos hbig]
    refine ⟨⟨_, rfl, List.length_replicate _ _, ?_⟩, ⟨_, rfl, List.length_replicate _ _, ?_⟩⟩
    · rw [beValue_replicate_zero]
      exact (Nat.mod_eq_zero_of_dvd (Dvd.dvd.mul_left (Nat.pow_dvd_pow 2 hk) _)).symm
    · rw [beValue_replicate_zero]
      exact (Nat.div_eq_of_lt (lt_of_lt_of_le (beValue_lt x) (Nat.pow_le_pow_right (by omega) hk))).symm
  · simp only [if_neg hbig]
    exact ⟨⟨_, rfl, length_shiftLoop length_lShift _ _, beValue_shiftLoop_lShift x h0⟩,
      ⟨_, rfl, length_shiftLoop length_rShift _ _, beValue_shiftLoop_rShift x h0⟩⟩

/-- The string `01 80` and the count `1`, on top. -/
def shiftStart : Machine := .start [[1], [0x01, 0x80]] emptyContext

/-- Shifting `01 80` left by one bit carries the top bit of the low byte into
    the high byte: `03 00`. -/
theorem lshift_carries_into_high_byte :
    ∃ y, execOpcode sampleEnv true .OP_LSHIFT shiftStart = next shiftStart [y] ∧
      y.length = 2 ∧ beValue y = 0x0300 := by
  obtain ⟨y, hy, hl, hv⟩ := ((@shifts_are_logical sampleEnv true shiftStart [1] [0x01, 0x80] []
    rfl (.big 1) (by rfl)).2 (by decide)).1
  exact ⟨y, hy, hl, by rw [hv]; rfl⟩

/-- A minimally encoded count of `MAXIMUM_ITEM_SIZE + 1` bytes: `2^800000`. -/
def longCount : Valtype := List.replicate MAXIMUM_ITEM_SIZE 0 ++ [1]

/-- The numeric opcodes push results of up to `2 * MAXIMUM_ITEM_SIZE + 1`
    bytes, but a count longer than `MAXIMUM_ITEM_SIZE` bytes is not read:
    `CScriptNum` throws `scriptnum_error`, and `OP_LSHIFT` neither fails with
    `INVALID_NUMBER_RANGE` nor shifts. -/
theorem lshift_long_count_throws :
    minimalEncoding longCount = longCount ∧
      execOpcode sampleEnv true .OP_LSHIFT (.start [longCount, []] emptyContext) =
        .error (.obj .scriptnumOverflow) := by
  refine ⟨minimalEncoding_of_minimal (by simp [longCount])
    (minimalTail_append_singleton _ (by decide)), ?_⟩
  have hlen : longCount.length > MAXIMUM_ITEM_SIZE := by
    rw [longCount, List.length_append, List.length_replicate]
    exact Nat.lt_succ_self _
  show execShift lShift (.start [longCount, []] emptyContext) = _
  simp only [execShift, Machine.start, num, CScriptNum.ofSpan, if_pos hlen, except_error_bind]

end Avm
