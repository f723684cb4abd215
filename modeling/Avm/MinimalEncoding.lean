import Avm.Interpreter

/-! # `OP_NUM2BIN` and `OP_BIN2NUM`

    Every byte string has a value as a script number: sign and magnitude,
    little-endian, with the sign in the top bit of the last byte
    (`decodeSM`).  Non-minimal strings and negative zero have values too.
    The minimal encoding of that value is what `avm::serialize` writes:
    `serializeLoop` on the sign and magnitude.

    `MinimallyEncode` (serialize_number.h) computes it in place.  It drops
    the zero bytes below the sign byte and moves the sign into the last
    non-zero byte, or into one more byte when that byte's top bit is taken.
    `OP_NUM2BIN` pads the minimal encoding to the requested size and moves
    the sign into the new last byte.  `OP_BIN2NUM` checks the minimal
    encoding against `MAXIMUM_ITEM_SIZE`.  So the two are inverse:
    `OP_BIN2NUM` of a padded string is `OP_BIN2NUM` of the string before
    padding.

    `CastToBool` (interpreter.cpp) reads no number: it looks for a non-zero
    byte other than a final `0x80`.  Those are exactly the strings of
    non-zero magnitude, so it agrees with the value of every string.
-/

namespace Avm

/-! ## Section 1: values of byte strings -/

@[simp] theorem leValue_nil : leValue [] = 0 := rfl

@[simp] theorem leValue_cons (b : UInt8) (bs : Valtype) :
    leValue (b :: bs) = b.toNat + 256 * leValue bs := rfl

theorem leValue_append (l₁ l₂ : Valtype) :
    leValue (l₁ ++ l₂) = leValue l₁ + 256 ^ l₁.length * leValue l₂ := by
  induction l₁ with
  | nil => simp
  | cons b bs ih =>
    rw [List.cons_append, leValue_cons, leValue_cons, ih, List.length_cons, pow_succ]
    ring

@[simp] theorem leValue_replicate_zero (k : Nat) : leValue (List.replicate k 0) = 0 := by
  induction k with
  | zero => rfl
  | succ k ih => simp [List.replicate_succ, ih]

/-- The sign of a string ending in `b` is `b`'s top bit, and `b`'s other
    bits are the top byte of its magnitude. -/
theorem decodeSM_append_singleton (p : Valtype) (b : UInt8) :
    decodeSM (p ++ [b]) =
      (decide (128 ≤ b.toNat), leValue p + 256 ^ p.length * (b.toNat % 128)) := by
  induction p with
  | nil => simp [decodeSM]
  | cons a p ih =>
    rw [List.cons_append, decodeSM_cons (by simp), ih, leValue_cons, List.length_cons, pow_succ]
    congr 1
    ring

/-- Modelled from the spec: the value of a string read as a script number. -/
def scriptValue (y : Valtype) : Int := signed (decodeSM y)

/-- Modelled from the spec: the minimal encoding of a string's value. -/
def minimalEncoding (y : Valtype) : Valtype := (CScriptNum.big (scriptValue y)).getvch

/-- The minimal encoding is the serializer's loop on the sign and the
    magnitude: negative zero has none. -/
theorem minimalEncoding_eq (y : Valtype) :
    minimalEncoding y = serializeLoop (decodeSM y).1 (decodeSM y).2 := by
  rw [minimalEncoding, CScriptNum.getvch_eq, CScriptNum.value, scriptValue]
  by_cases h : (decodeSM y).2 = 0
  · have habs : (signed (decodeSM y)).natAbs = 0 := by
      unfold signed; split <;> simp [h]
    rw [habs, h, serializeLoop_zero, serializeLoop_zero]
  · obtain ⟨h₁, h₂⟩ := signed_of_pos h
    rw [h₁, h₂]

theorem minimalEncoding_congr {s t : Valtype} (h : decodeSM s = decodeSM t) :
    minimalEncoding s = minimalEncoding t := by
  rw [minimalEncoding, minimalEncoding, scriptValue, scriptValue, h]

/-- A minimal, non-empty string is its own minimal encoding. -/
theorem minimalEncoding_of_minimal {s : Valtype} (hs : s ≠ []) (hmin : minimalTail s = true) :
    minimalEncoding s = s := by
  rw [minimalEncoding_eq]
  exact (serializeLoop_decodeSM hs hmin).1

theorem minimalTail_minimalEncoding (y : Valtype) : minimalTail (minimalEncoding y) = true := by
  rw [minimalEncoding_eq]
  by_cases h : (decodeSM y).2 = 0
  · rw [h, serializeLoop_zero]; rfl
  · exact minimalTail_serializeLoop _ h

/-! ## Section 2: `MinimallyEncode` -/

theorem minimalTail_cons_cons (a b : UInt8) {t : Valtype} (ht : t ≠ []) :
    minimalTail (a :: b :: t) = minimalTail (b :: t) := by
  obtain ⟨c, t, rfl⟩ := List.exists_cons_of_ne_nil ht
  rfl

/-- Minimality is read off the last two bytes. -/
theorem minimalTail_append_pair (p : Valtype) (c d : UInt8) :
    minimalTail (p ++ [c, d]) = (d.toNat % 128 != 0 || 128 ≤ c.toNat) := by
  induction p with
  | nil => rfl
  | cons a p ih =>
    obtain ⟨x, t, hxt⟩ := List.exists_cons_of_ne_nil (show p ++ [c, d] ≠ [] by simp)
    have ht : t ≠ [] := by
      rintro rfl
      have := congrArg List.length hxt
      simp at this
    rw [List.cons_append, hxt, minimalTail_cons_cons _ _ ht, ← hxt, ih]

/-- A string whose last byte has magnitude bits is minimal. -/
theorem minimalTail_append_singleton (p : Valtype) {b : UInt8} (hb : b.toNat % 128 ≠ 0) :
    minimalTail (p ++ [b]) = true := by
  obtain rfl | ⟨p, c, rfl⟩ := p.eq_nil_or_concat
  · simpa [minimalTail] using hb
  · rw [List.concat_eq_append, List.append_assoc, List.singleton_append, minimalTail_append_pair]
    simp [hb]

/-- Writing byte `k` and cutting after it. -/
theorem take_succ_set {l : Valtype} {k : Nat} (h : k < l.length) (v : UInt8) :
    (l.set k v).take (k + 1) = l.take k ++ [v] := by
  rw [List.take_succ, List.getElem?_set_self h, List.set_take,
    List.set_eq_of_length_le (by simp)]
  rfl

theorem byte_toNat_lor (b c : UInt8) : (b ||| c).toNat = b.toNat ||| c.toNat :=
  BitVec.toNat_or _ _

/-- A sign byte `last` with no magnitude bits, or'ed into a byte below
    `0x80`, adds its sign bit. -/
theorem byte_lor_sign {b last : UInt8} (hb : b.toNat < 2 ^ 7) (hlast : last.toNat % 128 = 0) :
    (b ||| last).toNat = b.toNat + last.toNat := by
  rw [byte_toNat_lor]
  rcases (show last.toNat = 0 ∨ last.toNat = 2 ^ 7 * 1 by have := byte_toNat_lt last; omega)
    with h | h
  · rw [h, Nat.or_zero, Nat.add_zero]
  · rw [h, Nat.lor_comm, ← Nat.mul_add_lt_is_or hb, Nat.add_comm]

/-- The trimming loop from byte `n`: the minimal encoding of the bytes
    below `n` followed by the sign byte. -/
theorem minimallyEncodeTrim_eq {data : Valtype} {last : UInt8} (hlast : last.toNat % 128 = 0) :
    ∀ n, n < data.length →
      minimallyEncodeTrim data last n = minimalEncoding (data.take n ++ [last])
  | 0, _ => by
    rw [minimallyEncodeTrim, minimalEncoding_eq, List.take_zero, List.nil_append]
    simp [decodeSM, hlast, serializeLoop_zero]
  | i + 1, hi => by
    have hget : data.getD i 0 = data[i] := List.getD_eq_getElem _ _ (by omega)
    have htake : data.take (i + 1) = data.take i ++ [data[i]] := by
      rw [List.take_succ, List.getElem?_eq_getElem (by omega)]; rfl
    have hlen : (data.take i).length = i := by simp; omega
    rw [minimallyEncodeTrim, hget]
    split_ifs with hnz htop
    · -- the byte's top bit is taken: the sign byte stays after it
      rw [take_succ_set hi, minimalEncoding_of_minimal (by simp)]
      rw [htake, List.append_assoc, List.singleton_append, minimalTail_append_pair]
      simp [(byte_land_0x80 _).mp htop]
    · -- the sign moves into the byte
      have hb : data[i].toNat < 128 := by
        have := (byte_land_0x80 data[i]).not.mp htop; omega
      have hbz : data[i].toNat ≠ 0 := fun h => hnz (by rw [← byte_eq_ofNat data[i], h]; rfl)
      have hor := byte_lor_sign hb hlast
      rw [take_succ_set (by omega), ← minimalEncoding_of_minimal (by simp)
        (minimalTail_append_singleton _ (by omega : (data[i] ||| last).toNat % 128 ≠ 0))]
      apply minimalEncoding_congr
      have hmod : (data[i].toNat + last.toNat) % 128 = data[i].toNat := by omega
      have hsign : 128 ≤ data[i].toNat + last.toNat ↔ 128 ≤ last.toNat := by omega
      simp only [htake, decodeSM_append_singleton, leValue_append, hor, hmod, hsign, hlast,
        leValue_cons, leValue_nil, mul_zero, add_zero]
    · -- a zero byte is dropped
      have hz : data[i] = 0 := by simpa using hnz
      rw [minimallyEncodeTrim_eq hlast i (by omega)]
      apply minimalEncoding_congr
      rw [htake, hz, decodeSM_append_singleton, decodeSM_append_singleton, leValue_append, hlast]
      simp


/-- `MinimallyEncode` computes the minimal encoding of every string. -/
theorem minimallyEncode_eq (data : Valtype) : minimallyEncode data = minimalEncoding data := by
  obtain rfl | ⟨body, last, rfl⟩ := data.eq_nil_or_concat
  · rw [minimalEncoding_eq, decodeSM, serializeLoop_zero]; rfl
  rw [List.concat_eq_append]
  unfold minimallyEncode
  rw [List.getLast?_concat]
  dsimp only
  split_ifs with h7f hlen hpen
  · -- the last byte has magnitude bits
    have : last.toNat % 128 ≠ 0 := fun h => h7f ((byte_land_0x7f_eq_zero last).mpr h)
    exact (minimalEncoding_of_minimal (by simp) (minimalTail_append_singleton _ this)).symm
  · -- a lone sign byte
    have hlast := (byte_land_0x7f_eq_zero last).mp (not_not.mp h7f)
    obtain rfl : body = [] := by simpa using hlen
    rw [minimalEncoding_eq]
    simp [decodeSM, hlast, serializeLoop_zero]
  · -- the byte below the sign byte has its top bit set
    obtain rfl | ⟨p, c, rfl⟩ := body.eq_nil_or_concat
    · simp at hlen
    have hc : 128 ≤ c.toNat := by
      simpa [byte_land_0x80_eq_zero, List.getElem_append_right] using hpen
    rw [List.concat_eq_append, List.append_assoc, List.singleton_append]
    refine (minimalEncoding_of_minimal (by simp) ?_).symm
    rw [minimalTail_append_pair]
    simp [hc]
  · -- trim
    have hlast := (byte_land_0x7f_eq_zero last).mp (not_not.mp h7f)
    rw [minimallyEncodeTrim_eq hlast _ (by simp), List.length_append, List.length_singleton,
      Nat.add_sub_cancel, List.take_left' rfl]


/-- The minimal encoding has the value of the string it encodes. -/
theorem scriptValue_minimalEncoding (y : Valtype) :
    scriptValue (minimalEncoding y) = scriptValue y := by
  rw [minimalEncoding_eq, scriptValue, scriptValue]
  by_cases h : (decodeSM y).2 = 0
  · rw [h, serializeLoop_zero]
    unfold signed; split <;> simp [decodeSM, h]
  · rw [decodeSM_serializeLoop _ h]

/-! ## Section 3: the opcodes -/

set_option maxRecDepth 8000 in
theorem byte_land_0x80_toNat (c : UInt8) : (c &&& 0x80).toNat = c.toNat / 128 * 128 :=
  byte_cases (P := fun c => (c &&& 0x80).toNat = c.toNat / 128 * 128) (by decide) c

/-- Padding a string shorter than `size` with zeros and writing `v` at the
    last position. -/
theorem set_pad (l : Valtype) {size : Nat} (h : l.length < size) (v : UInt8) :
    (l ++ List.replicate (size - l.length) 0).set (size - 1) v =
      l ++ List.replicate (size - l.length - 1) 0 ++ [v] := by
  obtain ⟨k, hk⟩ : ∃ k, size - l.length = k + 1 := ⟨_, (Nat.succ_pred_eq_of_pos (by omega)).symm⟩
  rw [hk, List.set_append, if_neg (by omega), List.replicate_succ', List.set_append,
    if_neg (by simp; omega), List.append_assoc]
  simp only [List.length_replicate, Nat.add_sub_cancel, List.append_assoc]
  congr 2
  rw [show size - 1 - l.length - k = 0 by omega]
  rfl

/-- What `OP_NUM2BIN` pushes: the minimal encoding `e` of its operand with
    the sign bit cleared, zeros, and the sign bit as the last byte, `size`
    bytes in all, has the value of `e`. -/
theorem scriptValue_pad (e : Valtype) {size : Nat} (h : e.length < size) :
    let signbit : UInt8 := if e.isEmpty then 0 else e.getLastD 0 &&& 0x80
    let e' := if e.isEmpty then e else e.set (e.length - 1) (e.getLastD 0 &&& 0x7f)
    scriptValue ((e' ++ List.replicate (size - e'.length) 0).set (size - 1) signbit) =
      scriptValue e := by
  obtain rfl | ⟨p, c, rfl⟩ := e.eq_nil_or_concat
  · simp only [List.isEmpty_nil, if_true]
    rw [set_pad _ h, scriptValue, decodeSM_append_singleton, leValue_append]
    simp [scriptValue, decodeSM, signed]
  · have hne : (p ++ [c]).isEmpty = false := by simp
    have hset : (p ++ [c]).set ((p ++ [c]).length - 1) (c &&& 0x7f) = p ++ [c &&& 0x7f] := by
      simp [List.set_append]
    simp only [List.concat_eq_append, hne, if_false, Bool.false_eq_true, List.getLastD_concat, hset]
    simp only [List.concat_eq_append, List.length_append, List.length_singleton] at h
    rw [set_pad _ (by simpa using h), scriptValue, scriptValue, decodeSM_append_singleton,
      decodeSM_append_singleton, leValue_append, leValue_append, byte_land_0x80_toNat]
    have hc := byte_toNat_lt c
    have h7f := byte_land_0x7f c
    simp only [leValue_cons, leValue_nil, leValue_replicate_zero, h7f]
    congr 2
    · exact decide_eq_decide.mpr (by omega)
    · simp [Nat.mul_mod_left]


theorem isMinimallyEncoded_minimalEncoding (y : Valtype) (cap : Nat) :
    isMinimallyEncoded (minimalEncoding y) cap = decide ((minimalEncoding y).length ≤ cap) := by
  rw [isMinimallyEncoded_eq, minimalTail_minimalEncoding, Bool.and_true]

/-- `OP_BIN2NUM` replaces the top element by its minimal encoding, and fails
    when that is longer than `MAXIMUM_ITEM_SIZE`. -/
theorem execOpcode_bin2num (env : Env) (fExec : Bool) {m : Machine} {y : Valtype}
    {rest : List Valtype} (hstack : m.stack = y :: rest) :
    execOpcode env fExec .OP_BIN2NUM m =
      if (minimalEncoding y).length ≤ MAXIMUM_ITEM_SIZE then next m (minimalEncoding y :: rest)
      else fail .INVALID_NUMBER_RANGE { m with stack := minimalEncoding y :: rest } := by
  delta execOpcode
  rw [hstack]
  dsimp only
  rw [minimallyEncode_eq, isMinimallyEncoded_minimalEncoding]
  by_cases h : (minimalEncoding y).length ≤ MAXIMUM_ITEM_SIZE <;> simp [h]

section Num2Bin

variable (env : Env) (fExec : Bool) {m : Machine} {nv x : Valtype} {rest : List Valtype}
  (hstack : m.stack = nv :: x :: rest) {n : CScriptNum} (hn : num nv = .ok n)
  (h0 : 0 ≤ n.value) (hmax : n.value ≤ MAX_SCRIPT_ELEMENT_SIZE)

include hstack hn h0 hmax in
/-- `OP_NUM2BIN` on a size within bounds: it compares the minimal encoding
    of its operand with the size, and pads it when it is shorter. -/
theorem execOpcode_num2bin :
    execOpcode env fExec .OP_NUM2BIN m =
      let e := minimalEncoding x
      let size := n.value.toNat
      if e.length > size then fail .IMPOSSIBLE_ENCODING { m with stack := e :: rest }
      else if e.length = size then next m (e :: rest)
      else
        let signbit : UInt8 := if e.isEmpty then 0 else e.getLastD 0 &&& 0x80
        let e' := if e.isEmpty then e else e.set (e.length - 1) (e.getLastD 0 &&& 0x7f)
        next m ((e' ++ List.replicate (size - e'.length) 0).set (size - 1) signbit :: rest) := by
  have hsize : n.getSizeType = .ok n.value.toNat := by
    unfold CScriptNum.getSizeType
    rw [if_pos ⟨h0, by unfold MAX_SCRIPT_ELEMENT_SIZE at hmax; omega⟩]
  have hrange : ¬(n.value < 0 ∨ n.value > INT32_MAX) := by
    unfold INT32_MAX; unfold MAX_SCRIPT_ELEMENT_SIZE at hmax; omega
  have hcap : ¬n.value.toNat > MAX_SCRIPT_ELEMENT_SIZE := by
    unfold MAX_SCRIPT_ELEMENT_SIZE at hmax ⊢; omega
  show execNum2Bin m = _
  rw [execNum2Bin, hstack]
  simp only [hn, hsize, hrange, hcap, except_ok_bind, if_false, minimallyEncode_eq]

include hstack hn h0 hmax in
/-- `OP_NUM2BIN` to a size the minimal encoding does not fit in fails with
    `IMPOSSIBLE_ENCODING`. -/
theorem execOpcode_num2bin_of_lt (hlt : n.value < (minimalEncoding x).length) :
    execOpcode env fExec .OP_NUM2BIN m =
      fail .IMPOSSIBLE_ENCODING { m with stack := minimalEncoding x :: rest } := by
  rw [execOpcode_num2bin env fExec hstack hn h0 hmax, if_pos (by omega)]

include hstack hn h0 hmax in
/-- `OP_NUM2BIN` to a size the minimal encoding fits in pushes a string of
    that size with the operand's value. -/
theorem execOpcode_num2bin_of_le (hle : (minimalEncoding x).length ≤ n.value) :
    ∃ r, execOpcode env fExec .OP_NUM2BIN m = next m (r :: rest) ∧
      r.length = n.value.toNat ∧ scriptValue r = scriptValue x := by
  rw [execOpcode_num2bin env fExec hstack hn h0 hmax, if_neg (by omega)]
  by_cases heq : (minimalEncoding x).length = n.value.toNat
  · rw [if_pos heq]
    exact ⟨_, rfl, heq, scriptValue_minimalEncoding x⟩
  · rw [if_neg heq]
    refine ⟨_, rfl, ?_, ?_⟩
    · split <;> simp <;> omega
    · rw [scriptValue_pad _ (by omega), scriptValue_minimalEncoding]

end Num2Bin

/-- `OP_NUM2BIN` and `OP_BIN2NUM` are inverse conversions.  On an operand `x`
    and a minimally encoded size `n` in `0 .. 4000`, `OP_NUM2BIN` pushes `n`
    bytes with the value of `x` when the minimal encoding of `x` fits in `n`
    bytes, and fails with `IMPOSSIBLE_ENCODING` otherwise; `OP_BIN2NUM`
    pushes the minimal encoding of its operand when it fits in
    `MAXIMUM_ITEM_SIZE` bytes, and fails with `INVALID_NUMBER_RANGE`
    otherwise; and `OP_BIN2NUM` does the same on what `OP_NUM2BIN` pushes as
    on the operand of `OP_NUM2BIN`. -/
theorem num2bin_bin2num_inverse (env : Env) (fExec : Bool) :
    (∀ (m : Machine) (nv x : Valtype) (rest : List Valtype) (n : CScriptNum),
      m.stack = nv :: x :: rest → num nv = .ok n → 0 ≤ n.value →
      n.value ≤ MAX_SCRIPT_ELEMENT_SIZE →
      ((minimalEncoding x).length ≤ n.value →
        ∃ r, execOpcode env fExec .OP_NUM2BIN m = next m (r :: rest) ∧
          r.length = n.value.toNat ∧ scriptValue r = scriptValue x ∧
          ∀ (m' : Machine) (s : List Valtype),
            execOpcode env fExec .OP_BIN2NUM { m' with stack := r :: s } =
              execOpcode env fExec .OP_BIN2NUM { m' with stack := x :: s }) ∧
      (n.value < (minimalEncoding x).length →
        execOpcode env fExec .OP_NUM2BIN m =
          fail .IMPOSSIBLE_ENCODING { m with stack := minimalEncoding x :: rest })) ∧
    (∀ (m : Machine) (y : Valtype) (rest : List Valtype), m.stack = y :: rest →
      execOpcode env fExec .OP_BIN2NUM m =
        if (minimalEncoding y).length ≤ MAXIMUM_ITEM_SIZE then next m (minimalEncoding y :: rest)
        else fail .INVALID_NUMBER_RANGE { m with stack := minimalEncoding y :: rest }) := by
  refine ⟨fun m nv x rest n hstack hn h0 hmax => ⟨fun hle => ?_,
    execOpcode_num2bin_of_lt env fExec hstack hn h0 hmax⟩,
    fun m y rest hstack => execOpcode_bin2num env fExec hstack⟩
  obtain ⟨r, hr, hlen, hval⟩ := execOpcode_num2bin_of_le env fExec hstack hn h0 hmax hle
  refine ⟨r, hr, hlen, hval, fun m' s => ?_⟩
  have hmin : minimalEncoding r = minimalEncoding x := by
    rw [minimalEncoding, minimalEncoding, hval]
  rw [execOpcode_bin2num env fExec rfl, execOpcode_bin2num env fExec rfl, hmin]
  rfl

/-! ## Section 4: truth values -/

theorem byte_eq_zero_iff {b : UInt8} : b = 0 ↔ b.toNat = 0 :=
  ⟨fun h => h ▸ rfl, fun h => UInt8.toNat.inj h⟩

theorem byte_eq_0x80_iff {b : UInt8} : b = 0x80 ↔ b.toNat = 128 :=
  ⟨fun h => h ▸ rfl, fun h => UInt8.toNat.inj h⟩

/-- The strings of magnitude zero: zeros, or zeros and a final `0x80`. -/
def IsZeroEncoding (v : Valtype) : Prop :=
  ∃ k, v = List.replicate k 0 ∨ v = List.replicate k 0 ++ [0x80]

theorem isZeroEncoding_singleton {b : UInt8} : IsZeroEncoding [b] ↔ b = 0 ∨ b = 0x80 := by
  constructor
  · rintro ⟨k, h | h⟩
    · exact .inl (List.eq_of_mem_replicate (h ▸ List.mem_singleton_self b))
    · obtain rfl : k = 0 := by simpa using congrArg List.length h
      exact .inr (List.singleton_inj.mp h)
  · rintro (rfl | rfl)
    exacts [⟨1, .inl rfl⟩, ⟨0, .inr rfl⟩]

theorem isZeroEncoding_cons_cons {b c : UInt8} {rest : Valtype} :
    IsZeroEncoding (b :: c :: rest) ↔ b = 0 ∧ IsZeroEncoding (c :: rest) := by
  constructor
  · rintro ⟨_ | k, h | h⟩
    · cases h
    · simp at h
    · rw [List.replicate_succ] at h
      obtain ⟨rfl, ht⟩ := List.cons.inj h
      exact ⟨rfl, k, .inl ht⟩
    · rw [List.replicate_succ, List.cons_append] at h
      obtain ⟨rfl, ht⟩ := List.cons.inj h
      exact ⟨rfl, k, .inr ht⟩
  · rintro ⟨rfl, k, h | h⟩
    · exact ⟨k + 1, .inl (by rw [h, List.replicate_succ])⟩
    · exact ⟨k + 1, .inr (by rw [h, List.replicate_succ, List.cons_append])⟩

/-- `CastToBool` is false exactly on the strings of magnitude zero. -/
theorem castToBool_eq_false_iff (v : Valtype) : castToBool v = false ↔ (decodeSM v).2 = 0 := by
  induction v with
  | nil => simp [castToBool, decodeSM]
  | cons b rest ih =>
    have hb := byte_toNat_lt b
    cases rest with
    | nil =>
      simp only [castToBool, decodeSM, List.isEmpty_nil, Bool.true_and, ne_eq, byte_eq_zero_iff]
      by_cases h0 : b.toNat = 0
      · simp [h0]
      · simp only [h0, not_false_eq_true, if_true, Bool.not_eq_false', beq_iff_eq, byte_eq_0x80_iff]
        omega
    | cons c rest =>
      simp only [castToBool, decodeSM, List.isEmpty_cons, Bool.false_and, Bool.not_false, ne_eq,
        byte_eq_zero_iff] at ih ⊢
      by_cases h0 : b.toNat = 0
      · simp only [h0, not_true_eq_false, if_false, ih, zero_add]
        omega
      · simp only [h0, not_false_eq_true, if_true, Bool.true_eq_false, false_iff]
        omega

theorem magnitude_eq_zero_iff (v : Valtype) : (decodeSM v).2 = 0 ↔ IsZeroEncoding v := by
  induction v with
  | nil => exact ⟨fun _ => ⟨0, .inl rfl⟩, fun _ => rfl⟩
  | cons b rest ih =>
    have hb := byte_toNat_lt b
    cases rest with
    | nil =>
      rw [isZeroEncoding_singleton, byte_eq_zero_iff, byte_eq_0x80_iff]
      simp only [decodeSM]
      omega
    | cons c rest =>
      simp only [decodeSM] at ih ⊢
      rw [isZeroEncoding_cons_cons, ← ih, byte_eq_zero_iff]
      omega

instance : DecidablePred IsZeroEncoding := fun v => decidable_of_iff _ (magnitude_eq_zero_iff v)

theorem scriptValue_eq_zero_iff (v : Valtype) : scriptValue v = 0 ↔ (decodeSM v).2 = 0 := by
  unfold scriptValue signed
  split <;> omega

/-- A number read from `v` stands for the value `v` encodes. -/
theorem value_of_ofSpan {v : Valtype} {cap : Nat} {n : CScriptNum}
    (h : CScriptNum.ofSpan v cap = .ok n) : n.value = scriptValue v := by
  unfold CScriptNum.ofSpan at h
  split_ifs at h with h₁ h₂ h₃ <;> cases h
  · rw [List.isEmpty_iff.mp h₃]; rfl
  · exact Bigint.deserialize_eq v

/-- `CastToBool` is numeric truth: it is false exactly on the strings of
    value zero, which are the empty string, zeros, and zeros followed by a
    final `0x80`.  So on every string `CScriptNum` reads, whatever its size
    cap, it says whether the number differs from `0`. -/
theorem castToBool_is_numeric_truth (v : Valtype) :
    (castToBool v = false ↔ scriptValue v = 0) ∧ (scriptValue v = 0 ↔ IsZeroEncoding v) ∧
      ∀ (cap : Nat) (n : CScriptNum), CScriptNum.ofSpan v cap = .ok n →
        castToBool v = !n.equal (CScriptNum.ofInt64 0) := by
  have hz := (castToBool_eq_false_iff v).trans (scriptValue_eq_zero_iff v).symm
  refine ⟨hz, (scriptValue_eq_zero_iff v).trans (magnitude_eq_zero_iff v), fun cap n h => ?_⟩
  have heq : n.equal (CScriptNum.ofInt64 0) = true ↔ castToBool v = false := by
    rw [CScriptNum.equal_iff, value_of_ofSpan h, hz]
    rfl
  cases hc : castToBool v <;> simp_all

example : castToBool [0, 0, 0x80] = false ∧ IsZeroEncoding [0, 0, 0x80] := by decide

end Avm
