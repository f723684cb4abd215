import Avm.BlockInfo

/-! # Scripts

    The byte-level layer of the interpreter (script.h, script.cpp,
    serialize_number.h and the helpers at the top of interpreter.cpp): the
    limits, the opcodes, `GetScriptOp`, `CheckMinimalPush`, `IsPushOnly`,
    `CastToBool`, the condition stack of `EvalScript`, `MinimallyEncode`,
    and the bit shifts of `OP_LSHIFT` and `OP_RSHIFT`.

    A script is read one instruction at a time by `GetScriptOp`, and what
    is read does not depend on what the instructions before it did.
    `scriptOps` lists the reads of a script in order; a failed read ends the
    list with `none`.
-/

namespace Avm

/-! ## Section 1: limits -/

/-- Maximum number of bytes pushable to the stack. -/
def MAX_SCRIPT_ELEMENT_SIZE : Nat := 4000

/-- Maximum number of non-push operations per script. -/
def MAX_OPS_PER_SCRIPT : Nat := 1000000

/-- Maximum script length in bytes. -/
def MAX_SCRIPT_SIZE : Nat := 1000000

/-- Maximum number of values on the stack and the alt stack together. -/
def MAX_STACK_SIZE : Nat := 1000

/-! ## Section 2: opcodes -/

/-- `opcodetype`: the named opcodes of script.h, and any other byte. -/
inductive Opcode
  | OP_0 | OP_PUSHDATA1 | OP_PUSHDATA2 | OP_PUSHDATA4 | OP_1NEGATE | OP_RESERVED
  | OP_1 | OP_2 | OP_3 | OP_4 | OP_5 | OP_6 | OP_7 | OP_8
  | OP_9 | OP_10 | OP_11 | OP_12 | OP_13 | OP_14 | OP_15 | OP_16
  | OP_NOP | OP_VER | OP_IF | OP_NOTIF | OP_VERIF | OP_VERNOTIF | OP_ELSE | OP_ENDIF
  | OP_VERIFY | OP_RETURN
  | OP_TOALTSTACK | OP_FROMALTSTACK | OP_2DROP | OP_2DUP | OP_3DUP | OP_2OVER | OP_2ROT
  | OP_2SWAP | OP_IFDUP | OP_DEPTH | OP_DROP | OP_DUP | OP_NIP | OP_OVER | OP_PICK | OP_ROLL
  | OP_ROT | OP_SWAP | OP_TUCK
  | OP_CAT | OP_SPLIT | OP_NUM2BIN | OP_BIN2NUM | OP_SIZE
  | OP_INVERT | OP_AND | OP_OR | OP_XOR | OP_EQUAL | OP_EQUALVERIFY | OP_RESERVED1
  | OP_RESERVED2
  | OP_1ADD | OP_1SUB | OP_2MUL | OP_2DIV | OP_NEGATE | OP_ABS | OP_NOT | OP_0NOTEQUAL
  | OP_ADD | OP_SUB | OP_MUL | OP_DIV | OP_MOD | OP_LSHIFT | OP_RSHIFT
  | OP_BOOLAND | OP_BOOLOR | OP_NUMEQUAL | OP_NUMEQUALVERIFY | OP_NUMNOTEQUAL | OP_LESSTHAN
  | OP_GREATERTHAN | OP_LESSTHANOREQUAL | OP_GREATERTHANOREQUAL | OP_MIN | OP_MAX | OP_WITHIN
  | OP_RIPEMD160 | OP_SHA1 | OP_SHA256 | OP_HASH160 | OP_HASH256 | OP_CODESEPARATOR
  | OP_CHECKSIG | OP_CHECKSIGVERIFY | OP_CHECKMULTISIG | OP_CHECKMULTISIGVERIFY
  | OP_NOP1 | OP_CHECKLOCKTIMEVERIFY | OP_CHECKSEQUENCEVERIFY | OP_NOP4 | OP_NOP5 | OP_NOP6
  | OP_NOP7 | OP_NOP8 | OP_NOP9 | OP_NOP10
  | OP_CHECKDATASIG | OP_CHECKDATASIGVERIFY | OP_REVERSEBYTES
  | OP_CHECKAUTHSIG | OP_CHECKAUTHSIGVERIFY
  | OP_TXVERSION | OP_TXINPUTCOUNT | OP_TXOUTPUTCOUNT | OP_TXLOCKTIME | OP_OUTPOINTTXHASH
  | OP_OUTPOINTINDEX | OP_INPUTBYTECODE | OP_INPUTSEQUENCENUMBER | OP_INPUTWITNESSBYTECODE
  | OP_OUTPUTVALUE | OP_OUTPUTBYTECODE
  | OP_NFT_PUT | OP_FT_BALANCE_ADD
  | OP_KV_EXISTS | OP_KV_GET | OP_KV_PUT | OP_KV_DELETE
  | OP_FT_WITHDRAW | OP_NFT_WITHDRAW
  | OP_FT_BALANCE | OP_FT_COUNT | OP_FT_ITEM | OP_NFT_EXISTS | OP_NFT_COUNT | OP_NFT_ITEM
  | OP_GETBLOCKINFO | OP_DECODEBLOCKINFO | OP_HASH_FN
  /-- A byte with no name: a direct push length, or an undefined opcode. -/
  | unnamed (b : UInt8)
  deriving Repr

namespace Opcode

/-- The byte of each named opcode, as script.h assigns them. -/
def named : List (Opcode × UInt8) :=
  [(OP_0, 0x00), (OP_PUSHDATA1, 0x4c), (OP_PUSHDATA2, 0x4d), (OP_PUSHDATA4, 0x4e),
   (OP_1NEGATE, 0x4f), (OP_RESERVED, 0x50), (OP_1, 0x51), (OP_2, 0x52), (OP_3, 0x53),
   (OP_4, 0x54), (OP_5, 0x55), (OP_6, 0x56), (OP_7, 0x57), (OP_8, 0x58), (OP_9, 0x59),
   (OP_10, 0x5a), (OP_11, 0x5b), (OP_12, 0x5c), (OP_13, 0x5d), (OP_14, 0x5e), (OP_15, 0x5f),
   (OP_16, 0x60),
   (OP_NOP, 0x61), (OP_VER, 0x62), (OP_IF, 0x63), (OP_NOTIF, 0x64), (OP_VERIF, 0x65),
   (OP_VERNOTIF, 0x66), (OP_ELSE, 0x67), (OP_ENDIF, 0x68), (OP_VERIFY, 0x69),
   (OP_RETURN, 0x6a),
   (OP_TOALTSTACK, 0x6b), (OP_FROMALTSTACK, 0x6c), (OP_2DROP, 0x6d), (OP_2DUP, 0x6e),
   (OP_3DUP, 0x6f), (OP_2OVER, 0x70), (OP_2ROT, 0x71), (OP_2SWAP, 0x72), (OP_IFDUP, 0x73),
   (OP_DEPTH, 0x74), (OP_DROP, 0x75), (OP_DUP, 0x76), (OP_NIP, 0x77), (OP_OVER, 0x78),
   (OP_PICK, 0x79), (OP_ROLL, 0x7a), (OP_ROT, 0x7b), (OP_SWAP, 0x7c), (OP_TUCK, 0x7d),
   (OP_CAT, 0x7e), (OP_SPLIT, 0x7f), (OP_NUM2BIN, 0x80), (OP_BIN2NUM, 0x81), (OP_SIZE, 0x82),
   (OP_INVERT, 0x83), (OP_AND, 0x84), (OP_OR, 0x85), (OP_XOR, 0x86), (OP_EQUAL, 0x87),
   (OP_EQUALVERIFY, 0x88), (OP_RESERVED1, 0x89), (OP_RESERVED2, 0x8a),
   (OP_1ADD, 0x8b), (OP_1SUB, 0x8c), (OP_2MUL, 0x8d), (OP_2DIV, 0x8e), (OP_NEGATE, 0x8f),
   (OP_ABS, 0x90), (OP_NOT, 0x91), (OP_0NOTEQUAL, 0x92), (OP_ADD, 0x93), (OP_SUB, 0x94),
   (OP_MUL, 0x95), (OP_DIV, 0x96), (OP_MOD, 0x97), (OP_LSHIFT, 0x98), (OP_RSHIFT, 0x99),
   (OP_BOOLAND, 0x9a), (OP_BOOLOR, 0x9b), (OP_NUMEQUAL, 0x9c), (OP_NUMEQUALVERIFY, 0x9d),
   (OP_NUMNOTEQUAL, 0x9e), (OP_LESSTHAN, 0x9f), (OP_GREATERTHAN, 0xa0),
   (OP_LESSTHANOREQUAL, 0xa1), (OP_GREATERTHANOREQUAL, 0xa2), (OP_MIN, 0xa3),
   (OP_MAX, 0xa4), (OP_WITHIN, 0xa5),
   (OP_RIPEMD160, 0xa6), (OP_SHA1, 0xa7), (OP_SHA256, 0xa8), (OP_HASH160, 0xa9),
   (OP_HASH256, 0xaa), (OP_CODESEPARATOR, 0xab), (OP_CHECKSIG, 0xac),
   (OP_CHECKSIGVERIFY, 0xad), (OP_CHECKMULTISIG, 0xae), (OP_CHECKMULTISIGVERIFY, 0xaf),
   (OP_NOP1, 0xb0), (OP_CHECKLOCKTIMEVERIFY, 0xb1), (OP_CHECKSEQUENCEVERIFY, 0xb2),
   (OP_NOP4, 0xb3), (OP_NOP5, 0xb4), (OP_NOP6, 0xb5), (OP_NOP7, 0xb6), (OP_NOP8, 0xb7),
   (OP_NOP9, 0xb8), (OP_NOP10, 0xb9),
   (OP_CHECKDATASIG, 0xba), (OP_CHECKDATASIGVERIFY, 0xbb), (OP_REVERSEBYTES, 0xbc),
   (OP_CHECKAUTHSIG, 0xc0), (OP_CHECKAUTHSIGVERIFY, 0xc1),
   (OP_TXVERSION, 0xc2), (OP_TXINPUTCOUNT, 0xc3), (OP_TXOUTPUTCOUNT, 0xc4),
   (OP_TXLOCKTIME, 0xc5), (OP_OUTPOINTTXHASH, 0xc8), (OP_OUTPOINTINDEX, 0xc9),
   (OP_INPUTBYTECODE, 0xca), (OP_INPUTSEQUENCENUMBER, 0xcb), (OP_INPUTWITNESSBYTECODE, 0xcc),
   (OP_OUTPUTVALUE, 0xcd), (OP_OUTPUTBYTECODE, 0xce),
   (OP_NFT_PUT, 0xd1), (OP_FT_BALANCE_ADD, 0xd3),
   (OP_KV_EXISTS, 0xed), (OP_KV_GET, 0xef), (OP_KV_PUT, 0xf0), (OP_KV_DELETE, 0xf1),
   (OP_FT_WITHDRAW, 0xf2), (OP_NFT_WITHDRAW, 0xf3),
   (OP_FT_BALANCE, 0xf4), (OP_FT_COUNT, 0xf6), (OP_FT_ITEM, 0xf7), (OP_NFT_EXISTS, 0xf8),
   (OP_NFT_COUNT, 0xf9), (OP_NFT_ITEM, 0xfa),
   (OP_GETBLOCKINFO, 0xfb), (OP_DECODEBLOCKINFO, 0xfc), (OP_HASH_FN, 0xfd)]

/-- The opcode a byte stands for. -/
def ofByte (b : UInt8) : Opcode :=
  ((named.find? (·.2 == b)).map Prod.fst).getD (unnamed b)

end Opcode

/-- The bytes `EvalScript` compares opcodes against. -/
def OP_0 : UInt8 := 0x00
def OP_PUSHDATA1 : UInt8 := 0x4c
def OP_PUSHDATA2 : UInt8 := 0x4d
def OP_PUSHDATA4 : UInt8 := 0x4e
def OP_1 : UInt8 := 0x51
def OP_16 : UInt8 := 0x60
def OP_IF : UInt8 := 0x63
def OP_ENDIF : UInt8 := 0x68
def OP_RETURN : UInt8 := 0x6a

/-- `IsOpcodeDisabled`: `OP_2MUL` and `OP_2DIV`. -/
def isOpcodeDisabled (opcode : UInt8) : Bool := opcode == 0x8d || opcode == 0x8e

/-! ## Section 3: reading a script -/

/-- The length of the data a push opcode pushes, and the bytes after the
    length field; `none` when the script ends inside the field.  Lengths
    after `OP_PUSHDATA2` and `OP_PUSHDATA4` are little-endian. -/
def pushSize (opcode : UInt8) (rest : Valtype) : Option (Nat × Valtype) :=
  if opcode < OP_PUSHDATA1 then some (opcode.toNat, rest)
  else if opcode = OP_PUSHDATA1 then
    match rest with
    | [] => none
    | n :: r => some (n.toNat, r)
  else if opcode = OP_PUSHDATA2 then
    if rest.length < 2 then none else some (leValue (rest.take 2), rest.drop 2)
  else if rest.length < 4 then none else some (leValue (rest.take 4), rest.drop 4)

/-- `GetScriptOp`: the opcode, the data it pushes, and the rest of the
    script; `none` when the script ends inside the instruction.  The bytes
    left are compared with the length as `uint32_t(end - pc)`, modulo
    `2^32`. -/
def getScriptOp : Valtype → Option (UInt8 × Valtype × Valtype)
  | [] => none
  | opcode :: rest =>
    if opcode ≤ OP_PUSHDATA4 then
      (pushSize opcode rest).bind fun (nSize, r) =>
        if r.length % 2 ^ 32 < nSize then none else some (opcode, r.take nSize, r.drop nSize)
    else some (opcode, [], rest)

theorem pushSize_rest_le {opcode : UInt8} {rest r : Valtype} {n : Nat}
    (h : pushSize opcode rest = some (n, r)) : r.length ≤ rest.length := by
  unfold pushSize at h
  split_ifs at h
  · cases h; exact le_rfl
  · split at h
    · cases h
    · cases h; simp
  all_goals cases h; simp

theorem getScriptOp_rest_lt {script rest data : Valtype} {opcode : UInt8}
    (h : getScriptOp script = some (opcode, data, rest)) : rest.length < script.length := by
  match script with
  | [] => cases h
  | b :: bs =>
    simp only [getScriptOp] at h
    split_ifs at h
    · obtain ⟨⟨n, r⟩, hs, h⟩ := Option.bind_eq_some.mp h
      dsimp only at h
      split_ifs at h
      cases h
      have := pushSize_rest_le hs
      simp only [List.length_drop, List.length_cons]
      omega
    · cases h; simp

/-- The reads of `EvalScript`'s loop: each instruction in turn, as its
    opcode and pushed data, and `none` for a read that fails. -/
def scriptOps (script : Valtype) : List (Option (UInt8 × Valtype)) :=
  match h : getScriptOp script with
  | some (opcode, data, rest) =>
    have := getScriptOp_rest_lt h
    some (opcode, data) :: scriptOps rest
  | none => if script.isEmpty then [] else [none]
termination_by script.length

@[simp] theorem scriptOps_nil : scriptOps [] = [] := by
  rw [scriptOps]; rfl

theorem scriptOps_of_some {x rest data : Valtype} {opcode : UInt8}
    (h : getScriptOp x = some (opcode, data, rest)) :
    scriptOps x = some (opcode, data) :: scriptOps rest := by
  rw [scriptOps]
  split <;> simp_all

theorem scriptOps_of_none {x : Valtype} (h : getScriptOp x = none) :
    scriptOps x = if x.isEmpty then [] else [none] := by
  rw [scriptOps]
  split <;> simp_all

theorem getScriptOp_OP_0 (rest : Valtype) : getScriptOp (OP_0 :: rest) = some (OP_0, [], rest) := by
  have h0 : OP_0.toNat = 0 := rfl
  rw [getScriptOp, if_pos (by decide), pushSize.eq_def, if_pos (by decide), Option.some_bind, h0]
  simp

/-- An opcode above the pushes is read alone. -/
theorem scriptOps_cons_of_gt {opcode : UInt8} (h : OP_PUSHDATA4 < opcode) (rest : Valtype) :
    scriptOps (opcode :: rest) = some (opcode, []) :: scriptOps rest :=
  scriptOps_of_some (by simp [getScriptOp, UInt8.not_le.mpr h])

/-- `CheckMinimalPush`: the data is pushed by the shortest instruction. -/
def checkMinimalPush (data : Valtype) (opcode : UInt8) : Bool :=
  if data.length = 0 then opcode == OP_0
  else if data.length = 1 ∧ 1 ≤ data.headD 0 ∧ data.headD 0 ≤ 16 then false
  else if data.length = 1 ∧ data.headD 0 = 0x81 then false
  else if data.length ≤ 75 then opcode.toNat == data.length
  else if data.length ≤ 255 then opcode == OP_PUSHDATA1
  else if data.length ≤ 65535 then opcode == OP_PUSHDATA2
  else true

/-- `CScript::IsPushOnly`: every read succeeds and no opcode is above
    `OP_16`. -/
def isPushOnly (script : Valtype) : Bool :=
  (scriptOps script).all fun op => match op with
    | some (opcode, _) => opcode ≤ OP_16
    | none => false

/-- `CScript::IsSigOpReturn`: an output script `OP_RETURN 0x03 "sig"`
    followed by a push, whose data is the signature.  The source reads the
    four marker bytes without checking the script's length; bytes past the
    end are read as 0 here. -/
def isSigOpReturn (script : Valtype) : Option Valtype :=
  if !(script.length > 0 && script.headD 0 == OP_RETURN) then none
  else if !(script.getD 1 0 == 0x03 && script.getD 2 0 == 0x73 && script.getD 3 0 == 0x69 &&
      script.getD 4 0 == 0x67) then none
  else match getScriptOp (script.drop 5) with
    | some (opcode, item, _) => if opcode > OP_PUSHDATA4 then none else some item
    | none => none

/-! ## Section 4: values -/

/-- `CastToBool`: some byte is non-zero, other than a final `0x80`
    (negative zero). -/
def castToBool : Valtype → Bool
  | [] => false
  | b :: rest => if b ≠ 0 then !(rest.isEmpty && b == 0x80) else castToBool rest

/-- The trimming loop of `MinimallyEncode`, from byte `i`: find the last
    non-zero byte below it and move the sign into it, or into one more byte
    when its top bit is taken. -/
def minimallyEncodeTrim (data : Valtype) (last : UInt8) : Nat → Valtype
  | 0 => []
  | i + 1 =>
    let b := data.getD i 0
    if b ≠ 0 then
      if b &&& 0x80 ≠ 0 then (data.set (i + 1) last).take (i + 2)
      else (data.set i (b ||| last)).take (i + 1)
    else minimallyEncodeTrim data last i

/-- `MinimallyEncode`: the shortest encoding of the same number. -/
def minimallyEncode (data : Valtype) : Valtype :=
  match data.getLast? with
  | none => data
  | some last =>
    if last &&& 0x7f ≠ 0 then data
    else if data.length = 1 then []
    else if data.getD (data.length - 2) 0 &&& 0x80 ≠ 0 then data
    else minimallyEncodeTrim data last (data.length - 1)

theorem length_minimallyEncodeTrim_le (data : Valtype) (last : UInt8) :
    ∀ i, i < data.length → (minimallyEncodeTrim data last i).length ≤ data.length
  | 0, _ => by simp [minimallyEncodeTrim]
  | i + 1, h => by
    simp only [minimallyEncodeTrim]
    split_ifs
    · simp only [List.length_take, List.length_set]; omega
    · simp only [List.length_take, List.length_set]; omega
    · exact length_minimallyEncodeTrim_le data last i (by omega)

theorem length_minimallyEncode_le (data : Valtype) : (minimallyEncode data).length ≤ data.length := by
  unfold minimallyEncode
  split
  · exact le_rfl
  · split_ifs
    · exact le_rfl
    · simp
    · exact le_rfl
    · rename_i hl _ _ _
      have : data ≠ [] := by rintro rfl; cases hl
      exact length_minimallyEncodeTrim_le _ _ _ (by
        have := List.length_pos.mpr this; omega)

/-! ## Section 5: the condition stack -/

/-- `ConditionStack`: the size of the implied stack of branch conditions and
    the position of its first `false`, if any. -/
structure ConditionStack where
  m_stack_size : Nat
  m_first_false_pos : Option Nat
  deriving DecidableEq, Repr

namespace ConditionStack

/-- The empty condition stack. -/
def init : ConditionStack := ⟨0, none⟩

def empty (s : ConditionStack) : Bool := s.m_stack_size == 0

def all_true (s : ConditionStack) : Bool := s.m_first_false_pos.isNone

def push_back (s : ConditionStack) (f : Bool) : ConditionStack :=
  { m_stack_size := s.m_stack_size + 1
    m_first_false_pos :=
      if s.m_first_false_pos.isNone && !f then some s.m_stack_size else s.m_first_false_pos }

def pop_back (s : ConditionStack) : ConditionStack :=
  { m_stack_size := s.m_stack_size - 1
    m_first_false_pos :=
      if s.m_first_false_pos = some (s.m_stack_size - 1) then none else s.m_first_false_pos }

def toggle_top (s : ConditionStack) : ConditionStack :=
  match s.m_first_false_pos with
  | none => { s with m_first_false_pos := some (s.m_stack_size - 1) }
  | some p => if p = s.m_stack_size - 1 then { s with m_first_false_pos := none } else s

end ConditionStack

/-! ## Section 6: bit shifts -/

/-- `make_rshift_mask`. -/
def make_rshift_mask (n : Nat) : UInt8 := [0xFF, 0xFE, 0xFC, 0xF8, 0xF0, 0xE0, 0xC0, 0x80].getD n 0

/-- `make_lshift_mask`. -/
def make_lshift_mask (n : Nat) : UInt8 := [0xFF, 0x7F, 0x3F, 0x1F, 0x0F, 0x07, 0x03, 0x01].getD n 0

/-- `List.modify` on a byte: `result[k] |= v`. -/
def orAt (result : Valtype) (k : Nat) (v : UInt8) : Valtype := result.modify (· ||| v) k

/-- `RShift`: shift the bytes, as one big-endian number, right by `n`
    bits. -/
def rShift (x : Valtype) (n : Nat) : Valtype :=
  let bit_shift := n % 8
  let byte_shift := n / 8
  let mask := make_rshift_mask bit_shift
  let overflow_mask := ~~~mask
  (List.range x.length).foldl (fun result i =>
    let k := i + byte_shift
    let xi := x.getD i 0
    let result :=
      if k < x.length then orAt result k ((xi &&& mask) >>> bit_shift.toUInt8) else result
    if k + 1 < x.length then
      orAt result (k + 1) ((xi &&& overflow_mask) <<< (8 - bit_shift).toUInt8)
    else result) (List.replicate x.length 0)

/-- `LShift`: shift the bytes, as one big-endian number, left by `n`
    bits. -/
def lShift (x : Valtype) (n : Nat) : Valtype :=
  let bit_shift := n % 8
  let byte_shift := n / 8
  let mask := make_lshift_mask bit_shift
  let overflow_mask := ~~~mask
  (List.range x.length).reverse.foldl (fun result i =>
    let xi := x.getD i 0
    let result :=
      if byte_shift ≤ i then orAt result (i - byte_shift) ((xi &&& mask) <<< bit_shift.toUInt8)
      else result
    if byte_shift + 1 ≤ i then
      orAt result (i - byte_shift - 1) ((xi &&& overflow_mask) >>> (8 - bit_shift).toUInt8)
    else result) (List.replicate x.length 0)

@[simp] theorem length_orAt (result : Valtype) (k : Nat) (v : UInt8) :
    (orAt result k v).length = result.length := List.length_modify _ _ _

theorem length_foldl_orAt {α : Type} (f : Valtype → α → Valtype) (hf : ∀ r a, (f r a).length = r.length)
    (l : List α) (init : Valtype) : (l.foldl f init).length = init.length := by
  induction l generalizing init with
  | nil => rfl
  | cons a l ih => rw [List.foldl_cons, ih, hf]

@[simp] theorem length_rShift (x : Valtype) (n : Nat) : (rShift x n).length = x.length := by
  unfold rShift
  rw [length_foldl_orAt _ (fun r i => by dsimp only; split_ifs <;> simp), List.length_replicate]

@[simp] theorem length_lShift (x : Valtype) (n : Nat) : (lShift x n).length = x.length := by
  unfold lShift
  rw [length_foldl_orAt _ (fun r i => by dsimp only; split_ifs <;> simp), List.length_replicate]

end Avm
