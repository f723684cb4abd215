import Avm.MinimalEncoding
import Avm.Builder

/-! # The numeric opcodes against an integer stack machine

    The numeric opcodes of `EvalScript` (interpreter.cpp) read their operands
    as `CScriptNum`s, a tagged union of an `int64_t` and a big integer, and
    push the result's `getvch`.  The `int64_t` side carries asserts: a sum
    that overflows, or two operands of different kinds, abort.  The
    interpreter never reaches them: a number read from the stack is always a
    big integer, and so is `bnOne` as `OP_1ADD` and `OP_1SUB` use it.  The
    only `int64_t` results are the truth values, whose encodings are those of
    the integers 1 and 0.

    So the numeric part of the interpreter is an integer stack machine.
    Section 1 states its operators from the spec: exact arithmetic,
    division and remainder truncated toward zero, errors for a zero divisor,
    1 and 0 for the comparisons.  Sections 2 and 3 prove that each switch arm
    computes its operator on the values of its operands' bytes.  Section 4
    is the machine on lists of integers, and the simulation of one of its
    instructions by one turn of the loop; Section 5 the reads of what the
    builder writes for a program; Section 6 the whole run: a script
    `CScript() << i₁ << … << iₖ` of numbers and numeric opcodes ends, when
    the machine runs the program, with the encodings of the machine's stack.
-/

namespace Avm

/-! ## Section 1: the integer operators -/

/-- The binary numeric opcodes, as operators on integers. -/
inductive NumOp2
  | add | sub | mul | div | mod | boolAnd | boolOr | numEqual | numEqualVerify | numNotEqual
  | lessThan | greaterThan | lessThanOrEqual | greaterThanOrEqual | min | max
  deriving DecidableEq, Repr

namespace NumOp2

/-- The opcode of each operator. -/
def opcode : NumOp2 → Opcode
  | add => .OP_ADD
  | sub => .OP_SUB
  | mul => .OP_MUL
  | div => .OP_DIV
  | mod => .OP_MOD
  | boolAnd => .OP_BOOLAND
  | boolOr => .OP_BOOLOR
  | numEqual => .OP_NUMEQUAL
  | numEqualVerify => .OP_NUMEQUALVERIFY
  | numNotEqual => .OP_NUMNOTEQUAL
  | lessThan => .OP_LESSTHAN
  | greaterThan => .OP_GREATERTHAN
  | lessThanOrEqual => .OP_LESSTHANOREQUAL
  | greaterThanOrEqual => .OP_GREATERTHANOREQUAL
  | min => .OP_MIN
  | max => .OP_MAX

/-- The byte of each operator's opcode, as script.h assigns them. -/
def byte : NumOp2 → UInt8
  | add => 0x93
  | sub => 0x94
  | mul => 0x95
  | div => 0x96
  | mod => 0x97
  | boolAnd => 0x9a
  | boolOr => 0x9b
  | numEqual => 0x9c
  | numEqualVerify => 0x9d
  | numNotEqual => 0x9e
  | lessThan => 0x9f
  | greaterThan => 0xa0
  | lessThanOrEqual => 0xa1
  | greaterThanOrEqual => 0xa2
  | min => 0xa3
  | max => 0xa4

theorem ofByte_byte (p : NumOp2) : Opcode.ofByte p.byte = p.opcode := by
  cases p <;> rfl

/-- Modelled from the spec: each operator on integers, exact, with 1 and 0
    for true and false, division and remainder truncated toward zero, and an
    error for a zero divisor. -/
def eval : NumOp2 → Int → Int → Except ScriptError Int
  | add, a, b => .ok (a + b)
  | sub, a, b => .ok (a - b)
  | mul, a, b => .ok (a * b)
  | div, a, b => if b = 0 then .error .DIV_BY_ZERO else .ok (a.tdiv b)
  | mod, a, b => if b = 0 then .error .MOD_BY_ZERO else .ok (a.tmod b)
  | boolAnd, a, b => .ok (if a ≠ 0 ∧ b ≠ 0 then 1 else 0)
  | boolOr, a, b => .ok (if a ≠ 0 ∨ b ≠ 0 then 1 else 0)
  | numEqual, a, b | numEqualVerify, a, b => .ok (if a = b then 1 else 0)
  | numNotEqual, a, b => .ok (if a ≠ b then 1 else 0)
  | lessThan, a, b => .ok (if a < b then 1 else 0)
  | greaterThan, a, b => .ok (if a > b then 1 else 0)
  | lessThanOrEqual, a, b => .ok (if a ≤ b then 1 else 0)
  | greaterThanOrEqual, a, b => .ok (if a ≥ b then 1 else 0)
  | min, a, b => .ok (Min.min a b)
  | max, a, b => .ok (Max.max a b)

end NumOp2

/-- The unary numeric opcodes, as operators on integers. -/
inductive NumOp1
  | oneAdd | oneSub | negate | abs | not | zeroNotEqual
  deriving DecidableEq, Repr

namespace NumOp1

/-- The opcode of each operator. -/
def opcode : NumOp1 → Opcode
  | oneAdd => .OP_1ADD
  | oneSub => .OP_1SUB
  | negate => .OP_NEGATE
  | abs => .OP_ABS
  | not => .OP_NOT
  | zeroNotEqual => .OP_0NOTEQUAL

/-- The byte of each operator's opcode, as script.h assigns them. -/
def byte : NumOp1 → UInt8
  | oneAdd => 0x8b
  | oneSub => 0x8c
  | negate => 0x8f
  | abs => 0x90
  | not => 0x91
  | zeroNotEqual => 0x92

theorem ofByte_byte (p : NumOp1) : Opcode.ofByte p.byte = p.opcode := by
  cases p <;> rfl

/-- Modelled from the spec: each operator on integers, exact. -/
def eval : NumOp1 → Int → Int
  | oneAdd, a => a + 1
  | oneSub, a => a - 1
  | negate, a => -a
  | abs, a => |a|
  | not, a => if a = 0 then 1 else 0
  | zeroNotEqual, a => if a ≠ 0 then 1 else 0

end NumOp1

/-! ## Section 2: the switch arms -/

theorem execOpcode_numOp2 (env : Env) (fExec : Bool) (p : NumOp2) {m : Machine}
    {vch1 vch2 : Valtype} {rest : List Valtype} (hs : m.stack = vch2 :: vch1 :: rest) :
    execOpcode env fExec p.opcode m = (do
      let bn1 ← num vch1
      let bn2 ← num vch2
      match ← binaryNumeric p.opcode bn1 bn2 with
      | .error e => fail e m
      | .ok bn =>
        if p = .numEqualVerify then
          if castToBool bn.getvch then next m rest
          else fail .NUMEQUALVERIFY { m with stack := bn.getvch :: rest }
        else next m (bn.getvch :: rest)) := by
  obtain ⟨_, _, _, _, _⟩ := m
  subst hs
  cases p <;> rfl

theorem execOpcode_numOp1 (env : Env) (fExec : Bool) (p : NumOp1) {m : Machine}
    {top : Valtype} {rest : List Valtype} (hs : m.stack = top :: rest) :
    execOpcode env fExec p.opcode m = (do
      let bn ← unaryNumeric p.opcode (← num top)
      next m (bn.getvch :: rest)) := by
  obtain ⟨_, _, _, _, _⟩ := m
  subst hs
  cases p <;> rfl

/-! ## Section 3: the refinement -/

theorem getvch_ofInt64_ite (c : Prop) [Decidable c] :
    (CScriptNum.ofInt64 (if c then 1 else 0)).getvch = Bigint.serialize (if c then 1 else 0) := by
  rw [CScriptNum.getvch_eq, Bigint.serialize_eq, CScriptNum.value_ofInt64]
  split <;> rfl

/-- The integers 1 and 0 serialize to `vchTrue` and `vchFalse`. -/
theorem serialize_ite (c : Prop) [Decidable c] :
    Bigint.serialize (if c then 1 else 0) = vchBool (decide c) := by
  rw [Bigint.serialize_eq]
  split
  · next h => rw [serializeLoop_of_low (by decide) (by decide), decide_eq_true h]; rfl
  · next h => rw [decide_eq_false h]; exact serializeLoop_zero _

theorem castToBool_vchBool (b : Bool) : castToBool (vchBool b) = b := by
  cases b <;> rfl

/-- A number read from the stack is a big number, of the value its bytes
    denote. -/
theorem num_eq_big {vch : Valtype} {bn : CScriptNum} (h : num vch = .ok bn) :
    bn = .big (scriptValue vch) :=
  (CScriptNum.ofSpan_big h).trans (by rw [value_of_ofSpan h])

theorem execOpcode_numOp2_refines (env : Env) (fExec : Bool) (p : NumOp2) {m : Machine}
    {vch1 vch2 : Valtype} {rest : List Valtype} {bn1 bn2 : CScriptNum}
    (hs : m.stack = vch2 :: vch1 :: rest) (h1 : num vch1 = .ok bn1) (h2 : num vch2 = .ok bn2) :
    execOpcode env fExec p.opcode m =
      match p.eval (scriptValue vch1) (scriptValue vch2) with
      | .error e => fail e m
      | .ok v =>
        if p = .numEqualVerify then
          if v ≠ 0 then next m rest
          else fail .NUMEQUALVERIFY { m with stack := Bigint.serialize v :: rest }
        else next m (Bigint.serialize v :: rest) := by
  rw [execOpcode_numOp2 env fExec p hs, h1, h2, num_eq_big h1, num_eq_big h2]
  generalize scriptValue vch1 = a
  generalize scriptValue vch2 = b
  simp only [except_ok_bind]
  cases p
  all_goals dsimp only [binaryNumeric, NumOp2.opcode, NumOp2.eval, CScriptNum.add, CScriptNum.sub,
    CScriptNum.mul, CScriptNum.div, CScriptNum.mod, CScriptNum.value]
  -- the arithmetic: on big numbers, the integer operations
  case add | sub | mul => rfl
  case div | mod => by_cases hb : b = 0 <;> simp only [hb, if_true, if_false] <;> rfl
  -- the truth values: the `int64_t` 1 and 0 encode as the integers do
  case numEqualVerify =>
    simp only [except_ok_bind, getvch_ofInt64_ite, if_true, serialize_ite, castToBool_vchBool]
    by_cases h : a = b <;> simp only [h, decide_True, decide_False, if_true, if_false] <;> rfl
  case boolAnd | boolOr | numEqual | numNotEqual | lessThan | greaterThan | lessThanOrEqual |
      greaterThanOrEqual =>
    simp only [except_ok_bind, getvch_ofInt64_ite, Bool.and_eq_true, Bool.or_eq_true,
      decide_eq_true_eq, reduceCtorEq, if_false]
  -- the selections: the operand itself
  case min =>
    simp only [except_ok_bind, reduceCtorEq, if_false, apply_ite CScriptNum.getvch]
    split_ifs with h
    · rw [min_eq_left h.le]; rfl
    · rw [min_eq_right (not_lt.mp h)]; rfl
  case max =>
    simp only [except_ok_bind, reduceCtorEq, if_false, apply_ite CScriptNum.getvch]
    split_ifs with h
    · rw [max_eq_left h.le]; rfl
    · rw [max_eq_right (not_lt.mp h)]; rfl

theorem execOpcode_numOp1_refines (env : Env) (fExec : Bool) (p : NumOp1) {m : Machine}
    {top : Valtype} {rest : List Valtype} {bn : CScriptNum} (hs : m.stack = top :: rest)
    (h : num top = .ok bn) :
    execOpcode env fExec p.opcode m = next m (Bigint.serialize (p.eval (scriptValue top)) :: rest) := by
  rw [execOpcode_numOp1 env fExec p hs, h, num_eq_big h]
  generalize scriptValue top = a
  simp only [except_ok_bind]
  cases p
  all_goals dsimp only [unaryNumeric, NumOp1.opcode, NumOp1.eval, CScriptNum.add, CScriptNum.sub,
    CScriptNum.neg, CScriptNum.value]
  case oneAdd | oneSub | negate => rfl
  case abs =>
    rw [except_ok_bind, apply_ite CScriptNum.getvch]
    split_ifs with h
    · rw [abs_of_neg h]; rfl
    · rw [abs_of_nonneg (not_lt.mp h)]; rfl
  all_goals simp only [except_ok_bind, getvch_ofInt64_ite]

/-! ## Section 4: the integer stack machine -/

/-- Whether the interpreter reads the integer back: a magnitude below
    `2 ^ (8 * (maxIntegerSize - 1) + 7)`, whose encoding, with its sign bit,
    takes at most `maxIntegerSize` bytes. -/
def fits (a : Int) : Bool := a.natAbs >>> (8 * (MAXIMUM_ITEM_SIZE - 1) + 7) == 0

/-- An instruction of the integer stack machine the numeric opcodes
    implement: a number, or an operator. -/
inductive NumInstr
  | push (n : BitVec 64)
  | op1 (p : NumOp1)
  | op2 (p : NumOp2)

namespace NumInstr

/-- Modelled from the spec: one instruction on a stack of integers, the top
    first; `none` where the script stops with an error. -/
def run : NumInstr → List Int → Option (List Int)
  | push n, s => some (n.toInt :: s)
  | op1 p, a :: s => if fits a then some (p.eval a :: s) else none
  | op2 p, b :: a :: s =>
    if fits a ∧ fits b then
      match p.eval a b with
      | .ok v => if p = .numEqualVerify then (if v ≠ 0 then some s else none) else some (v :: s)
      | .error _ => none
    else none
  | _, _ => none

/-- The builder: `script << n` for a number, and for an operator
    `script << opcode`, which appends the opcode's byte. -/
def encode (script : Valtype) : NumInstr → Valtype
  | push n => pushInt64 script n
  | op1 p => script ++ [p.byte]
  | op2 p => script ++ [p.byte]

end NumInstr

/-- A program of the integer stack machine, stopping at the first error. -/
def runNum : List NumInstr → List Int → Option (List Int)
  | [], s => some s
  | i :: is, s => (i.run s).bind (runNum is)

example : runNum [.push 6, .push 7, .op2 .mul, .push 2, .op2 .div] [] = some [21] := by decide

theorem fits_iff (a : Int) : fits a = true ↔ (Bigint.serialize a).length ≤ MAXIMUM_ITEM_SIZE := by
  have hpow : 2 ^ (8 * (MAXIMUM_ITEM_SIZE - 1) + 7) = 128 * 256 ^ (MAXIMUM_ITEM_SIZE - 1) := by
    rw [Nat.pow_add, Nat.pow_mul, Nat.mul_comm]
  have hcap : MAXIMUM_ITEM_SIZE - 1 + 1 = MAXIMUM_ITEM_SIZE := rfl
  rw [fits, beq_iff_eq, Nat.shiftRight_eq_div_pow, Nat.div_eq_zero_iff (Nat.two_pow_pos _), hpow,
    Bigint.serialize_eq]
  constructor
  · intro h
    exact hcap ▸ length_serializeLoop_le h
  · intro h
    by_contra hge
    have := @le_length_serializeLoop (decide (a < 0)) _ _ (Nat.not_lt.mp hge)
    omega

theorem num_serialize {a : Int} (h : fits a = true) :
    ∃ bn, num (Bigint.serialize a) = .ok bn ∧ scriptValue (Bigint.serialize a) = a := by
  obtain ⟨bn, hbn, heq⟩ := CScriptNum.ofSpan_getvch (.big a) ((fits_iff a).mp h)
  refine ⟨bn, hbn, ?_⟩
  show scriptValue (CScriptNum.big a).getvch = a
  rw [← value_of_ofSpan hbn, (CScriptNum.equal_iff _ _).mp heq]
  rfl

theorem serialize_eq_bigint (n : BitVec 64) : serialize n = Bigint.serialize n.toInt := by
  rw [serialize_eq, Bigint.serialize_eq]

theorem length_run_le {i : NumInstr} {s s' : List Int} (h : i.run s = some s') :
    s'.length ≤ s.length + 1 := by
  unfold NumInstr.run at h
  repeat' split at h
  all_goals cases h <;> simp only [List.length_cons] <;> omega

/-- The loop turn on a read simulates an instruction: from a machine whose
    stack is the encodings of the integer stack over some base, with room and
    no branch open, the read leaves the encodings of the instruction's
    result over the same base, and counts at most one opcode. -/
def Simulates (env : Env) (i : NumInstr) (op : Option (UInt8 × Valtype)) : Prop :=
  ∀ (m : Machine) (s s' : List Int) (base : List Valtype), m.vfExec = .init →
    m.nOpCount < MAX_OPS_PER_SCRIPT → m.stack.length + m.altstack.length < MAX_STACK_SIZE →
    m.stack = s.map Bigint.serialize ++ base → i.run s = some s' →
    ∃ n ≤ m.nOpCount + 1, step env op m =
      .ok (.next { m with stack := s'.map Bigint.serialize ++ base, nOpCount := n })

theorem simulates_push (env : Env) {n : BitVec 64} {op : Option (UInt8 × Valtype)}
    (h : PushesValue env op (serialize n)) : Simulates env (.push n) op := by
  intro m s s' base hv _ hd hs hr
  cases hr
  refine ⟨m.nOpCount, Nat.le_succ _, ?_⟩
  rw [h m (by rw [hv]; rfl) hd, hs, serialize_eq_bigint]
  rfl

theorem NumOp2.byte_gt (p : NumOp2) : OP_16 < p.byte := by cases p <;> decide

theorem NumOp1.byte_gt (p : NumOp1) : OP_16 < p.byte := by cases p <;> decide

/-- The depth check lets through a stack within the cap. -/
theorem next_checkStackSize_of_le (m : Machine) {st : List Valtype}
    (h : st.length + m.altstack.length ≤ MAX_STACK_SIZE) :
    next m st >>= checkStackSize = next m st :=
  if_neg (Nat.not_lt.mpr h)

/-- A read of an opcode above `OP_16` and outside the disabled pair, with no
    branch open and the count below its cap, runs the opcode on the counted
    machine. -/
theorem step_operator (env : Env) {opcode : UInt8} (hgt : OP_16 < opcode)
    (hen : isOpcodeDisabled opcode = false) {m : Machine} (hv : m.vfExec = .init)
    (hc : m.nOpCount < MAX_OPS_PER_SCRIPT) :
    step env (some (opcode, [])) m =
      execOpcode env true (Opcode.ofByte opcode) { m with nOpCount := m.nOpCount + 1 } >>=
        checkStackSize := by
  have hgt' : 96 < opcode.toNat := hgt
  rw [step_of_dispatches env ⟨Nat.zero_le _, fun _ => hc, hen, by rw [hv]; rfl,
    show 78 < opcode.toNat by omega⟩, countOp, if_pos hgt]

theorem simulates_op2 (env : Env) (p : NumOp2) : Simulates env (.op2 p) (some (p.byte, [])) := by
  intro m s s' base hv hc hd hs hr
  rcases s with _ | ⟨b, _ | ⟨a, s⟩⟩
  · cases hr
  · cases hr
  dsimp only [NumInstr.run] at hr
  by_cases hfit : fits a = true ∧ fits b = true
  swap
  · rw [if_neg hfit] at hr; cases hr
  rw [if_pos hfit] at hr
  obtain ⟨bn1, h1, ha⟩ := num_serialize hfit.1
  obtain ⟨bn2, h2, hb⟩ := num_serialize hfit.2
  have hs' : ({ m with nOpCount := m.nOpCount + 1 } : Machine).stack =
      Bigint.serialize b :: Bigint.serialize a :: (s.map Bigint.serialize ++ base) := hs
  refine ⟨m.nOpCount + 1, le_rfl, ?_⟩
  rw [step_operator env p.byte_gt (by cases p <;> rfl) hv hc, NumOp2.ofByte_byte,
    execOpcode_numOp2_refines env true p hs' h1 h2, ha, hb]
  simp only [hs, List.map_cons, List.cons_append, List.length_cons, List.length_append,
    List.length_map] at hd
  generalize p.eval a b = r at hr ⊢
  rcases r with e | v <;> dsimp only at hr ⊢
  · cases hr
  by_cases hp : p = .numEqualVerify
  · rw [if_pos hp] at hr ⊢
    by_cases hv0 : v ≠ 0
    · rw [if_pos hv0] at hr ⊢
      cases hr
      refine next_checkStackSize_of_le _ ?_
      simp only [List.length_append, List.length_map]
      omega
    · rw [if_neg hv0] at hr; cases hr
  · rw [if_neg hp] at hr ⊢
    cases hr
    refine next_checkStackSize_of_le _ ?_
    simp only [List.map_cons, List.cons_append, List.length_cons, List.length_append, List.length_map]
    omega

theorem simulates_op1 (env : Env) (p : NumOp1) : Simulates env (.op1 p) (some (p.byte, [])) := by
  intro m s s' base hv hc hd hs hr
  rcases s with _ | ⟨a, s⟩
  · cases hr
  dsimp only [NumInstr.run] at hr
  by_cases hfit : fits a = true
  swap
  · rw [if_neg hfit] at hr; cases hr
  rw [if_pos hfit] at hr
  cases hr
  obtain ⟨bn, h, ha⟩ := num_serialize hfit
  have hs' : ({ m with nOpCount := m.nOpCount + 1 } : Machine).stack =
      Bigint.serialize a :: (s.map Bigint.serialize ++ base) := hs
  refine ⟨m.nOpCount + 1, le_rfl, ?_⟩
  rw [step_operator env p.byte_gt (by cases p <;> rfl) hv hc, NumOp1.ofByte_byte,
    execOpcode_numOp1_refines env true p hs' h, ha]
  refine next_checkStackSize_of_le _ ?_
  simp only [hs, List.map_cons, List.cons_append, List.length_cons, List.length_append,
    List.length_map] at hd ⊢
  omega

/-! ## Section 5: scripts the builder writes -/

theorem NumInstr.encode_eq_append (script : Valtype) (i : NumInstr) :
    i.encode script = script ++ i.encode [] := by
  cases i
  · exact pushInt64_eq_append script _
  all_goals rfl

theorem NumInstr.length_encode_le (i : NumInstr) : (i.encode []).length ≤ 14 := by
  cases i
  · exact length_pushInt64_le _
  all_goals simp [NumInstr.encode]

theorem scriptOps_operator {opcode : UInt8} (h : OP_16 < opcode) : scriptOps [opcode] = [some (opcode, [])] := by
  have : 96 < opcode.toNat := h
  rw [scriptOps_cons_of_gt (show 78 < opcode.toNat by omega), scriptOps_nil]

/-- What the builder writes for an instruction is one read, which simulates
    the instruction. -/
theorem scriptOps_encode (env : Env) (i : NumInstr) :
    ∃ opcode data, scriptOps (i.encode []) = [some (opcode, data)] ∧
      Simulates env i (some (opcode, data)) := by
  cases i with
  | push n =>
    obtain ⟨opcode, data, h, hp⟩ := scriptOps_pushInt64 env n
    exact ⟨opcode, data, h, simulates_push env hp⟩
  | op1 p => exact ⟨p.byte, [], scriptOps_operator p.byte_gt, simulates_op1 env p⟩
  | op2 p => exact ⟨p.byte, [], scriptOps_operator p.byte_gt, simulates_op2 env p⟩

/-- The reads of `script << i₁ << … << iₖ`: those of `script`, then one read
    per instruction, which simulates it. -/
theorem scriptOps_foldl_encode (env : Env) (prog : List NumInstr) (script : Valtype)
    (hs : none ∉ scriptOps script) (hl : script.length + 14 * prog.length < 2 ^ 32) :
    ∃ ops, scriptOps (prog.foldl NumInstr.encode script) = scriptOps script ++ ops ∧
      List.Forall₂ (Simulates env) prog ops := by
  induction prog generalizing script with
  | nil => exact ⟨[], by rw [List.foldl_nil, List.append_nil], .nil⟩
  | cons i prog ih =>
    obtain ⟨opcode, data, hi, hp⟩ := scriptOps_encode env i
    have hlen := i.length_encode_le
    simp only [List.length_cons] at hl
    have hl' : (script ++ i.encode []).length < 2 ^ 32 := by rw [List.length_append]; omega
    have happ : scriptOps (i.encode script) = scriptOps script ++ [some (opcode, data)] := by
      rw [i.encode_eq_append, scriptOps_append _ hs hl', hi]
    obtain ⟨ops, hops, hall⟩ := ih (i.encode script) (by rw [happ]; simpa using hs)
      (by rw [i.encode_eq_append, List.length_append]; omega)
    refine ⟨some (opcode, data) :: ops, ?_, .cons hp hall⟩
    rw [List.foldl_cons, hops, happ, List.append_assoc, List.singleton_append]

theorem length_foldl_encode_le (prog : List NumInstr) (script : Valtype) :
    (prog.foldl NumInstr.encode script).length ≤ script.length + 14 * prog.length := by
  induction prog generalizing script with
  | nil => simp
  | cons i prog ih =>
    have h₁ := ih (i.encode script)
    have h₂ := i.length_encode_le
    have h₃ : (i.encode script).length = script.length + (i.encode []).length := by
      rw [i.encode_eq_append, List.length_append]
    rw [List.foldl_cons, List.length_cons]
    omega

/-! ## Section 6: whole runs -/

/-- The loop over reads that simulate a program, from a machine with no
    branch open whose stack is the encodings of the program's start stack
    over some base, with room for every read: it ends with the encodings of
    the program's result over the same base. -/
theorem evalOps_simulates (env : Env) {prog : List NumInstr} {ops : List (Option (UInt8 × Valtype))}
    (h : List.Forall₂ (Simulates env) prog ops) {s S : List Int} (hrun : runNum prog s = some S)
    (base : List Valtype) (k : Nat) (m : Machine) (hv : m.vfExec = .init)
    (hc : m.nOpCount + ops.length ≤ MAX_OPS_PER_SCRIPT)
    (hd : m.stack.length + m.altstack.length + ops.length ≤ MAX_STACK_SIZE)
    (hs : m.stack = s.map Bigint.serialize ++ base) :
    evalOps env ops k m =
      .ok ⟨true, .OK, k + ops.length - 1, S.map Bigint.serialize ++ base, m.stateContext⟩ := by
  induction h generalizing s k m with
  | nil =>
    cases hrun
    rw [evalOps, hv, hs]
    rfl
  | @cons i op prog ops hi _ ih =>
    obtain ⟨s', hr, hrest⟩ := Option.bind_eq_some.mp hrun
    simp only [List.length_cons] at hc hd
    obtain ⟨n, hn, hstep⟩ := hi m s s' base hv (by omega) (by omega) hs hr
    have hlen := length_run_le hr
    have hlen' : m.stack.length = s.length + base.length := by
      rw [hs, List.length_append, List.length_map]
    rw [evalOps_cons_of_next hstep,
      ih hrest (k + 1) { m with stack := s'.map Bigint.serialize ++ base, nOpCount := n } hv
        (show n + ops.length ≤ _ by omega)
      (by simp only [List.length_append, List.length_map]; omega) rfl]
    simp only [List.length_cons]
    congr 3
    omega

/-- What `CScript() << i₁ << … << iₖ` runs to, for numbers pushed through
    `push_int64` and numeric opcodes, when the integer stack machine runs the
    program to the stack `S` from an empty one, and there is room for it:
    the encodings of `S`, on top of the stack the script started from. -/
theorem evalScript_numProgram (env : Env) (stack : List Valtype) (prog : List NumInstr)
    (σ : ScriptStateContext) {S : List Int} (hrun : runNum prog [] = some S)
    (hd : stack.length + prog.length ≤ MAX_STACK_SIZE) :
    evalScript env stack (prog.foldl NumInstr.encode []) σ =
      .ok ⟨true, .OK, prog.length - 1, S.map Bigint.serialize ++ stack, σ⟩ := by
  have hmax : MAX_STACK_SIZE = 1000 := rfl
  have hops : MAX_OPS_PER_SCRIPT = 1000000 := rfl
  have hlen := length_foldl_encode_le prog []
  obtain ⟨ops, hops', hall⟩ := scriptOps_foldl_encode env prog [] (by simp) (by simp; omega)
  have hpl : prog.length = ops.length := hall.length_eq
  rw [evalScript, if_neg (by simp only [List.length_nil] at hlen; show ¬_ > 1000000; omega), hops',
    scriptOps_nil, List.nil_append, evalOps_simulates env hall hrun stack 0 _ rfl
      (show 0 + ops.length ≤ _ by omega)
      (show stack.length + 0 + ops.length ≤ _ by omega) rfl, hpl, Nat.zero_add]
  rfl

theorem numProgram_sample :
    evalScript sampleEnv [[5]]
        (([.push 6, .push 7, .op2 .mul, .push 2, .op2 .sub, .op1 .negate] : List NumInstr).foldl
          NumInstr.encode []) emptyContext =
      .ok ⟨true, .OK, 5, [(-40 : Int)].map Bigint.serialize ++ [[5]], emptyContext⟩ :=
  evalScript_numProgram sampleEnv [[5]] _ emptyContext (by decide) (by decide)

end Avm
