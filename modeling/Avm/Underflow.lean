import Avm.Interpreter

/-! # Stack underflow

    Every opcode that reads the main stack first checks its depth and
    returns INVALID_STACK_OPERATION when it holds fewer elements than the
    opcode reads.  `operandCount` gives that number for every opcode of the
    switch; OP_CHECKLOCKTIMEVERIFY and OP_CHECKSEQUENCEVERIFY read their
    operand only under their flag.  OP_IF and OP_NOTIF report an empty
    stack as UNBALANCED_CONDITIONAL, and OP_FROMALTSTACK reads only the alt
    stack.

    OP_EQUAL and OP_EQUALVERIFY differ from the rest: inside their depth
    check they bind `stacktop(-1)` before returning, and on an empty stack
    `std::vector::at` throws `std::out_of_range`, which the loop's
    `std::exception` handler reports as UNKNOWN.
-/

namespace Avm

/-! ## Section 1: the operands of each opcode -/

/-- How many elements of the main stack an opcode reads, as its depth check
    in `EvalScript` requires. -/
def operandCount (flags : ScriptFlags) : Opcode → Nat
  | .OP_CHECKLOCKTIMEVERIFY => flags.SCRIPT_VERIFY_CHECKLOCKTIMEVERIFY.toNat
  | .OP_CHECKSEQUENCEVERIFY => flags.SCRIPT_VERIFY_CHECKSEQUENCEVERIFY.toNat
  | .OP_VERIFY | .OP_TOALTSTACK | .OP_IFDUP | .OP_DROP | .OP_DUP | .OP_SIZE | .OP_INVERT
  | .OP_1ADD | .OP_1SUB | .OP_NEGATE | .OP_ABS | .OP_NOT | .OP_0NOTEQUAL
  | .OP_RIPEMD160 | .OP_SHA1 | .OP_SHA256 | .OP_HASH160 | .OP_HASH256 | .OP_REVERSEBYTES
  | .OP_BIN2NUM | .OP_OUTPOINTTXHASH | .OP_OUTPOINTINDEX | .OP_OUTPUTVALUE | .OP_OUTPUTBYTECODE
  | .OP_INPUTBYTECODE | .OP_INPUTSEQUENCENUMBER | .OP_FT_COUNT | .OP_NFT_COUNT | .OP_NFT_PUT
  | .OP_FT_BALANCE_ADD | .OP_IF | .OP_NOTIF => 1
  | .OP_2DROP | .OP_2DUP | .OP_NIP | .OP_OVER | .OP_PICK | .OP_ROLL | .OP_SWAP | .OP_TUCK
  | .OP_AND | .OP_OR | .OP_XOR | .OP_LSHIFT | .OP_RSHIFT | .OP_EQUAL | .OP_EQUALVERIFY
  | .OP_ADD | .OP_SUB | .OP_MUL | .OP_DIV | .OP_MOD | .OP_BOOLAND | .OP_BOOLOR | .OP_NUMEQUAL
  | .OP_NUMEQUALVERIFY | .OP_NUMNOTEQUAL | .OP_LESSTHAN | .OP_GREATERTHAN | .OP_LESSTHANOREQUAL
  | .OP_GREATERTHANOREQUAL | .OP_MIN | .OP_MAX | .OP_CAT | .OP_SPLIT | .OP_NUM2BIN
  | .OP_KV_EXISTS | .OP_KV_GET | .OP_KV_DELETE | .OP_NFT_WITHDRAW | .OP_HASH_FN
  | .OP_GETBLOCKINFO | .OP_DECODEBLOCKINFO | .OP_FT_BALANCE | .OP_FT_ITEM | .OP_NFT_ITEM
  | .OP_NFT_EXISTS => 2
  | .OP_3DUP | .OP_ROT | .OP_WITHIN | .OP_CHECKDATASIG | .OP_CHECKDATASIGVERIFY | .OP_KV_PUT
  | .OP_FT_WITHDRAW => 3
  | .OP_2OVER | .OP_2SWAP => 4
  | .OP_2ROT => 6
  | _ => 0

/-- OP_EQUAL and OP_EQUALVERIFY, the opcodes whose depth check reads the
    stack. -/
def Opcode.isEqual : Opcode → Bool
  | .OP_EQUAL | .OP_EQUALVERIFY => true
  | _ => false

/-- What `EvalScript` reports for an opcode that finds too few operands. -/
def underflowError (o : Opcode) (stack : List Valtype) : ScriptError :=
  if o.isEqual && stack.isEmpty then .UNKNOWN else .INVALID_STACK_OPERATION

theorem operandCount_of_isEqual {flags : ScriptFlags} {o : Opcode} (hE : o.isEqual = true) :
    operandCount flags o = 2 := by
  cases o <;> first | rfl | cases hE

/-! ## Section 2: one opcode -/

/-- Every opcode of the switch but the conditionals and the two equality
    opcodes returns INVALID_STACK_OPERATION on a stack shallower than its
    operands, leaving the machine as it is. -/
theorem execOpcode_underflow (env : Env) (ctx : ScriptExecutionContext)
    (hctx : env.context = some ctx) (o : Opcode) (hif : o ≠ .OP_IF ∧ o ≠ .OP_NOTIF)
    (hE : o.isEqual = false) (m : Machine) (h : m.stack.length < operandCount env.flags o) :
    execOpcode env true o m = fail .INVALID_STACK_OPERATION m := by
  obtain ⟨⟨cltv, csv, nops⟩, checker, context, hashes, c₁, c₂⟩ := env
  subst hctx
  obtain ⟨stack, alt, vf, n, sc⟩ := m
  unfold operandCount at h
  cases o
  case OP_IF => exact absurd rfl hif.1
  case OP_NOTIF => exact absurd rfl hif.2
  case OP_EQUAL | OP_EQUALVERIFY => cases hE
  case OP_CHECKLOCKTIMEVERIFY =>
    cases cltv <;> rcases stack with _ | ⟨_, stack⟩ <;> first | rfl | simp at h
  case OP_CHECKSEQUENCEVERIFY =>
    cases csv <;> rcases stack with _ | ⟨_, stack⟩ <;> first | rfl | simp at h
  -- the others: peel the stack one element at a time until the depth check fails
  all_goals
    dsimp only at h
    repeat (first
      | exact absurd h (Nat.not_lt_zero _)
      | rfl
      | (rcases stack with _ | ⟨_, stack⟩ <;> (try simp only [List.length_cons] at h) <;>
          try omega))

/-- OP_EQUAL and OP_EQUALVERIFY on one element return INVALID_STACK_OPERATION;
    on none, `stacktop(-1)` throws `std::out_of_range`. -/
theorem execOpcode_isEqual_underflow (env : Env) {o : Opcode} (hE : o.isEqual = true)
    (m : Machine) (h : m.stack.length < 2) :
    execOpcode env true o m =
      if m.stack.isEmpty then .error (.obj .outOfRange) else fail .INVALID_STACK_OPERATION m := by
  obtain ⟨stack, alt, vf, n, sc⟩ := m
  cases o <;> try cases hE
  all_goals rcases stack with _ | ⟨_, _ | ⟨_, _⟩⟩ <;> first | rfl | (simp only [List.length_cons] at h; omega)

/-! ## Section 3: the loop -/

/-- An underflow ends `EvalScript` at the opcode: with INVALID_STACK_OPERATION,
    or UNKNOWN for OP_EQUAL and OP_EQUALVERIFY on an empty stack, and with the
    stack and the state context as they were. -/
theorem underflow_reported (env : Env) (ctx : ScriptExecutionContext)
    (hctx : env.context = some ctx) (opcode : UInt8) (vch : Valtype)
    (ops : List (Option (UInt8 × Valtype))) (k : Nat) (m : Machine)
    (hd : Dispatches opcode vch m)
    (hif : Opcode.ofByte opcode ≠ .OP_IF ∧ Opcode.ofByte opcode ≠ .OP_NOTIF)
    (h : m.stack.length < operandCount env.flags (Opcode.ofByte opcode)) :
    evalOps env (some (opcode, vch) :: ops) k m =
      .ok ⟨false, underflowError (Opcode.ofByte opcode) m.stack, k, m.stack, m.stateContext⟩ := by
  have hstep := step_of_dispatches env hd
  have h' : (countOp opcode m).stack.length < _ := (countOp_stack opcode m).symm ▸ h
  cases hE : (Opcode.ofByte opcode).isEqual
  case false =>
    rw [execOpcode_underflow env ctx hctx _ hif hE _ h'] at hstep
    rw [evalOps_cons_of_stop hstep, countOp_stack, countOp_stateContext]
    simp [underflowError, hE]
  case true =>
    rw [operandCount_of_isEqual hE] at h'
    rw [execOpcode_isEqual_underflow env hE _ h', countOp_stack] at hstep
    cases hs : m.stack.isEmpty
    case false =>
      rw [hs] at hstep
      rw [evalOps_cons_of_stop hstep, countOp_stack, countOp_stateContext]
      simp [underflowError, hs]
    case true =>
      rw [hs] at hstep
      rw [evalOps_cons_of_error hstep]
      simp [underflowError, hE, hs, catchHandlers, Exception.isStdException]

/-- OP_EQUAL (`0x87`) read with an empty stack: `EvalScript` returns
    UNKNOWN, not INVALID_STACK_OPERATION. -/
theorem equal_on_empty_stack_reports_unknown :
    evalOps sampleEnv [some (0x87, [])] 0 (.start [] emptyContext) =
      .ok ⟨false, .UNKNOWN, 0, [], emptyContext⟩ :=
  underflow_reported sampleEnv _ rfl 0x87 [] [] 0 (.start [] emptyContext)
    ⟨by decide, fun _ => by decide, rfl, rfl, by decide⟩ ⟨nofun, nofun⟩ (by decide)

end Avm
