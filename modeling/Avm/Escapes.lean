import Avm.Interpreter

/-! # Exceptions that leave the loop

    The loop of `EvalScript` catches `avm::BigIntException` and
    `std::exception` by reference.  The block-info getters of the state
    context throw `new ScriptContextInvalidBlockInfoHeightError()`, a
    pointer, when the height has no header; no handler catches a pointer, so
    OP_GETBLOCKINFO on such a height makes `EvalScript` end with an escaping
    exception instead of returning a script error.  A failed `assert` passes
    both handlers as well: `OP_PICK` and `OP_ROLL` call `getSizeType`, which
    asserts `0 <= n <= INT32_MAX`, before they check the index's range.
-/

namespace Avm

open ContractStateExternalStruct

/-! ## Section 1: the getters on a missing height -/

section Missing

variable {e : ContractStateExternalStruct} {height : UInt32}
  (h : e.headers.lookup (e.revisedHeight height) = none)
include h

/-- Every field of OP_GETBLOCKINFO throws the pointer on a missing height. -/
theorem getBlockInfoField_of_missing (blockField : Int) :
    getBlockInfoField e height blockField = .error (.ptr .invalidBlockInfoHeight) := by
  unfold getBlockInfoField getCurrentBlockInfoHeader
  split <;> simp only [getCurrentBlockInfo_of_missing e h, getCurrentBlockInfoHeight_of_missing e h] <;>
    rfl

end Missing

/-! ## Section 2: OP_GETBLOCKINFO -/

/-- OP_GETBLOCKINFO on `vch2 :: vch1 :: rest`, with the context present. -/
theorem execOpcode_getBlockInfo {env : Env} {ctx : ScriptExecutionContext}
    (hctx : env.context = some ctx) {m : Machine} {vch2 vch1 : Valtype} {rest : List Valtype}
    (hstack : m.stack = vch2 :: vch1 :: rest) :
    execOpcode env true .OP_GETBLOCKINFO m = execAvmBinary env ctx .OP_GETBLOCKINFO vch2 vch1 rest m := by
  obtain ⟨_, _, _, _, _, _⟩ := env
  obtain ⟨_, _, _, _, _⟩ := m
  subst hctx hstack
  rfl

/-- OP_GETBLOCKINFO reached with a block field in `0..8` and a height (`0`
    for the current one) that has no header: the pointer thrown by the
    getter passes both handlers, and `EvalScript` ends with it. -/
theorem getBlockInfo_missing_height_escapes (env : Env) (ctx : ScriptExecutionContext)
    (hctx : env.context = some ctx) (opcode : UInt8) (hop : Opcode.ofByte opcode = .OP_GETBLOCKINFO)
    (vch : Valtype) (ops : List (Option (UInt8 × Valtype))) (k : Nat) (m : Machine)
    (hd : Dispatches opcode vch m) (field height : Valtype) (rest : List Valtype)
    (hstack : m.stack = field :: height :: rest) (blockField heightNumber : CScriptNum)
    (hfield : num field = .ok blockField) (hheight : num height = .ok heightNumber)
    (hrange : 0 ≤ blockField.getint ∧ blockField.getint ≤ 8)
    (hmissing : let e := m.stateContext.externalStateStruct
      e.headers.lookup (e.revisedHeight (castUInt32 heightNumber.getint)) = none) :
    evalOps env (some (opcode, vch) :: ops) k m = .error (.ptr .invalidBlockInfoHeight) := by
  have hstep := step_of_dispatches env hd
  rw [hop, execOpcode_getBlockInfo hctx ((countOp_stack opcode m).trans hstack)] at hstep
  have hout : ¬(blockField.getint < 0 ∨ blockField.getint > 8) := by omega
  dsimp only [execAvmBinary] at hstep
  simp only [hfield, hheight, countOp_stateContext, hout, if_false,
    except_ok_bind, getBlockInfoField_of_missing hmissing, except_error_bind] at hstep
  rw [evalOps_cons_of_error hstep]
  rfl

/-- OP_GETBLOCKINFO (`0xfb`) on field `0` and height `0` in the
    constructor's empty context, which has no headers. -/
theorem getBlockInfo_escapes_without_headers :
    evalOps sampleEnv [some (0xfb, [])] 0 (.start [[], []] emptyContext) =
      .error (.ptr .invalidBlockInfoHeight) :=
  getBlockInfo_missing_height_escapes sampleEnv _ rfl 0xfb rfl [] [] 0 _
    ⟨by decide, fun _ => by decide, rfl, rfl, by decide⟩ [] [] [] rfl _ _ rfl rfl
    (by decide) rfl

/-! ## Section 3: the assert of getSizeType -/

/-- `OP_PICK` and `OP_ROLL` on an index outside `[0, INT32_MAX]` over at
    least one element: the index reaches `getSizeType` before the range
    check, and its assert fails. -/
theorem execPickRoll_asserts (isRoll : Bool) {m : Machine} {top x : Valtype}
    {rest : List Valtype} (hstack : m.stack = top :: x :: rest) {sn : CScriptNum}
    (hn : num top = .ok sn) (hrange : sn.value < 0 ∨ INT32_MAX < sn.value) :
    execPickRoll isRoll m = .error .abort := by
  have hsize : sn.getSizeType = .error .abort := by
    unfold CScriptNum.getSizeType
    unfold INT32_MAX at hrange
    rw [if_neg (by omega)]
  simp only [execPickRoll, hstack, hn, hsize, except_ok_bind]
  rfl

/-- `OP_PICK` (`0x79`) or `OP_ROLL` (`0x7a`) reached with an index below 0
    or above `INT32_MAX` on top of at least two elements: the assert of
    `getSizeType` fails, and `EvalScript` ends with it, whatever follows. -/
theorem getSizeType_assert_fails (env : Env) (opcode : UInt8)
    (hop : opcode = 0x79 ∨ opcode = 0x7a) (vch : Valtype) (ops : List (Option (UInt8 × Valtype)))
    (k : Nat) (m : Machine) (hd : Dispatches opcode vch m) (top x : Valtype) (rest : List Valtype)
    (hstack : m.stack = top :: x :: rest) (sn : CScriptNum) (hn : num top = .ok sn)
    (hrange : sn.value < 0 ∨ INT32_MAX < sn.value) :
    evalOps env (some (opcode, vch) :: ops) k m = .error .abort := by
  have hstep := step_of_dispatches env hd
  have hstack' := (countOp_stack opcode m).trans hstack
  have hpr : execOpcode env true (Opcode.ofByte opcode) (countOp opcode m) = .error .abort := by
    rcases hop with rfl | rfl
    · exact execPickRoll_asserts false hstack' hn hrange
    · exact execPickRoll_asserts true hstack' hn hrange
  rw [hpr] at hstep
  rw [evalOps_cons_of_error hstep]
  rfl

/-- `OP_PICK` on `-1` (the byte `0x81`) over one element, in the
    constructor's empty context. -/
theorem pick_negative_index_asserts :
    evalScript sampleEnv [[0x81], []] [0x79] emptyContext = .error .abort := by
  unfold evalScript
  rw [if_neg (by decide), scriptOps_cons_of_gt (by decide), scriptOps_nil]
  exact getSizeType_assert_fails sampleEnv 0x79 (.inl rfl) [] [] 0 _
    ⟨by decide, fun _ => by decide, rfl, rfl, by decide⟩ [0x81] [] [] rfl (.big (-1)) (by rfl)
    (.inl (by decide))

end Avm
