import Avm.ElementSize
import Avm.Conditions

/-! # What a turn of the loop may change

    A turn of the loop of `EvalScript` writes the state context only in the
    six state opcodes (`OP_FT_BALANCE_ADD`, `OP_NFT_PUT`, `OP_KV_PUT`,
    `OP_KV_DELETE`, `OP_FT_WITHDRAW`, `OP_NFT_WITHDRAW`).  One case analysis
    of the switch says so; the invariant of the withdrawal maps over a run
    is derived from it (`Avm.Withdraw`).  Properties that every turn keeps
    hold along the whole run (`evalTrace_keeps`), and a read other than a
    conditional runs exactly when every flag of the condition stack is true
    (`step_gate`); `Avm.Flags` follows the calls on the condition stack.
-/

namespace Avm

open ConditionStack

/-! ## Section 1: the frame -/

/-- The opcodes that write the state context. -/
def Opcode.writesState : Opcode → Bool
  | .OP_FT_BALANCE_ADD | .OP_NFT_PUT | .OP_KV_PUT | .OP_KV_DELETE | .OP_FT_WITHDRAW
  | .OP_NFT_WITHDRAW => true
  | _ => false

/-- What a turn on opcode `o` may change in the state context. -/
structure Frame (o : Opcode) (m m' : Machine) : Prop where
  stateContext : o.writesState = false → m'.stateContext = m.stateContext

/-- A turn that does not write the state context. -/
theorem Frame.keep (o : Opcode) {m m' : Machine} (hs : m'.stateContext = m.stateContext) :
    Frame o m m' :=
  ⟨fun _ => hs⟩

/-- A turn of a state opcode. -/
theorem Frame.write {o : Opcode} {m m' : Machine} (ho : o.writesState = true) : Frame o m m' :=
  ⟨fun h => absurd (ho.symm.trans h) Bool.noConfusion⟩

/-! ## Section 2: the helpers of the switch -/

section Helpers

variable {env : Env} {m : Machine} {r : StepResult}

theorem execIf_frame (o : Opcode) {fExec isNotIf : Bool} (h : execIf fExec isNotIf m = .ok r) :
    Frame o m r.machine := by
  unfold execIf at h
  repeat' split at h
  all_goals cases h
  all_goals exact .keep o rfl

theorem execPickRoll_frame (o : Opcode) {isRoll : Bool} (h : execPickRoll isRoll m = .ok r) :
    Frame o m r.machine := by
  unfold execPickRoll at h
  dsimp only at h
  repeat' first | split at h | obtain ⟨_, -, h⟩ := except_bind_eq_ok.mp h
  all_goals cases h
  all_goals exact .keep o rfl

theorem execShift_frame (o : Opcode) {shift : Valtype → Nat → Valtype} (h : execShift shift m = .ok r) :
    Frame o m r.machine := by
  unfold execShift at h
  dsimp only at h
  repeat' first | split at h | obtain ⟨_, -, h⟩ := except_bind_eq_ok.mp h
  all_goals cases h
  all_goals exact .keep o rfl

theorem execNum2Bin_frame (o : Opcode) (h : execNum2Bin m = .ok r) :
    Frame o m r.machine := by
  unfold execNum2Bin at h
  dsimp only at h
  repeat' first | split at h | obtain ⟨_, -, h⟩ := except_bind_eq_ok.mp h
  all_goals cases h
  all_goals exact .keep o rfl

theorem execCheckDataSig_frame (o : Opcode) {isVerify : Bool} (h : execCheckDataSig env isVerify m = .ok r) :
    Frame o m r.machine := by
  unfold execCheckDataSig at h
  dsimp only at h
  repeat' first | split at h | obtain ⟨_, -, h⟩ := except_bind_eq_ok.mp h
  all_goals cases h
  all_goals exact .keep o rfl

theorem execCheckAuthSig_frame (o : Opcode) {isVerify : Bool} (h : execCheckAuthSig env isVerify m = .ok r) :
    Frame o m r.machine := by
  unfold execCheckAuthSig at h
  repeat' first | split at h | obtain ⟨_, -, h⟩ := except_bind_eq_ok.mp h
  all_goals cases h
  all_goals exact .keep o rfl

end Helpers

/-! ## Section 3: the switch -/

/-- Every arm of the switch keeps to the frame of its opcode. -/
theorem execOpcode_frame {env : Env} {fExec : Bool} {o : Opcode} {m : Machine} {r : StepResult}
    (h : execOpcode env fExec o m = .ok r) : Frame o m r.machine := by
  delta execOpcode at h
  cases o
  case OP_IF | OP_NOTIF => exact execIf_frame _ h
  case OP_PICK | OP_ROLL => exact execPickRoll_frame _ h
  case OP_LSHIFT | OP_RSHIFT => exact execShift_frame _ h
  case OP_NUM2BIN => exact execNum2Bin_frame _ h
  case OP_CHECKDATASIG | OP_CHECKDATASIGVERIFY => exact execCheckDataSig_frame _ h
  case OP_CHECKAUTHSIG | OP_CHECKAUTHSIGVERIFY => exact execCheckAuthSig_frame _ h
  case OP_ELSE | OP_ENDIF =>
    dsimp only at h
    split at h <;> cases h <;> exact .keep _ rfl
  all_goals simp only at h
  all_goals try dsimp only [execIntrospectionNullary, execIntrospectionUnary, execAvmUnary,
    execAvmBinary, execAvmTernary] at h
  all_goals repeat' first | split at h | obtain ⟨_, -, h⟩ := except_bind_eq_ok.mp h
  all_goals cases h
  all_goals first | exact .keep _ rfl | exact .write rfl

/-! ## Section 4: the loop -/

@[simp] theorem countOp_vfExec (opcode : UInt8) (m : Machine) :
    (countOp opcode m).vfExec = m.vfExec := by
  unfold countOp; split <;> rfl

section Loop

variable {env : Env} {P : Machine → Prop}

/-- A property of machines that the opcode count, a push and every arm of
    the switch keep is kept by every turn of the loop. -/
theorem step_keeps (hcount : ∀ opcode m, P m → P (countOp opcode m))
    (hpush : ∀ m s, P m → P { m with stack := s })
    (hexec : ∀ fExec o m r, P m → execOpcode env fExec o m = .ok r → P r.machine)
    {op : Option (UInt8 × Valtype)} {m : Machine} {r : StepResult} (hm : P m)
    (h : step env op m = .ok r) : P r.machine := by
  unfold step at h
  split at h
  · rw [fail_eq_ok.mp h]; exact hm
  next opcode vch =>
  dsimp only at h
  have hc := hcount opcode m hm
  split at h
  · rw [fail_eq_ok.mp h]; exact hm
  split at h
  · rw [fail_eq_ok.mp h]; exact hc
  split at h
  · rw [fail_eq_ok.mp h]; exact hc
  split_ifs at h <;> obtain ⟨r₀, h₀, h⟩ := except_bind_eq_ok.mp h <;>
    rw [checkStackSize_machine h]
  · rw [fail_eq_ok.mp h₀]; exact hc
  · rw [next_eq_ok.mp h₀]; exact hpush _ _ hc
  · exact hexec _ _ _ _ hc h₀
  · cases h₀; exact hc

/-- What every turn keeps holds of every machine the loop passes through. -/
theorem evalTrace_keeps
    (hstep : ∀ op m r, P m → step env op m = .ok r → P r.machine)
    (ops : List (Option (UInt8 × Valtype))) {m : Machine} (hm : P m) :
    ∀ m' ∈ evalTrace env ops m, P m' := by
  induction ops generalizing m with
  | nil => simpa [evalTrace] using hm
  | cons op ops ih =>
    rw [evalTrace]
    intro m' hm'
    rcases List.mem_cons.mp hm' with rfl | hm'
    · exact hm
    rcases hs : step env op m with t | ⟨m''⟩ | ⟨b, e, m''⟩ <;> rw [hs] at hm'
    · cases hm'
    · exact ih (hstep _ _ _ hm hs) m' hm'
    · rw [List.mem_singleton.mp hm']
      exact hstep _ _ _ hm hs

end Loop

/-! ## Section 5: the condition stack along a run -/

/-- A read that is not a conditional and passes the checks before the
    switch: it runs when every flag of the condition stack is true, and is
    otherwise only counted. -/
theorem step_gate_all_true (env : Env) {m : Machine} {opcode : UInt8} {vch : Valtype}
    (hcond : ¬(OP_IF ≤ opcode ∧ opcode ≤ OP_ENDIF))
    (hpush : vch.length ≤ MAX_SCRIPT_ELEMENT_SIZE)
    (hcount : OP_16 < opcode → m.nOpCount + 1 ≤ MAX_OPS_PER_SCRIPT)
    (hen : isOpcodeDisabled opcode = false) :
    step env (some (opcode, vch)) m =
      (if m.vfExec.all_true then
        if opcode ≤ OP_PUSHDATA4 then
          if !checkMinimalPush vch opcode then fail .MINIMALDATA (countOp opcode m)
          else next (countOp opcode m) (vch :: m.stack)
        else execOpcode env true (Opcode.ofByte opcode) (countOp opcode m)
      else .ok (.next (countOp opcode m))) >>= checkStackSize := by
  have hover : ¬(opcode > OP_16 ∧ (countOp opcode m).nOpCount > MAX_OPS_PER_SCRIPT) := by
    rintro ⟨hgt, hover⟩
    simp only [countOp, hgt, if_true] at hover
    have := hcount hgt
    omega
  have hpush : ¬vch.length > MAX_SCRIPT_ELEMENT_SIZE := Nat.not_lt.mpr hpush
  simp only [step, hpush, hover, hen, hcond, if_false, Bool.false_eq_true, or_false, countOp_stack]
  cases m.vfExec.all_true
  · simp only [Bool.false_eq_true, false_and, if_false]
  · simp only [if_true, true_and]
    split_ifs <;> rfl

/-- The same gate, the flags read through the list they stand for. -/
theorem step_gate (env : Env) {m : Machine} {l : List Bool} (hl : m.vfExec = ofList l)
    {opcode : UInt8} {vch : Valtype} (hcond : ¬(OP_IF ≤ opcode ∧ opcode ≤ OP_ENDIF))
    (hpush : vch.length ≤ MAX_SCRIPT_ELEMENT_SIZE)
    (hcount : OP_16 < opcode → m.nOpCount + 1 ≤ MAX_OPS_PER_SCRIPT)
    (hen : isOpcodeDisabled opcode = false) :
    step env (some (opcode, vch)) m =
      (if l.all id then
        if opcode ≤ OP_PUSHDATA4 then
          if !checkMinimalPush vch opcode then fail .MINIMALDATA (countOp opcode m)
          else next (countOp opcode m) (vch :: m.stack)
        else execOpcode env true (Opcode.ofByte opcode) (countOp opcode m)
      else .ok (.next (countOp opcode m))) >>= checkStackSize := by
  rw [step_gate_all_true env hcond hpush hcount hen, hl, all_true_ofList]

end Avm
