import Avm.Frame

/-! # Conditional branches: one turn of the loop

    `EvalScript` does not jump over the branch it does not take.  It reads
    every instruction of both branches, counts its opcode, and runs it only
    while every flag of the condition stack is true: `OP_IF` pushes the flag
    it pops from the main stack, `OP_ELSE` toggles the innermost flag and
    `OP_ENDIF` pops it.  This module proves what one turn of the loop does
    with the two control fields, the condition stack and the opcode count.
    Every arm of the switch but the conditionals reads neither, so two
    machines that differ in them alone, a graft of one onto the other, take
    the same turn; a read under a false flag is only counted; and a turn
    counts at most one opcode.  The conditionals' arms under taken branches
    are stated on their own.  `Avm.Nesting` runs these turns through whole
    branches.

    The reads the lemmas allow are the skippable ones: any read but a
    conditional, an undecodable one, a disabled opcode or an oversized push,
    which stop the loop even in a branch not taken.
-/

namespace Avm

open ConditionStack

/-! ## Section 1: machines that differ in the control fields -/

/-- The machine with the condition stack `v` and the opcode count `n`. -/
def Machine.graft (m : Machine) (v : ConditionStack) (n : Nat) : Machine :=
  { m with vfExec := v, nOpCount := n }

/-- A turn's result with its machine changed by `f`. -/
def StepResult.map (f : Machine → Machine) : StepResult → StepResult
  | .next m => .next (f m)
  | .stop success e m => .stop success e (f m)

/-- What a run returns and leaves, without the index of its last read. -/
def EvalResult.outcome (r : EvalResult) :
    Bool × ScriptError × List Valtype × ScriptStateContext :=
  (r.success, r.serror, r.stack, r.stateContext)

/-- `OP_IF`, `OP_NOTIF`, `OP_ELSE` and `OP_ENDIF`: the arms of the switch
    that read the condition stack. -/
def Opcode.isConditional : Opcode → Bool
  | .OP_IF | .OP_NOTIF | .OP_ELSE | .OP_ENDIF => true
  | _ => false

namespace Machine

variable (m : Machine) (v : ConditionStack) (n : Nat)

@[simp] theorem graft_stack : (m.graft v n).stack = m.stack := rfl
@[simp] theorem graft_altstack : (m.graft v n).altstack = m.altstack := rfl
@[simp] theorem graft_vfExec : (m.graft v n).vfExec = v := rfl
@[simp] theorem graft_nOpCount : (m.graft v n).nOpCount = n := rfl
@[simp] theorem graft_stateContext : (m.graft v n).stateContext = m.stateContext := rfl
@[simp] theorem graft_self : m.graft m.vfExec m.nOpCount = m := rfl
@[simp] theorem graft_graft (v' : ConditionStack) (n' : Nat) :
    (m.graft v n).graft v' n' = m.graft v' n' := rfl

end Machine

/-! ## Section 2: the switch reads neither control field -/

section Switch

variable (v : ConditionStack) (n : Nat) (m : Machine)

theorem execPickRoll_graft (isRoll : Bool) :
    execPickRoll isRoll (m.graft v n) =
      StepResult.map (·.graft v n) <$> execPickRoll isRoll m := by
  obtain ⟨st, alt, v₀, n₀, sc⟩ := m
  unfold execPickRoll
  simp only [Machine.graft]
  repeat' first | split | (rw [map_bind]; refine bind_congr fun _ => ?_)
  all_goals rfl

theorem execShift_graft (shift : Valtype → Nat → Valtype) :
    execShift shift (m.graft v n) = StepResult.map (·.graft v n) <$> execShift shift m := by
  obtain ⟨st, alt, v₀, n₀, sc⟩ := m
  unfold execShift
  simp only [Machine.graft]
  repeat' first | split | (rw [map_bind]; refine bind_congr fun _ => ?_)
  all_goals rfl

theorem execNum2Bin_graft :
    execNum2Bin (m.graft v n) = StepResult.map (·.graft v n) <$> execNum2Bin m := by
  obtain ⟨st, alt, v₀, n₀, sc⟩ := m
  unfold execNum2Bin
  simp only [Machine.graft]
  repeat' first | split | (rw [map_bind]; refine bind_congr fun _ => ?_)
  all_goals rfl

theorem execCheckDataSig_graft (env : Env) (isVerify : Bool) :
    execCheckDataSig env isVerify (m.graft v n) =
      StepResult.map (·.graft v n) <$> execCheckDataSig env isVerify m := by
  obtain ⟨st, alt, v₀, n₀, sc⟩ := m
  unfold execCheckDataSig
  simp only [Machine.graft]
  repeat' split
  all_goals rfl

theorem execCheckAuthSig_graft (env : Env) (isVerify : Bool) :
    execCheckAuthSig env isVerify (m.graft v n) =
      StepResult.map (·.graft v n) <$> execCheckAuthSig env isVerify m := by
  obtain ⟨st, alt, v₀, n₀, sc⟩ := m
  unfold execCheckAuthSig
  simp only [Machine.graft]
  repeat' split
  all_goals rfl

/-- Every arm of the switch but the conditionals reads neither the condition
    stack nor the opcode count, and leaves them as they were. -/
theorem execOpcode_graft (env : Env) (fExec : Bool) (o : Opcode) (ho : o.isConditional = false) :
    execOpcode env fExec o (m.graft v n) =
      StepResult.map (·.graft v n) <$> execOpcode env fExec o m := by
  obtain ⟨st, alt, v₀, n₀, sc⟩ := m
  simp only [Machine.graft]
  delta execOpcode
  cases o
  case OP_IF | OP_NOTIF | OP_ELSE | OP_ENDIF => cases ho
  case OP_PICK | OP_ROLL => exact execPickRoll_graft v n ⟨st, alt, v₀, n₀, sc⟩ _
  case OP_LSHIFT | OP_RSHIFT => exact execShift_graft v n ⟨st, alt, v₀, n₀, sc⟩ _
  case OP_NUM2BIN => exact execNum2Bin_graft v n ⟨st, alt, v₀, n₀, sc⟩
  case OP_CHECKDATASIG | OP_CHECKDATASIGVERIFY =>
    exact execCheckDataSig_graft v n ⟨st, alt, v₀, n₀, sc⟩ env _
  case OP_CHECKAUTHSIG | OP_CHECKAUTHSIGVERIFY =>
    exact execCheckAuthSig_graft v n ⟨st, alt, v₀, n₀, sc⟩ env _
  all_goals simp only
  all_goals try dsimp only [execIntrospectionNullary, execIntrospectionUnary, execAvmUnary,
    execAvmBinary, execAvmTernary]
  all_goals repeat' first | split | (rw [map_bind]; refine bind_congr fun _ => ?_)
  all_goals rfl

/-- Every arm of the switch reads not the opcode count, and keeps it. -/
theorem execOpcode_recount (env : Env) (fExec : Bool) (o : Opcode) :
    execOpcode env fExec o (m.graft m.vfExec n) =
      StepResult.map (fun x => x.graft x.vfExec n) <$> execOpcode env fExec o m := by
  cases ho : o.isConditional
  case false =>
    have hself := execOpcode_graft m.vfExec m.nOpCount m env fExec o ho
    rw [Machine.graft_self] at hself
    rw [execOpcode_graft _ _ _ env fExec o ho, hself, Functor.map_map, Functor.map_map]
    congr 1; funext r; cases r <;> rfl
  case true =>
    obtain ⟨st, alt, v₀, n₀, sc⟩ := m
    cases o
    all_goals try cases ho
    all_goals delta execOpcode; simp only [Machine.graft, execIf]
    all_goals repeat' split
    all_goals rfl

end Switch

/-! ## Section 3: one turn of the loop -/

/-- A read that a skipped branch only counts: a decoded instruction within
    the push size, enabled, and not a conditional. -/
def skippable : Option (UInt8 × Valtype) → Bool
  | none => false
  | some (opcode, vch) =>
    decide (vch.length ≤ MAX_SCRIPT_ELEMENT_SIZE) && !isOpcodeDisabled opcode &&
      !(decide (OP_IF ≤ opcode) && decide (opcode ≤ OP_ENDIF))

theorem skippable_some {opcode : UInt8} {vch : Valtype}
    (h : skippable (some (opcode, vch)) = true) :
    ¬(OP_IF ≤ opcode ∧ opcode ≤ OP_ENDIF) ∧ vch.length ≤ MAX_SCRIPT_ELEMENT_SIZE ∧
      isOpcodeDisabled opcode = false := by
  simp only [skippable, Bool.and_eq_true, decide_eq_true_eq, Bool.not_eq_true',
    Bool.and_eq_false_iff, decide_eq_false_iff_not] at h
  exact ⟨not_and_or.mpr h.2, h.1⟩

/-- Only the bytes `OP_IF..OP_ENDIF` name a conditional. -/
theorem isConditional_ofByte {opcode : UInt8} (h : ¬(OP_IF ≤ opcode ∧ opcode ≤ OP_ENDIF)) :
    (Opcode.ofByte opcode).isConditional = false := by
  have htable : Opcode.named.all (fun p => !p.1.isConditional ||
      (decide (OP_IF ≤ p.2) && decide (p.2 ≤ OP_ENDIF))) = true := rfl
  unfold Opcode.ofByte
  cases hf : Opcode.named.find? (·.2 == opcode) with
  | none => rfl
  | some p =>
    have hp : p.2 = opcode := by simpa using List.find?_some hf
    cases hc : p.1.isConditional
    · exact hc
    · have := List.all_eq_true.mp htable p (List.mem_of_find?_eq_some hf)
      simp only [hc, hp, Bool.not_true, Bool.false_or, Bool.and_eq_true, decide_eq_true_eq] at this
      exact absurd this h

theorem countOp_eq_graft (opcode : UInt8) (m : Machine) :
    countOp opcode m =
      m.graft m.vfExec (if opcode > OP_16 then m.nOpCount + 1 else m.nOpCount) := by
  unfold countOp; split <;> rfl

theorem countOp_graft (opcode : UInt8) (m : Machine) (v : ConditionStack) (n : Nat) :
    countOp opcode (m.graft v n) =
      (countOp opcode m).graft v (if opcode > OP_16 then n + 1 else n) := by
  unfold countOp; split <;> rfl

theorem countOp_recount (opcode : UInt8) (m : Machine) (n : Nat) :
    countOp opcode (m.graft m.vfExec n) =
      (countOp opcode m).graft (countOp opcode m).vfExec (if opcode > OP_16 then n + 1 else n) := by
  unfold countOp; split <;> rfl

/-- The depth check reads the two stacks alone. -/
theorem bind_checkStackSize_map {f : Machine → Machine}
    (hf : ∀ x, (f x).stack = x.stack ∧ (f x).altstack = x.altstack)
    (x : Except Thrown StepResult) :
    (StepResult.map f <$> x) >>= checkStackSize = StepResult.map f <$> (x >>= checkStackSize) := by
  rcases x with t | ⟨m⟩ | ⟨b, e, m⟩
  · rfl
  · show checkStackSize (.next (f m)) = StepResult.map f <$> checkStackSize (.next m)
    simp only [checkStackSize, (hf m).1, (hf m).2]
    split <;> rfl
  · rfl

/-- A skippable read on two machines that differ in the control fields alone
    and agree on whether every flag is true: the turns agree but in them. -/
theorem step_graft (env : Env) {op : Option (UInt8 × Valtype)} (hop : skippable op = true)
    {m : Machine} {v : ConditionStack} {n : Nat} (hv : v.all_true = m.vfExec.all_true)
    (hm : m.nOpCount < MAX_OPS_PER_SCRIPT) (hn : n < MAX_OPS_PER_SCRIPT) :
    ∃ n' ≤ n + 1,
      step env op (m.graft v n) = StepResult.map (·.graft v n') <$> step env op m := by
  obtain _ | ⟨opcode, vch⟩ := op
  · cases hop
  obtain ⟨hcond, hpush, hen⟩ := skippable_some hop
  refine ⟨if opcode > OP_16 then n + 1 else n, by split <;> omega, ?_⟩
  rw [step_gate_all_true env (m := m.graft v n) hcond hpush (fun _ => hn) hen,
    step_gate_all_true env hcond hpush (fun _ => hm) hen,
    ← bind_checkStackSize_map (f := (·.graft v _)) (fun _ => ⟨rfl, rfl⟩), countOp_graft,
    Machine.graft_vfExec, hv]
  generalize (if opcode > OP_16 then n + 1 else n) = n'
  congr 1
  split_ifs
  · rfl
  · rfl
  · exact execOpcode_graft _ _ _ env true _ (isConditional_ofByte hcond)
  · rfl

/-- Any read on two machines that differ in the opcode count alone: the
    turns agree but in it, while neither count reaches the cap. -/
theorem step_recount (env : Env) (op : Option (UInt8 × Valtype)) {m : Machine} {n : Nat}
    (hm : m.nOpCount < MAX_OPS_PER_SCRIPT) (hn : n < MAX_OPS_PER_SCRIPT) :
    ∃ n' ≤ n + 1, step env op (m.graft m.vfExec n) =
      StepResult.map (fun x => x.graft x.vfExec n') <$> step env op m := by
  obtain _ | ⟨opcode, vch⟩ := op
  · exact ⟨n, by omega, rfl⟩
  by_cases hpush : vch.length > MAX_SCRIPT_ELEMENT_SIZE
  · exact ⟨n, by omega, by simp only [step, hpush, if_true]; rfl⟩
  refine ⟨if opcode > OP_16 then n + 1 else n, by split <;> omega, ?_⟩
  have hover : ∀ m' : Machine, m'.nOpCount < MAX_OPS_PER_SCRIPT →
      ¬(opcode > OP_16 ∧ (countOp opcode m').nOpCount > MAX_OPS_PER_SCRIPT) := by
    rintro m' hm' ⟨hgt, hover⟩
    simp only [countOp, hgt, if_true] at hover
    omega
  simp only [step, hpush, hover m hm, hover (m.graft m.vfExec n) hn, if_false,
    Machine.graft_vfExec]
  rw [countOp_recount]
  generalize (if opcode > OP_16 then n + 1 else n) = n'
  split_ifs
  · rfl
  all_goals
    rw [← bind_checkStackSize_map (f := fun x => x.graft x.vfExec n') (fun _ => ⟨rfl, rfl⟩)]
  · rfl
  · rfl
  · rw [execOpcode_recount n' (countOp opcode m) env]
  · rfl

/-- A skippable read where some flag is false only counts its opcode. -/
theorem step_skip (env : Env) {op : Option (UInt8 × Valtype)} (hop : skippable op = true)
    {m : Machine} (hv : m.vfExec.all_true = false) (hm : m.nOpCount < MAX_OPS_PER_SCRIPT)
    (hd : m.stack.length + m.altstack.length ≤ MAX_STACK_SIZE) :
    ∃ n' ≤ m.nOpCount + 1, step env op m = .ok (.next (m.graft m.vfExec n')) := by
  obtain _ | ⟨opcode, vch⟩ := op
  · cases hop
  obtain ⟨hcond, hpush, hen⟩ := skippable_some hop
  refine ⟨if opcode > OP_16 then m.nOpCount + 1 else m.nOpCount, by split <;> omega, ?_⟩
  rw [step_gate_all_true env hcond hpush (fun _ => hm) hen, hv, if_neg Bool.false_ne_true,
    countOp_eq_graft]
  show checkStackSize (.next _) = _
  simp only [checkStackSize, Machine.graft_stack, Machine.graft_altstack, Nat.not_lt.mpr hd,
    if_false]

/-- A turn that goes on leaves the two stacks within the depth cap. -/
theorem step_depth {env : Env} {op : Option (UInt8 × Valtype)} {m m' : Machine}
    (h : step env op m = .ok (.next m')) :
    m'.stack.length + m'.altstack.length ≤ MAX_STACK_SIZE := by
  unfold step at h
  split at h
  · cases h
  · dsimp only at h
    split_ifs at h
    all_goals first
      | cases h
      | obtain ⟨r, -, hr⟩ := except_bind_eq_ok.mp h; exact checkStackSize_depth hr

/-- A skippable read's turn keeps the condition stack and counts at most one
    opcode. -/
theorem step_control {env : Env} {op : Option (UInt8 × Valtype)} (hop : skippable op = true)
    {m : Machine} {r : StepResult} (hm : m.nOpCount < MAX_OPS_PER_SCRIPT)
    (h : step env op m = .ok r) :
    r.machine.vfExec = m.vfExec ∧ r.machine.nOpCount ≤ m.nOpCount + 1 := by
  obtain ⟨n', hn', hself⟩ := step_graft env hop (v := m.vfExec) (n := m.nOpCount) rfl hm hm
  rw [Machine.graft_self, h] at hself
  rw [Except.ok.inj hself]
  cases r <;> exact ⟨rfl, hn'⟩

/-- Every turn counts at most one opcode. -/
theorem step_nOpCount_le {env : Env} {op : Option (UInt8 × Valtype)} {m : Machine} {r : StepResult}
    (hm : m.nOpCount < MAX_OPS_PER_SCRIPT) (h : step env op m = .ok r) :
    r.machine.nOpCount ≤ m.nOpCount + 1 := by
  obtain ⟨n', hn', hself⟩ := step_recount env op hm hm
  rw [Machine.graft_self, h] at hself
  rw [Except.ok.inj hself]
  cases r <;> exact hn'

/-! ## Section 4: runs -/

section Runs

variable (env : Env)

/-- Two runs from machines that differ in the opcode count alone end alike,
    while neither count can reach the cap. -/
theorem evalOps_recount (ops : List (Option (UInt8 × Valtype))) (k k' : Nat) (m : Machine)
    (n : Nat) (hm : m.nOpCount + ops.length ≤ MAX_OPS_PER_SCRIPT)
    (hn : n + ops.length ≤ MAX_OPS_PER_SCRIPT) :
    EvalResult.outcome <$> evalOps env ops k (m.graft m.vfExec n) =
      EvalResult.outcome <$> evalOps env ops k' m := by
  induction ops generalizing k k' m n with
  | nil => simp only [evalOps, Machine.graft_vfExec]; split <;> rfl
  | cons op ops ih =>
    rw [List.length_cons] at hm hn
    obtain ⟨n', hn', hstep⟩ := step_recount env op (m := m) (n := n) (by omega) (by omega)
    rcases hs : step env op m with t | ⟨m₁⟩ | ⟨b, e, m₁⟩ <;> rw [hs] at hstep
    · rw [evalOps_cons_of_error hstep, evalOps_cons_of_error hs]
      cases catchHandlers t <;> rfl
    · have hc := step_nOpCount_le (by omega) hs
      rw [evalOps_cons_of_next hstep, evalOps_cons_of_next hs]
      exact ih (k + 1) (k' + 1) m₁ n' (by simp only [StepResult.machine_next] at hc; omega)
        (by omega)
    · rw [evalOps_cons_of_stop hstep, evalOps_cons_of_stop hs]
      rfl

end Runs

/-! ## Section 5: the conditionals under taken branches -/

namespace ConditionStack

variable {v : ConditionStack} (hv : v.all_true = true) (b : Bool)
include hv

theorem toggle_top_push_back : (v.push_back b).toggle_top = v.push_back !b := by
  obtain ⟨size, _ | p⟩ := v
  · cases b <;> simp [push_back, toggle_top]
  · cases hv

theorem pop_back_push_back : (v.push_back b).pop_back = v := by
  obtain ⟨size, _ | p⟩ := v
  · cases b <;> simp [push_back, pop_back]
  · cases hv

omit hv in
theorem empty_push_back : (v.push_back b).empty = false := by
  simp [push_back, empty]

end ConditionStack

/-- A conditional read within the opcode cap runs its arm of the switch
    whatever the flags. -/
theorem step_conditional (env : Env) {opcode : UInt8} (hgt : OP_16 < opcode)
    (hpush : ¬opcode ≤ OP_PUSHDATA4) (hen : isOpcodeDisabled opcode = false)
    (hcond : OP_IF ≤ opcode ∧ opcode ≤ OP_ENDIF) {m : Machine}
    (hm : m.nOpCount < MAX_OPS_PER_SCRIPT) :
    step env (some (opcode, [])) m =
      execOpcode env m.vfExec.all_true (Opcode.ofByte opcode) (m.graft m.vfExec (m.nOpCount + 1))
        >>= checkStackSize := by
  have hc : countOp opcode m = m.graft m.vfExec (m.nOpCount + 1) := by
    rw [countOp_eq_graft, if_pos hgt]
  simp only [step, List.length_nil, hen, hpush, hcond, hc, Machine.graft_nOpCount,
    Nat.not_lt.mpr (Nat.succ_le_of_lt hm), and_false, and_self, or_true, if_false, if_true,
    Bool.false_eq_true, Nat.not_lt_zero]

/-- OP_IF or OP_NOTIF in a taken branch, on vchTrue or vchFalse: pops it and
    pushes its flag, negated for OP_NOTIF. -/
theorem step_if (env : Env) (isNotIf : Bool) {m : Machine} {b : Bool} {s : List Valtype}
    (hs : m.stack = vchBool b :: s) (hv : m.vfExec.all_true = true)
    (hm : m.nOpCount < MAX_OPS_PER_SCRIPT) (hd : s.length + m.altstack.length ≤ MAX_STACK_SIZE) :
    step env (some (if isNotIf then 0x64 else 0x63, [])) m =
      .ok (.next ({ m with stack := s }.graft (m.vfExec.push_back (b != isNotIf))
        (m.nOpCount + 1))) := by
  cases isNotIf <;>
  · rw [step_conditional env (by decide) (by decide) (by decide) (by decide) hm, hv]
    show execIf true _ _ >>= checkStackSize = _
    cases b <;> simp [execIf, hs, vchBool, castToBool, checkStackSize, Nat.not_lt.mpr hd] <;> rfl

/-- OP_ELSE under taken branches toggles the innermost flag. -/
theorem step_else (env : Env) {m : Machine} {v : ConditionStack} {b : Bool}
    (hv : v.all_true = true) (hvm : m.vfExec = v.push_back b) (hm : m.nOpCount < MAX_OPS_PER_SCRIPT)
    (hd : m.stack.length + m.altstack.length ≤ MAX_STACK_SIZE) :
    step env (some (0x67, [])) m = .ok (.next (m.graft (v.push_back !b) (m.nOpCount + 1))) := by
  rw [step_conditional env (by decide) (by decide) (by decide) (by decide) hm]
  show (if (m.graft _ _).vfExec.empty then _ else _) >>= checkStackSize = _
  simp [hvm, ConditionStack.empty_push_back, ConditionStack.toggle_top_push_back hv,
    checkStackSize, Nat.not_lt.mpr hd]
  rfl

/-- OP_ENDIF under taken branches pops the innermost flag. -/
theorem step_endif (env : Env) {m : Machine} {v : ConditionStack} {b : Bool}
    (hv : v.all_true = true) (hvm : m.vfExec = v.push_back b) (hm : m.nOpCount < MAX_OPS_PER_SCRIPT)
    (hd : m.stack.length + m.altstack.length ≤ MAX_STACK_SIZE) :
    step env (some (0x68, [])) m = .ok (.next (m.graft v (m.nOpCount + 1))) := by
  rw [step_conditional env (by decide) (by decide) (by decide) (by decide) hm]
  show (if (m.graft _ _).vfExec.empty then _ else _) >>= checkStackSize = _
  simp [hvm, ConditionStack.empty_push_back, ConditionStack.pop_back_push_back hv,
    checkStackSize, Nat.not_lt.mpr hd]
  rfl

/-- OP_ENDIF closing a branch that left the machine `m₁` but for the control
    fields, then any reads: they end as the reads do from `m₁`. -/
theorem evalOps_endif (env : Env) (rest : List (Option (UInt8 × Valtype))) (k k' : Nat)
    {m₁ : Machine} {n₁ : Nat} {b : Bool} (hv : m₁.vfExec.all_true = true)
    (hm : m₁.nOpCount + rest.length ≤ MAX_OPS_PER_SCRIPT)
    (hn : n₁ + 1 + rest.length ≤ MAX_OPS_PER_SCRIPT)
    (hd : m₁.stack.length + m₁.altstack.length ≤ MAX_STACK_SIZE) :
    EvalResult.outcome <$> evalOps env (some (0x68, []) :: rest) k
        (m₁.graft (m₁.vfExec.push_back b) n₁) =
      EvalResult.outcome <$> evalOps env rest k' m₁ := by
  rw [evalOps_cons_of_next (step_endif env (m := m₁.graft (m₁.vfExec.push_back b) n₁) hv rfl
    (by simp only [Machine.graft_nOpCount]; omega) hd)]
  exact evalOps_recount env rest _ _ m₁ (n₁ + 1) hm hn

end Avm
