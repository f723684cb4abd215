import Avm.Nesting

/-! # The condition stack along a run

    `EvalScript` keeps the flags of the enclosing branches as two counters,
    `ConditionStack`, and every read makes at most one call on them, read off
    the switch (`condCall`): `OP_IF` and `OP_NOTIF` push the new branch's
    flag, `OP_ELSE` toggles the innermost flag and `OP_ENDIF` pops it; every
    other read leaves them alone.

    Making the same calls on a plain list of flags gives, for every machine
    at which the loop takes a read, the list its counters stand for
    (`flagTrace`, `flagTrace_ofList`): a forward simulation of the counters
    by the list, one call per turn.  With the gate of Section 5 of
    `Avm.Frame`, a read other than a conditional runs exactly when every
    flag that the run's conditionals have pushed, toggled and not yet popped
    is true (`conditionStack_refines_flags`).
-/

namespace Avm

open ConditionStack

/-! ## Section 1: the call a read makes -/

/-- The flag `OP_IF` (`isNotIf = false`) or `OP_NOTIF` pushes: `false` in a
    skipped branch, otherwise the top of the stack cast to a boolean and
    negated for `OP_NOTIF`. -/
def ifFlag (fExec isNotIf : Bool) : List Valtype → Bool
  | vch :: _ => fExec && if isNotIf then !castToBool vch else castToBool vch
  | [] => false

/-- The call the arm of `o` makes on the condition stack when its turn goes
    on, under the flag `fExec` of the enclosing branches. -/
def Opcode.condCall (fExec : Bool) (stack : List Valtype) : Opcode → Option CondOp
  | .OP_IF => some (.push_back (ifFlag fExec false stack))
  | .OP_NOTIF => some (.push_back (ifFlag fExec true stack))
  | .OP_ELSE => some .toggle_top
  | .OP_ENDIF => some .pop_back
  | _ => none

/-- The call a read makes on the condition stack of `m`. -/
def condCall (m : Machine) : Option (UInt8 × Valtype) → Option CondOp
  | some (opcode, _) => (Opcode.ofByte opcode).condCall m.vfExec.all_true m.stack
  | none => none

theorem Opcode.condCall_of_not_conditional {o : Opcode} (ho : o.isConditional = false)
    (fExec : Bool) (stack : List Valtype) : o.condCall fExec stack = none := by
  cases o <;> first | rfl | cases ho

theorem execIf_vfExec {fExec isNotIf : Bool} {m m' : Machine}
    (h : execIf fExec isNotIf m = .ok (.next m')) :
    m'.vfExec = m.vfExec.push_back (ifFlag fExec isNotIf m.stack) := by
  unfold execIf at h
  split at h
  · next hf =>
    split at h
    · cases h
    · next vch rest hs =>
      split_ifs at h <;> cases h <;> simp_all [ifFlag]
  · next hf =>
    cases h
    cases m.stack <;> simp [ifFlag, hf]

/-- A conditional's arm that goes on makes its call, allowed on the
    counters it finds. -/
theorem execOpcode_condCall {env : Env} {fExec : Bool} {o : Opcode} {m m' : Machine}
    (ho : o.isConditional = true) (h : execOpcode env fExec o m = .ok (.next m')) :
    ∃ c, o.condCall fExec m.stack = some c ∧ c.allowedOn m.vfExec = true ∧
      m'.vfExec = c.apply m.vfExec := by
  delta execOpcode at h
  cases o
  case OP_IF | OP_NOTIF => exact ⟨_, rfl, rfl, execIf_vfExec h⟩
  case OP_ELSE | OP_ENDIF =>
    dsimp only at h
    split at h
    · cases h
    · next hne =>
      cases h
      exact ⟨_, rfl, by simpa [CondOp.allowedOn] using hne, rfl⟩
  all_goals cases ho

/-- An arm other than a conditional leaves the counters as they were. -/
theorem execOpcode_vfExec_of_not_conditional {env : Env} {fExec : Bool} {o : Opcode}
    {m : Machine} {r : StepResult} (ho : o.isConditional = false)
    (h : execOpcode env fExec o m = .ok r) : r.machine.vfExec = m.vfExec := by
  have hself := execOpcode_graft m.vfExec m.nOpCount m env fExec o ho
  rw [Machine.graft_self, h] at hself
  rw [Except.ok.inj hself]
  cases r <;> rfl

/-- A turn on a read whose opcode is not a conditional leaves the counters
    as they were, whatever it does. -/
theorem step_vfExec_of_not_conditional {env : Env} {opcode : UInt8} {vch : Valtype}
    {m : Machine} {r : StepResult} (ho : (Opcode.ofByte opcode).isConditional = false)
    (h : step env (some (opcode, vch)) m = .ok r) : r.machine.vfExec = m.vfExec := by
  unfold step at h
  dsimp only at h
  split_ifs at h
  · rw [fail_eq_ok.mp h]; rfl
  all_goals first
    | (rw [fail_eq_ok.mp h]; exact countOp_vfExec _ _)
    | obtain ⟨r₀, h₀, h⟩ := except_bind_eq_ok.mp h
  all_goals rw [checkStackSize_machine h, ← countOp_vfExec opcode m]
  all_goals first
    | exact execOpcode_vfExec_of_not_conditional ho h₀
    | (simp only [fail_eq_ok, next_eq_ok, Except.ok.injEq] at h₀; subst h₀; rfl)

/-- A turn that goes on makes the call of its read, allowed on the counters
    it finds. -/
theorem step_condCall {env : Env} {op : Option (UInt8 × Valtype)} {m m' : Machine}
    (h : step env op m = .ok (.next m')) :
    (∀ c ∈ condCall m op, c.allowedOn m.vfExec = true) ∧
      m'.vfExec = ((condCall m op).map (·.apply m.vfExec)).getD m.vfExec := by
  obtain _ | ⟨opcode, vch⟩ := op
  · cases h
  cases ho : (Opcode.ofByte opcode).isConditional
  case false =>
    rw [show condCall m (some (opcode, vch)) = none from Opcode.condCall_of_not_conditional ho _ _]
    exact ⟨fun _ h => (nomatch h), step_vfExec_of_not_conditional ho h⟩
  case true =>
    have hcond : OP_IF ≤ opcode ∧ opcode ≤ OP_ENDIF := by
      by_contra hc
      rw [isConditional_ofByte hc] at ho
      cases ho
    have hpush : ¬(m.vfExec.all_true = true ∧ opcode ≤ OP_PUSHDATA4) := fun hle => by
      have h₁ : 99 ≤ opcode.toNat := hcond.1
      have h₂ : opcode.toNat ≤ 78 := hle.2
      omega
    unfold step at h
    dsimp only at h
    simp only [hpush, hcond, and_self, or_true, if_false, if_true] at h
    split_ifs at h
    iterate 3 cases fail_eq_ok.mp h
    obtain ⟨c, hc, hal, hv⟩ := execOpcode_condCall ho (bind_checkStackSize_next h)
    rw [countOp_stack] at hc
    rw [countOp_vfExec] at hal hv
    simp only [condCall, hc, Option.mem_def, Option.some.injEq, forall_eq', Option.map_some',
      Option.getD_some]
    exact ⟨hal, hv⟩

/-! ## Section 2: the flags along a run -/

/-- The list of flags after a read's call; no call leaves it as it is. -/
def applyCall (c : Option CondOp) (l : List Bool) : List Bool :=
  (c.map (·.applyList l)).getD l

/-- The machines at which the loop takes a read, each with the list of flags
    that the calls of the reads before it have built from `l`. -/
def flagTrace (env : Env) :
    List (Option (UInt8 × Valtype)) → Machine → List Bool → List (Machine × List Bool)
  | [], _, _ => []
  | op :: ops, m, l => (m, l) ::
    match step env op m with
    | .ok (.next m') => flagTrace env ops m' (applyCall (condCall m op) l)
    | _ => []

/-- A turn that goes on keeps the counters the image of the list, the read's
    call made on both. -/
theorem step_ofList {env : Env} {op : Option (UInt8 × Valtype)} {m m' : Machine}
    (h : step env op m = .ok (.next m')) {l : List Bool} (hl : m.vfExec = ofList l) :
    m'.vfExec = ofList (applyCall (condCall m op) l) := by
  obtain ⟨hal, hv⟩ := step_condCall h
  rw [hv]
  cases hc : condCall m op with
  | none => exact hl
  | some c =>
    have hc' := hal c hc
    rw [hl, CondOp.allowedOn_ofList] at hc'
    rw [hl]
    exact CondOp.apply_ofList hc'

/-- Every machine of the trace is one the loop passes through, and holds
    the counters of its list of flags. -/
theorem flagTrace_ofList (env : Env) (ops : List (Option (UInt8 × Valtype))) :
    ∀ (m : Machine) (l : List Bool), m.vfExec = ofList l →
      ∀ p ∈ flagTrace env ops m l, p.1 ∈ evalTrace env ops m ∧ p.1.vfExec = ofList p.2 := by
  induction ops with
  | nil => exact fun _ _ _ _ hp => nomatch hp
  | cons op ops ih =>
    intro m l hl p hp
    rw [flagTrace] at hp
    rcases List.mem_cons.mp hp with rfl | hp
    · exact ⟨by rw [evalTrace]; exact List.mem_cons_self _ _, hl⟩
    rcases hs : step env op m with t | ⟨m'⟩ | ⟨b, e, m'⟩ <;> rw [hs] at hp
    · cases hp
    · obtain ⟨hm, hv⟩ := ih m' _ (step_ofList hs hl) p hp
      exact ⟨by rw [evalTrace, hs]; exact List.mem_cons_of_mem _ hm, hv⟩
    · cases hp

/-! ## Section 3: the counters refine the flags -/

/-- The condition stack refines the list of flags of the enclosing
    branches.  After every call of a sequence that pops and toggles only a
    non-empty stack, the counters answer `empty` and `all_true` as the list
    does.  Along a run of `EvalScript`, every machine at which the loop
    takes a read holds the counters of the list that the run's
    conditionals have built (`flagTrace`), and a read other than a
    conditional runs there exactly when every flag of that list is true,
    and is otherwise only counted. -/
theorem conditionStack_refines_flags (os : List CondOp) (hos : CondOp.valid os [] = true)
    (env : Env) (stack : List Valtype) (sc : ScriptStateContext) (script : Valtype) :
    (∀ k, (CondOp.run (os.take k) .init).empty = (CondOp.runList (os.take k) []).isEmpty ∧
      (CondOp.run (os.take k) .init).all_true = (CondOp.runList (os.take k) []).all id) ∧
    ∀ p ∈ flagTrace env (scriptOps script) (.start stack sc) [],
      p.1 ∈ evalTrace env (scriptOps script) (.start stack sc) ∧ p.1.vfExec = ofList p.2 ∧
      ∀ (opcode : UInt8) (vch : Valtype), ¬(OP_IF ≤ opcode ∧ opcode ≤ OP_ENDIF) →
        vch.length ≤ MAX_SCRIPT_ELEMENT_SIZE →
        (OP_16 < opcode → p.1.nOpCount + 1 ≤ MAX_OPS_PER_SCRIPT) →
        isOpcodeDisabled opcode = false →
        step env (some (opcode, vch)) p.1 =
          (if p.2.all id then
            if opcode ≤ OP_PUSHDATA4 then
              if !checkMinimalPush vch opcode then fail .MINIMALDATA (countOp opcode p.1)
              else next (countOp opcode p.1) (vch :: p.1.stack)
            else execOpcode env true (Opcode.ofByte opcode) (countOp opcode p.1)
          else .ok (.next (countOp opcode p.1))) >>= checkStackSize := by
  refine ⟨fun k => ?_, fun p hp => ?_⟩
  · rw [← ofList_nil, CondOp.run_ofList (CondOp.valid_take hos k)]
    exact ⟨empty_ofList _, all_true_ofList _⟩
  · obtain ⟨hm, hl⟩ := flagTrace_ofList env _ _ [] rfl p hp
    exact ⟨hm, hl, fun _ _ => step_gate env hl⟩

/-- Two nested branches, the inner one toggled: after the three calls the
    counters report every branch active, as the list `[true, true]` does. -/
theorem nested_toggle_all_true :
    CondOp.valid [.push_back true, .push_back false, .toggle_top] [] = true ∧
    (CondOp.run ([.push_back true, .push_back false, .toggle_top].take 3) .init).all_true =
      (CondOp.runList ([.push_back true, .push_back false, .toggle_top].take 3) []).all id :=
  ⟨rfl, ((conditionStack_refines_flags [.push_back true, .push_back false, .toggle_top] rfl
    sampleEnv [] emptyContext []).1 3).2⟩

end Avm
