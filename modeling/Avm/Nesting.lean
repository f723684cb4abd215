import Avm.Branches

/-! # Nested conditionals select a branch

    A script `OP_IF A OP_ELSE B OP_ENDIF rest`, run under taken branches on a
    stack with vchTrue or vchFalse on top, ends as `A rest` or `B rest` run on
    the stack below: with the same result, error, stack and state context
    (`evalOps_ifElse_selects`).  The branches may open and close
    conditionals of their own, to any depth; what they may not do is close a
    branch they did not open, or hold an undecodable read, a disabled opcode
    or an oversized push, which stop the loop even in a branch not taken.  The
    opcode count must stay within its cap, as it does in every script
    `EvalScript` accepts.

    This file defines:
    - `branchDepth` and `nests`: the nesting depth after each read, and the
      reads that close every branch they open;
    - `ConditionStack.insertTrue`: the counters of the flags with a `true`
      inserted below the inner branches, and `ConditionStack.Above`, that
      every `false` lies at or above the insertion.

    A taken branch runs in lockstep with the same reads on a machine without
    the branch's flag: the counters of the two condition stacks differ by the
    inserted `true` alone, and the conditionals' arms commute with the
    insertion (`step_insert`, `evalOps_insert_append`).  A branch not taken
    keeps its `false` below every flag it pushes, so its reads are only
    counted (`evalOps_skip_nested`).
-/

namespace Avm

open ConditionStack

/-! ## Section 1: nesting -/

/-- The nesting depth after a read at depth `d`: `OP_IF` and `OP_NOTIF` open
    a branch, `OP_ELSE` switches the innermost one and `OP_ENDIF` closes it,
    both only inside one, and any other read must be skippable; `none` for a
    read that does not fit. -/
def branchDepth (d : Nat) (op : Option (UInt8 × Valtype)) : Option Nat :=
  if op = some (0x63, []) ∨ op = some (0x64, []) then some (d + 1)
  else if op = some (0x67, []) then if d = 0 then none else some d
  else if op = some (0x68, []) then if d = 0 then none else some (d - 1)
  else if skippable op then some d else none

/-- Reads that, from depth `d`, close every branch they open and the `d`
    they start in, and no other. -/
def nests : Nat → List (Option (UInt8 × Valtype)) → Bool
  | d, [] => d == 0
  | d, op :: ops =>
    match branchDepth d op with
    | some d' => nests d' ops
    | none => false

theorem nests_cons {d : Nat} {op : Option (UInt8 × Valtype)} {ops : List (Option (UInt8 × Valtype))}
    (h : nests d (op :: ops) = true) : ∃ d', branchDepth d op = some d' ∧ nests d' ops = true := by
  simp only [nests] at h
  split at h
  · exact ⟨_, ‹_›, h⟩
  · cases h

/-! ## Section 2: a `true` flag inserted below the inner branches -/

namespace ConditionStack

/-- The counters of the flags with a `true` inserted at position `f`: a first
    `false` at or above it moves up one. -/
def insertTrue (f : Nat) (s : ConditionStack) : ConditionStack :=
  ⟨s.m_stack_size + 1, s.m_first_false_pos.map (fun p => if p < f then p else p + 1)⟩

/-- Every `false` lies at or above `f`, inside the stack. -/
def Above (f : Nat) (s : ConditionStack) : Prop :=
  ∀ p, s.m_first_false_pos = some p → f ≤ p ∧ p < s.m_stack_size

variable {f : Nat} {s : ConditionStack}

@[simp] theorem all_true_insertTrue : (s.insertTrue f).all_true = s.all_true := by
  simp [insertTrue, all_true]

@[simp] theorem empty_insertTrue : (s.insertTrue f).empty = false := by
  simp [insertTrue, empty]

@[simp] theorem size_insertTrue : (s.insertTrue f).m_stack_size = s.m_stack_size + 1 := rfl

theorem push_back_insertTrue (h : f ≤ s.m_stack_size) (b : Bool) :
    (s.push_back b).insertTrue f = (s.insertTrue f).push_back b := by
  obtain ⟨size, _ | p⟩ := s <;> cases b <;>
    simp [insertTrue, push_back, Nat.not_lt.mpr h]

theorem pop_back_insertTrue (h : f < s.m_stack_size) :
    s.pop_back.insertTrue f = (s.insertTrue f).pop_back := by
  obtain ⟨size, ffp⟩ := s
  simp only at h
  simp only [insertTrue, pop_back, mk.injEq]
  refine ⟨by omega, ?_⟩
  rcases ffp with _ | p
  · rfl
  · by_cases hp : p = size - 1
    · simp [hp, show ¬size - 1 < f by omega, show size - 1 + 1 = size by omega]
    · by_cases hpf : p < f
      · simp [hp, hpf, show p ≠ size by omega]
      · simp [hp, hpf, show p + 1 ≠ size by omega]

theorem toggle_top_insertTrue (h : f < s.m_stack_size) :
    s.toggle_top.insertTrue f = (s.insertTrue f).toggle_top := by
  obtain ⟨size, ffp⟩ := s
  simp only at h
  rcases ffp with _ | p
  · simp [insertTrue, toggle_top, show ¬size - 1 < f by omega, show size - 1 + 1 = size by omega]
  · by_cases hp : p = size - 1
    · simp [insertTrue, toggle_top, hp, show ¬size - 1 < f by omega, show size - 1 + 1 = size by omega]
    · by_cases hpf : p < f
      · simp [insertTrue, toggle_top, hp, hpf, show p ≠ size by omega]
      · simp [insertTrue, toggle_top, hp, hpf, show p + 1 ≠ size by omega]

@[simp] theorem size_toggle_top : s.toggle_top.m_stack_size = s.m_stack_size := by
  obtain ⟨size, _ | p⟩ := s
  · rfl
  · simp only [toggle_top]; split_ifs <;> rfl

theorem insertTrue_self (h : s.all_true = true) : s.insertTrue s.m_stack_size = s.push_back true := by
  obtain ⟨size, _ | p⟩ := s
  · rfl
  · cases h

namespace Above

theorem push_back (h : Above f s) (hf : f ≤ s.m_stack_size) (b : Bool) : Above f (s.push_back b) := by
  intro p hp
  simp only [ConditionStack.push_back] at hp ⊢
  split_ifs at hp with hb
  · have := Option.some.inj hp; omega
  · have := h p hp; omega

theorem pop_back (h : Above f s) : Above f s.pop_back := by
  intro p hp
  simp only [ConditionStack.pop_back] at hp ⊢
  split_ifs at hp with hb
  · have := h p hp
    have : p ≠ s.m_stack_size - 1 := fun he => hb (by rw [hp, he])
    omega

theorem toggle_top (h : Above f s) (hf : f < s.m_stack_size) : Above f s.toggle_top := by
  obtain ⟨size, _ | q⟩ := s
  · intro p hp
    simp only [ConditionStack.toggle_top, Option.some.injEq] at hp hf ⊢
    omega
  · simp only [ConditionStack.toggle_top]
    split_ifs
    · intro p hp; cases hp
    · exact h

/-- At size `f`, no flag lies at or above `f`: every flag is true. -/
theorem eq_of_size (h : Above f s) (hs : s.m_stack_size = f) : s = ⟨f, none⟩ := by
  obtain ⟨size, _ | p⟩ := s
  · simp only at hs; rw [hs]
  · have := h p rfl; simp only at this hs; omega

theorem of_all_true (h : s.all_true = true) : Above f s := by
  intro p hp
  simp [all_true, hp] at h

end Above

end ConditionStack

/-! ## Section 3: one turn of the loop -/

/-- The arm of `OP_ELSE`. -/
theorem execOpcode_else (env : Env) (fExec : Bool) (m : Machine) :
    execOpcode env fExec .OP_ELSE m =
      if m.vfExec.empty then fail .UNBALANCED_CONDITIONAL m
      else .ok (.next { m with vfExec := m.vfExec.toggle_top }) := rfl

/-- The arm of `OP_ENDIF`. -/
theorem execOpcode_endif (env : Env) (fExec : Bool) (m : Machine) :
    execOpcode env fExec .OP_ENDIF m =
      if m.vfExec.empty then fail .UNBALANCED_CONDITIONAL m
      else .ok (.next { m with vfExec := m.vfExec.pop_back }) := rfl

theorem execIf_insert (fExec isNotIf : Bool) (m : Machine) {f : Nat}
    (hf : f ≤ m.vfExec.m_stack_size) (n : Nat) :
    execIf fExec isNotIf (m.graft (m.vfExec.insertTrue f) n) =
      StepResult.map (fun x => x.graft (x.vfExec.insertTrue f) n) <$> execIf fExec isNotIf m := by
  unfold execIf
  split
  · simp only [Machine.graft_stack]
    split
    · rfl
    · split_ifs <;> first | rfl | (simp only [Machine.graft_vfExec, ← push_back_insertTrue hf]; rfl)
  · simp only [Machine.graft_vfExec, ← push_back_insertTrue hf]
    rfl

theorem execIf_next {fExec isNotIf : Bool} {m x : Machine} (h : execIf fExec isNotIf m = .ok (.next x)) :
    ∃ b, x.vfExec = m.vfExec.push_back b := by
  unfold execIf at h
  split at h
  · split at h
    · cases h
    · split_ifs at h <;> cases h <;> exact ⟨_, rfl⟩
  · cases h
    exact ⟨_, rfl⟩

theorem branchDepth_eq_some {d d' : Nat} {op : Option (UInt8 × Valtype)}
    (h : branchDepth d op = some d') :
    ((op = some (0x63, []) ∨ op = some (0x64, [])) ∧ d' = d + 1) ∨
      (op = some (0x67, []) ∧ d ≠ 0 ∧ d' = d) ∨
      (op = some (0x68, []) ∧ d ≠ 0 ∧ d' = d - 1) ∨
      (skippable op = true ∧ d' = d) := by
  unfold branchDepth at h
  split_ifs at h with h₁ h₂ h₃ h₄ h₅ h₆ <;> cases h
  · exact .inl ⟨h₁, rfl⟩
  · exact .inr (.inl ⟨h₂, h₃, rfl⟩)
  · exact .inr (.inr (.inl ⟨h₄, h₅, rfl⟩))
  · exact .inr (.inr (.inr ⟨h₆, rfl⟩))

/-- A conditional read on a machine with a `true` inserted at `f`: the turn
    is the plain machine's, with the flag inserted in its result, when the
    arm of the switch commutes with the insertion. -/
theorem step_conditional_insert (env : Env) {opcode : UInt8} (hgt : OP_16 < opcode)
    (hpush : ¬opcode ≤ OP_PUSHDATA4) (hen : isOpcodeDisabled opcode = false)
    (hcond : OP_IF ≤ opcode ∧ opcode ≤ OP_ENDIF) {m : Machine} {f n : Nat}
    (hm : m.nOpCount < MAX_OPS_PER_SCRIPT) (hn : n < MAX_OPS_PER_SCRIPT)
    (harm : ∀ fExec (M : Machine), M.vfExec = m.vfExec →
      execOpcode env fExec (Opcode.ofByte opcode) (M.graft (M.vfExec.insertTrue f) (n + 1)) =
        StepResult.map (fun x => x.graft (x.vfExec.insertTrue f) (n + 1)) <$>
          execOpcode env fExec (Opcode.ofByte opcode) M) :
    step env (some (opcode, [])) (m.graft (m.vfExec.insertTrue f) n) =
      StepResult.map (fun x => x.graft (x.vfExec.insertTrue f) (n + 1)) <$>
        step env (some (opcode, [])) m := by
  rw [step_conditional env hgt hpush hen hcond hn, step_conditional env hgt hpush hen hcond hm,
    ← bind_checkStackSize_map (f := fun x => x.graft (x.vfExec.insertTrue f) (n + 1))
      (fun _ => ⟨rfl, rfl⟩), ← harm _ (m.graft m.vfExec (m.nOpCount + 1)) rfl]
  simp only [Machine.graft_vfExec, Machine.graft_graft, Machine.graft_nOpCount, all_true_insertTrue]

/-- A turn whose depth check lets it go on went on before the check. -/
theorem bind_checkStackSize_next {x : Except Thrown StepResult} {m' : Machine}
    (h : x >>= checkStackSize = .ok (.next m')) : x = .ok (.next m') := by
  rcases x with t | ⟨y⟩ | ⟨b, e, y⟩
  · cases h
  · change checkStackSize (.next y) = _ at h
    simp only [checkStackSize] at h
    split_ifs at h <;> cases h
    rfl
  · cases h

/-- Any read that fits the nesting, on a machine with a `true` inserted at
    `f` below the inner branches: the turn is the plain machine's, with the
    flag inserted in its result. -/
theorem step_insert (env : Env) {op : Option (UInt8 × Valtype)} {e e' : Nat}
    (hop : branchDepth e op = some e') {m : Machine} {f n : Nat}
    (hsize : m.vfExec.m_stack_size = f + e) (hm : m.nOpCount < MAX_OPS_PER_SCRIPT)
    (hn : n < MAX_OPS_PER_SCRIPT) :
    ∃ n' ≤ n + 1, step env op (m.graft (m.vfExec.insertTrue f) n) =
      StepResult.map (fun x => x.graft (x.vfExec.insertTrue f) n') <$> step env op m := by
  rcases branchDepth_eq_some hop with ⟨h | h, -⟩ | ⟨h, he, -⟩ | ⟨h, he, -⟩ | ⟨hs, -⟩
  · subst h
    exact ⟨n + 1, le_rfl, step_conditional_insert env (by decide) (by decide) (by decide)
      (by decide) hm hn fun fExec M hM => execIf_insert fExec false M (by rw [hM, hsize]; omega) (n + 1)⟩
  · subst h
    exact ⟨n + 1, le_rfl, step_conditional_insert env (by decide) (by decide) (by decide)
      (by decide) hm hn fun fExec M hM => execIf_insert fExec true M (by rw [hM, hsize]; omega) (n + 1)⟩
  · subst h
    refine ⟨n + 1, le_rfl, step_conditional_insert env (by decide) (by decide) (by decide)
      (by decide) hm hn fun fExec M hM => ?_⟩
    have hne : M.vfExec.empty = false := by simp only [ConditionStack.empty, hM, hsize]; simp; omega
    rw [show Opcode.ofByte 0x67 = .OP_ELSE from rfl, execOpcode_else, execOpcode_else, hne,
      Machine.graft_vfExec, empty_insertTrue, ← toggle_top_insertTrue (by rw [hM, hsize]; omega)]
    rfl
  · subst h
    refine ⟨n + 1, le_rfl, step_conditional_insert env (by decide) (by decide) (by decide)
      (by decide) hm hn fun fExec M hM => ?_⟩
    have hne : M.vfExec.empty = false := by simp only [ConditionStack.empty, hM, hsize]; simp; omega
    rw [show Opcode.ofByte 0x68 = .OP_ENDIF from rfl, execOpcode_endif, execOpcode_endif, hne,
      Machine.graft_vfExec, empty_insertTrue, ← pop_back_insertTrue (by rw [hM, hsize]; omega)]
    rfl
  · obtain ⟨n', hn', hstep⟩ := step_graft env hs (v := m.vfExec.insertTrue f) (n := n)
      all_true_insertTrue hm hn
    refine ⟨n', hn', hstep.trans ?_⟩
    rcases hx : step env op m with t | ⟨x⟩ | ⟨b, er, x⟩
    · rfl
    all_goals
      have hv := (step_control hs hm hx).1
      simp only [StepResult.machine_next, StepResult.machine_stop] at hv
      show Except.map _ (Except.ok _) = Except.map _ (Except.ok _)
      simp only [Except.map, StepResult.map, hv]

/-- A turn that goes on, from a read that fits the nesting, moves the size of
    the condition stack to the read's depth and keeps every `false` at or
    above `f`. -/
theorem step_next_insert {env : Env} {op : Option (UInt8 × Valtype)} {e e' : Nat}
    (hop : branchDepth e op = some e') {m x : Machine} {f : Nat}
    (hsize : m.vfExec.m_stack_size = f + e) (hA : Above f m.vfExec)
    (hm : m.nOpCount < MAX_OPS_PER_SCRIPT) (hx : step env op m = .ok (.next x)) :
    x.vfExec.m_stack_size = f + e' ∧ Above f x.vfExec := by
  rcases branchDepth_eq_some hop with ⟨h | h, rfl⟩ | ⟨h, he, rfl⟩ | ⟨h, he, rfl⟩ | ⟨hs, rfl⟩
  · subst h
    rw [step_conditional env (by decide) (by decide) (by decide) (by decide) hm] at hx
    obtain ⟨b, hb⟩ := execIf_next (bind_checkStackSize_next hx)
    rw [hb]
    exact ⟨by show m.vfExec.m_stack_size + 1 = _; omega, hA.push_back (by omega) b⟩
  · subst h
    rw [step_conditional env (by decide) (by decide) (by decide) (by decide) hm] at hx
    obtain ⟨b, hb⟩ := execIf_next (bind_checkStackSize_next hx)
    rw [hb]
    exact ⟨by show m.vfExec.m_stack_size + 1 = _; omega, hA.push_back (by omega) b⟩
  · subst h
    rw [step_conditional env (by decide) (by decide) (by decide) (by decide) hm] at hx
    have hx := bind_checkStackSize_next hx
    rw [show Opcode.ofByte 0x67 = .OP_ELSE from rfl, execOpcode_else] at hx
    split_ifs at hx <;> cases hx
    exact ⟨by rw [← hsize]; exact size_toggle_top, hA.toggle_top (by omega)⟩
  · subst h
    rw [step_conditional env (by decide) (by decide) (by decide) (by decide) hm] at hx
    have hx := bind_checkStackSize_next hx
    rw [show Opcode.ofByte 0x68 = .OP_ENDIF from rfl, execOpcode_endif] at hx
    split_ifs at hx <;> cases hx
    exact ⟨by show m.vfExec.m_stack_size - 1 = _; omega, hA.pop_back⟩
  · have hv := (step_control hs hm hx).1
    simp only [StepResult.machine_next] at hv
    exact ⟨hv ▸ hsize, hv ▸ hA⟩

/-- A read that fits the nesting, under a `false` at `p` below the branches
    it opens, only counts its opcode and moves the depth. -/
theorem step_skip_nested (env : Env) {op : Option (UInt8 × Valtype)} {e e' : Nat}
    (hop : branchDepth e op = some e') {m : Machine} {s₀ p : Nat} (hp : p < s₀)
    (hv : m.vfExec = ⟨s₀ + e, some p⟩) (hm : m.nOpCount < MAX_OPS_PER_SCRIPT)
    (hd : m.stack.length + m.altstack.length ≤ MAX_STACK_SIZE) :
    ∃ n' ≤ m.nOpCount + 1, step env op m = .ok (.next (m.graft ⟨s₀ + e', some p⟩ n')) := by
  have hnext : ∀ v : ConditionStack, checkStackSize (.next (m.graft v (m.nOpCount + 1))) =
      .ok (.next (m.graft v (m.nOpCount + 1))) := fun v => by
    simp only [checkStackSize, Machine.graft_stack, Machine.graft_altstack, Nat.not_lt.mpr hd,
      if_false]
  rcases branchDepth_eq_some hop with ⟨h | h, rfl⟩ | ⟨h, he, rfl⟩ | ⟨h, he, rfl⟩ | ⟨hs, rfl⟩
  all_goals try subst h
  · exact ⟨_, le_rfl, by
      rw [step_conditional env (by decide) (by decide) (by decide) (by decide) hm, hv]
      exact hnext _⟩
  · exact ⟨_, le_rfl, by
      rw [step_conditional env (by decide) (by decide) (by decide) (by decide) hm, hv]
      exact hnext _⟩
  · refine ⟨_, le_rfl, ?_⟩
    rw [step_conditional env (by decide) (by decide) (by decide) (by decide) hm,
      show Opcode.ofByte 0x67 = .OP_ELSE from rfl, execOpcode_else, Machine.graft_vfExec, hv,
      if_neg (by simp only [ConditionStack.empty]; simp; omega)]
    simp only [toggle_top, if_neg (show p ≠ s₀ + e' - 1 by omega)]
    exact hnext _
  · refine ⟨_, le_rfl, ?_⟩
    rw [step_conditional env (by decide) (by decide) (by decide) (by decide) hm,
      show Opcode.ofByte 0x68 = .OP_ENDIF from rfl, execOpcode_endif, Machine.graft_vfExec, hv,
      if_neg (by simp only [ConditionStack.empty]; simp; omega)]
    simp only [pop_back, if_neg (show some p ≠ some (s₀ + e - 1) by simp; omega)]
    rw [show s₀ + e - 1 = s₀ + (e - 1) by omega]
    exact hnext _
  · obtain ⟨n', hn', hstep⟩ := step_skip env hs (by rw [hv]; rfl) hm hd
    exact ⟨n', hn', by rw [hstep, hv]⟩

/-! ## Section 4: runs -/

section Runs

variable (env : Env)

/-- A branch that fits the nesting, under a `false` below it, is only
    counted. -/
theorem evalOps_skip_nested (rest B : List (Option (UInt8 × Valtype))) {e : Nat}
    (hB : nests e B = true) (k : Nat) (m : Machine) {s₀ p : Nat} (hp : p < s₀)
    (hv : m.vfExec = ⟨s₀ + e, some p⟩) (hm : m.nOpCount + B.length ≤ MAX_OPS_PER_SCRIPT)
    (hd : m.stack.length + m.altstack.length ≤ MAX_STACK_SIZE) :
    ∃ n' ≤ m.nOpCount + B.length,
      evalOps env (B ++ rest) k m = evalOps env rest (k + B.length) (m.graft ⟨s₀, some p⟩ n') := by
  induction B generalizing e k m with
  | nil =>
    have he : e = 0 := by simpa [nests] using hB
    subst he
    rw [Nat.add_zero] at hv
    exact ⟨m.nOpCount, le_rfl, by rw [List.nil_append, List.length_nil, Nat.add_zero, ← hv,
      Machine.graft_self]⟩
  | cons op B ih =>
    obtain ⟨e', hop, hB'⟩ := nests_cons hB
    rw [List.length_cons] at hm
    obtain ⟨n₁, hn₁, hstep⟩ := step_skip_nested env hop hp hv (by omega) hd
    obtain ⟨n₂, hn₂, hrun⟩ := ih hB' (k + 1) (m.graft ⟨s₀ + e', some p⟩ n₁) rfl
      (by rw [Machine.graft_nOpCount]; omega) hd
    refine ⟨n₂, by rw [Machine.graft_nOpCount] at hn₂; rw [List.length_cons]; omega, ?_⟩
    rw [List.cons_append, evalOps_cons_of_next hstep, hrun, List.length_cons,
      show k + 1 + B.length = k + (B.length + 1) by omega]
    rfl

end Runs

section Lockstep

variable {env : Env} {f c d : Nat} {rest rest' : List (Option (UInt8 × Valtype))}

/-- Two runs of the same reads that fit the nesting, from machines that
    differ in the opcode count and a `true` flag inserted at `f` below the
    branches the reads open, go in lockstep: they end alike, or both reach
    the end of the reads, the flags of the plain machine all true again. -/
theorem evalOps_insert_append (hcMax : c ≤ MAX_OPS_PER_SCRIPT) (hdMax : d ≤ MAX_OPS_PER_SCRIPT)
    (hrest : ∀ k k' (m₁ : Machine) n₁, m₁.vfExec = ⟨f, none⟩ → m₁.nOpCount ≤ c → n₁ ≤ d →
      m₁.stack.length + m₁.altstack.length ≤ MAX_STACK_SIZE →
      EvalResult.outcome <$> evalOps env rest k (m₁.graft ⟨f + 1, none⟩ n₁) =
        EvalResult.outcome <$> evalOps env rest' k' m₁)
    (P : List (Option (UInt8 × Valtype))) {e : Nat} (hP : nests e P = true) (k k' : Nat)
    (m : Machine) (n : Nat) (hsize : m.vfExec.m_stack_size = f + e) (hA : Above f m.vfExec)
    (hm : m.nOpCount + P.length ≤ c) (hn : n + P.length ≤ d)
    (hd : m.stack.length + m.altstack.length ≤ MAX_STACK_SIZE) :
    EvalResult.outcome <$> evalOps env (P ++ rest) k (m.graft (m.vfExec.insertTrue f) n) =
      EvalResult.outcome <$> evalOps env (P ++ rest') k' m := by
  induction P generalizing e k k' m n with
  | nil =>
    have he : e = 0 := by simpa [nests] using hP
    have hv := hA.eq_of_size (by omega)
    rw [hv]
    exact hrest k k' m n hv hm hn hd
  | cons op P ih =>
    obtain ⟨e', hop, hP'⟩ := nests_cons hP
    rw [List.length_cons] at hm hn
    obtain ⟨n₁, hn₁, hstep⟩ := step_insert env hop (m := m) (n := n) hsize (by omega) (by omega)
    rw [List.cons_append, List.cons_append]
    rcases hs : step env op m with t | ⟨m₁⟩ | ⟨b, er, m₁⟩ <;> rw [hs] at hstep
    · rw [evalOps_cons_of_error hstep, evalOps_cons_of_error hs]
      cases catchHandlers t <;> rfl
    · obtain ⟨hsize₁, hA₁⟩ := step_next_insert hop hsize hA (by omega) hs
      have hc₁ := step_nOpCount_le (by omega) hs
      rw [evalOps_cons_of_next hstep, evalOps_cons_of_next hs]
      exact ih hP' (k + 1) (k' + 1) m₁ n₁ hsize₁ hA₁
        (by simp only [StepResult.machine_next] at hc₁; omega) (by omega) (step_depth hs)
    · rw [evalOps_cons_of_stop hstep, evalOps_cons_of_stop hs]
      rfl

end Lockstep

/-! ## Section 5: a branch is selected -/

/-- `OP_IF A OP_ELSE B OP_ENDIF rest`, run under taken branches on a stack
    with vchTrue or vchFalse on top, ends as `A rest` or `B rest` run on the
    stack below: with the same result, error, stack and state context.
    `OP_NOTIF` selects the other branch.  The branches may open and close
    conditionals of their own, and the opcode count stays within its cap. -/
theorem evalOps_ifElse_selects (env : Env) (isNotIf b : Bool)
    (A B rest : List (Option (UInt8 × Valtype))) (hA : nests 0 A = true) (hB : nests 0 B = true)
    (k k' : Nat) (m : Machine) (s : List Valtype)
    (hs : m.stack = vchBool b :: s) (hv : m.vfExec.all_true = true)
    (hd : s.length + m.altstack.length ≤ MAX_STACK_SIZE)
    (hc : m.nOpCount + (A.length + B.length + rest.length + 3) ≤ MAX_OPS_PER_SCRIPT) :
    EvalResult.outcome <$> evalOps env
        (some (if isNotIf then 0x64 else 0x63, []) :: A ++ some (0x67, []) :: B ++
          some (0x68, []) :: rest) k m =
      EvalResult.outcome <$>
        evalOps env ((if b != isNotIf then A else B) ++ rest) k' { m with stack := s } := by
  set f := m.vfExec.m_stack_size
  have hv₀ : m.vfExec = ⟨f, none⟩ := (Above.of_all_true hv).eq_of_size rfl
  have hins : m.vfExec.push_back true = m.vfExec.insertTrue f := (insertTrue_self hv).symm
  have hfalse : m.vfExec.push_back false = ⟨f + 1 + 0, some f⟩ := by rw [hv₀]; rfl
  -- closing the selected branch: OP_ENDIF pops its flag
  have hendif : ∀ (b : Bool) k₁ k₁' (m₁ : Machine) n₁, m₁.vfExec = ⟨f, none⟩ →
      m₁.nOpCount + rest.length ≤ MAX_OPS_PER_SCRIPT → n₁ + 1 + rest.length ≤ MAX_OPS_PER_SCRIPT →
      m₁.stack.length + m₁.altstack.length ≤ MAX_STACK_SIZE →
      EvalResult.outcome <$> evalOps env (some (0x68, []) :: rest) k₁
          (m₁.graft ((⟨f, none⟩ : ConditionStack).push_back b) n₁) =
        EvalResult.outcome <$> evalOps env rest k₁' m₁ := fun b k₁ k₁' m₁ n₁ hV hm₁ hn₁ hd₁ => by
    have := @evalOps_endif env rest k₁ k₁' m₁ n₁ b (by rw [hV]; rfl)
      hm₁ hn₁ hd₁
    rwa [hV] at this
  simp only [List.cons_append, List.append_assoc]
  rw [evalOps_cons_of_next (step_if env isNotIf hs hv (by omega) hd)]
  generalize (b != isNotIf) = fValue
  cases fValue
  case true =>
    rw [if_pos rfl, hins]
    refine evalOps_insert_append (c := m.nOpCount + A.length) (d := m.nOpCount + 1 + A.length)
      (by omega) (by omega) ?_ A hA (k + 1) k' { m with stack := s } _ rfl (Above.of_all_true hv)
      le_rfl (by omega) hd
    intro k₁ k₁' m₁ n₁ hV hc₁ hn₁ hd₁
    rw [evalOps_cons_of_next (step_else env (m := m₁.graft ⟨f + 1, none⟩ n₁) (v := ⟨f, none⟩)
      (b := true) rfl rfl (by simp only [Machine.graft_nOpCount]; omega) hd₁)]
    obtain ⟨n₂, hn₂, hskip⟩ := evalOps_skip_nested env (some (0x68, []) :: rest) B hB (k₁ + 1)
      (m₁.graft ⟨f + 1, some f⟩ (n₁ + 1)) (Nat.lt_succ_self f) rfl
      (by simp only [Machine.graft_nOpCount]; omega) hd₁
    simp only [Machine.graft_nOpCount] at hn₂
    refine (congrArg (EvalResult.outcome <$> ·) hskip).trans ?_
    exact hendif false _ k₁' m₁ n₂ hV (by omega) (by omega) hd₁
  case false =>
    rw [if_neg Bool.false_ne_true]
    obtain ⟨n₂, hn₂, hskip⟩ := evalOps_skip_nested env
      (some (0x67, []) :: (B ++ some (0x68, []) :: rest)) A hA (k + 1)
      ({ m with stack := s }.graft (m.vfExec.push_back false) (m.nOpCount + 1)) (Nat.lt_succ_self f)
      hfalse (by simp only [Machine.graft_nOpCount]; omega) hd
    simp only [Machine.graft_nOpCount] at hn₂
    have hE := step_else env (m := { m with stack := s }.graft ⟨f + 1, some f⟩ n₂) (v := m.vfExec)
      (b := false) hv hfalse.symm (by simp only [Machine.graft_nOpCount]; omega) hd
    rw [hskip, Machine.graft_graft, evalOps_cons_of_next hE]
    simp only [Machine.graft_graft, Machine.graft_nOpCount, Bool.not_false, hins]
    refine evalOps_insert_append (c := m.nOpCount + B.length) (d := n₂ + 1 + B.length)
      (by omega) (by omega) ?_ B hB _ k' { m with stack := s } _ rfl (Above.of_all_true hv)
      le_rfl le_rfl hd
    intro k₁ k₁' m₁ n₁ hV hc₁ hn₁ hd₁
    exact hendif true k₁ k₁' m₁ n₁ hV (by omega) (by omega) hd₁

/-- `OP_NOTIF OP_1 OP_IF OP_DUP OP_ENDIF OP_ELSE OP_DROP OP_ENDIF` on `[] [5]`
    ends as `OP_1 OP_IF OP_DUP OP_ENDIF` on `[5]`. -/
theorem ifElse_selects_nested :
    EvalResult.outcome <$> evalOps sampleEnv
        (some (0x64, []) :: [some (0x51, []), some (0x63, []), some (0x76, []), some (0x68, [])] ++
          some (0x67, []) :: [some (0x75, [])] ++ some (0x68, []) :: []) 0
          (.start [[], [5]] emptyContext) =
      EvalResult.outcome <$> evalOps sampleEnv
        ([some (0x51, []), some (0x63, []), some (0x76, []), some (0x68, [])] ++ []) 0
        { Machine.start [[], [5]] emptyContext with stack := [[5]] } :=
  evalOps_ifElse_selects sampleEnv true false _ _ [] (by decide) (by decide) 0 0
    (.start [[], [5]] emptyContext) [[5]] rfl rfl (by decide) (by decide)

end Avm
