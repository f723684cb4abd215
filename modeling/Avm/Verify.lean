import Avm.Branches
import Avm.Pushes

/-! # VerifyScriptAvm against one run of the joined scripts

    `VerifyScriptAvm` (interpreter.cpp) runs the unlocking script and the
    locking script as two calls of `EvalScript`, the second on the stack the
    first leaves, and then checks that stack.  The unlocking script must be
    push-only, and a push-only script touches neither the alt stack, the
    condition stack nor the opcode count: the first call leaves the machine
    a fresh call starts from.  So the two calls compose.  `VerifyScriptAvm`
    on a push-only unlocking script `u` and a locking script `l` ends, but for
    the index of its last read, as it does on an empty unlocking script and
    the single script `u ++ l`, while `u ++ l` is within the size cap.

    Section 1 runs the reads of the joined script; Section 2 lifts the run
    to `EvalScript` and `VerifyScriptAvm`.  Section 3 shows that the opcode
    cap of `EvalScript` is never reached: the script size cap bounds the
    number of reads, and it equals the opcode cap.
-/

namespace Avm

/-! ## Section 1: reads -/

/-- The index of the first read numbers the reads and changes nothing else. -/
theorem evalOps_outcome_index (env : Env) (ops : List (Option (UInt8 × Valtype))) (k k' : Nat)
    (m : Machine) :
    EvalResult.outcome <$> evalOps env ops k m = EvalResult.outcome <$> evalOps env ops k' m := by
  induction ops generalizing k k' m with
  | nil => simp only [evalOps]; split <;> rfl
  | cons op ops ih =>
    rcases hs : step env op m with t | ⟨m'⟩ | ⟨b, e, m'⟩
    · rw [evalOps_cons_of_error hs, evalOps_cons_of_error hs]
      cases catchHandlers t <;> rfl
    · rw [evalOps_cons_of_next hs, evalOps_cons_of_next hs]
      exact ih _ _ _
    · rw [evalOps_cons_of_stop hs, evalOps_cons_of_stop hs]
      rfl

/-- Push reads from a machine with no branch open, then any reads: the run
    ends as the push reads alone do when they stop it, and otherwise as the
    other reads from the stack the pushes leave. -/
theorem evalOps_pushReads_append (env : Env) (ops ops' : List (Option (UInt8 × Valtype)))
    (k : Nat) (m : Machine) (hops : ∀ op ∈ ops, IsPushRead op) (hv : m.vfExec = .init) :
    EvalResult.outcome <$> evalOps env (ops ++ ops') k m =
      EvalResult.outcome <$> (evalOps env ops k m >>= fun r =>
        if r.success then evalOps env ops' 0 { m with stack := r.stack } else pure r) := by
  induction ops generalizing k m with
  | nil =>
    have he : m.vfExec.empty = true := by rw [hv]; rfl
    simp only [List.nil_append, evalOps, he, Bool.not_true, Bool.false_eq_true, if_false,
      except_ok_bind, if_true]
    exact evalOps_outcome_index env ops' k 0 m
  | cons op ops ih =>
    obtain _ | ⟨opcode, data⟩ := op
    · exact absurd (hops none (List.mem_cons_self _ _)) id
    have hop : opcode ≤ OP_16 := hops _ (List.mem_cons_self _ _)
    rw [List.cons_append]
    rcases step_pushRead env data hop hv with ⟨e, m', h, -, -⟩ | h
    · rw [evalOps_cons_of_stop h, evalOps_cons_of_stop h]
      rfl
    · rw [evalOps_cons_of_next h, evalOps_cons_of_next h]
      exact ih (k + 1) _ (fun op h => hops op (List.mem_cons_of_mem _ h)) hv

/-! ## Section 2: scripts -/

/-- `EvalScript` on a push-only script followed by any script ends as the
    two calls of `VerifyScriptAvm` do: the push-only script alone when it
    fails, and otherwise the second script on the stack and state context
    the first leaves. -/
theorem evalScript_pushOnly_append (env : Env) (stack : List Valtype) (u l : Valtype)
    (σ : ScriptStateContext) (hu : isPushOnly u = true) (hsize : (u ++ l).length ≤ MAX_SCRIPT_SIZE) :
    EvalResult.outcome <$> evalScript env stack (u ++ l) σ =
      EvalResult.outcome <$> (evalScript env stack u σ >>= fun r =>
        if r.success then evalScript env r.stack l r.stateContext else pure r) := by
  have hu' := (isPushOnly_iff u).mp hu
  have hl : (u ++ l).length = u.length + l.length := List.length_append u l
  have hmax : MAX_SCRIPT_SIZE < 2 ^ 32 := by decide
  rw [evalScript, evalScript, if_neg (by omega), if_neg (by omega),
    scriptOps_append l (fun h => hu' none h) (by omega),
    evalOps_pushReads_append env _ _ 0 _ hu' rfl]
  obtain ⟨r, hr, hσ, -⟩ := evalOps_pushReads env (scriptOps u) 0 (.start stack σ) hu' rfl
  rw [hr]
  show EvalResult.outcome <$> (if r.success then _ else _) =
    EvalResult.outcome <$> (if r.success then _ else _)
  split
  · rw [evalScript, if_neg (by omega), hσ]
    rfl
  · rfl

/-- A stage after a run that reads the run's result through its outcome
    alone ends alike after two runs with one outcome. -/
theorem outcome_bind_congr {X Y : Except Thrown EvalResult}
    {F : EvalResult → Except Thrown EvalResult}
    (hXY : EvalResult.outcome <$> X = EvalResult.outcome <$> Y)
    (hF : ∀ r r', r.outcome = r'.outcome → EvalResult.outcome <$> F r = EvalResult.outcome <$> F r') :
    EvalResult.outcome <$> (X >>= F) = EvalResult.outcome <$> (Y >>= F) := by
  rcases X with t | r <;> rcases Y with t' | r'
  · cases hXY; rfl
  · cases hXY
  · cases hXY
  · exact hF r r' (Except.ok.inj hXY)

/-- `VerifyScriptAvm` on a push-only unlocking script `u` and a locking
    script `l` ends, but for the index of the last read, as it does on an
    empty unlocking script and the single script `u ++ l`, while that script
    is within the size cap: the two calls of `EvalScript` compose. -/
theorem verifyScriptAvm_pushOnly_joined (env : Env) (u l : Valtype) (σ : ScriptStateContext)
    (hu : isPushOnly u = true) (hsize : (u ++ l).length ≤ MAX_SCRIPT_SIZE) :
    EvalResult.outcome <$> verifyScriptAvm env u l σ =
      EvalResult.outcome <$> verifyScriptAvm env [] (u ++ l) σ := by
  have hnil : evalScript env [] [] σ = .ok ⟨true, .OK, 0, [], σ⟩ := by
    simp [evalScript, evalOps, Machine.start, ConditionStack.init, ConditionStack.empty]
  have hp : isPushOnly [] = true := by simp [isPushOnly]
  unfold verifyScriptAvm
  simp only [hu, hp, hnil, Bool.not_true, Bool.false_eq_true, if_false, except_ok_bind, pure_bind]
  symm
  refine (outcome_bind_congr (evalScript_pushOnly_append env [] u l σ hu hsize) ?_).trans ?_
  · rintro ⟨s, e, k, st, c⟩ ⟨s', e', k', st', c'⟩ h
    simp only [EvalResult.outcome, Prod.mk.injEq] at h
    obtain ⟨rfl, rfl, rfl, rfl⟩ := h
    cases s
    · rfl
    rcases st with _ | ⟨top, rest⟩
    · rfl
    simp only [Bool.not_true, Bool.false_eq_true, if_false]
    split <;> (try split) <;> rfl
  · rw [bind_assoc]
    congr 2
    funext r
    rcases r with ⟨_ | _, e, k, st, c⟩ <;> rfl

/-- `OP_2 OP_3` unlocking `OP_ADD OP_5 OP_EQUAL`. -/
theorem verifyScriptAvm_add_joined :
    EvalResult.outcome <$> verifyScriptAvm sampleEnv [0x52, 0x53] [0x93, 0x55, 0x87] emptyContext =
      EvalResult.outcome <$>
        verifyScriptAvm sampleEnv [] ([0x52, 0x53] ++ [0x93, 0x55, 0x87]) emptyContext :=
  verifyScriptAvm_pushOnly_joined sampleEnv [0x52, 0x53] [0x93, 0x55, 0x87] emptyContext
    (by rw [isPushOnly, scriptOps_cons_of_gt (by decide), scriptOps_cons_of_gt (by decide),
      scriptOps_nil]; rfl)
    (by decide)

/-! ## Section 3: the opcode cap -/

/-- Every machine the loop passes through has counted at most one opcode per
    read it took. -/
theorem evalTrace_nOpCount_le (env : Env) (ops : List (Option (UInt8 × Valtype))) (m : Machine)
    (hm : m.nOpCount + ops.length ≤ MAX_OPS_PER_SCRIPT) :
    ∀ m' ∈ evalTrace env ops m, m'.nOpCount ≤ m.nOpCount + ops.length := by
  induction ops generalizing m with
  | nil => simp [evalTrace]
  | cons op ops ih =>
    rw [List.length_cons] at hm ⊢
    intro m' hm'
    rw [evalTrace] at hm'
    rcases List.mem_cons.mp hm' with rfl | hm'
    · omega
    rcases hs : step env op m with t | ⟨m''⟩ | ⟨b, e, m''⟩ <;> rw [hs] at hm'
    · cases hm'
    · have hc : m''.nOpCount ≤ m.nOpCount + 1 := step_nOpCount_le (by omega) hs
      have := ih m'' (by omega) m' hm'
      omega
    · have hc : m''.nOpCount ≤ m.nOpCount + 1 := step_nOpCount_le (by omega) hs
      rw [List.mem_singleton.mp hm']
      omega

/-- The opcode cap is never reached.  On every script within the size cap,
    every machine the loop of `EvalScript` passes through, the one it stops
    on included, has counted at most `MAX_OPS_PER_SCRIPT` opcodes: a read
    takes at least one byte of the script, and the two caps are equal.  The
    check `++nOpCount > MAX_OPS_PER_SCRIPT` stops on a machine over the cap,
    so it never fails. -/
theorem evalScript_nOpCount_within (env : Env) (stack : List Valtype) (script : Valtype)
    (σ : ScriptStateContext) (hs : script.length ≤ MAX_SCRIPT_SIZE) :
    ∀ m ∈ evalTrace env (scriptOps script) (.start stack σ), m.nOpCount ≤ MAX_OPS_PER_SCRIPT := by
  have hreads := length_scriptOps_le script
  have hcap : MAX_SCRIPT_SIZE = MAX_OPS_PER_SCRIPT := rfl
  intro m hm
  calc m.nOpCount ≤ 0 + (scriptOps script).length :=
        evalTrace_nOpCount_le env _ (.start stack σ) (show 0 + _ ≤ _ by omega) m hm
    _ ≤ MAX_OPS_PER_SCRIPT := by omega

/-- The machines of a run of `OP_1 OP_DUP OP_ADD`. -/
theorem nOpCount_within_dup_add :
    (3 : Nat) ≤ MAX_SCRIPT_SIZE ∧
      ∀ m ∈ evalTrace sampleEnv (scriptOps [0x51, 0x76, 0x93]) (.start [] emptyContext),
        m.nOpCount ≤ MAX_OPS_PER_SCRIPT :=
  ⟨by decide, evalScript_nOpCount_within sampleEnv [] [0x51, 0x76, 0x93] emptyContext (by decide)⟩

end Avm
