import Avm.StateHash

/-! # Finalization of a verification

    `atomicalsconsensus_verify_script_avm` runs the scripts with
    `verify_script_avm` and returns at once unless that returned 1.  It then
    calls `cleanupStateAndBalances`, whose loops erase the entry they stand
    on: a run that leaves an empty keyspace, a zero FT balance or a `false`
    NFT entry ends there in undefined behaviour.  Otherwise it validates the
    final state, copies the outputs, and computes the state hash.  The validation sits in a `try` whose seven handlers catch the
    size-limit classes by reference and turn each into its
    `atomicalsconsensus_error` code.  The battery throws those classes with
    `throw new`, as pointers, and no handler catches a pointer: a final state
    over a cap ends the call with an escaping exception, never with the
    typed code.
-/

namespace Avm

open ScriptStateContext

/-! ## Section 1: the model -/

/-- The handlers of the `try` around `validateFinalStateRestrictions`: each
    catches one size-limit class by reference. -/
def finalValidationHandler : Thrown → Option AtomicalsconsensusError
  | .obj .stateSizeLimit => some .ERR_STATE_SIZE_ERROR
  | .obj .stateUpdateSizeLimit => some .ERR_STATE_UPDATES_SIZE_ERROR
  | .obj .stateDeleteSizeLimit => some .ERR_STATE_DELETES_SIZE_ERROR
  | .obj .ftBalanceSizeLimit => some .ERR_STATE_FT_BALANCES_SIZE_ERROR
  | .obj .ftBalanceUpdateSizeLimit => some .ERR_STATE_FT_BALANCES_UPDATES_SIZE_ERROR
  | .obj .nftBalanceSizeLimit => some .ERR_STATE_NFT_BALANCES_SIZE_ERROR
  | .obj .nftBalanceUpdateSizeLimit => some .ERR_STATE_NFT_BALANCES_UPDATES_SIZE_ERROR
  | _ => none

/-- What the entry point returns and writes when it returns normally. -/
structure Verdict where
  result : Int
  err : AtomicalsconsensusError
  /-- The emitted outcome and the state hash, when they are written. -/
  outcome : Option (StateOutcome × Valtype)
  deriving DecidableEq

/-- `atomicalsconsensus_verify_script_avm` after `verify_script_avm`
    returned 1, on the context the scripts left. -/
def finalizeVerifyScriptAvm (L : StateLimits) (sha256 : Valtype → Valtype)
    (prevStateHash : Valtype) (c : ScriptStateContext) : Except Thrown Verdict :=
  c.cleanupStateAndBalances >>= fun c =>
    match c.validateFinalStateRestrictions L with
    | .error t =>
      match finalValidationHandler t with
      | some e => .ok ⟨0, e, none⟩
      | none => .error t
    | .ok () =>
      let o := StateOutcome.ofContext c
      .ok ⟨1, .ERR_OK, some (o, o.calculateStateHash sha256 prevStateHash)⟩

/-! ## Section 2: what finalization does after a run -/

/-- After any successful run from a context the constructor accepts,
    finalization either reaches the erase inside a cleanup loop, or returns
    1 with the outcome and its hash when no cap is exceeded, and otherwise
    ends with the first exceeded cap's exception escaping as a pointer. -/
theorem finalization_size_errors_escape (L : StateLimits) (sha256 : Valtype → Valtype)
    (prevStateHash : Valtype) (ftState ftStateIncoming : JsonMap UInt64)
    (nftState nftStateIncoming : JsonMap Bool) (contractState : JsonMap (JsonMap String))
    (external : ContractStateExternalStruct) (c₀ : ScriptStateContext)
    (hc₀ : create L ftState ftStateIncoming nftState nftStateIncoming contractState external =
      .ok c₀)
    (ops : List StateOp) (c : ScriptStateContext) (hrun : runOps c₀ ops = some c) :
    (c.cleanupStateAndBalances = .error .undefined ∧
      finalizeVerifyScriptAvm L sha256 prevStateHash c = .error .undefined) ∨
    (c.cleanupStateAndBalances = .ok c ∧
    ∃ n₁ n₂ n₃ n₄ n₅ n₇ n₈ : UInt32,
    performValidateStateRestrictionsState c.contractState = .ok n₁ ∧
    performValidateStateRestrictionsState c.contractStateUpdates = .ok n₂ ∧
    performValidateStateRestrictionsStateDeletes c.contractStateDeletes = .ok n₃ ∧
    performValidateStateRestrictionsTokenFtBalances c.ftState false = .ok n₄ ∧
    performValidateStateRestrictionsTokenFtBalances c.ftBalancesUpdates true = .ok n₅ ∧
    performValidateStateRestrictionsTokenNftBalances c.nftState false = .ok n₇ ∧
    performValidateStateRestrictionsTokenNftBalances c.nftBalancesUpdates true = .ok n₈ ∧
    finalizeVerifyScriptAvm L sha256 prevStateHash c =
      match firstCapViolation L n₁ n₂ n₃ n₄ n₅ n₇ n₈ with
      | some e => .error (.ptr e)
      | none => .ok ⟨1, .ERR_OK, some (StateOutcome.ofContext c,
          (StateOutcome.ofContext c).calculateStateHash sha256 prevStateHash)⟩) := by
  have hfin : finalizeVerifyScriptAvm L sha256 prevStateHash c =
      c.cleanupStateAndBalances >>= _ := rfl
  rw [hfin, cleanupStateAndBalances_eq]
  by_cases hc : c.isClean
  case neg => exact .inl ⟨if_neg hc, by rw [if_neg hc]; rfl⟩
  obtain ⟨n₁, n₂, n₃, n₄, n₅, -, n₇, n₈, -, h₁, h₂, h₃, h₄, h₅, -, h₇, h₈, -, hv⟩ :=
    runOps_finalValidation hc₀ hrun hc
  refine .inr ⟨if_pos hc, _, _, _, _, _, _, _, h₁, h₂, h₃, h₄, h₅, h₇, h₈, ?_⟩
  rw [if_pos hc]
  show (match c.validateFinalStateRestrictions L with | .error t => _ | .ok () => _) = _
  rw [hv]
  cases firstCapViolation L n₁ n₂ n₃ n₄ n₅ n₇ n₈ <;> rfl

/-- Caps small enough for one FT balance to exceed the balances cap. -/
def tinyLimits : StateLimits := ⟨2, 2, 2, 2⟩

/-- Adding one incoming unit of `tokenA` to an empty balance map under
    `tinyLimits`: the run leaves nothing for cleanup to erase, the FT
    balances cap is the first exceeded, and the pointer escapes. -/
theorem finalization_escapes_after_ft_add :
    ∃ c₀ c, create tinyLimits .empty (JsonMap.empty.set tokenA.getHex 1) .empty .empty .empty
        ⟨[], 0⟩ = .ok c₀ ∧
      runOps c₀ [.ftBalanceAdd tokenA] = some c ∧
      ((c.cleanupStateAndBalances = .error .undefined ∧
        finalizeVerifyScriptAvm tinyLimits id [] c = .error .undefined) ∨
      (c.cleanupStateAndBalances = .ok c ∧
      ∃ n₁ n₂ n₃ n₄ n₅ n₇ n₈ : UInt32,
      performValidateStateRestrictionsState c.contractState = .ok n₁ ∧
      performValidateStateRestrictionsState c.contractStateUpdates = .ok n₂ ∧
      performValidateStateRestrictionsStateDeletes c.contractStateDeletes = .ok n₃ ∧
      performValidateStateRestrictionsTokenFtBalances c.ftState false = .ok n₄ ∧
      performValidateStateRestrictionsTokenFtBalances c.ftBalancesUpdates true = .ok n₅ ∧
      performValidateStateRestrictionsTokenNftBalances c.nftState false = .ok n₇ ∧
      performValidateStateRestrictionsTokenNftBalances c.nftBalancesUpdates true = .ok n₈ ∧
      finalizeVerifyScriptAvm tinyLimits id [] c =
        match firstCapViolation tinyLimits n₁ n₂ n₃ n₄ n₅ n₇ n₈ with
        | some e => .error (.ptr e)
        | none => .ok ⟨1, .ERR_OK, some (StateOutcome.ofContext c,
            (StateOutcome.ofContext c).calculateStateHash id [])⟩)) ∧
      c.cleanupStateAndBalances = .ok c ∧
      finalizeVerifyScriptAvm tinyLimits id [] c = .error (.ptr .ftBalanceSizeLimit) :=
  ⟨_, _, rfl, rfl, finalization_size_errors_escape tinyLimits id [] .empty
    (JsonMap.empty.set tokenA.getHex 1) .empty .empty .empty ⟨[], 0⟩ _ rfl [.ftBalanceAdd tokenA]
    _ rfl, rfl, rfl⟩

end Avm
