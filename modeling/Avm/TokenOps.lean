import Avm.Withdraw

/-! # The token opcodes

    What `OP_FT_WITHDRAW` and `OP_NFT_WITHDRAW` do on every input, read off
    interpreter.cpp.  Both read their numeric operands with
    `CScriptNum(vch, maxIntegerSize).getint()`, which saturates the value to
    `int`: an amount or an index outside `[-2^31, 2^31 - 1]` is replaced by
    the nearest bound before it is checked and recorded.
-/

namespace Avm

open ScriptStateContext

/-! ## Section 1: the FT state method -/

theorem lt_iff_toNat_lt_uint64 {a b : UInt64} : a < b ↔ a.toNat < b.toNat := Iff.rfl

theorem le_iff_toNat_le_uint64 {a b : UInt64} : a ≤ b ↔ a.toNat ≤ b.toNat := Iff.rfl

variable {c : ScriptStateContext}

theorem contractWithdrawFt_of_le {ftId : Uint288} {index : UInt32} {amount b : UInt64}
    (hpos : ¬amount ≤ 0) (hb : c.ftState.find? ftId.getHex = some b) (hle : amount ≤ b) :
    c.contractWithdrawFt ftId index amount = (true, { c with
      ftState := if b - amount = 0 then c.ftState.erase ftId.getHex
        else c.ftState.set ftId.getHex (b - amount)
      ftBalancesUpdates := c.ftBalancesUpdates.set ftId.getHex (b - amount)
      ftWithdrawMap := mapModify (mapInsert c.ftWithdrawMap ftId []) ftId
        (fun outputs => mapInsert outputs index amount) }) := by
  simp only [contractWithdrawFt, hpos, hb, if_false, UInt64.not_lt.mpr hle]

theorem contractWithdrawFt_of_lt {ftId : Uint288} {index : UInt32} {amount b : UInt64}
    (hb : c.ftState.find? ftId.getHex = some b) (hlt : b < amount) :
    c.contractWithdrawFt ftId index amount = (false, c) := by
  unfold contractWithdrawFt
  split_ifs
  · rfl
  · simp only [hb, gt_iff_lt, hlt, if_true]

/-! ## Section 2: `OP_FT_WITHDRAW` -/

/-- `OP_FT_WITHDRAW` on the stack `id :: i :: a :: rest` (the id on top),
    with a 36-byte id, numeric operands, and an index naming an output of
    the transaction, on a state holding `b` of the id.  The amount it checks
    and debits is `getint a`: it fails with `INVALID_AVM_WITHDRAW_FT_AMOUNT`
    unless `0 < getint a ≤ nValue`, fails with `INVALID_AVM_WITHDRAW_FT`
    when `getint a > b`, both leaving the machine as it was, and otherwise
    pops the operands and debits `getint a`. -/
theorem execOpcode_ftWithdraw {env : Env} {ctx : ScriptExecutionContext}
    (hctx : env.context = some ctx) (fExec : Bool) {m : Machine} {id i a : Valtype}
    {rest : List Valtype} (hstack : m.stack = id :: i :: a :: rest) (hid : id.length = 36)
    {ni na : CScriptNum} (hi : num i = .ok ni) (ha : num a = .ok na) (hidx : 0 ≤ ni.getint)
    {out : CTxOut} (hout : ctx.tx.vout.get? ni.getint.toNat = some out) {b : UInt64}
    (hb : m.stateContext.ftState.find? (atomref id hid).getHex = some b) :
    execOpcode env fExec .OP_FT_WITHDRAW m =
      if na.getint ≤ 0 ∨ na.getint > out.nValue then fail .INVALID_AVM_WITHDRAW_FT_AMOUNT m
      else if na.getint > b.toNat then fail .INVALID_AVM_WITHDRAW_FT m
      else .ok (.next { m with stack := rest, stateContext :=
        (m.stateContext.contractWithdrawFt (atomref id hid) (castUInt32 ni.getint)
          (castUInt64 na.getint)).2 }) := by
  have hlt : ni.getint.toNat < ctx.tx.vout.length := by
    rw [List.get?_eq_getElem?] at hout
    exact (List.getElem?_eq_some_iff.mp hout).1
  have hrange : ¬(ni.getint < 0 ∨ ni.getint ≥ ctx.tx.vout.length) := by omega
  obtain ⟨stack, altstack, vfExec, nOpCount, sc⟩ := m
  dsimp only at hstack hb ⊢
  subst hstack
  delta execOpcode
  simp only [execAvmTernary, hctx, hid, hi, ha, hout, hrange, ne_eq, not_true_eq_false,
    dite_false, except_ok_bind, if_false, Option.map_some', Option.getD_some]
  by_cases hamt : na.getint ≤ 0 ∨ na.getint > out.nValue
  · simp only [hamt, if_true]
  have hpos : 0 < na.getint := by omega
  have hcast := toNat_castUInt64 hpos.le (by have := na.getint_le; omega)
  simp only [hamt, if_false]
  by_cases hbal : na.getint > b.toNat
  · rw [contractWithdrawFt_of_lt hb (lt_iff_toNat_lt_uint64.mpr (by omega))]
    simp only [hbal, if_true]
    rfl
  · have hpos' : ¬castUInt64 na.getint ≤ 0 := by
      rw [UInt64.not_le, lt_iff_toNat_lt_uint64]; simp only [UInt64.toNat_zero]; omega
    rw [contractWithdrawFt_of_le hpos' hb (le_iff_toNat_le_uint64.mpr (by omega))]
    simp only [hbal, if_false]
    rfl

/-! ## Section 3: an amount above `int` -/

/-- `OP_FT_WITHDRAW` of the amount `2^31` (minimally `00 00 00 80 00`) of
    `tokenA` to output 0, on a state holding `2^31 - 1` of `tokenA`. -/
def withdrawStart : Machine :=
  .start [tokenA.bytes, [], [0, 0, 0, 0x80, 0]]
    (ofInputs (JsonMap.empty.set tokenA.getHex (2 ^ 31 - 1)) .empty .empty .empty .empty ⟨[], 0⟩)

/-- The amount `2^31` exceeds both the output's value and the balance, yet
    the withdrawal succeeds: `getint` saturates it to `2^31 - 1`, which is
    debited, emptying the balance, and recorded. -/
theorem ftWithdraw_saturated_amount :
    ∃ m', execOpcode withdrawEnv true .OP_FT_WITHDRAW withdrawStart = .ok (.next m') ∧
      m'.stack = [] ∧ m'.stateContext.ftState.find? tokenA.getHex = none ∧
      m'.stateContext.ftWithdrawMap = [(tokenA, [(0, 2 ^ 31 - 1)])] := by
  rw [@execOpcode_ftWithdraw withdrawEnv withdrawContext rfl true withdrawStart tokenA.bytes []
    [0, 0, 0, 0x80, 0] [] rfl tokenA.size_eq (.big 0) (.big (2 ^ 31)) rfl (by rfl) (by decide)
    ⟨2 ^ 31 - 1, []⟩ rfl (2 ^ 31 - 1) rfl]
  exact ⟨_, rfl, rfl, rfl, rfl⟩

/-! ## Section 4: `OP_NFT_WITHDRAW` -/

/-- A number read from 36 bytes is outside `int`. -/
theorem two_pow_31_le_natAbs_of_length {s : Valtype} {n : CScriptNum}
    (hn : num s = .ok n) (hlen : s.length = 36) : 2 ^ 31 ≤ n.value.natAbs := by
  by_contra hlt
  have := @CScriptNum.length_getvch_le n 3 (by omega)
  rw [CScriptNum.getvch_ofSpan hn] at this
  omega

/-- `OP_NFT_WITHDRAW` never completes.  It checks the size of its output
    index operand `stacktop(-2)` against 36, the size of a token id, and reads
    the index from that same operand: an index of any other size stops the
    opcode with `INVALID_ATOMICAL_REF_SIZE`, and a 36-byte number saturates
    under `getint` to `-2^31` or `2^31 - 1`, outside the outputs of any
    transaction with at most `INT32_MAX` of them.  Every turn it finishes
    stops with an error on the machine it started from. -/
theorem nftWithdraw_never_succeeds (env : Env) (ctx : ScriptExecutionContext)
    (hctx : env.context = some ctx) (hvout : ctx.tx.vout.length ≤ INT32_MAX) (fExec : Bool)
    (m : Machine) (r : StepResult) (h : execOpcode env fExec .OP_NFT_WITHDRAW m = .ok r) :
    ∃ e, r = .stop false e m := by
  delta execOpcode at h
  dsimp only [execAvmBinary] at h
  rw [hctx] at h
  dsimp only at h
  split at h
  · split at h
    · exact ⟨_, fail_eq_ok.mp h⟩
    next hlen =>
    obtain ⟨n, hn, h⟩ := except_bind_eq_ok.mp h
    have hbig := two_pow_31_le_natAbs_of_length hn (not_not.mp hlen)
    have hout : n.getint < 0 ∨ n.getint ≥ ctx.tx.vout.length := by
      unfold CScriptNum.getint; unfold INT32_MAX at hvout; omega
    rw [if_pos hout] at h
    exact ⟨_, fail_eq_ok.mp h⟩
  · exact ⟨_, fail_eq_ok.mp h⟩

/-- The context of a transaction with one output. -/
def nftContext : ScriptExecutionContext := ⟨⟨2, [], [⟨1, []⟩], 0⟩, [], []⟩

/-- `OP_NFT_WITHDRAW` of `tokenA`, held in the NFT state, to output 0: the
    index `0` (the empty byte string) under the id, in the spec's order. -/
def nftWithdrawStart : Machine :=
  .start [tokenA.bytes, []]
    (ofInputs .empty .empty (JsonMap.empty.set tokenA.getHex true) .empty .empty ⟨[], 0⟩)

/-- Withdrawing a held NFT to an existing output fails: the index operand is
    not 36 bytes long. -/
theorem nftWithdraw_index_zero_fails :
    execOpcode { sampleEnv with context := some nftContext } true .OP_NFT_WITHDRAW
        nftWithdrawStart = fail .INVALID_ATOMICAL_REF_SIZE nftWithdrawStart ∧
      ∃ e, (StepResult.stop false .INVALID_ATOMICAL_REF_SIZE nftWithdrawStart) =
        .stop false e nftWithdrawStart :=
  have h : execOpcode { sampleEnv with context := some nftContext } true .OP_NFT_WITHDRAW
      nftWithdrawStart = fail .INVALID_ATOMICAL_REF_SIZE nftWithdrawStart := rfl
  ⟨h, nftWithdraw_never_succeeds _ nftContext rfl (by decide) true _ _ h⟩

end Avm
