import Avm.Frame

/-! # Withdrawals are payable

    `OP_FT_WITHDRAW` checks the output index and the amount against the
    spending transaction before `contractWithdrawFt` records the withdrawal,
    and `OP_NFT_WITHDRAW` checks the index before `contractWithdrawNft`.  So
    every recorded withdrawal names an output of the transaction, and every
    FT amount is positive and at most that output's value.  Both maps are
    written with `std::map::insert`, which keeps what was recorded before, and
    no other opcode writes them (`execOpcode_frame`).  The emitted maps are
    encoded from them.
-/

namespace Avm

open ScriptStateContext

/-! ## Section 1: the invariant -/

/-- A withdrawal of `amount` to output `index` that `tx` can pay. -/
def PayableFt (tx : CTransactionView) (index : UInt32) (amount : UInt64) : Prop :=
  ∃ out, tx.vout.get? index.toNat = some out ∧ 0 < amount.toNat ∧
    (amount.toNat : Int) ≤ out.nValue

/-- Every recorded withdrawal names an output of `tx`, and every FT amount
    is positive and at most that output's value. -/
structure WithdrawsPayable (tx : CTransactionView) (c : ScriptStateContext) : Prop where
  ft : ∀ e ∈ c.ftWithdrawMap, ∀ p ∈ e.2, PayableFt tx p.1 p.2
  nft : ∀ e ∈ c.nftWithdrawMap, e.2.toNat < tx.vout.length

variable {tx : CTransactionView} {c : ScriptStateContext}

theorem WithdrawsPayable.of_eq {c' : ScriptStateContext} (hc : WithdrawsPayable tx c)
    (hft : c'.ftWithdrawMap = c.ftWithdrawMap) (hnft : c'.nftWithdrawMap = c.nftWithdrawMap) :
    WithdrawsPayable tx c' :=
  ⟨hft ▸ hc.ft, hnft ▸ hc.nft⟩

theorem mem_mapInsert {κ ν : Type} [DecidableEq κ] {m : List (κ × ν)} {k : κ} {v : ν} {e : κ × ν}
    (h : e ∈ mapInsert m k v) : e ∈ m ∨ e = (k, v) := by
  unfold mapInsert at h
  split at h
  · exact .inl h
  · simpa only [List.mem_append, List.mem_singleton] using h

theorem mem_mapModify {κ ν : Type} [DecidableEq κ] {m : List (κ × ν)} {k : κ} {f : ν → ν}
    {e : κ × ν} (h : e ∈ mapModify m k f) : e ∈ m ∨ ∃ e₀ ∈ m, e = (e₀.1, f e₀.2) := by
  obtain ⟨e₀, he₀, rfl⟩ := List.mem_map.mp h
  split
  · exact .inr ⟨e₀, he₀, rfl⟩
  · exact .inl he₀

/-! ## Section 2: the state methods -/

/-- The FT withdraw map after one more payable withdrawal: `insert` keeps
    the outputs already recorded. -/
theorem ftWithdrawMap_insert_payable (hc : WithdrawsPayable tx c) (ftId : Uint288)
    {index : UInt32} {amount : UInt64} (hp : PayableFt tx index amount) :
    ∀ e ∈ mapModify (mapInsert c.ftWithdrawMap ftId []) ftId
      (fun outputs => mapInsert outputs index amount), ∀ p ∈ e.2, PayableFt tx p.1 p.2 := by
  intro e he p hpe
  rcases mem_mapModify he with he | ⟨e₀, he₀, rfl⟩
  · rcases mem_mapInsert he with he | rfl
    · exact hc.ft e he p hpe
    · cases hpe
  · rcases mem_mapInsert hpe with hpe | rfl
    · rcases mem_mapInsert he₀ with he₀ | rfl
      · exact hc.ft e₀ he₀ p hpe
      · cases hpe
    · exact hp

theorem contractWithdrawFt_payable (hc : WithdrawsPayable tx c) (ftId : Uint288) {index : UInt32}
    {amount : UInt64} (hp : PayableFt tx index amount) :
    WithdrawsPayable tx (c.contractWithdrawFt ftId index amount).2 := by
  unfold contractWithdrawFt
  dsimp only
  split_ifs
  · exact hc
  split
  · exact hc
  split_ifs
  · exact hc
  all_goals exact ⟨ftWithdrawMap_insert_payable hc ftId hp, hc.nft⟩

theorem contractWithdrawNft_payable (hc : WithdrawsPayable tx c) (nftId : Uint288)
    {index : UInt32} (hi : index.toNat < tx.vout.length) :
    WithdrawsPayable tx (c.contractWithdrawNft nftId index).2 := by
  unfold contractWithdrawNft
  dsimp only
  split_ifs
  · exact hc
  refine ⟨hc.ft, fun e he => ?_⟩
  rcases mem_mapInsert he with he | rfl
  · exact hc.nft e he
  · exact hi

theorem contractFtBalanceAdd_payable (hc : WithdrawsPayable tx c) (ftId : Uint288) :
    WithdrawsPayable tx (c.contractFtBalanceAdd ftId).2 := by
  unfold contractFtBalanceAdd performFtBalanceAdd
  dsimp only
  repeat' split
  all_goals exact hc.of_eq rfl rfl

theorem contractNftPut_payable (hc : WithdrawsPayable tx c) {nftId : Uint288} {ok : Bool}
    {c' : ScriptStateContext} (h : c.contractNftPut nftId = .ok (ok, c')) :
    WithdrawsPayable tx c' := by
  unfold contractNftPut performNftPut at h
  dsimp only at h
  repeat' split at h
  all_goals cases h
  all_goals exact hc.of_eq rfl rfl

/-! ## Section 3: the checks of the two withdraw opcodes -/

theorem toNat_castUInt32 {i : Int} (h0 : 0 ≤ i) (h1 : i < 2 ^ 32) :
    (castUInt32 i).toNat = i.toNat := by
  rw [castUInt32, Int.emod_eq_of_lt h0 h1, UInt32.toNat_ofNat_of_lt (by unfold UInt32.size; omega)]

theorem toNat_castUInt64 {i : Int} (h0 : 0 ≤ i) (h1 : i < 2 ^ 64) :
    (castUInt64 i).toNat = i.toNat := by
  rw [castUInt64, Int.emod_eq_of_lt h0 h1, UInt64.toNat_ofNat_of_lt (by unfold UInt64.size; omega)]

/-- The index check of the withdraw opcodes names an output. -/
theorem lt_length_of_index_check {index : Int} (hidx : ¬(index < 0 ∨ index ≥ tx.vout.length))
    (hi : index ≤ INT32_MAX) : (castUInt32 index).toNat < tx.vout.length := by
  have : (castUInt32 index).toNat = index.toNat :=
    toNat_castUInt32 (by omega) (by unfold INT32_MAX at hi; omega)
  omega

/-- The index and amount checks of `OP_FT_WITHDRAW` make the withdrawal
    payable. -/
theorem payableFt_of_checks {index amount : Int} (hidx : ¬(index < 0 ∨ index ≥ tx.vout.length))
    (hamt : ¬(amount ≤ 0 ∨ amount > ((tx.vout.get? index.toNat).map (·.nValue)).getD 0))
    (hi : index ≤ INT32_MAX) (ha : amount ≤ INT32_MAX) :
    PayableFt tx (castUInt32 index) (castUInt64 amount) := by
  unfold INT32_MAX at hi ha
  have hidx' : index.toNat < tx.vout.length := by omega
  rw [List.get?_eq_getElem?, List.getElem?_eq_getElem hidx'] at hamt
  have hamt' : 0 < amount ∧ amount ≤ tx.vout[index.toNat].nValue := by
    simpa only [not_or, not_le, not_lt, Option.map_some', Option.getD_some] using hamt
  refine ⟨tx.vout[index.toNat], ?_, ?_, ?_⟩
  · rw [toNat_castUInt32 (by omega) (by omega), List.get?_eq_getElem?,
      List.getElem?_eq_getElem hidx']
  · rw [toNat_castUInt64 (by omega) (by omega)]; omega
  · rw [toNat_castUInt64 (by omega) (by omega)]; omega

/-! ## Section 4: the opcodes -/

theorem Opcode.eq_of_writesState {o : Opcode} (h : o.writesState = true) :
    o = .OP_FT_BALANCE_ADD ∨ o = .OP_NFT_PUT ∨ o = .OP_KV_PUT ∨ o = .OP_KV_DELETE ∨
      o = .OP_FT_WITHDRAW ∨ o = .OP_NFT_WITHDRAW := by
  cases o <;> first | (cases h; done) | simp

section Opcodes

variable {env : Env} {ctx : ScriptExecutionContext} {m : Machine} {r : StepResult}

/-- Every arm of the switch keeps the recorded withdrawals payable by the
    transaction of the context. -/
theorem execOpcode_payable (hctx : env.context = some ctx)
    (hm : WithdrawsPayable ctx.tx m.stateContext) {fExec : Bool} {o : Opcode}
    (h : execOpcode env fExec o m = .ok r) : WithdrawsPayable ctx.tx r.machine.stateContext := by
  cases hw : o.writesState
  · rw [(execOpcode_frame h).stateContext hw]; exact hm
  rcases Opcode.eq_of_writesState hw with rfl | rfl | rfl | rfl | rfl | rfl <;>
    delta execOpcode at h <;> dsimp only [execAvmUnary, execAvmBinary, execAvmTernary] at h <;>
    rw [hctx] at h <;> dsimp only at h
  case inl =>
    split at h
    · cases h; exact hm
    split at h
    · cases h; exact hm
    split at h <;> cases h <;> exact contractFtBalanceAdd_payable hm _
  case inr.inl =>
    split at h
    · cases h; exact hm
    split at h
    · cases h; exact hm
    obtain ⟨⟨ok, sc'⟩, hput, h⟩ := except_bind_eq_ok.mp h
    have hc := contractNftPut_payable hm hput
    split at h <;> cases h <;> exact hc
  case inr.inr.inl =>
    split at h
    · split at h
      · cases h; exact hm
      split at h
      · cases h; exact hm
      · cases h; exact hm.of_eq rfl rfl
    · cases h; exact hm
  case inr.inr.inr.inl =>
    split at h
    · cases h; exact hm.of_eq rfl rfl
    · cases h; exact hm
  case inr.inr.inr.inr.inl =>
    split at h
    · split at h
      · cases h; exact hm
      obtain ⟨i, -, h⟩ := except_bind_eq_ok.mp h
      split at h
      · cases h; exact hm
      next hidx =>
      obtain ⟨a, -, h⟩ := except_bind_eq_ok.mp h
      split at h
      · cases h; exact hm
      next hamt =>
      have hp := payableFt_of_checks hidx hamt i.getint_le a.getint_le
      split at h <;> cases h <;> exact contractWithdrawFt_payable hm _ hp
    · cases h; exact hm
  case inr.inr.inr.inr.inr =>
    split at h
    · split at h
      · cases h; exact hm
      obtain ⟨i, -, h⟩ := except_bind_eq_ok.mp h
      split at h
      · cases h; exact hm
      next hidx =>
      obtain ⟨id, -, h⟩ := except_bind_eq_ok.mp h
      have hc := contractWithdrawNft_payable hm id (lt_length_of_index_check hidx i.getint_le)
      split at h <;> cases h <;> exact hc
    · cases h; exact hm

/-! ## Section 5: runs -/

theorem step_payable (hctx : env.context = some ctx) {op : Option (UInt8 × Valtype)}
    (hm : WithdrawsPayable ctx.tx m.stateContext) (h : step env op m = .ok r) :
    WithdrawsPayable ctx.tx r.machine.stateContext :=
  @step_keeps env (fun m => WithdrawsPayable ctx.tx m.stateContext)
    (fun opcode m hm => by simpa only [countOp_stateContext] using hm) (fun _ _ hm => hm)
    (fun _ _ _ _ hm h => execOpcode_payable hctx hm h) op m r hm h

theorem evalScript_payable (hctx : env.context = some ctx) {stack : List Valtype}
    {script : Valtype} {sc : ScriptStateContext} {res : EvalResult}
    (hsc : WithdrawsPayable ctx.tx sc) (h : evalScript env stack script sc = .ok res) :
    WithdrawsPayable ctx.tx res.stateContext := by
  unfold evalScript at h
  split at h
  · cases h; exact hsc
  · obtain ⟨m', hm', -, hres⟩ := evalOps_mem_evalTrace h
    rw [hres]
    exact @evalTrace_keeps env (fun m => WithdrawsPayable ctx.tx m.stateContext)
      (fun _ _ _ hm h => step_payable hctx hm h) _ _ hsc m' hm'

theorem verifyScriptAvm_payable (hctx : env.context = some ctx) {scriptSig scriptPubKey : Valtype}
    {sc : ScriptStateContext} {res : EvalResult} (hsc : WithdrawsPayable ctx.tx sc)
    (h : verifyScriptAvm env scriptSig scriptPubKey sc = .ok res) :
    WithdrawsPayable ctx.tx res.stateContext := by
  unfold verifyScriptAvm at h
  simp only [pure_bind] at h
  split at h
  · cases h; exact hsc
  obtain ⟨r₁, h₁, h⟩ := except_bind_eq_ok.mp h
  have hr₁ := evalScript_payable hctx hsc h₁
  split at h
  · cases h; exact hr₁
  obtain ⟨r₂, h₂, h⟩ := except_bind_eq_ok.mp h
  have hr₂ := evalScript_payable hctx hr₁ h₂
  repeat' split at h
  all_goals (cases h; exact hr₂)

end Opcodes

/-! ## Section 6: the emitted maps -/

/-- An entry of the emitted FT withdrawals comes from a recorded withdrawal:
    the keyspace is the id and the key the output index. -/
theorem kvLookup_encodeFtWithdrawMap {c : ScriptStateContext} {k s : String} {amt : UInt64}
    (h : kvLookup c.encodeFtWithdrawMap k s = some amt) :
    ∃ e ∈ c.ftWithdrawMap, ∃ p ∈ e.2, k = e.1.getHex ∧ s = toString p.1.toNat ∧ amt = p.2 := by
  have inner : ∀ (id : Uint288) (ps : List (UInt32 × UInt64)) (acc : JsonMap (JsonMap UInt64)),
      kvLookup (ps.foldl (fun acc o => withKeyspace acc id.getHex
        (·.set (toString o.1.toNat) o.2)) acc) k s = some amt →
      kvLookup acc k s = some amt ∨
        ∃ p ∈ ps, k = id.getHex ∧ s = toString p.1.toNat ∧ amt = p.2 := by
    intro id ps
    induction ps with
    | nil => exact fun _ h => .inl h
    | cons p ps ih =>
      intro acc h
      rcases ih _ h with h | ⟨q, hq, hk⟩
      · rw [kvLookup_withKeyspace_set] at h
        split_ifs at h with hks
        · exact .inr ⟨p, List.mem_cons_self _ _, hks.1, hks.2, (Option.some.inj h).symm⟩
        · exact .inl h
      · exact .inr ⟨q, List.mem_cons_of_mem _ hq, hk⟩
  suffices ∀ (l : List (Uint288 × List (UInt32 × UInt64))) (acc : JsonMap (JsonMap UInt64)),
      kvLookup (l.foldl (fun acc e => e.2.foldl (fun acc o =>
        withKeyspace acc e.1.getHex (·.set (toString o.1.toNat) o.2)) acc) acc) k s = some amt →
      kvLookup acc k s = some amt ∨
        ∃ e ∈ l, ∃ p ∈ e.2, k = e.1.getHex ∧ s = toString p.1.toNat ∧ amt = p.2 from
    (this _ _ h).resolve_left nofun
  intro l
  induction l with
  | nil => exact fun _ h => .inl h
  | cons e l ih =>
    intro acc h
    rcases ih _ h with h | ⟨e', he', hk⟩
    · rcases inner e.1 e.2 acc h with h | ⟨p, hp, hk⟩
      · exact .inl h
      · exact .inr ⟨e, List.mem_cons_self _ _, p, hp, hk⟩
    · exact .inr ⟨e', List.mem_cons_of_mem _ he', hk⟩

/-- An entry of the emitted NFT withdrawals comes from a recorded one. -/
theorem find?_encodeNftWithdrawMap {c : ScriptStateContext} {k : String} {out : UInt32}
    (h : c.encodeNftWithdrawMap.find? k = some out) :
    ∃ e ∈ c.nftWithdrawMap, k = e.1.getHex ∧ out = e.2 := by
  suffices ∀ (l : List (Uint288 × UInt32)) (acc : JsonMap UInt32),
      (l.foldl (fun acc e => acc.set e.1.getHex e.2) acc).find? k = some out →
      acc.find? k = some out ∨ ∃ e ∈ l, k = e.1.getHex ∧ out = e.2 from
    (this _ _ h).resolve_left nofun
  intro l
  induction l with
  | nil => exact fun _ h => .inl h
  | cons e l ih =>
    intro acc h
    rcases ih _ h with h | ⟨e', he', hk⟩
    · rw [JsonMap.find?_set] at h
      split_ifs at h with hk
      · exact .inr ⟨e, List.mem_cons_self _ _, hk, (Option.some.inj h).symm⟩
      · exact .inl h
    · exact .inr ⟨e', List.mem_cons_of_mem _ he', hk⟩

/-- Every withdrawal a verification emits is payable by its output.  From a
    context with no withdrawal recorded, whatever the two scripts and whether
    or not they succeed, when cleanup returns a context `f`, each entry
    `(id, o, amt)` of the FT withdrawals emitted from `f` names an output `o`
    of the spending transaction with `0 < amt ≤ nValue`, and each entry
    `(id, o)` of the emitted NFT withdrawals names an output. -/
theorem withdrawals_payable (env : Env) (ctx : ScriptExecutionContext)
    (hctx : env.context = some ctx) (scriptSig scriptPubKey : Valtype) (sc : ScriptStateContext)
    (hsc : sc.ftWithdrawMap = [] ∧ sc.nftWithdrawMap = []) (res : EvalResult)
    (h : verifyScriptAvm env scriptSig scriptPubKey sc = .ok res) (f : ScriptStateContext)
    (hf : res.stateContext.cleanupStateAndBalances = .ok f) :
    let o := StateOutcome.ofContext f
    (∀ k s amt, kvLookup o.ftWithdraws k s = some amt →
      ∃ out : UInt32, s = toString out.toNat ∧ ∃ txout, ctx.tx.vout.get? out.toNat = some txout ∧
        0 < amt.toNat ∧ (amt.toNat : Int) ≤ txout.nValue) ∧
    ∀ k out, o.nftWithdraws.find? k = some out → out.toNat < ctx.tx.vout.length := by
  have h₀ : WithdrawsPayable ctx.tx sc :=
    ⟨fun e he => (by rw [hsc.1] at he; cases he), fun e he => (by rw [hsc.2] at he; cases he)⟩
  have hres := verifyScriptAvm_payable hctx h₀ h
  obtain rfl := eq_of_cleanupStateAndBalances_eq_ok _ hf
  refine ⟨fun k s amt hk => ?_, fun k out hk => ?_⟩
  · obtain ⟨e, he, p, hp, -, rfl, rfl⟩ := kvLookup_encodeFtWithdrawMap hk
    exact ⟨p.1, rfl, hres.ft e he p hp⟩
  · obtain ⟨e, he, -, rfl⟩ := find?_encodeNftWithdrawMap hk
    exact hres.nft e he

/-- A context whose transaction has one output worth `2^31 - 1` satoshis. -/
def withdrawContext : ScriptExecutionContext := ⟨⟨2, [], [⟨2 ^ 31 - 1, []⟩], 0⟩, [], []⟩

/-- The sample environment with that context. -/
def withdrawEnv : Env := { sampleEnv with context := some withdrawContext }

/-- `<17> OP_0 <tokenA> OP_FT_WITHDRAW <17>`: withdraws 17 units of
    `tokenA` to output 0 and leaves a true value.  The amounts are pushed as
    data, which `MINIMALDATA` allows above 16. -/
def ftWithdrawScript : Valtype :=
  0x01 :: 0x11 :: OP_0 :: 0x24 :: (tokenA.bytes ++ [0xf2, 0x01, 0x11])

/-- A verification that withdraws 17 of the 20 units of `tokenA` to output 0
    succeeds, cleanup returns, and the emitted FT withdrawal is payable.  No
    NFT withdrawal can be recorded by a successful run: `OP_NFT_WITHDRAW`
    never succeeds. -/
theorem withdrawals_payable_ft_run :
    ∃ res f, verifyScriptAvm withdrawEnv [] ftWithdrawScript doubledStart = .ok res ∧
      res.success = true ∧ res.stateContext.cleanupStateAndBalances = .ok f ∧
      kvLookup (StateOutcome.ofContext f).ftWithdraws tokenA.getHex "0" = some 17 ∧
      let o := StateOutcome.ofContext f
      (∀ k s amt, kvLookup o.ftWithdraws k s = some amt →
        ∃ out : UInt32, s = toString out.toNat ∧ ∃ txout,
          withdrawContext.tx.vout.get? out.toNat = some txout ∧
          0 < amt.toNat ∧ (amt.toNat : Int) ≤ txout.nValue) ∧
      ∀ k out, o.nftWithdraws.find? k = some out → out.toNat < withdrawContext.tx.vout.length := by
  have h₁ : getScriptOp ftWithdrawScript =
      some (1, [17], OP_0 :: 0x24 :: (tokenA.bytes ++ [0xf2, 0x01, 0x11])) := rfl
  have h₂ : getScriptOp (0x24 :: (tokenA.bytes ++ [0xf2, 0x01, 0x11])) =
      some (0x24, tokenA.bytes, [0xf2, 0x01, 0x11]) := rfl
  have h₃ : getScriptOp [0x01, 0x11] = some (1, [17], []) := rfl
  have hops : scriptOps ftWithdrawScript =
      [some (1, [17]), some (OP_0, []), some (0x24, tokenA.bytes), some (0xf2, []),
        some (1, [17])] := by
    rw [scriptOps_of_some h₁, scriptOps_of_some (getScriptOp_OP_0 _), scriptOps_of_some h₂,
      scriptOps_cons_of_gt (by decide), scriptOps_of_some h₃, scriptOps_nil]
  have hv : ∃ res, verifyScriptAvm withdrawEnv [] ftWithdrawScript doubledStart = .ok res ∧
      res.success = true ∧ res.stateContext.cleanupStateAndBalances = .ok res.stateContext ∧
      kvLookup (StateOutcome.ofContext res.stateContext).ftWithdraws tokenA.getHex "0" =
        some 17 := by
    simp only [verifyScriptAvm, evalScript, isPushOnly, scriptOps_nil, hops]
    exact ⟨_, rfl, rfl, rfl, rfl⟩
  obtain ⟨res, hres, hs, hc, hk⟩ := hv
  exact ⟨res, _, hres, hs, hc, hk, withdrawals_payable withdrawEnv withdrawContext rfl []
    ftWithdrawScript doubledStart ⟨rfl, rfl⟩ res hres _ hc⟩

end Avm
