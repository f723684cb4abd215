import Avm.StateValidation

/-! # Runs of state operations

    What every successful run of state operations keeps.  The step lemmas
    say once what each operation does (`StateOp.run_*`); each invariant is
    then shown preserved by one step and lifted to whole runs with
    `runOps_induction`.

    * `Replay`: the current maps are the initial maps with the deltas
      (`contractStateUpdates`, `contractStateDeletes`, `ftBalancesUpdates`,
      `nftBalancesUpdates`) applied.  When `cleanupStateAndBalances`
      returns, this says that the emitted deltas, replayed on the prior
      state, give the emitted final state.
    * `Formatted`: every key is a lowercase hex string, every stored value
      too, and every delete mark is `true`; when cleanup returns, the final
      validation can then fail only on a size cap.
    * Cleanup returns only from a run that left nothing to erase.  A put
      leaves its keyspace in `contractStateDeletes` with the key's mark
      erased, so a put into a keyspace with no other delete mark leaves an
      empty keyspace there, and cleanup then reaches the erase inside its
      loop.
    * The FT withdraw map records one amount per output: a second
      withdrawal of the same token to the same output debits the balance
      but is not recorded.
-/

namespace Avm

open ScriptStateContext

/-! ## Section 1: what one successful operation did -/

namespace StateOp

variable {c c' : ScriptStateContext}

theorem run_kvPut {ks kn v : Valtype} (h : (kvPut ks kn v).run c = some c') :
    c' = c.contractStatePut ks kn v := (Option.some.inj h).symm

theorem run_kvDelete {ks kn : Valtype} (h : (kvDelete ks kn).run c = some c') :
    c' = c.contractStateDelete ks kn := (Option.some.inj h).symm

theorem run_ftBalanceAdd {id : Uint288} (h : (ftBalanceAdd id).run c = some c') :
    c.contractFtBalanceAdd id = (true, c') := ofResult_eq_some.mp h

theorem run_ftWithdraw {id : Uint288} {i : UInt32} {a : UInt64}
    (h : (ftWithdraw id i a).run c = some c') : c.contractWithdrawFt id i a = (true, c') :=
  ofResult_eq_some.mp h

theorem run_nftPut {id : Uint288} (h : (nftPut id).run c = some c') :
    c.contractNftPut id = .ok (true, c') := by
  simp only [run] at h
  split at h
  · rename_i r hr
    obtain rfl := ofResult_eq_some.mp h
    exact hr
  · cases h

theorem run_nftWithdraw {id : Uint288} {i : UInt32} (h : (nftWithdraw id i).run c = some c') :
    c.contractWithdrawNft id i = (true, c') := ofResult_eq_some.mp h

/-- No operation changes the incoming maps or the block table. -/
theorem run_frame {op : StateOp} (h : op.run c = some c') :
    c'.ftStateIncoming = c.ftStateIncoming ∧ c'.nftStateIncoming = c.nftStateIncoming ∧
      c'.externalStateStruct = c.externalStateStruct := by
  cases op with
  | kvPut => obtain rfl := run_kvPut h; exact ⟨rfl, rfl, rfl⟩
  | kvDelete => obtain rfl := run_kvDelete h; exact ⟨rfl, rfl, rfl⟩
  | ftBalanceAdd =>
    obtain ⟨_, _, _, _, rfl⟩ := contractFtBalanceAdd_true (run_ftBalanceAdd h)
    exact ⟨rfl, rfl, rfl⟩
  | ftWithdraw =>
    obtain ⟨_, _, _, _, rfl⟩ := contractWithdrawFt_true (run_ftWithdraw h)
    exact ⟨rfl, rfl, rfl⟩
  | nftPut =>
    obtain ⟨_, _, rfl⟩ := contractNftPut_true (run_nftPut h)
    exact ⟨rfl, rfl, rfl⟩
  | nftWithdraw =>
    obtain ⟨_, rfl⟩ := contractWithdrawNft_true (run_nftWithdraw h)
    exact ⟨rfl, rfl, rfl⟩

end StateOp

/-! ## Section 2: the deltas replay the run -/

/-- The current maps are the initial ones with the deltas applied: a pair
    written is in the updates, a pair deleted in the deletes, and a token
    balance changed in the balance updates.  Zero FT balances and `false`
    NFT entries, which cleanup erases, are not compared. -/
structure Replay (c₀ c : ScriptStateContext) : Prop where
  kv : ∀ ks kn, kvLookup c.contractState ks kn =
    (kvLookup c.contractStateUpdates ks kn).or
      (if (kvLookup c.contractStateDeletes ks kn).isSome then none
       else kvLookup c₀.contractState ks kn)
  kv_disjoint : ∀ ks kn, (kvLookup c.contractStateDeletes ks kn).isSome →
    kvLookup c.contractStateUpdates ks kn = none
  ft : ∀ k, (c.ftState.find? k).filter (· != 0) =
    ((c.ftBalancesUpdates.find? k).or (c₀.ftState.find? k)).filter (· != 0)
  nft : ∀ k, (c.nftState.find? k).filter id =
    ((c.nftBalancesUpdates.find? k).or (c₀.nftState.find? k)).filter id

@[simp] theorem kvLookup_empty {α : Type} (k n : String) :
    kvLookup (JsonMap.empty : JsonMap (JsonMap α)) k n = none := rfl

theorem Replay.init (ftState ftStateIncoming : JsonMap UInt64)
    (nftState nftStateIncoming : JsonMap Bool) (contractState : JsonMap (JsonMap String))
    (external : ContractStateExternalStruct) :
    let c₀ := ofInputs ftState ftStateIncoming nftState nftStateIncoming contractState external
    Replay c₀ c₀ :=
  ⟨fun _ _ => by simp [ofInputs], fun _ _ => by simp [ofInputs],
    fun _ => by simp [ofInputs], fun _ => by simp [ofInputs]⟩

theorem Replay.step {c₀ c c' : ScriptStateContext} {op : StateOp} (hr : Replay c₀ c)
    (h : op.run c = some c') : Replay c₀ c' := by
  cases op with
  | kvPut ks kn v =>
    obtain rfl := StateOp.run_kvPut h
    refine ⟨fun k n => ?_, fun k n => ?_, hr.ft, hr.nft⟩ <;>
      simp only [contractStatePut, kvLookup_withKeyspace_set, kvLookup_withKeyspace_erase] <;>
      by_cases hkn : k = hexStrWith00Null ks ∧ n = hexStrWith00Null kn
    · simp [hkn]
    · simp [hkn, hr.kv k n]
    · simp [hkn]
    · simpa [hkn] using hr.kv_disjoint k n
  | kvDelete ks kn =>
    obtain rfl := StateOp.run_kvDelete h
    refine ⟨fun k n => ?_, fun k n => ?_, hr.ft, hr.nft⟩ <;>
      simp only [contractStateDelete, kvLookup_withKeyspace_set, kvLookup_withKeyspace_erase] <;>
      by_cases hkn : k = hexStrWith00Null ks ∧ n = hexStrWith00Null kn
    · simp [hkn]
    · simp [hkn, hr.kv k n]
    · simp [hkn]
    · simpa [hkn] using hr.kv_disjoint k n
  | ftBalanceAdd ftId =>
    obtain ⟨_, _, _, _, rfl⟩ := contractFtBalanceAdd_true (StateOp.run_ftBalanceAdd h)
    refine ⟨hr.kv, hr.kv_disjoint, fun k => ?_, hr.nft⟩
    by_cases hk : k = ftId.getHex
    · simp [hk]
    · simpa [hk] using hr.ft k
  | ftWithdraw ftId i a =>
    obtain ⟨bal, _, _, _, rfl⟩ := contractWithdrawFt_true (StateOp.run_ftWithdraw h)
    refine ⟨hr.kv, hr.kv_disjoint, fun k => ?_, hr.nft⟩
    by_cases hk : k = ftId.getHex
    · by_cases h0 : bal - a = 0 <;> simp [hk, h0, Option.filter]
    · by_cases h0 : bal - a = 0 <;> simpa [hk, h0] using hr.ft k
  | nftPut nftId =>
    obtain ⟨_, _, rfl⟩ := contractNftPut_true (StateOp.run_nftPut h)
    refine ⟨hr.kv, hr.kv_disjoint, hr.ft, fun k => ?_⟩
    by_cases hk : k = nftId.getHex
    · simp [hk]
    · simpa [hk] using hr.nft k
  | nftWithdraw nftId i =>
    obtain ⟨_, rfl⟩ := contractWithdrawNft_true (StateOp.run_nftWithdraw h)
    refine ⟨hr.kv, hr.kv_disjoint, hr.ft, fun k => ?_⟩
    by_cases hk : k = nftId.getHex
    · simp [hk, Option.filter]
    · simpa [hk] using hr.nft k

/-- Every successful run keeps `Replay` from its initial context. -/
theorem Replay.run {c₀ c : ScriptStateContext} {ops : List StateOp} (hr : Replay c₀ c₀)
    (h : runOps c₀ ops = some c) : Replay c₀ c :=
  runOps_induction (fun _ _ _ hr h => hr.step h) hr h

/-! ## Section 3: replaying the emitted deltas

    The replay the spec describes, as maps: the prior key-value state with
    the deleted pairs removed, the updated pairs written and empty keyspaces
    dropped; the prior balances overridden by the balance updates, with zero
    FT balances and `false` NFT entries left out. -/

/-- The keyspaces of `m` that hold a pair. -/
def dropEmptyKeyspaces {α : Type} (m : JsonMap (JsonMap α)) : JsonMap (JsonMap α) :=
  m.filter fun e => !e.2.isEmpty

@[simp] theorem kvLookup_dropEmptyKeyspaces {α : Type} (m : JsonMap (JsonMap α)) (k n : String) :
    kvLookup (dropEmptyKeyspaces m) k n = kvLookup m k n := by
  unfold dropEmptyKeyspaces kvLookup
  rw [JsonMap.find?_filter]
  cases h : m.find? k with
  | none => rfl
  | some node =>
    cases hn : node.entries with
    | nil => simp [JsonMap.isEmpty, hn, JsonMap.find?, JsonMap.findEntries]
    | cons e l => simp [JsonMap.isEmpty, hn, Option.filter]

theorem dropEmptyKeyspaces_nonempty {α : Type} (m : JsonMap (JsonMap α)) :
    ∀ e ∈ (dropEmptyKeyspaces m).entries, e.2.entries ≠ [] := fun e he => by
  have := (JsonMap.mem_filter.mp he).2
  simpa [JsonMap.isEmpty, List.isEmpty_iff] using this

/-- The key-value state the deltas describe: `kv₀` with every deleted pair
    removed, then every updated pair written, and empty keyspaces dropped. -/
def replayKv (kv₀ updates : JsonMap (JsonMap String)) (deletes : JsonMap (JsonMap Bool)) :
    JsonMap (JsonMap String) :=
  let removed := deletes.entries.foldl (fun m ks =>
    ks.2.entries.foldl (fun m kn => withKeyspace m ks.1 (·.erase kn.1)) m) kv₀
  let written := updates.entries.foldl (fun m ks =>
    ks.2.entries.foldl (fun m kn => withKeyspace m ks.1 (·.set kn.1 kn.2)) m) removed
  dropEmptyKeyspaces written

section ReplayKv

variable {α β : Type}

theorem kvLookup_foldl_erase (K : String) (l : List (String × β)) (m : JsonMap (JsonMap α))
    (k n : String) :
    kvLookup (l.foldl (fun m kn => withKeyspace m K (·.erase kn.1)) m) k n =
      if k = K ∧ (JsonMap.findEntries l n).isSome then none else kvLookup m k n := by
  induction l generalizing m with
  | nil => simp [JsonMap.findEntries]
  | cons e l ih =>
    obtain ⟨n₀, b⟩ := e
    rw [List.foldl_cons, ih, kvLookup_withKeyspace_erase, JsonMap.findEntries_cons]
    by_cases hk : k = K <;> by_cases hn : n = n₀ <;> simp [hk, hn]

theorem kvLookup_foldl_set (K : String) (l : List (String × α)) (hl : KeysSorted l)
    (m : JsonMap (JsonMap α)) (k n : String) :
    kvLookup (l.foldl (fun m kn => withKeyspace m K (·.set kn.1 kn.2)) m) k n =
      if k = K then (JsonMap.findEntries l n).or (kvLookup m k n) else kvLookup m k n := by
  induction l generalizing m with
  | nil => simp [JsonMap.findEntries]
  | cons e l ih =>
    obtain ⟨n₀, v₀⟩ := e
    have hrest := JsonMap.findEntries_eq_none_of_sorted hl
    rw [List.foldl_cons, ih hl.of_cons, kvLookup_withKeyspace_set, JsonMap.findEntries_cons]
    by_cases hk : k = K <;> by_cases hn : n = n₀
    · subst hn; simp [hk, hrest]
    all_goals simp [hk, hn]

theorem kvLookup_foldl_erase_keyspaces (D : List (String × JsonMap β)) (hD : KeysSorted D)
    (m : JsonMap (JsonMap α)) (k n : String) :
    kvLookup (D.foldl (fun m ks =>
        ks.2.entries.foldl (fun m kn => withKeyspace m ks.1 (·.erase kn.1)) m) m) k n =
      if ((JsonMap.findEntries D k).bind (·.find? n)).isSome then none else kvLookup m k n := by
  induction D generalizing m with
  | nil => simp [JsonMap.findEntries]
  | cons e D ih =>
    obtain ⟨K, node⟩ := e
    have hrest := JsonMap.findEntries_eq_none_of_sorted hD
    rw [List.foldl_cons, ih hD.of_cons, kvLookup_foldl_erase, JsonMap.findEntries_cons]
    by_cases hk : k = K
    · subst hk; simp [hrest, JsonMap.find?]
    · simp [hk]

theorem kvLookup_foldl_set_keyspaces (U : List (String × JsonMap α)) (hU : KeysSorted U)
    (m : JsonMap (JsonMap α)) (k n : String) :
    kvLookup (U.foldl (fun m ks =>
        ks.2.entries.foldl (fun m kn => withKeyspace m ks.1 (·.set kn.1 kn.2)) m) m) k n =
      ((JsonMap.findEntries U k).bind (·.find? n)).or (kvLookup m k n) := by
  induction U generalizing m with
  | nil => simp [JsonMap.findEntries]
  | cons e U ih =>
    obtain ⟨K, node⟩ := e
    have hrest := JsonMap.findEntries_eq_none_of_sorted hU
    rw [List.foldl_cons, ih hU.of_cons, kvLookup_foldl_set _ _ node.sorted,
      JsonMap.findEntries_cons]
    by_cases hk : k = K
    · subst hk; simp [hrest, JsonMap.find?]
    · simp [hk]

end ReplayKv

theorem kvLookup_replayKv (kv₀ updates : JsonMap (JsonMap String))
    (deletes : JsonMap (JsonMap Bool)) (k n : String) :
    kvLookup (replayKv kv₀ updates deletes) k n =
      (kvLookup updates k n).or
        (if (kvLookup deletes k n).isSome then none else kvLookup kv₀ k n) := by
  simp only [replayKv, kvLookup_dropEmptyKeyspaces,
    kvLookup_foldl_set_keyspaces _ updates.sorted, kvLookup_foldl_erase_keyspaces _ deletes.sorted]
  rfl

/-- A two-level map whose keyspaces are all non-empty is determined by its
    pairs. -/
theorem kv_ext {α : Type} {m₁ m₂ : JsonMap (JsonMap α)}
    (h₁ : ∀ e ∈ m₁.entries, e.2.entries ≠ []) (h₂ : ∀ e ∈ m₂.entries, e.2.entries ≠ [])
    (h : ∀ k n, kvLookup m₁ k n = kvLookup m₂ k n) : m₁ = m₂ := by
  have hsome : ∀ {m : JsonMap (JsonMap α)} {k node}, (∀ e ∈ m.entries, e.2.entries ≠ []) →
      m.find? k = some node → ∃ n v, kvLookup m k n = some v := fun hm hk => by
    obtain ⟨e, he⟩ := List.exists_mem_of_ne_nil _ (hm _ (JsonMap.mem_of_find? hk))
    exact ⟨e.1, e.2, by simp [kvLookup, hk, JsonMap.find?_of_mem he]⟩
  refine JsonMap.ext_find? fun k => ?_
  cases hk₁ : m₁.find? k with
  | none =>
    cases hk₂ : m₂.find? k with
    | none => rfl
    | some node₂ =>
      obtain ⟨n, v, hv⟩ := hsome h₂ hk₂
      have := (h k n).trans hv
      simp [kvLookup, hk₁] at this
  | some node₁ =>
    cases hk₂ : m₂.find? k with
    | none =>
      obtain ⟨n, v, hv⟩ := hsome h₁ hk₁
      have := (h k n).symm.trans hv
      simp [kvLookup, hk₂] at this
    | some node₂ =>
      exact congrArg some (JsonMap.ext_find? fun n => by simpa [kvLookup, hk₁, hk₂] using h k n)

/-- The emitted deltas replay the run.  Cleanup either reaches the erase
    inside one of its loops, or returns the context, and then the final
    key-value state is the prior one with the deletes and updates applied;
    no deleted pair is in the final state or the updates, and every update
    is in the final state; the final balances are the prior ones overridden
    by the balance updates, without zero FT balances and `false` NFT
    entries. -/
theorem deltas_replay_final_state (ftState ftStateIncoming : JsonMap UInt64)
    (nftState nftStateIncoming : JsonMap Bool) (contractState : JsonMap (JsonMap String))
    (external : ContractStateExternalStruct) (ops : List StateOp) (c : ScriptStateContext)
    (hrun : runOps (ofInputs ftState ftStateIncoming nftState nftStateIncoming contractState
      external) ops = some c) :
    c.cleanupStateAndBalances = .error .undefined ∨
    ∃ f, c.cleanupStateAndBalances = .ok f ∧
      f.contractState = replayKv contractState f.contractStateUpdates f.contractStateDeletes ∧
      (∀ ks kn, (kvLookup f.contractStateDeletes ks kn).isSome →
        kvLookup f.contractState ks kn = none ∧ kvLookup f.contractStateUpdates ks kn = none) ∧
      (∀ ks kn v, kvLookup f.contractStateUpdates ks kn = some v →
        kvLookup f.contractState ks kn = some v) ∧
      f.ftState = (ftState.override f.ftBalancesUpdates).filter (·.2 != 0) ∧
      f.nftState = (nftState.override f.nftBalancesUpdates).filter (·.2) := by
  rw [cleanupStateAndBalances_eq]
  by_cases hc : c.isClean
  case neg => exact .inl (if_neg hc)
  obtain ⟨hkv, -, -, hft, hnft⟩ := (isClean_iff c).mp hc
  have hr := (Replay.init ftState ftStateIncoming nftState nftStateIncoming contractState
    external).run hrun
  refine .inr ⟨c, if_pos hc, kv_ext hkv (dropEmptyKeyspaces_nonempty _) fun k n => ?_,
    fun ks kn hd => ?_, fun ks kn v hu => by simp [hr.kv ks kn, hu], ?_, ?_⟩
  · simpa [kvLookup_replayKv, ofInputs] using hr.kv k n
  · have hu := hr.kv_disjoint ks kn hd
    exact ⟨by simp [hr.kv ks kn, hu, hd], hu⟩
  · calc c.ftState = c.ftState.filter (·.2 != 0) := (JsonMap.filter_eq_self (by simpa using hft)).symm
      _ = _ := JsonMap.ext_find? fun k => by
        simpa [JsonMap.find?_filter, JsonMap.find?_override, ofInputs] using hr.ft k
  · calc c.nftState = c.nftState.filter (·.2) := (JsonMap.filter_eq_self hnft).symm
      _ = _ := JsonMap.ext_find? fun k => by
        simpa [JsonMap.find?_filter, JsonMap.find?_override, ofInputs] using hr.nft k

/-- The replay law at a run that writes one pair and deletes another key of
    the same keyspace: no keyspace is left empty, and cleanup returns. -/
theorem deltas_replay_put_delete :
    ∃ c, runOps (ofInputs .empty .empty .empty .empty .empty ⟨[], 0⟩)
        [.kvPut [1] [2] [3], .kvDelete [1] [5]] = some c ∧ c.cleanupStateAndBalances = .ok c ∧
      (c.cleanupStateAndBalances = .error .undefined ∨
      ∃ f, c.cleanupStateAndBalances = .ok f ∧
        f.contractState = replayKv .empty f.contractStateUpdates f.contractStateDeletes ∧
        (∀ ks kn, (kvLookup f.contractStateDeletes ks kn).isSome →
          kvLookup f.contractState ks kn = none ∧ kvLookup f.contractStateUpdates ks kn = none) ∧
        (∀ ks kn v, kvLookup f.contractStateUpdates ks kn = some v →
          kvLookup f.contractState ks kn = some v) ∧
        f.ftState = (JsonMap.empty.override f.ftBalancesUpdates).filter (·.2 != 0) ∧
        f.nftState = (JsonMap.empty.override f.nftBalancesUpdates).filter (·.2)) :=
  ⟨_, rfl, rfl, deltas_replay_final_state .empty .empty .empty .empty .empty ⟨[], 0⟩
    [.kvPut [1] [2] [3], .kvDelete [1] [5]] _ rfl⟩

/-- One put into an empty state leaves its keyspace empty in the deletes,
    and cleanup reaches the erase of it inside its loop. -/
theorem deltas_replay_undefined_after_put :
    ∃ c, runOps (ofInputs .empty .empty .empty .empty .empty ⟨[], 0⟩) [.kvPut [1] [2] [3]] =
        some c ∧ c.contractStateDeletes.find? (hexStrWith00Null [1]) = some .empty ∧
      c.cleanupStateAndBalances = .error .undefined :=
  ⟨_, rfl, rfl, rfl⟩

/-! ## Section 4: the format of the state

    Every key an operation writes is a `HexStrWith00Null` or a `GetHex`,
    both lowercase hex; every value written to the key-value maps is a
    `HexStrWith00Null`, and every delete mark is `true`.  The empty
    keyspaces, zero FT balances and `false` NFT entries that runs may leave
    are the remaining format errors, and cleanup returns only when there are
    none. -/

section Format

variable {α : Type}

/-- Keys of both levels are lowercase hex and every value passes `valueOk`. -/
def KeyspacesFormatted (valueOk : α → Prop) (m : JsonMap (JsonMap α)) : Prop :=
  ∀ e ∈ m.entries, isHexStr e.1 = true ∧ ∀ x ∈ e.2.entries, isHexStr x.1 = true ∧ valueOk x.2

/-- Every key is lowercase hex. -/
def KeysFormatted (m : JsonMap α) : Prop := ∀ e ∈ m.entries, isHexStr e.1 = true

theorem KeysFormatted.set {m : JsonMap α} (hm : KeysFormatted m) {k : String}
    (hk : isHexStr k = true) (v : α) : KeysFormatted (m.set k v) := fun e he =>
  (JsonMap.mem_setEntries he).elim (fun h => h ▸ hk) (hm e)

theorem KeysFormatted.erase {m : JsonMap α} (hm : KeysFormatted m) (k : String) :
    KeysFormatted (m.erase k) := fun e he => hm e (JsonMap.mem_erase.mp he).1

theorem KeyspacesFormatted.ensureKeyspaceExists {P : α → Prop} {m : JsonMap (JsonMap α)}
    (hm : KeyspacesFormatted P m) {K : String} (hK : isHexStr K = true) :
    KeyspacesFormatted P (Avm.ensureKeyspaceExists m K) := by
  unfold Avm.ensureKeyspaceExists
  split
  · exact hm
  · intro e he
    rcases JsonMap.mem_setEntries he with rfl | he
    · exact ⟨hK, fun x hx => by simp [JsonMap.empty] at hx⟩
    · exact hm e he

theorem KeyspacesFormatted.withKeyspace {P : α → Prop} {m : JsonMap (JsonMap α)}
    (hm : KeyspacesFormatted P m) {K : String} (hK : isHexStr K = true)
    {f : JsonMap α → JsonMap α}
    (hf : ∀ node : JsonMap α, (∀ x ∈ node.entries, isHexStr x.1 = true ∧ P x.2) →
      ∀ x ∈ (f node).entries, isHexStr x.1 = true ∧ P x.2) :
    KeyspacesFormatted P (Avm.withKeyspace m K f) := by
  have he := hm.ensureKeyspaceExists hK
  have hnode : ∀ x ∈ (((Avm.ensureKeyspaceExists m K).find? K).getD .empty).entries,
      isHexStr x.1 = true ∧ P x.2 := by
    cases hk : (Avm.ensureKeyspaceExists m K).find? K with
    | none => simp [JsonMap.empty]
    | some node => exact (he _ (JsonMap.mem_of_find? hk)).2
  intro e hmem
  rcases JsonMap.mem_setEntries hmem with rfl | hmem
  · exact ⟨hK, hf _ hnode⟩
  · exact he e hmem

/-- What every operation keeps: the format of the seven maps it may write. -/
structure Formatted (c : ScriptStateContext) : Prop where
  contractState : KeyspacesFormatted (isHexStr · = true) c.contractState
  contractStateUpdates : KeyspacesFormatted (isHexStr · = true) c.contractStateUpdates
  contractStateDeletes : KeyspacesFormatted (· = true) c.contractStateDeletes
  ftState : KeysFormatted c.ftState
  ftBalancesUpdates : KeysFormatted c.ftBalancesUpdates
  nftState : KeysFormatted c.nftState
  nftBalancesUpdates : KeysFormatted c.nftBalancesUpdates

theorem formatted_set_inner {P : α → Prop} {kn : String} (hkn : isHexStr kn = true) {v : α}
    (hv : P v) (node : JsonMap α) (hnode : ∀ x ∈ node.entries, isHexStr x.1 = true ∧ P x.2) :
    ∀ x ∈ (node.set kn v).entries, isHexStr x.1 = true ∧ P x.2 := fun x hx =>
  (JsonMap.mem_setEntries hx).elim (fun h => h ▸ ⟨hkn, hv⟩) (hnode x)

theorem formatted_erase_inner {P : α → Prop} (kn : String) (node : JsonMap α)
    (hnode : ∀ x ∈ node.entries, isHexStr x.1 = true ∧ P x.2) :
    ∀ x ∈ (node.erase kn).entries, isHexStr x.1 = true ∧ P x.2 := fun x hx =>
  hnode x (JsonMap.mem_erase.mp hx).1

end Format

theorem Formatted.step {c c' : ScriptStateContext} {op : StateOp} (hf : Formatted c)
    (h : op.run c = some c') : Formatted c' := by
  cases op with
  | kvPut ks kn v =>
    obtain rfl := StateOp.run_kvPut h
    have hks := isHexStr_hexStrWith00Null ks
    have hkn := isHexStr_hexStrWith00Null kn
    have hv : ∀ node : JsonMap String, _ := formatted_set_inner (P := (isHexStr · = true)) hkn
      (isHexStr_hexStrWith00Null v)
    exact { hf with
      contractState := hf.contractState.withKeyspace hks hv
      contractStateUpdates := hf.contractStateUpdates.withKeyspace hks hv
      contractStateDeletes := hf.contractStateDeletes.withKeyspace hks
        (formatted_erase_inner (P := (· = true)) _) }
  | kvDelete ks kn =>
    obtain rfl := StateOp.run_kvDelete h
    have hks := isHexStr_hexStrWith00Null ks
    have hkn := isHexStr_hexStrWith00Null kn
    have he : ∀ node : JsonMap String, _ := formatted_erase_inner (P := (isHexStr · = true))
      (hexStrWith00Null kn)
    exact { hf with
      contractState := hf.contractState.withKeyspace hks he
      contractStateUpdates := hf.contractStateUpdates.withKeyspace hks he
      contractStateDeletes := hf.contractStateDeletes.withKeyspace hks
        (formatted_set_inner (P := (· = true)) hkn rfl) }
  | ftBalanceAdd ftId =>
    obtain ⟨_, _, _, _, rfl⟩ := contractFtBalanceAdd_true (StateOp.run_ftBalanceAdd h)
    exact { hf with
      ftState := hf.ftState.set (Uint288.isHexStr_getHex ftId) _
      ftBalancesUpdates := hf.ftBalancesUpdates.set (Uint288.isHexStr_getHex ftId) _ }
  | ftWithdraw ftId i a =>
    obtain ⟨bal, _, _, _, rfl⟩ := contractWithdrawFt_true (StateOp.run_ftWithdraw h)
    refine { hf with
      ftState := ?_
      ftBalancesUpdates := hf.ftBalancesUpdates.set (Uint288.isHexStr_getHex ftId) _ }
    split
    · exact hf.ftState.erase _
    · exact hf.ftState.set (Uint288.isHexStr_getHex ftId) _
  | nftPut nftId =>
    obtain ⟨_, _, rfl⟩ := contractNftPut_true (StateOp.run_nftPut h)
    exact { hf with
      nftState := hf.nftState.set (Uint288.isHexStr_getHex nftId) _
      nftBalancesUpdates := hf.nftBalancesUpdates.set (Uint288.isHexStr_getHex nftId) _ }
  | nftWithdraw nftId i =>
    obtain ⟨_, rfl⟩ := contractWithdrawNft_true (StateOp.run_nftWithdraw h)
    exact { hf with
      nftState := hf.nftState.erase _
      nftBalancesUpdates := hf.nftBalancesUpdates.set (Uint288.isHexStr_getHex nftId) _ }

/-- A context the constructor accepts is formatted. -/
theorem Formatted.of_create {L : StateLimits} {ftState ftStateIncoming : JsonMap UInt64}
    {nftState nftStateIncoming : JsonMap Bool} {contractState : JsonMap (JsonMap String)}
    {external : ContractStateExternalStruct} {c₀ : ScriptStateContext}
    (h : ScriptStateContext.create L ftState ftStateIncoming nftState nftStateIncoming
      contractState external = .ok c₀) : Formatted c₀ := by
  obtain ⟨rfl, hv⟩ := ScriptStateContext.create_ok h
  obtain ⟨⟨_, h₁⟩, -, -, h₄, -, -, h₇, -, -⟩ := performValidateStateRestrictions_ok hv
  have hkv := validateKeyspaces_ok_imp _ _ _ _ h₁
  have hft := (ftBalances_ok_iff _ _).mp h₄
  have hnft := (nftBalances_ok_iff _ _).mp h₇
  refine ⟨fun e he => ?_, fun e he => ?_, fun e he => ?_, fun e he => (hft e he).1,
    fun e he => ?_, fun e he => (hnft e he).1, fun e he => ?_⟩
  · obtain ⟨hk, -, hx⟩ := hkv e he
    exact ⟨hk, fun x hx' => by simpa [entryOk] using hx x hx'⟩
  all_goals simp [ofInputs, JsonMap.empty] at he

/-- A formatted context with nothing for cleanup to erase has every map
    the run writes in the form its validator accepts. -/
theorem Formatted.validators_of_isClean {c : ScriptStateContext} (hf : Formatted c)
    (hc : c.isClean = true) :
    (∃ n, performValidateStateRestrictionsState c.contractState = .ok n) ∧
    (∃ n, performValidateStateRestrictionsState c.contractStateUpdates = .ok n) ∧
    (∃ n, performValidateStateRestrictionsStateDeletes c.contractStateDeletes = .ok n) ∧
    (∃ n, performValidateStateRestrictionsTokenFtBalances c.ftState false = .ok n) ∧
    (∃ n, performValidateStateRestrictionsTokenFtBalances c.ftBalancesUpdates true = .ok n) ∧
    (∃ n, performValidateStateRestrictionsTokenNftBalances c.nftState false = .ok n) ∧
    (∃ n, performValidateStateRestrictionsTokenNftBalances c.nftBalancesUpdates true = .ok n) := by
  obtain ⟨hkv, hupd, hdel, hft, hnft⟩ := (isClean_iff c).mp hc
  have hks : ∀ {β : Type} {P : β → Prop} {cv : β → Option Exception}
      {m : JsonMap (JsonMap β)}, KeyspacesFormatted P m → (∀ e ∈ m.entries, e.2.entries ≠ []) →
      (∀ v, P v → cv v = none) → ∀ e ∈ m.entries, keyspaceOk cv e := fun hm hne hcv e he => by
    obtain ⟨hk, hx⟩ := hm e he
    exact ⟨hk, hne e he, fun x hx' => ⟨(hx x hx').1, hcv _ (hx x hx').2⟩⟩
  refine ⟨⟨_, validateKeyspaces_of_ok _ _ _ _ (hks hf.contractState hkv fun v hv => by simp [hv])⟩,
    ⟨_, validateKeyspaces_of_ok _ _ _ _ (hks hf.contractStateUpdates hupd fun v hv => by simp [hv])⟩,
    ⟨_, validateKeyspaces_of_ok _ _ _ _ (hks hf.contractStateDeletes hdel fun v hv => by simp [hv])⟩,
    (ftBalances_ok_iff _ _).mpr fun e he => ⟨hf.ftState e he, fun _ => hft e he⟩,
    (ftBalances_ok_iff _ _).mpr fun e he => ⟨hf.ftBalancesUpdates e he, by simp⟩,
    (nftBalances_ok_iff _ _).mpr fun e he => ⟨hf.nftState e he, fun _ => hnft e he⟩,
    (nftBalances_ok_iff _ _).mpr fun e he => ⟨hf.nftBalancesUpdates e he, by simp⟩⟩

/-- No run changes the incoming maps. -/
theorem runOps_incoming {c₀ c : ScriptStateContext} {ops : List StateOp}
    (h : runOps c₀ ops = some c) :
    c.ftStateIncoming = c₀.ftStateIncoming ∧ c.nftStateIncoming = c₀.nftStateIncoming :=
  runOps_induction (P := fun c => c.ftStateIncoming = c₀.ftStateIncoming ∧
      c.nftStateIncoming = c₀.nftStateIncoming)
    (fun _ _ _ hc h => by
      obtain ⟨h₁, h₂, -⟩ := StateOp.run_frame h
      exact ⟨h₁.trans hc.1, h₂.trans hc.2⟩) ⟨rfl, rfl⟩ h

/-- After any successful run from a context the constructor accepts that
    leaves nothing for cleanup to erase, the nine validators accept the
    maps, and final validation throws the first exceeded cap's exception, as
    a pointer, or succeeds. -/
theorem runOps_finalValidation {L : StateLimits}
    {ftState ftStateIncoming : JsonMap UInt64} {nftState nftStateIncoming : JsonMap Bool}
    {contractState : JsonMap (JsonMap String)} {external : ContractStateExternalStruct}
    {c₀ c : ScriptStateContext} {ops : List StateOp}
    (hc₀ : ScriptStateContext.create L ftState ftStateIncoming nftState nftStateIncoming
      contractState external = .ok c₀)
    (hrun : runOps c₀ ops = some c) (hc : c.isClean = true) :
    ∃ n₁ n₂ n₃ n₄ n₅ n₆ n₇ n₈ n₉,
    performValidateStateRestrictionsState c.contractState = .ok n₁ ∧
    performValidateStateRestrictionsState c.contractStateUpdates = .ok n₂ ∧
    performValidateStateRestrictionsStateDeletes c.contractStateDeletes = .ok n₃ ∧
    performValidateStateRestrictionsTokenFtBalances c.ftState false = .ok n₄ ∧
    performValidateStateRestrictionsTokenFtBalances c.ftBalancesUpdates true = .ok n₅ ∧
    performValidateStateRestrictionsTokenFtBalances c.ftStateIncoming false = .ok n₆ ∧
    performValidateStateRestrictionsTokenNftBalances c.nftState false = .ok n₇ ∧
    performValidateStateRestrictionsTokenNftBalances c.nftBalancesUpdates true = .ok n₈ ∧
    performValidateStateRestrictionsTokenNftBalances c.nftStateIncoming false = .ok n₉ ∧
    c.validateFinalStateRestrictions L =
      match firstCapViolation L n₁ n₂ n₃ n₄ n₅ n₇ n₈ with
      | some e => .error (.ptr e)
      | none => .ok () := by
  have hf := runOps_induction (fun _ _ _ hf h => Formatted.step hf h) (Formatted.of_create hc₀) hrun
  obtain ⟨⟨_, h₁⟩, ⟨_, h₂⟩, ⟨_, h₃⟩, ⟨_, h₄⟩, ⟨_, h₅⟩, ⟨_, h₇⟩, ⟨_, h₈⟩⟩ :=
    hf.validators_of_isClean hc
  obtain ⟨hin₁, hin₂⟩ := runOps_incoming hrun
  obtain ⟨-, hv⟩ := ScriptStateContext.create_ok hc₀
  obtain ⟨-, -, -, -, -, ⟨_, h₆⟩, -, -, ⟨_, h₉⟩⟩ := performValidateStateRestrictions_ok hv
  rw [← hin₁] at h₆
  rw [← hin₂] at h₉
  exact ⟨_, _, _, _, _, _, _, _, _, h₁, h₂, h₃, h₄, h₅, h₆, h₇, h₈, h₉,
    performValidateStateRestrictions_of_ok h₁ h₂ h₃ h₄ h₅ h₆ h₇ h₈ h₉⟩

/-- Final validation fails only on a size cap, once cleanup returns.  After
    any successful run from a context the constructor accepts, cleanup
    either reaches the erase inside one of its loops, or returns the
    context with all nine maps in the form their validators accept, so that
    `validateFinalStateRestrictions` throws no format error. -/
theorem final_validation_fails_only_on_caps (L : StateLimits)
    (ftState ftStateIncoming : JsonMap UInt64) (nftState nftStateIncoming : JsonMap Bool)
    (contractState : JsonMap (JsonMap String)) (external : ContractStateExternalStruct)
    (c₀ : ScriptStateContext)
    (hc₀ : ScriptStateContext.create L ftState ftStateIncoming nftState nftStateIncoming
      contractState external = .ok c₀)
    (ops : List StateOp) (c : ScriptStateContext) (hrun : runOps c₀ ops = some c) :
    c.cleanupStateAndBalances = .error .undefined ∨
    ∃ f, c.cleanupStateAndBalances = .ok f ∧
      (∃ n, performValidateStateRestrictionsState f.contractState = .ok n) ∧
      (∃ n, performValidateStateRestrictionsState f.contractStateUpdates = .ok n) ∧
      (∃ n, performValidateStateRestrictionsStateDeletes f.contractStateDeletes = .ok n) ∧
      (∃ n, performValidateStateRestrictionsTokenFtBalances f.ftState false = .ok n) ∧
      (∃ n, performValidateStateRestrictionsTokenFtBalances f.ftBalancesUpdates true = .ok n) ∧
      (∃ n, performValidateStateRestrictionsTokenFtBalances f.ftStateIncoming false = .ok n) ∧
      (∃ n, performValidateStateRestrictionsTokenNftBalances f.nftState false = .ok n) ∧
      (∃ n, performValidateStateRestrictionsTokenNftBalances f.nftBalancesUpdates true = .ok n) ∧
      (∃ n, performValidateStateRestrictionsTokenNftBalances f.nftStateIncoming false = .ok n) ∧
      ∀ t, f.validateFinalStateRestrictions L = .error t →
        ∃ e, t = .ptr e ∧ e.isSizeLimit = true := by
  rw [cleanupStateAndBalances_eq]
  by_cases hc : c.isClean
  case neg => exact .inl (if_neg hc)
  obtain ⟨_, _, _, _, _, _, _, _, _, h₁, h₂, h₃, h₄, h₅, h₆, h₇, h₈, h₉, hv⟩ :=
    runOps_finalValidation hc₀ hrun hc
  refine .inr ⟨c, if_pos hc, ⟨_, h₁⟩, ⟨_, h₂⟩, ⟨_, h₃⟩, ⟨_, h₄⟩, ⟨_, h₅⟩, ⟨_, h₆⟩, ⟨_, h₇⟩,
    ⟨_, h₈⟩, ⟨_, h₉⟩, fun t ht => ?_⟩
  rw [hv] at ht
  split at ht
  · rename_i e he
    cases ht
    exact ⟨e, rfl, firstCapViolation_isSizeLimit he⟩
  · cases ht

/-- Caps of the order the spec names. -/
def limits128k : StateLimits := ⟨131072, 131072, 131072, 131072⟩

/-- Final validation after a run that writes one pair into an empty state
    and deletes another key of its keyspace: cleanup returns. -/
theorem final_validation_after_put_delete :
    ∃ c₀ c, ScriptStateContext.create limits128k .empty .empty .empty .empty .empty ⟨[], 0⟩ =
        .ok c₀ ∧ runOps c₀ [.kvPut [1] [2] [3], .kvDelete [1] [5]] = some c ∧
      c.cleanupStateAndBalances = .ok c ∧
      (c.cleanupStateAndBalances = .error .undefined ∨
      ∃ f, c.cleanupStateAndBalances = .ok f ∧
        (∃ n, performValidateStateRestrictionsState f.contractState = .ok n) ∧
        (∃ n, performValidateStateRestrictionsState f.contractStateUpdates = .ok n) ∧
        (∃ n, performValidateStateRestrictionsStateDeletes f.contractStateDeletes = .ok n) ∧
        (∃ n, performValidateStateRestrictionsTokenFtBalances f.ftState false = .ok n) ∧
        (∃ n, performValidateStateRestrictionsTokenFtBalances f.ftBalancesUpdates true = .ok n) ∧
        (∃ n, performValidateStateRestrictionsTokenFtBalances f.ftStateIncoming false = .ok n) ∧
        (∃ n, performValidateStateRestrictionsTokenNftBalances f.nftState false = .ok n) ∧
        (∃ n, performValidateStateRestrictionsTokenNftBalances f.nftBalancesUpdates true =
          .ok n) ∧
        (∃ n, performValidateStateRestrictionsTokenNftBalances f.nftStateIncoming false =
          .ok n) ∧
        ∀ t, f.validateFinalStateRestrictions limits128k = .error t →
          ∃ e, t = .ptr e ∧ e.isSizeLimit = true) :=
  ⟨_, _, rfl, rfl, rfl, final_validation_fails_only_on_caps limits128k .empty .empty .empty
    .empty .empty ⟨[], 0⟩ _ rfl [.kvPut [1] [2] [3], .kvDelete [1] [5]] _ rfl⟩

/-- After one put into an empty state the deletes hold an empty keyspace,
    which the deletes validator rejects; cleanup, which should erase it,
    reaches the erase inside its loop. -/
theorem final_validation_undefined_after_put :
    ∃ c₀ c, ScriptStateContext.create limits128k .empty .empty .empty .empty .empty ⟨[], 0⟩ =
        .ok c₀ ∧ runOps c₀ [.kvPut [1] [2] [3]] = some c ∧
      performValidateStateRestrictionsStateDeletes c.contractStateDeletes =
        .error (.ptr .stateDeleteFormat) ∧
      c.cleanupStateAndBalances = .error .undefined :=
  ⟨_, _, rfl, rfl, rfl, rfl⟩

/-! ## Section 5: FT conservation

    The FT amounts of a run, as the spec counts them: over the naturals,
    absent entries read as 0.  Two runs from well-formed states show that the
    final balance plus the emitted withdrawals need not equal the initial
    balance plus the credited incoming amount: `contractWithdrawFt` records a
    withdrawal with `std::map::insert`, which keeps the amount already
    recorded for the same output, and `performFtBalanceAdd` adds in
    `uint64_t`. -/

/-- The FT balance of `id` in a map, absent entries read as 0. -/
def ftAmount (m : JsonMap UInt64) (id : Uint288) : Nat :=
  ((m.find? id.getHex).map UInt64.toNat).getD 0

/-- The amount of `id` the emitted withdraw map sends to outputs. -/
def ftWithdrawn (c : ScriptStateContext) (id : Uint288) : Nat :=
  ((c.encodeFtWithdrawMap.find? id.getHex).map fun outputs =>
    (outputs.entries.map fun e => e.2.toNat).sum).getD 0

/-- The incoming amount credited to `id`: all of it when `id` is in the
    emitted set of added ids. -/
def ftCredited (c : ScriptStateContext) (id : Uint288) : Nat :=
  if c.encodeFtIncomingBalancesAddedMap.contains id.getHex then ftAmount c.ftStateIncoming id
  else 0

/-- A token id. -/
def tokenA : Uint288 := ⟨List.replicate 36 7, rfl⟩

/-- A context holding 10 units of `tokenA`. -/
def repeatedOutputStart : ScriptStateContext :=
  ofInputs (JsonMap.empty.set tokenA.getHex 10) .empty .empty .empty .empty ⟨[], 0⟩

/-- A context holding `2^64 - 1` units of `tokenA`, with 1 more incoming. -/
def wrapStart : ScriptStateContext :=
  ofInputs (JsonMap.empty.set tokenA.getHex 0xffffffffffffffff)
    (JsonMap.empty.set tokenA.getHex 1) .empty .empty .empty ⟨[], 0⟩

/-- Withdrawing 3 units of `tokenA` twice to output 0 debits 6 but emits one
    withdrawal of 3: final balance plus withdrawals is 7, not 10.  Adding 1
    incoming unit to a balance of `2^64 - 1` stores the wrapped sum 0:
    final balance plus withdrawals is 0, not `2^64`.  Both initial balance
    maps pass their validator. -/
theorem ftConservation_fails :
    performValidateStateRestrictionsTokenFtBalances repeatedOutputStart.ftState false = .ok 44 ∧
    (∃ c, runOps repeatedOutputStart [.ftWithdraw tokenA 0 3, .ftWithdraw tokenA 0 3] = some c ∧
      ftAmount c.ftState tokenA + ftWithdrawn c tokenA = 7 ∧
      ftAmount repeatedOutputStart.ftState tokenA + ftCredited c tokenA = 10) ∧
    performValidateStateRestrictionsTokenFtBalances wrapStart.ftState false = .ok 44 ∧
    performValidateStateRestrictionsTokenFtBalances wrapStart.ftStateIncoming false = .ok 44 ∧
    (∃ c, runOps wrapStart [.ftBalanceAdd tokenA] = some c ∧
      ftAmount c.ftState tokenA + ftWithdrawn c tokenA = 0 ∧
      ftAmount wrapStart.ftState tokenA + ftCredited c tokenA = 2 ^ 64) :=
  ⟨rfl, ⟨_, rfl, by decide, by decide⟩, rfl, rfl, ⟨_, rfl, by decide, by decide⟩⟩

end Avm
