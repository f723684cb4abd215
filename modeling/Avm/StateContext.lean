import Avm.BlockInfo

/-! # The state context

    `ScriptStateContext` (script_execution_context.cpp) is the working copy
    of a contract's state during one execution: the key-value store, the FT
    and NFT balances, the incoming balances, the deltas emitted at the end,
    and the sets and maps that record what was consumed and withdrawn.

    The JSON maps are `JsonMap`s with typed values.  The type checks of the
    code (`is_object`, `is_string`, `is_number_unsigned`, `is_boolean`) hold
    by construction, so the errors they guard (`StateKeyspaceCleanupError` in
    `cleanupKeyspaces`) cannot arise here.  The `std::set<uint288>` and
    `std::map<uint288, ...>` members are association lists; their key order
    is not observable in any result modelled here.

    The state opcodes call six methods that may change the context.  Each
    is modelled as the code computes it, and `StateOp.run` packages them as
    one step: `some c'` when the method returns normally with `true` (or is
    `void`), `none` when it returns `false` or throws; either way the
    script fails at that opcode.
-/

namespace Avm

/-! ## Section 1: std::map and std::set -/

section StdMap

variable {κ ν : Type} [DecidableEq κ]

/-- `std::map::insert(std::make_pair(k, v))`: the pair is added only when
    `k` is absent; an existing entry keeps its value. -/
def mapInsert (m : List (κ × ν)) (k : κ) (v : ν) : List (κ × ν) :=
  if (m.lookup k).isSome then m else m ++ [(k, v)]

/-- Updating the value of `k` in place, through the iterator `find(k)`
    returns. -/
def mapModify (m : List (κ × ν)) (k : κ) (f : ν → ν) : List (κ × ν) :=
  m.map fun e => if e.1 = k then (e.1, f e.2) else e

/-- `std::set::insert`. -/
def setInsert (s : List κ) (k : κ) : List κ :=
  if k ∈ s then s else s ++ [k]

theorem lookup_cons_ite (es : List (κ × ν)) (k a : κ) (b : ν) :
    ((k, b) :: es).lookup a = if a = k then some b else es.lookup a := by
  by_cases h : a = k
  · simp [List.lookup_cons, h]
  · simp [List.lookup_cons, h, beq_false_of_ne h]

@[simp] theorem lookup_mapInsert (m : List (κ × ν)) (k k' : κ) (v : ν) :
    (mapInsert m k v).lookup k' =
      if k' = k then some ((m.lookup k).getD v) else m.lookup k' := by
  unfold mapInsert
  by_cases hk : k' = k
  · subst hk
    cases h : m.lookup k' <;> simp [h, List.lookup_append, lookup_cons_ite]
  · split <;> cases h : m.lookup k' <;> simp [List.lookup_append, lookup_cons_ite, hk, h]

@[simp] theorem lookup_mapModify (m : List (κ × ν)) (k k' : κ) (f : ν → ν) :
    (mapModify m k f).lookup k' = if k' = k then (m.lookup k).map f else m.lookup k' := by
  induction m with
  | nil => simp [mapModify]
  | cons e m ih =>
    obtain ⟨k₀, v₀⟩ := e
    have hcons : mapModify ((k₀, v₀) :: m) k f =
        (k₀, if k₀ = k then f v₀ else v₀) :: mapModify m k f := by
      by_cases h₀ : k₀ = k <;> simp [mapModify, h₀]
    rw [hcons, lookup_cons_ite, lookup_cons_ite, ih]
    by_cases h₀ : k₀ = k
    · subst h₀; by_cases h : k' = k₀ <;> simp [h, lookup_cons_ite]
    · by_cases h : k' = k₀
      · subst h; simp [h₀, lookup_cons_ite]
      · simp [h, h₀, Ne.symm h₀, lookup_cons_ite]

@[simp] theorem mem_setInsert (s : List κ) (k k' : κ) :
    k' ∈ setInsert s k ↔ k' = k ∨ k' ∈ s := by
  unfold setInsert
  split <;> simp_all [or_comm]

end StdMap

/-! ## Section 2: keyspaces of the key-value store

    The key-value maps are two-level JSON objects: keyspace, then key name. -/

section Keyspace

variable {α : Type}

/-- `ensureKeyspaceExists`: the keyspace object is created empty when
    absent. -/
def ensureKeyspaceExists (entity : JsonMap (JsonMap α)) (keySpaceStr : String) :
    JsonMap (JsonMap α) :=
  if entity.contains keySpaceStr then entity else entity.set keySpaceStr .empty

/-- `ensureKeyspaceExists` followed by an update through the reference it
    returns: the keyspace object, created empty when absent, becomes `f` of
    itself. -/
def withKeyspace (entity : JsonMap (JsonMap α)) (keySpaceStr : String)
    (f : JsonMap α → JsonMap α) : JsonMap (JsonMap α) :=
  let e := ensureKeyspaceExists entity keySpaceStr
  e.set keySpaceStr (f ((e.find? keySpaceStr).getD .empty))

/-- The value of a key in a keyspace, if both exist. -/
def kvLookup (entity : JsonMap (JsonMap α)) (keySpaceStr keyNameStr : String) : Option α :=
  (entity.find? keySpaceStr).bind (·.find? keyNameStr)

theorem find?_ensureKeyspaceExists (entity : JsonMap (JsonMap α)) (ks k : String) :
    (ensureKeyspaceExists entity ks).find? k =
      if k = ks then some ((entity.find? ks).getD .empty) else entity.find? k := by
  unfold ensureKeyspaceExists
  by_cases hk : k = ks
  · subst hk
    cases h : entity.find? k <;> simp [h, JsonMap.contains]
  · split <;> simp [hk]

@[simp] theorem find?_withKeyspace (entity : JsonMap (JsonMap α)) (ks k : String)
    (f : JsonMap α → JsonMap α) :
    (withKeyspace entity ks f).find? k =
      if k = ks then some (f ((entity.find? ks).getD .empty)) else entity.find? k := by
  by_cases hk : k = ks <;> simp [withKeyspace, find?_ensureKeyspaceExists, hk]

theorem kvLookup_eq_getD (entity : JsonMap (JsonMap α)) (ks kn : String) :
    kvLookup entity ks kn = ((entity.find? ks).getD .empty).find? kn := by
  cases h : entity.find? ks <;> simp [kvLookup, h]

@[simp] theorem kvLookup_withKeyspace (entity : JsonMap (JsonMap α)) (ks k n : String)
    (f : JsonMap α → JsonMap α) :
    kvLookup (withKeyspace entity ks f) k n =
      if k = ks then (f ((entity.find? ks).getD .empty)).find? n else kvLookup entity k n := by
  by_cases hk : k = ks <;> simp [kvLookup, hk]

@[simp] theorem kvLookup_withKeyspace_set (entity : JsonMap (JsonMap α)) (ks kn k n : String)
    (v : α) : kvLookup (withKeyspace entity ks (·.set kn v)) k n =
      if k = ks ∧ n = kn then some v else kvLookup entity k n := by
  by_cases hk : k = ks
  · subst hk; by_cases hn : n = kn <;> simp [hn, kvLookup_eq_getD]
  · simp [hk]

@[simp] theorem kvLookup_withKeyspace_erase (entity : JsonMap (JsonMap α)) (ks kn k n : String) :
    kvLookup (withKeyspace entity ks (·.erase kn)) k n =
      if k = ks ∧ n = kn then none else kvLookup entity k n := by
  by_cases hk : k = ks
  · subst hk; by_cases hn : n = kn <;> simp [hn, kvLookup_eq_getD]
  · simp [hk]

end Keyspace

/-! ## Section 3: the context -/

/-- `ScriptStateContext`: the state a script reads and changes. -/
structure ScriptStateContext where
  /-- `_externalStateStruct`: the block headers the script may read. -/
  externalStateStruct : ContractStateExternalStruct
  /-- `_ftState`: the contract's FT balances. -/
  ftState : JsonMap UInt64
  /-- `_ftStateIncoming`: FT amounts the transaction may add. -/
  ftStateIncoming : JsonMap UInt64
  /-- `_nftState`: the NFTs the contract holds. -/
  nftState : JsonMap Bool
  /-- `_nftStateIncoming`: NFTs the transaction may put. -/
  nftStateIncoming : JsonMap Bool
  /-- `_contractState`: the key-value store. -/
  contractState : JsonMap (JsonMap String)
  /-- `_contractStateUpdates`: the pairs written in this execution. -/
  contractStateUpdates : JsonMap (JsonMap String)
  /-- `_contractStateDeletes`: the pairs deleted in this execution. -/
  contractStateDeletes : JsonMap (JsonMap Bool)
  /-- `_ftBalancesUpdates`: FT balances changed in this execution. -/
  ftBalancesUpdates : JsonMap UInt64
  /-- `_nftBalancesUpdates`: NFTs put (`true`) or withdrawn (`false`). -/
  nftBalancesUpdates : JsonMap Bool
  /-- `_ftAddsSet`: the incoming FT ids already added. -/
  ftAddsSet : List Uint288
  /-- `_nftPutsSet`: the incoming NFT ids already put. -/
  nftPutsSet : List Uint288
  /-- `_ftWithdrawMap`: per FT id, the amount withdrawn to each output. -/
  ftWithdrawMap : List (Uint288 × List (UInt32 × UInt64))
  /-- `_nftWithdrawMap`: per NFT id, the output it is withdrawn to. -/
  nftWithdrawMap : List (Uint288 × UInt32)
  deriving DecidableEq

namespace ScriptStateContext

/-- The context the constructor builds from its inputs, before validation:
    every delta, set and withdraw map starts empty. -/
def ofInputs (ftState ftStateIncoming : JsonMap UInt64) (nftState nftStateIncoming : JsonMap Bool)
    (contractState : JsonMap (JsonMap String)) (external : ContractStateExternalStruct) :
    ScriptStateContext :=
  { externalStateStruct := external
    ftState, ftStateIncoming, nftState, nftStateIncoming, contractState
    contractStateUpdates := .empty, contractStateDeletes := .empty
    ftBalancesUpdates := .empty, nftBalancesUpdates := .empty
    ftAddsSet := [], nftPutsSet := [], ftWithdrawMap := [], nftWithdrawMap := [] }

/-! ## Section 4: the key-value store -/

variable (c : ScriptStateContext)

/-- `contractStatePut`: the pair is written to the state and the updates and
    removed from the deletes.  Empty byte strings are stored as `"00"`. -/
def contractStatePut (keySpace keyName value : Valtype) : ScriptStateContext :=
  let keySpaceStr := hexStrWith00Null keySpace
  let keyNameStr := hexStrWith00Null keyName
  let valueStr := hexStrWith00Null value
  { c with
    contractState := withKeyspace c.contractState keySpaceStr (·.set keyNameStr valueStr)
    contractStateUpdates := withKeyspace c.contractStateUpdates keySpaceStr (·.set keyNameStr valueStr)
    contractStateDeletes := withKeyspace c.contractStateDeletes keySpaceStr (·.erase keyNameStr) }

/-- `contractStateDelete`: the pair is removed from the state and the updates
    and marked in the deletes. -/
def contractStateDelete (keySpace keyName : Valtype) : ScriptStateContext :=
  let keySpaceStr := hexStrWith00Null keySpace
  let keyNameStr := hexStrWith00Null keyName
  { c with
    contractState := withKeyspace c.contractState keySpaceStr (·.erase keyNameStr)
    contractStateUpdates := withKeyspace c.contractStateUpdates keySpaceStr (·.erase keyNameStr)
    contractStateDeletes := withKeyspace c.contractStateDeletes keySpaceStr (·.set keyNameStr true) }

/-- `contractStateGet`: the stored value, looked up under the plain `HexStr`
    of the keyspace and key. -/
def contractStateGet (keySpace keyName : Valtype) : Option Valtype :=
  (kvLookup c.contractState (hexStr keySpace) (hexStr keyName)).map parseHex

/-- `contractStateExists`. -/
def contractStateExists (keySpace keyName : Valtype) : Bool :=
  (kvLookup c.contractState (hexStr keySpace) (hexStr keyName)).isSome

/-! ## Section 5: token balances -/

/-- `contractWithdrawFt`: debits the balance and records the withdrawal in
    `_ftWithdrawMap` with `std::map::insert`, which keeps an earlier amount
    recorded for the same output. -/
def contractWithdrawFt (ftId : Uint288) (index : UInt32) (withdrawAmount : UInt64) :
    Bool × ScriptStateContext :=
  let ftIdStr := ftId.getHex
  if withdrawAmount ≤ 0 then (false, c) else
  match c.ftState.find? ftIdStr with
  | none => (false, c)
  | some availableBalance =>
    if withdrawAmount > availableBalance then (false, c) else
    let updatedBalance := availableBalance - withdrawAmount
    (true, { c with
      ftState := if updatedBalance = 0 then c.ftState.erase ftIdStr
        else c.ftState.set ftIdStr updatedBalance
      ftBalancesUpdates := c.ftBalancesUpdates.set ftIdStr updatedBalance
      ftWithdrawMap := mapModify (mapInsert c.ftWithdrawMap ftId []) ftId
        (fun outputs => mapInsert outputs index withdrawAmount) })

/-- `contractWithdrawNft`. -/
def contractWithdrawNft (nftId : Uint288) (index : UInt32) : Bool × ScriptStateContext :=
  let nftIdStr := nftId.getHex
  if !c.nftState.contains nftIdStr then (false, c) else
  (true, { c with
    nftState := c.nftState.erase nftIdStr
    nftBalancesUpdates := c.nftBalancesUpdates.set nftIdStr false
    nftWithdrawMap := mapInsert c.nftWithdrawMap nftId index })

/-- `performNftPut`. -/
def performNftPut (nftId : Uint288) : Bool × ScriptStateContext :=
  let nftIdStr := nftId.getHex
  let c' := { c with nftPutsSet := setInsert c.nftPutsSet nftId }
  if !c.nftStateIncoming.contains nftIdStr then (false, c') else
  (true, { c' with
    nftState := c.nftState.set nftIdStr true
    nftBalancesUpdates := c.nftBalancesUpdates.set nftIdStr true })

/-- `contractNftPut`: an incoming entry whose value is `false` makes it
    throw a pointer. -/
def contractNftPut (nftId : Uint288) : Except Thrown (Bool × ScriptStateContext) :=
  match c.nftStateIncoming.find? nftId.getHex with
  | none => .ok (false, c)
  | some incomingAllowed =>
    if nftId ∈ c.nftPutsSet then .ok (false, c)
    else if !incomingAllowed then .error (.ptr .nftBalanceFormat)
    else .ok (c.performNftPut nftId)

/-- `performFtBalanceAdd`: the sum is computed in `uint64_t`, so it wraps. -/
def performFtBalanceAdd (ftId : Uint288) (amount : UInt64) : Bool × ScriptStateContext :=
  if amount ≤ 0 then (false, c) else
  let c' := { c with ftAddsSet := setInsert c.ftAddsSet ftId }
  let ftIdStr := ftId.getHex
  match c.ftStateIncoming.find? ftIdStr with
  | none => (false, c')
  | some allowedToAddUpTo =>
    if amount > allowedToAddUpTo then (false, c') else
    let currentValue := (c.ftState.find? ftIdStr).getD 0 + amount
    (true, { c' with
      ftState := c.ftState.set ftIdStr currentValue
      ftBalancesUpdates := c.ftBalancesUpdates.set ftIdStr currentValue })

/-- `contractFtBalanceAdd`: adds the whole incoming amount, once per id. -/
def contractFtBalanceAdd (ftId : Uint288) : Bool × ScriptStateContext :=
  match c.ftStateIncoming.find? ftId.getHex with
  | none => (false, c)
  | some allowedToAddUpTo =>
    if ftId ∈ c.ftAddsSet then (false, c)
    else c.performFtBalanceAdd ftId allowedToAddUpTo

/-! ## Section 6: cleanup and the emitted maps -/

/-- A range-for over `items()` whose body calls `entity.erase(key)` on the
    entry it stands on.  The erase invalidates the loop's iterator, which the
    loop then advances: undefined behaviour, reached at the first entry
    `erases` picks.  A map with no such entry is left as it was. -/
def eraseWhileIterating {α : Type} (erases : α → Bool) (entity : JsonMap α) :
    Except Thrown (JsonMap α) :=
  if entity.entries.any (erases ·.2) then .error .undefined else .ok entity

/-- `cleanupKeyspaces`: erases every empty keyspace inside the loop. -/
def cleanupKeyspaces {α : Type} (entity : JsonMap (JsonMap α)) :
    Except Thrown (JsonMap (JsonMap α)) :=
  eraseWhileIterating JsonMap.isEmpty entity

/-- `cleanupEmptyFtTokenBalance`: erases every zero balance inside the loop. -/
def cleanupEmptyFtTokenBalance (entity : JsonMap UInt64) : Except Thrown (JsonMap UInt64) :=
  eraseWhileIterating (· == 0) entity

/-- `cleanupEmptyNftTokenBalance`: erases every `false` entry inside the
    loop. -/
def cleanupEmptyNftTokenBalance (entity : JsonMap Bool) : Except Thrown (JsonMap Bool) :=
  eraseWhileIterating (! ·) entity

/-- `cleanupStateAndBalances`. -/
def cleanupStateAndBalances : Except Thrown ScriptStateContext := do
  let contractState ← cleanupKeyspaces c.contractState
  let contractStateUpdates ← cleanupKeyspaces c.contractStateUpdates
  let contractStateDeletes ← cleanupKeyspaces c.contractStateDeletes
  let ftState ← cleanupEmptyFtTokenBalance c.ftState
  let nftState ← cleanupEmptyNftTokenBalance c.nftState
  return { c with contractState, contractStateUpdates, contractStateDeletes, ftState, nftState }

/-- Nothing for cleanup to erase: no empty keyspace in the three key-value
    maps, no zero FT balance and no `false` NFT entry. -/
def isClean : Bool :=
  !(c.contractState.entries.any (·.2.isEmpty) || c.contractStateUpdates.entries.any (·.2.isEmpty) ||
    c.contractStateDeletes.entries.any (·.2.isEmpty) || c.ftState.entries.any (·.2 == 0) ||
    c.nftState.entries.any (! ·.2))

/-- `encodeFtWithdrawMap`: `{GetHex(id): {to_string(output): amount}}`; an
    id with no recorded output has no entry. -/
def encodeFtWithdrawMap : JsonMap (JsonMap UInt64) :=
  c.ftWithdrawMap.foldl (fun acc e => e.2.foldl (fun acc o =>
    withKeyspace acc e.1.getHex (·.set (toString o.1.toNat) o.2)) acc) .empty

/-- `encodeNftWithdrawMap`: `{GetHex(id): output}`. -/
def encodeNftWithdrawMap : JsonMap UInt32 :=
  c.nftWithdrawMap.foldl (fun acc e => acc.set e.1.getHex e.2) .empty

/-- `encodeFtIncomingBalancesAddedMap`: `{GetHex(id): true}` per added id. -/
def encodeFtIncomingBalancesAddedMap : JsonMap Bool :=
  c.ftAddsSet.foldl (fun acc id => acc.set id.getHex true) .empty

/-- `encodeNftIncomingPutsMap`: `{GetHex(id): true}` per id put. -/
def encodeNftIncomingPutsMap : JsonMap Bool :=
  c.nftPutsSet.foldl (fun acc id => acc.set id.getHex true) .empty

/-- Cleanup returns the context unchanged when there is nothing to erase,
    and otherwise reaches the erase inside a loop. -/
theorem cleanupStateAndBalances_eq :
    c.cleanupStateAndBalances = if c.isClean then .ok c else .error .undefined := by
  unfold cleanupStateAndBalances isClean cleanupKeyspaces cleanupEmptyFtTokenBalance
    cleanupEmptyNftTokenBalance eraseWhileIterating
  -- each loop in turn either stops in undefined behaviour or hands its map on
  cases c.contractState.entries.any (·.2.isEmpty)
  case true => rfl
  cases c.contractStateUpdates.entries.any (·.2.isEmpty)
  case true => rfl
  cases c.contractStateDeletes.entries.any (·.2.isEmpty)
  case true => rfl
  cases c.ftState.entries.any (·.2 == 0)
  case true => rfl
  cases c.nftState.entries.any (! ·.2) <;> rfl

theorem eq_of_cleanupStateAndBalances_eq_ok {f : ScriptStateContext}
    (h : c.cleanupStateAndBalances = .ok f) : f = c := by
  rw [cleanupStateAndBalances_eq] at h
  split at h <;> cases h
  rfl

/-- What `isClean` says of each map. -/
theorem isClean_iff : c.isClean = true ↔
    (∀ e ∈ c.contractState.entries, e.2.entries ≠ []) ∧
    (∀ e ∈ c.contractStateUpdates.entries, e.2.entries ≠ []) ∧
    (∀ e ∈ c.contractStateDeletes.entries, e.2.entries ≠ []) ∧
    (∀ e ∈ c.ftState.entries, e.2 ≠ 0) ∧ (∀ e ∈ c.nftState.entries, e.2 = true) := by
  simp only [isClean, JsonMap.isEmpty, Bool.not_or, Bool.and_eq_true, Bool.not_eq_eq_eq_not,
    Bool.not_true, List.any_eq_false, List.isEmpty_eq_true, and_assoc, beq_iff_eq,
    Bool.not_eq_false, ne_eq]

/-! ## Section 7: what a successful method did -/

variable {c c' : ScriptStateContext}

theorem contractWithdrawFt_true {ftId : Uint288} {index : UInt32} {amount : UInt64}
    (h : c.contractWithdrawFt ftId index amount = (true, c')) :
    ∃ bal, c.ftState.find? ftId.getHex = some bal ∧ 0 < amount ∧ amount ≤ bal ∧
      c' = { c with
        ftState := if bal - amount = 0 then c.ftState.erase ftId.getHex
          else c.ftState.set ftId.getHex (bal - amount)
        ftBalancesUpdates := c.ftBalancesUpdates.set ftId.getHex (bal - amount)
        ftWithdrawMap := mapModify (mapInsert c.ftWithdrawMap ftId []) ftId
          (fun outputs => mapInsert outputs index amount) } := by
  unfold contractWithdrawFt at h
  dsimp only at h
  by_cases h0 : amount ≤ 0
  · rw [if_pos h0] at h; cases h
  rw [if_neg h0] at h
  cases hbal : c.ftState.find? ftId.getHex with
  | none => rw [hbal] at h; cases h
  | some bal =>
    rw [hbal] at h
    dsimp only at h
    by_cases h1 : amount > bal
    · rw [if_pos h1] at h; cases h
    rw [if_neg h1] at h
    cases h
    exact ⟨bal, rfl, UInt64.not_le.mp h0, UInt64.not_lt.mp h1, rfl⟩

theorem contractWithdrawNft_true {nftId : Uint288} {index : UInt32}
    (h : c.contractWithdrawNft nftId index = (true, c')) :
    c.nftState.contains nftId.getHex = true ∧
      c' = { c with
        nftState := c.nftState.erase nftId.getHex
        nftBalancesUpdates := c.nftBalancesUpdates.set nftId.getHex false
        nftWithdrawMap := mapInsert c.nftWithdrawMap nftId index } := by
  unfold contractWithdrawNft at h
  dsimp only at h
  split_ifs at h with h0
  · cases h
  · cases h; exact ⟨by simpa using h0, rfl⟩

theorem contractNftPut_true {nftId : Uint288}
    (h : c.contractNftPut nftId = .ok (true, c')) :
    c.nftStateIncoming.find? nftId.getHex = some true ∧ nftId ∉ c.nftPutsSet ∧
      c' = { c with
        nftPutsSet := setInsert c.nftPutsSet nftId
        nftState := c.nftState.set nftId.getHex true
        nftBalancesUpdates := c.nftBalancesUpdates.set nftId.getHex true } := by
  unfold contractNftPut at h
  cases hin : c.nftStateIncoming.find? nftId.getHex with
  | none => rw [hin] at h; cases h
  | some allowed =>
    rw [hin] at h
    dsimp only at h
    by_cases h1 : nftId ∈ c.nftPutsSet
    · rw [if_pos h1] at h; cases h
    rw [if_neg h1] at h
    cases allowed
    · cases h
    · have hc : c.nftStateIncoming.contains nftId.getHex = true := by
        simp [JsonMap.contains, hin]
      simp only [Bool.not_true, Bool.false_eq_true, ite_false, performNftPut, hc,
        Except.ok.injEq, Prod.mk.injEq, true_and] at h
      exact ⟨rfl, h1, h.symm⟩

theorem contractFtBalanceAdd_true {ftId : Uint288}
    (h : c.contractFtBalanceAdd ftId = (true, c')) :
    ∃ amount, c.ftStateIncoming.find? ftId.getHex = some amount ∧ ftId ∉ c.ftAddsSet ∧
      0 < amount ∧
      c' = { c with
        ftAddsSet := setInsert c.ftAddsSet ftId
        ftState := c.ftState.set ftId.getHex ((c.ftState.find? ftId.getHex).getD 0 + amount)
        ftBalancesUpdates :=
          c.ftBalancesUpdates.set ftId.getHex ((c.ftState.find? ftId.getHex).getD 0 + amount) } := by
  unfold contractFtBalanceAdd at h
  split at h
  · cases h
  · rename_i amount hin
    split_ifs at h with h1
    · cases h
    · unfold performFtBalanceAdd at h
      dsimp only at h
      split_ifs at h with h0
      · cases h
      · simp only [hin, UInt64.lt_irrefl, ite_false, Prod.mk.injEq, true_and] at h
        exact ⟨amount, hin, h1, UInt64.not_le.mp h0, h.symm⟩

end ScriptStateContext

/-! ## Section 8: state operations as steps -/

/-- The state methods the AVM opcodes call that may change the context. -/
inductive StateOp
  | kvPut (keySpace keyName value : Valtype)
  | kvDelete (keySpace keyName : Valtype)
  | ftBalanceAdd (ftId : Uint288)
  | ftWithdraw (ftId : Uint288) (index : UInt32) (amount : UInt64)
  | nftPut (nftId : Uint288)
  | nftWithdraw (nftId : Uint288) (index : UInt32)
  deriving DecidableEq

/-- The context after a method that returns `true`; `none` when it returns
    `false`, where the calling opcode fails the script. -/
def ofResult (r : Bool × ScriptStateContext) : Option ScriptStateContext :=
  if r.1 then some r.2 else none

@[simp] theorem ofResult_eq_some {r : Bool × ScriptStateContext} {c' : ScriptStateContext} :
    ofResult r = some c' ↔ r = (true, c') := by
  obtain ⟨b, c⟩ := r
  cases b <;> simp [ofResult, eq_comm]

/-- One state operation: the context after it, or `none` when the method
    returns `false` or throws. -/
def StateOp.run (c : ScriptStateContext) : StateOp → Option ScriptStateContext
  | .kvPut ks kn v => some (c.contractStatePut ks kn v)
  | .kvDelete ks kn => some (c.contractStateDelete ks kn)
  | .ftBalanceAdd id => ofResult (c.contractFtBalanceAdd id)
  | .ftWithdraw id i a => ofResult (c.contractWithdrawFt id i a)
  | .nftPut id => match c.contractNftPut id with
    | .ok r => ofResult r
    | .error _ => none
  | .nftWithdraw id i => ofResult (c.contractWithdrawNft id i)

/-- A run of state operations that all succeed. -/
def runOps (c : ScriptStateContext) : List StateOp → Option ScriptStateContext
  | [] => some c
  | op :: ops => (op.run c).bind (runOps · ops)

@[simp] theorem runOps_nil (c : ScriptStateContext) : runOps c [] = some c := rfl

@[simp] theorem runOps_cons (c : ScriptStateContext) (op : StateOp) (ops : List StateOp) :
    runOps c (op :: ops) = (op.run c).bind (runOps · ops) := rfl

/-- A property kept by every successful operation holds after every
    successful run. -/
theorem runOps_induction {P : ScriptStateContext → Prop}
    (hstep : ∀ c (op : StateOp) c', P c → op.run c = some c' → P c') :
    ∀ {c c' : ScriptStateContext} {ops : List StateOp}, P c → runOps c ops = some c' → P c'
  | _, _, [], hc, h => by simp_all
  | c, c', op :: ops, hc, h => by
    simp only [runOps_cons, Option.bind_eq_some] at h
    obtain ⟨c₁, h₁, h₂⟩ := h
    exact runOps_induction hstep (hstep c op c₁ hc h₁) h₂

end Avm
