import Avm.Interpreter

/-! # The key-value store

    The key-value opcodes keep a two-level JSON object of hex strings.
    OP_KV_PUT and OP_KV_DELETE name the pair with `HexStrWith00Null`, which
    prints the empty byte string as `"00"`, the hex of the single byte
    `0x00`; OP_KV_GET and OP_KV_EXISTS name it with plain `HexStr`, which
    prints it as `""`, a key no formatted state holds.  OP_KV_PUT stores its
    value through `HexStrWith00Null` too, and OP_KV_GET pushes `ParseHex` of
    what is stored.

    So the store is a finite map from keyspace and key to value
    (`KvStore`), read by OP_KV_GET and OP_KV_EXISTS, on which OP_KV_PUT and
    OP_KV_DELETE act at the pair `(nullAs00 ks, nullAs00 kn)` with the
    value `nullAs00 v`, where `nullAs00` turns the empty byte string into
    `[0x00]` and keeps the others (`kv_opcodes_refine_store`).  For non-empty
    byte strings this is the plain finite map; an empty value reads back as
    `[0x00]`, and a pair written with an empty keyspace or key is read only
    through `[0x00]`.
-/

namespace Avm

open ScriptStateContext

/-! ## Section 1: the abstract store -/

/-- A finite map from keyspace and key to value. -/
def KvStore : Type := Valtype → Valtype → Option Valtype

namespace KvStore

/-- The store with one pair set. -/
def put (M : KvStore) (ks kn v : Valtype) : KvStore :=
  fun ks' kn' => if ks' = ks ∧ kn' = kn then some v else M ks' kn'

/-- The store with one pair removed. -/
def delete (M : KvStore) (ks kn : Valtype) : KvStore :=
  fun ks' kn' => if ks' = ks ∧ kn' = kn then none else M ks' kn'

variable (M : KvStore) (ks kn v : Valtype)

@[simp] theorem put_same : M.put ks kn v ks kn = some v := by simp [put]

@[simp] theorem delete_same : M.delete ks kn ks kn = none := by simp [delete]

@[simp] theorem put_other {ks' kn' : Valtype} (h : ¬(ks' = ks ∧ kn' = kn)) :
    M.put ks kn v ks' kn' = M ks' kn' := by simp [put, h]

@[simp] theorem delete_other {ks' kn' : Valtype} (h : ¬(ks' = ks ∧ kn' = kn)) :
    M.delete ks kn ks' kn' = M ks' kn' := by simp [delete, h]

end KvStore

/-! ## Section 2: the store a context holds -/

/-- The bytes `HexStrWith00Null v` spells: `[0x00]` for the empty string,
    `v` otherwise. -/
def nullAs00 (v : Valtype) : Valtype := if v = [] then [0] else v

theorem hexStrWith00Null_eq_hexStr (v : Valtype) : hexStrWith00Null v = hexStr (nullAs00 v) := by
  unfold hexStrWith00Null nullAs00
  split <;> simp_all; rfl

/-- The store OP_KV_GET reads. -/
def ScriptStateContext.kvStore (c : ScriptStateContext) : KvStore := c.contractStateGet

variable (c : ScriptStateContext) (ks kn v : Valtype)

theorem kvStore_contractStatePut :
    (c.contractStatePut ks kn v).kvStore = c.kvStore.put (nullAs00 ks) (nullAs00 kn) (nullAs00 v) := by
  funext ks' kn'
  simp only [ScriptStateContext.kvStore, contractStateGet, contractStatePut, KvStore.put,
    hexStrWith00Null_eq_hexStr, kvLookup_withKeyspace_set]
  by_cases h : ks' = nullAs00 ks ∧ kn' = nullAs00 kn
  · simp [h, parseHex_hexStrWith00Null, nullAs00]
  · have : ¬(hexStr ks' = hexStr (nullAs00 ks) ∧ hexStr kn' = hexStr (nullAs00 kn)) :=
      fun ⟨h₁, h₂⟩ => h ⟨hexStr_injective h₁, hexStr_injective h₂⟩
    simp only [this, h, if_false]

theorem kvStore_contractStateDelete :
    (c.contractStateDelete ks kn).kvStore = c.kvStore.delete (nullAs00 ks) (nullAs00 kn) := by
  funext ks' kn'
  simp only [ScriptStateContext.kvStore, contractStateGet, contractStateDelete, KvStore.delete,
    hexStrWith00Null_eq_hexStr, kvLookup_withKeyspace_erase]
  by_cases h : ks' = nullAs00 ks ∧ kn' = nullAs00 kn
  · simp [h]
  · have : ¬(hexStr ks' = hexStr (nullAs00 ks) ∧ hexStr kn' = hexStr (nullAs00 kn)) :=
      fun ⟨h₁, h₂⟩ => h ⟨hexStr_injective h₁, hexStr_injective h₂⟩
    simp only [this, h, if_false]

theorem contractStateExists_eq_isSome : c.contractStateExists ks kn = (c.kvStore ks kn).isSome := by
  simp [contractStateExists, ScriptStateContext.kvStore, contractStateGet]

/-- No formatted map holds the empty string as a key. -/
theorem find?_empty_key_of_hex {α : Type} {m : JsonMap α}
    (hm : ∀ e ∈ m.entries, isHexStr e.1 = true) : m.find? "" = none := by
  cases h : m.find? "" with
  | none => rfl
  | some x => exact absurd (hm _ (JsonMap.mem_of_find? h)) (by decide : ¬isHexStr "" = true)

/-- In a formatted context no pair with an empty keyspace or key is found. -/
theorem kvStore_empty_of_formatted {c : ScriptStateContext} (hf : Formatted c) (ks kn : Valtype) :
    c.kvStore [] kn = none ∧ c.kvStore ks [] = none := by
  have hks : c.contractState.find? "" = none :=
    find?_empty_key_of_hex fun e he => (hf.contractState e he).1
  refine ⟨by simp [ScriptStateContext.kvStore, contractStateGet, kvLookup, hks], ?_⟩
  simp only [ScriptStateContext.kvStore, contractStateGet, kvLookup, hexStr_nil,
    Option.map_eq_none', Option.bind_eq_none]
  intro node hnode
  exact find?_empty_key_of_hex fun x hx =>
    ((hf.contractState _ (JsonMap.mem_of_find? hnode)).2 x hx).1

/-! ## Section 3: the opcodes -/

section Opcodes

variable {env : Env} {ctx : ScriptExecutionContext} (hctx : env.context = some ctx)
  (m : Machine) (rest : List Valtype)
include hctx

/-- OP_KV_PUT on `v :: kn :: ks :: rest`, both names within 1024 bytes. -/
theorem execOpcode_kvPut (hks : ks.length ≤ maxStateKeySize) (hkn : kn.length ≤ maxStateKeySize) :
    execOpcode env true .OP_KV_PUT { m with stack := v :: kn :: ks :: rest } =
      .ok (.next { m with stack := rest, stateContext := m.stateContext.contractStatePut ks kn v }) := by
  have h₁ : ¬ks.length > maxStateKeySize := Nat.not_lt.mpr hks
  have h₂ : ¬kn.length > maxStateKeySize := Nat.not_lt.mpr hkn
  obtain ⟨_, _, _, _, _, _⟩ := env
  subst hctx
  show execAvmTernary ctx .OP_KV_PUT v kn ks rest { m with stack := v :: kn :: ks :: rest } = _
  simp only [execAvmTernary, h₁, h₂, if_false]

/-- OP_KV_DELETE on `kn :: ks :: rest`. -/
theorem execOpcode_kvDelete :
    execOpcode env true .OP_KV_DELETE { m with stack := kn :: ks :: rest } =
      .ok (.next { m with stack := rest, stateContext := m.stateContext.contractStateDelete ks kn }) := by
  obtain ⟨_, _, _, _, _, _⟩ := env
  subst hctx
  rfl

/-- OP_KV_GET on `kn :: ks :: rest`. -/
theorem execOpcode_kvGet :
    execOpcode env true .OP_KV_GET { m with stack := kn :: ks :: rest } =
      match m.stateContext.kvStore ks kn with
      | some w => next { m with stack := kn :: ks :: rest } (w :: rest)
      | none => fail .INVALID_AVM_STATE_KEY_NOT_FOUND { m with stack := kn :: ks :: rest } := by
  obtain ⟨_, _, _, _, _, _⟩ := env
  subst hctx
  show (match m.stateContext.contractStateGet ks kn with
    | some w => next { m with stack := kn :: ks :: rest } (w :: rest)
    | none => fail .INVALID_AVM_STATE_KEY_NOT_FOUND { m with stack := kn :: ks :: rest }) = _
  rfl

/-- OP_KV_EXISTS on `kn :: ks :: rest`. -/
theorem execOpcode_kvExists :
    execOpcode env true .OP_KV_EXISTS { m with stack := kn :: ks :: rest } =
      next { m with stack := kn :: ks :: rest } (vchBool (m.stateContext.kvStore ks kn).isSome :: rest) := by
  rw [← contractStateExists_eq_isSome]
  obtain ⟨_, _, _, _, _, _⟩ := env
  subst hctx
  rfl

end Opcodes

/-! ## Section 4: the opcodes refine the store -/

/-- On a context reachable from one the constructor accepts, the key-value
    opcodes act on the store `M` the context holds as a finite map does,
    at the names and value as `HexStrWith00Null` prints them: OP_KV_PUT sets
    `(nullAs00 ks, nullAs00 kn)` to `nullAs00 v`, OP_KV_DELETE removes that
    pair, OP_KV_GET pushes what `M` holds at `(ks, kn)` or fails with
    INVALID_AVM_STATE_KEY_NOT_FOUND, OP_KV_EXISTS pushes whether `M` holds
    it, and `M` holds nothing under an empty keyspace or key. -/
theorem kv_opcodes_refine_store (env : Env) (ctx : ScriptExecutionContext)
    (hctx : env.context = some ctx) (L : StateLimits) (ftState ftStateIncoming : JsonMap UInt64)
    (nftState nftStateIncoming : JsonMap Bool) (contractState : JsonMap (JsonMap String))
    (external : ContractStateExternalStruct) (c₀ : ScriptStateContext)
    (hc₀ : create L ftState ftStateIncoming nftState nftStateIncoming contractState external =
      .ok c₀)
    (ops : List StateOp) (m : Machine) (hrun : runOps c₀ ops = some m.stateContext)
    (ks kn v : Valtype) (rest : List Valtype)
    (hks : ks.length ≤ maxStateKeySize) (hkn : kn.length ≤ maxStateKeySize) :
    let M := m.stateContext.kvStore
    (∃ m', execOpcode env true .OP_KV_PUT { m with stack := v :: kn :: ks :: rest } =
        .ok (.next m') ∧ m'.stack = rest ∧
        m'.stateContext.kvStore = M.put (nullAs00 ks) (nullAs00 kn) (nullAs00 v)) ∧
    (∃ m', execOpcode env true .OP_KV_DELETE { m with stack := kn :: ks :: rest } =
        .ok (.next m') ∧ m'.stack = rest ∧
        m'.stateContext.kvStore = M.delete (nullAs00 ks) (nullAs00 kn)) ∧
    execOpcode env true .OP_KV_GET { m with stack := kn :: ks :: rest } =
      (match M ks kn with
      | some w => next { m with stack := kn :: ks :: rest } (w :: rest)
      | none => fail .INVALID_AVM_STATE_KEY_NOT_FOUND { m with stack := kn :: ks :: rest }) ∧
    execOpcode env true .OP_KV_EXISTS { m with stack := kn :: ks :: rest } =
      next { m with stack := kn :: ks :: rest } (vchBool (M ks kn).isSome :: rest) ∧
    M [] kn = none ∧ M ks [] = none :=
  have hf : Formatted m.stateContext :=
    runOps_induction (fun _ _ _ hc h => hc.step h) (Formatted.of_create hc₀) hrun
  ⟨⟨_, execOpcode_kvPut ks kn v hctx m rest hks hkn, rfl, kvStore_contractStatePut ..⟩,
    ⟨_, execOpcode_kvDelete ks kn hctx m rest, rfl, kvStore_contractStateDelete ..⟩,
    execOpcode_kvGet ks kn hctx m rest, execOpcode_kvExists ks kn hctx m rest,
    kvStore_empty_of_formatted hf ks kn⟩

/-- The law at one pair of one-byte names on the constructor's empty
    context. -/
theorem kv_opcodes_refine_store_one_pair :
    let m := Machine.start [] emptyContext
    let M := m.stateContext.kvStore
    (∃ m', execOpcode sampleEnv true .OP_KV_PUT { m with stack := [[3], [2], [1]] } =
        .ok (.next m') ∧ m'.stack = [] ∧
        m'.stateContext.kvStore = M.put (nullAs00 [1]) (nullAs00 [2]) (nullAs00 [3])) ∧
    (∃ m', execOpcode sampleEnv true .OP_KV_DELETE { m with stack := [[2], [1]] } =
        .ok (.next m') ∧ m'.stack = [] ∧
        m'.stateContext.kvStore = M.delete (nullAs00 [1]) (nullAs00 [2])) ∧
    execOpcode sampleEnv true .OP_KV_GET { m with stack := [[2], [1]] } =
      (match M [1] [2] with
      | some w => next { m with stack := [[2], [1]] } [w]
      | none => fail .INVALID_AVM_STATE_KEY_NOT_FOUND { m with stack := [[2], [1]] }) ∧
    execOpcode sampleEnv true .OP_KV_EXISTS { m with stack := [[2], [1]] } =
      next { m with stack := [[2], [1]] } [vchBool (M [1] [2]).isSome] ∧
    M [] [2] = none ∧ M [1] [] = none :=
  kv_opcodes_refine_store sampleEnv _ rfl limits128k .empty .empty .empty .empty .empty ⟨[], 0⟩
    emptyContext rfl [] (.start [] emptyContext) rfl [1] [2] [3] [] (by decide) (by decide)

/-- Empty byte strings break the plain finite-map law: a value written empty
    reads back as `[0x00]`; a pair written under an empty keyspace is not
    found under that keyspace, but is found under `[0x00]`, a different
    keyspace whose pair the write changed. -/
theorem kv_empty_bytes_alias :
    ∃ m₁ m₂ : Machine,
      execOpcode sampleEnv true .OP_KV_PUT (.start [[], [2], [1]] emptyContext) =
        .ok (.next m₁) ∧
      execOpcode sampleEnv true .OP_KV_GET { m₁ with stack := [[2], [1]] } =
        next { m₁ with stack := [[2], [1]] } [[0]] ∧
      execOpcode sampleEnv true .OP_KV_PUT (.start [[5], [2], []] emptyContext) =
        .ok (.next m₂) ∧
      execOpcode sampleEnv true .OP_KV_GET { m₂ with stack := [[2], []] } =
        fail .INVALID_AVM_STATE_KEY_NOT_FOUND { m₂ with stack := [[2], []] } ∧
      execOpcode sampleEnv true .OP_KV_EXISTS { m₂ with stack := [[2], []] } =
        next { m₂ with stack := [[2], []] } [vchBool false] ∧
      execOpcode sampleEnv true .OP_KV_GET { m₂ with stack := [[2], [0]] } =
        next { m₂ with stack := [[2], [0]] } [[5]] :=
  ⟨_, _, rfl, rfl, rfl, rfl, rfl, rfl⟩

end Avm
