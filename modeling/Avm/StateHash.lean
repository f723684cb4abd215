import Avm.StateRun

/-! # The state commitment

    `CalculateStateHash` (script_utils.h) commits to the outcome of an
    execution: it serializes each of eleven maps, hashes each serialization
    with SHA-256, and hashes the previous state hash followed by the eleven
    hashes.  SHA-256 is not in the repository; it is a parameter here, and
    every statement holds for every function in its place.

    The serializers write the bytes of the keys, and of some values, one
    after the other, with no lengths or separators.  The FT and NFT balance
    serializers write keys only ("Do nothing with value because we only use
    the keys").  So the commitment does not bind FT amounts or NFT flags,
    and two key-value maps whose keys split the same bytes differently share
    a serialization.  What it binds: for maps keyed by token ids, whose keys
    all have 36 bytes, the serialization of a balance map determines its keys,
    and that of the NFT withdraw map determines the whole map.

    Integers are written with `memcpy`, in the byte order of the host, taken
    little-endian.  `atoi` reads the decimal output indices written by
    `std::to_string`.
-/

namespace Avm

open ScriptStateContext

/-! ## Section 1: byte encodings -/

/-- The `k` low bytes of `n`, least significant first. -/
def leBytes : Nat → Nat → Valtype
  | 0, _ => []
  | k + 1, n => UInt8.ofNat n :: leBytes k (n / 256)

/-- `SerializeUint32_t`. -/
def serializeUint32 (val : UInt32) : Valtype := leBytes 4 val.toNat

/-- `SerializeUint64_t`. -/
def serializeUint64 (val : UInt64) : Valtype := leBytes 8 val.toNat

/-- `atoi` on the decimal strings `std::to_string` writes: the value of the
    leading digits. -/
def atoi (s : String) : Nat :=
  (s.data.takeWhile Char.isDigit).foldl (fun n c => 10 * n + (c.toNat - 48)) 0

@[simp] theorem length_leBytes (k n : Nat) : (leBytes k n).length = k := by
  induction k generalizing n with
  | zero => rfl
  | succ k ih => simp [leBytes, ih]

theorem leValue_leBytes (k n : Nat) : leValue (leBytes k n) = n % 256 ^ k := by
  induction k generalizing n with
  | zero => simp [leBytes, leValue, Nat.mod_one]
  | succ k ih =>
    have hb : (UInt8.ofNat n).toNat = n % 256 := by simp [UInt8.ofNat, UInt8.toNat]
    rw [leBytes, leValue, ih, hb, pow_succ', Nat.mod_mul]

theorem serializeUint32_injective {a b : UInt32} (h : serializeUint32 a = serializeUint32 b) :
    a = b := by
  have := congrArg leValue h
  simp only [serializeUint32, leValue_leBytes] at this
  have ha : a.toNat < 256 ^ 4 := a.toNat_lt_size
  have hb : b.toNat < 256 ^ 4 := b.toNat_lt_size
  rw [Nat.mod_eq_of_lt ha, Nat.mod_eq_of_lt hb] at this
  exact UInt32.toNat.inj this

@[simp] theorem length_serializeUint32 (v : UInt32) : (serializeUint32 v).length = 4 :=
  length_leBytes _ _

/-! ## Section 2: the serializers -/

/-- `GetStateDataVectorOnlyStrings` on a key-value map: each keyspace, then
    each of its keys and values, as bytes. -/
def getStateDataVectorOnlyStrings (m : JsonMap (JsonMap String)) : Valtype :=
  m.entries.foldl (fun acc e => e.2.entries.foldl
    (fun acc x => acc ++ parseHex x.1 ++ parseHex x.2) (acc ++ parseHex e.1)) []

/-- `GetStateDataVectorOnly2LevelStringKeysBooleanValue`: the keys of both
    levels. -/
def getStateDataVectorOnly2LevelStringKeysBooleanValue (m : JsonMap (JsonMap Bool)) : Valtype :=
  m.entries.foldl (fun acc e => e.2.entries.foldl
    (fun acc x => acc ++ parseHex x.1) (acc ++ parseHex e.1)) []

/-- `GetStateDataVectorStringKeyIntValue`: the keys only. -/
def getStateDataVectorStringKeyIntValue (m : JsonMap UInt64) : Valtype :=
  m.entries.foldl (fun acc e => acc ++ parseHex e.1) []

/-- `GetStateDataVectorStringKeyBooleanValue`: the keys only. -/
def getStateDataVectorStringKeyBooleanValue (m : JsonMap Bool) : Valtype :=
  m.entries.foldl (fun acc e => acc ++ parseHex e.1) []

/-- The preimage of `GetStateDataHashNftWithdraws`: each key, then its
    output index. -/
def nftWithdrawsPreimage (m : JsonMap UInt32) : Valtype :=
  m.entries.foldl (fun acc e => acc ++ parseHex e.1 ++ serializeUint32 e.2) []

/-- The preimage of `GetStateDataHashFtWithdraws`: each key, then each output
    index and amount. -/
def ftWithdrawsPreimage (m : JsonMap (JsonMap UInt64)) : Valtype :=
  m.entries.foldl (fun acc e => e.2.entries.foldl
    (fun acc x => acc ++ serializeUint64 (UInt64.ofNat (atoi x.1)) ++ serializeUint64 x.2)
    (acc ++ parseHex e.1)) []

/-- What an execution emits and `CalculateStateHash` commits to. -/
structure StateOutcome where
  nftIncoming : JsonMap Bool
  ftIncoming : JsonMap UInt64
  kvFinal : JsonMap (JsonMap String)
  kvUpdates : JsonMap (JsonMap String)
  kvDeletes : JsonMap (JsonMap Bool)
  nftFinal : JsonMap Bool
  ftFinal : JsonMap UInt64
  nftUpdates : JsonMap Bool
  ftUpdates : JsonMap UInt64
  nftWithdraws : JsonMap UInt32
  ftWithdraws : JsonMap (JsonMap UInt64)
  deriving DecidableEq

/-- The outcome `atomicalsconsensus_verify_script_avm` passes to
    `CalculateStateHash` from the cleaned-up context.  The source passes the
    incoming maps as it received them; no operation changes the context's
    copies (`runOps_incoming`). -/
def StateOutcome.ofContext (c : ScriptStateContext) : StateOutcome :=
  { nftIncoming := c.nftStateIncoming, ftIncoming := c.ftStateIncoming
    kvFinal := c.contractState, kvUpdates := c.contractStateUpdates
    kvDeletes := c.contractStateDeletes
    nftFinal := c.nftState, ftFinal := c.ftState
    nftUpdates := c.nftBalancesUpdates, ftUpdates := c.ftBalancesUpdates
    nftWithdraws := c.encodeNftWithdrawMap, ftWithdraws := c.encodeFtWithdrawMap }

/-- The eleven component preimages, in the order `CalculateStateHash`
    appends their hashes. -/
def StateOutcome.components (o : StateOutcome) : List Valtype :=
  [getStateDataVectorStringKeyBooleanValue o.nftIncoming,
   getStateDataVectorStringKeyIntValue o.ftIncoming,
   getStateDataVectorOnlyStrings o.kvFinal,
   getStateDataVectorOnlyStrings o.kvUpdates,
   getStateDataVectorOnly2LevelStringKeysBooleanValue o.kvDeletes,
   getStateDataVectorStringKeyBooleanValue o.nftFinal,
   getStateDataVectorStringKeyIntValue o.ftFinal,
   getStateDataVectorStringKeyBooleanValue o.nftUpdates,
   getStateDataVectorStringKeyIntValue o.ftUpdates,
   nftWithdrawsPreimage o.nftWithdraws,
   ftWithdrawsPreimage o.ftWithdraws]

/-- The bytes `CalculateStateHash` feeds to its last SHA-256: the previous
    hash, then the hash of each component. -/
def StateOutcome.preimage (sha256 : Valtype → Valtype) (prevHash : Valtype)
    (o : StateOutcome) : Valtype :=
  prevHash ++ (o.components.map sha256).flatten

/-- `CalculateStateHash`. -/
def StateOutcome.calculateStateHash (sha256 : Valtype → Valtype) (prevHash : Valtype)
    (o : StateOutcome) : Valtype :=
  sha256 (o.preimage sha256 prevHash)

/-! ## Section 3: what the commitment binds -/

/-- Concatenations of chunks of one fixed length are equal only when the
    chunks are. -/
theorem flatten_inj_of_length {n : Nat} (hn : 0 < n) :
    ∀ {l₁ l₂ : List Valtype}, (∀ x ∈ l₁, x.length = n) → (∀ x ∈ l₂, x.length = n) →
      l₁.flatten = l₂.flatten → l₁ = l₂
  | [], [], _, _, _ => rfl
  | [], x :: _, _, h₂, h => by
    have := congrArg List.length h
    simp only [List.flatten_nil, List.length_nil, List.flatten_cons, List.length_append] at this
    have := h₂ x (List.mem_cons_self _ _); omega
  | x :: _, [], h₁, _, h => by
    have := congrArg List.length h
    simp only [List.flatten_nil, List.length_nil, List.flatten_cons, List.length_append] at this
    have := h₁ x (List.mem_cons_self _ _); omega
  | x :: l₁, y :: l₂, h₁, h₂, h => by
    simp only [List.flatten_cons] at h
    obtain ⟨rfl, ht⟩ := List.append_inj h ((h₁ x (List.mem_cons_self _ _)).trans
      (h₂ y (List.mem_cons_self _ _)).symm)
    rw [flatten_inj_of_length hn (fun z hz => h₁ z (List.mem_cons_of_mem _ hz))
      (fun z hz => h₂ z (List.mem_cons_of_mem _ hz)) ht]

/-- Two lists with equal images under `f` are equal when `f` separates the
    elements of the one from those of the other. -/
theorem eq_of_map_eq_of_injOn {α β : Type} (f : α → β) :
    ∀ {l₁ l₂ : List α}, (∀ x ∈ l₁, ∀ y ∈ l₂, f x = f y → x = y) → l₁.map f = l₂.map f → l₁ = l₂
  | [], [], _, _ => rfl
  | [], _ :: _, _, h => by simp at h
  | _ :: _, [], _, h => by simp at h
  | x :: l₁, y :: l₂, hf, h => by
    simp only [List.map_cons, List.cons.injEq] at h
    rw [hf x (List.mem_cons_self _ _) y (List.mem_cons_self _ _) h.1,
      eq_of_map_eq_of_injOn f (fun a ha b hb => hf a (List.mem_cons_of_mem _ ha) b
        (List.mem_cons_of_mem _ hb)) h.2]

/-- A key that is a token id: the hex of 36 bytes. -/
def IsTokenKey (k : String) : Prop := ∃ id : Uint288, k = id.getHex

/-- A map whose keys are all token ids. -/
def TokenKeyed {α : Type} (m : JsonMap α) : Prop := ∀ e ∈ m.entries, IsTokenKey e.1

/-- The keys of a map, in order. -/
def JsonMap.keys {α : Type} (m : JsonMap α) : List String := m.entries.map Prod.fst

theorem length_parseHex_of_isTokenKey {k : String} (h : IsTokenKey k) : (parseHex k).length = 36 := by
  obtain ⟨id, rfl⟩ := h
  simp [Uint288.getHex, id.size_eq]

theorem eq_of_parseHex_eq {k₁ k₂ : String} (h₁ : IsTokenKey k₁) (h₂ : IsTokenKey k₂)
    (h : parseHex k₁ = parseHex k₂) : k₁ = k₂ := by
  obtain ⟨id₁, rfl⟩ := h₁
  obtain ⟨id₂, rfl⟩ := h₂
  simp only [Uint288.getHex, parseHex_hexStr] at h ⊢
  rw [h]

/-- The key-only serializations write the keys' bytes one after the other. -/
theorem foldl_parseHex_keys {α : Type} (m : JsonMap α) :
    m.entries.foldl (fun acc e => acc ++ parseHex e.1) [] = (m.keys.map parseHex).flatten := by
  rw [← List.flatMap_eq_foldl, List.flatMap_def, JsonMap.keys, List.map_map]
  rfl

/-- On token ids, the key-only serialization determines the keys, in order. -/
theorem keysSerialization_inj {α β : Type} {m₁ : JsonMap α} {m₂ : JsonMap β}
    (h₁ : TokenKeyed m₁) (h₂ : TokenKeyed m₂) :
    m₁.entries.foldl (fun acc e => acc ++ parseHex e.1) [] =
      m₂.entries.foldl (fun acc e => acc ++ parseHex e.1) [] ↔ m₁.keys = m₂.keys := by
  have hk : ∀ {γ : Type} (m : JsonMap γ), TokenKeyed m → ∀ k ∈ m.keys, IsTokenKey k :=
    fun m hm k hk => by
      obtain ⟨e, he, rfl⟩ := List.mem_map.mp hk
      exact hm e he
  rw [foldl_parseHex_keys, foldl_parseHex_keys]
  refine ⟨fun h => ?_, fun h => by rw [h]⟩
  have hlen : ∀ {γ : Type} (m : JsonMap γ), TokenKeyed m →
      ∀ x ∈ m.keys.map parseHex, x.length = 36 := fun m hm x hx => by
    obtain ⟨k, hk', rfl⟩ := List.mem_map.mp hx
    exact length_parseHex_of_isTokenKey (hk m hm k hk')
  have hl := flatten_inj_of_length (by decide) (hlen m₁ h₁) (hlen m₂ h₂) h
  exact eq_of_map_eq_of_injOn parseHex
    (fun x hx y hy => eq_of_parseHex_eq (hk m₁ h₁ x hx) (hk m₂ h₂ y hy)) hl

/-- The NFT withdraw serialization determines the map, on token ids. -/
theorem nftWithdrawsPreimage_inj {m₁ m₂ : JsonMap UInt32} (h₁ : TokenKeyed m₁)
    (h₂ : TokenKeyed m₂) (h : nftWithdrawsPreimage m₁ = nftWithdrawsPreimage m₂) : m₁ = m₂ := by
  let chunk : String × UInt32 → Valtype := fun e => parseHex e.1 ++ serializeUint32 e.2
  have hf : ∀ m : JsonMap UInt32, nftWithdrawsPreimage m = (m.entries.map chunk).flatten :=
    fun m => by
      rw [nftWithdrawsPreimage, ← List.flatMap_def, List.flatMap_eq_foldl]
      simp only [chunk, List.append_assoc]
  have hlen : ∀ m : JsonMap UInt32, TokenKeyed m → ∀ x ∈ m.entries.map chunk, x.length = 40 :=
    fun m hm x hx => by
      obtain ⟨e, he, rfl⟩ := List.mem_map.mp hx
      simp [chunk, length_parseHex_of_isTokenKey (hm e he)]
  have hchunk : ∀ x ∈ m₁.entries, ∀ y ∈ m₂.entries, chunk x = chunk y → x = y :=
    fun x hx y hy h => by
      obtain ⟨hk, hv⟩ := List.append_inj h ((length_parseHex_of_isTokenKey (h₁ x hx)).trans
        (length_parseHex_of_isTokenKey (h₂ y hy)).symm)
      exact Prod.ext (eq_of_parseHex_eq (h₁ x hx) (h₂ y hy) hk) (serializeUint32_injective hv)
  rw [hf, hf] at h
  have := eq_of_map_eq_of_injOn chunk hchunk
    (flatten_inj_of_length (by decide) (hlen m₁ h₁) (hlen m₂ h₂) h)
  cases m₁; cases m₂; congr

/-! ## Section 4: token keys along a run

    The token operations write only keys of the form `GetHex(id)`.  From
    initial balance maps keyed by token ids, every balance map a run builds,
    and the emitted NFT withdraw map, is keyed by token ids. -/

namespace TokenKeyed

variable {α : Type} {m : JsonMap α}

theorem empty : TokenKeyed (JsonMap.empty : JsonMap α) := fun _ h => nomatch h

theorem set (hm : TokenKeyed m) (id : Uint288) (v : α) : TokenKeyed (m.set id.getHex v) :=
  JsonMap.forall_set (P := fun k _ => IsTokenKey k) hm ⟨id, rfl⟩

theorem filter (hm : TokenKeyed m) (p : String × α → Bool) : TokenKeyed (m.filter p) :=
  fun e he => hm e (JsonMap.mem_filter.mp he).1

theorem erase (hm : TokenKeyed m) (k : String) : TokenKeyed (m.erase k) :=
  hm.filter _

end TokenKeyed

/-- The balance maps of a context are keyed by token ids. -/
structure TokenBalances (c : ScriptStateContext) : Prop where
  ftState : TokenKeyed c.ftState
  ftStateIncoming : TokenKeyed c.ftStateIncoming
  nftState : TokenKeyed c.nftState
  nftStateIncoming : TokenKeyed c.nftStateIncoming
  ftBalancesUpdates : TokenKeyed c.ftBalancesUpdates
  nftBalancesUpdates : TokenKeyed c.nftBalancesUpdates

theorem TokenBalances.step {c c' : ScriptStateContext} {op : StateOp} (hc : TokenBalances c)
    (h : op.run c = some c') : TokenBalances c' := by
  cases op with
  | kvPut => obtain rfl := StateOp.run_kvPut h; exact ⟨hc.1, hc.2, hc.3, hc.4, hc.5, hc.6⟩
  | kvDelete => obtain rfl := StateOp.run_kvDelete h; exact ⟨hc.1, hc.2, hc.3, hc.4, hc.5, hc.6⟩
  | ftBalanceAdd ftId =>
    obtain ⟨_, _, _, _, rfl⟩ := contractFtBalanceAdd_true (StateOp.run_ftBalanceAdd h)
    exact { hc with ftState := hc.ftState.set ftId _
                    ftBalancesUpdates := hc.ftBalancesUpdates.set ftId _ }
  | ftWithdraw ftId =>
    obtain ⟨bal, _, _, _, rfl⟩ := contractWithdrawFt_true (StateOp.run_ftWithdraw h)
    refine { hc with ftState := ?_, ftBalancesUpdates := hc.ftBalancesUpdates.set ftId _ }
    split
    · exact hc.ftState.erase _
    · exact hc.ftState.set ftId _
  | nftPut nftId =>
    obtain ⟨_, _, rfl⟩ := contractNftPut_true (StateOp.run_nftPut h)
    exact { hc with nftState := hc.nftState.set nftId _
                    nftBalancesUpdates := hc.nftBalancesUpdates.set nftId _ }
  | nftWithdraw nftId =>
    obtain ⟨_, rfl⟩ := contractWithdrawNft_true (StateOp.run_nftWithdraw h)
    exact { hc with nftState := hc.nftState.erase _
                    nftBalancesUpdates := hc.nftBalancesUpdates.set nftId _ }

/-- Every map of an outcome that the token operations key. -/
structure StateOutcome.TokenKeyed (o : StateOutcome) : Prop where
  nftIncoming : Avm.TokenKeyed o.nftIncoming
  ftIncoming : Avm.TokenKeyed o.ftIncoming
  nftFinal : Avm.TokenKeyed o.nftFinal
  ftFinal : Avm.TokenKeyed o.ftFinal
  nftUpdates : Avm.TokenKeyed o.nftUpdates
  ftUpdates : Avm.TokenKeyed o.ftUpdates
  nftWithdraws : Avm.TokenKeyed o.nftWithdraws

theorem tokenKeyed_encodeNftWithdrawMap (c : ScriptStateContext) :
    TokenKeyed c.encodeNftWithdrawMap := by
  unfold encodeNftWithdrawMap
  generalize c.nftWithdrawMap = l
  suffices ∀ acc : JsonMap UInt32, TokenKeyed acc →
      TokenKeyed (l.foldl (fun acc e => acc.set e.1.getHex e.2) acc) from this _ TokenKeyed.empty
  induction l with
  | nil => exact fun _ h => h
  | cons e l ih => exact fun acc h => ih _ (h.set e.1 e.2)

/-- A run from token-keyed balance maps ends in a context whose outcome is
    token-keyed; cleanup, when it returns, returns that context. -/
theorem runOps_outcome_tokenKeyed {c₀ c : ScriptStateContext} {ops : List StateOp}
    (h₀ : TokenBalances c₀) (hrun : runOps c₀ ops = some c) :
    (StateOutcome.ofContext c).TokenKeyed :=
  have hc := runOps_induction (fun _ _ _ hc h => hc.step h) h₀ hrun
  ⟨hc.nftStateIncoming, hc.ftStateIncoming, hc.nftState, hc.ftState,
    hc.nftBalancesUpdates, hc.ftBalancesUpdates, tokenKeyed_encodeNftWithdrawMap _⟩

/-! ## Section 5: the commitment

    Equal preimages of the last hash give the same previous hash and the
    same component hashes.  Unless two component preimages collide under
    SHA-256, the components are then equal, and on token-keyed outcomes
    that fixes exactly the parts `Agree` lists. -/

/-- What two outcomes with the same component preimages share. -/
structure StateOutcome.Agree (o₁ o₂ : StateOutcome) : Prop where
  nftIncoming : o₁.nftIncoming.keys = o₂.nftIncoming.keys
  ftIncoming : o₁.ftIncoming.keys = o₂.ftIncoming.keys
  kvFinal : getStateDataVectorOnlyStrings o₁.kvFinal = getStateDataVectorOnlyStrings o₂.kvFinal
  kvUpdates :
    getStateDataVectorOnlyStrings o₁.kvUpdates = getStateDataVectorOnlyStrings o₂.kvUpdates
  kvDeletes : getStateDataVectorOnly2LevelStringKeysBooleanValue o₁.kvDeletes =
    getStateDataVectorOnly2LevelStringKeysBooleanValue o₂.kvDeletes
  nftFinal : o₁.nftFinal.keys = o₂.nftFinal.keys
  ftFinal : o₁.ftFinal.keys = o₂.ftFinal.keys
  nftUpdates : o₁.nftUpdates.keys = o₂.nftUpdates.keys
  ftUpdates : o₁.ftUpdates.keys = o₂.ftUpdates.keys
  nftWithdraws : o₁.nftWithdraws = o₂.nftWithdraws
  ftWithdraws : ftWithdrawsPreimage o₁.ftWithdraws = ftWithdrawsPreimage o₂.ftWithdraws

/-- Two component preimages, one of each outcome, that differ and hash
    alike. -/
def StateOutcome.Collision (sha256 : Valtype → Valtype) (o₁ o₂ : StateOutcome) : Prop :=
  ∃ x ∈ o₁.components, ∃ y ∈ o₂.components, x ≠ y ∧ sha256 x = sha256 y

theorem StateOutcome.components_eq_iff {o₁ o₂ : StateOutcome} (h₁ : o₁.TokenKeyed)
    (h₂ : o₂.TokenKeyed) : o₁.components = o₂.components ↔ o₁.Agree o₂ := by
  have hnft : nftWithdrawsPreimage o₁.nftWithdraws = nftWithdrawsPreimage o₂.nftWithdraws ↔
      o₁.nftWithdraws = o₂.nftWithdraws :=
    ⟨nftWithdrawsPreimage_inj h₁.nftWithdraws h₂.nftWithdraws, congrArg _⟩
  simp only [components, List.cons.injEq, and_true, getStateDataVectorStringKeyBooleanValue,
    getStateDataVectorStringKeyIntValue, keysSerialization_inj h₁.nftIncoming h₂.nftIncoming,
    keysSerialization_inj h₁.ftIncoming h₂.ftIncoming, keysSerialization_inj h₁.nftFinal h₂.nftFinal,
    keysSerialization_inj h₁.ftFinal h₂.ftFinal, keysSerialization_inj h₁.nftUpdates h₂.nftUpdates,
    keysSerialization_inj h₁.ftUpdates h₂.ftUpdates, hnft]
  exact ⟨fun ⟨a, b, c, d, e, f, g, h, i, j, k⟩ => ⟨a, b, c, d, e, f, g, h, i, j, k⟩,
    fun ⟨a, b, c, d, e, f, g, h, i, j, k⟩ => ⟨a, b, c, d, e, f, g, h, i, j, k⟩⟩

/-- Equal preimages of the last hash split into equal previous hashes and
    equal component hashes. -/
theorem StateOutcome.preimage_eq_iff (sha256 : Valtype → Valtype)
    (h32 : ∀ b, (sha256 b).length = 32) {p₁ p₂ : Valtype} (hp : p₁.length = p₂.length)
    (o₁ o₂ : StateOutcome) :
    o₁.preimage sha256 p₁ = o₂.preimage sha256 p₂ ↔
      p₁ = p₂ ∧ o₁.components.map sha256 = o₂.components.map sha256 := by
  have hlen : ∀ o : StateOutcome, ∀ x ∈ o.components.map sha256, x.length = 32 :=
    fun o x hx => by
      obtain ⟨b, -, rfl⟩ := List.mem_map.mp hx
      exact h32 b
  refine ⟨fun h => ?_, fun ⟨hp, hc⟩ => by rw [preimage, preimage, hp, hc]⟩
  obtain ⟨hp, hc⟩ := List.append_inj h hp
  exact ⟨hp, flatten_inj_of_length (by decide) (hlen o₁) (hlen o₂) hc⟩

/-- The commitment binds the previous hash, the token-id keys of every
    balance map, the NFT withdraw map, and the byte serializations of the
    key-value maps and the FT withdraw map, unless SHA-256 collides on the
    component preimages; and it binds nothing more. -/
theorem stateCommitment_binds (sha256 : Valtype → Valtype) (h32 : ∀ b, (sha256 b).length = 32)
    {p₁ p₂ : Valtype} (hp : p₁.length = p₂.length) {o₁ o₂ : StateOutcome}
    (h₁ : o₁.TokenKeyed) (h₂ : o₂.TokenKeyed) :
    (o₁.preimage sha256 p₁ = o₂.preimage sha256 p₂ →
      (p₁ = p₂ ∧ o₁.Agree o₂) ∨ StateOutcome.Collision sha256 o₁ o₂) ∧
    (p₁ = p₂ ∧ o₁.Agree o₂ → o₁.preimage sha256 p₁ = o₂.preimage sha256 p₂) := by
  rw [StateOutcome.preimage_eq_iff sha256 h32 hp, ← StateOutcome.components_eq_iff h₁ h₂]
  refine ⟨fun ⟨hp, hc⟩ => ?_, fun ⟨hp, hc⟩ => ⟨hp, by rw [hc]⟩⟩
  by_cases hcol : StateOutcome.Collision sha256 o₁ o₂
  · exact .inr hcol
  · refine .inl ⟨hp, eq_of_map_eq_of_injOn sha256 (fun x hx y hy hxy => ?_) hc⟩
    by_contra hne
    exact hcol ⟨x, hx, y, hy, hne, hxy⟩

/-- A context holding 20 units of `tokenA`. -/
def doubledStart : ScriptStateContext :=
  { repeatedOutputStart with ftState := JsonMap.empty.set tokenA.getHex 20 }

/-- The binding statement at the outcomes of two runs that do nothing, from
    states holding 10 and 20 units of `tokenA`: the outcomes differ only in
    that amount. -/
theorem stateCommitment_binds_token_balance :
    let sha256 : Valtype → Valtype := fun _ => List.replicate 32 0
    let o₁ := StateOutcome.ofContext repeatedOutputStart
    let o₂ := StateOutcome.ofContext doubledStart
    o₁.ftFinal ≠ o₂.ftFinal ∧
    (o₁.preimage sha256 [] = o₂.preimage sha256 [] →
      ([] = ([] : Valtype) ∧ o₁.Agree o₂) ∨ StateOutcome.Collision sha256 o₁ o₂) ∧
    ([] = ([] : Valtype) ∧ o₁.Agree o₂ → o₁.preimage sha256 [] = o₂.preimage sha256 []) :=
  have h₁ : TokenBalances repeatedOutputStart :=
    ⟨TokenKeyed.empty.set tokenA 10, TokenKeyed.empty, TokenKeyed.empty, TokenKeyed.empty,
      TokenKeyed.empty, TokenKeyed.empty⟩
  have h₂ : TokenBalances doubledStart :=
    ⟨TokenKeyed.empty.set tokenA 20, TokenKeyed.empty, TokenKeyed.empty, TokenKeyed.empty,
      TokenKeyed.empty, TokenKeyed.empty⟩
  ⟨by decide, stateCommitment_binds _ (fun _ => List.length_replicate _ _) rfl
    (runOps_outcome_tokenKeyed h₁ (runOps_nil _)) (runOps_outcome_tokenKeyed h₂ (runOps_nil _))⟩

/-- Keyspace `aa` holding key `bbcc` with value `dd`. -/
def splitStateA : JsonMap (JsonMap String) := JsonMap.empty.set "aa" (JsonMap.empty.set "bbcc" "dd")

/-- Keyspace `aabb` holding key `cc` with value `dd`. -/
def splitStateB : JsonMap (JsonMap String) := JsonMap.empty.set "aabb" (JsonMap.empty.set "cc" "dd")

/-- Two runs with no operations, from initial states that both pass the
    constructor's validation and differ in an FT amount (10 and 20 units of
    `tokenA`) and in their key-value state (`splitStateA`, `splitStateB`):
    cleanup returns both contexts, and they emit different final states with
    the same preimage for every hash function and previous hash. -/
theorem stateCommitment_misses_amounts_and_splits :
    ∃ c₁ c₂, create limits128k (JsonMap.empty.set tokenA.getHex 10) .empty .empty .empty
        splitStateA ⟨[], 0⟩ = .ok c₁ ∧
      create limits128k (JsonMap.empty.set tokenA.getHex 20) .empty .empty .empty
        splitStateB ⟨[], 0⟩ = .ok c₂ ∧
      c₁.cleanupStateAndBalances = .ok c₁ ∧ c₂.cleanupStateAndBalances = .ok c₂ ∧
      let o₁ := StateOutcome.ofContext c₁
      let o₂ := StateOutcome.ofContext c₂
      o₁.ftFinal ≠ o₂.ftFinal ∧ o₁.kvFinal ≠ o₂.kvFinal ∧
      ∀ sha256 prevHash, o₁.preimage sha256 prevHash = o₂.preimage sha256 prevHash :=
  ⟨_, _, rfl, rfl, rfl, rfl, by decide, by decide, fun _ _ => rfl⟩

end Avm
