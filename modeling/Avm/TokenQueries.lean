import Avm.TxReads

/-! # The token query opcodes

    `OP_FT_COUNT`, `OP_FT_ITEM` and `OP_FT_BALANCE`, and their NFT
    counterparts `OP_NFT_COUNT`, `OP_NFT_ITEM` and `OP_NFT_EXISTS`, read the
    token maps of the state context: the current ones (kind 0) or the
    incoming ones (kind 1).

    The maps are keyed by strings, and the opcodes pass ids as 36 bytes.
    `getFtItem` turns the `i`-th key into bytes with `uint288S`, which
    parses the hex and keeps 36 bytes, padding with zeros.
    `contractFtBalance` turns the bytes back into a key with `GetHex`.  The
    two agree on keys of 72 hex digits, the ids `GetHex` prints.  The
    constructor's validator accepts any lowercase hex key of even length,
    though.  `OP_FT_BALANCE` pushes the balance, a `uint64_t`, as
    `CScriptNum(int64_t)`, so it reads back as the stored amount only below
    `2^63`.
-/

namespace Avm

/-! ## Section 1: keys and ids -/

/-- A character `isHexStr` accepts is the digit of its nibble. -/
theorem exists_hexDigit {c : Char} (hc : isLowerHexDigit c = true) :
    ∃ h, h < 16 ∧ hexDigit h = c := by
  simp only [isLowerHexDigit, Bool.or_eq_true, Bool.and_eq_true, decide_eq_true_eq] at hc
  rcases hc with ⟨h0, h9⟩ | ⟨ha, hf⟩
  · have : 48 ≤ c.toNat ∧ c.toNat ≤ 57 := ⟨h0, h9⟩
    refine ⟨c.toNat - 48, by omega, ?_⟩
    rw [hexDigit, if_pos (by omega), show c.toNat - 48 + 48 = c.toNat by omega, Char.ofNat_toNat]
  · have : 97 ≤ c.toNat ∧ c.toNat ≤ 102 := ⟨ha, hf⟩
    refine ⟨c.toNat - 87, by omega, ?_⟩
    rw [hexDigit, if_neg (by omega), show c.toNat - 87 + 87 = c.toNat by omega, Char.ofNat_toNat]

/-- A string of lowercase hex digits of even length is what `HexStr` prints
    for some bytes. -/
theorem exists_hexStr_data :
    ∀ cs : List Char, cs.all isLowerHexDigit = true → cs.length % 2 = 0 →
      ∃ v : Valtype, (hexStr v).data = cs
  | [], _, _ => ⟨[], rfl⟩
  | [_], _, h => by simp at h
  | c₁ :: c₂ :: rest, hall, heven => by
    simp only [List.all_cons, Bool.and_eq_true] at hall
    obtain ⟨h₁, h₁lt, rfl⟩ := exists_hexDigit hall.1
    obtain ⟨h₂, h₂lt, rfl⟩ := exists_hexDigit hall.2.1
    obtain ⟨v, hv⟩ := exists_hexStr_data rest hall.2.2 (by simp at heven; omega)
    refine ⟨UInt8.ofNat (h₁ * 16 + h₂) :: v, ?_⟩
    rw [hexStr_data, List.flatMap_cons, ← hexStr_data, hv, toNat_ofNat_of_lt (by omega),
      show (h₁ * 16 + h₂) / 16 = h₁ by omega, show (h₁ * 16 + h₂) % 16 = h₂ by omega]
    rfl

theorem exists_hexStr {s : String} (hs : isHexStr s = true) : ∃ v : Valtype, hexStr v = s := by
  simp only [isHexStr, Bool.and_eq_true, beq_iff_eq, decide_eq_true_eq] at hs
  obtain ⟨v, hv⟩ := exists_hexStr_data s.data hs.1.1 hs.1.2
  exact ⟨v, String.ext hv⟩

/-- On a key of 72 hex digits, `GetHex` inverts `uint288S`. -/
theorem getHex_uint288S {s : String} (hs : isHexStr s = true) (hlen : s.length = 72) :
    (uint288S s).getHex = s := by
  obtain ⟨v, rfl⟩ := exists_hexStr hs
  have hv : v.length = 36 := by rw [length_hexStr] at hlen; omega
  simp only [Uint288.getHex, uint288S, parseHex_hexStr]
  rw [List.take_left' (by rw [List.length_reverse, hv]), List.reverse_reverse]

theorem Uint288.eq_of_bytes_eq {x y : Uint288} (h : x.bytes = y.bytes) : x = y := by
  cases x; cases y; cases h; rfl

/-! ## Section 2: the opcodes -/

namespace ScriptStateContext

/-- The FT map an opcode of kind `k` reads: the current one for `0`, the
    incoming one otherwise. -/
def ftMap (c : ScriptStateContext) (k : Int) : JsonMap UInt64 :=
  if k = 0 then c.ftState else c.ftStateIncoming

/-- The NFT map an opcode of kind `k` reads. -/
def nftMap (c : ScriptStateContext) (k : Int) : JsonMap Bool :=
  if k = 0 then c.nftState else c.nftStateIncoming

end ScriptStateContext

open ScriptStateContext

section Queries

variable {env : Env} {ctx : ScriptExecutionContext} (hctx : env.context = some ctx) (fExec : Bool)
  {m : Machine} {kv : Valtype} {kn : CScriptNum} (hk : num kv = .ok kn)
  (hk01 : kn.value = 0 ∨ kn.value = 1) {rest : List Valtype}

theorem getint_of_kind (hk01 : kn.value = 0 ∨ kn.value = 1) : kn.getint = kn.value := by
  unfold CScriptNum.getint; omega

include hctx in
/-- With the context present, `OP_FT_COUNT` and `OP_NFT_COUNT` run
    `execAvmUnary` on the top of the stack. -/
theorem execOpcode_avmUnary {o : Opcode} (ho : o = .OP_FT_COUNT ∨ o = .OP_NFT_COUNT)
    (hstack : m.stack = kv :: rest) : execOpcode env fExec o m = execAvmUnary o kv rest m := by
  obtain ⟨_, _, _, _, _, _⟩ := env
  obtain ⟨_, _, _, _, _⟩ := m
  subst hctx hstack
  rcases ho with rfl | rfl <;> rfl

include hctx in
/-- With the context present, the four binary token queries and the two
    block queries run `execAvmBinary` on the top two elements of the stack. -/
theorem execOpcode_avmBinary {o : Opcode}
    (ho : o = .OP_FT_BALANCE ∨ o = .OP_NFT_EXISTS ∨ o = .OP_FT_ITEM ∨ o = .OP_NFT_ITEM ∨
      o = .OP_GETBLOCKINFO ∨ o = .OP_DECODEBLOCKINFO)
    {vch1 : Valtype} (hstack : m.stack = kv :: vch1 :: rest) :
    execOpcode env fExec o m = execAvmBinary env ctx o kv vch1 rest m := by
  obtain ⟨_, _, _, _, _, _⟩ := env
  obtain ⟨_, _, _, _, _⟩ := m
  subst hctx hstack
  rcases ho with rfl | rfl | rfl | rfl | rfl | rfl <;> rfl

include hctx hk hk01

theorem execOpcode_ftCount (hstack : m.stack = kv :: rest) :
    execOpcode env fExec .OP_FT_COUNT m =
      next m ((CScriptNum.ofInt64 ((m.stateContext.ftMap kn.value).entries.length % 2 ^ 32 : Nat)).getvch ::
        rest) := by
  rw [execOpcode_avmUnary hctx fExec (by simp) hstack]
  dsimp only [execAvmUnary]
  simp only [hk, except_ok_bind, getint_of_kind hk01,
    show ¬(kn.value < 0 ∨ kn.value > 1) by omega, if_false, ftMap, getFtCount, getFtCountIncoming]
  split <;> rfl

theorem execOpcode_nftCount (hstack : m.stack = kv :: rest) :
    execOpcode env fExec .OP_NFT_COUNT m =
      next m ((CScriptNum.ofInt64 ((m.stateContext.nftMap kn.value).entries.length % 2 ^ 32 : Nat)).getvch ::
        rest) := by
  rw [execOpcode_avmUnary hctx fExec (by simp) hstack]
  dsimp only [execAvmUnary]
  simp only [hk, except_ok_bind, getint_of_kind hk01,
    show ¬(kn.value < 0 ∨ kn.value > 1) by omega, if_false, nftMap, getNftCount, getNftCountIncoming]
  split <;> rfl

section Item

variable {iv : Valtype} {ni : CScriptNum} (hstack : m.stack = kv :: iv :: rest)
  (hi : num iv = .ok ni) (hi0 : 0 ≤ ni.value)

include hstack hi hi0

/-- `OP_FT_ITEM` pushes the id of the entry at `getint` of its index, and
    fails with `INVALID_AVM_INVALID_FT_ITEM_INDEX` when there is none. -/
theorem execOpcode_ftItem :
    execOpcode env fExec .OP_FT_ITEM m =
      match getItem (m.stateContext.ftMap kn.value) ni.getint.toNat with
      | some tokenId => next m (tokenId.bytes :: rest)
      | none => fail .INVALID_AVM_INVALID_FT_ITEM_INDEX { m with stack := rest } := by
  have hpos : ¬ni.getint < 0 := by unfold CScriptNum.getint; omega
  rw [execOpcode_avmBinary hctx fExec (by simp) hstack]
  dsimp only [execAvmBinary]
  rcases hg : getItem (m.stateContext.ftMap kn.value) ni.getint.toNat with _ | tokenId <;>
    simp only [hk, hi, except_ok_bind, getint_of_kind hk01, hpos,
      show ¬(kn.value < 0 ∨ kn.value > 1) by omega, if_false, ← ftMap.eq_1, hg]

theorem execOpcode_nftItem :
    execOpcode env fExec .OP_NFT_ITEM m =
      match getItem (m.stateContext.nftMap kn.value) ni.getint.toNat with
      | some tokenId => next m (tokenId.bytes :: rest)
      | none => fail .INVALID_AVM_INVALID_NFT_ITEM_INDEX { m with stack := rest } := by
  have hpos : ¬ni.getint < 0 := by unfold CScriptNum.getint; omega
  rw [execOpcode_avmBinary hctx fExec (by simp) hstack]
  dsimp only [execAvmBinary]
  rcases hg : getItem (m.stateContext.nftMap kn.value) ni.getint.toNat with _ | tokenId <;>
    simp only [hk, hi, except_ok_bind, getint_of_kind hk01, hpos,
      show ¬(kn.value < 0 ∨ kn.value > 1) by omega, if_false, ← nftMap.eq_1, hg]

end Item

section Lookup

variable {x : Valtype} (hstack : m.stack = kv :: x :: rest) (hx : x.length = 36)

include hstack

/-- `OP_FT_BALANCE` of a 36-byte id pushes the amount under its `GetHex`,
    `0` when absent, as `CScriptNum(int64_t)`. -/
theorem execOpcode_ftBalance :
    execOpcode env fExec .OP_FT_BALANCE m =
      next m ((CScriptNum.ofInt64
        (((m.stateContext.ftMap kn.value).find? (atomref x hx).getHex).getD 0).toNat).getvch
          :: rest) := by
  rw [execOpcode_avmBinary hctx fExec (by simp) hstack]
  dsimp only [execAvmBinary]
  simp only [hk, hx, ne_eq, not_true_eq_false, dite_false, except_ok_bind,
    getint_of_kind hk01, show ¬(kn.value < 0 ∨ kn.value > 1) by omega, if_false, ftMap,
    contractFtBalance, contractFtBalanceIncoming]
  split <;> rfl

/-- `OP_NFT_EXISTS` of a 36-byte id pushes whether it is held. -/
theorem execOpcode_nftExists :
    execOpcode env fExec .OP_NFT_EXISTS m =
      next m (vchBool (((m.stateContext.nftMap kn.value).find? (atomref x hx).getHex).getD false)
        :: rest) := by
  rw [execOpcode_avmBinary hctx fExec (by simp) hstack]
  dsimp only [execAvmBinary]
  simp only [hk, hx, ne_eq, not_true_eq_false, dite_false, except_ok_bind,
    getint_of_kind hk01, show ¬(kn.value < 0 ∨ kn.value > 1) by omega, if_false, nftMap,
    contractNftExists, contractNftExistsIncoming]
  split <;> rfl

end Lookup

end Queries

/-! ## Section 3: maps the constructor accepts -/

/-- Every key of a token map the constructor accepts passes `isHexStr`,
    every FT amount is positive and every NFT is held. -/
theorem create_tokenMaps {L : StateLimits} {ft fti : JsonMap UInt64} {nft nfti : JsonMap Bool}
    {cs : JsonMap (JsonMap String)} {ext : ContractStateExternalStruct} {c : ScriptStateContext}
    (hc : ScriptStateContext.create L ft fti nft nfti cs ext = .ok c) (k : Int) :
    (∀ e ∈ (c.ftMap k).entries, isHexStr e.1 = true ∧ e.2 ≠ 0) ∧
      (∀ e ∈ (c.nftMap k).entries, isHexStr e.1 = true ∧ e.2 = true) := by
  obtain ⟨rfl, hv⟩ := ScriptStateContext.create_ok hc
  obtain ⟨-, -, -, hft, -, hfti, hnft, -, hnfti⟩ := performValidateStateRestrictions_ok hv
  simp only [ftBalances_ok_iff, nftBalances_ok_iff, forall_const] at hft hfti hnft hnfti
  unfold ftMap nftMap
  split
  · exact ⟨hft, hnft⟩
  · exact ⟨hfti, hnfti⟩

section Enumeration

variable {α : Type} {M : JsonMap α} (hkeys : ∀ e ∈ M.entries, isHexStr e.1 = true ∧ e.1.length = 72)

theorem getItem_of_get? {i : Nat} {e : String × α} (h : M.entries.get? i = some e) :
    getItem M i = some (uint288S e.1) := by
  rw [getItem, h]
  rfl

theorem getItem_eq_none {i : Nat} (h : M.entries.length ≤ i) : getItem M i = none := by
  rw [getItem, List.get?_eq_none.mpr h]
  rfl

include hkeys

/-- The id of an entry looks up that entry. -/
theorem find?_getHex_uint288S {e : String × α} (he : e ∈ M.entries) :
    M.find? (uint288S e.1).getHex = some e.2 := by
  rw [getHex_uint288S (hkeys e he).1 (hkeys e he).2]
  exact JsonMap.find?_of_mem he

/-- Distinct entries have distinct ids. -/
theorem eq_of_uint288S_eq {i j : Nat} {ei ej : String × α} (hi : M.entries.get? i = some ei)
    (hj : M.entries.get? j = some ej) (h : uint288S ei.1 = uint288S ej.1) : i = j := by
  have hei := List.get?_mem hi
  have hej := List.get?_mem hj
  have hkey : ei.1 = ej.1 := by
    rw [← getHex_uint288S (hkeys ei hei).1 (hkeys ei hei).2, h,
      getHex_uint288S (hkeys ej hej).1 (hkeys ej hej).2]
  have hnodup : (M.entries.map Prod.fst).Nodup :=
    List.pairwise_map.mpr (M.sorted.imp fun h => ne_of_keyLt h)
  rw [List.get?_eq_getElem?, List.getElem?_eq_some_iff] at hi hj
  obtain ⟨hi, rfl⟩ := hi
  obtain ⟨hj, rfl⟩ := hj
  have hi' : i < (M.entries.map Prod.fst).length := by simpa using hi
  have hj' : j < (M.entries.map Prod.fst).length := by simpa using hj
  have heq : (M.entries.map Prod.fst)[i] = (M.entries.map Prod.fst)[j] := by simpa using hkey
  exact hnodup.getElem_inj_iff.mp heq

end Enumeration

/-! ## Section 4: the queries enumerate the maps -/

/-- Below `2^63`, `CScriptNum(int64_t)` prints the number. -/
theorem getvch_ofInt64 {v : Nat} (h : v < 2 ^ 63) :
    (CScriptNum.ofInt64 v).getvch = (CScriptNum.big v).getvch := by
  rw [CScriptNum.getvch_eq, CScriptNum.getvch_eq,
    ScriptExecutionContext.value_ofInt64_of_nonneg (by omega) (by omega)]
  rfl

/-- The FT queries of kind `k` on the state `c`, with the kind operand `kv`:
    the count is the number of entries, the `i`-th item is the id of the
    `i`-th key, the items are distinct, indices past the count fail, and
    the balance of an item is its amount. -/
structure FtQueriesAgree (env : Env) (fExec : Bool) (c : ScriptStateContext) (kv : Valtype)
    (k : Int) : Prop where
  count : ∀ (m : Machine) (rest : List Valtype), m.stateContext = c → m.stack = kv :: rest →
    execOpcode env fExec .OP_FT_COUNT m =
      next m ((CScriptNum.big (c.ftMap k).entries.length).getvch :: rest)
  item : ∀ (m : Machine) (iv : Valtype) (ni : CScriptNum) (rest : List Valtype)
    (e : String × UInt64), m.stateContext = c → m.stack = kv :: iv :: rest → num iv = .ok ni →
    0 ≤ ni.value → (c.ftMap k).entries.get? ni.value.toNat = some e →
    execOpcode env fExec .OP_FT_ITEM m = next m ((uint288S e.1).bytes :: rest)
  distinct : ∀ (i j : Nat) (ei ej : String × UInt64), (c.ftMap k).entries.get? i = some ei →
    (c.ftMap k).entries.get? j = some ej → (uint288S ei.1).bytes = (uint288S ej.1).bytes → i = j
  beyond : ∀ (m : Machine) (iv : Valtype) (ni : CScriptNum) (rest : List Valtype),
    m.stateContext = c → m.stack = kv :: iv :: rest → num iv = .ok ni →
    ((c.ftMap k).entries.length : Int) ≤ ni.value →
    execOpcode env fExec .OP_FT_ITEM m =
      fail .INVALID_AVM_INVALID_FT_ITEM_INDEX { m with stack := rest }
  balance : ∀ (m : Machine) (rest : List Valtype) (e : String × UInt64), m.stateContext = c →
    e ∈ (c.ftMap k).entries → m.stack = kv :: (uint288S e.1).bytes :: rest →
    execOpcode env fExec .OP_FT_BALANCE m = next m ((CScriptNum.big e.2.toNat).getvch :: rest)

/-- The NFT queries of kind `k` on the state `c`: the count is the number of
    entries, the `i`-th item is the id of the `i`-th key, the items are
    distinct, indices past the count fail, and every item exists. -/
structure NftQueriesAgree (env : Env) (fExec : Bool) (c : ScriptStateContext) (kv : Valtype)
    (k : Int) : Prop where
  count : ∀ (m : Machine) (rest : List Valtype), m.stateContext = c → m.stack = kv :: rest →
    execOpcode env fExec .OP_NFT_COUNT m =
      next m ((CScriptNum.big (c.nftMap k).entries.length).getvch :: rest)
  item : ∀ (m : Machine) (iv : Valtype) (ni : CScriptNum) (rest : List Valtype)
    (e : String × Bool), m.stateContext = c → m.stack = kv :: iv :: rest → num iv = .ok ni →
    0 ≤ ni.value → (c.nftMap k).entries.get? ni.value.toNat = some e →
    execOpcode env fExec .OP_NFT_ITEM m = next m ((uint288S e.1).bytes :: rest)
  distinct : ∀ (i j : Nat) (ei ej : String × Bool), (c.nftMap k).entries.get? i = some ei →
    (c.nftMap k).entries.get? j = some ej → (uint288S ei.1).bytes = (uint288S ej.1).bytes → i = j
  beyond : ∀ (m : Machine) (iv : Valtype) (ni : CScriptNum) (rest : List Valtype),
    m.stateContext = c → m.stack = kv :: iv :: rest → num iv = .ok ni →
    ((c.nftMap k).entries.length : Int) ≤ ni.value →
    execOpcode env fExec .OP_NFT_ITEM m =
      fail .INVALID_AVM_INVALID_NFT_ITEM_INDEX { m with stack := rest }
  exists_item : ∀ (m : Machine) (rest : List Valtype) (e : String × Bool), m.stateContext = c →
    e ∈ (c.nftMap k).entries → m.stack = kv :: (uint288S e.1).bytes :: rest →
    execOpcode env fExec .OP_NFT_EXISTS m = next m (vchBool true :: rest)

/-- `getint` of an index up to `INT32_MAX` is the index. -/
theorem getint_of_le {ni : CScriptNum} (h : ni.value ≤ INT32_MAX) (h0 : 0 ≤ ni.value) :
    ni.getint = ni.value := by
  unfold CScriptNum.getint; unfold INT32_MAX at h; omega

theorem lt_length_of_get? {α : Type} {l : List α} {i : Nat} {e : α} (h : l.get? i = some e) :
    i < l.length :=
  (List.getElem?_eq_some_iff.mp (List.get?_eq_getElem? l i ▸ h)).1

/-- The token queries agree with the token maps, for a state the
    constructor accepts and a kind `k` in `{0, 1}`, on maps whose keys are
    token ids (72 hex digits), whose FT amounts are below `2^63`, and which
    have at most `INT32_MAX` entries, with the execution context present.
    `OP_FT_COUNT` pushes the number of entries of the FT map; `OP_FT_ITEM`
    of an index below it pushes the 36-byte id of that entry, distinct for
    distinct entries, and of any larger index fails; `OP_FT_BALANCE` of the
    id pushes the entry's amount.  Likewise for the NFT map, where
    `OP_NFT_EXISTS` of every item is true. -/
theorem token_queries_agree (env : Env) (ctx : ScriptExecutionContext)
    (hctx : env.context = some ctx) (fExec : Bool) {L : StateLimits} {ft fti : JsonMap UInt64}
    {nft nfti : JsonMap Bool} {cs : JsonMap (JsonMap String)} {ext : ContractStateExternalStruct}
    {c : ScriptStateContext} (hc : ScriptStateContext.create L ft fti nft nfti cs ext = .ok c)
    {kv : Valtype} {kn : CScriptNum} (hk : num kv = .ok kn) (hk01 : kn.value = 0 ∨ kn.value = 1)
    (hft : ∀ e ∈ (c.ftMap kn.value).entries, e.1.length = 72 ∧ e.2.toNat < 2 ^ 63)
    (hnft : ∀ e ∈ (c.nftMap kn.value).entries, e.1.length = 72)
    (hftc : (c.ftMap kn.value).entries.length ≤ INT32_MAX)
    (hnftc : (c.nftMap kn.value).entries.length ≤ INT32_MAX) :
    FtQueriesAgree env fExec c kv kn.value ∧ NftQueriesAgree env fExec c kv kn.value := by
  obtain ⟨hftv, hnftv⟩ := create_tokenMaps hc kn.value
  have hftk : ∀ e ∈ (c.ftMap kn.value).entries, isHexStr e.1 = true ∧ e.1.length = 72 :=
    fun e he => ⟨(hftv e he).1, (hft e he).1⟩
  have hnftk : ∀ e ∈ (c.nftMap kn.value).entries, isHexStr e.1 = true ∧ e.1.length = 72 :=
    fun e he => ⟨(hnftv e he).1, hnft e he⟩
  refine ⟨⟨fun m rest hm hstack => ?_, fun m iv ni rest e hm hstack hi hi0 he => ?_,
    fun i j ei ej hi hj h => eq_of_uint288S_eq hftk hi hj (Uint288.eq_of_bytes_eq h),
    fun m iv ni rest hm hstack hi hle => ?_, fun m rest e hm he hstack => ?_⟩,
    ⟨fun m rest hm hstack => ?_, fun m iv ni rest e hm hstack hi hi0 he => ?_,
    fun i j ei ej hi hj h => eq_of_uint288S_eq hnftk hi hj (Uint288.eq_of_bytes_eq h),
    fun m iv ni rest hm hstack hi hle => ?_, fun m rest e hm he hstack => ?_⟩⟩
  · unfold INT32_MAX at hftc
    rw [execOpcode_ftCount hctx fExec hk hk01 hstack, hm, Nat.mod_eq_of_lt (by omega),
      getvch_ofInt64 (by omega)]
  · have hlt := lt_length_of_get? he
    rw [execOpcode_ftItem hctx fExec hk hk01 hstack hi hi0, hm,
      getint_of_le (by omega) hi0, getItem_of_get? he]
  · rw [execOpcode_ftItem hctx fExec hk hk01 hstack hi (by omega), hm, getItem_eq_none]
    unfold CScriptNum.getint; unfold INT32_MAX at hftc; omega
  · rw [execOpcode_ftBalance hctx fExec hk hk01 hstack (uint288S e.1).size_eq, hm,
      show atomref (uint288S e.1).bytes (uint288S e.1).size_eq = uint288S e.1 from rfl,
      find?_getHex_uint288S hftk he, Option.getD_some, getvch_ofInt64 (hft e he).2]
  · unfold INT32_MAX at hnftc
    rw [execOpcode_nftCount hctx fExec hk hk01 hstack, hm, Nat.mod_eq_of_lt (by omega),
      getvch_ofInt64 (by omega)]
  · have hlt := lt_length_of_get? he
    rw [execOpcode_nftItem hctx fExec hk hk01 hstack hi hi0, hm,
      getint_of_le (by omega) hi0, getItem_of_get? he]
  · rw [execOpcode_nftItem hctx fExec hk hk01 hstack hi (by omega), hm, getItem_eq_none]
    unfold CScriptNum.getint; unfold INT32_MAX at hnftc; omega
  · rw [execOpcode_nftExists hctx fExec hk hk01 hstack (uint288S e.1).size_eq, hm,
      show atomref (uint288S e.1).bytes (uint288S e.1).size_eq = uint288S e.1 from rfl,
      find?_getHex_uint288S hnftk he, Option.getD_some, (hnftv e he).2]

/-- Caps that the sample states below keep. -/
def sampleLimits : StateLimits := ⟨1000, 1000, 1000, 1000⟩

/-- A state holding 5 of the FT `tokenA` and the NFT `tokenA`. -/
def queryContext : ScriptStateContext :=
  .ofInputs (JsonMap.empty.set tokenA.getHex 5) .empty (JsonMap.empty.set tokenA.getHex true) .empty
    .empty ⟨[], 0⟩

/-- The queries of kind 0 on that state agree with its maps. -/
theorem token_queries_agree_sample :
    FtQueriesAgree sampleEnv true queryContext [] 0 ∧ NftQueriesAgree sampleEnv true queryContext [] 0 :=
  @token_queries_agree sampleEnv _ rfl true sampleLimits (JsonMap.empty.set tokenA.getHex 5) .empty
    (JsonMap.empty.set tokenA.getHex true) .empty .empty ⟨[], 0⟩ queryContext rfl [] (.big 0) rfl
    (.inl rfl) (by decide) (by decide) (by decide) (by decide)

/-- A state holding 1 of the FT keyed `"00"`, a key the validator accepts. -/
def shortKeyContext : ScriptStateContext :=
  .ofInputs (JsonMap.empty.set "00" 1) .empty .empty .empty .empty ⟨[], 0⟩

/-- A state holding `2^63` of the FT `tokenA`. -/
def bigAmountContext : ScriptStateContext :=
  .ofInputs (JsonMap.empty.set tokenA.getHex (2 ^ 63)) .empty .empty .empty .empty ⟨[], 0⟩

/-- The constructor accepts the key `"00"`.  `OP_FT_ITEM` turns it into 36
    zero bytes, whose `GetHex` is 72 zeros, so `OP_FT_BALANCE` of the item
    pushes `0`, not the amount `1`.  And the constructor accepts the amount
    `2^63`, which `OP_FT_BALANCE` pushes as `CScriptNum(int64_t)`: the
    number `-2^63`. -/
theorem ftBalance_misreads_accepted_maps :
    ScriptStateContext.create sampleLimits (JsonMap.empty.set "00" 1) .empty .empty .empty .empty
        ⟨[], 0⟩ = .ok shortKeyContext ∧
      execOpcode sampleEnv true .OP_FT_ITEM (.start [[], []] shortKeyContext) =
        next (.start [[], []] shortKeyContext) [List.replicate 36 0] ∧
      execOpcode sampleEnv true .OP_FT_BALANCE (.start [[], List.replicate 36 0] shortKeyContext) =
        next (.start [[], List.replicate 36 0] shortKeyContext) [[]] ∧
      ScriptStateContext.create sampleLimits (JsonMap.empty.set tokenA.getHex (2 ^ 63)) .empty
        .empty .empty .empty ⟨[], 0⟩ = .ok bigAmountContext ∧
      execOpcode sampleEnv true .OP_FT_BALANCE (.start [[], tokenA.bytes] bigAmountContext) =
        next (.start [[], tokenA.bytes] bigAmountContext)
          [(CScriptNum.ofInt64 (2 ^ 63 : UInt64).toNat).getvch] ∧
      (CScriptNum.ofInt64 (2 ^ 63 : UInt64).toNat).value = -2 ^ 63 :=
  ⟨rfl, rfl, rfl, rfl, rfl, by decide⟩

end Avm
