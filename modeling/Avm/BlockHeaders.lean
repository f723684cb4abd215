import Avm.TokenQueries

/-! # The block headers of the external state

  `ScriptStateContext::validateContractStateExternal` loads the table of
  block headers that `OP_GETBLOCKINFO` reads.  For each header string of the
  `headers` object it decodes the header once, with
  `DecodeHexBlockHeaderDup`, and keeps the parsed bytes beside it;
  `OP_GETBLOCKINFO` returns the decoded fields, or the bytes for field 7,
  and `OP_DECODEBLOCKINFO` decodes bytes from the stack a second time.

  Section 1 models the loader, Section 2 proves what every entry of an
  accepted table satisfies (its bytes read back as its header), Section 3
  runs the two opcodes, and Section 4 states when the two decodings agree.
  The reader of a header takes the first 80 bytes and does not check that
  the string ends there, so the stored bytes may be longer than a header.
-/

namespace Avm

/-! ## Section 1: the loader -/

/-- One turn of the loop over the header strings: `DecodeHexBlockHeaderDup`
    must accept the string, and `std::map::insert` adds the entry under the
    key's height unless the height is already in the table. -/
def insertHeader (keyHeight : String → UInt32)
    (heightHeaderSet : List (UInt32 × ExternalBlockInfoStruct)) (entry : String × String) :
    Except Thrown (List (UInt32 × ExternalBlockInfoStruct)) :=
  match decodeHexBlockHeaderDup entry.2 with
  | none => .error (.obj .currentHeaderDecode)
  | some currentHeader =>
    let height := keyHeight entry.1
    .ok (mapInsert heightHeaderSet height ⟨currentHeader, height, parseHex entry.2⟩)

/-- `ScriptStateContext::validateContractStateExternal`, on the `headers`
    and `height` entries of its JSON object, `none` when the key is missing:
    the header strings by key, and the height as `get<std::uint32_t>()`
    reads it.  `keyHeight` is `atoi` of a key, converted to `unsigned int`. -/
def validateContractStateExternal (keyHeight : String → UInt32)
    (headers : Option (JsonMap String)) (height : Option UInt32) :
    Except Thrown ContractStateExternalStruct :=
  match headers, height with
  | none, _ => .error (.obj .headerKeyNotFound)
  | some _, none => .error (.obj .heightKeyNotFound)
  | some headers, some currentHeight =>
    if currentHeight.toNat > 10000000 then .error (.ptr .heightInvalid) else do
    let heightHeaderSet ← headers.entries.foldlM (insertHeader keyHeight) []
    return ⟨heightHeaderSet, currentHeight⟩

/-! ## Section 2: what the loader accepts -/

/-- An entry of the header table as the loader writes it: the key is the
    entry's height, and the raw bytes read back as the decoded header. -/
def DecodedEntry (p : UInt32 × ExternalBlockInfoStruct) : Prop :=
  p.2.height = p.1 ∧ readHeader p.2.headerHex = some p.2.header

theorem length_of_readHeader {d : Valtype} {h : CBlockHeader} (hd : readHeader d = some h) :
    80 ≤ d.length := by
  unfold readHeader at hd
  split_ifs at hd with hlt
  exact Nat.not_lt.mp hlt

theorem readHeader_of_decode {s : String} {h : CBlockHeader}
    (hs : decodeHexBlockHeaderDup s = some h) : readHeader (parseHex s) = some h := by
  unfold decodeHexBlockHeaderDup at hs
  split_ifs at hs
  exact hs

theorem mapInsert_keeps {P : UInt32 × ExternalBlockInfoStruct → Prop}
    {l : List (UInt32 × ExternalBlockInfoStruct)} (hl : ∀ p ∈ l, P p) {k : UInt32}
    {v : ExternalBlockInfoStruct} (hv : P (k, v)) : ∀ p ∈ mapInsert l k v, P p := by
  unfold mapInsert
  split_ifs
  · exact hl
  · intro p hp
    rcases List.mem_append.mp hp with hp | hp
    · exact hl p hp
    · rw [List.mem_singleton.mp hp]; exact hv

variable {keyHeight : String → UInt32}

/-- A turn of the loop writes a decoded entry. -/
theorem insertHeader_keeps {l l' : List (UInt32 × ExternalBlockInfoStruct)}
    {entry : String × String} (hl : ∀ p ∈ l, DecodedEntry p)
    (h : insertHeader keyHeight l entry = .ok l') : ∀ p ∈ l', DecodedEntry p := by
  unfold insertHeader at h
  split at h
  · cases h
  next header hdec =>
    cases h
    exact mapInsert_keeps hl ⟨rfl, readHeader_of_decode hdec⟩

/-- The loop writes only decoded entries. -/
theorem foldlM_insertHeader_keeps (entries : List (String × String))
    {l l' : List (UInt32 × ExternalBlockInfoStruct)} (hl : ∀ p ∈ l, DecodedEntry p)
    (h : entries.foldlM (insertHeader keyHeight) l = .ok l') : ∀ p ∈ l', DecodedEntry p := by
  induction entries generalizing l with
  | nil => cases h; exact hl
  | cons entry entries ih =>
    rw [List.foldlM_cons] at h
    obtain ⟨l₁, h₁, h⟩ := except_bind_eq_ok.mp h
    exact ih (insertHeader_keeps hl h₁) h

/-- Every entry of an accepted table is decoded from its own raw bytes. -/
theorem validateContractStateExternal_decoded {headers : Option (JsonMap String)}
    {height : Option UInt32} {e : ContractStateExternalStruct}
    (he : validateContractStateExternal keyHeight headers height = .ok e) :
    ∀ p ∈ e.headers, DecodedEntry p := by
  unfold validateContractStateExternal at he
  split at he
  · cases he
  · cases he
  split_ifs at he
  obtain ⟨l, hl, he⟩ := except_bind_eq_ok.mp he
  cases he
  exact foldlM_insertHeader_keeps _ (fun _ h => absurd h (List.not_mem_nil _)) hl

/-! ## Section 3: the two block opcodes -/

theorem mem_of_lookup_eq_some {κ ν : Type} [DecidableEq κ] {l : List (κ × ν)} {k : κ} {v : ν}
    (h : l.lookup k = some v) : (k, v) ∈ l := by
  obtain ⟨l₁, l₂, rfl, -⟩ := List.lookup_eq_some_iff.mp h
  exact List.mem_append_right _ (List.mem_cons_self _ _)

theorem isHex_of_isHexStr {s : String} (hs : isHexStr s = true) : isHex s = true := by
  simp only [isHexStr, isHex, Bool.and_eq_true, List.all_eq_true, beq_iff_eq,
    decide_eq_true_eq] at hs ⊢
  refine ⟨⟨fun c hc => ?_, hs.1.2⟩, by omega⟩
  have := hs.1.1 c hc
  simp only [isLowerHexDigit, Bool.or_eq_true, Bool.and_eq_true, decide_eq_true_eq] at this
  unfold hexValue
  rcases this with h | h
  · simp [h]
  · split_ifs <;> rfl

/-- `DecodeHexBlockHeaderDup` of the hex string of bytes reads the bytes:
    the string is accepted and parses back. -/
theorem decodeHexBlockHeaderDup_hexStr {H : Valtype} (hne : H ≠ []) :
    decodeHexBlockHeaderDup (hexStr H) = readHeader H := by
  simp only [decodeHexBlockHeaderDup, isHex_of_isHexStr (isHexStr_hexStr hne), parseHex_hexStr,
    Bool.not_true, Bool.false_eq_true, if_false]

theorem decodeHeader_of_readHeader {H : Valtype} {h : CBlockHeader} (hH : readHeader H = some h) :
    decodeHeader H = .ok h := by
  have hne : H ≠ [] := by
    have := length_of_readHeader hH
    rintro rfl
    exact absurd this (by decide)
  rw [decodeHeader, decodeHexBlockHeaderDup_hexStr hne, hH]

namespace ContractStateExternalStruct

variable {e : ContractStateExternalStruct} {height : UInt32} {info : ExternalBlockInfoStruct}
  (h : e.headers.lookup (e.revisedHeight height) = some info)

include h

theorem getCurrentBlockInfo_of_lookup {α : Type} (field : ExternalBlockInfoStruct → α) :
    e.getCurrentBlockInfo height field = .ok (field info) := by
  simp [getCurrentBlockInfo, isAllowedBlockInfoHeight, h]

theorem getCurrentBlockInfoHeight_of_lookup :
    e.getCurrentBlockInfoHeight height = .ok (e.revisedHeight height) := by
  simp [getCurrentBlockInfoHeight, isAllowedBlockInfoHeight, h]

end ContractStateExternalStruct

section Fields

variable {e : ContractStateExternalStruct} {height : UInt32} {info : ExternalBlockInfoStruct}
  (h : e.headers.lookup (e.revisedHeight height) = some info)

include h

/-- At a height in the table, fields 0 to 5 of `OP_GETBLOCKINFO` are the
    fields `OP_DECODEBLOCKINFO` reads from the entry's decoded header. -/
theorem getBlockInfoField_header {f : Int} (h0 : 0 ≤ f) (h5 : f ≤ 5) :
    getBlockInfoField e height f = .ok (decodeBlockInfoField info.header f) := by
  have hget := fun {α : Type} (field : ExternalBlockInfoStruct → α) =>
    e.getCurrentBlockInfo_of_lookup h field
  obtain ⟨n, rfl⟩ := Int.eq_ofNat_of_zero_le h0
  have hn : n ≤ 5 := by omega
  interval_cases n <;> simp only [getBlockInfoField, decodeBlockInfoField, hget] <;> rfl

theorem getBlockInfoField_raw : getBlockInfoField e height 7 = .ok info.headerHex :=
  e.getCurrentBlockInfo_of_lookup h _

theorem getBlockInfoField_height :
    getBlockInfoField e height 8 = .ok (CScriptNum.ofInt64 (e.revisedHeight height).toNat).getvch := by
  simp only [getBlockInfoField, e.getCurrentBlockInfoHeight_of_lookup h]
  rfl

end Fields

section Opcodes

variable {env : Env} {ctx : ScriptExecutionContext} (hctx : env.context = some ctx) (fExec : Bool)
  {m : Machine} {vf : Valtype} {fn : CScriptNum} (hf : num vf = .ok fn) (h0 : 0 ≤ fn.value)
  {rest : List Valtype}

include hctx hf h0

/-- `OP_GETBLOCKINFO` of a field up to 8 pushes what `getBlockInfoField`
    returns for `getint` of the height operand. -/
theorem execOpcode_getBlockInfo_field {vh : Valtype} {hn : CScriptNum}
    (hstack : m.stack = vf :: vh :: rest) (hh : num vh = .ok hn) (h8 : fn.value ≤ 8) :
    execOpcode env fExec .OP_GETBLOCKINFO m =
      getBlockInfoField m.stateContext.externalStateStruct (castUInt32 hn.getint) fn.value >>=
        fun v => next m (v :: rest) := by
  rw [execOpcode_avmBinary hctx fExec (by simp) hstack]
  dsimp only [execAvmBinary]
  simp only [hh, hf, except_ok_bind, getint_of_le (by unfold INT32_MAX; omega) h0,
    show ¬(fn.value < 0 ∨ fn.value > 8) by omega, if_false]

/-- `OP_DECODEBLOCKINFO` of 80 bytes and a field up to 6 pushes that field
    of the header `decodeHeader` reads from them. -/
theorem execOpcode_decodeBlockInfo_field {H : Valtype} (hstack : m.stack = vf :: H :: rest)
    (hH : H.length = 80) (h6 : fn.value ≤ 6) :
    execOpcode env fExec .OP_DECODEBLOCKINFO m =
      decodeHeader H >>= fun header => next m (decodeBlockInfoField header fn.value :: rest) := by
  rw [execOpcode_avmBinary hctx fExec (by simp) hstack]
  dsimp only [execAvmBinary]
  simp only [hH, hf, except_ok_bind, getint_of_le (by unfold INT32_MAX; omega) h0,
    show ¬(fn.value < 0 ∨ fn.value > 6) by omega, if_false, ne_eq, not_true_eq_false]

end Opcodes

/-! ## Section 4: the block queries agree with the raw headers -/

/-- The block queries on a height operand `vh` whose entry `info` sits at
    height `k` of the table: field 7 pushes the raw bytes, field 8 pushes
    `k`, and fields 0 to 5 push the field of the entry's header, which is
    what `OP_DECODEBLOCKINFO` of the same field pushes from the raw bytes
    when they are 80 bytes. -/
structure BlockInfoAgrees (env : Env) (fExec : Bool) (c : ScriptStateContext) (vh : Valtype)
    (k : UInt32) (info : ExternalBlockInfoStruct) : Prop where
  raw : ∀ (m : Machine) (vf : Valtype) (fn : CScriptNum) (rest : List Valtype),
    m.stateContext = c → m.stack = vf :: vh :: rest → num vf = .ok fn → fn.value = 7 →
    execOpcode env fExec .OP_GETBLOCKINFO m = next m (info.headerHex :: rest)
  height : ∀ (m : Machine) (vf : Valtype) (fn : CScriptNum) (rest : List Valtype),
    m.stateContext = c → m.stack = vf :: vh :: rest → num vf = .ok fn → fn.value = 8 →
    execOpcode env fExec .OP_GETBLOCKINFO m = next m ((CScriptNum.big k.toNat).getvch :: rest)
  field : ∀ (m : Machine) (vf : Valtype) (fn : CScriptNum) (rest : List Valtype),
    m.stateContext = c → m.stack = vf :: vh :: rest → num vf = .ok fn → 0 ≤ fn.value →
    fn.value ≤ 5 →
    execOpcode env fExec .OP_GETBLOCKINFO m =
      next m (decodeBlockInfoField info.header fn.value :: rest)
  decode : ∀ (m : Machine) (vf : Valtype) (fn : CScriptNum) (rest : List Valtype),
    info.headerHex.length = 80 → m.stack = vf :: info.headerHex :: rest → num vf = .ok fn →
    0 ≤ fn.value → fn.value ≤ 5 →
    execOpcode env fExec .OP_DECODEBLOCKINFO m =
      next m (decodeBlockInfoField info.header fn.value :: rest)

/-- `OP_GETBLOCKINFO` agrees with `OP_DECODEBLOCKINFO` of its own raw
    header, for every table the loader accepts, with the execution context
    present: at the height `k` that `getint` of the operand names (the
    current height for `0`), an entry's raw bytes are at least 80 bytes,
    field 7 pushes them, field 8 pushes `k`, and fields 0 to 5 push what
    `OP_DECODEBLOCKINFO` of the raw bytes pushes when they are 80 bytes. -/
theorem getBlockInfo_agrees_with_raw_header (env : Env) (ctx : ScriptExecutionContext)
    (hctx : env.context = some ctx) (fExec : Bool) (keyHeight : String → UInt32)
    {headers : Option (JsonMap String)} {height : Option UInt32} {e : ContractStateExternalStruct}
    (he : validateContractStateExternal keyHeight headers height = .ok e) {c : ScriptStateContext}
    (hc : c.externalStateStruct = e) {vh : Valtype} {hn : CScriptNum} (hh : num vh = .ok hn)
    {info : ExternalBlockInfoStruct}
    (hk : e.headers.lookup (e.revisedHeight (castUInt32 hn.getint)) = some info) :
    80 ≤ info.headerHex.length ∧
      BlockInfoAgrees env fExec c vh (e.revisedHeight (castUInt32 hn.getint)) info := by
  have hdec : readHeader info.headerHex = some info.header :=
    (validateContractStateExternal_decoded he _ (mem_of_lookup_eq_some hk)).2
  refine ⟨length_of_readHeader hdec, ⟨fun m vf fn rest hm hstack hf h7 => ?_,
    fun m vf fn rest hm hstack hf h8 => ?_, fun m vf fn rest hm hstack hf h0 h5 => ?_,
    fun m vf fn rest h80 hstack hf h0 h5 => ?_⟩⟩
  · rw [execOpcode_getBlockInfo_field hctx fExec hf (by omega) hstack hh (by omega), hm, hc, h7,
      getBlockInfoField_raw hk]
    rfl
  · rw [execOpcode_getBlockInfo_field hctx fExec hf (by omega) hstack hh (by omega), hm, hc, h8,
      getBlockInfoField_height hk, getvch_ofInt64 (by have := (e.revisedHeight (castUInt32 hn.getint)).toNat_lt; omega)]
    rfl
  · rw [execOpcode_getBlockInfo_field hctx fExec hf h0 hstack hh (by omega), hm, hc,
      getBlockInfoField_header hk h0 h5]
    rfl
  · rw [execOpcode_decodeBlockInfo_field hctx fExec hf h0 hstack h80 (by omega),
      decodeHeader_of_readHeader hdec]
    rfl

/-- The fields of a header of zeros. -/
def zeroHeaderFields : CBlockHeader := ⟨0, List.replicate 32 0, List.replicate 32 0, 0, 0, 0⟩

/-- `atoi` of a decimal key. -/
def decimalKeyHeight (k : String) : UInt32 := UInt32.ofNat (atoi k)

/-- A `headers` object with one header string, at key `"1"`. -/
def oneHeader (header : Valtype) : JsonMap String := JsonMap.empty.set "1" (hexStr header)

/-- The table the loader makes of a header of zeros at height 1. -/
def oneHeaderExternal (header : Valtype) : ContractStateExternalStruct :=
  ⟨[(1, ⟨zeroHeaderFields, 1, header⟩)], 1⟩

/-- A state context holding that table. -/
def oneHeaderContext (header : Valtype) : ScriptStateContext :=
  .ofInputs .empty .empty .empty .empty .empty (oneHeaderExternal header)

/-- The loader reads one header string that decodes to the fields of
    zeros into a table of one entry. -/
theorem validateContractStateExternal_oneHeader {header : Valtype}
    (hH : readHeader header = some zeroHeaderFields) :
    validateContractStateExternal decimalKeyHeight (some (oneHeader header)) (some 1) =
      .ok (oneHeaderExternal header) := by
  have hne : header ≠ [] := by
    rintro rfl
    exact absurd hH (by decide)
  have hins : insertHeader decimalKeyHeight [] ("1", hexStr header) =
      .ok [(1, ⟨zeroHeaderFields, 1, header⟩)] := by
    rw [insertHeader, decodeHexBlockHeaderDup_hexStr hne, hH]
    simp only [parseHex_hexStr]
    rfl
  have hentries : (oneHeader header).entries = [("1", hexStr header)] := rfl
  unfold validateContractStateExternal
  dsimp only
  rw [if_neg (by decide), hentries, List.foldlM_cons, hins]
  rfl

theorem getBlockInfo_agrees_sample :
    80 ≤ (List.replicate 80 0 : Valtype).length ∧
      BlockInfoAgrees sampleEnv true (oneHeaderContext (List.replicate 80 0)) [1] 1
        ⟨zeroHeaderFields, 1, List.replicate 80 0⟩ :=
  @getBlockInfo_agrees_with_raw_header sampleEnv _ rfl true decimalKeyHeight
    (some (oneHeader (List.replicate 80 0))) (some 1) _ (validateContractStateExternal_oneHeader rfl)
    _ rfl [1] (.big 1) rfl _ rfl

/-- A header string of 81 bytes: the loader accepts it, since the reader
    takes the first 80 bytes; `OP_GETBLOCKINFO` of field 7 pushes all 81,
    and `OP_DECODEBLOCKINFO` of them fails on the size. -/
theorem getBlockInfo_long_raw_header :
    validateContractStateExternal decimalKeyHeight (some (oneHeader (List.replicate 81 0)))
        (some 1) = .ok (oneHeaderExternal (List.replicate 81 0)) ∧
      execOpcode sampleEnv true .OP_GETBLOCKINFO
          (.start [[7], [1]] (oneHeaderContext (List.replicate 81 0))) =
        next (.start [[7], [1]] (oneHeaderContext (List.replicate 81 0))) [List.replicate 81 0] ∧
      execOpcode sampleEnv true .OP_DECODEBLOCKINFO
          (.start [[1], List.replicate 81 0] (oneHeaderContext (List.replicate 81 0))) =
        fail .INVALID_AVM_BLOCK_HEADER_SIZE
          (.start [[1], List.replicate 81 0] (oneHeaderContext (List.replicate 81 0))) := by
  refine ⟨validateContractStateExternal_oneHeader rfl, ?_, ?_⟩
  · rw [execOpcode_getBlockInfo_field rfl true (show num [7] = .ok (.big 7) from rfl) (by decide) rfl
      (show num [1] = .ok (.big 1) from rfl) (by decide)]
    rfl
  · rw [execOpcode_avmBinary rfl true (by simp) rfl]
    rfl

end Avm
