import Avm.KvStore

/-! # The size of stack elements

    A push is refused above `MAX_SCRIPT_ELEMENT_SIZE` (4000 bytes), and so
    is a concatenation, a `OP_NUM2BIN` and an introspected script.  Other
    opcodes push what they compute or read without that check: the numeric
    opcodes read operands of up to `MAXIMUM_ITEM_SIZE` (100000) bytes and
    push their results as they are, OP_KV_GET pushes a stored value,
    OP_CHECKAUTHSIG the context's public key, and OP_GETBLOCKINFO bytes of
    the block-info table.  So the 4000-byte cap is not kept
    (`one_add_exceeds_element_cap`).

    What is kept is a bound `B` on every element of both stacks, once `B`
    covers the largest numeric result, `2 * MAXIMUM_ITEM_SIZE + 1` bytes (a
    product of two operands), and the bytes outside the stacks an opcode may
    push: stored values, the public key and the block-info table
    (`elements_within_bound`).  The step lemma `execOpcode_within` says it
    for one opcode; the loop keeps it, and with it its own depth check.
-/

namespace Avm

open ScriptStateContext

/-! ## Section 1: the bound -/

/-- Every element has at most `B` bytes. -/
def ElemsWithin (B : Nat) (s : List Valtype) : Prop := ∀ x ∈ s, x.length ≤ B

instance (B : Nat) (s : List Valtype) : Decidable (ElemsWithin B s) :=
  inferInstanceAs (Decidable (∀ x ∈ s, x.length ≤ B))

section ElemsWithin

variable {B : Nat} {s t : List Valtype} {x : Valtype}

@[simp] theorem elemsWithin_nil : ElemsWithin B [] := nofun

@[simp] theorem elemsWithin_cons : ElemsWithin B (x :: s) ↔ x.length ≤ B ∧ ElemsWithin B s := by
  simp [ElemsWithin]

theorem ElemsWithin.of_subset (h : ElemsWithin B s) (hts : ∀ y ∈ t, y ∈ s) : ElemsWithin B t :=
  fun y hy => h y (hts y hy)

theorem ElemsWithin.tail (h : ElemsWithin B s) : ElemsWithin B s.tail :=
  h.of_subset fun _ => List.mem_of_mem_tail

end ElemsWithin

/-- The bytes of a context an opcode may push: its stored values and the
    raw headers and hashes of its block-info table. -/
structure ContextWithin (B : Nat) (c : ScriptStateContext) : Prop where
  store : ∀ ks kn w, c.kvStore ks kn = some w → w.length ≤ B
  headers : ∀ p ∈ c.externalStateStruct.headers, p.2.headerHex.length ≤ B ∧
    p.2.header.hashPrevBlock.length ≤ B ∧ p.2.header.hashMerkleRoot.length ≤ B

/-- Both stacks and the context within `B`. -/
structure Within (B : Nat) (m : Machine) : Prop where
  stack : ElemsWithin B m.stack
  altstack : ElemsWithin B m.altstack
  context : ContextWithin B m.stateContext

/-- The machine a turn of the loop ends with. -/
def StepResult.machine : StepResult → Machine
  | .next m => m
  | .stop _ _ m => m

@[simp] theorem StepResult.machine_next (m : Machine) : (StepResult.next m).machine = m := rfl

@[simp] theorem StepResult.machine_stop (b : Bool) (e : ScriptError) (m : Machine) :
    (StepResult.stop b e m).machine = m := rfl

/-! ## Section 2: what the context keeps -/

/-- The stored values depend on the key-value map alone. -/
theorem ContextWithin.of_frame {B : Nat} {c c' : ScriptStateContext} (h : ContextWithin B c)
    (hkv : c'.contractState = c.contractState)
    (hext : c'.externalStateStruct = c.externalStateStruct) : ContextWithin B c' := by
  refine ⟨fun ks kn w hw => h.store ks kn w ?_, hext ▸ h.headers⟩
  simpa [ScriptStateContext.kvStore, contractStateGet, hkv] using hw

theorem length_nullAs00_le {B : Nat} {v : Valtype} (hB : 1 ≤ B) (hv : v.length ≤ B) :
    (nullAs00 v).length ≤ B := by
  unfold nullAs00; split <;> simp_all

theorem ContextWithin.contractStatePut {B : Nat} {c : ScriptStateContext} (h : ContextWithin B c)
    (hB : 1 ≤ B) (ks kn : Valtype) {v : Valtype} (hv : v.length ≤ B) :
    ContextWithin B (c.contractStatePut ks kn v) := by
  refine ⟨fun ks' kn' w hw => ?_, h.headers⟩
  rw [kvStore_contractStatePut, KvStore.put] at hw
  split at hw
  · cases hw; exact length_nullAs00_le hB hv
  · exact h.store _ _ _ hw

theorem ContextWithin.contractStateDelete {B : Nat} {c : ScriptStateContext}
    (h : ContextWithin B c) (ks kn : Valtype) : ContextWithin B (c.contractStateDelete ks kn) := by
  refine ⟨fun ks' kn' w hw => ?_, h.headers⟩
  rw [kvStore_contractStateDelete, KvStore.delete] at hw
  split at hw
  · cases hw
  · exact h.store _ _ _ hw

/-- The token methods leave the key-value map and the block-info table. -/
def KeepsKv (c c' : ScriptStateContext) : Prop :=
  c'.contractState = c.contractState ∧ c'.externalStateStruct = c.externalStateStruct

theorem keepsKv_contractFtBalanceAdd (c : ScriptStateContext) (id : Uint288) :
    KeepsKv c (c.contractFtBalanceAdd id).2 := by
  unfold contractFtBalanceAdd performFtBalanceAdd
  dsimp only
  repeat' split
  all_goals exact ⟨rfl, rfl⟩

theorem keepsKv_contractNftPut {c : ScriptStateContext} {id : Uint288}
    {r : Bool × ScriptStateContext} (h : c.contractNftPut id = .ok r) : KeepsKv c r.2 := by
  unfold contractNftPut performNftPut at h
  dsimp only at h
  repeat' split at h
  all_goals cases h <;> exact ⟨rfl, rfl⟩

theorem keepsKv_contractWithdrawFt (c : ScriptStateContext) (id : Uint288) (i : UInt32)
    (a : UInt64) : KeepsKv c (c.contractWithdrawFt id i a).2 := by
  unfold contractWithdrawFt
  dsimp only
  repeat' split
  all_goals exact ⟨rfl, rfl⟩

theorem keepsKv_contractWithdrawNft (c : ScriptStateContext) (id : Uint288) (i : UInt32) :
    KeepsKv c (c.contractWithdrawNft id i).2 := by
  unfold contractWithdrawNft
  dsimp only
  repeat' split
  all_goals exact ⟨rfl, rfl⟩

/-! ## Section 3: machines -/

section Machine

variable {B : Nat} {m : Machine}

theorem Within.withStack (hm : Within B m) {s : List Valtype} (hs : ElemsWithin B s) :
    Within B { m with stack := s } := ⟨hs, hm.altstack, hm.context⟩

theorem Within.withVfExec (hm : Within B m) (v : ConditionStack) :
    Within B { m with vfExec := v } := ⟨hm.stack, hm.altstack, hm.context⟩

theorem Within.withCount (hm : Within B m) (n : Nat) :
    Within B { m with nOpCount := n } := ⟨hm.stack, hm.altstack, hm.context⟩

theorem Within.withContext (hm : Within B m) {s : List Valtype} (hs : ElemsWithin B s)
    {c : ScriptStateContext} (hc : ContextWithin B c) :
    Within B { m with stack := s, stateContext := c } := ⟨hs, hm.altstack, hc⟩

theorem Within.keepsKv (hm : Within B m) {s : List Valtype} (hs : ElemsWithin B s)
    {c : ScriptStateContext} (hc : KeepsKv m.stateContext c) :
    Within B { m with stack := s, stateContext := c } :=
  hm.withContext hs (hm.context.of_frame hc.1 hc.2)

theorem Within.countOp (hm : Within B m) (opcode : UInt8) : Within B (countOp opcode m) := by
  unfold Avm.countOp; split
  · exact hm.withCount _
  · exact hm

/-- A turn that stops with a machine within `B`. -/
theorem within_of_stop {r : StepResult} {e : ScriptError} {m' : Machine} (h' : Within B m')
    (h : r = .stop false e m') : Within B r.machine := by
  subst h; exact h'

/-- A turn that pushes an element within `B` onto operands within `B`. -/
theorem Within.push (hm : Within B m) {rest : List Valtype} (hrest : ElemsWithin B rest)
    {x : Valtype} (hx : x.length ≤ B) {r : StepResult}
    (h : r = .next { m with stack := x :: rest }) :
    Within B r.machine := by
  subst h; exact hm.withStack (elemsWithin_cons.mpr ⟨hx, hrest⟩)

/-- A turn that pushes elements of the stack it read. -/
theorem Within.shuffle (hm : Within B m) {t : List Valtype}
    (ht : ElemsWithin B m.stack → ElemsWithin B t) {r : StepResult}
    (h : r = .next { m with stack := t }) : Within B r.machine := by
  subst h; exact hm.withStack (ht hm.stack)

end Machine

@[simp] theorem next_eq_ok {m : Machine} {s : List Valtype} {r : StepResult} :
    next m s = .ok r ↔ r = .next { m with stack := s } := by
  simp [next, eq_comm]

@[simp] theorem fail_eq_ok {e : ScriptError} {m : Machine} {r : StepResult} :
    fail e m = .ok r ↔ r = .stop false e m := by
  simp [fail, eq_comm]

/-! ## Section 4: numbers -/

theorem length_vchBool_le (b : Bool) : (vchBool b).length ≤ 1 := by
  cases b <;> decide

/-- A count printed as a number takes no more bytes than it counts. -/
theorem length_getvch_big_le (n : Nat) : (CScriptNum.big n).getvch.length ≤ n := by
  rw [CScriptNum.getvch_eq]
  exact length_serializeLoop_le_self _ _

theorem natAbs_value_ofInt64_ite_le (c : Prop) [Decidable c] :
    (CScriptNum.ofInt64 (if c then 1 else 0)).value.natAbs ≤ 1 := by
  split <;> decide

/-- An operand read as a number: a big number of at most `MAXIMUM_ITEM_SIZE`
    bytes. -/
theorem num_ok {s : Valtype} {bn : CScriptNum} (h : num s = .ok bn) :
    bn = .big bn.value ∧ s.length ≤ MAXIMUM_ITEM_SIZE ∧ bn.value.natAbs < 256 ^ s.length :=
  ⟨CScriptNum.ofSpan_big h, CScriptNum.length_le_of_ofSpan h,
    CScriptNum.natAbs_value_lt_of_ofSpan h⟩

/-- A unary numeric opcode moves a big number by at most one. -/
theorem natAbs_unaryNumeric_le {o : Opcode} {v : Int} {r : CScriptNum}
    (h : unaryNumeric o (.big v) = .ok r) : r.value.natAbs ≤ v.natAbs + 1 := by
  cases o
  case OP_1ADD => cases h; exact Int.natAbs_add_le v 1
  case OP_1SUB => cases h; exact Int.natAbs_sub_le v 1
  case OP_NEGATE => cases h; simp [CScriptNum.neg, CScriptNum.value]
  case OP_ABS => cases h; split <;> simp [CScriptNum.neg, CScriptNum.value]
  case OP_NOT | OP_0NOTEQUAL =>
    cases h; exact (natAbs_value_ofInt64_ite_le _).trans (Nat.le_add_left 1 _)
  all_goals cases h

theorem natAbs_tmod_le (a b : Int) : (a.tmod b).natAbs ≤ a.natAbs := by
  cases a <;> cases b <;>
    simp only [Int.tmod, Int.natAbs_neg, Int.natAbs_ofNat, Int.natAbs_negSucc] <;>
    exact Nat.mod_le _ _

theorem add_le_succ_mul_succ (x y : Nat) : x + y ≤ (x + 1) * (y + 1) := by nlinarith

/-- A binary numeric opcode on two big numbers gives at most the product of
    their magnitudes plus one each. -/
theorem natAbs_binaryNumeric_le {o : Opcode} {a b : Int} {r : CScriptNum}
    (h : binaryNumeric o (.big a) (.big b) = .ok (.ok r)) :
    r.value.natAbs ≤ (a.natAbs + 1) * (b.natAbs + 1) := by
  have hab := add_le_succ_mul_succ a.natAbs b.natAbs
  have hmul : a.natAbs * b.natAbs ≤ (a.natAbs + 1) * (b.natAbs + 1) :=
    Nat.mul_le_mul (Nat.le_succ _) (Nat.le_succ _)
  have ha : a.natAbs ≤ (a.natAbs + 1) * (b.natAbs + 1) := le_trans (Nat.le_add_right _ _) hab
  have hb : b.natAbs ≤ (a.natAbs + 1) * (b.natAbs + 1) := le_trans (Nat.le_add_left _ _) hab
  have hbool : ∀ c : Prop, [Decidable c] →
      (CScriptNum.ofInt64 (if c then 1 else 0)).value.natAbs ≤ (a.natAbs + 1) * (b.natAbs + 1) :=
    fun c _ => (natAbs_value_ofInt64_ite_le c).trans (Nat.one_le_iff_ne_zero.mpr (by positivity))
  cases o
  case OP_ADD => cases h; exact (Int.natAbs_add_le a b).trans hab
  case OP_SUB => cases h; exact (Int.natAbs_sub_le a b).trans hab
  case OP_MUL => cases h; exact (Int.natAbs_mul a b).trans_le hmul
  case OP_DIV =>
    change (if b = 0 then _ else _) = _ at h
    split at h
    · cases h
    · cases h
      exact (le_of_eq_of_le (Int.natAbs_tdiv a b) (Nat.div_le_self _ _)).trans ha
  case OP_MOD =>
    change (if b = 0 then _ else _) = _ at h
    split at h
    · cases h
    · cases h; exact (natAbs_tmod_le a b).trans ha
  case OP_MIN | OP_MAX => cases h; split; exacts [ha, hb]
  all_goals first
    | (cases h; done)
    | (cases h; exact hbool _)

/-- What a unary numeric opcode pushes has at most `MAXIMUM_ITEM_SIZE + 1`
    bytes. -/
theorem length_unaryNumeric_le {o : Opcode} {s : Valtype} {bn r : CScriptNum}
    (hn : num s = .ok bn) (h : unaryNumeric o bn = .ok r) :
    r.getvch.length ≤ MAXIMUM_ITEM_SIZE + 1 := by
  obtain ⟨hbig, hlen, hlt⟩ := num_ok hn
  rw [hbig] at h
  have hr := natAbs_unaryNumeric_le h
  have hpow : 256 ^ s.length ≤ 256 ^ MAXIMUM_ITEM_SIZE := Nat.pow_le_pow_right (by decide) hlen
  have hone : 1 ≤ 256 ^ MAXIMUM_ITEM_SIZE := Nat.one_le_pow _ _ (by decide)
  exact CScriptNum.length_getvch_le (by omega)

/-- What a binary numeric opcode pushes has at most
    `2 * MAXIMUM_ITEM_SIZE + 1` bytes. -/
theorem length_binaryNumeric_le {o : Opcode} {s₁ s₂ : Valtype} {bn₁ bn₂ r : CScriptNum}
    (hn₁ : num s₁ = .ok bn₁) (hn₂ : num s₂ = .ok bn₂)
    (h : binaryNumeric o bn₁ bn₂ = .ok (.ok r)) :
    r.getvch.length ≤ 2 * MAXIMUM_ITEM_SIZE + 1 := by
  obtain ⟨hbig₁, hlen₁, hlt₁⟩ := num_ok hn₁
  obtain ⟨hbig₂, hlen₂, hlt₂⟩ := num_ok hn₂
  rw [hbig₁, hbig₂] at h
  have hr := natAbs_binaryNumeric_le h
  have hprod : (bn₁.value.natAbs + 1) * (bn₂.value.natAbs + 1) ≤ 256 ^ (2 * MAXIMUM_ITEM_SIZE) :=
    calc (bn₁.value.natAbs + 1) * (bn₂.value.natAbs + 1)
        ≤ 256 ^ s₁.length * 256 ^ s₂.length := Nat.mul_le_mul hlt₁ hlt₂
      _ ≤ 256 ^ MAXIMUM_ITEM_SIZE * 256 ^ MAXIMUM_ITEM_SIZE :=
        Nat.mul_le_mul (Nat.pow_le_pow_right (by decide) hlen₁)
          (Nat.pow_le_pow_right (by decide) hlen₂)
      _ = 256 ^ (2 * MAXIMUM_ITEM_SIZE) := by rw [two_mul, pow_add]
  have hone : 1 ≤ 256 ^ (2 * MAXIMUM_ITEM_SIZE) := Nat.one_le_pow _ _ (by decide)
  exact CScriptNum.length_getvch_le (by omega)

/-! ## Section 5: the opcode helpers

    One lemma per helper of the switch: from a machine within `B` it ends
    with a machine within `B`. -/

theorem length_shiftLoop {shift : Valtype → Nat → Valtype}
    (hs : ∀ v k, (shift v k).length = v.length) (v : Valtype) (n : Int) :
    (shiftLoop shift v n).length = v.length := by
  induction v, n using shiftLoop.induct shift with
  | case1 v n _ h ih => rw [shiftLoop, if_pos h, ih, hs]
  | case2 v n h => rw [shiftLoop, if_neg h, hs]

theorem getD_within {B : Nat} {l : List Valtype} (hl : ElemsWithin B l) (n : Nat) :
    (l.getD n []).length ≤ B := by
  rw [List.getD_eq_getElem?_getD]
  cases h : l[n]? with
  | none => exact Nat.zero_le _
  | some x => exact hl x (List.mem_iff_getElem?.mpr ⟨n, h⟩)

/-- A header field read from the table is a field of one of its entries. -/
theorem getCurrentBlockInfo_mem {α : Type} {e : ContractStateExternalStruct} {height : UInt32}
    {field : ExternalBlockInfoStruct → α} {x : α}
    (h : e.getCurrentBlockInfo height field = .ok x) :
    ∃ p ∈ e.headers, x = field p.2 := by
  unfold ContractStateExternalStruct.getCurrentBlockInfo at h
  split at h
  · cases h
  · split at h
    · next info hl =>
      cases h
      obtain ⟨l₁, l₂, he, -⟩ := List.lookup_eq_some_iff.mp hl
      exact ⟨_, he ▸ List.mem_append_right _ (List.mem_cons_self _ _), rfl⟩
    · cases h

theorem except_map_eq_ok {ε α β : Type} {f : α → β} {x : Except ε α} {b : β} :
    f <$> x = .ok b ↔ ∃ a, x = .ok a ∧ f a = b := by
  cases x <;> simp [Functor.map, Except.map]

/-- A digest has at most 32 bytes. -/
theorem cryptoHash_length_le {hs : Hashes} {o : Opcode} {vch v : Valtype}
    (h : cryptoHash hs o vch = .ok v) : v.length ≤ 32 := by
  cases o <;> cases h <;>
    simp only [hs.ripemd160_size, hs.sha1_size, hs.sha256_size, Nat.reduceLeDiff]

/-- The hashes of a decoded header are slices of 32 bytes. -/
theorem decodeHeader_hashes {vch : Valtype} {header : CBlockHeader}
    (h : decodeHeader vch = .ok header) :
    header.hashPrevBlock.length ≤ 32 ∧ header.hashMerkleRoot.length ≤ 32 := by
  unfold decodeHeader decodeHexBlockHeaderDup readHeader at h
  split at h
  · next hdr hd =>
    cases h
    split_ifs at hd
    cases hd
    exact ⟨List.length_take_le _ _, List.length_take_le _ _⟩
  · cases h

section Stack

variable {B : Nat} {m : Machine} {r : StepResult}

theorem Within.ofStack (hm : Within B m) {a : Valtype} {rest : List Valtype}
    (h : m.stack = a :: rest) : a.length ≤ B ∧ ElemsWithin B rest :=
  elemsWithin_cons.mp (h ▸ hm.stack)

theorem execIf_within {fExec isNotIf : Bool} (hm : Within B m)
    (h : execIf fExec isNotIf m = .ok r) : Within B r.machine := by
  unfold execIf at h
  split at h
  · split at h
    · exact within_of_stop hm (fail_eq_ok.mp h)
    · next rest heq =>
      split_ifs at h <;> simp only [fail_eq_ok, Except.ok.injEq] at h <;> subst h
      all_goals first
        | exact hm
        | exact ⟨(hm.ofStack heq).2, hm.altstack, hm.context⟩
  · cases h; exact hm.withVfExec _

theorem execPickRoll_within {isRoll : Bool} (hm : Within B m)
    (h : execPickRoll isRoll m = .ok r) : Within B r.machine := by
  unfold execPickRoll at h
  split at h
  · next top rest x xs heq =>
    obtain ⟨-, hrest⟩ := hm.ofStack heq
    simp only [except_bind_eq_ok] at h
    obtain ⟨sn, -, n, -, h⟩ := h
    split at h
    · exact within_of_stop (hm.withStack hrest) (fail_eq_ok.mp h)
    · refine hm.shuffle (fun _ => elemsWithin_cons.mpr ⟨getD_within hrest n, ?_⟩)
        (next_eq_ok.mp h)
      split
      · exact hrest.of_subset fun _ => List.mem_of_mem_eraseIdx
      · exact hrest
  · exact within_of_stop hm (fail_eq_ok.mp h)

theorem execShift_within {shift : Valtype → Nat → Valtype}
    (hs : ∀ v k, (shift v k).length = v.length) (hm : Within B m)
    (h : execShift shift m = .ok r) : Within B r.machine := by
  unfold execShift at h
  split at h
  · next vch2 vch1 rest heq =>
    obtain ⟨-, h₁, hrest⟩ : _ ∧ vch1.length ≤ B ∧ ElemsWithin B rest := by
      simpa only [elemsWithin_cons] using hm.ofStack heq
    simp only [except_bind_eq_ok] at h
    obtain ⟨n, -, h⟩ := h
    split at h
    · exact within_of_stop hm (fail_eq_ok.mp h)
    · refine hm.push hrest ?_ (next_eq_ok.mp h)
      split
      · rwa [List.length_replicate]
      · rwa [length_shiftLoop hs]
  · exact within_of_stop hm (fail_eq_ok.mp h)

end Stack

section Helpers

variable {B : Nat} (hB : 2 * MAXIMUM_ITEM_SIZE + 1 ≤ B) {m : Machine} {r : StepResult}
include hB

theorem le_bound_of_le {n : Nat} (hn : n ≤ 4000) : n ≤ B := by
  have : 2 * MAXIMUM_ITEM_SIZE + 1 = 200001 := rfl
  omega

theorem ofInt64_within (n : Int) : (CScriptNum.ofInt64 n).getvch.length ≤ B :=
  le_bound_of_le hB ((CScriptNum.length_getvch_ofInt64_le n).trans (by decide))

theorem vchBool_within (b : Bool) : (vchBool b).length ≤ B :=
  le_bound_of_le hB ((length_vchBool_le b).trans (by decide))

theorem execNum2Bin_within (hm : Within B m) (h : execNum2Bin m = .ok r) : Within B r.machine := by
  unfold execNum2Bin at h
  split at h
  · next vch2 rawnum rest heq =>
    obtain ⟨-, hraw, hrest⟩ : _ ∧ rawnum.length ≤ B ∧ ElemsWithin B rest := by
      simpa only [elemsWithin_cons] using hm.ofStack heq
    obtain ⟨n, -, h⟩ := except_bind_eq_ok.mp h
    split at h
    · exact within_of_stop hm (fail_eq_ok.mp h)
    obtain ⟨size, -, h⟩ := except_bind_eq_ok.mp h
    split at h
    · exact within_of_stop hm (fail_eq_ok.mp h)
    next hsize =>
    have hsize : size ≤ B := le_bound_of_le hB (Nat.not_lt.mp hsize)
    have hmin := length_minimallyEncode_le rawnum
    dsimp only at h
    split at h
    · exact within_of_stop (hm.withStack (elemsWithin_cons.mpr ⟨hmin.trans hraw, hrest⟩))
        (fail_eq_ok.mp h)
    split at h
    · next heq' => exact hm.push hrest (heq' ▸ hsize) (next_eq_ok.mp h)
    · refine hm.push hrest ?_ (next_eq_ok.mp h)
      rw [List.length_set, List.length_append, List.length_replicate]
      split <;> (try rw [List.length_set]) <;> omega
  · exact within_of_stop hm (fail_eq_ok.mp h)

theorem execCheckDataSig_within {env : Env} {isVerify : Bool} (hm : Within B m)
    (h : execCheckDataSig env isVerify m = .ok r) : Within B r.machine := by
  unfold execCheckDataSig at h
  split at h
  · next pk msg sig rest heq =>
    have hrest : ElemsWithin B rest := (hm.ofStack heq).2.tail.tail
    split at h
    · exact within_of_stop hm (fail_eq_ok.mp h)
    dsimp only at h
    split_ifs at h <;> simp only [fail_eq_ok, next_eq_ok] at h <;> subst h
    all_goals first
      | exact hm
      | exact hm.withStack hrest
      | exact hm.withStack (elemsWithin_cons.mpr ⟨vchBool_within hB _, hrest⟩)
  · exact within_of_stop hm (fail_eq_ok.mp h)

theorem execCheckAuthSig_within {env : Env}
    (henv : ∀ ctx, env.context = some ctx → ctx.pubKey.length ≤ B) {isVerify : Bool}
    (hm : Within B m) (h : execCheckAuthSig env isVerify m = .ok r) : Within B r.machine := by
  unfold execCheckAuthSig at h
  split at h
  · cases h
  next ctx hctx =>
  split at h
  · next sig pk _ hpk =>
    have hpk : pk.length ≤ B := by
      unfold ScriptExecutionContext.getAuthPubKey at hpk
      split at hpk
      · cases hpk; exact henv ctx hctx
      · cases hpk
    split_ifs at h <;> simp only [fail_eq_ok, next_eq_ok] at h <;> subst h
    all_goals first
      | exact hm
      | exact hm.withStack (elemsWithin_cons.mpr ⟨hpk, hm.stack⟩)
  · split_ifs at h <;> simp only [fail_eq_ok, next_eq_ok] at h <;> subst h
    all_goals first
      | exact hm
      | exact hm.withStack (elemsWithin_cons.mpr ⟨vchBool_within hB _, hm.stack⟩)
  · exact within_of_stop hm (fail_eq_ok.mp h)

theorem execIntrospectionNullary_within {ctx : ScriptExecutionContext} {o : Opcode}
    (hm : Within B m) (h : execIntrospectionNullary ctx o m = .ok r) : Within B r.machine := by
  cases o
  case OP_TXVERSION | OP_TXINPUTCOUNT | OP_TXOUTPUTCOUNT | OP_TXLOCKTIME =>
    exact hm.push hm.stack (ofInt64_within hB _) (next_eq_ok.mp h)
  all_goals cases h

theorem execIntrospectionUnary_within {ctx : ScriptExecutionContext} {o : Opcode} {index : Int}
    (hm : Within B m) (h : execIntrospectionUnary ctx o index m = .ok r) : Within B r.machine := by
  have htxid : (((ctx.tx.vin.get? index.toNat).map (·.prevout.txid)).getD []).length ≤ B := by
    cases ctx.tx.vin.get? index.toNat with
    | none => exact Nat.zero_le _
    | some input => exact le_bound_of_le hB (by simp [input.prevout.txid_size])
  unfold execIntrospectionUnary at h
  cases o
  case OP_OUTPOINTTXHASH | OP_OUTPOINTINDEX | OP_INPUTBYTECODE | OP_INPUTSEQUENCENUMBER
    | OP_OUTPUTVALUE | OP_OUTPUTBYTECODE =>
    dsimp only at h
    split_ifs at h <;> simp only [fail_eq_ok, next_eq_ok] at h <;> subst h
    all_goals first
      | exact hm
      | exact hm.withStack (elemsWithin_cons.mpr ⟨ofInt64_within hB _, hm.stack⟩)
      | exact hm.withStack (elemsWithin_cons.mpr ⟨htxid, hm.stack⟩)
      | exact hm.withStack (elemsWithin_cons.mpr
          ⟨le_bound_of_le hB (Nat.not_lt.mp ‹_›), hm.stack⟩)
  all_goals cases h

/-- A field of the block-info table is a number or bytes of the table. -/
theorem getBlockInfoField_within {c : ScriptStateContext} (hc : ContextWithin B c)
    {height : UInt32} {field : Int} {v : Valtype}
    (h : getBlockInfoField c.externalStateStruct height field = .ok v) : v.length ≤ B := by
  unfold getBlockInfoField ContractStateExternalStruct.getCurrentBlockInfoHeader at h
  split at h
  case h_2 => obtain ⟨p, hp, rfl⟩ := getCurrentBlockInfo_mem h; exact (hc.headers p hp).2.1
  case h_3 => obtain ⟨p, hp, rfl⟩ := getCurrentBlockInfo_mem h; exact (hc.headers p hp).2.2
  case h_8 => obtain ⟨p, hp, rfl⟩ := getCurrentBlockInfo_mem h; exact (hc.headers p hp).1
  all_goals obtain ⟨_, -, rfl⟩ := except_map_eq_ok.mp h; exact ofInt64_within hB _

theorem decodeBlockInfoField_within (header : CBlockHeader)
    (hh : header.hashPrevBlock.length ≤ 32 ∧ header.hashMerkleRoot.length ≤ 32) (field : Int) :
    (decodeBlockInfoField header field).length ≤ B := by
  unfold decodeBlockInfoField
  split
  case h_2 => exact le_bound_of_le hB (hh.1.trans (by decide))
  case h_3 => exact le_bound_of_le hB (hh.2.trans (by decide))
  all_goals exact ofInt64_within hB _

section Avm

variable {rest : List Valtype} (hm : Within B m) (hrest : ElemsWithin B rest)
include hm hrest

theorem execAvmUnary_within {o : Opcode} {n : Valtype} (h : execAvmUnary o n rest m = .ok r) :
    Within B r.machine := by
  unfold execAvmUnary at h
  cases o
  case OP_FT_BALANCE_ADD =>
    dsimp only at h
    split at h
    · exact within_of_stop hm (fail_eq_ok.mp h)
    have hk := keepsKv_contractFtBalanceAdd m.stateContext (atomref n (not_not.mp ‹_›))
    split at h
    · exact within_of_stop (hm.keepsKv hm.stack hk) (fail_eq_ok.mp h)
    · cases h; exact hm.keepsKv hrest hk
  case OP_NFT_PUT =>
    dsimp only at h
    split at h
    · exact within_of_stop hm (fail_eq_ok.mp h)
    obtain ⟨⟨ok, sc'⟩, hput, h⟩ := except_bind_eq_ok.mp h
    have hk := keepsKv_contractNftPut hput
    dsimp only at h
    split at h
    · exact within_of_stop (hm.keepsKv hm.stack hk) (fail_eq_ok.mp h)
    · cases h; exact hm.keepsKv hrest hk
  case OP_FT_COUNT | OP_NFT_COUNT =>
    obtain ⟨_, -, h⟩ := except_bind_eq_ok.mp h
    dsimp only at h
    split at h
    · exact within_of_stop hm (fail_eq_ok.mp h)
    · exact hm.push hrest (ofInt64_within hB _) (next_eq_ok.mp h)
  all_goals cases h

theorem execAvmBinary_within {env : Env} {ctx : ScriptExecutionContext} {o : Opcode}
    {vch2 vch1 : Valtype} (h : execAvmBinary env ctx o vch2 vch1 rest m = .ok r) :
    Within B r.machine := by
  unfold execAvmBinary at h
  cases o
  case OP_GETBLOCKINFO =>
    dsimp only at h
    obtain ⟨_, -, h⟩ := except_bind_eq_ok.mp h
    obtain ⟨_, -, h⟩ := except_bind_eq_ok.mp h
    split at h
    · exact within_of_stop hm (fail_eq_ok.mp h)
    obtain ⟨v, hv, h⟩ := except_bind_eq_ok.mp h
    exact hm.push hrest (getBlockInfoField_within hB hm.context hv) (next_eq_ok.mp h)
  case OP_FT_BALANCE | OP_NFT_EXISTS =>
    dsimp only at h
    split at h
    · exact within_of_stop hm (fail_eq_ok.mp h)
    obtain ⟨_, -, h⟩ := except_bind_eq_ok.mp h
    split at h
    · exact within_of_stop hm (fail_eq_ok.mp h)
    · exact hm.push hrest (by first | exact ofInt64_within hB _ | exact vchBool_within hB _)
        (next_eq_ok.mp h)
  case OP_FT_ITEM | OP_NFT_ITEM =>
    dsimp only at h
    obtain ⟨_, -, h⟩ := except_bind_eq_ok.mp h
    split at h
    · exact within_of_stop hm (fail_eq_ok.mp h)
    obtain ⟨_, -, h⟩ := except_bind_eq_ok.mp h
    split at h
    · exact within_of_stop hm (fail_eq_ok.mp h)
    split at h
    · next tokenId _ =>
      exact hm.push hrest (le_bound_of_le hB (tokenId.size_eq ▸ by decide)) (next_eq_ok.mp h)
    · exact within_of_stop (hm.withStack hrest) (fail_eq_ok.mp h)
  case OP_KV_EXISTS => exact hm.push hrest (vchBool_within hB _) (next_eq_ok.mp h)
  case OP_KV_GET =>
    dsimp only at h
    split at h
    · next w hw => exact hm.push hrest (hm.context.store _ _ w hw) (next_eq_ok.mp h)
    · exact within_of_stop hm (fail_eq_ok.mp h)
  case OP_KV_DELETE => cases h; exact hm.withContext hrest (hm.context.contractStateDelete _ _)
  case OP_NFT_WITHDRAW =>
    dsimp only at h
    split at h
    · exact within_of_stop hm (fail_eq_ok.mp h)
    obtain ⟨_, -, h⟩ := except_bind_eq_ok.mp h
    split at h
    · exact within_of_stop hm (fail_eq_ok.mp h)
    obtain ⟨_, -, h⟩ := except_bind_eq_ok.mp h
    split at h
    · exact within_of_stop (hm.keepsKv hm.stack (keepsKv_contractWithdrawNft _ _ _))
        (fail_eq_ok.mp h)
    · cases h; exact hm.keepsKv hrest (keepsKv_contractWithdrawNft _ _ _)
  case OP_DECODEBLOCKINFO =>
    dsimp only at h
    split at h
    · exact within_of_stop hm (fail_eq_ok.mp h)
    obtain ⟨_, -, h⟩ := except_bind_eq_ok.mp h
    split at h
    · exact within_of_stop hm (fail_eq_ok.mp h)
    obtain ⟨header, hh, h⟩ := except_bind_eq_ok.mp h
    exact hm.push hrest (decodeBlockInfoField_within hB header (decodeHeader_hashes hh) _)
      (next_eq_ok.mp h)
  case OP_HASH_FN =>
    dsimp only at h
    obtain ⟨_, -, h⟩ := except_bind_eq_ok.mp h
    split at h
    · exact within_of_stop hm (fail_eq_ok.mp h)
    refine hm.push hrest ?_ (next_eq_ok.mp h)
    split_ifs <;> refine le_bound_of_le hB ?_ <;>
      simp only [Hashes.sha3_256_size, Hashes.sha512_size, Hashes.sha512_256_size,
        Hashes.eaglesong_size, Nat.reduceLeDiff]
  all_goals cases h

theorem execAvmTernary_within {ctx : ScriptExecutionContext} {o : Opcode}
    {vch3 vch2 vch1 : Valtype} (h3 : vch3.length ≤ B)
    (h : execAvmTernary ctx o vch3 vch2 vch1 rest m = .ok r) : Within B r.machine := by
  unfold execAvmTernary at h
  cases o
  case OP_KV_PUT =>
    dsimp only at h
    split_ifs at h
    · exact within_of_stop hm (fail_eq_ok.mp h)
    · exact within_of_stop hm (fail_eq_ok.mp h)
    · cases h
      exact hm.withContext hrest
        (hm.context.contractStatePut (le_bound_of_le hB (by decide)) _ _ h3)
  case OP_FT_WITHDRAW =>
    dsimp only at h
    split at h
    · exact within_of_stop hm (fail_eq_ok.mp h)
    obtain ⟨_, -, h⟩ := except_bind_eq_ok.mp h
    split at h
    · exact within_of_stop hm (fail_eq_ok.mp h)
    obtain ⟨_, -, h⟩ := except_bind_eq_ok.mp h
    split at h
    · exact within_of_stop hm (fail_eq_ok.mp h)
    split at h
    · exact within_of_stop (hm.keepsKv hm.stack (keepsKv_contractWithdrawFt _ _ _ _))
        (fail_eq_ok.mp h)
    · cases h; exact hm.keepsKv hrest (keepsKv_contractWithdrawFt _ _ _ _)
  all_goals cases h

end Avm

end Helpers

/-! ## Section 6: one opcode -/

section Opcode

variable {B : Nat} (hB : 2 * MAXIMUM_ITEM_SIZE + 1 ≤ B) {env : Env}
  (henv : ∀ ctx, env.context = some ctx → ctx.pubKey.length ≤ B)
  {m : Machine} {r : StepResult}
include hB henv

/-- Every opcode of the switch, run on a machine within `B` whose stack is no
    deeper than `MAX_STACK_SIZE`, ends with a machine within `B`. -/
theorem execOpcode_within {fExec : Bool} {o : Opcode} (hm : Within B m)
    (hdepth : m.stack.length ≤ MAX_STACK_SIZE) (h : execOpcode env fExec o m = .ok r) :
    Within B r.machine := by
  have hbound : ∀ {n}, n ≤ 4000 → n ≤ B := le_bound_of_le hB
  delta execOpcode at h
  cases o
  -- the opcodes the switch does not name stop with BAD_OPCODE
  case OP_0 | OP_PUSHDATA1 | OP_PUSHDATA2 | OP_PUSHDATA4 | OP_RESERVED | OP_VER | OP_VERIF
    | OP_VERNOTIF | OP_RESERVED1 | OP_RESERVED2 | OP_2MUL | OP_2DIV | OP_CODESEPARATOR
    | OP_CHECKSIG | OP_CHECKSIGVERIFY | OP_CHECKMULTISIG | OP_CHECKMULTISIGVERIFY
    | OP_INPUTWITNESSBYTECODE | unnamed =>
    exact within_of_stop hm (fail_eq_ok.mp h)
  case OP_1NEGATE | OP_1 | OP_2 | OP_3 | OP_4 | OP_5 | OP_6 | OP_7 | OP_8 | OP_9 | OP_10 | OP_11
    | OP_12 | OP_13 | OP_14 | OP_15 | OP_16 =>
    exact hm.push hm.stack (ofInt64_within hB _) (next_eq_ok.mp h)
  case OP_DEPTH =>
    exact hm.push hm.stack ((length_getvch_big_le _).trans (hbound (hdepth.trans (by decide))))
      (next_eq_ok.mp h)
  case OP_NOP => cases h; exact hm
  case OP_IF | OP_NOTIF => exact execIf_within hm h
  case OP_PICK | OP_ROLL => exact execPickRoll_within hm h
  case OP_LSHIFT => exact execShift_within length_lShift hm h
  case OP_RSHIFT => exact execShift_within length_rShift hm h
  case OP_NUM2BIN => exact execNum2Bin_within hB hm h
  case OP_CHECKDATASIG | OP_CHECKDATASIGVERIFY => exact execCheckDataSig_within hB hm h
  case OP_CHECKAUTHSIG | OP_CHECKAUTHSIGVERIFY => exact execCheckAuthSig_within hB henv hm h
  all_goals simp only at h
  case OP_CHECKLOCKTIMEVERIFY | OP_CHECKSEQUENCEVERIFY =>
    split at h
    · cases h; exact hm
    split at h
    · exact within_of_stop hm (fail_eq_ok.mp h)
    obtain ⟨_, -, h⟩ := except_bind_eq_ok.mp h
    split_ifs at h <;> simp only [fail_eq_ok, Except.ok.injEq] at h <;> subst h <;> exact hm
  case OP_NOP1 | OP_NOP4 | OP_NOP5 | OP_NOP6 | OP_NOP7 | OP_NOP8 | OP_NOP9 | OP_NOP10
    | OP_RETURN =>
    split_ifs at h <;> simp only [fail_eq_ok, Except.ok.injEq] at h <;> subst h <;> exact hm
  case OP_ELSE | OP_ENDIF =>
    split_ifs at h <;> simp only [fail_eq_ok, Except.ok.injEq] at h <;> subst h
    exacts [hm, hm.withVfExec _]
  case OP_TOALTSTACK =>
    split at h
    · exact within_of_stop hm (fail_eq_ok.mp h)
    · next top rest heq =>
      cases h
      obtain ⟨htop, hrest⟩ := hm.ofStack heq
      exact ⟨hrest, elemsWithin_cons.mpr ⟨htop, hm.altstack⟩, hm.context⟩
  case OP_FROMALTSTACK =>
    split at h
    · exact within_of_stop hm (fail_eq_ok.mp h)
    · next top rest heq =>
      cases h
      obtain ⟨htop, hrest⟩ := elemsWithin_cons.mp (heq ▸ hm.altstack)
      exact ⟨elemsWithin_cons.mpr ⟨htop, hm.stack⟩, hrest, hm.context⟩
  case OP_2DROP | OP_2DUP | OP_3DUP | OP_2OVER | OP_2ROT | OP_2SWAP | OP_IFDUP | OP_DROP
    | OP_DUP | OP_NIP | OP_OVER | OP_ROT | OP_SWAP | OP_TUCK | OP_VERIFY =>
    split at h
    all_goals first
      | exact within_of_stop hm (fail_eq_ok.mp h)
      | (next heq =>
          (try split_ifs at h) <;> simp only [fail_eq_ok, next_eq_ok] at h
          all_goals first
            | exact within_of_stop hm h
            | exact hm.shuffle (by rw [heq]; simp only [elemsWithin_cons]; tauto) h)
  case OP_SIZE =>
    split at h
    · exact within_of_stop hm (fail_eq_ok.mp h)
    · next x rest heq =>
      exact hm.push (heq ▸ hm.stack)
        ((length_getvch_big_le _).trans (hm.ofStack heq).1) (next_eq_ok.mp h)
  case OP_AND | OP_OR | OP_XOR =>
    split at h
    · next vch2 vch1 rest heq =>
      obtain ⟨-, h₁, hrest⟩ : _ ∧ vch1.length ≤ B ∧ ElemsWithin B rest := by
        simpa only [elemsWithin_cons] using hm.ofStack heq
      split_ifs at h
      · exact within_of_stop hm (fail_eq_ok.mp h)
      · exact hm.push hrest ((List.length_zipWith _ _ _).trans_le ((min_le_left _ _).trans h₁))
          (next_eq_ok.mp h)
    · exact within_of_stop hm (fail_eq_ok.mp h)
  case OP_INVERT | OP_REVERSEBYTES =>
    split at h
    · exact within_of_stop hm (fail_eq_ok.mp h)
    · next x rest heq =>
      obtain ⟨hx, hrest⟩ := hm.ofStack heq
      refine hm.push hrest ?_ (next_eq_ok.mp h)
      simpa only [List.length_map, List.length_reverse] using hx
  case OP_EQUAL | OP_EQUALVERIFY =>
    split at h
    · next vch2 vch1 rest heq =>
      have hrest : ElemsWithin B rest := (hm.ofStack heq).2.tail
      (try split_ifs at h) <;> simp only [fail_eq_ok, next_eq_ok] at h
      all_goals first
        | exact hm.push hrest (vchBool_within hB _) h
        | exact within_of_stop (hm.withStack (elemsWithin_cons.mpr ⟨vchBool_within hB _, hrest⟩)) h
        | exact hm.shuffle (fun _ => hrest) h
    · exact within_of_stop hm (fail_eq_ok.mp h)
    · cases h
  case OP_1ADD | OP_1SUB | OP_NEGATE | OP_ABS | OP_NOT | OP_0NOTEQUAL =>
    split at h
    · exact within_of_stop hm (fail_eq_ok.mp h)
    · next top rest heq =>
      obtain ⟨bn, hn, h⟩ := except_bind_eq_ok.mp h
      obtain ⟨r', hu, h⟩ := except_bind_eq_ok.mp h
      have hlen := length_unaryNumeric_le hn hu
      exact hm.push (hm.ofStack heq).2 (by omega) (next_eq_ok.mp h)
  case OP_ADD | OP_SUB | OP_MUL | OP_DIV | OP_MOD | OP_BOOLAND | OP_BOOLOR | OP_NUMEQUAL
    | OP_NUMEQUALVERIFY | OP_NUMNOTEQUAL | OP_LESSTHAN | OP_GREATERTHAN | OP_LESSTHANOREQUAL
    | OP_GREATERTHANOREQUAL | OP_MIN | OP_MAX =>
    split at h
    · next vch2 vch1 rest heq =>
      have hrest : ElemsWithin B rest := (hm.ofStack heq).2.tail
      obtain ⟨bn1, hn1, h⟩ := except_bind_eq_ok.mp h
      obtain ⟨bn2, hn2, h⟩ := except_bind_eq_ok.mp h
      obtain ⟨res, hres, h⟩ := except_bind_eq_ok.mp h
      split at h
      · exact within_of_stop hm (fail_eq_ok.mp h)
      · next bn =>
        have hlen := length_binaryNumeric_le hn1 hn2 hres
        have hbn : bn.getvch.length ≤ B := by omega
        (try split_ifs at h) <;> simp only [fail_eq_ok, next_eq_ok] at h
        all_goals first
          | exact hm.push hrest hbn h
          | exact within_of_stop (hm.withStack (elemsWithin_cons.mpr ⟨hbn, hrest⟩)) h
          | exact hm.shuffle (fun _ => hrest) h
    · exact within_of_stop hm (fail_eq_ok.mp h)
  case OP_WITHIN =>
    split at h
    · next x3 x2 x1 rest heq =>
      have hrest : ElemsWithin B rest := (hm.ofStack heq).2.tail.tail
      obtain ⟨_, -, h⟩ := except_bind_eq_ok.mp h
      obtain ⟨_, -, h⟩ := except_bind_eq_ok.mp h
      obtain ⟨_, -, h⟩ := except_bind_eq_ok.mp h
      exact hm.push hrest (vchBool_within hB _) (next_eq_ok.mp h)
    · exact within_of_stop hm (fail_eq_ok.mp h)
  case OP_RIPEMD160 | OP_SHA1 | OP_SHA256 | OP_HASH160 | OP_HASH256 =>
    split at h
    · exact within_of_stop hm (fail_eq_ok.mp h)
    · next vch rest heq =>
      obtain ⟨v, hv, h⟩ := except_bind_eq_ok.mp h
      exact hm.push (hm.ofStack heq).2 (hbound ((cryptoHash_length_le hv).trans (by decide)))
        (next_eq_ok.mp h)
  case OP_CAT =>
    split at h
    · next vch2 vch1 rest heq =>
      have hrest : ElemsWithin B rest := (hm.ofStack heq).2.tail
      split_ifs at h with hcat
      · exact within_of_stop hm (fail_eq_ok.mp h)
      · refine hm.push hrest (hbound ?_) (next_eq_ok.mp h)
        rw [List.length_append]; exact Nat.not_lt.mp hcat
    · exact within_of_stop hm (fail_eq_ok.mp h)
  case OP_SPLIT =>
    split at h
    · next vch2 data rest heq =>
      obtain ⟨-, hdata, hrest⟩ : _ ∧ data.length ≤ B ∧ ElemsWithin B rest := by
        simpa only [elemsWithin_cons] using hm.ofStack heq
      obtain ⟨_, -, h⟩ := except_bind_eq_ok.mp h
      split at h
      · exact within_of_stop hm (fail_eq_ok.mp h)
      obtain ⟨_, -, h⟩ := except_bind_eq_ok.mp h
      refine hm.shuffle (fun _ => ?_) (next_eq_ok.mp h)
      simp only [elemsWithin_cons, List.length_drop, List.length_take]
      exact ⟨by omega, by omega, hrest⟩
    · exact within_of_stop hm (fail_eq_ok.mp h)
  case OP_BIN2NUM =>
    split at h
    · exact within_of_stop hm (fail_eq_ok.mp h)
    · next x rest heq =>
      obtain ⟨hx, hrest⟩ := hm.ofStack heq
      have hn := (length_minimallyEncode_le x).trans hx
      split_ifs at h <;> simp only [fail_eq_ok, next_eq_ok] at h
      · exact within_of_stop (hm.withStack (elemsWithin_cons.mpr ⟨hn, hrest⟩)) h
      · exact hm.push hrest hn h
  case OP_TXVERSION | OP_TXINPUTCOUNT | OP_TXOUTPUTCOUNT | OP_TXLOCKTIME =>
    split at h
    · exact within_of_stop hm (fail_eq_ok.mp h)
    · exact execIntrospectionNullary_within hB hm h
  case OP_OUTPOINTTXHASH | OP_OUTPOINTINDEX | OP_OUTPUTVALUE | OP_OUTPUTBYTECODE
    | OP_INPUTBYTECODE | OP_INPUTSEQUENCENUMBER =>
    split at h
    · exact within_of_stop hm (fail_eq_ok.mp h)
    split at h
    · exact within_of_stop hm (fail_eq_ok.mp h)
    · next top rest heq =>
      obtain ⟨_, -, h⟩ := except_bind_eq_ok.mp h
      exact execIntrospectionUnary_within hB (hm.withStack (hm.ofStack heq).2) h
  case OP_FT_COUNT | OP_NFT_COUNT | OP_NFT_PUT | OP_FT_BALANCE_ADD =>
    split at h
    · exact within_of_stop hm (fail_eq_ok.mp h)
    split at h
    · exact within_of_stop hm (fail_eq_ok.mp h)
    · next n rest heq => exact execAvmUnary_within hB hm (hm.ofStack heq).2 h
  case OP_KV_EXISTS | OP_KV_GET | OP_KV_DELETE | OP_NFT_WITHDRAW | OP_HASH_FN
    | OP_GETBLOCKINFO | OP_DECODEBLOCKINFO | OP_FT_BALANCE | OP_FT_ITEM | OP_NFT_ITEM
    | OP_NFT_EXISTS =>
    split at h
    · exact within_of_stop hm (fail_eq_ok.mp h)
    split at h
    · next vch2 vch1 rest heq =>
      have hrest : ElemsWithin B rest := (hm.ofStack heq).2.tail
      exact execAvmBinary_within hB hm hrest h
    · exact within_of_stop hm (fail_eq_ok.mp h)
  case OP_KV_PUT | OP_FT_WITHDRAW =>
    split at h
    · exact within_of_stop hm (fail_eq_ok.mp h)
    split at h
    · next vch3 vch2 vch1 rest heq =>
      obtain ⟨h₃, -, -, hrest⟩ : vch3.length ≤ B ∧ _ ∧ _ ∧ ElemsWithin B rest := by
        simpa only [elemsWithin_cons] using hm.ofStack heq
      exact execAvmTernary_within hB hm hrest h₃ h
    · exact within_of_stop hm (fail_eq_ok.mp h)

end Opcode

/-! ## Section 7: the loop -/

/-- What holds between two turns of the loop: the bound on the elements, and
    the depth its check keeps. -/
structure LoopInv (B : Nat) (m : Machine) : Prop where
  within : Within B m
  depth : m.stack.length + m.altstack.length ≤ MAX_STACK_SIZE

theorem checkStackSize_machine {r r' : StepResult} (h : checkStackSize r = .ok r') :
    r'.machine = r.machine := by
  unfold checkStackSize at h
  split at h
  · split_ifs at h <;> simp only [fail_eq_ok, Except.ok.injEq] at h <;> subst h <;> rfl
  · cases h; rfl

theorem checkStackSize_depth {r : StepResult} {m' : Machine}
    (h : checkStackSize r = .ok (.next m')) :
    m'.stack.length + m'.altstack.length ≤ MAX_STACK_SIZE := by
  unfold checkStackSize at h
  split at h
  · split_ifs at h with hgt
    · cases h
    · cases h; exact Nat.not_lt.mp hgt
  · next hr => cases h; exact (hr _ rfl).elim

/-- A turn that stops before its opcode runs. -/
theorem stop_loopInv {B : Nat} {r : StepResult} {e : ScriptError} {m' : Machine}
    (h' : Within B m') (h : r = .stop false e m') :
    Within B r.machine ∧ ∀ m'', r = .next m'' → LoopInv B m'' := by
  subst h; exact ⟨h', nofun⟩

/-- The depth check keeps what the opcode left and adds the depth. -/
theorem checkStackSize_loopInv {B : Nat} {r₀ r : StepResult} (h₀ : Within B r₀.machine)
    (h : checkStackSize r₀ = .ok r) : Within B r.machine ∧ ∀ m', r = .next m' → LoopInv B m' := by
  have hw : Within B r.machine := by rw [checkStackSize_machine h]; exact h₀
  exact ⟨hw, by rintro m' rfl; exact ⟨hw, checkStackSize_depth h⟩⟩

/-- The machines the loop passes through: the one it starts from, and the one
    each turn ends with, up to the turn that stops it. -/
def evalTrace (env : Env) : List (Option (UInt8 × Valtype)) → Machine → List Machine
  | [], m => [m]
  | op :: ops, m => m ::
    match step env op m with
    | .ok (.next m') => evalTrace env ops m'
    | .ok (.stop _ _ m') => [m']
    | .error _ => []

/-- The stack and the context `EvalScript` returns are those of a machine
    the loop passed through. -/
theorem evalOps_mem_evalTrace {env : Env} {ops : List (Option (UInt8 × Valtype))} {k : Nat}
    {m : Machine} {res : EvalResult} (h : evalOps env ops k m = .ok res) :
    ∃ m' ∈ evalTrace env ops m, res.stack = m'.stack ∧ res.stateContext = m'.stateContext := by
  induction ops generalizing k m with
  | nil =>
    simp only [evalOps, Except.ok.injEq] at h
    subst h
    exact ⟨m, List.mem_singleton_self m, by split <;> rfl, by split <;> rfl⟩
  | cons op ops ih =>
    rw [evalOps] at h
    rw [evalTrace]
    rcases hs : step env op m with t | ⟨m'⟩ | ⟨b, e, m'⟩ <;> rw [hs] at h
    · dsimp only at h
      split at h
      · cases h; exact ⟨m, List.mem_cons_self _ _, rfl, rfl⟩
      · cases h
    · obtain ⟨m'', hm'', hres⟩ := ih h
      exact ⟨m'', List.mem_cons_of_mem _ hm'', hres⟩
    · cases h; exact ⟨m', List.mem_cons_of_mem _ (List.mem_singleton_self m'), rfl, rfl⟩

section Loop

variable {B : Nat} (hB : 2 * MAXIMUM_ITEM_SIZE + 1 ≤ B) {env : Env}
  (henv : ∀ ctx, env.context = some ctx → ctx.pubKey.length ≤ B)
  {m : Machine} {r : StepResult}
include hB henv

/-- One turn of the loop ends with a machine within `B`, and a turn that
    goes on keeps the invariant. -/
theorem step_loopInv {op : Option (UInt8 × Valtype)} (hm : LoopInv B m)
    (h : step env op m = .ok r) : Within B r.machine ∧ ∀ m', r = .next m' → LoopInv B m' := by
  unfold step at h
  split at h
  · exact stop_loopInv hm.within (fail_eq_ok.mp h)
  next opcode vch =>
  dsimp only at h
  have hc := hm.within.countOp opcode
  split at h
  · exact stop_loopInv hm.within (fail_eq_ok.mp h)
  next hpush =>
  split at h
  · exact stop_loopInv hc (fail_eq_ok.mp h)
  split at h
  · exact stop_loopInv hc (fail_eq_ok.mp h)
  split_ifs at h <;> obtain ⟨r₀, h₀, h⟩ := except_bind_eq_ok.mp h <;>
    refine checkStackSize_loopInv ?_ h
  · exact within_of_stop hc (fail_eq_ok.mp h₀)
  · exact hc.push hc.stack (le_bound_of_le hB (Nat.not_lt.mp hpush)) (next_eq_ok.mp h₀)
  · have hdepth := hm.depth
    exact execOpcode_within hB henv hc (by rw [countOp_stack]; omega) h₀
  · cases h₀; exact hc

/-- Every machine the loop passes through is within `B`. -/
theorem evalTrace_within (ops : List (Option (UInt8 × Valtype))) (hm : LoopInv B m) :
    ∀ m' ∈ evalTrace env ops m, Within B m' := by
  induction ops generalizing m with
  | nil => simpa [evalTrace] using hm.within
  | cons op ops ih =>
    rw [evalTrace]
    intro m' hm'
    rcases List.mem_cons.mp hm' with rfl | hm'
    · exact hm.within
    rcases hs : step env op m with t | ⟨m''⟩ | ⟨b, e, m''⟩ <;> rw [hs] at hm'
    · cases hm'
    · exact ih ((step_loopInv hB henv hm hs).2 _ rfl) m' hm'
    · rw [List.mem_singleton.mp hm']
      exact (step_loopInv hB henv hm hs).1

end Loop

/-- With `B` at least the largest numeric result, and bounding the public
    key, the initial stack, the stored values and the block-info table:
    every machine `EvalScript` passes through keeps every element of both
    stacks within `B`, and so do the stack and the context it returns. -/
theorem elements_within_bound (env : Env) (B : Nat) (hB : 2 * MAXIMUM_ITEM_SIZE + 1 ≤ B)
    (henv : ∀ ctx, env.context = some ctx → ctx.pubKey.length ≤ B)
    (stack : List Valtype) (hstack : ElemsWithin B stack) (hdepth : stack.length ≤ MAX_STACK_SIZE)
    (sc : ScriptStateContext) (hsc : ContextWithin B sc) (script : Valtype) :
    (∀ m ∈ evalTrace env (scriptOps script) (.start stack sc), Within B m) ∧
    ∀ res, evalScript env stack script sc = .ok res →
      ElemsWithin B res.stack ∧ ContextWithin B res.stateContext := by
  have h₀ : LoopInv B (.start stack sc) := ⟨⟨hstack, elemsWithin_nil, hsc⟩, hdepth⟩
  have htrace := evalTrace_within hB henv (scriptOps script) h₀
  refine ⟨htrace, fun res h => ?_⟩
  unfold evalScript at h
  split at h
  · cases h; exact ⟨hstack, hsc⟩
  · obtain ⟨m', hm', hstack', hsc'⟩ := evalOps_mem_evalTrace h
    exact hstack' ▸ hsc' ▸ ⟨(htrace m' hm').stack, (htrace m' hm').context⟩

/-! ## Section 8: the 4000-byte cap -/

/-- OP_1ADD on a number read from the top pushes the bytes of its
    successor, with no check of their length. -/
theorem execOpcode_oneAdd (env : Env) (m : Machine) {x : Valtype} {rest : List Valtype} {v : Int}
    (hs : m.stack = x :: rest) (hx : num x = .ok (.big v)) :
    execOpcode env true .OP_1ADD m = next m ((CScriptNum.big (v + 1)).getvch :: rest) := by
  obtain ⟨stack, alt, vf, n, sc⟩ := m
  subst hs
  have hdef : execOpcode env true .OP_1ADD ⟨x :: rest, alt, vf, n, sc⟩ =
      (num x >>= fun bn => unaryNumeric .OP_1ADD bn >>= fun r =>
        next ⟨x :: rest, alt, vf, n, sc⟩ (r.getvch :: rest)) := rfl
  rw [hdef, hx]
  rfl

/-- The bytes of `128 * 256 ^ 3999 - 1`, the largest number that fits in
    `MAX_SCRIPT_ELEMENT_SIZE` bytes. -/
def capOperand : Valtype := (CScriptNum.big ((128 * 256 ^ 3999 - 1 : Nat) : Int)).getvch

theorem length_capOperand_le : capOperand.length ≤ MAX_SCRIPT_ELEMENT_SIZE :=
  @CScriptNum.length_getvch_le _ 3999 (Nat.sub_lt (by positivity) Nat.one_pos)

/-- The successor of `capOperand`'s number takes one byte more than the cap. -/
theorem cap_lt_length_successor :
    MAX_SCRIPT_ELEMENT_SIZE < (CScriptNum.big ((128 * 256 ^ 3999 : Nat) : Int)).getvch.length := by
  rw [CScriptNum.getvch_eq]
  exact @le_length_serializeLoop _ _ 3999 le_rfl

theorem num_capOperand : num capOperand = .ok (.big ((128 * 256 ^ 3999 - 1 : Nat) : Int)) := by
  obtain ⟨bn, hbn, heq⟩ := CScriptNum.ofSpan_getvch (.big ((128 * 256 ^ 3999 - 1 : Nat) : Int))
    (length_capOperand_le.trans (by decide) : capOperand.length ≤ MAXIMUM_ITEM_SIZE)
  have hbig := CScriptNum.ofSpan_big hbn
  rw [(CScriptNum.equal_iff _ _).mp heq] at hbig
  rw [hbig] at hbn
  exact hbn

/-- The cap is not kept: from a stack holding one element of 4000 bytes, the
    locking script OP_1ADD (`0x8b`) succeeds and leaves an element of 4001
    bytes. -/
theorem one_add_exceeds_element_cap :
    capOperand.length ≤ MAX_SCRIPT_ELEMENT_SIZE ∧
    MAX_SCRIPT_ELEMENT_SIZE < (CScriptNum.big ((128 * 256 ^ 3999 : Nat) : Int)).getvch.length ∧
    evalScript sampleEnv [capOperand] [0x8b] emptyContext =
      .ok ⟨true, .OK, 0, [(CScriptNum.big ((128 * 256 ^ 3999 : Nat) : Int)).getvch],
        emptyContext⟩ := by
  refine ⟨length_capOperand_le, cap_lt_length_successor, ?_⟩
  have hv : ((128 * 256 ^ 3999 - 1 : Nat) : Int) + 1 = ((128 * 256 ^ 3999 : Nat) : Int) := by
    have hpos : 0 < 128 * 256 ^ 3999 := by positivity
    generalize 128 * 256 ^ 3999 = N at hpos ⊢
    omega
  have hstep : step sampleEnv (some (0x8b, [])) (.start [capOperand] emptyContext) =
      .ok (.next ⟨[(CScriptNum.big ((128 * 256 ^ 3999 : Nat) : Int)).getvch], [], .init, 1,
        emptyContext⟩) := by
    rw [@step_of_dispatches sampleEnv 0x8b [] (.start [capOperand] emptyContext)
        ⟨by decide, fun _ => by decide, rfl, rfl, by decide⟩,
      show Opcode.ofByte 0x8b = .OP_1ADD from rfl,
      execOpcode_oneAdd sampleEnv _ rfl num_capOperand, hv]
    rfl
  unfold evalScript
  rw [if_neg (by decide), scriptOps_cons_of_gt (by decide), scriptOps_nil,
    evalOps_cons_of_next hstep]
  rfl

/-- The bound at `2 * MAXIMUM_ITEM_SIZE + 1` on that run. -/
theorem one_add_within_bound :
    (∀ m ∈ evalTrace sampleEnv (scriptOps [0x8b]) (.start [capOperand] emptyContext),
      Within 200001 m) ∧
    ∀ res, evalScript sampleEnv [capOperand] [0x8b] emptyContext = .ok res →
      ElemsWithin 200001 res.stack ∧ ContextWithin 200001 res.stateContext :=
  elements_within_bound sampleEnv 200001 (by decide) (fun _ h => by cases h; decide)
    [capOperand] (elemsWithin_cons.mpr ⟨length_capOperand_le.trans (by decide), elemsWithin_nil⟩)
    (by decide) emptyContext ⟨fun _ _ _ h => (by cases h), fun _ h => (by cases h)⟩ [0x8b]

end Avm
