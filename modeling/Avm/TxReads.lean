import Avm.Interpreter

/-! # What the interpreter reads of the transaction

    `getAuthMessage` (script_execution_context.h) writes each output's value
    as `writeUint64(CScriptNum(output.nValue / SATOSHI).getint())`: the
    value is saturated to `int` before it is written, so every value from
    `2^31 - 1` up is written as `2^31 - 1`.

    `CScript::IsSigOpReturn` (script.h), which `getAuthSig` and
    `getAuthMessage` call on every output they visit, checks that the
    script is not empty and starts with `OP_RETURN`, then compares bytes 1
    to 4 with the marker `03 73 69 67` through `&&`, without checking the
    script's length: a script that ends while its bytes still match the
    marker is read past its end.
-/

namespace Avm

namespace ScriptExecutionContext

/-! ## Section 1: the value of an output in the auth message -/

/-- The auth message as the specification lays it out: the first input's
    outpoint, the full script, and for every output that does not carry the
    signature its value in satoshis, as `LE64`, and its script. -/
def authMessageSpec (ctx : ScriptExecutionContext) : Valtype :=
  match ctx.tx.vin with
  | input :: _ =>
    input.prevout.txid ++ serializeUint32 input.prevout.n ++ ctx.fullScript ++
      (ctx.tx.vout.filter (isSigOpReturn ·.scriptPubKey |>.isNone)).flatMap
        fun output => serializeUint64 (castUInt64 output.nValue) ++ output.scriptPubKey
  | [] => []

theorem value_ofInt64_of_nonneg {n : Int} (h0 : 0 ≤ n) (h1 : n < 2 ^ 63) :
    (CScriptNum.ofInt64 n).value = n := by
  rw [CScriptNum.value_ofInt64, BitVec.toInt_ofInt, Int.bmod_def, Int.emod_eq_of_lt h0 (by omega)]
  split_ifs <;> omega

/-- A value within `int` is written as it is. -/
theorem getint_ofInt64_of_le {n : Int} (h0 : 0 ≤ n) (h1 : n ≤ INT32_MAX) :
    (CScriptNum.ofInt64 n).getint = n := by
  unfold CScriptNum.getint
  unfold INT32_MAX at h1
  rw [value_ofInt64_of_nonneg h0 (by omega)]
  omega

/-- A transaction with one input and one output worth `v` satoshis. -/
def oneOutputContext (v : Int) : ScriptExecutionContext :=
  ⟨⟨2, [⟨⟨List.replicate 32 0, 0, rfl⟩, [], 0⟩], [⟨v, []⟩], 0⟩, [], []⟩

/-- Where every output that does not carry the signature is worth at most
    `INT32_MAX` satoshis, the message has the specified layout. -/
theorem getAuthMessage_eq_spec (ctx : ScriptExecutionContext) (hvin : ctx.tx.vin ≠ [])
    (hval : ∀ o ∈ ctx.tx.vout, (isSigOpReturn o.scriptPubKey).isNone →
      0 ≤ o.nValue ∧ o.nValue ≤ INT32_MAX) :
    ctx.getAuthMessage = ctx.authMessageSpec := by
  unfold getAuthMessage authMessageSpec
  obtain ⟨input, inputs, hin⟩ := List.exists_cons_of_ne_nil hvin
  simp only [hin, List.append_assoc]
  congr 3
  refine List.flatMap_congr fun o ho => ?_
  obtain ⟨ho, hsig⟩ := List.mem_filter.mp ho
  obtain ⟨h0, h1⟩ := hval o ho hsig
  rw [getint_ofInt64_of_le h0 h1]

/-- The layout at a transaction with one output worth 5 satoshis. -/
theorem authMessage_layout_small_output :
    (oneOutputContext 5).tx.vin ≠ [] ∧
    (∀ o ∈ (oneOutputContext 5).tx.vout, (isSigOpReturn o.scriptPubKey).isNone →
      0 ≤ o.nValue ∧ o.nValue ≤ INT32_MAX) ∧
    (oneOutputContext 5).getAuthMessage = (oneOutputContext 5).authMessageSpec :=
  have hvin : (oneOutputContext 5).tx.vin ≠ [] := List.cons_ne_nil _ _
  have hval : ∀ o ∈ (oneOutputContext 5).tx.vout, (isSigOpReturn o.scriptPubKey).isNone →
      0 ≤ o.nValue ∧ o.nValue ≤ INT32_MAX := by decide
  ⟨hvin, hval, getAuthMessage_eq_spec _ hvin hval⟩

/-- Outputs worth `2^31` and `2^31 + 1` satoshis give the same auth message,
    where the specified layouts differ: the signed message does not fix the
    value of the output. -/
theorem authMessage_misses_output_value :
    (oneOutputContext (2 ^ 31)).getAuthMessage = (oneOutputContext (2 ^ 31 + 1)).getAuthMessage ∧
    (oneOutputContext (2 ^ 31)).authMessageSpec ≠
      (oneOutputContext (2 ^ 31 + 1)).authMessageSpec := by
  constructor <;> decide

end ScriptExecutionContext

/-! ## Section 2: the reads of `IsSigOpReturn` -/

/-- The marker `0x03 "sig"` that bytes 1 to 4 are compared with. -/
def sigMarker : Valtype := [0x03, 0x73, 0x69, 0x67]

/-- Whether comparing `t` with `marker` byte by byte, `&&` stopping at the
    first difference, reads past the end of `t`. -/
def readsPastEnd : Valtype → Valtype → Bool
  | _, [] => false
  | [], _ :: _ => true
  | b :: t, c :: cs => b == c && readsPastEnd t cs

/-- Whether `IsSigOpReturn` reads past the end of the script: `IsUnspendable`
    reads byte 0 of a non-empty script only, and then the marker test reads
    bytes 1 to 4 in turn while they match. -/
def sigOpReturnReadsPastEnd : Valtype → Bool
  | b :: t => b == OP_RETURN && readsPastEnd t sigMarker
  | [] => false

theorem readsPastEnd_iff (t marker : Valtype) :
    readsPastEnd t marker = true ↔ ∃ k < marker.length, t = marker.take k := by
  induction marker generalizing t with
  | nil => simp [readsPastEnd]
  | cons c cs ih =>
    cases t with
    | nil => exact ⟨fun _ => ⟨0, by simp, rfl⟩, fun _ => rfl⟩
    | cons b t =>
      simp only [readsPastEnd, Bool.and_eq_true, beq_iff_eq, ih, List.length_cons]
      constructor
      · rintro ⟨rfl, k, hk, rfl⟩
        exact ⟨k + 1, by omega, rfl⟩
      · rintro ⟨_ | k, hk, h⟩
        · cases h
        · simp only [List.take_succ_cons, List.cons.injEq] at h
          exact ⟨h.1, k, by omega, h.2⟩

/-- `IsSigOpReturn` reads past the end of exactly the scripts `OP_RETURN`
    followed by a proper prefix of the marker: `6a`, `6a 03`, `6a 03 73`
    and `6a 03 73 69`. -/
theorem sigOpReturn_reads_past_end_iff (script : Valtype) :
    sigOpReturnReadsPastEnd script = true ↔ ∃ k < 4, script = OP_RETURN :: sigMarker.take k := by
  cases script with
  | nil => simp [sigOpReturnReadsPastEnd]
  | cons b t =>
    simp only [sigOpReturnReadsPastEnd, Bool.and_eq_true, beq_iff_eq, readsPastEnd_iff,
      List.cons.injEq]
    exact ⟨fun ⟨hb, k, hk, ht⟩ => ⟨k, hk, hb, ht⟩, fun ⟨k, hk, hb, ht⟩ => ⟨hb, k, hk, ht⟩⟩

/-- Whether `getAuthSig` reads past the end of an output script: it calls
    `IsSigOpReturn` on the outputs in order up to the first that carries a
    signature. -/
def authSigReadsPastEnd : List CTxOut → Bool
  | [] => false
  | o :: os => sigOpReturnReadsPastEnd o.scriptPubKey ||
      ((isSigOpReturn o.scriptPubKey).isNone && authSigReadsPastEnd os)

/-- A transaction with one input and the single output `OP_RETURN`, the
    usual data-carrier output: `OP_CHECKAUTHSIG` calls `getAuthSig` on it,
    which reads byte 1 of the one-byte script. -/
theorem authSig_reads_past_op_return :
    sigOpReturnReadsPastEnd [OP_RETURN] = true ∧
    authSigReadsPastEnd [⟨0, [OP_RETURN]⟩] = true :=
  have h := (sigOpReturn_reads_past_end_iff [OP_RETURN]).mpr ⟨0, by decide, rfl⟩
  ⟨h, by simp only [authSigReadsPastEnd, h, Bool.true_or]⟩

end Avm
