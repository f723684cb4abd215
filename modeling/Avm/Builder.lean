import Avm.Frame
import Avm.Pushes

/-! # The script builder against the interpreter

    `CScript` (script.h) builds scripts with `operator<<`: a byte vector
    goes in as its shortest data push, and a number through `push_int64`
    as `OP_1NEGATE`, `OP_0` or `OP_1` to `OP_16` where one of those
    stands for it, and otherwise as the push of the bytes `serialize`
    writes.  `EvalScript` reads such a script back with `GetScriptOp` and
    runs it under the minimal-push rule.

    The two sides agree.  A vector push runs to the vector on the stack,
    except for the one-byte values that have an opcode of their own, where
    the interpreter stops with MINIMALDATA: the vector builder never picks
    those opcodes.  A number, whichever encoding `push_int64` picks for it,
    is one read, and the read pushes the bytes `serialize` writes.

    Section 1 is the builder; Section 2 the single vector push; Section 3
    the numbers, one lemma per branch of `push_int64`.  The chains of
    numbers and numeric opcodes are run in `Avm.Numeric`.
-/

namespace Avm

/-! ## Section 1: the builder -/

/-- `CScript::push_int64`: `OP_1NEGATE` and `OP_1` to `OP_16` for their
    numbers, `OP_0` for zero, and otherwise `*this << v` with `v` the bytes
    `serialize(n)` writes. -/
def pushInt64 (script : Valtype) (n : BitVec 64) : Valtype :=
  if n.toInt = -1 ∨ (1 ≤ n.toInt ∧ n.toInt ≤ 16) then
    script ++ [UInt8.ofNat (n.toInt + (OP_1.toNat - 1 : Nat)).toNat]
  else if n.toInt = 0 then script ++ [OP_0]
  else pushVector script (serialize n)

/-- A one-byte value with an opcode of its own: the numbers 1 to 16, and
    `0x81`, which is -1. -/
def hasSmallIntOpcode (b : Valtype) : Bool :=
  b.length = 1 ∧ (1 ≤ b.headD 0 ∧ b.headD 0 ≤ 16 ∨ b.headD 0 = 0x81)

theorem length_pushVector_le (b : Valtype) : (pushVector [] b).length ≤ b.length + 5 := by
  unfold pushVector
  split_ifs <;> simp [length_leBytes] <;> omega

/-- `CheckMinimalPush` accepts the opcode `CScript() << b` writes unless `b`
    has an opcode of its own. -/
theorem checkMinimalPush_pushVector (b : Valtype) :
    checkMinimalPush b ((pushVector [] b).headD 0) = !hasSmallIntOpcode b := by
  have h76 : OP_PUSHDATA1.toNat = 76 := rfl
  unfold pushVector
  rw [List.nil_append]
  split_ifs with h₁ h₂ h₃
  · rcases b with _ | ⟨x, _ | ⟨y, t⟩⟩
    · rfl
    · simp only [List.singleton_append, List.headD_cons, checkMinimalPush, hasSmallIntOpcode,
        List.length_singleton]
      by_cases h1 : 1 ≤ x ∧ x ≤ 16 <;> by_cases h2 : x = 129 <;> simp [h1, h2]
    · have hl : (UInt8.ofNat (t.length + 2)).toNat = t.length + 2 :=
        toNat_ofNat_of_lt (by simp at h₁; omega)
      simp only [List.singleton_append, List.headD_cons, checkMinimalPush, hasSmallIntOpcode,
        List.length_cons] at h₁ hl ⊢
      simp [hl]
      omega
  all_goals
    have hne : ¬b.length ≤ 75 := by omega
    simp only [List.cons_append, List.headD_cons, checkMinimalPush, hasSmallIntOpcode, hne,
      show b.length ≠ 0 by omega, show b.length ≠ 1 by omega, false_and, if_false]
    split_ifs; rfl

/-- `CScript() << b` reads back as one push of `b`, under the opcode it
    starts with. -/
theorem scriptOps_pushVector {b : Valtype} (hb : b.length < 2 ^ 32) :
    scriptOps (pushVector [] b) = [some ((pushVector [] b).headD 0, b)] := by
  obtain ⟨opcode, -, hI⟩ := instruction_pushVector hb
  have hg := getScriptOp_complete hI (r := []) (by simpa using hb)
  rw [List.append_nil] at hg
  rw [scriptOps_of_some hg, scriptOps_nil, hI.headD_eq]

theorem hasSmallIntOpcode_singleton (b : UInt8) :
    hasSmallIntOpcode [b] = true ↔ 1 ≤ b.toNat ∧ b.toNat ≤ 16 ∨ b.toNat = 129 := by
  simp only [hasSmallIntOpcode, List.length_singleton, List.headD_cons, decide_eq_true_eq, true_and]
  exact or_congr Iff.rfl UInt8.ext_iff

/-- Only -1 and the numbers 1 to 16 serialize to a value with an opcode of
    its own. -/
theorem hasSmallIntOpcode_serialize {n : BitVec 64} (h : hasSmallIntOpcode (serialize n) = true) :
    n.toInt = -1 ∨ (1 ≤ n.toInt ∧ n.toInt ≤ 16) := by
  rw [serialize_eq] at h
  rcases Nat.lt_or_ge n.toInt.natAbs 128 with hl | hl
  · rcases Nat.eq_zero_or_pos n.toInt.natAbs with h0 | h0
    · rw [h0, serializeLoop_zero] at h
      exact absurd h (by decide)
    rw [serializeLoop_of_low h0 hl, hasSmallIntOpcode_singleton] at h
    by_cases hneg : n.toInt < 0
    · rw [decide_eq_true hneg, if_pos rfl, toNat_ofNat_lor_0x80 hl] at h
      omega
    · rw [decide_eq_false hneg, if_neg Bool.false_ne_true, toNat_ofNat_of_lt (by omega)] at h
      omega
  · have := @le_length_serializeLoop (decide (n.toInt < 0)) _ 0 (by simpa using hl)
    simp only [hasSmallIntOpcode, decide_eq_true_eq] at h
    omega

theorem length_serialize_le (n : BitVec 64) : (serialize n).length ≤ 9 := by
  rw [serialize_eq]
  refine length_serializeLoop_le (k := 8) ?_
  have := n.isLt
  rw [BitVec.toInt_eq_toNat_cond]
  split_ifs <;> omega

/-! ## Section 2: evaluating what the builder writes -/

/-- A data push in an executed branch with room on the stack pushes its
    data, or stops with MINIMALDATA. -/
theorem step_push (env : Env) {opcode : UInt8} {vch : Valtype} (hle : opcode ≤ OP_PUSHDATA4)
    (hpush : vch.length ≤ MAX_SCRIPT_ELEMENT_SIZE) {m : Machine} (hv : m.vfExec.all_true = true)
    (hd : m.stack.length + m.altstack.length < MAX_STACK_SIZE) :
    step env (some (opcode, vch)) m =
      if checkMinimalPush vch opcode then .ok (.next { m with stack := vch :: m.stack })
      else fail .MINIMALDATA m := by
  have hle' : opcode.toNat ≤ 78 := hle
  have hop : opcode ≤ OP_16 := show opcode.toNat ≤ 96 by omega
  have hc : countOp opcode m = m := if_neg (UInt8.not_lt.mpr hop)
  rw [step_gate_all_true env (fun h => by have : 99 ≤ opcode.toNat := h.1; omega) hpush
    (fun h => absurd h (UInt8.not_lt.mpr hop)) (isOpcodeDisabled_of_le hop),
    hv, if_pos rfl, if_pos hle, hc]
  cases checkMinimalPush vch opcode
  · rfl
  · show checkStackSize (.next _) = _
    simp only [checkStackSize, List.length_cons, if_true]
    rw [if_neg (by omega)]

theorem length_pushVector_lt {b : Valtype} (hb : b.length ≤ MAX_SCRIPT_ELEMENT_SIZE) :
    ¬(pushVector [] b).length > MAX_SCRIPT_SIZE := by
  have := length_pushVector_le b
  have : MAX_SCRIPT_ELEMENT_SIZE = 4000 := rfl
  have : MAX_SCRIPT_SIZE = 1000000 := rfl
  omega

/-- A script of one data push, run from a stack with room: it pushes the
    data, or stops with MINIMALDATA. -/
theorem evalOps_push (env : Env) {opcode : UInt8} {vch : Valtype} (hle : opcode ≤ OP_PUSHDATA4)
    (hpush : vch.length ≤ MAX_SCRIPT_ELEMENT_SIZE) {stack : List Valtype} (σ : ScriptStateContext)
    (hd : stack.length < MAX_STACK_SIZE) :
    evalOps env [some (opcode, vch)] 0 (.start stack σ) =
      .ok (if checkMinimalPush vch opcode then ⟨true, .OK, 0, vch :: stack, σ⟩
        else ⟨false, .MINIMALDATA, 0, stack, σ⟩) := by
  rw [evalOps, step_push env hle hpush (m := .start stack σ) rfl hd]
  cases checkMinimalPush vch opcode <;> rfl

/-- What `CScript() << b` runs to, from a stack with room: `b` on the
    stack, unless `b` has an opcode of its own, which the interpreter asks
    for instead. -/
theorem evalScript_pushVector (env : Env) (stack : List Valtype) (b : Valtype)
    (σ : ScriptStateContext) (hb : b.length ≤ MAX_SCRIPT_ELEMENT_SIZE)
    (hd : stack.length < MAX_STACK_SIZE) :
    evalScript env stack (pushVector [] b) σ =
      .ok (if hasSmallIntOpcode b then ⟨false, .MINIMALDATA, 0, stack, σ⟩
        else ⟨true, .OK, 0, b :: stack, σ⟩) := by
  have hl : b.length < 2 ^ 32 := by have : MAX_SCRIPT_ELEMENT_SIZE = 4000 := rfl; omega
  obtain ⟨opcode, hle, hI⟩ := instruction_pushVector hl
  rw [evalScript, if_neg (length_pushVector_lt hb), scriptOps_pushVector hl,
    evalOps_push env (hI.headD_eq ▸ hle) hb σ hd, checkMinimalPush_pushVector]
  cases hasSmallIntOpcode b <;> rfl

theorem pushVector_five_minimaldata :
    evalScript sampleEnv [] (pushVector [] [5]) emptyContext =
      .ok (if hasSmallIntOpcode [5] then ⟨false, .MINIMALDATA, 0, [], emptyContext⟩
        else ⟨true, .OK, 0, [[5]], emptyContext⟩) :=
  evalScript_pushVector sampleEnv [] [5] emptyContext (by decide) (by decide)

/-! ## Section 3: numbers -/

/-- A read that, in an executed branch with room on the stack, pushes `v`
    and changes nothing else. -/
def PushesValue (env : Env) (op : Option (UInt8 × Valtype)) (v : Valtype) : Prop :=
  ∀ m : Machine, m.vfExec.all_true = true → m.stack.length + m.altstack.length < MAX_STACK_SIZE →
    step env op m = .ok (.next { m with stack := v :: m.stack })

theorem pushesValue_push (env : Env) {opcode : UInt8} {vch : Valtype} (hle : opcode ≤ OP_PUSHDATA4)
    (hpush : vch.length ≤ MAX_SCRIPT_ELEMENT_SIZE) (hmin : checkMinimalPush vch opcode = true) :
    PushesValue env (some (opcode, vch)) vch := fun _ hv hd => by
  rw [step_push env hle hpush hv hd, if_pos hmin]

/-- `OP_1NEGATE` and `OP_1` to `OP_16` push their numbers. -/
theorem pushesValue_number (env : Env) {c : UInt8} (h₁ : OP_PUSHDATA4 < c) (h₂ : c ≤ OP_16)
    (h50 : c ≠ 0x50) : PushesValue env (some (c, [])) (pushValue c []) := fun m hv hd => by
  rw [step_of_dispatches env ⟨by decide, fun h => absurd h (UInt8.not_lt.mpr h₂),
      isOpcodeDisabled_of_le h₂, hv, h₁⟩, countOp, if_neg (UInt8.not_lt.mpr h₂),
    execOpcode_pushNumber env true _ h₁ h₂, if_neg h50, getvch_pushNumber [] h₁ h₂]
  exact if_neg (show ¬m.stack.length + 1 + m.altstack.length > MAX_STACK_SIZE by omega)

/-- `CScript() << n` is one read, and the read pushes `serialize(n)`. -/
theorem scriptOps_pushInt64 (env : Env) (n : BitVec 64) :
    ∃ opcode data, scriptOps (pushInt64 [] n) = [some (opcode, data)] ∧
      PushesValue env (some (opcode, data)) (serialize n) := by
  unfold pushInt64
  split_ifs with hsmall hzero
  · -- `OP_1NEGATE`, `OP_1` to `OP_16`
    obtain ⟨c, hcdef⟩ : ∃ c, c = UInt8.ofNat (n.toInt + 80).toNat := ⟨_, rfl⟩
    rw [show ((OP_1.toNat - 1 : Nat) : Int) = 80 from rfl, ← hcdef, List.nil_append]
    have hc : c.toNat = (n.toInt + 80).toNat := hcdef ▸ toNat_ofNat_of_lt (by omega)
    have h₁ : OP_PUSHDATA4 < c := show 78 < c.toNat by omega
    have h₂ : c ≤ OP_16 := show c.toNat ≤ 96 by omega
    have h50 : c ≠ 0x50 := fun h => by
      have : c.toNat = 80 := by rw [h]; rfl
      omega
    have hpush : pushValue c [] = serialize n := by
      rw [pushValue, if_neg (UInt8.not_le.mpr h₁), hc, Bigint.serialize_eq, serialize_eq,
        show ((n.toInt + 80).toNat : Int) - 0x50 = n.toInt by omega]
    refine ⟨c, [], by rw [scriptOps_cons_of_gt h₁, scriptOps_nil], ?_⟩
    exact hpush ▸ pushesValue_number env h₁ h₂ h50
  · -- `OP_0`
    have hn : n = 0 := BitVec.toInt_inj.mp hzero
    subst hn
    exact ⟨OP_0, [], by rw [List.nil_append, scriptOps_of_some (getScriptOp_OP_0 []), scriptOps_nil],
      pushesValue_push env (by decide) (by decide) rfl⟩
  · -- `*this << serialize(n)`
    have hb : (serialize n).length ≤ MAX_SCRIPT_ELEMENT_SIZE :=
      (length_serialize_le n).trans (by decide)
    have hl : (serialize n).length < 2 ^ 32 := by have := length_serialize_le n; omega
    obtain ⟨opcode, hle, hI⟩ := instruction_pushVector hl
    have hs : hasSmallIntOpcode (serialize n) = false :=
      Bool.eq_false_iff.mpr fun h => hsmall (hasSmallIntOpcode_serialize h)
    refine ⟨_, _, scriptOps_pushVector hl, pushesValue_push env (hI.headD_eq ▸ hle) hb ?_⟩
    rw [checkMinimalPush_pushVector, hs]
    rfl

theorem pushInt64_eq_append (script : Valtype) (n : BitVec 64) :
    pushInt64 script n = script ++ pushInt64 [] n := by
  unfold pushInt64 pushVector
  split_ifs <;> simp

theorem length_pushInt64_le (n : BitVec 64) : (pushInt64 [] n).length ≤ 14 := by
  unfold pushInt64
  have := (length_pushVector_le (serialize n)).trans (Nat.add_le_add_right (length_serialize_le n) 5)
  split_ifs <;> simp_all

end Avm
