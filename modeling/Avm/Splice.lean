import Avm.Numeric

/-! # OP_CAT and OP_SPLIT undo each other

    `OP_CAT` joins the two top elements of the stack; `OP_SPLIT` cuts the
    element below the top at the position on top, which it reads as a
    minimally encoded number.  Each undoes the other on scripts the builder
    writes: `CScript() << OP_CAT << a.size() << OP_SPLIT` leaves the stack
    `b a` it started on, and so does `CScript() << k << OP_SPLIT << OP_CAT`
    on an element, for every position `k` within it.  The joined element
    must stay within `MAX_SCRIPT_ELEMENT_SIZE`, which `OP_CAT` checks, and
    the stack must have room for the pushed position.

    Section 1 states the two arms of the switch, Section 2 the two turns of
    the loop, Section 3 the scripts.
-/

namespace Avm

/-! ## Section 1: the two arms -/

/-- The arm of `OP_CAT` on two elements. -/
theorem execOpcode_cat (env : Env) (fExec : Bool) {m : Machine} {a b : Valtype}
    {rest : List Valtype} (hs : m.stack = b :: a :: rest) :
    execOpcode env fExec .OP_CAT m =
      if a.length + b.length > MAX_SCRIPT_ELEMENT_SIZE then fail .PUSH_SIZE m
      else next m ((a ++ b) :: rest) := by
  obtain ⟨_, _, _, _, _⟩ := m
  subst hs
  rfl

/-- The arm of `OP_SPLIT` on two elements. -/
theorem execOpcode_split (env : Env) (fExec : Bool) {m : Machine} {top data : Valtype}
    {rest : List Valtype} (hs : m.stack = top :: data :: rest) :
    execOpcode env fExec .OP_SPLIT m = (do
      let n ← num top
      if n.value < 0 ∨ n.value > data.length then fail .INVALID_SPLIT_RANGE m else
      let position ← n.getSizeType
      next m (data.drop position :: data.take position :: rest)) := by
  obtain ⟨_, _, _, _, _⟩ := m
  subst hs
  rfl

theorem toInt_ofNat_of_lt {k : Nat} (h : 2 * k < 2 ^ 64) : (BitVec.ofNat 64 k).toInt = k := by
  rw [BitVec.toInt, BitVec.toNat_ofNat, Nat.mod_eq_of_lt (by omega), if_pos h]

/-- A position within an element fits the number cap. -/
theorem fits_of_le {k : Nat} (h : k ≤ MAX_SCRIPT_ELEMENT_SIZE) : fits k = true := by
  have hlt : k < 2 ^ (8 * (MAXIMUM_ITEM_SIZE - 1) + 7) :=
    calc k < 2 ^ k := Nat.lt_two_pow k
      _ ≤ _ := Nat.pow_le_pow_right (by decide) (le_trans h (by decide))
  simp only [fits, beq_iff_eq, Int.natAbs_ofNat, Nat.shiftRight_eq_div_pow, Nat.div_eq_of_lt hlt]

/-- OP_SPLIT at a position within the element, pushed as a number. -/
theorem execOpcode_split_at (env : Env) (fExec : Bool) {m : Machine} {k : Nat} {data : Valtype}
    {rest : List Valtype} (hs : m.stack = Bigint.serialize k :: data :: rest)
    (hk : k ≤ data.length) (hdata : data.length ≤ MAX_SCRIPT_ELEMENT_SIZE) :
    execOpcode env fExec .OP_SPLIT m = next m (data.drop k :: data.take k :: rest) := by
  obtain ⟨bn, hbn, hval⟩ := num_serialize (fits_of_le (hk.trans hdata))
  have hcap : MAX_SCRIPT_ELEMENT_SIZE = 4000 := rfl
  rw [execOpcode_split env fExec hs, hbn, num_eq_big hbn, hval]
  simp only [except_ok_bind, CScriptNum.value]
  rw [if_neg (by omega)]
  simp only [CScriptNum.getSizeType, CScriptNum.value, if_pos (show (0 : Int) ≤ k ∧ (k : Int) ≤ 2 ^ 31 - 1 by omega), except_ok_bind, Int.toNat_natCast]

/-! ## Section 2: the two turns -/

/-- OP_CAT, with no branch open, on two elements that fit together. -/
theorem step_cat (env : Env) {m : Machine} {a b : Valtype} {rest : List Valtype}
    (hv : m.vfExec = .init) (hc : m.nOpCount < MAX_OPS_PER_SCRIPT)
    (hs : m.stack = b :: a :: rest) (hab : a.length + b.length ≤ MAX_SCRIPT_ELEMENT_SIZE)
    (hd : rest.length + 1 + m.altstack.length ≤ MAX_STACK_SIZE) :
    step env (some (0x7e, [])) m =
      .ok (.next { m with stack := (a ++ b) :: rest, nOpCount := m.nOpCount + 1 }) := by
  rw [step_operator env (show OP_16 < (0x7e : UInt8) by decide) rfl hv hc, show Opcode.ofByte 0x7e = .OP_CAT from rfl,
    execOpcode_cat env true (m := { m with nOpCount := m.nOpCount + 1 }) hs,
    if_neg (Nat.not_lt.mpr hab)]
  exact next_checkStackSize_of_le _ hd

/-- OP_SPLIT, with no branch open, at a position within the element. -/
theorem step_split (env : Env) {m : Machine} {k : Nat} {data : Valtype} {rest : List Valtype}
    (hv : m.vfExec = .init) (hc : m.nOpCount < MAX_OPS_PER_SCRIPT)
    (hs : m.stack = Bigint.serialize k :: data :: rest) (hk : k ≤ data.length)
    (hdata : data.length ≤ MAX_SCRIPT_ELEMENT_SIZE)
    (hd : rest.length + 2 + m.altstack.length ≤ MAX_STACK_SIZE) :
    step env (some (0x7f, [])) m =
      .ok (.next
        { m with stack := data.drop k :: data.take k :: rest, nOpCount := m.nOpCount + 1 }) := by
  rw [step_operator env (show OP_16 < (0x7f : UInt8) by decide) rfl hv hc, show Opcode.ofByte 0x7f = .OP_SPLIT from rfl,
    execOpcode_split_at env true (m := { m with nOpCount := m.nOpCount + 1 }) hs hk hdata]
  exact next_checkStackSize_of_le _ hd

/-! ## Section 3: the scripts -/

theorem serialize_ofNat {k : Nat} (h : k ≤ MAX_SCRIPT_ELEMENT_SIZE) :
    serialize (BitVec.ofNat 64 k) = Bigint.serialize k := by
  have hcap : MAX_SCRIPT_ELEMENT_SIZE = 4000 := rfl
  rw [serialize_eq_bigint, toInt_ofNat_of_lt (by omega)]

/-- `CScript() << OP_CAT << a.size() << OP_SPLIT` on `b a` leaves `b a`. -/
theorem evalScript_cat_split (env : Env) (a b : Valtype) (rest : List Valtype)
    (σ : ScriptStateContext) (hab : a.length + b.length ≤ MAX_SCRIPT_ELEMENT_SIZE)
    (hd : rest.length + 2 ≤ MAX_STACK_SIZE) :
    evalScript env (b :: a :: rest) (pushInt64 [0x7e] (BitVec.ofNat 64 a.length) ++ [0x7f]) σ =
      .ok ⟨true, .OK, 2, b :: a :: rest, σ⟩ := by
  obtain ⟨opcode, data, hops, hpush⟩ := scriptOps_pushInt64 env (BitVec.ofNat 64 a.length)
  have hlen := length_pushInt64_le (BitVec.ofNat 64 a.length)
  have hscript : scriptOps (pushInt64 [0x7e] (BitVec.ofNat 64 a.length) ++ [0x7f]) =
      [some (0x7e, []), some (opcode, data), some (0x7f, [])] := by
    rw [pushInt64_eq_append, List.singleton_append, List.cons_append,
      scriptOps_cons_of_gt (by decide), scriptOps_append _ (by rw [hops]; simp)
        (by simp only [List.length_append, List.length_singleton]; omega), hops,
      scriptOps_operator (by decide)]
    rfl
  have hsize : ¬(pushInt64 [0x7e] (BitVec.ofNat 64 a.length) ++ [0x7f]).length > MAX_SCRIPT_SIZE := by
    rw [pushInt64_eq_append]
    simp only [List.length_append, List.length_singleton]
    show ¬_ > 1000000
    omega
  set M₀ : Machine := .start (b :: a :: rest) σ with hM₀
  have h₁ := step_cat env (m := M₀) rfl (show 0 < MAX_OPS_PER_SCRIPT by decide) rfl hab
    (by simp only [hM₀, Machine.start, List.length_nil]; omega)
  set M₁ : Machine := { M₀ with stack := (a ++ b) :: rest, nOpCount := M₀.nOpCount + 1 } with hM₁
  have h₂ := hpush M₁ rfl (by simp only [hM₁, hM₀, Machine.start, List.length_cons, List.length_nil]; omega)
  rw [serialize_ofNat (by omega)] at h₂
  set M₂ : Machine := { M₁ with stack := Bigint.serialize a.length :: M₁.stack } with hM₂
  have h₃ := step_split env (m := M₂) rfl (show 1 < MAX_OPS_PER_SCRIPT by decide) rfl (by simp) (by simp; omega)
    (by simp only [hM₀, Machine.start, List.length_nil]; omega)
  rw [evalScript, if_neg hsize, hscript, evalOps_cons_of_next h₁, evalOps_cons_of_next h₂,
    evalOps_cons_of_next h₃, List.drop_left, List.take_left]
  rfl

/-- `CScript() << k << OP_SPLIT << OP_CAT` on `data` leaves `data`, for every
    position `k` within it. -/
theorem evalScript_split_cat (env : Env) (data : Valtype) (rest : List Valtype)
    (σ : ScriptStateContext) (k : Nat) (hk : k ≤ data.length)
    (hdata : data.length ≤ MAX_SCRIPT_ELEMENT_SIZE) (hd : rest.length + 2 ≤ MAX_STACK_SIZE) :
    evalScript env (data :: rest) (pushInt64 [] (BitVec.ofNat 64 k) ++ [0x7f, 0x7e]) σ =
      .ok ⟨true, .OK, 2, data :: rest, σ⟩ := by
  obtain ⟨opcode, pdata, hops, hpush⟩ := scriptOps_pushInt64 env (BitVec.ofNat 64 k)
  have hlen := length_pushInt64_le (BitVec.ofNat 64 k)
  have hscript : scriptOps (pushInt64 [] (BitVec.ofNat 64 k) ++ [0x7f, 0x7e]) =
      [some (opcode, pdata), some (0x7f, []), some (0x7e, [])] := by
    rw [scriptOps_append _ (by rw [hops]; simp)
        (by simp only [List.length_append, List.length_cons, List.length_nil]; omega), hops,
      scriptOps_cons_of_gt (by decide), scriptOps_operator (by decide)]
    rfl
  have hsize : ¬(pushInt64 [] (BitVec.ofNat 64 k) ++ [0x7f, 0x7e]).length > MAX_SCRIPT_SIZE := by
    simp only [List.length_append, List.length_cons, List.length_nil]
    show ¬_ > 1000000
    omega
  set M₀ : Machine := .start (data :: rest) σ with hM₀
  have h₁ := hpush M₀ rfl
    (by simp only [hM₀, Machine.start, List.length_cons, List.length_nil]; omega)
  rw [serialize_ofNat (hk.trans hdata)] at h₁
  set M₁ : Machine := { M₀ with stack := Bigint.serialize k :: M₀.stack } with hM₁
  have h₂ := step_split env (m := M₁) rfl (show 0 < MAX_OPS_PER_SCRIPT by decide) rfl hk hdata
    (by simp only [hM₀, Machine.start, List.length_nil]; omega)
  set M₂ : Machine :=
    { M₁ with stack := data.drop k :: data.take k :: rest, nOpCount := M₁.nOpCount + 1 } with hM₂
  have h₃ := step_cat env (m := M₂) rfl (show 1 < MAX_OPS_PER_SCRIPT by decide) rfl
    (by rw [List.length_take, List.length_drop]; omega)
    (by simp only [hM₀, Machine.start, List.length_nil]; omega)
  rw [evalScript, if_neg hsize, hscript, evalOps_cons_of_next h₁, evalOps_cons_of_next h₂,
    evalOps_cons_of_next h₃, List.take_append_drop]
  rfl

/-- OP_CAT and OP_SPLIT undo each other, on any stack with room for the
    pushed position: `CScript() << OP_CAT << a.size() << OP_SPLIT` on `b a`
    leaves `b a` when the two fit together in an element, and
    `CScript() << k << OP_SPLIT << OP_CAT` on an element leaves it for every
    position `k` within it. -/
theorem cat_split_inverse (env : Env) (rest : List Valtype) (σ : ScriptStateContext)
    (hd : rest.length + 2 ≤ MAX_STACK_SIZE) :
    (∀ a b : Valtype, a.length + b.length ≤ MAX_SCRIPT_ELEMENT_SIZE →
      evalScript env (b :: a :: rest) (pushInt64 [0x7e] (BitVec.ofNat 64 a.length) ++ [0x7f]) σ =
        .ok ⟨true, .OK, 2, b :: a :: rest, σ⟩) ∧
    (∀ (data : Valtype) (k : Nat), k ≤ data.length → data.length ≤ MAX_SCRIPT_ELEMENT_SIZE →
      evalScript env (data :: rest) (pushInt64 [] (BitVec.ofNat 64 k) ++ [0x7f, 0x7e]) σ =
        .ok ⟨true, .OK, 2, data :: rest, σ⟩) :=
  ⟨fun a b hab => evalScript_cat_split env a b rest σ hab hd,
    fun data k hk hdata => evalScript_split_cat env data rest σ k hk hdata hd⟩

/-- The two round trips on a stack with no other element. -/
theorem cat_split_inverse_bare :
    ([] : List Valtype).length + 2 ≤ MAX_STACK_SIZE ∧
    (∀ a b : Valtype, a.length + b.length ≤ MAX_SCRIPT_ELEMENT_SIZE →
      evalScript sampleEnv [b, a] (pushInt64 [0x7e] (BitVec.ofNat 64 a.length) ++ [0x7f])
        emptyContext = .ok ⟨true, .OK, 2, [b, a], emptyContext⟩) ∧
    (∀ (data : Valtype) (k : Nat), k ≤ data.length → data.length ≤ MAX_SCRIPT_ELEMENT_SIZE →
      evalScript sampleEnv [data] (pushInt64 [] (BitVec.ofNat 64 k) ++ [0x7f, 0x7e])
        emptyContext = .ok ⟨true, .OK, 2, [data], emptyContext⟩) :=
  ⟨by decide, cat_split_inverse sampleEnv [] emptyContext (by decide)⟩

end Avm
