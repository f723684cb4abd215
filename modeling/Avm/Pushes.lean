import Avm.Interpreter

/-! # Pushes: the instruction grammar and push-only scripts

  `GetScriptOp` (script.cpp) reads one instruction of a script: an opcode,
  and for the data pushes a length and the data.  Section 1 gives the
  grammar of the encodings that `CScript::operator<<` writes, as an
  inductive relation, and proves the reader sound and complete for it;
  Section 2 reads at an offset of a byte string, as the loops of
  `EvalScript` and `IsPushOnly` do; Section 3 bounds the number of reads.

  Section 4 runs `EvalScript` over a script that `IsPushOnly` accepts, as
  `VerifyScriptAvm` runs the unlocking script: each read pushes a value or
  stops the loop, and no read reaches the state context.
-/

namespace Avm

/-! ## Section 1: the encodings of an instruction -/

theorem leValue_lt (l : Valtype) : leValue l < 256 ^ l.length := by
  induction l with
  | nil => simp [leValue]
  | cons b l ih =>
    have := byte_toNat_lt b
    rw [leValue, List.length_cons, pow_succ]
    omega

theorem leBytes_leValue (l : Valtype) : leBytes l.length (leValue l) = l := by
  induction l with
  | nil => rfl
  | cons b l ih =>
    have hb := byte_toNat_lt b
    have hlow : UInt8.ofNat (b.toNat + 256 * leValue l) = b := by
      apply UInt8.toNat.inj
      have : (UInt8.ofNat (b.toNat + 256 * leValue l)).toNat = (b.toNat + 256 * leValue l) % 256 := by
        simp [UInt8.ofNat, UInt8.toNat]
      omega
    rw [List.length_cons, leBytes, leValue, hlow,
      show (b.toNat + 256 * leValue l) / 256 = leValue l by omega, ih]

/-- The encodings of one instruction, as `CScript::operator<<` and the
    opcodes lay them out: a direct push of fewer than 76 bytes, whose opcode
    is the length; `OP_PUSHDATA1`, `OP_PUSHDATA2` and `OP_PUSHDATA4`, then
    the length as a 1-, 2- or 4-byte little-endian field, then the data;
    and any other opcode alone, with no data. -/
inductive Instruction : Valtype → UInt8 → Valtype → Prop
  | direct {opcode : UInt8} {data : Valtype} (h : opcode < OP_PUSHDATA1)
      (hl : data.length = opcode.toNat) : Instruction (opcode :: data) opcode data
  | pushdata1 {data : Valtype} (hl : data.length < 2 ^ 8) :
      Instruction (OP_PUSHDATA1 :: leBytes 1 data.length ++ data) OP_PUSHDATA1 data
  | pushdata2 {data : Valtype} (hl : data.length < 2 ^ 16) :
      Instruction (OP_PUSHDATA2 :: leBytes 2 data.length ++ data) OP_PUSHDATA2 data
  | pushdata4 {data : Valtype} (hl : data.length < 2 ^ 32) :
      Instruction (OP_PUSHDATA4 :: leBytes 4 data.length ++ data) OP_PUSHDATA4 data
  | op {opcode : UInt8} (h : OP_PUSHDATA4 < opcode) : Instruction [opcode] opcode []

/-- A read of `OP_PUSHDATA2` or `OP_PUSHDATA4`, with a `w`-byte length
    field, is an encoded instruction. -/
theorem exists_pushdata {w : Nat} {opcode : UInt8} {rest : Valtype} (hw : w ≤ rest.length)
    (hn : leValue (rest.take w) ≤ (rest.drop w).length)
    (hI : ∀ data : Valtype, data.length < 256 ^ w →
      Instruction (opcode :: leBytes w data.length ++ data) opcode data) :
    ∃ b, opcode :: rest = b ++ (rest.drop w).drop (leValue (rest.take w)) ∧
      Instruction b opcode ((rest.drop w).take (leValue (rest.take w))) := by
  have htw : (rest.take w).length = w := List.length_take_of_le hw
  have hb : leBytes w (leValue (rest.take w)) = rest.take w := by
    have := leBytes_leValue (rest.take w)
    rwa [htw] at this
  have hdl := List.length_take_of_le hn
  have hlt : leValue (rest.take w) < 256 ^ w := by
    have := leValue_lt (rest.take w)
    rwa [htw] at this
  refine ⟨_, ?_, hI _ (by rwa [hdl])⟩
  rw [hdl, hb]
  simp only [List.cons_append, List.append_assoc, List.take_append_drop]

/-- What `GetScriptOp` reads is an encoded instruction followed by the rest
    of the script. -/
theorem getScriptOp_sound {bs r data : Valtype} {opcode : UInt8}
    (h : getScriptOp bs = some (opcode, data, r)) : ∃ b, bs = b ++ r ∧ Instruction b opcode data := by
  match bs with
  | [] => cases h
  | c :: rest =>
    simp only [getScriptOp] at h
    split_ifs at h with hle
    · obtain ⟨⟨n, r₀⟩, hs, h⟩ := Option.bind_eq_some.mp h
      dsimp only at h
      split_ifs at h with hlt
      obtain ⟨rfl, rfl, rfl⟩ : c = opcode ∧ r₀.take n = data ∧ r₀.drop n = r := by simpa using h
      have hn : n ≤ r₀.length := (Nat.not_lt.mp hlt).trans (Nat.mod_le _ _)
      have hdl : (r₀.take n).length = n := List.length_take_of_le hn
      have htd := List.take_append_drop n r₀
      unfold pushSize at hs
      split_ifs at hs with h₁ h₂ h₃
      · obtain ⟨rfl, rfl⟩ := Prod.mk.inj (Option.some.inj hs)
        exact ⟨c :: rest.take c.toNat, by rw [List.cons_append, htd], .direct h₁ hdl⟩
      · subst h₂
        match rest, hs with
        | k :: r₁, hs =>
          obtain ⟨rfl, rfl⟩ := Prod.mk.inj (Option.some.inj hs)
          refine ⟨_, ?_, .pushdata1 (by rw [hdl]; exact byte_toNat_lt k)⟩
          rw [hdl, leBytes, leBytes, byte_eq_ofNat]
          simp only [List.cons_append, List.nil_append, htd]
      · subst h₃
        obtain ⟨rfl, rfl⟩ := Prod.mk.inj (Option.some.inj hs)
        exact exists_pushdata (by omega) (by omega) fun _ hl => .pushdata2 hl
      · obtain rfl : c = OP_PUSHDATA4 := by
          have h₄ : c.toNat ≤ 78 := hle
          have h₅ : ¬c.toNat < 76 := h₁
          have h₆ : c.toNat ≠ 76 := fun e => h₂ (UInt8.toNat.inj e)
          have h₇ : c.toNat ≠ 77 := fun e => h₃ (UInt8.toNat.inj e)
          exact UInt8.toNat.inj (show c.toNat = 78 by omega)
        obtain ⟨rfl, rfl⟩ := Prod.mk.inj (Option.some.inj hs)
        exact exists_pushdata (by omega) (by omega) fun _ hl => .pushdata4 hl
    · obtain ⟨rfl, rfl, rfl⟩ : c = opcode ∧ [] = data ∧ rest = r := by simpa using h
      exact ⟨[c], rfl, .op (UInt8.not_le.mp hle)⟩

/-- A push whose length field reads the length of `data` returns `data`
    and the rest, when the bytes left are fewer than `2^32`. -/
theorem getScriptOp_push {opcode : UInt8} {rest r data : Valtype} (hle : opcode ≤ OP_PUSHDATA4)
    (hs : pushSize opcode rest = some (data.length, data ++ r)) (hr : (data ++ r).length < 2 ^ 32) :
    getScriptOp (opcode :: rest) = some (opcode, data, r) := by
  simp only [getScriptOp, if_pos hle, hs, Option.some_bind, Nat.mod_eq_of_lt hr]
  rw [if_neg (by simp), List.take_left' rfl, List.drop_left' rfl]

/-- The length field of `OP_PUSHDATA2` and `OP_PUSHDATA4` reads back the
    length it was written with. -/
theorem pushSize_leBytes {opcode : UInt8} {w : Nat} {rest : Valtype} {n : Nat}
    (hn : n < 256 ^ w)
    (hs : pushSize opcode (leBytes w n ++ rest) =
      if (leBytes w n ++ rest).length < w then none
      else some (leValue ((leBytes w n ++ rest).take w), (leBytes w n ++ rest).drop w)) :
    pushSize opcode (leBytes w n ++ rest) = some (n, rest) := by
  rw [hs, if_neg (by simp), List.take_left' (length_leBytes w n), List.drop_left' (length_leBytes w n),
    leValue_leBytes, Nat.mod_eq_of_lt hn]

/-- `GetScriptOp` reads back every encoded instruction, leaving the rest of
    the script, when the data and the rest are fewer than `2^32` bytes. -/
theorem getScriptOp_complete {b r data : Valtype} {opcode : UInt8} (hb : Instruction b opcode data)
    (hr : (data ++ r).length < 2 ^ 32) : getScriptOp (b ++ r) = some (opcode, data, r) := by
  cases hb with
  | direct h hl =>
    rw [List.cons_append]
    have hle : opcode.toNat ≤ 78 := by have : opcode.toNat < 76 := h; omega
    refine getScriptOp_push hle ?_ hr
    simp only [pushSize, if_pos h, hl]
  | pushdata1 hl =>
    simp only [leBytes, List.cons_append, List.nil_append]
    refine getScriptOp_push (by decide) ?_ hr
    unfold pushSize
    rw [if_neg (by decide), if_pos rfl]
    dsimp only
    rw [toNat_ofNat_of_lt hl]
  | pushdata2 hl =>
    simp only [List.cons_append, List.append_assoc]
    exact getScriptOp_push (by decide) (pushSize_leBytes hl rfl) hr
  | pushdata4 hl =>
    simp only [List.cons_append, List.append_assoc]
    exact getScriptOp_push (by decide) (pushSize_leBytes hl rfl) hr
  | op h =>
    simp [getScriptOp, UInt8.not_le.mpr h]

namespace Instruction

variable {b data : Valtype} {opcode : UInt8}

theorem length_pos (h : Instruction b opcode data) : 0 < b.length := by
  cases h <;> simp

/-- An encoding starts with its opcode. -/
theorem headD_eq (h : Instruction b opcode data) : b.headD 0 = opcode := by
  cases h <;> rfl

/-- The payload is the end of the encoding. -/
theorem drop_payload (h : Instruction b opcode data) : b.drop (b.length - data.length) = data := by
  cases h with
  | direct => simp
  | op => rfl
  | _ => exact List.drop_left' (by simp only [List.length_append, List.length_cons, length_leBytes]; omega)

end Instruction

/-- `CScript::operator<<(const std::vector<uint8_t> &b)`: appends the
    shortest push of `b`, its length written by `WriteLE16` or `WriteLE32`. -/
def pushVector (script b : Valtype) : Valtype :=
  script ++
    (if b.length < OP_PUSHDATA1.toNat then [UInt8.ofNat b.length]
    else if b.length ≤ 0xff then [OP_PUSHDATA1, UInt8.ofNat b.length]
    else if b.length ≤ 0xffff then OP_PUSHDATA2 :: leBytes 2 b.length
    else OP_PUSHDATA4 :: leBytes 4 b.length) ++ b

/-- `CScript() << b` encodes one push of `b`. -/
theorem instruction_pushVector {b : Valtype} (hb : b.length < 2 ^ 32) :
    ∃ opcode, opcode ≤ OP_PUSHDATA4 ∧ Instruction (pushVector [] b) opcode b := by
  have h76 : OP_PUSHDATA1.toNat = 76 := rfl
  unfold pushVector
  rw [List.nil_append]
  split_ifs with h₁ h₂ h₃
  · have hl : (UInt8.ofNat b.length).toNat = b.length := toNat_ofNat_of_lt (by omega)
    refine ⟨_, ?_, .direct ?_ hl.symm⟩
    · show (UInt8.ofNat b.length).toNat ≤ 78
      omega
    · show (UInt8.ofNat b.length).toNat < 76
      omega
  · exact ⟨_, by decide, .pushdata1 (by omega)⟩
  · exact ⟨_, by decide, .pushdata2 (by omega)⟩
  · exact ⟨_, by decide, .pushdata4 hb⟩

/-! ## Section 2: reads at an offset -/

/-- `GetScriptOp` at offset `p` of `s` fails, or reads the instruction
    encoded in `s[p, p')` for some `p < p' ≤ |s|` and moves to `p'`. -/
theorem getScriptOp_at (s : Valtype) (p : Nat) :
    getScriptOp (s.drop p) = none ∨
      ∃ opcode data p', getScriptOp (s.drop p) = some (opcode, data, s.drop p') ∧ p < p' ∧
        p' ≤ s.length ∧ Instruction ((s.take p').drop p) opcode data := by
  rcases h : getScriptOp (s.drop p) with _ | ⟨opcode, data, r⟩
  · exact .inl rfl
  obtain ⟨b, hbr, hI⟩ := getScriptOp_sound h
  have hlen : (s.drop p).length = b.length + r.length := by rw [hbr, List.length_append]
  have hpos := hI.length_pos
  rw [List.length_drop] at hlen
  refine .inr ⟨opcode, data, p + b.length, ?_, by omega, by omega, ?_⟩
  · rw [← List.drop_drop, hbr, List.drop_left' rfl]
  · rw [List.drop_take, Nat.add_sub_cancel_left, hbr, List.take_left' rfl]
    exact hI

/-- A read ends where its instruction ends: bytes after the script do not
    change it, while the whole is shorter than `2^32`. -/
theorem getScriptOp_append {x y r data : Valtype} {opcode : UInt8}
    (h : getScriptOp x = some (opcode, data, r)) (hl : (x ++ y).length < 2 ^ 32) :
    getScriptOp (x ++ y) = some (opcode, data, r ++ y) := by
  obtain ⟨b, rfl, hI⟩ := getScriptOp_sound h
  have hd : data.length ≤ b.length := by
    have := congrArg List.length hI.drop_payload
    rw [List.length_drop] at this
    omega
  rw [List.append_assoc]
  exact getScriptOp_complete hI (by simp only [List.length_append] at hl ⊢; omega)

/-! ## Section 3: progress -/

/-- The reads of a script that decodes to its end, followed by more bytes,
    are its reads followed by theirs. -/
theorem scriptOps_append {x : Valtype} (y : Valtype) (hx : none ∉ scriptOps x)
    (hl : (x ++ y).length < 2 ^ 32) : scriptOps (x ++ y) = scriptOps x ++ scriptOps y := by
  induction x using scriptOps.induct with
  | case1 x opcode data rest h _ ih =>
    have hrest := getScriptOp_rest_lt h
    rw [scriptOps_of_some h] at hx ⊢
    rw [scriptOps_of_some (getScriptOp_append h hl), List.cons_append,
      ih (fun h' => hx (List.mem_cons_of_mem _ h')) (by simp only [List.length_append] at hl ⊢; omega)]
  | case2 x _ he => rw [List.isEmpty_iff.mp he, List.nil_append, scriptOps_nil, List.nil_append]
  | case3 x h he => exact absurd (by rw [scriptOps_of_none h, if_neg he]; exact List.mem_singleton_self _) hx

/-- Each read takes at least one byte, so the loops over the reads of a
    script make at most as many turns as it has bytes. -/
theorem length_scriptOps_le (s : Valtype) : (scriptOps s).length ≤ s.length := by
  induction s using scriptOps.induct with
  | case1 x opcode data rest h _ ih =>
    have := getScriptOp_rest_lt h
    rw [scriptOps_of_some h, List.length_cons]
    omega
  | case2 x h he => simp [scriptOps_of_none h, he]
  | case3 x h he =>
    rw [scriptOps_of_none h, if_neg he, List.length_singleton]
    exact List.length_pos.mpr (by simpa using he)

/-- `GetScriptOp` decodes the push grammar that `CScript::operator<<`
    encodes, and always makes progress.  At every offset `p` of every byte
    string it fails or reads an encoded instruction up to a new offset
    `p < p' ≤ |s|`, whose payload is `s[p' - len, p')`; at the start of
    `CScript() << b` it reads a push of `b` to the end; and so the loops over
    the reads, in `EvalScript` and `IsPushOnly`, make at most `|s|` turns. -/
theorem getScriptOp_decodes_pushes :
    (∀ (s : Valtype) (p : Nat), p < s.length →
      getScriptOp (s.drop p) = none ∨
        ∃ opcode data p', getScriptOp (s.drop p) = some (opcode, data, s.drop p') ∧ p < p' ∧
          p' ≤ s.length ∧ Instruction ((s.take p').drop p) opcode data ∧
          data = (s.take p').drop (p' - data.length)) ∧
    (∀ b : Valtype, b.length < 2 ^ 32 →
      ∃ opcode, opcode ≤ OP_PUSHDATA4 ∧ getScriptOp (pushVector [] b) = some (opcode, b, [])) ∧
    ∀ s : Valtype, (scriptOps s).length ≤ s.length := by
  refine ⟨fun s p _ => ?_, fun b hb => ?_, length_scriptOps_le⟩
  · rcases getScriptOp_at s p with h | ⟨opcode, data, p', h, hp, hp', hI⟩
    · exact .inl h
    refine .inr ⟨opcode, data, p', h, hp, hp', hI, ?_⟩
    have hl : ((s.take p').drop p).length = p' - p := by simp; omega
    have hpay := hI.drop_payload
    rw [hl] at hpay
    have hd : data.length ≤ p' - p := by
      have := congrArg List.length hpay
      simp only [List.length_drop, hl] at this
      omega
    rw [List.drop_drop, show p + (p' - p - data.length) = p' - data.length by omega] at hpay
    exact hpay.symm
  · obtain ⟨opcode, hle, hI⟩ := instruction_pushVector hb
    exact ⟨opcode, hle, by simpa using getScriptOp_complete hI (r := []) (by simpa using hb)⟩

/-! ## Section 4: push-only scripts -/

/-- What a read of an opcode up to `OP_16` pushes, as the opcodes are
    specified: the payload for `OP_0` and the data pushes, and the minimal
    encoding of `n` for `OP_1NEGATE` and `OP_1` to `OP_16`, whose byte is
    `0x50 + n`. -/
def pushValue (opcode : UInt8) (data : Valtype) : Valtype :=
  if opcode ≤ OP_PUSHDATA4 then data else Bigint.serialize (opcode.toNat - 0x50)

example : pushValue 0x4f [] = [0x81] := by
  rw [pushValue, if_neg (by decide), Bigint.serialize_eq, serializeLoop]
  decide

/-- What a read pushes, if it is a read. -/
def readPush : Option (UInt8 × Valtype) → Option Valtype
  | some (opcode, data) => some (pushValue opcode data)
  | none => none

/-- The values a script's reads push, in order. -/
def scriptPushes (script : Valtype) : List Valtype := (scriptOps script).filterMap readPush

/-- A read that `IsPushOnly` accepts: an opcode up to `OP_16`. -/
def IsPushRead : Option (UInt8 × Valtype) → Prop
  | some (opcode, _) => opcode ≤ OP_16
  | none => False

theorem isPushOnly_iff (script : Valtype) :
    isPushOnly script = true ↔ ∀ op ∈ scriptOps script, IsPushRead op := by
  rw [isPushOnly, List.all_eq_true]
  refine forall₂_congr fun op _ => ?_
  rcases op with _ | ⟨opcode, data⟩ <;> simp [IsPushRead]

/-- The errors a read up to `OP_16` can stop the loop with. -/
def pushReadErrors : List ScriptError := [.PUSH_SIZE, .MINIMALDATA, .BAD_OPCODE, .STACK_SIZE]

theorem value_ofInt64_of_fits {k : Int} (h₀ : -2 ^ 63 ≤ k) (h₁ : k < 2 ^ 63) :
    (CScriptNum.ofInt64 k).value = k := by
  rw [CScriptNum.value_ofInt64, BitVec.toInt_ofInt, Int.bmod_def]
  norm_num
  split_ifs <;> omega

/-- The arms of the switch for `OP_1NEGATE` to `OP_16`: `OP_RESERVED`,
    between them, is a bad opcode. -/
theorem execOpcode_pushNumber (env : Env) (fExec : Bool) (m : Machine) {opcode : UInt8}
    (h₁ : OP_PUSHDATA4 < opcode) (h₂ : opcode ≤ OP_16) :
    execOpcode env fExec (Opcode.ofByte opcode) m =
      if opcode = 0x50 then fail .BAD_OPCODE m
      else next m ((CScriptNum.ofInt64 (opcode.toNat - 0x50)).getvch :: m.stack) := by
  obtain ⟨n, hn₁, hn₂, rfl⟩ : ∃ n, 79 ≤ n ∧ n ≤ 96 ∧ opcode = UInt8.ofNat n :=
    ⟨opcode.toNat, h₁, h₂, (byte_eq_ofNat opcode).symm⟩
  interval_cases n <;> rfl

theorem getvch_pushNumber {opcode : UInt8} (data : Valtype) (h₁ : OP_PUSHDATA4 < opcode)
    (h₂ : opcode ≤ OP_16) : (CScriptNum.ofInt64 (opcode.toNat - 0x50)).getvch = pushValue opcode data := by
  have h₁' : 78 < opcode.toNat := h₁
  have h₂' : opcode.toNat ≤ 96 := h₂
  rw [pushValue, if_neg (UInt8.not_le.mpr h₁), CScriptNum.getvch_eq,
    value_ofInt64_of_fits (by omega) (by omega), ← Bigint.serialize_eq]

/-- The depth check after a push stops with `STACK_SIZE` or lets the push
    through. -/
theorem next_checkStackSize (m : Machine) (s : List Valtype) :
    (∃ m', next m s >>= checkStackSize = fail .STACK_SIZE m' ∧ m'.stateContext = m.stateContext) ∨
      next m s >>= checkStackSize = next m s := by
  have hcheck : next m s >>= checkStackSize =
      if s.length + m.altstack.length > MAX_STACK_SIZE then fail .STACK_SIZE { m with stack := s }
      else next m s := rfl
  rw [hcheck]
  split_ifs
  · exact .inl ⟨_, rfl, rfl⟩
  · exact .inr rfl

/-- The two disabled opcodes lie above `OP_16`. -/
theorem isOpcodeDisabled_of_le {opcode : UInt8} (hop : opcode ≤ OP_16) :
    isOpcodeDisabled opcode = false := by
  have : opcode.toNat ≤ 96 := hop
  simp only [isOpcodeDisabled, Bool.or_eq_false_iff, beq_eq_false_iff_ne]
  constructor <;> (intro h; subst h; contradiction)

/-- One turn of the loop on a read of an opcode up to `OP_16`, with no
    branch open: it stops with one of the push errors, `BAD_OPCODE` only on
    `OP_RESERVED`, and the state context it was given, or pushes the read's
    value. -/
theorem step_pushRead (env : Env) {opcode : UInt8} (data : Valtype) {m : Machine}
    (hop : opcode ≤ OP_16) (hv : m.vfExec = .init) :
    (∃ e m', step env (some (opcode, data)) m = fail e m' ∧
        (e ∈ pushReadErrors ∧ (e = .BAD_OPCODE → opcode = 0x50)) ∧
        m'.stateContext = m.stateContext) ∨
      step env (some (opcode, data)) m = next m (pushValue opcode data :: m.stack) := by
  have hc : countOp opcode m = m := if_neg (UInt8.not_lt.mpr hop)
  have hen := isOpcodeDisabled_of_le hop
  have hf : m.vfExec.all_true = true := by rw [hv]; rfl
  have hover : ¬(opcode > OP_16 ∧ m.nOpCount > MAX_OPS_PER_SCRIPT) := fun h => absurd hop (UInt8.not_le.mpr h.1)
  have hstep : step env (some (opcode, data)) m =
      if data.length > MAX_SCRIPT_ELEMENT_SIZE then fail .PUSH_SIZE m
      else if opcode ≤ OP_PUSHDATA4 then
        if !checkMinimalPush data opcode then fail .MINIMALDATA m
        else next m (data :: m.stack) >>= checkStackSize
      else execOpcode env true (Opcode.ofByte opcode) m >>= checkStackSize := by
    simp only [step, hc, hen, hf, hover, if_false, Bool.false_eq_true, true_and, true_or, if_true]
    rfl
  rw [hstep]
  split_ifs with hsz hpush hmin
  · exact .inl ⟨_, _, rfl, ⟨by decide, nofun⟩, rfl⟩
  · exact .inl ⟨_, _, rfl, ⟨by decide, nofun⟩, rfl⟩
  · rw [pushValue, if_pos hpush]
    rcases next_checkStackSize m (data :: m.stack) with ⟨m', h, hσ⟩ | h <;> rw [h]
    · exact .inl ⟨_, _, rfl, ⟨by decide, nofun⟩, hσ⟩
    · exact .inr rfl
  · have h₁ := UInt8.not_le.mp hpush
    rw [execOpcode_pushNumber env true m h₁ hop, getvch_pushNumber data h₁ hop]
    split_ifs with hres
    · exact .inl ⟨_, _, rfl, ⟨by decide, fun _ => hres⟩, rfl⟩
    rcases next_checkStackSize m (pushValue opcode data :: m.stack) with ⟨m', h, hσ⟩ | h <;> rw [h]
    · exact .inl ⟨_, _, rfl, ⟨by decide, nofun⟩, hσ⟩
    · exact .inr rfl

/-- The loop over push reads, from a machine with no branch open: it ends
    with one of the push errors, `BAD_OPCODE` only on a read of
    `OP_RESERVED`, and the state context it was given, or succeeds with the
    reads' values pushed in order onto the stack it was given. -/
theorem evalOps_pushReads (env : Env) (ops : List (Option (UInt8 × Valtype))) (k : Nat)
    (m : Machine) (hops : ∀ op ∈ ops, IsPushRead op) (hv : m.vfExec = .init) :
    ∃ r, evalOps env ops k m = .ok r ∧ r.stateContext = m.stateContext ∧
      ((r.success = false ∧ r.serror ∈ pushReadErrors ∧
          (r.serror = .BAD_OPCODE → ∃ data, some (0x50, data) ∈ ops)) ∨
        (r.success = true ∧ r.serror = .OK ∧
          r.stack = (ops.filterMap readPush).reverse ++ m.stack)) := by
  induction ops generalizing k m with
  | nil => exact ⟨_, rfl, by rw [hv]; exact ⟨rfl, .inr ⟨rfl, rfl, rfl⟩⟩⟩
  | cons op ops ih =>
    rcases op with _ | ⟨opcode, data⟩
    · exact absurd (hops none (List.mem_cons_self _ _)) id
    have hop : opcode ≤ OP_16 := hops _ (List.mem_cons_self _ _)
    rcases step_pushRead env data hop hv with ⟨e, m', h, ⟨he, hbad⟩, hσ⟩ | h
    · refine ⟨_, evalOps_cons_of_stop h, hσ, .inl ⟨rfl, he, fun hb => ⟨data, ?_⟩⟩⟩
      rw [← hbad hb]
      exact List.mem_cons_self _ _
    obtain ⟨r, hr, hσ, hres⟩ := ih (k + 1) { m with stack := pushValue opcode data :: m.stack }
      (fun op h => hops op (List.mem_cons_of_mem _ h)) hv
    refine ⟨r, (evalOps_cons_of_next h).trans hr, hσ, ?_⟩
    rcases hres with ⟨hs, he, hbad⟩ | ⟨hs, he, hst⟩
    · exact .inl ⟨hs, he, fun hb => (hbad hb).imp fun _ h => List.mem_cons_of_mem _ h⟩
    · exact .inr ⟨hs, he, by simpa [readPush] using hst⟩

/-- A push-only unlocking script leaves the state context as it was given:
    for every environment, stack and state context, `EvalScript` stops with
    `SCRIPT_SIZE` or one of the push errors, or succeeds with the script's
    pushes on the stack, in order.  It stops with `SCRIPT_SIZE` exactly when
    the script is over `MAX_SCRIPT_SIZE`, and with `BAD_OPCODE` only on a
    read of `OP_RESERVED`. -/
theorem pushOnly_unlock_keeps_state (env : Env) (stack : List Valtype) (u : Valtype)
    (σ : ScriptStateContext) (hu : isPushOnly u = true) :
    ∃ r, evalScript env stack u σ = .ok r ∧ r.stateContext = σ ∧
      ((r.success = false ∧ r.serror ∈ .SCRIPT_SIZE :: pushReadErrors) ∨
        (r.success = true ∧ r.stack = (scriptPushes u).reverse ++ stack)) ∧
      (r.serror = .SCRIPT_SIZE ↔ MAX_SCRIPT_SIZE < u.length) ∧
      (r.serror = .BAD_OPCODE → ∃ data, some (0x50, data) ∈ scriptOps u) := by
  unfold evalScript
  split_ifs with hsize
  · exact ⟨_, rfl, rfl, .inl ⟨rfl, List.mem_cons_self _ _⟩, iff_of_true rfl hsize, nofun⟩
  obtain ⟨r, h, hσ, hres⟩ :=
    evalOps_pushReads env _ 0 (.start stack σ) ((isPushOnly_iff u).mp hu) rfl
  refine ⟨r, h, hσ, ?_⟩
  rcases hres with ⟨hs, he, hbad⟩ | ⟨hs, he, hst⟩
  · refine ⟨.inl ⟨hs, List.mem_cons_of_mem _ he⟩, iff_of_false (fun h => ?_) hsize, hbad⟩
    rw [h] at he
    simp [pushReadErrors] at he
  · exact ⟨.inr ⟨hs, hst⟩, iff_of_false (by rw [he]; nofun) hsize, by rw [he]; nofun⟩

theorem pushOnly_unlock_sample :
    isPushOnly [OP_1, 0x01, 0x07] = true ∧
      ∃ r, evalScript sampleEnv [] [OP_1, 0x01, 0x07] emptyContext = .ok r ∧
        r.stateContext = emptyContext ∧
        ((r.success = false ∧ r.serror ∈ .SCRIPT_SIZE :: pushReadErrors) ∨
          (r.success = true ∧ r.stack = (scriptPushes [OP_1, 0x01, 0x07]).reverse ++ [])) ∧
        (r.serror = .SCRIPT_SIZE ↔ MAX_SCRIPT_SIZE < [OP_1, 0x01, 0x07].length) ∧
        (r.serror = .BAD_OPCODE → ∃ data, some (0x50, data) ∈ scriptOps [OP_1, 0x01, 0x07]) := by
  have h₁ : getScriptOp [OP_1, 0x01, 0x07] = some (OP_1, [], [1, 7]) := rfl
  have h₂ : getScriptOp [0x01, 0x07] = some (1, [7], []) := rfl
  have hu : isPushOnly [OP_1, 0x01, 0x07] = true := by
    rw [isPushOnly, scriptOps_of_some h₁, scriptOps_of_some h₂, scriptOps_nil]
    rfl
  exact ⟨hu, pushOnly_unlock_keeps_state sampleEnv [] _ emptyContext hu⟩

theorem scriptOps_replicate_OP_0 (n : Nat) :
    scriptOps (List.replicate n OP_0) = List.replicate n (some (OP_0, [])) := by
  induction n with
  | zero => exact scriptOps_nil
  | succ n ih =>
    rw [List.replicate_succ, List.replicate_succ, ← ih]
    exact scriptOps_of_some (getScriptOp_OP_0 _)

/-- `MAX_SCRIPT_SIZE + 1` bytes of `OP_0`. -/
def longPushOnly : Valtype := List.replicate (MAX_SCRIPT_SIZE + 1) OP_0

/-- A push-only script over the size cap stops with `SCRIPT_SIZE`. -/
theorem longPushOnly_script_size :
    isPushOnly longPushOnly = true ∧
      evalScript sampleEnv [] longPushOnly emptyContext = .ok ⟨false, .SCRIPT_SIZE, 0, [], emptyContext⟩ := by
  refine ⟨?_, if_pos ?_⟩
  · rw [isPushOnly, longPushOnly, scriptOps_replicate_OP_0, List.all_eq_true]
    intro op hop
    rw [List.eq_of_mem_replicate hop]
    rfl
  · rw [longPushOnly, List.length_replicate]
    exact Nat.lt_succ_self _

end Avm
