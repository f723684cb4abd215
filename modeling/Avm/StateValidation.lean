import Avm.StateContext

/-! # State validation

    `StateValidation::performValidateStateRestrictions` (script_utils.h)
    checks the nine maps of a state context, in a fixed order: the format
    of every entry, and the byte count of all but the two incoming maps
    against a cap.  It runs on the inputs, in the `ScriptStateContext`
    constructor, and on the final state, in `validateFinalStateRestrictions`.
    Every failure is thrown as a pointer (`throw new`).

    The four per-map validators are two loops with parameters: one over the
    entries of a flat map, one over the keyspaces of a two-level map, whose
    body is the first loop.  Each validator of the source is that loop
    applied to its own error class, value check and value size.  The byte
    counts are `uint32_t` and wrap.  The caps come from constants.h, which is
    not in the repository, so they are parameters.
-/

namespace Avm

/-- The caps of constants.h. -/
structure StateLimits where
  MAX_STATE_FINAL_BYTES : Nat
  MAX_STATE_UPDATE_BYTES : Nat
  MAX_BALANCES_BYTES : Nat
  MAX_BALANCES_UPDATE_BYTES : Nat
  deriving DecidableEq, Repr

/-! ## Section 1: the loops -/

section Loops

variable {α : Type} (formatError : Exception) (checkValue : α → Option Exception)
  (valueBytes : α → Nat)

/-- One iteration of the loop over the entries of a flat map: the key must be
    a lowercase hex string, and `checkValue` gives the exception a value
    raises.  The count adds half the key's length and `valueBytes` of the
    value. -/
def validateEntry (byteCount : UInt32) (e : String × α) : Except Thrown UInt32 :=
  if !isHexStr e.1 then .error (.ptr formatError) else
  match checkValue e.2 with
  | some err => .error (.ptr err)
  | none => .ok (byteCount + UInt32.ofNat (e.1.length / 2) + UInt32.ofNat (valueBytes e.2))

/-- The loop over the entries of a flat map. -/
def validateEntries (init : UInt32) (obj : JsonMap α) : Except Thrown UInt32 :=
  obj.entries.foldlM (validateEntry formatError checkValue valueBytes) init

/-- One iteration of the loop over the keyspaces of a two-level map: the
    keyspace must be a lowercase hex string naming a non-empty object, whose
    entries the first loop checks. -/
def validateKeyspace (byteCount : UInt32) (e : String × JsonMap α) : Except Thrown UInt32 :=
  if !isHexStr e.1 then .error (.ptr formatError)
  else if e.2.isEmpty then .error (.ptr formatError)
  else validateEntries formatError checkValue valueBytes
    (byteCount + UInt32.ofNat (e.1.length / 2)) e.2

/-- The loop over the keyspaces of a two-level map. -/
def validateKeyspaces (obj : JsonMap (JsonMap α)) : Except Thrown UInt32 :=
  obj.entries.foldlM (validateKeyspace formatError checkValue valueBytes) 0

/-- An entry the first loop accepts. -/
def entryOk (e : String × α) : Prop := isHexStr e.1 = true ∧ checkValue e.2 = none

/-- A keyspace the second loop accepts. -/
def keyspaceOk (e : String × JsonMap α) : Prop :=
  isHexStr e.1 = true ∧ e.2.entries ≠ [] ∧ ∀ x ∈ e.2.entries, entryOk checkValue x

/-- The bytes the first loop counts. -/
def entriesBytes (l : List (String × α)) : Nat :=
  (l.map fun e => e.1.length / 2 + valueBytes e.2).sum

/-- The bytes the second loop counts. -/
def keyspacesBytes (l : List (String × JsonMap α)) : Nat :=
  (l.map fun e => e.1.length / 2 + entriesBytes valueBytes e.2.entries).sum

theorem uint32_add_zero (x : UInt32) : x + 0 = x :=
  UInt32.toNat.inj (Nat.mod_eq_of_lt x.toNat_lt_size)

theorem uint32_zero_add (x : UInt32) : 0 + x = x :=
  UInt32.toNat.inj (show (0 + x.toNat) % 2 ^ 32 = x.toNat by
    rw [Nat.zero_add]; exact Nat.mod_eq_of_lt x.toNat_lt_size)

theorem uint32_add_ofNat_add_ofNat (x : UInt32) (a b : Nat) :
    x + UInt32.ofNat a + UInt32.ofNat b = x + UInt32.ofNat (a + b) := by
  apply UInt32.toNat.inj
  show ((x.toNat + a % 2 ^ 32) % 2 ^ 32 + b % 2 ^ 32) % 2 ^ 32 =
    (x.toNat + (a + b) % 2 ^ 32) % 2 ^ 32
  omega

theorem foldlM_validateEntry_of_ok (l : List (String × α)) (init : UInt32)
    (h : ∀ e ∈ l, entryOk checkValue e) :
    l.foldlM (validateEntry formatError checkValue valueBytes) init =
      .ok (init + UInt32.ofNat (entriesBytes valueBytes l)) := by
  induction l generalizing init with
  | nil => simp [entriesBytes, uint32_add_zero]; rfl
  | cons e l ih =>
    obtain ⟨hkey, hval⟩ := h e (List.mem_cons_self _ _)
    have hstep : validateEntry formatError checkValue valueBytes init e =
        .ok (init + UInt32.ofNat (e.1.length / 2 + valueBytes e.2)) := by
      simp [validateEntry, hkey, hval, uint32_add_ofNat_add_ofNat]
    rw [List.foldlM_cons, hstep]
    simp only [Except.bind, bind, ih _ (fun x hx => h x (List.mem_cons_of_mem _ hx)),
      uint32_add_ofNat_add_ofNat, entriesBytes, List.map_cons, List.sum_cons, Nat.add_assoc]

theorem validateEntries_of_ok (init : UInt32) (obj : JsonMap α)
    (h : ∀ e ∈ obj.entries, entryOk checkValue e) :
    validateEntries formatError checkValue valueBytes init obj =
      .ok (init + UInt32.ofNat (entriesBytes valueBytes obj.entries)) :=
  foldlM_validateEntry_of_ok _ _ _ _ _ h

theorem validateEntries_ok_iff (init : UInt32) (obj : JsonMap α) :
    (∃ n, validateEntries formatError checkValue valueBytes init obj = .ok n) ↔
      ∀ e ∈ obj.entries, entryOk checkValue e := by
  refine ⟨fun h => ?_, fun h => ⟨_, validateEntries_of_ok _ _ _ _ _ h⟩⟩
  obtain ⟨n, hn⟩ := h
  unfold validateEntries at hn
  generalize obj.entries = l at hn ⊢
  induction l generalizing init with
  | nil => simp
  | cons e l ih =>
    rw [List.foldlM_cons] at hn
    cases hstep : validateEntry formatError checkValue valueBytes init e with
    | error t => rw [hstep] at hn; cases hn
    | ok n' =>
      rw [hstep] at hn
      have he : entryOk checkValue e := by
        unfold validateEntry at hstep
        by_cases hkey : isHexStr e.1 = true
        · cases hval : checkValue e.2 with
          | some err => simp [hkey, hval] at hstep
          | none => exact ⟨hkey, hval⟩
        · simp [hkey] at hstep
      exact List.forall_mem_cons.mpr ⟨he, ih n' hn⟩

theorem validateKeyspaces_of_ok (obj : JsonMap (JsonMap α))
    (h : ∀ e ∈ obj.entries, keyspaceOk checkValue e) :
    validateKeyspaces formatError checkValue valueBytes obj =
      .ok (UInt32.ofNat (keyspacesBytes valueBytes obj.entries)) := by
  suffices ∀ (l : List (String × JsonMap α)) (init : UInt32), (∀ e ∈ l, keyspaceOk checkValue e) →
      l.foldlM (validateKeyspace formatError checkValue valueBytes) init =
        .ok (init + UInt32.ofNat (keyspacesBytes valueBytes l)) by
    simpa [validateKeyspaces, uint32_zero_add] using this _ 0 h
  intro l
  induction l with
  | nil => intro init _; simp [keyspacesBytes, uint32_add_zero]; rfl
  | cons e l ih =>
    intro init h
    obtain ⟨hkey, hne, hentries⟩ := h e (List.mem_cons_self _ _)
    have hstep : validateKeyspace formatError checkValue valueBytes init e =
        .ok (init + UInt32.ofNat (e.1.length / 2 + entriesBytes valueBytes e.2.entries)) := by
      have hempty : e.2.isEmpty = false := by simpa [JsonMap.isEmpty] using hne
      simp [validateKeyspace, hkey, hempty, validateEntries_of_ok _ _ _ _ _ hentries,
        uint32_add_ofNat_add_ofNat]
    rw [List.foldlM_cons, hstep]
    simp only [Except.bind, bind, ih _ (fun x hx => h x (List.mem_cons_of_mem _ hx)),
      uint32_add_ofNat_add_ofNat, keyspacesBytes, List.map_cons, List.sum_cons, Nat.add_assoc]

theorem validateKeyspaces_ok_imp (obj : JsonMap (JsonMap α)) {n : UInt32}
    (h : validateKeyspaces formatError checkValue valueBytes obj = .ok n) :
    ∀ e ∈ obj.entries, keyspaceOk checkValue e := by
  unfold validateKeyspaces at h
  generalize (0 : UInt32) = init at h
  generalize obj.entries = l at h ⊢
  induction l generalizing init with
  | nil => simp
  | cons x l ih =>
    rw [List.foldlM_cons] at h
    cases hstep : validateKeyspace formatError checkValue valueBytes init x with
    | error t => rw [hstep] at h; cases h
    | ok n' =>
      rw [hstep] at h
      refine List.forall_mem_cons.mpr ⟨?_, ih n' h⟩
      unfold validateKeyspace at hstep
      by_cases hkey : isHexStr x.1 = true
      · by_cases hempty : x.2.isEmpty = true
        · simp [hkey, hempty] at hstep
        · simp only [hkey, hempty, Bool.not_true, Bool.false_eq_true, ite_false] at hstep
          exact ⟨hkey, fun he => hempty (by simp [JsonMap.isEmpty, he]),
            (validateEntries_ok_iff _ _ _ _ _).mp ⟨_, hstep⟩⟩
      · simp [hkey] at hstep

end Loops

/-! ## Section 2: the validators of the source -/

/-- `performValidateStateRestrictionsState`: values are hex strings and count
    half their length. -/
def performValidateStateRestrictionsState (obj : JsonMap (JsonMap String)) :
    Except Thrown UInt32 :=
  validateKeyspaces .stateFormat (fun v => if isHexStr v then none else some .stateFormat)
    (fun v => v.length / 2) obj

/-- `performValidateStateRestrictionsStateDeletes`: values must be `true` and
    count nothing.  A `false` value raises `StateValidationStateFormatError`,
    the class of the key-value map, not the deletes' own class. -/
def performValidateStateRestrictionsStateDeletes (obj : JsonMap (JsonMap Bool)) :
    Except Thrown UInt32 :=
  validateKeyspaces .stateDeleteFormat (fun v => if v then none else some .stateFormat)
    (fun _ => 0) obj

/-- `performValidateStateRestrictionsTokenFtBalances`: each balance counts 8
    bytes; zero is refused unless `isAllowZeroBalance`. -/
def performValidateStateRestrictionsTokenFtBalances (obj : JsonMap UInt64)
    (isAllowZeroBalance : Bool) : Except Thrown UInt32 :=
  validateEntries .ftBalanceFormat
    (fun v => if !isAllowZeroBalance && v = 0 then some .ftBalanceZeroFormat else none)
    (fun _ => 8) 0 obj

/-- `performValidateStateRestrictionsTokenNftBalances`: values count nothing;
    `false` is refused unless `isAllowFalse`. -/
def performValidateStateRestrictionsTokenNftBalances (obj : JsonMap Bool)
    (isAllowFalse : Bool) : Except Thrown UInt32 :=
  validateEntries .nftBalanceFormat
    (fun v => if !isAllowFalse && !v then some .nftBalanceFormat else none)
    (fun _ => 0) 0 obj

/-- `if (byteCount > cap) throw new E();` -/
def throwIfOver (byteCount : UInt32) (cap : Nat) (e : Exception) : Except Thrown Unit :=
  if byteCount.toNat > cap then .error (.ptr e) else .ok ()

/-- `performValidateStateRestrictions`: the nine maps in the order of the
    source, each cap checked right after its map's count. -/
def performValidateStateRestrictions (L : StateLimits)
    (ftState ftStateUpdates ftStateIncoming : JsonMap UInt64)
    (nftState nftStateUpdates nftStateIncoming : JsonMap Bool)
    (contractState contractStateUpdates : JsonMap (JsonMap String))
    (contractStateDeletes : JsonMap (JsonMap Bool)) : Except Thrown Unit := do
  let stateByteCount ← performValidateStateRestrictionsState contractState
  throwIfOver stateByteCount L.MAX_STATE_FINAL_BYTES .stateSizeLimit
  let stateUpdatesByteCount ← performValidateStateRestrictionsState contractStateUpdates
  throwIfOver stateUpdatesByteCount L.MAX_STATE_UPDATE_BYTES .stateUpdateSizeLimit
  let stateDeletesByteCount ← performValidateStateRestrictionsStateDeletes contractStateDeletes
  throwIfOver stateDeletesByteCount L.MAX_STATE_UPDATE_BYTES .stateDeleteSizeLimit
  let ftBalancesByteCount ← performValidateStateRestrictionsTokenFtBalances ftState false
  throwIfOver ftBalancesByteCount L.MAX_BALANCES_BYTES .ftBalanceSizeLimit
  let ftBalancesUpdatesByteCount ←
    performValidateStateRestrictionsTokenFtBalances ftStateUpdates true
  throwIfOver ftBalancesUpdatesByteCount L.MAX_BALANCES_UPDATE_BYTES .ftBalanceUpdateSizeLimit
  let _ ← performValidateStateRestrictionsTokenFtBalances ftStateIncoming false
  let nftBalancesByteCount ← performValidateStateRestrictionsTokenNftBalances nftState false
  throwIfOver nftBalancesByteCount L.MAX_BALANCES_BYTES .nftBalanceSizeLimit
  let nftBalancesUpdatesByteCount ←
    performValidateStateRestrictionsTokenNftBalances nftStateUpdates true
  throwIfOver nftBalancesUpdatesByteCount L.MAX_BALANCES_UPDATE_BYTES .nftBalanceUpdateSizeLimit
  let _ ← performValidateStateRestrictionsTokenNftBalances nftStateIncoming false

namespace ScriptStateContext

/-- `validateFinalStateRestrictions`. -/
def validateFinalStateRestrictions (L : StateLimits) (c : ScriptStateContext) :
    Except Thrown Unit :=
  performValidateStateRestrictions L c.ftState c.ftBalancesUpdates c.ftStateIncoming
    c.nftState c.nftBalancesUpdates c.nftStateIncoming
    c.contractState c.contractStateUpdates c.contractStateDeletes

/-- The `ScriptStateContext` constructor, given the external state already
    validated: the context of `ofInputs`, if it passes validation. -/
def create (L : StateLimits) (ftState ftStateIncoming : JsonMap UInt64)
    (nftState nftStateIncoming : JsonMap Bool) (contractState : JsonMap (JsonMap String))
    (external : ContractStateExternalStruct) : Except Thrown ScriptStateContext :=
  let c := ofInputs ftState ftStateIncoming nftState nftStateIncoming contractState external
  (c.validateFinalStateRestrictions L).map fun _ => c

end ScriptStateContext

/-! ## Section 3: what the checks accept

    The format checks, map by map, as predicates: the loops accept exactly
    the maps all of whose entries satisfy them. -/

theorem ftBalances_ok_iff (obj : JsonMap UInt64) (isAllowZeroBalance : Bool) :
    (∃ n, performValidateStateRestrictionsTokenFtBalances obj isAllowZeroBalance = .ok n) ↔
      ∀ e ∈ obj.entries, isHexStr e.1 = true ∧ (isAllowZeroBalance = false → e.2 ≠ 0) := by
  unfold performValidateStateRestrictionsTokenFtBalances
  rw [validateEntries_ok_iff]
  cases isAllowZeroBalance <;> simp [entryOk]

theorem nftBalances_ok_iff (obj : JsonMap Bool) (isAllowFalse : Bool) :
    (∃ n, performValidateStateRestrictionsTokenNftBalances obj isAllowFalse = .ok n) ↔
      ∀ e ∈ obj.entries, isHexStr e.1 = true ∧ (isAllowFalse = false → e.2 = true) := by
  unfold performValidateStateRestrictionsTokenNftBalances
  rw [validateEntries_ok_iff]
  cases isAllowFalse <;> simp [entryOk]

/-- Whether an exception is one of the seven size-limit classes. -/
def Exception.isSizeLimit : Exception → Bool
  | .stateSizeLimit | .stateUpdateSizeLimit | .stateDeleteSizeLimit
  | .ftBalanceSizeLimit | .ftBalanceUpdateSizeLimit
  | .nftBalanceSizeLimit | .nftBalanceUpdateSizeLimit => true
  | _ => false

/-! ## Section 4: the whole battery -/

theorem except_bind_eq_ok {ε α β : Type} {x : Except ε α} {f : α → Except ε β} {b : β} :
    x >>= f = .ok b ↔ ∃ a, x = .ok a ∧ f a = .ok b := by
  cases x <;> simp [bind, Except.bind]

@[simp] theorem except_ok_bind {ε α β : Type} (a : α) (f : α → Except ε β) :
    (Except.ok a >>= f) = f a := rfl

@[simp] theorem except_error_bind {ε α β : Type} (e : ε) (f : α → Except ε β) :
    (Except.error e >>= f) = .error e := rfl

theorem throwIfOver_bind {β : Type} (n : UInt32) (cap : Nat) (e : Exception)
    (f : Unit → Except Thrown β) :
    throwIfOver n cap e >>= f = if n.toNat > cap then .error (.ptr e) else f () := by
  unfold throwIfOver; split <;> rfl

/-- When `performValidateStateRestrictions` succeeds, each of the nine
    per-map validators did. -/
theorem performValidateStateRestrictions_ok {L : StateLimits}
    {ftState ftStateUpdates ftStateIncoming : JsonMap UInt64}
    {nftState nftStateUpdates nftStateIncoming : JsonMap Bool}
    {contractState contractStateUpdates : JsonMap (JsonMap String)}
    {contractStateDeletes : JsonMap (JsonMap Bool)}
    (h : performValidateStateRestrictions L ftState ftStateUpdates ftStateIncoming nftState
      nftStateUpdates nftStateIncoming contractState contractStateUpdates
      contractStateDeletes = .ok ()) :
    (∃ n, performValidateStateRestrictionsState contractState = .ok n) ∧
    (∃ n, performValidateStateRestrictionsState contractStateUpdates = .ok n) ∧
    (∃ n, performValidateStateRestrictionsStateDeletes contractStateDeletes = .ok n) ∧
    (∃ n, performValidateStateRestrictionsTokenFtBalances ftState false = .ok n) ∧
    (∃ n, performValidateStateRestrictionsTokenFtBalances ftStateUpdates true = .ok n) ∧
    (∃ n, performValidateStateRestrictionsTokenFtBalances ftStateIncoming false = .ok n) ∧
    (∃ n, performValidateStateRestrictionsTokenNftBalances nftState false = .ok n) ∧
    (∃ n, performValidateStateRestrictionsTokenNftBalances nftStateUpdates true = .ok n) ∧
    (∃ n, performValidateStateRestrictionsTokenNftBalances nftStateIncoming false = .ok n) := by
  simp only [performValidateStateRestrictions, except_bind_eq_ok] at h
  obtain ⟨_, h1, _, -, _, h2, _, -, _, h3, _, -, _, h4, _, -, _, h5, _, -, _, h6, _, h7, _, -,
    _, h8, _, -, _, h9, -⟩ := h
  exact ⟨⟨_, h1⟩, ⟨_, h2⟩, ⟨_, h3⟩, ⟨_, h4⟩, ⟨_, h5⟩, ⟨_, h6⟩, ⟨_, h7⟩, ⟨_, h8⟩, ⟨_, h9⟩⟩

/-- The first cap the byte counts exceed, in the order they are checked. -/
def firstCapViolation (L : StateLimits) (state updates deletes ft ftUpdates nft nftUpdates : UInt32) :
    Option Exception :=
  if state.toNat > L.MAX_STATE_FINAL_BYTES then some .stateSizeLimit
  else if updates.toNat > L.MAX_STATE_UPDATE_BYTES then some .stateUpdateSizeLimit
  else if deletes.toNat > L.MAX_STATE_UPDATE_BYTES then some .stateDeleteSizeLimit
  else if ft.toNat > L.MAX_BALANCES_BYTES then some .ftBalanceSizeLimit
  else if ftUpdates.toNat > L.MAX_BALANCES_UPDATE_BYTES then some .ftBalanceUpdateSizeLimit
  else if nft.toNat > L.MAX_BALANCES_BYTES then some .nftBalanceSizeLimit
  else if nftUpdates.toNat > L.MAX_BALANCES_UPDATE_BYTES then some .nftBalanceUpdateSizeLimit
  else none

/-- One cap check in front of the rest of the battery. -/
theorem throwIfOver_bind_match {n : UInt32} {cap : Nat} {e : Exception} {o : Option Exception}
    {f : Unit → Except Thrown Unit}
    (hf : f () = match o with | some e => .error (.ptr e) | none => .ok ()) :
    throwIfOver n cap e >>= f =
      match (if n.toNat > cap then some e else o) with
      | some e => .error (.ptr e)
      | none => .ok () := by
  rw [throwIfOver_bind]
  split_ifs
  · rfl
  · exact hf

/-- When every map is well formed, the battery throws the first exceeded
    cap's exception, as a pointer, or succeeds. -/
theorem performValidateStateRestrictions_of_ok {L : StateLimits}
    {ftState ftStateUpdates ftStateIncoming : JsonMap UInt64}
    {nftState nftStateUpdates nftStateIncoming : JsonMap Bool}
    {contractState contractStateUpdates : JsonMap (JsonMap String)}
    {contractStateDeletes : JsonMap (JsonMap Bool)} {n₁ n₂ n₃ n₄ n₅ n₆ n₇ n₈ n₉ : UInt32}
    (h₁ : performValidateStateRestrictionsState contractState = .ok n₁)
    (h₂ : performValidateStateRestrictionsState contractStateUpdates = .ok n₂)
    (h₃ : performValidateStateRestrictionsStateDeletes contractStateDeletes = .ok n₃)
    (h₄ : performValidateStateRestrictionsTokenFtBalances ftState false = .ok n₄)
    (h₅ : performValidateStateRestrictionsTokenFtBalances ftStateUpdates true = .ok n₅)
    (h₆ : performValidateStateRestrictionsTokenFtBalances ftStateIncoming false = .ok n₆)
    (h₇ : performValidateStateRestrictionsTokenNftBalances nftState false = .ok n₇)
    (h₈ : performValidateStateRestrictionsTokenNftBalances nftStateUpdates true = .ok n₈)
    (h₉ : performValidateStateRestrictionsTokenNftBalances nftStateIncoming false = .ok n₉) :
    performValidateStateRestrictions L ftState ftStateUpdates ftStateIncoming nftState
      nftStateUpdates nftStateIncoming contractState contractStateUpdates contractStateDeletes =
    match firstCapViolation L n₁ n₂ n₃ n₄ n₅ n₇ n₈ with
    | some e => .error (.ptr e)
    | none => .ok () := by
  simp only [performValidateStateRestrictions, h₁, h₂, h₃, h₄, h₅, h₆, h₇, h₈, h₉,
    except_ok_bind]
  unfold firstCapViolation
  repeat refine throwIfOver_bind_match ?_
  rfl

theorem firstCapViolation_isSizeLimit {L : StateLimits}
    {n₁ n₂ n₃ n₄ n₅ n₆ n₇ : UInt32} {e : Exception}
    (h : firstCapViolation L n₁ n₂ n₃ n₄ n₅ n₆ n₇ = some e) : e.isSizeLimit = true := by
  unfold firstCapViolation at h
  repeat' split at h
  all_goals cases h <;> rfl

theorem ScriptStateContext.create_ok {L : StateLimits} {ftState ftStateIncoming : JsonMap UInt64}
    {nftState nftStateIncoming : JsonMap Bool} {contractState : JsonMap (JsonMap String)}
    {external : ContractStateExternalStruct} {c₀ : ScriptStateContext}
    (h : ScriptStateContext.create L ftState ftStateIncoming nftState nftStateIncoming
      contractState external = .ok c₀) :
    c₀ = .ofInputs ftState ftStateIncoming nftState nftStateIncoming contractState external ∧
      c₀.validateFinalStateRestrictions L = .ok () := by
  unfold ScriptStateContext.create at h
  cases hv : (ScriptStateContext.ofInputs ftState ftStateIncoming nftState nftStateIncoming
    contractState external).validateFinalStateRestrictions L with
  | error t => simp [hv, Except.map] at h
  | ok u =>
    simp only [hv, Except.map, Except.ok.injEq] at h
    exact ⟨h.symm, h ▸ hv⟩

end Avm
