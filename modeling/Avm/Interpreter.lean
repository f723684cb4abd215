import Avm.Script
import Avm.StateHash

/-! # The interpreter

    `EvalScript` and `VerifyScriptAvm` (interpreter.cpp).  The loop reads
    one instruction at a time, checks the push size, the opcode count and
    the disabled opcodes, pushes data or dispatches on the opcode, and checks
    the stack depth.  An opcode either goes on, or returns from `EvalScript`
    with `set_error`, leaving the stacks and the state context as they are
    at that point.  Exceptions thrown inside the loop meet two handlers:
    `catch (const avm::BigIntException &)` and
    `catch (const std::exception &)`.  Pointers (`throw new`) and failed
    `assert`s pass both.

    The stacks are lists with the top first: `stacktop(-1)` is the head.

    What the code reaches outside the repository is a parameter: the
    signature checker (`BaseSignatureChecker`), the hash functions, the
    signature encoding checks (sigencoding.h), and the script flags
    (script_flags.h), whose three flags the interpreter reads are modelled
    as Booleans.

    Every exception the handlers catch is thrown before the opcode changes
    the stacks or the state context, so a caught exception returns them as
    they were when the instruction was read.
-/

namespace Avm

open ScriptStateContext

/-! ## Section 1: the transaction and the environment -/

/-- `COutPoint`: the spent transaction's id (32 bytes) and output index. -/
structure COutPoint where
  txid : Valtype
  n : UInt32
  txid_size : txid.length = 32
  deriving DecidableEq

/-- `CTxIn`. -/
structure CTxIn where
  prevout : COutPoint
  scriptSig : Valtype
  nSequence : UInt32
  deriving DecidableEq

/-- `CTxOut`: the value in satoshis and the output script. -/
structure CTxOut where
  nValue : Int
  scriptPubKey : Valtype
  deriving DecidableEq

/-- `CTransactionView`. -/
structure CTransactionView where
  nVersion : Int
  vin : List CTxIn
  vout : List CTxOut
  nLockTime : UInt32
  deriving DecidableEq

/-- `ScriptExecutionContext`: the transaction, the unlocking and locking
    scripts together, and the out-of-band public key. -/
structure ScriptExecutionContext where
  tx : CTransactionView
  fullScript : Valtype
  pubKey : Valtype
  deriving DecidableEq

/-- The conversion of a signed integer to `uint32_t`: modulo `2^32`. -/
def castUInt32 (n : Int) : UInt32 := UInt32.ofNat (n % 2 ^ 32).toNat

/-- The conversion of a signed integer to `uint64_t`: modulo `2^64`. -/
def castUInt64 (n : Int) : UInt64 := UInt64.ofNat (n % 2 ^ 64).toNat

namespace ScriptExecutionContext

/-- `getAuthPubKey`. -/
def getAuthPubKey (ctx : ScriptExecutionContext) : Option Valtype :=
  if ctx.pubKey.length ≠ 0 then some ctx.pubKey else none

/-- `getAuthSig`: the signature of the first output of the form
    `OP_RETURN "sig" <push>`. -/
def getAuthSig (ctx : ScriptExecutionContext) : Option Valtype :=
  (ctx.tx.vout.map (isSigOpReturn ·.scriptPubKey)).findSome? id

/-- `getAuthMessage`: the first input's outpoint, the full script, and the
    value and script of every output that does not carry the signature.
    The source reads `vin()[0]` unchecked; with no input the outpoint is
    left out here. -/
def getAuthMessage (ctx : ScriptExecutionContext) : Valtype :=
  let outpoint := match ctx.tx.vin with
    | input :: _ => input.prevout.txid ++ serializeUint32 input.prevout.n
    | [] => []
  outpoint ++ ctx.fullScript ++ (ctx.tx.vout.filter (isSigOpReturn ·.scriptPubKey |>.isNone)).flatMap
    fun output => serializeUint64 (castUInt64 (CScriptNum.ofInt64 output.nValue).getint) ++
      output.scriptPubKey

end ScriptExecutionContext

/-- `BaseSignatureChecker`: what the interpreter asks of the spending
    transaction. -/
structure BaseSignatureChecker where
  VerifySignature : Valtype → Valtype → Valtype → Bool
  CheckLockTime : CScriptNum → Bool
  CheckSequence : CScriptNum → Bool

/-- The hash functions, each with the width of the buffer the source
    finalizes it into. -/
structure Hashes where
  ripemd160 : Valtype → Valtype
  sha1 : Valtype → Valtype
  sha256 : Valtype → Valtype
  sha3_256 : Valtype → Valtype
  sha512 : Valtype → Valtype
  sha512_256 : Valtype → Valtype
  eaglesong : Valtype → Valtype
  ripemd160_size : ∀ v, (ripemd160 v).length = 20
  sha1_size : ∀ v, (sha1 v).length = 20
  sha256_size : ∀ v, (sha256 v).length = 32
  sha3_256_size : ∀ v, (sha3_256 v).length = 32
  sha512_size : ∀ v, (sha512 v).length = 64
  sha512_256_size : ∀ v, (sha512_256 v).length = 32
  eaglesong_size : ∀ v, (eaglesong v).length = 32

/-- The script flags the interpreter reads. -/
structure ScriptFlags where
  SCRIPT_VERIFY_CHECKLOCKTIMEVERIFY : Bool
  SCRIPT_VERIFY_CHECKSEQUENCEVERIFY : Bool
  SCRIPT_VERIFY_DISCOURAGE_UPGRADABLE_NOPS : Bool

/-- What `EvalScript` runs against: its flags, checker and context, and the
    functions outside the repository it calls.  The encoding checks give
    the error they set, or `none` when the encoding is accepted. -/
structure Env where
  flags : ScriptFlags
  checker : BaseSignatureChecker
  context : Option ScriptExecutionContext
  hashes : Hashes
  checkDataSignatureEncoding : Valtype → Option ScriptError
  checkPubKeyEncoding : Valtype → Option ScriptError

/-! ## Section 2: queries of the state context -/

namespace ScriptStateContext

variable (c : ScriptStateContext)

/-- `getFtCount`: the map's size, returned as `uint32_t`. -/
def getFtCount : UInt32 := .ofNat c.ftState.entries.length

/-- `getFtCountIncoming`, as `uint32_t`. -/
def getFtCountIncoming : UInt32 := .ofNat c.ftStateIncoming.entries.length

/-- `getNftCount`, as `uint32_t`. -/
def getNftCount : UInt32 := .ofNat c.nftState.entries.length

/-- `getNftCountIncoming`, as `uint32_t`. -/
def getNftCountIncoming : UInt32 := .ofNat c.nftStateIncoming.entries.length

/-- `contractFtBalance`: 0 when absent. -/
def contractFtBalance (ftId : Uint288) : UInt64 := (c.ftState.find? ftId.getHex).getD 0

/-- `contractFtBalanceIncoming`: 0 when absent. -/
def contractFtBalanceIncoming (ftId : Uint288) : UInt64 :=
  (c.ftStateIncoming.find? ftId.getHex).getD 0

/-- `contractNftExists`. -/
def contractNftExists (nftId : Uint288) : Bool := (c.nftState.find? nftId.getHex).getD false

/-- `contractNftExistsIncoming`. -/
def contractNftExistsIncoming (nftId : Uint288) : Bool :=
  (c.nftStateIncoming.find? nftId.getHex).getD false

end ScriptStateContext

/-- `uint288S`, modelled from `base_blob::SetHex`: the bytes a hex key
    spells, least significant last, zero-filled to 36 bytes. -/
def uint288S (s : String) : Uint288 :=
  ⟨((parseHex s).reverse ++ List.replicate 36 0).take 36, by simp⟩

/-- `getFtItem` and its siblings: the id of the `index`-th key of a map, in
    the map's order. -/
def getItem {α : Type} (m : JsonMap α) (index : Nat) : Option Uint288 :=
  (m.entries.get? index).map fun e => uint288S e.1

/-- `std::llround` as the C library of x86-64 Linux computes it: the
    nearest integer, halves rounded away from zero (`round`), and
    `LLONG_MIN` when that integer is not a `long long`, infinity and NaN
    included. -/
def llround (x : Float) : Int :=
  let r := x.round
  if r.isNaN ∨ r.isInf ∨ 9223372036854775808.0 ≤ r ∨ r < -9223372036854775808.0 then -2 ^ 63
  else if r < 0 then -((-r).toUInt64.toNat : Int)
  else r.toUInt64.toNat

/-- `getBlockInfoDifficulty`: the difficulty of `nBits`, computed in
    `double`, rounded with `llround` and returned as `uint64_t`, modulo
    `2^64`.  A zero mantissa divides by zero: `llround` of the infinity is
    `LLONG_MIN`, returned as `2^63`. -/
def getBlockInfoDifficulty (nBits : UInt32) : UInt64 :=
  let nShift := ((nBits >>> 24) &&& 0xff).toNat
  let dDiff := (0x0000ffff : Float) / (nBits &&& 0x00ffffff).toNat.toFloat
  let dDiff := Nat.iterate (· * 256.0) (29 - nShift) dDiff
  let dDiff := Nat.iterate (· / 256.0) (nShift - 29) dDiff
  UInt64.ofNat (llround dDiff % 2 ^ 64).toNat

/-- `ScriptStateContext::decodeHeader`: `HeaderDecodeError` when the bytes
    are not a header. -/
def decodeHeader (header : Valtype) : Except Thrown CBlockHeader :=
  match decodeHexBlockHeaderDup (hexStr header) with
  | some h => .ok h
  | none => .error (.obj .headerDecode)

/-! ## Section 3: the machine -/

/-- The interpreter's state between two instructions. -/
structure Machine where
  /-- The main stack, top first. -/
  stack : List Valtype
  /-- The alt stack, top first. -/
  altstack : List Valtype
  vfExec : ConditionStack
  nOpCount : Nat
  stateContext : ScriptStateContext

/-- How one instruction ends: the loop goes on, or `EvalScript` returns. -/
inductive StepResult
  | next (m : Machine)
  | stop (success : Bool) (serror : ScriptError) (m : Machine)

/-- `return set_error(serror, e)`. -/
def fail (e : ScriptError) (m : Machine) : Except Thrown StepResult := .ok (.stop false e m)

/-- The loop goes on with the stack `s`. -/
def next (m : Machine) (s : List Valtype) : Except Thrown StepResult := .ok (.next { m with stack := s })

/-- `vchTrue` and `vchFalse`. -/
def vchBool (b : Bool) : Valtype := if b then [1] else []

/-- A stack operand read as a number: `CScriptNum(vch, maxIntegerSize)`. -/
def num (vch : Valtype) : Except Thrown CScriptNum := CScriptNum.ofSpan vch MAXIMUM_ITEM_SIZE

/-- `INT32_MAX`. -/
def INT32_MAX : Int := 2 ^ 31 - 1

/-- The shift loop of `OP_LSHIFT` and `OP_RSHIFT`: shift by `getint()` and
    take `INT32_MAX` off the count while it stays positive. -/
def shiftLoop (shift : Valtype → Nat → Valtype) (values : Valtype) (n : Int) : Valtype :=
  let values := shift values (CScriptNum.big n).getint.toNat
  if n - INT32_MAX > 0 then shiftLoop shift values (n - INT32_MAX) else values
termination_by n.toNat
decreasing_by simp only [INT32_MAX] at *; omega

/-! ## Section 4: the opcodes -/

/-- The numeric unary opcodes, on their operand. -/
def unaryNumeric (opcode : Opcode) (bn : CScriptNum) : Except Thrown CScriptNum :=
  match opcode with
  | .OP_1ADD => bn.add (.big 1)
  | .OP_1SUB => bn.sub (.big 1)
  | .OP_NEGATE => .ok bn.neg
  | .OP_ABS => .ok (if bn.value < 0 then bn.neg else bn)
  | .OP_NOT => .ok (.ofInt64 (if bn.value = 0 then 1 else 0))
  | .OP_0NOTEQUAL => .ok (.ofInt64 (if bn.value ≠ 0 then 1 else 0))
  | _ => .error .abort

/-- The numeric binary opcodes, on `bn1 = stacktop(-2)` and
    `bn2 = stacktop(-1)`: the result, or the error a zero divisor returns. -/
def binaryNumeric (opcode : Opcode) (bn1 bn2 : CScriptNum) :
    Except Thrown (Except ScriptError CScriptNum) :=
  let bool (b : Bool) : Except Thrown (Except ScriptError CScriptNum) :=
    .ok (.ok (.ofInt64 (if b then 1 else 0)))
  match opcode with
  | .OP_ADD => .ok <$> bn1.add bn2
  | .OP_SUB => .ok <$> bn1.sub bn2
  | .OP_MUL => .ok <$> bn1.mul bn2
  | .OP_DIV => if bn2.value = 0 then .ok (.error .DIV_BY_ZERO) else .ok <$> bn1.div bn2
  | .OP_MOD => if bn2.value = 0 then .ok (.error .MOD_BY_ZERO) else .ok <$> bn1.mod bn2
  | .OP_BOOLAND => bool (bn1.value ≠ 0 && bn2.value ≠ 0)
  | .OP_BOOLOR => bool (bn1.value ≠ 0 || bn2.value ≠ 0)
  | .OP_NUMEQUAL => bool (bn1.value = bn2.value)
  | .OP_NUMEQUALVERIFY => bool (bn1.value = bn2.value)
  | .OP_NUMNOTEQUAL => bool (bn1.value ≠ bn2.value)
  | .OP_LESSTHAN => bool (bn1.value < bn2.value)
  | .OP_GREATERTHAN => bool (bn1.value > bn2.value)
  | .OP_LESSTHANOREQUAL => bool (bn1.value ≤ bn2.value)
  | .OP_GREATERTHANOREQUAL => bool (bn1.value ≥ bn2.value)
  | .OP_MIN => .ok (.ok (if bn1.value < bn2.value then bn1 else bn2))
  | .OP_MAX => .ok (.ok (if bn1.value > bn2.value then bn1 else bn2))
  | _ => .error .abort

/-- The hash of the crypto opcodes. -/
def cryptoHash (h : Hashes) (opcode : Opcode) (vch : Valtype) : Except Thrown Valtype :=
  match opcode with
  | .OP_RIPEMD160 => .ok (h.ripemd160 vch)
  | .OP_SHA1 => .ok (h.sha1 vch)
  | .OP_SHA256 => .ok (h.sha256 vch)
  | .OP_HASH160 => .ok (h.ripemd160 (h.sha256 vch))
  | .OP_HASH256 => .ok (h.sha256 (h.sha256 vch))
  | _ => .error .abort

/-- `OP_IF` and `OP_NOTIF`. -/
def execIf (fExec isNotIf : Bool) (m : Machine) : Except Thrown StepResult :=
  if fExec then
    match m.stack with
    | [] => fail .UNBALANCED_CONDITIONAL m
    | vch :: rest =>
      if vch.length > 1 then fail .MINIMALIF m
      else if vch.length = 1 ∧ vch.headD 0 ≠ 1 then fail .MINIMALIF m
      else
        let fValue := if isNotIf then !castToBool vch else castToBool vch
        .ok (.next { m with stack := rest, vfExec := m.vfExec.push_back fValue })
  else .ok (.next { m with vfExec := m.vfExec.push_back false })

/-- `OP_PICK` and `OP_ROLL`. -/
def execPickRoll (isRoll : Bool) (m : Machine) : Except Thrown StepResult :=
  match m.stack with
  | top :: rest@(_ :: _) => do
    let sn ← num top
    let n ← sn.getSizeType
    if sn.value < 0 ∨ sn.value ≥ rest.length then fail .INVALID_STACK_OPERATION { m with stack := rest }
    else
      let vch := rest.getD n []
      next m (vch :: if isRoll then rest.eraseIdx n else rest)
  | _ => fail .INVALID_STACK_OPERATION m

/-- `OP_LSHIFT` and `OP_RSHIFT`. -/
def execShift (shift : Valtype → Nat → Valtype) (m : Machine) : Except Thrown StepResult :=
  match m.stack with
  | vch2 :: vch1 :: rest => do
    let n ← num vch2
    if n.value < 0 then fail .INVALID_NUMBER_RANGE m
    else
      let values :=
        if n.value ≥ vch1.length * 8 then List.replicate vch1.length 0
        else shiftLoop shift vch1 n.value
      next m (values :: rest)
  | _ => fail .INVALID_STACK_OPERATION m

/-- `OP_NUM2BIN`. -/
def execNum2Bin (m : Machine) : Except Thrown StepResult :=
  match m.stack with
  | vch2 :: rawnum :: rest => do
    let n ← num vch2
    if n.value < 0 ∨ n.value > INT32_MAX then fail .PUSH_SIZE m else
    let size ← n.getSizeType
    if size > MAX_SCRIPT_ELEMENT_SIZE then fail .PUSH_SIZE m else
    let rawnum := minimallyEncode rawnum
    if rawnum.length > size then fail .IMPOSSIBLE_ENCODING { m with stack := rawnum :: rest }
    else if rawnum.length = size then next m (rawnum :: rest)
    else
      let signbit : UInt8 := if rawnum.isEmpty then 0 else rawnum.getLastD 0 &&& 0x80
      let rawnum := if rawnum.isEmpty then rawnum
        else rawnum.set (rawnum.length - 1) (rawnum.getLastD 0 &&& 0x7f)
      let rawnum := (rawnum ++ List.replicate (size - rawnum.length) 0).set (size - 1) signbit
      next m (rawnum :: rest)
  | _ => fail .INVALID_STACK_OPERATION m

/-- `OP_CHECKDATASIG` and `OP_CHECKDATASIGVERIFY`. -/
def execCheckDataSig (env : Env) (isVerify : Bool) (m : Machine) : Except Thrown StepResult :=
  match m.stack with
  | vchPubKey :: vchMessage :: vchSig :: rest =>
    match env.checkDataSignatureEncoding vchSig <|> env.checkPubKeyEncoding vchPubKey with
    | some e => fail e m
    | none =>
      let fSuccess := !vchSig.isEmpty &&
        env.checker.VerifySignature vchSig vchPubKey (env.hashes.sha256 vchMessage)
      if !vchSig.isEmpty && !fSuccess then fail .SIG_NULLFAIL m
      else if isVerify then
        if fSuccess then next m rest
        else fail .CHECKDATASIGVERIFY { m with stack := vchBool fSuccess :: rest }
      else next m (vchBool fSuccess :: rest)
  | _ => fail .INVALID_STACK_OPERATION m

/-- `OP_CHECKAUTHSIG` and `OP_CHECKAUTHSIGVERIFY`.  The context is used
    without a check; a missing one crashes the process. -/
def execCheckAuthSig (env : Env) (isVerify : Bool) (m : Machine) : Except Thrown StepResult :=
  match env.context with
  | none => .error .abort
  | some ctx =>
    match ctx.getAuthSig, ctx.getAuthPubKey with
    | some vchSig, some vchPubKey =>
      if (env.checkDataSignatureEncoding vchSig).isSome ||
          (env.checkPubKeyEncoding vchPubKey).isSome then
        fail .INVALID_AVM_CHECKAUTHSIG m
      else if !env.checker.VerifySignature vchSig vchPubKey (env.hashes.sha256 ctx.getAuthMessage)
      then fail .INVALID_AVM_CHECKAUTHSIGNULL m
      else next m (vchPubKey :: m.stack)
    | none, none =>
      if isVerify then fail .INVALID_AVM_CHECKAUTHSIGVERIFY m else next m (vchBool false :: m.stack)
    | _, _ => fail .INVALID_AVM_CHECKAUTHSIG m

/-- The nullary introspection opcodes. -/
def execIntrospectionNullary (ctx : ScriptExecutionContext) (opcode : Opcode) (m : Machine) :
    Except Thrown StepResult :=
  let push (n : Int) := next m ((CScriptNum.ofInt64 n).getvch :: m.stack)
  match opcode with
  | .OP_TXVERSION => push ctx.tx.nVersion
  | .OP_TXINPUTCOUNT => push ctx.tx.vin.length
  | .OP_TXOUTPUTCOUNT => push ctx.tx.vout.length
  | .OP_TXLOCKTIME => push ctx.tx.nLockTime.toNat
  | _ => .error .abort

/-- The unary introspection opcodes, after the index is read and popped. -/
def execIntrospectionUnary (ctx : ScriptExecutionContext) (opcode : Opcode) (index : Int)
    (m : Machine) : Except Thrown StepResult :=
  let validInput := 0 ≤ index ∧ index < ctx.tx.vin.length
  let validOutput := 0 ≤ index ∧ index < ctx.tx.vout.length
  let input := ctx.tx.vin.get? index.toNat
  let output := ctx.tx.vout.get? index.toNat
  let pushNum (n : Int) := next m ((CScriptNum.ofInt64 n).getvch :: m.stack)
  match opcode with
  | .OP_OUTPOINTTXHASH =>
    if ¬validInput then fail .INVALID_TX_INPUT_INDEX m
    else next m (((input.map (·.prevout.txid)).getD []) :: m.stack)
  | .OP_OUTPOINTINDEX =>
    if ¬validInput then fail .INVALID_TX_INPUT_INDEX m
    else pushNum ((input.map (·.prevout.n.toNat)).getD 0)
  | .OP_INPUTBYTECODE =>
    if ¬validInput then fail .INVALID_TX_INPUT_INDEX m
    else
      let inputScript := (input.map (·.scriptSig)).getD []
      if inputScript.length > MAX_SCRIPT_ELEMENT_SIZE then fail .PUSH_SIZE m
      else next m (inputScript :: m.stack)
  | .OP_INPUTSEQUENCENUMBER =>
    if ¬validInput then fail .INVALID_TX_INPUT_INDEX m
    else pushNum ((input.map (·.nSequence.toNat)).getD 0)
  | .OP_OUTPUTVALUE =>
    if ¬validOutput then fail .INVALID_TX_OUTPUT_INDEX m
    else pushNum ((output.map (·.nValue)).getD 0)
  | .OP_OUTPUTBYTECODE =>
    if ¬validOutput then fail .INVALID_TX_OUTPUT_INDEX m
    else
      let outputScript := (output.map (·.scriptPubKey)).getD []
      if outputScript.length > MAX_SCRIPT_ELEMENT_SIZE then fail .PUSH_SIZE m
      else next m (outputScript :: m.stack)
  | _ => .error .abort

/-- A 36-byte operand as a token id. -/
def atomref (n : Valtype) (h : n.length = 36) : Uint288 := ⟨n, h⟩

/-- `uint288(vch)`, modelled from `base_blob`: asserts 36 bytes. -/
def uint288OfBytes (vch : Valtype) : Except Thrown Uint288 :=
  if h : vch.length = 36 then .ok ⟨vch, h⟩ else .error .abort

/-- The unary AVM opcodes, on `n = stacktop(-1)`. -/
def execAvmUnary (opcode : Opcode) (n : Valtype) (rest : List Valtype) (m : Machine) :
    Except Thrown StepResult :=
  let sc := m.stateContext
  let count (t : Int) (current incoming : UInt32) (e : ScriptError) :=
    if t < 0 ∨ t > 1 then fail e m
    else next m ((CScriptNum.ofInt64 (if t = 0 then current else incoming).toNat).getvch :: rest)
  match opcode with
  | .OP_FT_BALANCE_ADD =>
    if h : n.length ≠ 36 then fail .INVALID_ATOMICAL_REF_SIZE m else
    let (ok, sc') := sc.contractFtBalanceAdd (atomref n (not_not.mp h))
    if !ok then fail .INVALID_AVM_FT_BALANCE_ADD_INVALID { m with stateContext := sc' }
    else .ok (.next { m with stack := rest, stateContext := sc' })
  | .OP_NFT_PUT =>
    if h : n.length ≠ 36 then fail .INVALID_ATOMICAL_REF_SIZE m else do
    let (ok, sc') ← sc.contractNftPut (atomref n (not_not.mp h))
    if !ok then fail .INVALID_AVM_NFT_PUT_INVALID { m with stateContext := sc' }
    else .ok (.next { m with stack := rest, stateContext := sc' })
  | .OP_FT_COUNT => do
    let sn ← num n
    count sn.getint sc.getFtCount sc.getFtCountIncoming .INVALID_AVM_FT_COUNT_TYPE
  | .OP_NFT_COUNT => do
    let sn ← num n
    count sn.getint sc.getNftCount sc.getNftCountIncoming .INVALID_AVM_NFT_COUNT_TYPE
  | _ => .error .abort

/-- `OP_GETBLOCKINFO`, after the operands are read, checked and popped: the
    field of the header at `height`, `0` standing for the current height. -/
def getBlockInfoField (e : ContractStateExternalStruct) (height : UInt32) (blockField : Int) :
    Except Thrown Valtype :=
  let num (n : Nat) : Valtype := (CScriptNum.ofInt64 n).getvch
  match blockField with
  | 0 => (num ·.toNat) <$> e.getCurrentBlockInfo height (·.header.nVersion)
  | 1 => e.getCurrentBlockInfo height (·.header.hashPrevBlock)
  | 2 => e.getCurrentBlockInfo height (·.header.hashMerkleRoot)
  | 3 => (num ·.toNat) <$> e.getCurrentBlockInfo height (·.header.nTime)
  | 4 => (num ·.toNat) <$> e.getCurrentBlockInfo height (·.header.nBits)
  | 5 => (num ·.toNat) <$> e.getCurrentBlockInfo height (·.header.nNonce)
  | 6 => (num ·.toNat) <$> e.getCurrentBlockInfo height (getBlockInfoDifficulty ·.header.nBits)
  | 7 => e.getCurrentBlockInfoHeader height
  | _ => (num ·.toNat) <$> e.getCurrentBlockInfoHeight height

/-- `OP_DECODEBLOCKINFO`: a field of a decoded header. -/
def decodeBlockInfoField (header : CBlockHeader) (blockField : Int) : Valtype :=
  let num (n : Nat) : Valtype := (CScriptNum.ofInt64 n).getvch
  match blockField with
  | 0 => num header.nVersion.toNat
  | 1 => header.hashPrevBlock
  | 2 => header.hashMerkleRoot
  | 3 => num header.nTime.toNat
  | 4 => num header.nBits.toNat
  | 5 => num header.nNonce.toNat
  | _ => num (getBlockInfoDifficulty header.nBits).toNat

/-- The binary AVM opcodes, on `vch1 = stacktop(-2)` and
    `vch2 = stacktop(-1)`. -/
def execAvmBinary (env : Env) (ctx : ScriptExecutionContext) (opcode : Opcode)
    (vch2 vch1 : Valtype) (rest : List Valtype) (m : Machine) : Except Thrown StepResult :=
  let sc := m.stateContext
  let popped := { m with stack := rest }
  match opcode with
  | .OP_GETBLOCKINFO => do
    let heightNumber := (← num vch1).getint
    let blockField := (← num vch2).getint
    if blockField < 0 ∨ blockField > 8 then fail .INVALID_AVM_INVALID_BLOCKINFO_ITEM m else
    let v ← getBlockInfoField sc.externalStateStruct (castUInt32 heightNumber) blockField
    next m (v :: rest)
  | .OP_FT_BALANCE =>
    if h : vch1.length ≠ 36 then fail .INVALID_ATOMICAL_REF_SIZE m else do
    let id := atomref vch1 (not_not.mp h)
    let balanceType := (← num vch2).getint
    if balanceType < 0 ∨ balanceType > 1 then fail .INVALID_AVM_FT_BALANCE_TYPE m else
    let balance := if balanceType = 0 then sc.contractFtBalance id else sc.contractFtBalanceIncoming id
    next m ((CScriptNum.ofInt64 balance.toNat).getvch :: rest)
  | .OP_NFT_EXISTS =>
    if h : vch1.length ≠ 36 then fail .INVALID_ATOMICAL_REF_SIZE m else do
    let id := atomref vch1 (not_not.mp h)
    let nftExistsType := (← num vch2).getint
    if nftExistsType < 0 ∨ nftExistsType > 1 then fail .INVALID_AVM_NFT_EXISTS_TYPE m else
    let exists_ := if nftExistsType = 0 then sc.contractNftExists id else sc.contractNftExistsIncoming id
    next m (vchBool exists_ :: rest)
  | .OP_FT_ITEM => do
    let index := (← num vch1).getint
    if index < 0 then fail .INVALID_AVM_INVALID_FT_ITEM_INDEX m else
    let ftItemType := (← num vch2).getint
    if ftItemType < 0 ∨ ftItemType > 1 then fail .INVALID_AVM_FT_ITEM_TYPE m else
    match getItem (if ftItemType = 0 then sc.ftState else sc.ftStateIncoming) index.toNat with
    | some tokenId => next m (tokenId.bytes :: rest)
    | none => fail .INVALID_AVM_INVALID_FT_ITEM_INDEX popped
  | .OP_NFT_ITEM => do
    let index := (← num vch1).getint
    if index < 0 then fail .INVALID_AVM_INVALID_NFT_ITEM_INDEX m else
    let nftItemType := (← num vch2).getint
    if nftItemType < 0 ∨ nftItemType > 1 then fail .INVALID_AVM_NFT_ITEM_TYPE m else
    match getItem (if nftItemType = 0 then sc.nftState else sc.nftStateIncoming) index.toNat with
    | some tokenId => next m (tokenId.bytes :: rest)
    | none => fail .INVALID_AVM_INVALID_NFT_ITEM_INDEX popped
  | .OP_KV_EXISTS => next m (vchBool (sc.contractStateExists vch1 vch2) :: rest)
  | .OP_KV_GET =>
    match sc.contractStateGet vch1 vch2 with
    | some valueVec => next m (valueVec :: rest)
    | none => fail .INVALID_AVM_STATE_KEY_NOT_FOUND m
  | .OP_KV_DELETE =>
    .ok (.next { m with stack := rest, stateContext := sc.contractStateDelete vch1 vch2 })
  | .OP_NFT_WITHDRAW =>
    if vch1.length ≠ 36 then fail .INVALID_ATOMICAL_REF_SIZE m else do
    let index := (← num vch1).getint
    if index < 0 ∨ index ≥ ctx.tx.vout.length then fail .INVALID_AVM_WITHDRAW_NFT_OUTPUT_INDEX m
    else
    let id ← uint288OfBytes vch2
    let (ok, sc') := sc.contractWithdrawNft id (castUInt32 index)
    if !ok then fail .INVALID_AVM_WITHDRAW_NFT { m with stateContext := sc' }
    else .ok (.next { m with stack := rest, stateContext := sc' })
  | .OP_DECODEBLOCKINFO =>
    if vch1.length ≠ 80 then fail .INVALID_AVM_BLOCK_HEADER_SIZE m else do
    let blockField := (← num vch2).getint
    if blockField < 0 ∨ blockField > 6 then fail .INVALID_AVM_INVALID_BLOCKINFO_ITEM m else
    let header ← decodeHeader vch1
    next m (decodeBlockInfoField header blockField :: rest)
  | .OP_HASH_FN => do
    let hashFuncIndex := (← num vch2).getint
    if hashFuncIndex < 0 ∨ hashFuncIndex > 3 then fail .INVALID_AVM_HASH_FUNC m else
    let h := env.hashes
    let vchHash := if hashFuncIndex = 0 then h.sha3_256 vch1 else if hashFuncIndex = 1 then
      h.sha512 vch1 else if hashFuncIndex = 2 then h.sha512_256 vch1 else h.eaglesong vch1
    next m (vchHash :: rest)
  | _ => .error .abort

/-- `maxStateKeySize`. -/
def maxStateKeySize : Nat := 1024

/-- The ternary AVM opcodes, on `vch1 = stacktop(-3)`, `vch2 = stacktop(-2)`
    and `vch3 = stacktop(-1)`. -/
def execAvmTernary (ctx : ScriptExecutionContext) (opcode : Opcode) (vch3 vch2 vch1 : Valtype)
    (rest : List Valtype) (m : Machine) : Except Thrown StepResult :=
  let sc := m.stateContext
  match opcode with
  | .OP_KV_PUT =>
    if vch1.length > maxStateKeySize then fail .INVALID_AVM_STATE_KEY_SIZE m
    else if vch2.length > maxStateKeySize then fail .INVALID_AVM_STATE_KEY_SIZE m
    else .ok (.next { m with stack := rest, stateContext := sc.contractStatePut vch1 vch2 vch3 })
  | .OP_FT_WITHDRAW =>
    if h : vch3.length ≠ 36 then fail .INVALID_ATOMICAL_REF_SIZE m else do
    let index := (← num vch2).getint
    if index < 0 ∨ index ≥ ctx.tx.vout.length then fail .INVALID_AVM_WITHDRAW_FT_OUTPUT_INDEX m
    else
    let nValue := ((ctx.tx.vout.get? index.toNat).map (·.nValue)).getD 0
    let withdrawAmount := (← num vch1).getint
    if withdrawAmount ≤ 0 ∨ withdrawAmount > nValue then fail .INVALID_AVM_WITHDRAW_FT_AMOUNT m
    else
    let (ok, sc') := sc.contractWithdrawFt (atomref vch3 (not_not.mp h)) (castUInt32 index)
      (castUInt64 withdrawAmount)
    if !ok then fail .INVALID_AVM_WITHDRAW_FT { m with stateContext := sc' }
    else .ok (.next { m with stack := rest, stateContext := sc' })
  | _ => .error .abort

/-- The `switch (opcode)` of `EvalScript`, for an opcode that is not a data
    push in an executed branch. -/
def execOpcode (env : Env) (fExec : Bool) (opcode : Opcode) (m : Machine) :
    Except Thrown StepResult :=
  let pushInt (n : Int) := next m ((CScriptNum.ofInt64 n).getvch :: m.stack)
  let needContext (body : ScriptExecutionContext → Except Thrown StepResult) :=
    match env.context with
    | none => fail .CONTEXT_NOT_PRESENT m
    | some ctx => body ctx
  match opcode with
  -- push value
  | .OP_1NEGATE => pushInt (-1)
  | .OP_1 => pushInt 1 | .OP_2 => pushInt 2 | .OP_3 => pushInt 3 | .OP_4 => pushInt 4
  | .OP_5 => pushInt 5 | .OP_6 => pushInt 6 | .OP_7 => pushInt 7 | .OP_8 => pushInt 8
  | .OP_9 => pushInt 9 | .OP_10 => pushInt 10 | .OP_11 => pushInt 11 | .OP_12 => pushInt 12
  | .OP_13 => pushInt 13 | .OP_14 => pushInt 14 | .OP_15 => pushInt 15 | .OP_16 => pushInt 16
  -- control
  | .OP_NOP => .ok (.next m)
  | .OP_CHECKLOCKTIMEVERIFY =>
    if !env.flags.SCRIPT_VERIFY_CHECKLOCKTIMEVERIFY then .ok (.next m) else
    match m.stack with
    | [] => fail .INVALID_STACK_OPERATION m
    | top :: _ => do
      let nLockTime ← CScriptNum.ofSpan top 5
      if nLockTime.value < 0 then fail .NEGATIVE_LOCKTIME m
      else if !env.checker.CheckLockTime nLockTime then fail .UNSATISFIED_LOCKTIME m
      else .ok (.next m)
  | .OP_CHECKSEQUENCEVERIFY =>
    if !env.flags.SCRIPT_VERIFY_CHECKSEQUENCEVERIFY then .ok (.next m) else
    match m.stack with
    | [] => fail .INVALID_STACK_OPERATION m
    | top :: _ => do
      let nSequence ← CScriptNum.ofSpan top 5
      if nSequence.value < 0 then fail .NEGATIVE_LOCKTIME m
      else if nSequence.value.toNat &&& 2 ^ 31 ≠ 0 then .ok (.next m)
      else if !env.checker.CheckSequence nSequence then fail .UNSATISFIED_LOCKTIME m
      else .ok (.next m)
  | .OP_NOP1 | .OP_NOP4 | .OP_NOP5 | .OP_NOP6 | .OP_NOP7 | .OP_NOP8 | .OP_NOP9 | .OP_NOP10 =>
    if env.flags.SCRIPT_VERIFY_DISCOURAGE_UPGRADABLE_NOPS then fail .DISCOURAGE_UPGRADABLE_NOPS m
    else .ok (.next m)
  | .OP_IF => execIf fExec false m
  | .OP_NOTIF => execIf fExec true m
  | .OP_ELSE =>
    if m.vfExec.empty then fail .UNBALANCED_CONDITIONAL m
    else .ok (.next { m with vfExec := m.vfExec.toggle_top })
  | .OP_ENDIF =>
    if m.vfExec.empty then fail .UNBALANCED_CONDITIONAL m
    else .ok (.next { m with vfExec := m.vfExec.pop_back })
  | .OP_VERIFY =>
    match m.stack with
    | [] => fail .INVALID_STACK_OPERATION m
    | top :: rest => if castToBool top then next m rest else fail .VERIFY m
  | .OP_RETURN => if m.stack.isEmpty then .ok (.stop true .OK m) else fail .OP_RETURN m
  -- stack ops
  | .OP_TOALTSTACK =>
    match m.stack with
    | [] => fail .INVALID_STACK_OPERATION m
    | top :: rest => .ok (.next { m with stack := rest, altstack := top :: m.altstack })
  | .OP_FROMALTSTACK =>
    match m.altstack with
    | [] => fail .INVALID_ALTSTACK_OPERATION m
    | top :: rest => .ok (.next { m with stack := top :: m.stack, altstack := rest })
  | .OP_2DROP =>
    match m.stack with
    | _ :: _ :: rest => next m rest
    | _ => fail .INVALID_STACK_OPERATION m
  | .OP_2DUP =>
    match m.stack with
    | x2 :: x1 :: rest => next m (x2 :: x1 :: x2 :: x1 :: rest)
    | _ => fail .INVALID_STACK_OPERATION m
  | .OP_3DUP =>
    match m.stack with
    | x3 :: x2 :: x1 :: rest => next m (x3 :: x2 :: x1 :: x3 :: x2 :: x1 :: rest)
    | _ => fail .INVALID_STACK_OPERATION m
  | .OP_2OVER =>
    match m.stack with
    | x4 :: x3 :: x2 :: x1 :: rest => next m (x2 :: x1 :: x4 :: x3 :: x2 :: x1 :: rest)
    | _ => fail .INVALID_STACK_OPERATION m
  | .OP_2ROT =>
    match m.stack with
    | x6 :: x5 :: x4 :: x3 :: x2 :: x1 :: rest => next m (x2 :: x1 :: x6 :: x5 :: x4 :: x3 :: rest)
    | _ => fail .INVALID_STACK_OPERATION m
  | .OP_2SWAP =>
    match m.stack with
    | x4 :: x3 :: x2 :: x1 :: rest => next m (x2 :: x1 :: x4 :: x3 :: rest)
    | _ => fail .INVALID_STACK_OPERATION m
  | .OP_IFDUP =>
    match m.stack with
    | [] => fail .INVALID_STACK_OPERATION m
    | x :: rest => next m (if castToBool x then x :: x :: rest else x :: rest)
  | .OP_DEPTH => next m ((CScriptNum.big m.stack.length).getvch :: m.stack)
  | .OP_DROP =>
    match m.stack with
    | [] => fail .INVALID_STACK_OPERATION m
    | _ :: rest => next m rest
  | .OP_DUP =>
    match m.stack with
    | [] => fail .INVALID_STACK_OPERATION m
    | x :: rest => next m (x :: x :: rest)
  | .OP_NIP =>
    match m.stack with
    | x2 :: _ :: rest => next m (x2 :: rest)
    | _ => fail .INVALID_STACK_OPERATION m
  | .OP_OVER =>
    match m.stack with
    | x2 :: x1 :: rest => next m (x1 :: x2 :: x1 :: rest)
    | _ => fail .INVALID_STACK_OPERATION m
  | .OP_PICK => execPickRoll false m
  | .OP_ROLL => execPickRoll true m
  | .OP_ROT =>
    match m.stack with
    | x3 :: x2 :: x1 :: rest => next m (x1 :: x3 :: x2 :: rest)
    | _ => fail .INVALID_STACK_OPERATION m
  | .OP_SWAP =>
    match m.stack with
    | x2 :: x1 :: rest => next m (x1 :: x2 :: rest)
    | _ => fail .INVALID_STACK_OPERATION m
  | .OP_TUCK =>
    match m.stack with
    | x2 :: x1 :: rest => next m (x2 :: x1 :: x2 :: rest)
    | _ => fail .INVALID_STACK_OPERATION m
  | .OP_SIZE =>
    match m.stack with
    | [] => fail .INVALID_STACK_OPERATION m
    | x :: rest => next m ((CScriptNum.big x.length).getvch :: x :: rest)
  -- bitwise logic
  | .OP_AND | .OP_OR | .OP_XOR =>
    match m.stack with
    | vch2 :: vch1 :: rest =>
      if vch1.length ≠ vch2.length then fail .INVALID_OPERAND_SIZE m
      else
        let op : UInt8 → UInt8 → UInt8 := match opcode with
          | .OP_AND => (· &&& ·) | .OP_OR => (· ||| ·) | _ => (· ^^^ ·)
        next m (List.zipWith op vch1 vch2 :: rest)
    | _ => fail .INVALID_STACK_OPERATION m
  | .OP_INVERT =>
    match m.stack with
    | [] => fail .INVALID_STACK_OPERATION m
    | x :: rest => next m (x.map (~~~·) :: rest)
  | .OP_LSHIFT => execShift lShift m
  | .OP_RSHIFT => execShift rShift m
  | .OP_EQUAL | .OP_EQUALVERIFY =>
    match m.stack with
    | vch2 :: vch1 :: rest =>
      let fEqual := vch1 == vch2
      match opcode with
      | .OP_EQUALVERIFY =>
        if fEqual then next m rest
        else fail .EQUALVERIFY { m with stack := vchBool false :: rest }
      | _ => next m (vchBool fEqual :: rest)
    | [_] => fail .INVALID_STACK_OPERATION m
    | [] => .error (.obj .outOfRange)
  -- numeric
  | .OP_1ADD | .OP_1SUB | .OP_NEGATE | .OP_ABS | .OP_NOT | .OP_0NOTEQUAL =>
    match m.stack with
    | [] => fail .INVALID_STACK_OPERATION m
    | top :: rest => do
      let bn ← unaryNumeric opcode (← num top)
      next m (bn.getvch :: rest)
  | .OP_ADD | .OP_SUB | .OP_MUL | .OP_DIV | .OP_MOD | .OP_BOOLAND | .OP_BOOLOR | .OP_NUMEQUAL
  | .OP_NUMEQUALVERIFY | .OP_NUMNOTEQUAL | .OP_LESSTHAN | .OP_GREATERTHAN | .OP_LESSTHANOREQUAL
  | .OP_GREATERTHANOREQUAL | .OP_MIN | .OP_MAX =>
    match m.stack with
    | vch2 :: vch1 :: rest => do
      let bn1 ← num vch1
      let bn2 ← num vch2
      match ← binaryNumeric opcode bn1 bn2 with
      | .error e => fail e m
      | .ok bn =>
        match opcode with
        | .OP_NUMEQUALVERIFY =>
          if castToBool bn.getvch then next m rest
          else fail .NUMEQUALVERIFY { m with stack := bn.getvch :: rest }
        | _ => next m (bn.getvch :: rest)
    | _ => fail .INVALID_STACK_OPERATION m
  | .OP_WITHIN =>
    match m.stack with
    | x3 :: x2 :: x1 :: rest => do
      let bn1 ← num x1
      let bn2 ← num x2
      let bn3 ← num x3
      next m (vchBool (bn2.value ≤ bn1.value && bn1.value < bn3.value) :: rest)
    | _ => fail .INVALID_STACK_OPERATION m
  -- crypto
  | .OP_RIPEMD160 | .OP_SHA1 | .OP_SHA256 | .OP_HASH160 | .OP_HASH256 =>
    match m.stack with
    | [] => fail .INVALID_STACK_OPERATION m
    | vch :: rest => do next m ((← cryptoHash env.hashes opcode vch) :: rest)
  | .OP_CHECKDATASIG => execCheckDataSig env false m
  | .OP_CHECKDATASIGVERIFY => execCheckDataSig env true m
  | .OP_CHECKAUTHSIG => execCheckAuthSig env false m
  | .OP_CHECKAUTHSIGVERIFY => execCheckAuthSig env true m
  -- byte strings
  | .OP_CAT =>
    match m.stack with
    | vch2 :: vch1 :: rest =>
      if vch1.length + vch2.length > MAX_SCRIPT_ELEMENT_SIZE then fail .PUSH_SIZE m
      else next m ((vch1 ++ vch2) :: rest)
    | _ => fail .INVALID_STACK_OPERATION m
  | .OP_SPLIT =>
    match m.stack with
    | vch2 :: data :: rest => do
      let n ← num vch2
      if n.value < 0 ∨ n.value > data.length then fail .INVALID_SPLIT_RANGE m else
      let position ← n.getSizeType
      next m (data.drop position :: data.take position :: rest)
    | _ => fail .INVALID_STACK_OPERATION m
  | .OP_REVERSEBYTES =>
    match m.stack with
    | [] => fail .INVALID_STACK_OPERATION m
    | data :: rest => next m (data.reverse :: rest)
  | .OP_NUM2BIN => execNum2Bin m
  | .OP_BIN2NUM =>
    match m.stack with
    | [] => fail .INVALID_STACK_OPERATION m
    | x :: rest =>
      let n := minimallyEncode x
      if !isMinimallyEncoded n MAXIMUM_ITEM_SIZE then
        fail .INVALID_NUMBER_RANGE { m with stack := n :: rest }
      else next m (n :: rest)
  -- native introspection
  | .OP_TXVERSION | .OP_TXINPUTCOUNT | .OP_TXOUTPUTCOUNT | .OP_TXLOCKTIME =>
    needContext fun ctx => execIntrospectionNullary ctx opcode m
  | .OP_OUTPOINTTXHASH | .OP_OUTPOINTINDEX | .OP_OUTPUTVALUE | .OP_OUTPUTBYTECODE
  | .OP_INPUTBYTECODE | .OP_INPUTSEQUENCENUMBER =>
    needContext fun ctx =>
      match m.stack with
      | [] => fail .INVALID_STACK_OPERATION m
      | top :: rest => do
        let index := (← num top).getint
        execIntrospectionUnary ctx opcode index { m with stack := rest }
  -- AVM opcodes
  | .OP_FT_COUNT | .OP_NFT_COUNT | .OP_NFT_PUT | .OP_FT_BALANCE_ADD =>
    needContext fun _ =>
      match m.stack with
      | [] => fail .INVALID_STACK_OPERATION m
      | n :: rest => execAvmUnary opcode n rest m
  | .OP_KV_EXISTS | .OP_KV_GET | .OP_KV_DELETE | .OP_NFT_WITHDRAW | .OP_HASH_FN
  | .OP_GETBLOCKINFO | .OP_DECODEBLOCKINFO | .OP_FT_BALANCE | .OP_FT_ITEM | .OP_NFT_ITEM
  | .OP_NFT_EXISTS =>
    needContext fun ctx =>
      match m.stack with
      | vch2 :: vch1 :: rest => execAvmBinary env ctx opcode vch2 vch1 rest m
      | _ => fail .INVALID_STACK_OPERATION m
  | .OP_KV_PUT | .OP_FT_WITHDRAW =>
    needContext fun ctx =>
      match m.stack with
      | vch3 :: vch2 :: vch1 :: rest => execAvmTernary ctx opcode vch3 vch2 vch1 rest m
      | _ => fail .INVALID_STACK_OPERATION m
  | _ => fail .BAD_OPCODE m

/-! ## Section 5: the loop -/

/-- The check of the stack depth at the end of each turn of the loop. -/
def checkStackSize : StepResult → Except Thrown StepResult
  | .next m' =>
    if m'.stack.length + m'.altstack.length > MAX_STACK_SIZE then fail .STACK_SIZE m'
    else .ok (.next m')
  | r => .ok r

/-- The machine after the opcode count: it counts every opcode above
    `OP_16`. -/
def countOp (opcode : UInt8) (m : Machine) : Machine :=
  if opcode > OP_16 then { m with nOpCount := m.nOpCount + 1 } else m

/-- One turn of the loop of `EvalScript`, on what `GetScriptOp` read. -/
def step (env : Env) (op : Option (UInt8 × Valtype)) (m : Machine) : Except Thrown StepResult :=
  match op with
  | none => fail .BAD_OPCODE m
  | some (opcode, vchPushValue) =>
    let fExec := m.vfExec.all_true
    if vchPushValue.length > MAX_SCRIPT_ELEMENT_SIZE then fail .PUSH_SIZE m else
    let m := countOp opcode m
    if opcode > OP_16 ∧ m.nOpCount > MAX_OPS_PER_SCRIPT then fail .OP_COUNT m else
    if isOpcodeDisabled opcode then fail .DISABLED_OPCODE m else do
    let r ←
      if fExec ∧ opcode ≤ OP_PUSHDATA4 then
        if !checkMinimalPush vchPushValue opcode then fail .MINIMALDATA m
        else next m (vchPushValue :: m.stack)
      else if fExec ∨ (OP_IF ≤ opcode ∧ opcode ≤ OP_ENDIF) then
        execOpcode env fExec (Opcode.ofByte opcode) m
      else .ok (.next m)
    checkStackSize r

/-- What `EvalScript` returns and leaves: its result, the error it sets,
    the index of the last instruction it read, the stack, and the state
    context. -/
structure EvalResult where
  success : Bool
  serror : ScriptError
  opNum : Nat
  stack : List Valtype
  stateContext : ScriptStateContext

/-- The two handlers around the loop: the error a caught exception sets. -/
def catchHandlers : Thrown → Option ScriptError
  | .obj .bigInt => some .SCRIPT_ERR_BIG_INT
  | .obj e => if e.isStdException then some .UNKNOWN else none
  | _ => none

/-- The loop over the reads, numbering them from `opCounter`. -/
def evalOps (env : Env) : List (Option (UInt8 × Valtype)) → Nat → Machine → Except Thrown EvalResult
  | [], opCounter, m =>
    .ok (if !m.vfExec.empty then ⟨false, .UNBALANCED_CONDITIONAL, opCounter - 1, m.stack, m.stateContext⟩
      else ⟨true, .OK, opCounter - 1, m.stack, m.stateContext⟩)
  | op :: ops, opCounter, m =>
    match step env op m with
    | .ok (.next m') => evalOps env ops (opCounter + 1) m'
    | .ok (.stop success e m') => .ok ⟨success, e, opCounter, m'.stack, m'.stateContext⟩
    | .error t =>
      match catchHandlers t with
      | some e => .ok ⟨false, e, opCounter, m.stack, m.stateContext⟩
      | none => .error t

/-- The machine `EvalScript` starts from: the given stack, an empty alt
    stack, no open branch and no opcode counted. -/
def Machine.start (stack : List Valtype) (stateContext : ScriptStateContext) : Machine :=
  ⟨stack, [], .init, 0, stateContext⟩

/-- `EvalScript`. -/
def evalScript (env : Env) (stack : List Valtype) (script : Valtype)
    (stateContext : ScriptStateContext) : Except Thrown EvalResult :=
  if script.length > MAX_SCRIPT_SIZE then .ok ⟨false, .SCRIPT_SIZE, 0, stack, stateContext⟩
  else evalOps env (scriptOps script) 0 (.start stack stateContext)

/-- `VerifyScriptAvm`: the unlocking script, which must be push-only, then
    the locking script on the stack it leaves, which must end with a single
    true value. -/
def verifyScriptAvm (env : Env) (scriptSig scriptPubKey : Valtype)
    (stateContext : ScriptStateContext) : Except Thrown EvalResult := do
  if !isPushOnly scriptSig then return ⟨false, .SIG_PUSHONLY, 0, [], stateContext⟩
  let r ← evalScript env [] scriptSig stateContext
  if !r.success then return r
  let r ← evalScript env r.stack scriptPubKey r.stateContext
  if !r.success then return r
  match r.stack with
  | [] => return { r with serror := .EVAL_FALSE, success := false }
  | top :: rest =>
    if !castToBool top then return { r with serror := .EVAL_FALSE, success := false }
    else if !rest.isEmpty then return { r with serror := .CLEANSTACK, success := false }
    else return r

/-! ## Section 6: one turn of the loop -/

/-- The loop reaches the `switch` on the opcode of this read, in an executed
    branch: the push is within the size cap, the opcode count within its
    cap, and the opcode is enabled and is not a data push. -/
structure Dispatches (opcode : UInt8) (vch : Valtype) (m : Machine) : Prop where
  push_size : vch.length ≤ MAX_SCRIPT_ELEMENT_SIZE
  op_count : OP_16 < opcode → m.nOpCount + 1 ≤ MAX_OPS_PER_SCRIPT
  enabled : isOpcodeDisabled opcode = false
  executed : m.vfExec.all_true = true
  not_push : OP_PUSHDATA4 < opcode

@[simp] theorem countOp_stack (opcode : UInt8) (m : Machine) :
    (countOp opcode m).stack = m.stack := by
  unfold countOp; split <;> rfl

@[simp] theorem countOp_stateContext (opcode : UInt8) (m : Machine) :
    (countOp opcode m).stateContext = m.stateContext := by
  unfold countOp; split <;> rfl

/-- A dispatched read runs the opcode on the counted machine, then the
    depth check. -/
theorem step_of_dispatches (env : Env) {opcode : UInt8} {vch : Valtype} {m : Machine}
    (h : Dispatches opcode vch m) :
    step env (some (opcode, vch)) m =
      execOpcode env true (Opcode.ofByte opcode) (countOp opcode m) >>= checkStackSize := by
  have hcount : ¬(opcode > OP_16 ∧ (countOp opcode m).nOpCount > MAX_OPS_PER_SCRIPT) := by
    rintro ⟨hgt, hover⟩
    simp only [countOp, hgt, if_true] at hover
    have := h.op_count hgt
    omega
  have hpush : ¬vch.length > MAX_SCRIPT_ELEMENT_SIZE := Nat.not_lt.mpr h.push_size
  have hdata : ¬opcode ≤ OP_PUSHDATA4 := UInt8.not_le.mpr h.not_push
  simp only [step, hpush, hcount, h.enabled, h.executed, hdata, if_false, Bool.false_eq_true,
    true_and, true_or, if_true]

section EvalOps

variable {env : Env} {op : Option (UInt8 × Valtype)} {ops : List (Option (UInt8 × Valtype))}
  {k : Nat} {m : Machine}

theorem evalOps_cons_of_next {m' : Machine} (h : step env op m = .ok (.next m')) :
    evalOps env (op :: ops) k m = evalOps env ops (k + 1) m' := by
  simp only [evalOps, h]

theorem evalOps_cons_of_stop {success : Bool} {e : ScriptError} {m' : Machine}
    (h : step env op m = .ok (.stop success e m')) :
    evalOps env (op :: ops) k m = .ok ⟨success, e, k, m'.stack, m'.stateContext⟩ := by
  simp only [evalOps, h]

theorem evalOps_cons_of_error {t : Thrown} (h : step env op m = .error t) :
    evalOps env (op :: ops) k m = match catchHandlers t with
      | some e => .ok ⟨false, e, k, m.stack, m.stateContext⟩
      | none => .error t := by
  simp only [evalOps, h]

end EvalOps

/-! ## Section 7: an environment for examples -/

/-- Hash functions that return zero bytes of the right widths. -/
def zeroHashes : Hashes where
  ripemd160 _ := List.replicate 20 0
  sha1 _ := List.replicate 20 0
  sha256 _ := List.replicate 32 0
  sha3_256 _ := List.replicate 32 0
  sha512 _ := List.replicate 64 0
  sha512_256 _ := List.replicate 32 0
  eaglesong _ := List.replicate 32 0
  ripemd160_size _ := List.length_replicate _ _
  sha1_size _ := List.length_replicate _ _
  sha256_size _ := List.length_replicate _ _
  sha3_256_size _ := List.length_replicate _ _
  sha512_size _ := List.length_replicate _ _
  sha512_256_size _ := List.length_replicate _ _
  eaglesong_size _ := List.length_replicate _ _

/-- An environment with a context of an empty version-2 transaction and no
    public key, a checker that accepts nothing, and encoding checks that
    accept everything. -/
def sampleEnv : Env where
  flags := ⟨true, true, false⟩
  checker := ⟨fun _ _ _ => false, fun _ => false, fun _ => false⟩
  context := some ⟨⟨2, [], [], 0⟩, [], []⟩
  hashes := zeroHashes
  checkDataSignatureEncoding _ := none
  checkPubKeyEncoding _ := none

/-- The context the constructor builds from empty maps and no headers. -/
def emptyContext : ScriptStateContext :=
  ScriptStateContext.ofInputs .empty .empty .empty .empty .empty ⟨[], 0⟩

end Avm
