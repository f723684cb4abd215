import Avm.ScriptNum

/-! # The external block-info table

    The state context carries a table of block headers keyed by height, read
    by `OP_GETBLOCKINFO`; `OP_DECODEBLOCKINFO` decodes a header given on the
    stack.  The header is the fixed 80-byte Bitcoin layout.  primitives/block.h
    and util/strencodings are not in the repository, so the header record,
    its reading and `IsHex` are modelled from the spec, and the difficulty,
    which the code computes in floating point, is a parameter of the getters
    that return it.
-/

namespace Avm

/-- The little-endian value of bytes. -/
def leValue : Valtype → Nat
  | [] => 0
  | b :: bs => b.toNat + 256 * leValue bs

/-- Modelled from the spec: `CBlockHeader`, the fields of an 80-byte header. -/
structure CBlockHeader where
  nVersion : BitVec 32
  hashPrevBlock : Valtype
  hashMerkleRoot : Valtype
  nTime : UInt32
  nBits : UInt32
  nNonce : UInt32
  deriving DecidableEq, Repr

/-- Modelled from the spec: `stream >> header`, which reads the first 80
    bytes and fails on fewer. -/
def readHeader (d : Valtype) : Option CBlockHeader :=
  if d.length < 80 then none
  else some
    { nVersion := BitVec.ofNat 32 (leValue (d.take 4))
      hashPrevBlock := (d.drop 4).take 32
      hashMerkleRoot := (d.drop 36).take 32
      nTime := UInt32.ofNat (leValue ((d.drop 68).take 4))
      nBits := UInt32.ofNat (leValue ((d.drop 72).take 4))
      nNonce := UInt32.ofNat (leValue ((d.drop 76).take 4)) }

/-- Modelled from the spec: `IsHex`, a non-empty even-length string of hex
    digits of either case. -/
def isHex (s : String) : Bool :=
  s.data.all (fun c => (hexValue c).isSome) && s.length % 2 == 0 && 0 < s.length

/-- `DecodeHexBlockHeaderDup` (script_execution_context.h). -/
def decodeHexBlockHeaderDup (hexHeader : String) : Option CBlockHeader :=
  if !isHex hexHeader then none else readHeader (parseHex hexHeader)

/-- `ExternalBlockInfoStruct`: a decoded header with its height and raw bytes. -/
structure ExternalBlockInfoStruct where
  header : CBlockHeader
  height : UInt32
  headerHex : Valtype
  deriving DecidableEq, Repr

/-- `ContractStateExternalStruct`: the headers by height
    (`std::map<uint32_t, ExternalBlockInfoStruct>`) and the current height. -/
structure ContractStateExternalStruct where
  headers : List (UInt32 × ExternalBlockInfoStruct)
  currentHeight : UInt32
  deriving DecidableEq, Repr

namespace ContractStateExternalStruct

/-- The height a request names: `0` stands for the current height. -/
def revisedHeight (e : ContractStateExternalStruct) (height : UInt32) : UInt32 :=
  if height = 0 then e.currentHeight else height

/-- `isAllowedBlockInfoHeight`. -/
def isAllowedBlockInfoHeight (e : ContractStateExternalStruct) (height : UInt32) : Bool :=
  (e.headers.lookup (e.revisedHeight height)).isSome

/-- `getBlockInfoByHeight`: throws a pointer (`throw new`) when the height
    has no header. -/
def getBlockInfoByHeight (e : ContractStateExternalStruct) (height : UInt32) :
    Except Thrown CBlockHeader :=
  match e.headers.lookup (e.revisedHeight height) with
  | some info => .ok info.header
  | none => .error (.ptr .invalidBlockInfoHeight)

/-- The common shape of the `getCurrentBlockInfo*` getters: a pointer is
    thrown when the height is not allowed, and the field is read from the
    header or the table entry otherwise. -/
def getCurrentBlockInfo {α : Type} (e : ContractStateExternalStruct) (height : UInt32)
    (field : ExternalBlockInfoStruct → α) : Except Thrown α :=
  if !e.isAllowedBlockInfoHeight height then .error (.ptr .invalidBlockInfoHeight)
  else match e.headers.lookup (e.revisedHeight height) with
    | some info => .ok (field info)
    | none => .error (.ptr .invalidBlockInfoHeight)

/-- `getCurrentBlockInfoHeader`: the raw header bytes. -/
def getCurrentBlockInfoHeader (e : ContractStateExternalStruct) (height : UInt32) :
    Except Thrown Valtype :=
  e.getCurrentBlockInfo height (·.headerHex)

/-- `getCurrentBlockInfoHeight`: the height that was looked up. -/
def getCurrentBlockInfoHeight (e : ContractStateExternalStruct) (height : UInt32) :
    Except Thrown UInt32 :=
  if !e.isAllowedBlockInfoHeight height then .error (.ptr .invalidBlockInfoHeight)
  else .ok (e.revisedHeight height)

/-- A missing height makes every getter throw a pointer. -/
theorem getCurrentBlockInfo_of_missing {α : Type} (e : ContractStateExternalStruct)
    {height : UInt32} (h : e.headers.lookup (e.revisedHeight height) = none)
    (field : ExternalBlockInfoStruct → α) :
    e.getCurrentBlockInfo height field = .error (.ptr .invalidBlockInfoHeight) := by
  simp [getCurrentBlockInfo, isAllowedBlockInfoHeight, h]

theorem getCurrentBlockInfoHeight_of_missing (e : ContractStateExternalStruct)
    {height : UInt32} (h : e.headers.lookup (e.revisedHeight height) = none) :
    e.getCurrentBlockInfoHeight height = .error (.ptr .invalidBlockInfoHeight) := by
  simp [getCurrentBlockInfoHeight, isAllowedBlockInfoHeight, h]

end ContractStateExternalStruct

end Avm
