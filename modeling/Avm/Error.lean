import Avm.JsonMap

/-! # Errors and exceptions

    The interpreter reports failures as `ScriptError` values and the
    consensus entry point as `atomicalsconsensus_error` codes.  Beneath them
    the C++ code throws exceptions, and how a `throw` is caught depends on
    what is thrown: `throw E()` raises an object, which a handler for `E` or
    for one of its public bases catches, while `throw new E()` raises a
    pointer, which no handler of this code catches.  A failed `assert`
    aborts the process.
-/

namespace Avm

/-- `ScriptError` (script_error.h). -/
inductive ScriptError
  | OK | UNKNOWN | EVAL_FALSE | OP_RETURN
  | SCRIPT_SIZE | PUSH_SIZE | OP_COUNT | STACK_SIZE | SIG_COUNT | PUBKEY_COUNT
  | INPUT_SIGCHECKS
  | INVALID_OPERAND_SIZE | INVALID_NUMBER_RANGE | IMPOSSIBLE_ENCODING
  | INVALID_SPLIT_RANGE | INVALID_BIT_COUNT
  | VERIFY | EQUALVERIFY | CHECKMULTISIGVERIFY | CHECKSIGVERIFY | CHECKDATASIGVERIFY
  | NUMEQUALVERIFY
  | BAD_OPCODE | DISABLED_OPCODE | INVALID_STACK_OPERATION | INVALID_ALTSTACK_OPERATION
  | UNBALANCED_CONDITIONAL
  | DIV_BY_ZERO | MOD_BY_ZERO
  | INVALID_BITFIELD_SIZE | INVALID_BIT_RANGE
  | NEGATIVE_LOCKTIME | UNSATISFIED_LOCKTIME
  | SIG_HASHTYPE | SIG_DER | MINIMALDATA | SIG_PUSHONLY | SIG_HIGH_S | PUBKEYTYPE
  | CLEANSTACK | MINIMALIF | SIG_NULLFAIL
  | SIG_BADLENGTH | SIG_NONSCHNORR
  | DISCOURAGE_UPGRADABLE_NOPS
  | ILLEGAL_FORKID | MUST_USE_FORKID
  | SIGCHECKS_LIMIT_EXCEEDED
  | INVALID_NUMBER_RANGE_64_BIT
  | CONTEXT_NOT_PRESENT | LIMITED_CONTEXT_NO_SIBLING_INFO
  | INVALID_TX_INPUT_INDEX | INVALID_TX_OUTPUT_INDEX
  | INVALID_NOP1 | INVALID_NOP2 | INVALID_NOP3 | INVALID_NOP4 | INVALID_NOP5 | INVALID_NOP6
  | ERROR_COUNT
  | INVALID_ATOMICAL_REF_SIZE | INVALID_AVM_STATE_KEY_NOT_FOUND
  | INVALID_AVM_WITHDRAW_FT_AMOUNT | INVALID_AVM_WITHDRAW_FT
  | INVALID_AVM_WITHDRAW_FT_OUTPUT_INDEX | INVALID_AVM_WITHDRAW_NFT
  | INVALID_AVM_WITHDRAW_NFT_OUTPUT_INDEX | INVALID_AVM_INVALID_FT_ITEM_INDEX
  | INVALID_AVM_INVALID_NFT_ITEM_INDEX | INVALID_AVM_STATE_KEY_SIZE
  | INVALID_AVM_FT_BALANCE_TYPE | INVALID_AVM_NFT_EXISTS_TYPE | INVALID_AVM_NFT_ITEM_TYPE
  | INVALID_AVM_FT_ITEM_TYPE | INVALID_AVM_FT_COUNT_TYPE | INVALID_AVM_NFT_COUNT_TYPE
  | INVALID_AVM_INVALID_BLOCKINFO_ITEM | INVALID_AVM_BLOCK_HEADER_SIZE
  | INVALID_AVM_CHECKTXINBLOCK_ERROR | INVALID_AVM_TXID_SIZE | INVALID_AVM_HASH_FUNC
  | INVALID_AVM_FT_BALANCE_ADD_INVALID | INVALID_AVM_NFT_PUT_INVALID
  | INVALID_AVM_AUTH_INVALID_INDEX | INVALID_AVM_AUTH_INVALID_NAMESPACE
  | INVALID_AVM_CHECKAUTHSIG | INVALID_AVM_CHECKAUTHSIGVERIFY | INVALID_AVM_CHECKAUTHSIGNULL
  | SCRIPT_ERR_BIG_INT
  deriving DecidableEq, Repr

/-- `atomicalsconsensus_error` (atomicalsconsensus.h). -/
inductive AtomicalsconsensusError
  | ERR_OK | ERR_TX_INDEX | ERR_TX_SIZE_MISMATCH | ERR_INVALID_FLAGS
  | ERR_INVALID_FT_WITHDRAW | ERR_INVALID_NFT_WITHDRAW
  | ERR_STATE_SIZE_ERROR | ERR_STATE_UPDATES_SIZE_ERROR | ERR_STATE_DELETES_SIZE_ERROR
  | ERR_STATE_FT_BALANCES_SIZE_ERROR | ERR_STATE_FT_BALANCES_UPDATES_SIZE_ERROR
  | ERR_STATE_NFT_BALANCES_SIZE_ERROR | ERR_STATE_NFT_BALANCES_UPDATES_SIZE_ERROR
  deriving DecidableEq, Repr

/-- The exception classes the modelled code throws. -/
inductive Exception
  /-- `ScriptnumOverflowException`, a `std::overflow_error`. -/
  | scriptnumOverflow
  /-- `ScriptnumMinimalEncodingException`, a `std::runtime_error`. -/
  | scriptnumMinimalEncoding
  /-- `avm::BigIntException`, whose `std::runtime_error` base is private. -/
  | bigInt
  /-- `std::out_of_range`, from `std::vector::at` in `stacktop`. -/
  | outOfRange
  /-- The `std::runtime_error` of `popstack` on an empty stack. -/
  | popstackEmpty
  /-- `InvalidBlockInfoHeight`. -/
  | invalidBlockInfoHeight
  /-- `HeaderDecodeError`. -/
  | headerDecode
  /-- `HeaderKeyNotFoundError`. -/
  | headerKeyNotFound
  /-- `HeightKeyNotFoundError`. -/
  | heightKeyNotFound
  /-- `HeightInvalidError`. -/
  | heightInvalid
  /-- `CurrentHeaderDecodeError`. -/
  | currentHeaderDecode
  /-- `StateValidationStateSizeLimitError`. -/
  | stateSizeLimit
  /-- `StateValidationStateUpdateSizeLimitError`. -/
  | stateUpdateSizeLimit
  /-- `StateValidationStateDeleteSizeLimitError`. -/
  | stateDeleteSizeLimit
  /-- `StateValidationTokenFtBalanceSizeLimitError`. -/
  | ftBalanceSizeLimit
  /-- `StateValidationTokenFtBalanceUpdateSizeLimitError`. -/
  | ftBalanceUpdateSizeLimit
  /-- `StateValidationTokenNftBalanceSizeLimitError`. -/
  | nftBalanceSizeLimit
  /-- `StateValidationTokenNftBalanceUpdateSizeLimitError`. -/
  | nftBalanceUpdateSizeLimit
  /-- `StateValidationStateFormatError`. -/
  | stateFormat
  /-- `StateValidationStateDeleteFormatError`. -/
  | stateDeleteFormat
  /-- `StateValidationTokenFtBalanceFormatError`. -/
  | ftBalanceFormat
  /-- `StateValidationTokenFtBalanceZeroFormatError`. -/
  | ftBalanceZeroFormat
  /-- `StateValidationTokenNftBalanceFormatError`. -/
  | nftBalanceFormat
  deriving DecidableEq, Repr

/-- Whether `catch (const std::exception &)` catches an object of this class:
    every class here derives publicly from `std::exception` but
    `avm::BigIntException`. -/
def Exception.isStdException : Exception → Bool
  | .bigInt => false
  | _ => true

/-- How a call ends when it does not return. -/
inductive Thrown
  /-- `throw E()`. -/
  | obj (e : Exception)
  /-- `throw new E()`: a pointer, caught by none of the handlers here. -/
  | ptr (e : Exception)
  /-- A failed `assert`: the process aborts. -/
  | abort
  /-- Undefined behaviour: a loop advances an iterator that an `erase` in
      its body has invalidated.  The C++ standard gives the run no meaning
      from there on; in practice it reads freed memory or crashes. -/
  | undefined
  deriving DecidableEq, Repr

end Avm
