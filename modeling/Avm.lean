import Avm.Bytes
import Avm.JsonMap
import Avm.Error
import Avm.ScriptNum
import Avm.BlockInfo
import Avm.StateContext
import Avm.StateValidation
import Avm.StateRun
import Avm.StateHash
import Avm.Consensus
import Avm.Script
import Avm.Interpreter
import Avm.Underflow
import Avm.KvStore
import Avm.Escapes
import Avm.ElementSize
import Avm.Conditions
import Avm.Frame
import Avm.Withdraw
import Avm.TokenOps
import Avm.TxReads
import Avm.MinimalEncoding
import Avm.Shifts
import Avm.TokenQueries
import Avm.Pushes
import Avm.BlockHeaders
import Avm.Branches
import Avm.Nesting
import Avm.Flags
import Avm.Verify
import Avm.Builder
import Avm.Numeric
import Avm.Splice
