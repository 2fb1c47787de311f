import Guarded.Main
import Guarded.Script.Run
import Guarded.Sink.Room
import Guarded.Proofs.Script.Invariant
import Guarded.Proofs.Script.Limit
import Guarded.Proofs.Script.Unwinding
import Guarded.Proofs.Script.Cases
import Guarded.Proofs.Script.Coverage
import Guarded.Proofs.Script.Protocol
import Guarded.Proofs.Script.Replay
import Guarded.Proofs.Arith.Division
import Guarded.Proofs.Arith.Assignment
import Guarded.Proofs.Arith.History
import Guarded.Proofs.Block.Nesting
import Guarded.Proofs.Block.LiveClauses
import Guarded.Proofs.Text.Decimal
import Guarded.Proofs.Script.PathText
import Guarded.Proofs.Script.Placement
import Guarded.Proofs.Script.Order
import Guarded.Proofs.Script.Evaluation
import Guarded.Proofs.Script.CaughtError
import Guarded.Proofs.Script.Silent
import Guarded.Proofs.Script.Rethrow
import Guarded.Proofs.Demo.Runs
import Guarded.Proofs.Builtin.Arguments
import Guarded.Proofs.Builtin.Variables
import Guarded.Proofs.Builtin.Libraries
import Guarded.Proofs.CommandLine.Environment
import Guarded.Proofs.CommandLine.StandardError
import Guarded.Proofs.Arith.ErrorText
import Guarded.Proofs.Settings.KeyPath
import Guarded.Proofs.Settings.Load
import Guarded.Proofs.Log.Line
import Guarded.Proofs.Text.Quoted
import Guarded.Proofs.CommandLine.LogLines
