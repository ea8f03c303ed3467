import StackMachine.TextFormat.Writer
import StackMachine.Container
import StackMachine.Main
import StackMachine.Proofs.Delivery
import StackMachine.Proofs.BinaryRoundTrip
import StackMachine.Proofs.TextLines
import StackMachine.Proofs.TextRoundTrip
import StackMachine.Proofs.MachineStep
import StackMachine.Proofs.Reachability
import StackMachine.Proofs.BalancedStack
import StackMachine.Proofs.BinaryImage
import StackMachine.Proofs.BinaryFraming
import StackMachine.Proofs.BinaryNormalForm
import StackMachine.Proofs.LexicalRules
import StackMachine.Proofs.TextGrammar
import StackMachine.Proofs.Schedules
import StackMachine.Proofs.Lockstep
import StackMachine.Proofs.Configurations
import StackMachine.Proofs.LimitedOutput
import StackMachine.Proofs.TextReencoding
import StackMachine.Proofs.ReadSet
import StackMachine.Proofs.StoreHistory
import StackMachine.Proofs.TextErrors
import StackMachine.Proofs.TextFraming
import StackMachine.Proofs.UnfinishedWrites
import StackMachine.Proofs.EmittedBinary
import StackMachine.Proofs.Renaming
import StackMachine.Proofs.EventTrace
import StackMachine.Proofs.FaultFootprint
import StackMachine.Proofs.Snapshots
import StackMachine.Proofs.ExactArithmetic
import StackMachine.Proofs.ForwardJumps
import StackMachine.Proofs.CountingLoop
import StackMachine.Proofs.LineEnds
import StackMachine.Proofs.TextNormalForm
import StackMachine.Proofs.DistinctListings
