import LoopBound.Grammar.Names
import LoopBound.Layout.Emitter
import LoopBound.Main
import LoopBound.Proofs.Command.Outcome
import LoopBound.Proofs.Grammar.Loops
import LoopBound.Proofs.Grammar.Termination
import LoopBound.Proofs.Grammar.Words
import LoopBound.Proofs.Guard.Batches
import LoopBound.Proofs.Guard.Message
import LoopBound.Proofs.Guard.Rounds
import LoopBound.Proofs.Guard.Supply
import LoopBound.Proofs.Layout.Uniform
import LoopBound.Proofs.Listing
import LoopBound.Proofs.Reading.Holes
import LoopBound.Proofs.Reading.Refusal
import LoopBound.Proofs.Reading.SameLine
import LoopBound.Proofs.Reading.Stop
import LoopBound.Proofs.Reading.Surround
import LoopBound.Proofs.Settings.Nulls
import LoopBound.Proofs.Settings.RoundTrip
import LoopBound.Proofs.Syntax.Pruning
import LoopBound.Proofs.Text.Offsets
import LoopBound.Session
import LoopBound.Syntax.HandlerName
import LoopBound.Syntax.Record
