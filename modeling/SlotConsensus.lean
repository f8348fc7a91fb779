import SlotConsensus.Block.Chain
import SlotConsensus.Block.Form
import SlotConsensus.Config.File
import SlotConsensus.Node
import SlotConsensus.Tracker.Run
import SlotConsensus.Proofs.Schedule.Slots
import SlotConsensus.Proofs.Schedule.Epochs
import SlotConsensus.Proofs.Schedule.Deadline
import SlotConsensus.Proofs.Schedule.Turns
import SlotConsensus.Proofs.Schedule.Shares
import SlotConsensus.Proofs.Except
import SlotConsensus.Proofs.Node.Gate
import SlotConsensus.Proofs.Node.Agreement
import SlotConsensus.Proofs.Node.Decision
import SlotConsensus.Proofs.Node.Rotation
import SlotConsensus.Proofs.Production
import SlotConsensus.Proofs.Tracker.Effect
import SlotConsensus.Proofs.Tracker.History
import SlotConsensus.Proofs.Tracker.Copies
import SlotConsensus.Proofs.Quorum
import SlotConsensus.Proofs.Tracker.Finality
import SlotConsensus.Proofs.Block.Layout
import SlotConsensus.Proofs.Block.Commitment
import SlotConsensus.Proofs.Tracker.Content
import SlotConsensus.Proofs.Tracker.Independence
import SlotConsensus.Proofs.Block.Growth
import SlotConsensus.Proofs.Block.Lineage
import SlotConsensus.Proofs.Round
import SlotConsensus.Proofs.Block.Form
import SlotConsensus.Proofs.Config.File
import SlotConsensus.Proofs.Roster
import SlotConsensus.Proofs.Config.Problems
import SlotConsensus.Proofs.Schedule.Exact
import SlotConsensus.Proofs.Tracker.Parties
import SlotConsensus.Proofs.Tracker.Refusals
import SlotConsensus.Proofs.Curve.Prime
import SlotConsensus.Proofs.Curve.Point
import SlotConsensus.Proofs.Identity.PublicKey
