import TopicBus.Boundary.Interface
import TopicBus.Main
import TopicBus.Proofs.Bytes
import TopicBus.Proofs.Slot
import TopicBus.Proofs.Message.Codec
import TopicBus.Proofs.Ring.Queue
import TopicBus.Proofs.Ring.Refinement
import TopicBus.Proofs.Ring.Run
import TopicBus.Proofs.Ring.Memory
import TopicBus.Proofs.Ring.Trace
import TopicBus.Proofs.Ring.Image
import TopicBus.Proofs.Ring.Independence
import TopicBus.Proofs.Bus.Frame
import TopicBus.Proofs.Bus.Request
import TopicBus.Proofs.Bus.Service
import TopicBus.Proofs.Bus.Release
import TopicBus.Proofs.Bus.Sound
import TopicBus.Proofs.Bus.Report
import TopicBus.Proofs.Bus.Turn
import TopicBus.Proofs.Bus.Poll
import TopicBus.Proofs.Bus.Trace
import TopicBus.Proofs.Bus.Image
import TopicBus.Proofs.Bus.Tally
import TopicBus.Proofs.Bus.Seen
import TopicBus.Proofs.Bus.Unbroken
import TopicBus.Proofs.Registry.Directory
import TopicBus.Proofs.Registry.Effect
import TopicBus.Proofs.Registry.Generation
import TopicBus.Proofs.Registry.Obtain
import TopicBus.Proofs.Session.Delivery
import TopicBus.Proofs.Session.Sound
import TopicBus.Proofs.Session.Trace
import TopicBus.Proofs.World.Run
import TopicBus.Proofs.World.Release
import TopicBus.Proofs.World.Unbroken
import TopicBus.Proofs.World.Handles
import TopicBus.Proofs.World.Isolation
import TopicBus.Proofs.Boundary.Argument
import TopicBus.Proofs.Boundary.Request
import TopicBus.Proofs.Boundary.Answer
import TopicBus.Proofs.Boundary.Run
import TopicBus.Proofs.Boundary.Trace
import TopicBus.Proofs.Boundary.Hosted
import TopicBus.Proofs.Boundary.Handle
import TopicBus.Proofs.Boundary.Acquire
import TopicBus.Proofs.Boundary.Unbroken
import TopicBus.Proofs.Message.Laws
import TopicBus.Proofs.Bus.Message
import TopicBus.Proofs.Bus.Rejection
import TopicBus.Proofs.Ring.Read
import TopicBus.Proofs.Bus.Read
import TopicBus.Proofs.Bus.Drain
import TopicBus.Proofs.Session.Release
import TopicBus.Proofs.Registry.Listing
import TopicBus.Proofs.Session.Counters
import TopicBus.Proofs.Text.Order
import TopicBus.Proofs.Session.Views
import TopicBus.Proofs.Session.Places
import TopicBus.Proofs.Ring.Size
import TopicBus.Proofs.Registry.Creation
import TopicBus.Proofs.Bus.Gap
import TopicBus.Proofs.Ring.Retry
import TopicBus.Proofs.Bus.Retry
import TopicBus.Proofs.Boundary.Retry
import TopicBus.Proofs.Ring.Torn
