import ThreadTrace.Main
import ThreadTrace.Session.Run
import ThreadTrace.Proofs.Profile.Effects
import ThreadTrace.Proofs.Profile.Journal
import ThreadTrace.Proofs.Profile.Held
import ThreadTrace.Proofs.Profile.Course
import ThreadTrace.Proofs.Profile.Dropping
import ThreadTrace.Proofs.Host.Routing
import ThreadTrace.Proofs.Profile.Provenance
import ThreadTrace.Proofs.Profile.CallTree
import ThreadTrace.Proofs.Profile.Stream
import ThreadTrace.Proofs.Pool.Tally
import ThreadTrace.Proofs.Pool.Building
import ThreadTrace.Proofs.Pool.Started
import ThreadTrace.Proofs.Pool.Delivery
import ThreadTrace.Proofs.Act.Raising
import ThreadTrace.Proofs.Sink.Making
import ThreadTrace.Proofs.Value.Sameness
import ThreadTrace.Proofs.Pool.Registry
import ThreadTrace.Proofs.Pool.Unwinding
import ThreadTrace.Proofs.Pool.Shared
import ThreadTrace.Proofs.Pool.Ownership
import ThreadTrace.Proofs.Pool.Order
import ThreadTrace.Proofs.Pool.Undisturbed
import ThreadTrace.Proofs.Trace.Traced
import ThreadTrace.Proofs.World.Mild
import ThreadTrace.Proofs.Trace.Stopping
import ThreadTrace.Proofs.Host.Granting
import ThreadTrace.Proofs.Trace.Refined
import ThreadTrace.Proofs.Command.Asking
import ThreadTrace.Proofs.Command.Undoing
import ThreadTrace.Proofs.Plan.Canonical
import ThreadTrace.Proofs.Plan.Leaves
import ThreadTrace.Proofs.Plan.Depth
import ThreadTrace.Proofs.Profile.Waiting
import ThreadTrace.Proofs.Profile.Honoured
import ThreadTrace.Proofs.Host.Rehearsal
import ThreadTrace.Proofs.Profile.Gathering
import ThreadTrace.Proofs.Host.Unordered
import ThreadTrace.Proofs.Profile.Memory
import ThreadTrace.Proofs.Profile.Renewal
import ThreadTrace.Proofs.Profile.Scheduling
import ThreadTrace.Proofs.Profile.Covering
import ThreadTrace.Proofs.Sink.Filing
import ThreadTrace.Proofs.Plan.Missing
import ThreadTrace.Proofs.Profile.Justified
import ThreadTrace.Proofs.Profile.Keeping
import ThreadTrace.Proofs.Profile.Reaching
import ThreadTrace.Proofs.Command.Requesting
import ThreadTrace.Proofs.Bundle.Naming
import ThreadTrace.Proofs.Profile.Coherence
