import ProcessorSockets.Json.Shapes
import ProcessorSockets.Kernel.Scripted
import ProcessorSockets.Main
import ProcessorSockets.Proofs.Config
import ProcessorSockets.Proofs.Construction
import ProcessorSockets.Proofs.Cutoff
import ProcessorSockets.Proofs.Echo.Meeting
import ProcessorSockets.Proofs.Exchange
import ProcessorSockets.Proofs.Json.Delimiting
import ProcessorSockets.Proofs.Json.RoundTrip
import ProcessorSockets.Proofs.NativeTransfers
import ProcessorSockets.Proofs.Session.Conservation
import ProcessorSockets.Proofs.Session.Failure
import ProcessorSockets.Proofs.Session.Finality
import ProcessorSockets.Proofs.Session.LastReference
import ProcessorSockets.Proofs.Session.Provenance
import ProcessorSockets.Proofs.Session.Race
import ProcessorSockets.Proofs.Timeouts.Reading
import ProcessorSockets.Proofs.Tracing.Operations
import ProcessorSockets.Proofs.Transport.Accepting
import ProcessorSockets.Proofs.Transport.Containment
import ProcessorSockets.Proofs.Transport.FailedBind
import ProcessorSockets.Proofs.Transport.Family
import ProcessorSockets.Proofs.Transport.Names
import ProcessorSockets.Proofs.Transport.PlainFiles
import ProcessorSockets.Proofs.Transport.Release
import ProcessorSockets.Proofs.Transport.Sharing
import ProcessorSockets.Proofs.TransportKind
import ProcessorSockets.Session
import ProcessorSockets.Trace.Identifier
import ProcessorSockets.Transport.Scripted
