import GuestBridge.Document.Config
import GuestBridge.Document.Value
import GuestBridge.Host.Scripted
import GuestBridge.Proofs.Call.RoundTrip
import GuestBridge.Proofs.Layout.Answers
import GuestBridge.Proofs.Layout.MarkedWalk
import GuestBridge.Proofs.Layout.Redeclaration
import GuestBridge.Proofs.Layout.RoundTrip
import GuestBridge.Proofs.Layout.Staging
import GuestBridge.Proofs.Runtime.Recorder
import GuestBridge.Proofs.Runtime.Release
import GuestBridge.Proofs.Runtime.StructMemory
import GuestBridge.Proofs.Runtime.TypedCalls
import GuestBridge.Runtime.Call
import GuestBridge.Runtime.Instantiate
import GuestBridge.Sandbox.Scripted
import GuestBridge.Wasm.Sandbox
import GuestBridge.Proofs.Layout.Course
import GuestBridge.Proofs.Layout.InPlace
import GuestBridge.Proofs.Layout.Placement
import GuestBridge.Proofs.Layout.Decoding
import GuestBridge.Proofs.Layout.Reencoding
import GuestBridge.Proofs.Module.Sections
import GuestBridge.Proofs.Runtime.CallTrace
import GuestBridge.Proofs.Runtime.StructTrace
import GuestBridge.Proofs.Document.Config
import GuestBridge.Proofs.Document.Metadata
import GuestBridge.Proofs.Document.Value
import GuestBridge.Proofs.Sandbox.Linking
import GuestBridge.Proofs.Host.Bindings
import GuestBridge.Proofs.Host.Dispatch
import GuestBridge.Proofs.Sandbox.Attribution
