import PiToPi.Transition
import PiToPi.Reentrant
import PiToPi.JsMap
import PiToPi.Json
import PiToPi.Dates
import PiToPi.ProtocolError
import PiToPi.TaskState
import PiToPi.TaskStore
import PiToPi.TaskStoreProofs
import PiToPi.Dedupe
import PiToPi.DedupeProofs
import PiToPi.DedupeSafety
import PiToPi.Config
import PiToPi.Lifecycle
import PiToPi.LifecycleProofs
import PiToPi.CardLock
import PiToPi.CardLockProofs
import PiToPi.FrameCodec
import PiToPi.FrameCodecProofs
import PiToPi.Policy
import PiToPi.PolicyProofs
import PiToPi.PolicySafety
import PiToPi.Naming
import PiToPi.NamingProofs
import PiToPi.Lookup
import PiToPi.LookupProofs
import PiToPi.AgentCard
import PiToPi.PeerListing
import PiToPi.PeerListingProofs
import PiToPi.JsonValue
import PiToPi.AgentCardValidation
import PiToPi.JsonText
import PiToPi.JsonTextProofs
import PiToPi.AgentCardRegistry
import PiToPi.AgentCardRegistryProofs
import PiToPi.Validation
import PiToPi.Outbound
import PiToPi.ValidationProofs
import PiToPi.OutboundProofs
import PiToPi.OutboundSafety
import PiToPi.SchemaShape
import PiToPi.SchemaMatch
import PiToPi.StateInvariant
import PiToPi.SchemaProofs
import PiToPi.Canonical
import PiToPi.CanonicalProofs
import PiToPi.Kleene
import PiToPi.SchemaMeaning
import PiToPi.SchemaMeaningProofs
import PiToPi.Inquiry
import PiToPi.SchemaInquiry
import PiToPi.SchemaAnswers
import PiToPi.SchemaInquiryProofs
import PiToPi.SchemaBudget
import PiToPi.SchemaLimits
import PiToPi.FloatRounding
import PiToPi.SchemaDraft
import PiToPi.SchemaDraftProofs
import PiToPi.Envelope
import PiToPi.EnvelopeProofs
import PiToPi.DedupeIdentity
import PiToPi.StoreTimers
import PiToPi.StoreTimersProofs
import PiToPi.MeasureProofs
import PiToPi.ErrorWire
import PiToPi.SessionNames
import PiToPi.SessionNamesProofs
import PiToPi.RegExpSyntax
import PiToPi.SchemaPatternProofs
import PiToPi.SerializedLease
import PiToPi.SerializedLeaseProofs
import PiToPi.SerializedLeaseSafety
import PiToPi.EndpointCleanup
import PiToPi.EndpointCleanupProofs
import PiToPi.StaleCleanup
import PiToPi.StaleCleanupProofs
import PiToPi.PolicyCallback
import PiToPi.PolicyCallbackProofs
import PiToPi.PolicyCancelProofs
import PiToPi.Room
import PiToPi.RoomProofs
import PiToPi.RuntimeRegistry
import PiToPi.RuntimeRegistryProofs
import PiToPi.TransportLifecycle
import PiToPi.TransportLifecycleProofs
import PiToPi.HostCalls
import PiToPi.ReplyContent
import PiToPi.WireValues
import PiToPi.MessageRouter
import PiToPi.StoreEffects
import PiToPi.RouterChanges
import PiToPi.RouterSafety
import PiToPi.RouterContracts
import PiToPi.WireReading
import PiToPi.RouterNetwork
import PiToPi.RouterRequests
import PiToPi.Utf8Text
import PiToPi.WireCodec
