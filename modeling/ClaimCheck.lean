import ClaimCheck.Failure.Construction
import ClaimCheck.Json.Compact
import ClaimCheck.Rehearsal.Bus
import ClaimCheck.Rehearsal.Call
import ClaimCheck.Rehearsal.Line
import ClaimCheck.Rehearsal.Records
import ClaimCheck.Rehearsal.Request
import ClaimCheck.Rehearsal.Requests
import ClaimCheck.Rehearsal.Session
import ClaimCheck.Rehearsal.Stream
import ClaimCheck.Proofs.ActionOutcome
import ClaimCheck.Proofs.GzipRoundTrip
import ClaimCheck.Proofs.Identifiers
import ClaimCheck.Proofs.ReferenceForm
import ClaimCheck.Proofs.StreamDelivery
import ClaimCheck.Proofs.MemoryOperations
import ClaimCheck.Proofs.MemoryEvents
import ClaimCheck.Proofs.MemoryHistory
import ClaimCheck.Proofs.ClientLaws
import ClaimCheck.Proofs.UploadChecks
import ClaimCheck.Proofs.CloudOperations
import ClaimCheck.Proofs.Naming
import ClaimCheck.Proofs.Shelves
import ClaimCheck.Proofs.Resolvability
import ClaimCheck.Proofs.ActionFrame
import ClaimCheck.Proofs.ClaimRoundTrip
import ClaimCheck.Proofs.InlineBodies
import ClaimCheck.Proofs.Backends
import ClaimCheck.Proofs.CallOutcome
import ClaimCheck.Proofs.ErrorVocabulary
import ClaimCheck.Proofs.CreateIfAbsent
import ClaimCheck.Proofs.VerifiedDelivery
import ClaimCheck.Proofs.ObjectKeys
import ClaimCheck.Proofs.SeparateObjects
import ClaimCheck.Proofs.ServiceParity
import ClaimCheck.Proofs.MemoryClaims
import ClaimCheck.Proofs.ForwardingChains
import ClaimCheck.Proofs.BusRuns
import ClaimCheck.Proofs.Subscriptions
import ClaimCheck.Proofs.BusDeliveries
import ClaimCheck.Proofs.ActionParts
import ClaimCheck.Proofs.Likeness
import ClaimCheck.Proofs.Conducts
import ClaimCheck.Proofs.MemoryDesk
import ClaimCheck.Proofs.TransparentBus
import ClaimCheck.Proofs.TransparentDesk
import ClaimCheck.Proofs.StreamContract
import ClaimCheck.Proofs.StreamCalls
import ClaimCheck.Proofs.PieceReads
import ClaimCheck.Proofs.ClaimHeaders
import ClaimCheck.Proofs.Replies
import ClaimCheck.Proofs.RequestScripts
import ClaimCheck.Proofs.ClientCalls
import ClaimCheck.Proofs.WholePayloads
import ClaimCheck.Proofs.CleanFailures
import ClaimCheck.Proofs.Journals
import ClaimCheck.Proofs.Recordings
import ClaimCheck.Proofs.ResolveTrace
import ClaimCheck.Proofs.CalendarDays
import ClaimCheck.Proofs.DecimalText
import ClaimCheck.Proofs.IsoText
import ClaimCheck.Proofs.ExpiryMarkers
import ClaimCheck.Proofs.FormText
import ClaimCheck.Proofs.ObjectTags
import ClaimCheck.Proofs.ExpiryAgreement
import ClaimCheck.Proofs.JsonTokens
import ClaimCheck.Proofs.JsonSpelling
import ClaimCheck.Proofs.MessageImages
import ClaimCheck.Proofs.MessageRoundTrip
import ClaimCheck.Proofs.ReaderLimits
import ClaimCheck.Proofs.SerializerLimits
import ClaimCheck.Proofs.EarlyRefusals
import ClaimCheck.Proofs.RequestGate
import ClaimCheck.Proofs.CancelledRequests
import ClaimCheck.Proofs.CutDeliveries
import ClaimCheck.Proofs.Passages
import ClaimCheck.Proofs.OrderlyBus
import ClaimCheck.Proofs.ClientContexts
import ClaimCheck.Proofs.SharedFirstUse
import ClaimCheck.Proofs.RaceCourses
