import IssuerGate.Calendar.Reading
import IssuerGate.Directory.Roster
import IssuerGate.Http.App
import IssuerGate.Job.Worker
import IssuerGate.Main
import IssuerGate.Settings.LogLevel
import IssuerGate.Text.Base64.RoundTrip
import IssuerGate.Text.Numeral.RoundTrip
import IssuerGate.Proofs.Counters.Keys
import IssuerGate.Text.Utf8.RoundTrip
import IssuerGate.Proofs.Counters.Charge
import IssuerGate.Proofs.Counters.Lane
import IssuerGate.Proofs.Limiter.Run
import IssuerGate.Proofs.Limiter.FixedWindow
import IssuerGate.Proofs.Limiter.SlidingInterval
import IssuerGate.Proofs.Directory.Resolve
import IssuerGate.Proofs.Directory.Staleness
import IssuerGate.Proofs.Gate.Check
import IssuerGate.Proofs.Gate.Run
import IssuerGate.Proofs.Gate.SlidingInterval
import IssuerGate.Proofs.Gate.Metering
import IssuerGate.Proofs.Gate.Fault
import IssuerGate.Proofs.Http.Metering
import IssuerGate.Proofs.Json.Points
import IssuerGate.Proofs.Json.Reading
import IssuerGate.Proofs.Issuer.File
import IssuerGate.Proofs.Issuer.Refinement
import IssuerGate.Proofs.Limiter.Given
import IssuerGate.Proofs.Limiter.Origin
import IssuerGate.Proofs.Issuer.Operations
import IssuerGate.Proofs.Issuer.Atomicity
import IssuerGate.Proofs.Issuer.Interchange
import IssuerGate.Proofs.Issuer.Frame
import IssuerGate.Proofs.Job.Delivery
import IssuerGate.Proofs.Limiter.Passage
import IssuerGate.Proofs.Job.Queue
import IssuerGate.Proofs.Limiter.Outbox
import IssuerGate.Proofs.Limiter.Nudge
import IssuerGate.Proofs.Http.Authority
import IssuerGate.Proofs.Http.Quota
import IssuerGate.Proofs.Http.Identity
import IssuerGate.Proofs.Http.Failure
import IssuerGate.Proofs.Issuer.PublicKeys
import IssuerGate.Proofs.Directory.Eviction
import IssuerGate.Proofs.Binary64.Quotient
import IssuerGate.Proofs.Limiter.Undisturbed
import IssuerGate.Proofs.Limiter.Usage
import IssuerGate.Proofs.Limiter.Agreement
import IssuerGate.Proofs.Gate.RetryAfter
import IssuerGate.Proofs.Digest.Pbkdf2
import IssuerGate.Proofs.Admin.Access
import IssuerGate.Proofs.Counters.Registers
import IssuerGate.Proofs.Counters.Within
import IssuerGate.Proofs.Limiter.Upkeep
import IssuerGate.Proofs.Limiter.Footprint
import IssuerGate.Proofs.Issuer.Locality
import IssuerGate.Proofs.Limiter.Detachment
import IssuerGate.Proofs.Database
