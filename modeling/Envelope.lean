import Envelope.KeyCache.Handout
import Envelope.Main
import Envelope.Partition.Description
import Envelope.Proofs.Admissions
import Envelope.Proofs.Availability
import Envelope.Proofs.Base64
import Envelope.Proofs.Calendar
import Envelope.Proofs.Classification
import Envelope.Proofs.Coherence
import Envelope.Proofs.Collaborators
import Envelope.Proofs.Computation
import Envelope.Proofs.Conduct
import Envelope.Proofs.Custody
import Envelope.Proofs.DataRow
import Envelope.Proofs.Expiry
import Envelope.Proofs.FailedWrites
import Envelope.Proofs.FirstInsert
import Envelope.Proofs.FirstWrite
import Envelope.Proofs.Fleet
import Envelope.Proofs.Formats
import Envelope.Proofs.IntermediateRaces
import Envelope.Proofs.IntermediateTier
import Envelope.Proofs.Interruption
import Envelope.Proofs.Isolation
import Envelope.Proofs.Json.Fields
import Envelope.Proofs.Json.Rendering
import Envelope.Proofs.Json.Spelling
import Envelope.Proofs.KeyCache
import Envelope.Proofs.KeyEnvelope
import Envelope.Proofs.KeyHistory
import Envelope.Proofs.KeyIds
import Envelope.Proofs.KeyRecord
import Envelope.Proofs.Latest
import Envelope.Proofs.LookAlikes
import Envelope.Proofs.Opening
import Envelope.Proofs.Parentage
import Envelope.Proofs.PreferredRegion
import Envelope.Proofs.Provenance
import Envelope.Proofs.Races
import Envelope.Proofs.Reach
import Envelope.Proofs.ReadOnly
import Envelope.Proofs.Reading
import Envelope.Proofs.Recency
import Envelope.Proofs.Refusal
import Envelope.Proofs.RegionKeys
import Envelope.Proofs.Regions
import Envelope.Proofs.Resolution
import Envelope.Proofs.Revocation
import Envelope.Proofs.Rivals
import Envelope.Proofs.Rotation
import Envelope.Proofs.RoundTrips
import Envelope.Proofs.Run
import Envelope.Proofs.Sealing
import Envelope.Proofs.Seat
import Envelope.Proofs.Secrecy.Calls
import Envelope.Proofs.Secrecy.Guises
import Envelope.Proofs.Secrecy.IntermediateKeys
import Envelope.Proofs.Secrecy.Outline
import Envelope.Proofs.Secrecy.Pairs
import Envelope.Proofs.Secrecy.Payloads
import Envelope.Proofs.Secrecy.Scenes
import Envelope.Proofs.Secrecy.SystemKeys
import Envelope.Proofs.Secrecy.Worlds
import Envelope.Proofs.SessionCache
import Envelope.Proofs.Sessions
import Envelope.Proofs.SetUp
import Envelope.Proofs.Siblings
import Envelope.Proofs.Staleness
import Envelope.Proofs.Steady
import Envelope.Proofs.Stewardship
import Envelope.Proofs.Store
import Envelope.Proofs.StoreHistory
import Envelope.Proofs.SystemRaces
import Envelope.Proofs.SystemRevocation
import Envelope.Proofs.SystemTier
import Envelope.Proofs.Tenure
import Envelope.Proofs.Time
import Envelope.Proofs.Timeline
import Envelope.Proofs.Transparency
import Envelope.Proofs.Turnover
import Envelope.Proofs.Turns
import Envelope.Proofs.Uncached
import Envelope.Proofs.Withdrawal
import Envelope.Proofs.World
import Envelope.Proofs.Wrapping
import Envelope.Proofs.Writing
import Envelope.Scenario
