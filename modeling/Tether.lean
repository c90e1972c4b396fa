import Tether.Registry
import Tether.Report.Camera
import Tether.Camera.Link
import Tether.Store.Consistency
import Tether.Report.Reading
import Tether.Proofs.Cache.Lookup
import Tether.Proofs.Cache.Order
import Tether.Proofs.Cache.Linked
import Tether.Proofs.Cache.Eviction
import Tether.Proofs.Cache.Accounts
import Tether.Proofs.Cache.Check
import Tether.Proofs.Action
import Tether.Proofs.Host.Effects
import Tether.Proofs.Cache.Runs
import Tether.Proofs.Cache.Upload
import Tether.Proofs.Cache.Cards
import Tether.Proofs.Exchange.Listening
import Tether.Proofs.Exchange.Outcome
import Tether.Proofs.Ptp.Frame
import Tether.Proofs.Ptp.Codec
import Tether.Proofs.Exchange.Reassembly
import Tether.Proofs.Exchange.Transactions
import Tether.Proofs.Exchange.Sessions
import Tether.Proofs.Exchange.Answered
import Tether.Proofs.Exchange.LateAnswer
import Tether.Proofs.Camera.Answering
import Tether.Proofs.Camera.Residue
import Tether.Proofs.Volume.Turn
import Tether.Proofs.Volume.Survey
import Tether.Proofs.Volume.Steps
import Tether.Proofs.Volume.Sound
import Tether.Proofs.Volume.Notices
import Tether.Proofs.Volume.Rescan
import Tether.Proofs.Ptp.Records
import Tether.Proofs.Files.Calls
import Tether.Proofs.Device.Runs
import Tether.Proofs.Files.Failing
import Tether.Proofs.Files.Creating
import Tether.Proofs.Device.Sealed
import Tether.Proofs.Cache.Surplus
import Tether.Proofs.Device.Detaching
import Tether.Proofs.Files.Missing
import Tether.Proofs.Cache.Failing
import Tether.Proofs.Camera.Storages
import Tether.Proofs.Host.Apart
import Tether.Proofs.Volume.Current
import Tether.Proofs.Host.Repeated
import Tether.Proofs.Host.Reading
import Tether.Proofs.Cache.LeastRecent
import Tether.Proofs.Camera.Intake
import Tether.Proofs.Device.Attaching
import Tether.Proofs.Files.Listing
import Tether.Proofs.Cache.Staleness
import Tether.Proofs.Cache.Attached
import Tether.Proofs.Host.Deleting
import Tether.Proofs.Host.Caching
import Tether.Proofs.Host.Bounded
import Tether.Proofs.Calendar.SignedYear
import Tether.Proofs.Calendar.Grammar
import Tether.Proofs.Ptp.Reencoding
import Tether.Proofs.Host.Refusing
import Tether.Proofs.Files.Overrides
import Tether.Proofs.Files.Options
import Tether.Proofs.Volume.Carryover
import Tether.Proofs.Volume.Emptied
import Tether.Proofs.Camera.Removal
import Tether.Proofs.Ptp.Shortening
import Tether.Proofs.Ptp.DataHeader
