import FleetTraffic.SortedMap.Lemmas
import FleetTraffic.Counter
import FleetTraffic.Text.Blank
import FleetTraffic.Text.Digits
import FleetTraffic.Calendar.Instant
import FleetTraffic.Calendar.InstantText
import FleetTraffic.Json.Token
import FleetTraffic.Json.Document
import FleetTraffic.Json.Printer
import FleetTraffic.Json.Codec
import FleetTraffic.Wire.Agent
import FleetTraffic.Fleet
import FleetTraffic.Delivery.Error
import FleetTraffic.Service.Error
import FleetTraffic.Wire.Fleet
import FleetTraffic.Toml.Document
import FleetTraffic.Settings.Agent
import FleetTraffic.Settings.Server
import FleetTraffic.Delivery.Timeline
import FleetTraffic.Wire.Delivery
import FleetTraffic.Service.Answer
import FleetTraffic.Service.Housekeeper
import FleetTraffic.Delivery.Client
import FleetTraffic.Proofs.Fleet.Accounting
import FleetTraffic.Proofs.Fleet.Progress
import FleetTraffic.Proofs.Fleet.Erasure
import FleetTraffic.Proofs.Fleet.Strategies
import FleetTraffic.Proofs.Delivery.Shutdown
import FleetTraffic.Proofs.Delivery.Merging
import FleetTraffic.Proofs.Delivery.Connection
import FleetTraffic.Proofs.Fleet.Replies
import FleetTraffic.Proofs.Fleet.Interleaving
import FleetTraffic.Proofs.Fleet.Resending
import FleetTraffic.Proofs.Delivery.Settlement
import FleetTraffic.Proofs.Wire.RoundTrip
import FleetTraffic.Proofs.Fleet.LateCopies
import FleetTraffic.Proofs.Fleet.RestartLog
import FleetTraffic.Proofs.Delivery.Acceptance
import FleetTraffic.Proofs.Fleet.Concord
import FleetTraffic.Proofs.Fleet.Cleanup
import FleetTraffic.Proofs.Fleet.LatestAccess
import FleetTraffic.Proofs.Delivery.Retries
import FleetTraffic.Proofs.Usage.Batches
import FleetTraffic.Proofs.Ledger.Ordering
import FleetTraffic.Proofs.Settings.Limits
