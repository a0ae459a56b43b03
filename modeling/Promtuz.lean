import Promtuz.Lib.Reach
import Promtuz.Lib.SortedMap
import Promtuz.Lib.Bytes
import Promtuz.Lib.Lists
import Promtuz.Lib.Table
import Promtuz.Common.Proto
import Promtuz.Common.Wire
import Promtuz.Common.MlsWire
import Promtuz.Relay.Routing
import Promtuz.Relay.RoutingInvariant
import Promtuz.Relay.Storage
import Promtuz.Relay.Dht
import Promtuz.Relay.HomeSet
import Promtuz.Relay.FindClosest
import Promtuz.Relay.Queue
import Promtuz.Relay.QueueInvariant
import Promtuz.Relay.Retransmit
import Promtuz.Relay.QueueRace
import Promtuz.Relay.Drain
import Promtuz.Relay.DrainSafety
import Promtuz.Libcore.DrainLoop
import Promtuz.Relay.Forward
import Promtuz.Relay.Durability
import Promtuz.Relay.KeyPackage
import Promtuz.Relay.KeyPackageInvariant
import Promtuz.Relay.Welcome
import Promtuz.Relay.WelcomeInvariant
import Promtuz.Libcore.Message
import Promtuz.Libcore.Authorship
import Promtuz.Libcore.Conversation
import Promtuz.Libcore.EpochCatchup
import Promtuz.Libcore.EpochCatchupInvariant
import Promtuz.Libcore.Pairing
import Promtuz.Libcore.PairingInvariant
import Promtuz.Libcore.TransferWire
import Promtuz.Lib.FileBytes
import Promtuz.Libcore.Transfer
import Promtuz.Libcore.TransferRoundTrip
import Promtuz.Libcore.TransferRace
import Promtuz.Relay.QueueBatch
import Promtuz.Libcore.AckAuth
import Promtuz.Relay.QueueRemoval
import Promtuz.Lib.Bits
import Promtuz.Relay.Bucket
import Promtuz.Relay.KeyPackageOutcome
import Promtuz.Libcore.Delivery
import Promtuz.Libcore.DeliveryStatus
import Promtuz.Relay.WelcomeFetch
import Promtuz.Common.Pack
import Promtuz.Common.PackRoundTrip
import Promtuz.Libcore.MlsStorage
import Promtuz.Libcore.MlsStorageBudget
import Promtuz.Libcore.EpochCatchupDrain
import Promtuz.Relay.GroupCommit
import Promtuz.Lib.Adopt
import Promtuz.Relay.Presence
import Promtuz.Resolver.Registry
import Promtuz.Resolver.RegistryBounds
import Promtuz.Resolver.Directory
import Promtuz.Relay.KeyPackageReplace
import Promtuz.Libcore.KeyPackageLifecycle
import Promtuz.Libcore.TurnRoutes
import Promtuz.Relay.Lookup
import Promtuz.Libcore.MessageOps
import Promtuz.Libcore.PairStatus
import Promtuz.Libcore.Punch
import Promtuz.Libcore.InboundRouter
import Promtuz.Libcore.RelayTable
import Promtuz.Libcore.Signal
import Promtuz.Libcore.Seen
import Promtuz.Relay.DrainAuth
import Promtuz.Relay.Fanout
import Promtuz.Relay.KpOriginate
import Promtuz.Relay.WelcomeOriginate
