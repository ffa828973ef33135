import GatewayPolicy.Connection.RedisUrl
import GatewayPolicy.Main
import GatewayPolicy.Proofs.Access.AddressLists
import GatewayPolicy.Proofs.Access.WrittenAddresses
import GatewayPolicy.Proofs.Change.LiveSubscriptions
import GatewayPolicy.Proofs.Database.ExactLoads
import GatewayPolicy.Proofs.Database.UrlLimits
import GatewayPolicy.Proofs.Json.RoundTrip
import GatewayPolicy.Proofs.Path.Collisions
import GatewayPolicy.Proofs.Path.Idempotence
import GatewayPolicy.Proofs.Path.Ownership
import GatewayPolicy.Proofs.RateLimit.Buckets
import GatewayPolicy.Proofs.Refresh.Announcements
import GatewayPolicy.Proofs.Refresh.Clock
import GatewayPolicy.Proofs.Refresh.WellFormed
import GatewayPolicy.Proofs.Routing.Identifiers
import GatewayPolicy.Proofs.Routing.Order
import GatewayPolicy.Proofs.Server.Admission
import GatewayPolicy.Proofs.Server.Refreshing
import GatewayPolicy.Proofs.Session.Histories
import GatewayPolicy.Proofs.Settings.Timeouts
