import GatewayPolicy.Json.Route
import GatewayPolicy.Json.Row
import GatewayPolicy.Refresh.Clock

/-!
# Snapshots and reports as JSON

What operators are shown of the published snapshot and of a refresh.
-/

set_option autoImplicit false

namespace GatewayPolicy

namespace AuthorityMap

def toJson (map : AuthorityMap) : Json :=
  .object (map.map fun entry => (entry.1, .strings entry.2))

end AuthorityMap

namespace CategoryStatus

def toJson : CategoryStatus → Json
  | loaded items skipped =>
      .object
        [("items", .ofNat items), ("skipped", .strings skipped),
          ("state", .string "loaded")]
  | degraded error =>
      .object [("error", .string error), ("state", .string "degraded")]

end CategoryStatus

namespace RefreshReport

def members (report : RefreshReport) (times : CycleTimes) :
    List (String × Json) :=
  [("ambiguities", .strings report.ambiguities),
    ("authorities", report.authorities.toJson),
    ("elapsed_ms", .ofUInt64 times.elapsedMs),
    ("generation", .ofUInt64 report.generation),
    ("installed", .bool report.installed),
    ("ip_blacklist", report.blackList.toJson),
    ("ip_whitelist", report.whiteList.toJson),
    ("routes", report.routes.toJson)]

def toJson (report : RefreshReport) (times : CycleTimes) : Json :=
  .object (report.members times)

end RefreshReport

namespace Snapshot

def members (snapshot : Snapshot) (times : CycleTimes) :
    List (String × Json) :=
  [("authorities", snapshot.authorities.toJson),
    ("generation", .ofUInt64 snapshot.generation),
    ("ip_blacklist", .ofList AddressEntry.toJson snapshot.blackList),
    ("ip_whitelist", .ofList AddressEntry.toJson snapshot.whiteList),
    ("loaded_at_ms", .ofUInt64 times.loadedAtMs),
    ("routes", .ofList ResolvedRoute.toJson snapshot.routes)]

end Snapshot

namespace SnapshotSummary

def members (summary : SnapshotSummary) (times : CycleTimes) :
    List (String × Json) :=
  [("authority_paths", .ofNat summary.authorityPaths),
    ("generation", .ofUInt64 summary.generation),
    ("ip_blacklist", .ofNat summary.blackList),
    ("ip_whitelist", .ofNat summary.whiteList),
    ("loaded_at_ms", .ofUInt64 times.loadedAtMs),
    ("rate_limited_routes", .ofNat summary.limitedRoutes),
    ("routes", .ofNat summary.routes)]

def toJson (summary : SnapshotSummary) (times : CycleTimes) : Json :=
  .object (summary.members times)

end SnapshotSummary

def activityName (refreshing : Bool) : String :=
  if refreshing then "refreshing" else "idle"

end GatewayPolicy
