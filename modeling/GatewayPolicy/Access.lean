import GatewayPolicy.Keyed
import GatewayPolicy.PathIndex

/-!
# Access policies

Authority grants become a map from public paths to the tokens demanded there;
entries of the address lists are moved to public paths.  Rows without a
usable path are left out of both.
-/

set_option autoImplicit false

namespace GatewayPolicy

/-- Public paths in ascending order, each with its tokens in ascending order. -/
abbrev AuthorityMap := List (String × List String)

namespace AuthorityMap

def insertToken (token : String) : List String → List String
  | [] => [token]
  | head :: rest =>
      if token < head then token :: head :: rest
      else if token = head then head :: rest
      else head :: insertToken token rest

def demand (map : AuthorityMap) (path token : String) : AuthorityMap :=
  Keyed.update path (fun tokens => insertToken token (tokens.getD [])) map

def tokens (map : AuthorityMap) (path : String) : List String :=
  (Keyed.find? path map).getD []

end AuthorityMap

namespace Access

/-- A path that is present and not blank, trimmed. -/
def usablePath? (path : Option String) : Option String :=
  path.bind Text.trimmed?

def publicPath? (index : PathIndex) (serviceId : String)
    (path : Option String) : Option String :=
  (usablePath? path).map (index.fullPath serviceId)

def grant (index : PathIndex) (map : AuthorityMap) (row : AuthorityGrant) :
    AuthorityMap :=
  match publicPath? index row.serviceId row.path with
  | some path => map.demand path row.authority
  | none => map

def authorityMap (grants : List AuthorityGrant) (index : PathIndex) :
    AuthorityMap :=
  grants.foldl (grant index) []

def publish? (index : PathIndex) (entry : AddressEntry) : Option AddressEntry :=
  (publicPath? index entry.serviceId entry.path).map fun path =>
    { entry with path := some path }

def addressEntries (entries : List AddressEntry) (index : PathIndex) :
    List AddressEntry :=
  entries.filterMap (publish? index)

end Access

end GatewayPolicy
