import GatewayPolicy.Store.Category

/-!
# Tables in memory

The plainest store: four lists of rows.  It hands out active routes only and
splits the address entries by kind; a read never fails.
-/

set_option autoImplicit false

namespace GatewayPolicy

structure PolicyTables where
  routes : List RouteRule
  bindings : List LimitBinding
  grants : List AuthorityGrant
  addresses : List AddressEntry
  deriving DecidableEq, Repr

namespace PolicyTables

def empty : PolicyTables :=
  { routes := [], bindings := [], grants := [], addresses := [] }

def rows (tables : PolicyTables) : (category : Category) → List category.Row
  | .routes => tables.routes.filter RouteRule.isActive
  | .bindings => tables.bindings
  | .authorities => tables.grants
  | .addresses kind => tables.addresses.filter fun entry => entry.kind == kind

def reading (tables : PolicyTables) : Reading :=
  fun category => .ok (tables.rows category)

end PolicyTables

end GatewayPolicy
