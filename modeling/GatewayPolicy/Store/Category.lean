import GatewayPolicy.Fault
import GatewayPolicy.Row

/-!
# Categories of a store

A store is read by category.  `Reading` is all that a reader can learn from a
store at one moment: for each category its rows, or the fault.
-/

set_option autoImplicit false

namespace GatewayPolicy

inductive Category where
  | routes
  | bindings
  | authorities
  | addresses (kind : ListKind)
  deriving DecidableEq, Repr

namespace Category

abbrev Row : Category → Type
  | routes => RouteRule
  | bindings => LimitBinding
  | authorities => AuthorityGrant
  | addresses _ => AddressEntry

/-- In the order a refresh reads them. -/
def all : List Category :=
  [routes, bindings, authorities, addresses .black, addresses .white]

end Category

abbrev Reading :=
  (category : Category) → Except StoreFault (List category.Row)

structure Read where
  category : Category
  answer : Except StoreFault (List category.Row)

def Read.of (reading : Reading) (category : Category) : Read :=
  { category := category, answer := reading category }

end GatewayPolicy
