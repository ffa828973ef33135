import GatewayPolicy.Fault
import GatewayPolicy.Keyed
import GatewayPolicy.Path

/-!
# The path index

A refresh looks up many paths against one set of routes, so the routes are
indexed by service once.  The first active route of a service owns it; a later
active route of the same service under another path is reported as ambiguous
and otherwise ignored.
-/

set_option autoImplicit false

namespace GatewayPolicy

structure PathIndex where
  patterns : List (String × String)
  /-- Rejected claims in the order of their routes. -/
  ambiguities : List Issue
  deriving DecidableEq, Repr

namespace PathIndex

/-- The index while it is built.  The names of the routes that own a service
are kept for the reports alone. -/
structure Draft where
  patterns : List (String × String)
  keptNames : List (String × String)
  ambiguities : List Issue

namespace Draft

def empty : Draft :=
  { patterns := [], keptNames := [], ambiguities := [] }

def register (draft : Draft) (serviceId : String) (rule : RouteRule) : Draft :=
  match Keyed.find? serviceId draft.patterns with
  | none =>
      { draft with
        patterns := draft.patterns ++ [(serviceId, rule.path)]
        keptNames := draft.keptNames ++ [(serviceId, rule.routeName)] }
  | some existing =>
      if existing = rule.path then draft
      else
        let kept := (Keyed.find? serviceId draft.keptNames).getD ""
        { draft with
          ambiguities := draft.ambiguities ++
            [.ambiguousRoute serviceId kept rule.routeName] }

def add (draft : Draft) (rule : RouteRule) : Draft :=
  match rule.isActive, rule.serviceId with
  | true, some serviceId => draft.register serviceId rule
  | _, _ => draft

def ofRules (rules : List RouteRule) : Draft :=
  rules.foldl add empty

end Draft

def ofRules (rules : List RouteRule) : PathIndex :=
  let draft := Draft.ofRules rules
  { patterns := draft.patterns, ambiguities := draft.ambiguities }

def fullPath (index : PathIndex) (serviceId path : String) : String :=
  match Keyed.find? serviceId index.patterns with
  | some pattern => Path.compose pattern (Path.normalize path)
  | none => Path.normalize path

end PathIndex

end GatewayPolicy
