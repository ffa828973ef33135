import GatewayPolicy.Toml.Text

/-!
# Building TOML tables

Tables grow statement by statement.  A table may be defined once: by a header,
or by dotted keys; a header may pass through tables that later get a header of
their own.  Inline tables are closed.  A header or key that breaks these rules
is refused.

Entries stay in the order in which their keys were first written.  Only a table
that a header passed through moves to the end when it gets its own header.
-/

set_option autoImplicit false

namespace GatewayPolicy.Toml

inductive Origin where
  | declared
  | passed
  | dotted
  deriving DecidableEq, Repr

inductive Node where
  | leaf (value : Value)
  | table (origin : Origin) (entries : List (String × Node))
  /-- An array of tables; only its last table may still grow. -/
  | tables (earlier : List Value) (last : List (String × Node))

abbrev Tree := List (String × Node)

mutual

def Node.toValue : Node → Value
  | .leaf value => value
  | .table _ entries => .table (treeValues entries)
  | .tables earlier last => .array (earlier ++ [.table (treeValues last)])

def treeValues : List (String × Node) → List (String × Value)
  | [] => []
  | (key, node) :: rest => (key, node.toValue) :: treeValues rest

end

namespace Tree

def toTable (tree : Tree) : Table :=
  treeValues tree

def put (key : String) (node : Node) : Tree → Tree
  | [] => [(key, node)]
  | (other, old) :: rest =>
      if other = key then (key, node) :: rest
      else (other, old) :: put key node rest

def putLast (key : String) (node : Node) (tree : Tree) : Tree :=
  (tree.filter fun entry => entry.1 != key) ++ [(key, node)]

/-- Changes the table that a path leads to, and makes the tables that the path
lacks with the given origin.  Only a dotted key must not lead through declared
tables. -/
def descend (origin : Origin) (change : Origin → Tree → Option Tree) :
    List String → Origin → Tree → Option Tree
  | [], found, tree => change found tree
  | key :: rest, _, tree =>
      match tree.lookup key with
      | none =>
          (descend origin change rest origin []).map fun inner =>
            put key (.table origin inner) tree
      | some (.leaf _) => none
      | some (.table found inner) =>
          if origin = .dotted && found = .declared then none
          else
            (descend origin change rest found inner).map fun inner =>
              put key (.table found inner) tree
      | some (.tables earlier last) =>
          (descend origin change rest .declared last).map fun last =>
            put key (.tables earlier last) tree

/-- Enters a value under a key that is new.  Dotted keys extend only tables
that dotted keys made. -/
def define (path : KeyPath) (value : Value) (tree : Tree) : Option Tree :=
  descend .dotted
    (fun found inner =>
      if (path.parents.isEmpty || found = .dotted) &&
          (inner.lookup path.name).isNone then
        some (put path.name (.leaf value) inner)
      else none)
    path.parents .declared tree

def declareTable (path : KeyPath) (tree : Tree) : Option Tree :=
  descend .passed
    (fun _ inner =>
      match inner.lookup path.name with
      | none => some (put path.name (.table .declared []) inner)
      | some (.table .passed entries) =>
          some (putLast path.name (.table .declared entries) inner)
      | some _ => none)
    path.parents .declared tree

def appendTable (path : KeyPath) (tree : Tree) : Option Tree :=
  descend .passed
    (fun _ inner =>
      match inner.lookup path.name with
      | none => some (put path.name (.tables [] []) inner)
      | some (.tables earlier last) =>
          some (put path.name
            (.tables (earlier ++ [.table (treeValues last)]) []) inner)
      | some _ => none)
    path.parents .declared tree

def ofEntries (entries : List (KeyPath × Value)) : Option Table :=
  (entries.foldlM (fun tree entry => define entry.1 entry.2 tree) []).map
    toTable

end Tree

/-! ## Documents -/

inductive Statement where
  | table (path : KeyPath)
  | arrayTable (path : KeyPath)
  | entry (path : KeyPath) (value : Value)

/-- A document under construction, and the table its next entry falls into. -/
structure Draft where
  tree : Tree
  current : List String

namespace Draft

def empty : Draft :=
  { tree := [], current := [] }

def add (draft : Draft) : Statement → Option Draft
  | .table path =>
      (Tree.declareTable path draft.tree).map fun tree =>
        { tree := tree, current := path.parents ++ [path.name] }
  | .arrayTable path =>
      (Tree.appendTable path draft.tree).map fun tree =>
        { tree := tree, current := path.parents ++ [path.name] }
  | .entry path value =>
      (Tree.descend .passed (fun _ inner => Tree.define path value inner)
        draft.current .declared draft.tree).map fun tree =>
        { draft with tree := tree }

end Draft

def assemble (statements : List Statement) : Option Table :=
  (statements.foldlM Draft.add Draft.empty).map fun draft => draft.tree.toTable

end GatewayPolicy.Toml
