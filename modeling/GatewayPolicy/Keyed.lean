/-!
# Lists keyed by text

Associations from text keys are kept as lists of pairs in ascending order of
their keys, each key once.  Text is ordered by code points, which is the order
of its UTF-8 bytes.  `update` is the one way in; it keeps the order.
-/

set_option autoImplicit false

namespace GatewayPolicy.Keyed

variable {β : Type}

/-- Changes the value at `key`, or makes one where there is none. -/
def update (key : String) (change : Option β → β) :
    List (String × β) → List (String × β)
  | [] => [(key, change none)]
  | (k, value) :: rest =>
      if key < k then (key, change none) :: (k, value) :: rest
      else if key = k then (k, change (some value)) :: rest
      else (k, value) :: update key change rest

def insert (key : String) (value : β) (entries : List (String × β)) :
    List (String × β) :=
  update key (fun _ => value) entries

def find? (key : String) (entries : List (String × β)) : Option β :=
  (entries.find? fun entry => entry.1 == key).map Prod.snd

def keys (entries : List (String × β)) : List String :=
  entries.map Prod.fst

/-- Enters the pairs one after another, so that a later pair wins. -/
def ofList (pairs : List (String × β)) : List (String × β) :=
  pairs.foldl (fun entries pair => insert pair.1 pair.2 entries) []

def Sorted (entries : List (String × β)) : Prop :=
  entries.Pairwise fun a b => a.1 < b.1

end GatewayPolicy.Keyed
