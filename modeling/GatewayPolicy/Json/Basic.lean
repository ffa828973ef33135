import GatewayPolicy.Keyed
import GatewayPolicy.Number.Numeral

/-!
# JSON values

Numbers are kept apart by how they were written: integers stay exact, all
other numbers are doubles.  The members of an object ascend by name.

Decoding never converts between kinds.  A record is an object, whose unknown
members are ignored, or an array that lists all fields in the order of their
declaration.
-/

set_option autoImplicit false

namespace GatewayPolicy

inductive Json where
  | null
  | bool (b : Bool)
  | integer (n : Int)
  | decimal (x : Binary64)
  | string (s : String)
  | array (items : List Json)
  | object (members : List (String × Json))

namespace Json

/-! ## Encoding -/

def ofNat (n : Nat) : Json :=
  .integer n

def ofInt64 (n : Int64) : Json :=
  .integer n.toInt

def ofUInt64 (n : UInt64) : Json :=
  ofNat n.toNat

def ofOption {α : Type} (encode : α → Json) : Option α → Json
  | none => .null
  | some value => encode value

def ofList {α : Type} (encode : α → Json) (items : List α) : Json :=
  .array (items.map encode)

def strings (items : List String) : Json :=
  ofList .string items

/-! ## Decoding plain values -/

def bool? : Json → Option Bool
  | .bool b => some b
  | _ => none

def string? : Json → Option String
  | .string s => some s
  | _ => none

def integerIn? (least greatest : Int) : Json → Option Int
  | .integer n => if least ≤ n && n ≤ greatest then some n else none
  | _ => none

def int64? (json : Json) : Option Int64 :=
  (json.integerIn? Int64.minValue.toInt Int64.maxValue.toInt).map Int64.ofInt

def uint32? (json : Json) : Option UInt32 :=
  (json.integerIn? 0 (UInt32.size - 1)).map fun n => UInt32.ofNat n.toNat

def uint64? (json : Json) : Option UInt64 :=
  (json.integerIn? 0 (UInt64.size - 1)).map fun n => UInt64.ofNat n.toNat

def list? {α : Type} (decode : Json → Option α) : Json → Option (List α)
  | .array items => items.mapM decode
  | _ => none

def entries? {α : Type} (decode : Json → Option α) :
    Json → Option (List (String × α))
  | .object members =>
      members.mapM fun entry => (decode entry.2).map fun value => (entry.1, value)
  | _ => none

/-! ## Decoding records and choices -/

abbrev Fields := String → Option Json

def record? (names : List String) : Json → Option Fields
  | .object members => some fun name => Keyed.find? name members
  | .array items =>
      if items.length = names.length then
        some fun name => (names.zip items).lookup name
      else none
  | _ => none

def required {α : Type} (decode : Json → Option α) (field : Option Json) :
    Option α :=
  field.bind decode

def optional {α : Type} (decode : Json → Option α) :
    Option Json → Option (Option α)
  | none | some .null => some none
  | some json => (decode json).map some

/-- The name of a choice without content: its text, or an object with null
under that name as its only member. -/
def choice? : Json → Option String
  | .string name => some name
  | .object [(name, .null)] => some name
  | _ => none

/-- A choice tells its case in the field `tag`; as an array it starts with the
case.  The other fields stay in the rest. -/
def tagged? (tag : String) : Json → Option (String × Json)
  | .object members =>
      (Keyed.find? tag members).bind fun found =>
        found.string?.map fun variant =>
          (variant, .object (members.filter fun entry => entry.1 != tag))
  | .array (.string variant :: items) => some (variant, .array items)
  | _ => none

end Json

end GatewayPolicy
