import GatewayPolicy.Keyed
import GatewayPolicy.Toml.Scalar

/-!
# Tables that stand for dates

A table whose first key is the reserved one stands for the date or time that
is written under that key as a string; its other entries do not count.  Every
other table is put into ascending order of its keys.  A document is always a
table.
-/

set_option autoImplicit false

namespace GatewayPolicy.Toml

/-! ## Dates and times in strings -/

def endsWithOffset : List Char → Bool
  | [] => true
  | ['Z'] => true
  | ['z'] => true
  | [sign, h₁, h₂, ':', m₁, m₂] =>
      let minutes :=
        60 * Numeral.ofDigits [h₁, h₂] + Numeral.ofDigits [m₁, m₂]
      (sign == '+' || sign == '-') && [h₁, h₂, m₁, m₂].all Char.isDigit &&
        minutes ≤ 24 * 60
  | _ => false

/-- The whole text is a time of day, or a date with or without one.  A day
may end at the hour 24; only a time of a date has an offset. -/
def isMoment (cs : List Char) : Bool :=
  if cs[2]? == some ':' then (time? 24 cs).any List.isEmpty
  else
    match date? cs with
    | none => false
    | some [] => true
    | some (mark :: rest) =>
        (mark == 'T' || mark == 't' || mark == ' ') &&
          (time? 24 rest).any endsWithOffset

/-! ## Reserved tables -/

def dateKey : String := "$__toml_private_datetime"

/-- The value under the reserved key, where that comes first. -/
def tagged? : List (String × Value) → Option Value
  | (key, value) :: _ => if key = dateKey then some value else none
  | [] => none

def moment? : Value → Option Value
  | .string s => if isMoment s.toList then some (.datetime s) else none
  | _ => none

mutual

/-- Gives tables their meaning; none where a reserved one holds no date. -/
def Value.resolve? : Value → Option Value
  | .array items => (resolveItems? items).map .array
  | .table entries =>
      match tagged? entries with
      | some value => moment? value
      | none => (resolveEntries? entries).map .table
  | value => some value

def resolveItems? : List Value → Option (List Value)
  | [] => some []
  | item :: rest => do
      return (← item.resolve?) :: (← resolveItems? rest)

def resolveEntries? : List (String × Value) → Option (List (String × Value))
  | [] => some []
  | (key, value) :: rest => do
      let value ← value.resolve?
      return Keyed.insert key value (← resolveEntries? rest)

end

end GatewayPolicy.Toml
