/-!
# Scanners

A scanner reads something at the front of a text and leaves the rest, or finds
nothing.
-/

set_option autoImplicit false

namespace GatewayPolicy

abbrev Scanner (α : Type) := List Char → Option (α × List Char)

namespace Scanner

variable {α β : Type}

def map (f : α → β) (scan : Scanner α) : Scanner β :=
  fun cs => (scan cs).map fun found => (f found.1, found.2)

def orElse (first second : Scanner α) : Scanner α :=
  fun cs => (first cs).or (second cs)

def word (word : String) (value : α) : Scanner α :=
  fun cs =>
    if word.toList.isPrefixOf cs then some (value, cs.drop word.length)
    else none

def all? (scan : Scanner α) (cs : List Char) : Option α :=
  match scan cs with
  | some (value, []) => some value
  | _ => none

end Scanner

end GatewayPolicy
