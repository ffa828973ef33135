import GatewayPolicy.Number.Numeral
import GatewayPolicy.Text.Hex
import GatewayPolicy.Text.Scanner

/-!
# Addresses of the internet protocol

A version 4 address is four decimal octets; a version 6 address is eight
hexadecimal groups, of which one run of zeros may be left out and the last two
may be written as a version 4 address.  An address is shown in one way only.
-/

set_option autoImplicit false

namespace GatewayPolicy

inductive IpAddress where
  | v4 (octets : List UInt8)
  | v6 (groups : List UInt16)
  deriving DecidableEq, Repr

namespace IpAddress

/-! ## Reading -/

def char (c : Char) : Scanner Unit
  | head :: rest => if head == c then some ((), rest) else none
  | [] => none

/-- A decimal number of at most three digits up to 255, without a needless
zero in front. -/
def octet : Scanner UInt8 :=
  fun cs =>
    let (digits, rest) := Numeral.spanDigits cs
    let n := Numeral.ofDigits digits
    let plain := digits.head? != some '0' || digits.length == 1
    if !digits.isEmpty && digits.length ≤ 3 && n ≤ 255 && plain then
      some (UInt8.ofNat n, rest)
    else none

def octets : Nat → Scanner (List UInt8)
  | 0, cs => some ([], cs)
  | 1, cs => octet.map ([·]) cs
  | count + 1, cs => do
      let (first, rest) ← octet cs
      let (_, rest) ← char '.' rest
      (octets count).map (first :: ·) rest

def v4Octets : Scanner (List UInt8) :=
  octets 4

def group : Scanner UInt16 :=
  fun cs =>
    let digits := cs.takeWhile Hex.isDigit
    match Hex.ofDigits? digits with
    | some n =>
        if !digits.isEmpty && digits.length ≤ 4 then
          some (UInt16.ofNat n, cs.dropWhile Hex.isDigit)
        else none
    | none => none

def joinOctets (high low : UInt8) : UInt16 :=
  high.toUInt16 * 256 + low.toUInt16

structure GroupRun where
  groups : List UInt16
  octetsAtEnd : Bool

/-- Reads as many groups as there are, at most the given number, with colons
between them; where two groups still fit, four octets may stand for them. -/
def groupRun : Nat → (first : Bool) → List Char → GroupRun × List Char
  | 0, _, cs => ({ groups := [], octetsAtEnd := false }, cs)
  | room + 1, first, cs =>
      let nothing := ({ groups := [], octetsAtEnd := false }, cs)
      match if first then some ((), cs) else char ':' cs with
      | none => nothing
      | some (_, rest) =>
          match if 0 < room then v4Octets rest else none with
          | some ([a, b, c, d], rest) =>
              ({ groups := [joinOctets a b, joinOctets c d]
                 octetsAtEnd := true }, rest)
          | _ =>
              match group rest with
              | none => nothing
              | some (head, rest) =>
                  let (run, rest) := groupRun room false rest
                  ({ run with groups := head :: run.groups }, rest)

def v6Groups : Scanner (List UInt16) :=
  fun cs => do
    let (head, rest) := groupRun 8 true cs
    if head.groups.length = 8 then return (head.groups, rest)
    if head.octetsAtEnd then none
    let (_, rest) ← Scanner.word "::" () rest
    let (tail, rest) := groupRun (7 - head.groups.length) true rest
    let gap := 8 - head.groups.length - tail.groups.length
    return (head.groups ++ List.replicate gap 0 ++ tail.groups, rest)

def scan : Scanner IpAddress :=
  Scanner.orElse (v4Octets.map v4) (v6Groups.map v6)

def read? (text : String) : Option IpAddress :=
  scan.all? text.toList

/-! ## Showing -/

def octetsText (octets : List UInt8) : String :=
  String.intercalate "." (octets.map fun octet => toString octet.toNat)

def groupsText (groups : List UInt16) : String :=
  String.intercalate ":"
    (groups.map fun group => String.ofList (Hex.digits group.toNat))

def longestZeros (groups : List UInt16) : Nat × Nat :=
  (List.range groups.length).foldl
    (fun best start =>
      let run := ((groups.drop start).takeWhile (· == 0)).length
      if best.2 < run then (start, run) else best)
    (0, 0)

/-- Two colons stand for the longest run of at least two zeros.  An address
that maps a version 4 address shows its octets. -/
def v6Text (groups : List UInt16) : String :=
  match groups with
  | [0, 0, 0, 0, 0, 0xffff, high, low] =>
      "::ffff:" ++ octetsText
        [(high / 256).toUInt8, high.toUInt8, (low / 256).toUInt8, low.toUInt8]
  | _ =>
      let (start, size) := longestZeros groups
      if 1 < size then
        groupsText (groups.take start) ++ "::" ++
          groupsText (groups.drop (start + size))
      else groupsText groups

end IpAddress

/-! ## Sockets -/

structure SocketAddress where
  address : IpAddress
  scope : UInt32
  port : UInt16
  deriving DecidableEq, Repr

namespace SocketAddress

def numberUpTo (greatest : Nat) : Scanner Nat :=
  fun cs =>
    let (digits, rest) := Numeral.spanDigits cs
    let n := Numeral.ofDigits digits
    if !digits.isEmpty && n ≤ greatest then some (n, rest) else none

def portAfterColon : Scanner UInt16 :=
  fun cs => do
    let (_, rest) ← IpAddress.char ':' cs
    (numberUpTo 65535).map UInt16.ofNat rest

def scanV4 : Scanner SocketAddress :=
  fun cs => do
    let (octets, rest) ← IpAddress.v4Octets cs
    portAfterColon.map
      (fun port => { address := .v4 octets, scope := 0, port := port }) rest

def scopeOrZero : Scanner UInt32
  | '%' :: rest => (numberUpTo 4294967295).map UInt32.ofNat rest
  | cs => some (0, cs)

def scanV6 : Scanner SocketAddress :=
  fun cs => do
    let (_, rest) ← IpAddress.char '[' cs
    let (groups, rest) ← IpAddress.v6Groups rest
    let (scope, rest) ← scopeOrZero rest
    let (_, rest) ← IpAddress.char ']' rest
    portAfterColon.map
      (fun port => { address := .v6 groups, scope := scope, port := port }) rest

def read? (text : String) : Option SocketAddress :=
  (Scanner.orElse scanV4 scanV6).all? text.toList

def text (socket : SocketAddress) : String :=
  let port := ":" ++ toString socket.port.toNat
  match socket.address with
  | .v4 octets => IpAddress.octetsText octets ++ port
  | .v6 groups =>
      let scope :=
        if socket.scope = 0 then "" else "%" ++ toString socket.scope.toNat
      "[" ++ IpAddress.v6Text groups ++ scope ++ "]" ++ port

end SocketAddress

end GatewayPolicy
