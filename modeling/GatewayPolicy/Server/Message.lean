import GatewayPolicy.Json.Printer
import GatewayPolicy.Server.Request

/-!
# Messages of the hypertext protocol

The head of a request is a start line and header lines, and its body follows
an empty line; an answer is a status line, header lines, an empty line and the
body.
-/

set_option autoImplicit false

namespace GatewayPolicy

def isHeaderBlank (byte : UInt8) : Bool :=
  byte == 0x20 || byte == 0x09

def trimHeader (value : List UInt8) : List UInt8 :=
  ((value.dropWhile isHeaderBlank).reverse.dropWhile isHeaderBlank).reverse

def asciiText? (bytes : List UInt8) : Option String :=
  if bytes.all (· < 0x80) then
    some (String.ofList (bytes.map fun byte => Char.ofNat byte.toNat))
  else none

/-- A header line: a name, a colon, and a value with blanks around it. -/
def headerOfLine? (line : List UInt8) : Option (String × List UInt8) :=
  match line.span (· != ':'.toUInt8) with
  | (name, _ :: value) =>
      (asciiText? name).map fun name => (name, trimHeader value)
  | _ => none

def Request.ofHead? : List (List UInt8) → Option Request
  | [] => none
  | start :: headers => do
      match (← asciiText? start).splitOn " " with
      | [method, target, _] =>
          let headers ← headers.mapM headerOfLine?
          return {
            method := method, target := target, headers := headers
            body := [] }
      | _ => none

def Request.contentLength (request : Request) : Nat :=
  let digits := (request.header? "content-length").bind asciiText?
  (digits.bind String.toNat?).getD 0

namespace Response

def badRequest : Response :=
  withoutBody 400

def reason (status : Nat) : String :=
  match status with
  | 200 => "OK"
  | 400 => "Bad Request"
  | 401 => "Unauthorized"
  | 404 => "Not Found"
  | 405 => "Method Not Allowed"
  | _ => ""

def headerLine (name : String) (value : Option String) : String :=
  match value with
  | some value => name ++ ": " ++ value ++ "\r\n"
  | none => ""

def text (response : Response) : String :=
  let body := (response.body.map Json.render).getD ""
  "HTTP/1.1 " ++ toString response.status ++ " " ++ reason response.status ++
    "\r\n" ++
    headerLine "content-type" response.contentType ++
    headerLine "allow" response.allow ++
    headerLine "content-length" (some (toString body.utf8ByteSize)) ++
    "\r\n" ++ body

end Response

end GatewayPolicy
