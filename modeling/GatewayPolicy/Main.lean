import GatewayPolicy.CommandLine
import GatewayPolicy.Server.Basic
import GatewayPolicy.Server.Message
import GatewayPolicy.Store.Connection
import GatewayPolicy.Store.Server
import Mathlib.Tactic.DeprecateTo

/-!
# The program

Loads the configuration, writing the default one where there is none, starts
the server and answers the requests that arrive on standard input.  Whoever
runs it connects its streams to the listening address.  Database files start
out empty.
-/

set_option autoImplicit false

namespace GatewayPolicy.Program

def usage : String :=
  String.intercalate "\n"
    [ "Control plane for the gateway: resolves routes and access policies from the configuration database and serves them to operators",
      "",
      "Usage: gateway-server [OPTIONS]",
      "",
      "Options:",
      "      --config <CONFIG>  [default: gateway.toml]",
      "      --listen <LISTEN>  [default: 0.0.0.0:8081]",
      "  -h, --help             Print help",
      "  -V, --version          Print version" ]

def version : String := "gateway-server 0.1.0"

def complaint : CommandLine.Refusal → String
  | .unknownArgument => "unexpected argument"
  | .invalidValue => "a value is required"
  | .valueValidation => "invalid value for '--listen <LISTEN>'"
  | .tooManyValues => "unexpected value for a flag"
  | .argumentConflict => "an argument cannot be used multiple times"
  | .displayHelp | .displayVersion => ""

def refuse (refusal : CommandLine.Refusal) : IO UInt32 := do
  match refusal with
  | .displayHelp =>
      IO.println usage
      return 0
  | .displayVersion =>
      IO.println version
      return 0
  | _ =>
      IO.eprintln ("error: " ++ complaint refusal)
      return 2

def provideConfiguration (path : String) : IO Unit := do
  if (← (IO.FS.readBinFile path).toBaseIO).isOk then return ()
  IO.eprintln "config file missing, writing defaults"
  match ← (IO.FS.writeFile path Settings.template).toBaseIO with
  | .ok _ => return ()
  | .error _ => IO.eprintln "could not write default config"

def loadConfiguration (path : String) :
    IO (Except ServerFault Configuration) := do
  match ← (IO.FS.readBinFile path).toBaseIO with
  | .ok bytes => return Configuration.ofFile path (some bytes)
  | .error _ => return Configuration.ofFile path none

/-- The next line without its end; none at the end of the stream. -/
partial def readLine? (input : IO.FS.Stream) (line : List UInt8) :
    IO (Option (List UInt8)) := do
  match (← input.read 1).toList with
  | [] => return if line.isEmpty then none else some line.reverse
  | 0x0A :: _ => return some (line.filter (· != 0x0D)).reverse
  | byte :: _ => readLine? input (byte :: line)

partial def readHead (input : IO.FS.Stream) (lines : List (List UInt8)) :
    IO (List (List UInt8)) := do
  match ← readLine? input [] with
  | none | some [] => return lines.reverse
  | some line => readHead input (line :: lines)

partial def readBody (input : IO.FS.Stream) (missing : Nat)
    (body : List UInt8) : IO (List UInt8) := do
  if missing = 0 then return body
  let bytes ← input.read (.ofNat missing)
  if bytes.isEmpty then return body
  readBody input (missing - bytes.size) (body ++ bytes.toList)

def now : IO Clock := do
  let wall ← Std.Time.Timestamp.now
  let sinceEpoch := wall.toMillisecondsSinceUnixEpoch.val
  return { wallMs := .ofNat sinceEpoch.toNat, steadyMs := ← IO.monoMsNow }

def environment (store : OpenedStore Directory) (directory : Directory) :
    Environment IO :=
  { read := fun category => return store directory category
    now := now }

/-- Answers the requests one after another, so that none of them ever waits. -/
partial def serve (input output : IO.FS.Stream) (environment : Environment IO)
    (server : Server) : IO Unit := do
  let head ← readHead input []
  if head.isEmpty then return ()
  match Request.ofHead? head with
  | none =>
      output.putStr Response.badRequest.text
      output.flush
      serve input output environment server
  | some request =>
      let body ← readBody input request.contentLength []
      let (response, server) ←
        (Server.handle environment { request with body := body }).run server
      output.putStr ((response.map Response.text).getD "")
      output.flush
      serve input output environment server

def greatestPath : Nat := 4095

def run (options : CommandLine) : IO UInt32 := do
  provideConfiguration options.config
  match ← loadConfiguration options.config with
  | .error fault =>
      IO.eprintln ("error: " ++ fault.text)
      return 1
  | .ok configuration =>
      match openStore Directory.driver ServerStore.driver
          configuration.settings.store (.empty greatestPath) with
      | .error (.store fault) =>
          IO.eprintln ("error: " ++ (ServerFault.store fault).text)
          return 1
      | .error .aborted =>
          IO.eprintln "error: query timeout out of range"
          return 101
      | .ok (store, directory) =>
          let environment := environment store directory
          let server ← Server.start environment configuration
          IO.eprintln ("gateway-server started on " ++ options.listen.text)
          serve (← IO.getStdin) (← IO.getStdout) environment server
          IO.eprintln "gateway-server stopped"
          return 0

end GatewayPolicy.Program

def main (arguments : List String) : IO UInt32 :=
  match GatewayPolicy.CommandLine.parse arguments with
  | .error refusal => GatewayPolicy.Program.refuse refusal
  | .ok options => GatewayPolicy.Program.run options
