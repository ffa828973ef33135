import GatewayPolicy.Network.IpAddress

/-!
# The command line

The server takes two options, each at most once and each with a value, which
follows as the next argument or after an equals sign.  Asking for help or for
the version ends the reading.  A value that was given as an argument of its
own is checked when the next option is met or the arguments end, so that an
unknown argument right after it goes first.
-/

set_option autoImplicit false

namespace GatewayPolicy

structure CommandLine where
  config : String
  listen : SocketAddress
  deriving DecidableEq, Repr

namespace CommandLine

inductive Refusal where
  | unknownArgument
  /-- An option without a value, or with an empty file name. -/
  | invalidValue
  | valueValidation
  | tooManyValues
  | argumentConflict
  | displayHelp
  | displayVersion
  deriving DecidableEq, Repr

inductive OptionName where
  | config
  | listen
  deriving DecidableEq, Repr

/-- The values accepted so far, and the option whose value is outstanding. -/
structure Progress where
  config : Option String
  listen : Option SocketAddress
  /-- An option that was named, with its value if that was given already. -/
  pending : Option (OptionName × Option String)

def Progress.start : Progress :=
  { config := none, listen := none, pending := none }

def accept (progress : Progress) (option : OptionName) (value : String) :
    Except Refusal Progress :=
  match option with
  | .config =>
      if progress.config.isSome then .error .argumentConflict
      else if value.isEmpty then .error .invalidValue
      else .ok { progress with config := some value }
  | .listen =>
      if progress.listen.isSome then .error .argumentConflict
      else
        match SocketAddress.read? value with
        | some socket => .ok { progress with listen := some socket }
        | none => .error .valueValidation

def settle (progress : Progress) : Except Refusal Progress :=
  match progress.pending with
  | none => .ok progress
  | some (_, none) => .error .invalidValue
  | some (option, some value) =>
      accept { progress with pending := none } option value

inductive Argument where
  /-- Two dashes: everything after them is positional. -/
  | escape
  | named (option : OptionName) (attached : Option String)
  | help (attached : Bool)
  | version (attached : Bool)
  | plain
  | unknown

def longOption (name : String) (attached : Option String) : Argument :=
  match name with
  | "config" => .named .config attached
  | "listen" => .named .listen attached
  | "help" => .help attached.isSome
  | "version" => .version attached.isSome
  | _ => .unknown

def classify (argument : String) : Argument :=
  match argument.toList with
  | ['-', '-'] => .escape
  | '-' :: '-' :: rest =>
      let (name, value) := rest.span (· != '=')
      longOption (String.ofList name)
        (if value.isEmpty then none else some (String.ofList (value.drop 1)))
  | '-' :: 'h' :: _ => .help false
  | '-' :: 'V' :: _ => .version false
  | '-' :: _ :: _ => .unknown
  | _ => .plain

def flag (progress : Progress) (attached : Bool) (refusal : Refusal) :
    Except Refusal Progress :=
  if attached then .error .tooManyValues
  else (settle progress).bind fun _ => .error refusal

def step (progress : Progress) (argument : String) :
    Except Refusal Progress :=
  match classify argument with
  | .named option (some value) => do
      accept { ← settle progress with pending := none } option value
  | .named option none => do
      return { ← settle progress with pending := some (option, none) }
  | .help attached => flag progress attached .displayHelp
  | .version attached => flag progress attached .displayVersion
  | .plain =>
      match progress.pending with
      | some (option, none) =>
          .ok { progress with pending := some (option, some argument) }
      | _ => .error .unknownArgument
  | .escape | .unknown => .error .unknownArgument

def read : Progress → List String → Except Refusal Progress
  | progress, [] => settle progress
  | progress, argument :: rest =>
      match classify argument, rest with
      | .escape, [] => settle progress
      | _, _ => do read (← step progress argument) rest

def defaultConfig : String := "gateway.toml"

def defaultListen : SocketAddress :=
  { address := .v4 [0, 0, 0, 0], scope := 0, port := 8081 }

def parse (arguments : List String) : Except Refusal CommandLine :=
  (read .start arguments).map fun progress =>
    { config := progress.config.getD defaultConfig
      listen := progress.listen.getD defaultListen }

end CommandLine

end GatewayPolicy
