import PosvGateway.Text.Literal
import PosvGateway.Trace.Settings
import PosvGateway.Url.Basic

/-!
# Settings

A gateway is set up by named variables. `Settings.read` reads them in a fixed order, and the first
that is missing or makes no sense is reported.
-/

namespace PosvGateway

/-- Whether the gateway has a node. -/
inductive Mode where
  | online
  | offline
  deriving DecidableEq, Repr

/-- The networks of the ledger. -/
inductive Network where
  | mainnet
  | testnet
  | devnet
  deriving DecidableEq, Repr

/-- The chain id of a network. -/
def Network.chainId : Network → UInt64
  | .mainnet => 88
  | .testnet => 89
  | .devnet => 1992

/-- How the log is written. -/
inductive LogFormat where
  | json
  | pretty
  deriving DecidableEq, Repr

/-- How a gateway is set up. -/
structure Settings where
  mode : Mode
  network : Network
  host : IpAddress
  /-- The number of the socket it listens on. -/
  portNumber : Nat
  /-- The node; without meaning offline. -/
  nodeUrl : Url
  trace : TraceSettings
  logFormat : LogFormat

/-- Why a gateway could not be set up. -/
inductive SettingsError where
  /-- A variable is missing. -/
  | missing (name : String)
  /-- The value of a variable makes no sense. -/
  | invalid (name value reason : String)
  deriving DecidableEq, Repr

/-- The wording of an error. -/
def SettingsError.message : SettingsError → String
  | .missing name => name ++ " must be set"
  | .invalid name value reason =>
    name ++ " has invalid value " ++ Text.stringLiteral value ++ ": " ++ reason

/-! ### Values -/

namespace Settings

/-- Reads a mode; the error is the reason it is none. -/
def readMode : String → Except String Mode
  | "ONLINE" => .ok .online
  | "OFFLINE" => .ok .offline
  | other => .error ("expected ONLINE or OFFLINE, got " ++ other)

/-- Reads a network. -/
def readNetwork : String → Except String Network
  | "MAINNET" => .ok .mainnet
  | "TESTNET" => .ok .testnet
  | "DEVNET" => .ok .devnet
  | other => .error ("expected MAINNET, TESTNET or DEVNET, got " ++ other)

/-- Reads a format of the log, in either case of its ASCII letters. -/
def readLogFormat (text : String) : Except String LogFormat :=
  match text.map Char.toLower with
  | "json" => .ok .json
  | "pretty" => .ok .pretty
  | other => .error ("expected json or pretty, got " ++ other)

/-- Reads a natural number up to a bound. -/
def readNumber (bound : Nat) (text : String) : Except String Nat :=
  match Numeral.readUnsigned 10 bound text.toList with
  | .ok n => .ok n
  | .error fault => .error fault.message

/-- Reads a number of requests, of which there must be one at least. -/
def readConcurrency (text : String) : Except String Nat :=
  match readNumber (UInt64.size - 1) text with
  | .ok 0 => .error "must be at least 1"
  | answer => answer

/-- Reads an address. -/
def readHost (text : String) : Except String IpAddress :=
  (IpAddress.read? text).elim (.error "invalid IP address syntax") .ok

/-- Reads a URL. -/
def readUrl (text : String) : Except String Url :=
  match Url.parse text with
  | .ok url => .ok url
  | .error e => .error e.message

/-- Reads a truth value. -/
def readBool : String → Except String Bool
  | "true" => .ok true
  | "false" => .ok false
  | _ => .error "provided string was not `true` or `false`"

/-- Reads any text. -/
def readText (text : String) : Except String String := .ok text

/-! ### Variables -/

/-- The value of a variable. -/
def value {α : Type} (name text : String) (read : String → Except String α) :
    Except SettingsError α :=
  match read text with
  | .ok a => .ok a
  | .error reason => .error (.invalid name text reason)

/-- The value of a variable that must be set. -/
def required {α : Type} (lookup : String → Option String) (name : String)
    (read : String → Except String α) : Except SettingsError α :=
  match lookup name with
  | some text => value name text read
  | none => .error (.missing name)

/-- The value of a variable that stands for a text where it is not set. -/
def withText {α : Type} (lookup : String → Option String) (name text : String)
    (read : String → Except String α) : Except SettingsError α :=
  value name ((lookup name).getD text) read

/-- The value of a variable that stands for a value where it is not set. -/
def withDefault {α : Type} (lookup : String → Option String) (name : String) (default : α)
    (read : String → Except String α) : Except SettingsError α :=
  match lookup name with
  | some text => value name text read
  | none => .ok default

/-- The names of the variables. -/
def names : List String :=
  ["MODE", "NETWORK", "PORT", "HOST", "TOMO", "TRACE_CONCURRENCY", "TRACER", "TRACE_TIMEOUT",
    "TRACE_BY_BLOCK", "LOG_FORMAT"]

/-- Reads the variables of a gateway. -/
def read (lookup : String → Option String) : Except SettingsError Settings := do
  let mode ← required lookup "MODE" readMode
  let network ← required lookup "NETWORK" readNetwork
  let portNumber ← required lookup "PORT" (readNumber 65535)
  let host ← withText lookup "HOST" "0.0.0.0" readHost
  let nodeUrl ← withText lookup "TOMO" "http://localhost:8545" readUrl
  let standard : TraceSettings := {}
  let concurrency ← withDefault lookup "TRACE_CONCURRENCY" standard.concurrency readConcurrency
  let tracer ← withDefault lookup "TRACER" standard.tracer readText
  let timeout ← withDefault lookup "TRACE_TIMEOUT" standard.timeout readText
  let byBlock ← withDefault lookup "TRACE_BY_BLOCK" standard.byBlock readBool
  let logFormat ← withDefault lookup "LOG_FORMAT" .pretty readLogFormat
  return { mode, network, host, portNumber, nodeUrl,
           trace := { tracer, timeout, concurrency, byBlock }, logFormat }

/-- Where the gateway listens. -/
def listen (s : Settings) : String := s.host.withSocket s.portNumber

end Settings

end PosvGateway
