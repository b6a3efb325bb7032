import ProductQuery.Json.Decode
import ProductQuery.Service.Address
/-!
# Service.Config — where a service listens and who may call it

The host is an address, not a name.  An origin is a scheme and a host, as browsers send it, without a path.  If no
origins are listed every origin may call.
-/
namespace ProductQuery

structure ServiceConfig where
  host : String
  port : UInt16
  corsOrigins : List String
  deriving DecidableEq, Repr

inductive ServiceFault where
  | host (name : String)
  | originScheme (origin : String)
  | originPath (origin : String)
  | originCharacters (origin : String)
  deriving DecidableEq, Repr

def ServiceFault.message : ServiceFault → String
  | .host name => s!"http.host '{name}' is not an IP address: invalid IP address syntax"
  | .originScheme origin => s!"CORS origin '{origin}' must start with http:// or https://"
  | .originPath origin => s!"CORS origin '{origin}' must be scheme://host[:port] with no path"
  | .originCharacters origin => s!"CORS origin '{origin}' is not a valid header value: failed to parse header value"

namespace ServiceConfig

/-- Every host, port 3000, every origin. -/
def standard : ServiceConfig := ⟨"0.0.0.0", 3000, []⟩

def shape : Json.Shape := ⟨"struct HttpServerConfig", ["host", "port", "cors_origins"]⟩

def decode : Json.Decoder ServiceConfig := Json.Decode.record .text shape fun r =>
  ServiceConfig.mk <$> r.defaulted shape "host" standard.host Json.Decode.string
    <*> r.defaulted shape "port" standard.port Json.Decode.uint16
    <*> r.defaulted shape "cors_origins" standard.corsOrigins (Json.Decode.list Json.Decode.string)

def toJson (c : ServiceConfig) : Json :=
  .object [("host", .string c.host), ("port", .number (.ofNat c.port.toNat)),
    ("cors_origins", .array (c.corsOrigins.map Json.string))]

def listenAddress (c : ServiceConfig) : Except ServiceFault String :=
  match Address.ofText? c.host with
  | some a => .ok (a.withPort c.port)
  | none => .error (.host c.host)

def isHeaderByte (b : UInt8) : Bool := (0x20 ≤ b && b != 0x7F) || b = 0x09

/-- What stands behind the scheme of an origin. -/
def behindScheme? (origin : List Char) : Option (List Char) :=
  let plain := "http://".toList
  let secure := "https://".toList
  if plain.isPrefixOf origin then some (origin.drop plain.length)
  else if secure.isPrefixOf origin then some (origin.drop secure.length)
  else none

def checkOrigin (origin : String) : Except ServiceFault Unit :=
  match behindScheme? origin.toList with
  | none => .error (.originScheme origin)
  | some rest =>
    if rest = [] ∨ '/' ∈ rest then .error (.originPath origin)
    else if (Text.bytes origin).all isHeaderByte then .ok ()
    else .error (.originCharacters origin)

def isOrigin (origin : String) : Bool := (checkOrigin origin).toOption.isSome

/-- Checks the host, then the origins in turn. -/
def check (c : ServiceConfig) : Except ServiceFault Unit := do
  let _ ← c.listenAddress
  c.corsOrigins.forM checkOrigin

/-- The value that allows an origin, if it may call: any, or the entry with just its bytes.  Entries that are no origins
allow nothing. -/
def allowed? (c : ServiceConfig) (origin : Option (List UInt8)) : Option String :=
  if c.corsOrigins.isEmpty then some "*"
  else origin.bind (fun bytes => (c.corsOrigins.filter isOrigin).find? (fun entry => Text.bytes entry = bytes))

end ServiceConfig
end ProductQuery
