import ProductQuery.Query.Delay
import ProductQuery.Query.Window
import ProductQuery.Service.Config
import ProductQuery.Storage.File
import ProductQuery.Text.Unicode.Property
/-!
# Command.Config — the settings of a run

The settings name the two documents, say how the service is reached and slowed down, and choose the policy.  They are
checked in the order of the members, the first fault is reported.
-/
namespace ProductQuery

/-- How much a service is slowed down; the bounds count milliseconds. -/
structure Latency where
  enabled : Bool
  minMs : UInt64
  maxMs : UInt64
  deriving DecidableEq, Repr

namespace Latency

def standard : Latency := ⟨true, 300, 1000⟩

def shape : Json.Shape := ⟨"struct LatencyConfig", ["enabled", "min_ms", "max_ms"]⟩

def decode : Json.Decoder Latency := Json.Decode.record .text shape fun r =>
  Latency.mk <$> r.defaulted shape "enabled" standard.enabled Json.Decode.bool
    <*> r.defaulted shape "min_ms" standard.minMs Json.Decode.uint64
    <*> r.defaulted shape "max_ms" standard.maxMs Json.Decode.uint64

def toJson (l : Latency) : Json :=
  .object [("enabled", .bool l.enabled), ("min_ms", .number (.ofUInt64 l.minMs)),
    ("max_ms", .number (.ofUInt64 l.maxMs))]

/-- The microseconds of a number of milliseconds. -/
def micros (ms : UInt64) : Nat := ms.toNat * 1000

def delay (l : Latency) : Delay :=
  if !l.enabled then .none
  else if l.minMs = l.maxMs then .fixed (micros l.minMs)
  else .random (micros l.minMs) (micros l.maxMs)

end Latency

structure Config where
  productsPath : String
  attributesPath : String
  service : ServiceConfig
  policy : Policy
  latency : Latency
  deriving DecidableEq, Repr

inductive ConfigFault where
  | unreadable (fault : ReadFault)
  | invalid (e : Json.DecodeError)
  | emptyPath (member : String)
  | service (fault : ServiceFault)
  | latency (minMs maxMs : UInt64)
  | stated (reason : String)
  deriving Repr

def ConfigFault.message : ConfigFault → String
  | .unreadable fault => s!"Failed to read config: {fault.message}"
  | .invalid e => s!"Invalid config JSON: {e.message}"
  | .emptyPath member => s!"{member} must not be empty"
  | .service fault => fault.message
  | .latency a b => s!"latency.min_ms ({a.toNat}) must not exceed latency.max_ms ({b.toNat})"
  | .stated reason => reason

namespace Config

def shape : Json.Shape :=
  ⟨"struct Config", ["products_path", "attributes_path", "http", "field_policy", "latency"]⟩

def decode : Json.Decoder Config := Json.Decode.record .text shape fun r =>
  Config.mk <$> r.required shape "products_path" Json.Decode.string
    <*> r.required shape "attributes_path" Json.Decode.string
    <*> r.defaulted shape "http" .standard ServiceConfig.decode
    <*> r.defaulted shape "field_policy" .strict Policy.decode
    <*> r.defaulted shape "latency" .standard Latency.decode

def toJson (c : Config) : Json :=
  .object [("products_path", .string c.productsPath), ("attributes_path", .string c.attributesPath),
    ("http", c.service.toJson), ("field_policy", .string c.policy.name), ("latency", c.latency.toJson)]

def blanks : CharSet := .decode Property.whiteSpaceRuns

/-- A path is empty if it holds nothing but white space. -/
def checkPath (member path : String) : Except ConfigFault Unit :=
  if path.toList.all blanks.contains then .error (.emptyPath member) else .ok ()

/-- The least delay is not above the greatest, unless there is no delay. -/
def checkLatency (l : Latency) : Except ConfigFault Unit :=
  if l.enabled ∧ l.maxMs < l.minMs then .error (.latency l.minMs l.maxMs) else .ok ()

def check (c : Config) : Except ConfigFault Unit := do
  checkPath "products_path" c.productsPath
  checkPath "attributes_path" c.attributesPath
  c.service.check.mapError .service
  checkLatency c.latency

def ofSymbols (text : List Symbol) : Except ConfigFault Config := do
  let c ← (Json.Decode.text decode text).mapError .invalid
  c.check
  return c

def ofContents (contents : Contents) : Except ConfigFault Config := do
  let text ← contents.symbols.mapError .unreadable
  ofSymbols text

end Config
end ProductQuery
