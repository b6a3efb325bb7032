import ProductQuery.Json.Writer
/-!
# Log.Event — what is logged

A log line is a JSON object: the event, its severity, and fields in the order of their keys.  Errors go to the error log
and everything else to the main one.
-/
namespace ProductQuery
namespace Log

inductive Severity where
  | info
  | warn
  | error
  deriving DecidableEq, Repr

def Severity.name : Severity → String
  | .info => "INFO"
  | .warn => "WARN"
  | .error => "ERROR"

inductive Event where
  | bootBegin
  | configLoaded
  | catalogLoaded
  | serving
  | queryExecuted
  | queryRejected
  | queryCancelled
  | requestFailed
  deriving DecidableEq, Repr

namespace Event

def all : List Event := [.bootBegin, .configLoaded, .catalogLoaded, .serving, .queryExecuted, .queryRejected,
  .queryCancelled, .requestFailed]

def name : Event → String
  | .bootBegin => "CATALOG_BOOT_BEGIN"
  | .configLoaded => "CONFIG_LOADED"
  | .catalogLoaded => "CATALOG_LOADED"
  | .serving => "SERVING"
  | .queryExecuted => "QUERY_EXECUTED"
  | .queryRejected => "QUERY_REJECTED"
  | .queryCancelled => "QUERY_CANCELLED"
  | .requestFailed => "REQUEST_FAILED"

def ofName? (s : String) : Option Event := all.find? (·.name = s)

def severity : Event → Severity
  | .queryRejected => .warn
  | .queryCancelled => .warn
  | .requestFailed => .error
  | _ => .info

end Event

structure Entry where
  event : Event
  fields : List (String × String)
  deriving DecidableEq, Repr

/-- Fields in the order of their keys; those of one key stay as they are. -/
def orderFields (fields : List (String × String)) : List (String × String) := fields.mergeSort (fun a b => a.1 ≤ b.1)

def fieldChars (key value : String) : List Char := ',' :: (Json.quoted key ++ ':' :: Json.quoted value)

/-- A line without its end, put together from its pieces. -/
def line (severity : Severity) (event : String) (fields : List (String × String)) : String :=
  String.ofList ("\x7b\"event\":".toList ++ Json.quoted event ++ ",\"severity\":".toList ++ Json.quoted severity.name ++
    (orderFields fields).flatMap (fun f => fieldChars f.1 f.2) ++ ['\x7d'])

def render (severity : Severity) (event : String) (fields : List (String × String)) : String :=
  line severity event fields ++ "\n"

namespace Entry

def line (e : Entry) : String := Log.line e.event.severity e.event.name e.fields

/-- Does the entry belong into the error log? -/
def isError (e : Entry) : Bool := e.event.severity = .error

end Entry

def mainLines (entries : List Entry) : List String := (entries.filter (!·.isError)).map Entry.line

def errorLines (entries : List Entry) : List String := (entries.filter Entry.isError).map Entry.line

end Log
end ProductQuery
