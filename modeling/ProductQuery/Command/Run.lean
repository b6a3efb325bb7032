import ProductQuery.Catalog.Document
import ProductQuery.Command.Answer
import ProductQuery.Command.Arguments
import ProductQuery.Command.Config
import ProductQuery.Service.Router
/-!
# Command.Run — running a command

Both commands begin by reading the settings and the documents, and log how far they come.  `query` then answers one
request.  A run reads files and its input through functions that it is given, in whatever way they work.
-/
namespace ProductQuery

inductive CommandError where
  | config (fault : ConfigFault)
  | body (e : Json.SyntaxError)
  | input (reason : String)
  | catalog (e : CatalogError)
  | serve (reason : String)
  deriving Repr

namespace CommandError

def code : CommandError → String
  | .config _ => "CATALOG_CLI_CONFIG_ERROR"
  | .body _ => "CATALOG_CLI_IO_ERROR"
  | .input _ => "CATALOG_CLI_IO_ERROR"
  | .catalog _ => "CATALOG_CLI_LOAD_FAILED"
  | .serve _ => "CATALOG_CLI_SERVE_FAILED"

def message : CommandError → String
  | .config fault => fault.message
  | .body e => s!"JSON error: {e.message}"
  | .input reason => reason
  | .catalog e => e.message
  | .serve reason => reason

def display (e : CommandError) : String := e.code ++ ": " ++ e.message

end CommandError

/-- What a command logged, and its result. -/
structure Logged (α : Type) where
  log : List Log.Entry
  result : Except CommandError α

namespace Command

variable {m : Type → Type} [Monad m]

/-- Reads the catalog that the settings name. -/
def loadCatalog (read : String → m Contents) (c : Config) : m (Except CommandError Catalog) := do
  let products ← read c.productsPath
  let attributes ← read c.attributesPath
  return (Catalog.load c.productsPath products c.attributesPath attributes).mapError .catalog

def boot (read : String → m Contents) (path : String) : m (Logged (Config × Catalog)) := do
  let begun : List Log.Entry := [⟨.bootBegin, []⟩]
  match Config.ofContents (← read path) with
  | .error fault => return ⟨begun, .error (.config fault)⟩
  | .ok config =>
    let configured : List Log.Entry := begun ++ [⟨.configLoaded, [("path", path)]⟩]
    match ← loadCatalog read config with
    | .error e => return ⟨configured, .error e⟩
    | .ok catalog =>
      let fields := [("attributes", toString catalog.attributes.length), ("products", toString catalog.products.length)]
      return ⟨configured ++ [⟨.catalogLoaded, fields⟩], .ok (config, catalog)⟩

/-- Answers the request that the input holds.  `elapsed` gives the milliseconds that the answer reports. -/
def query (read : String → m Contents) (input : m (List UInt8)) (elapsed : m UInt64) (c : Collection) (path : String) :
    m (Logged Json) := do
  let booted ← boot read path
  match booted.result with
  | .error e => return ⟨booted.log, .error e⟩
  | .ok (config, catalog) =>
    let body ← input
    let duration ← elapsed
    let products := catalog.productEngine config.policy
    let attributes := catalog.attributeEngine config.policy
    return ⟨booted.log, (answerFrom products attributes c duration body).mapError .body⟩

def service (read : String → m Contents) (path : String) : m (Logged (Config × Service)) := do
  let booted ← boot read path
  return ⟨booted.log, booted.result.map (fun (config, catalog) =>
    (config, Service.ofCatalog catalog config.policy config.service config.latency.delay))⟩

end Command
end ProductQuery
