import ProductQuery.Catalog.Basic
import ProductQuery.Service.Config
import ProductQuery.Service.Outcome
/-!
# Service.Router — the routes of a service

Two routes take queries and two report on the service.  Every response tells a browser which origins may read it, and
every request with the method `OPTIONS` is a question for just that.
-/
namespace ProductQuery

inductive Route where
  | health
  | metrics
  | query (c : Collection)
  deriving DecidableEq, Repr

namespace Route

def all : List Route := [.health, .metrics, .query .products, .query .attributes]

def path : Route → String
  | .health => "/health"
  | .metrics => "/metrics"
  | .query c => "/" ++ c.name

def methods : Route → List String
  | .query _ => ["POST"]
  | _ => ["GET", "HEAD"]

def isSchemeCharacter (c : Char) : Bool := c.isAlphanum || c = '+' || c = '-' || c = '.'

/-- What stands behind the scheme and the host of a target, if it begins with them. -/
def behindHost? (target : List Char) : Option (List Char) :=
  match target.span isSchemeCharacter with
  | (_ :: _, ':' :: '/' :: '/' :: rest) => some (rest.dropWhile (fun c => c != '/' && c != '?' && c != '#'))
  | _ => none

/-- The path of a target, without a query and a fragment.  A target may begin with a scheme and a host, and then its path
may be left out. -/
def pathOf (target : String) : String :=
  let beforeQuery := fun (l : List Char) => l.takeWhile (fun c => c != '?' && c != '#')
  match behindHost? target.toList with
  | some rest => if beforeQuery rest = [] then "/" else String.ofList (beforeQuery rest)
  | none => String.ofList (beforeQuery target.toList)

def ofTarget? (target : String) : Option Route := all.find? (fun r => r.path = pathOf target)

end Route

structure HttpRequest where
  method : String
  target : String
  headers : List (String × String)
  body : List UInt8

/-- A header's value; the case of names does not matter. -/
def HttpRequest.header? (r : HttpRequest) (name : String) : Option String :=
  (r.headers.find? (fun h => h.1.map Char.toLower = name)).map Prod.snd

/-- The bytes of the origin that a request comes from, if it tells. -/
def HttpRequest.origin? (r : HttpRequest) : Option (List UInt8) := (r.header? "origin").map Text.bytes

structure Response where
  status : Nat
  headers : List (String × String)
  body : String
  deriving DecidableEq, Repr

namespace Response

def bare (status : Nat) : Response := ⟨status, [], ""⟩

def json (status : Nat) (v : Json) : Response := ⟨status, [("content-type", "application/json")], v.text⟩

def withHeaders (r : Response) (headers : List (String × String)) : Response :=
  { r with headers := r.headers ++ headers }

/-- The largest body that is read, in bytes. -/
def bodyLimit : Nat := 2 * 1024 * 1024

/-- The response to a body beyond the limit. -/
def bodyTooLarge : Response :=
  ⟨413, [("content-type", "text/plain; charset=utf-8")], "Failed to buffer the request body: length limit exceeded"⟩

end Response

/-- The collection that a request queries, if it gets to the handler of a query. -/
def HttpRequest.queried? (r : HttpRequest) : Option Collection :=
  if r.method = "POST" ∧ r.body.length ≤ Response.bodyLimit then
    match Route.ofTarget? r.target with
    | some (.query c) => some c
    | _ => none
  else none

def ServiceError.response (e : ServiceError) : Response := .json e.status e.toJson

def Outcome.response {R F K : Type} [Queryable R F K] (t : Timing) (o : Outcome R) : Response :=
  .json o.status (o.toJson t)

/-- A service: its records and how they are queried, who may call, and how its queries are slowed down. -/
structure Service where
  products : Engine Product
  attributes : Engine Definition
  config : ServiceConfig
  delay : Delay

/-- A response, the counters after it, and what was logged. -/
structure Handled where
  response : Response
  counters : Counters
  log : List Log.Entry

namespace Service

def ofCatalog (c : Catalog) (policy : Policy) (config : ServiceConfig) (delay : Delay := .none) : Service :=
  ⟨c.productEngine policy, c.attributeEngine policy, config, delay⟩

def version : String := "0.1.0"

def health : Json := .object [("status", .string "ok"), ("version", .string version)]

/-- Does the handling of a request have to wait?  Nothing if its handler finds no delay to draw. -/
def wait? (s : Service) (draw : Draw) (r : HttpRequest) : Option Bool :=
  match r.queried? with
  | some .products => Outcome.wait? s.products s.delay draw r.body
  | some .attributes => Outcome.wait? s.attributes s.delay draw r.body
  | none => some false

/-- Answers a query whose delay is over, counts it and logs it. -/
def handleQuery {R F K : Type} [Queryable R F K] (e : Engine R) (t : Timing) (c : Counters) (body : List UInt8) :
    Handled :=
  if Response.bodyLimit < body.length then ⟨.bodyTooLarge, c, []⟩
  else
    let o := Outcome.ofBody e t body
    ⟨o.response t, c.count o.ending, [o.entry t]⟩

/-- What a route answers to one of its methods. -/
def serve (s : Service) (t : Timing) (c : Counters) (body : List UInt8) : Route → Handled
  | .health => ⟨.json 200 health, c, []⟩
  | .metrics => ⟨.json 200 c.toJson, c, []⟩
  | .query .products => handleQuery s.products t c body
  | .query .attributes => handleQuery s.attributes t c body

/-- The methods of a route, as a refusal lists them. -/
def allowHeader (route : Option Route) : List (String × String) :=
  (route.map (fun r => ("allow", ",".intercalate r.methods))).toList

/-- The headers that tell who may read a response. -/
def corsHeaders (s : Service) (r : HttpRequest) : List (String × String) :=
  ("vary", "origin, access-control-request-method, access-control-request-headers") ::
    ((s.config.allowed? r.origin?).map (fun v => ("access-control-allow-origin", v))).toList

/-- The headers that tell what a browser may send. -/
def preflightHeaders : List (String × String) :=
  [("access-control-allow-methods", "GET,POST"), ("access-control-allow-headers", "*")]

/-- A response as the method asks for it: to `HEAD` without the body. -/
def forMethod (method : String) (h : Handled) : Handled :=
  if method = "HEAD" then { h with response := { h.response with body := "" } } else h

/-- The answer of the routes, without the headers for browsers. -/
def dispatch (s : Service) (t : Timing) (c : Counters) (r : HttpRequest) : Handled :=
  let route := Route.ofTarget? r.target
  if r.method = "OPTIONS" then ⟨(Response.bare 200).withHeaders (preflightHeaders ++ allowHeader route), c, []⟩
  else
    match route with
    | none => ⟨.bare 404, c, []⟩
    | some found =>
      if found.methods.contains r.method then forMethod r.method (s.serve t c r.body found)
      else ⟨(Response.bare 405).withHeaders (allowHeader route), c, []⟩

/-- Handles a request whose delay is over. -/
def handle (s : Service) (t : Timing) (c : Counters) (r : HttpRequest) : Handled :=
  let h := s.dispatch t c r
  { h with response := h.response.withHeaders (s.corsHeaders r) }

/-- Handles a request from its beginning; nothing if its handler finds no delay to draw, and so ends without a
response. -/
def handle? (s : Service) (chance : Chance) (c : Counters) (r : HttpRequest) : Option Handled :=
  (s.wait? chance.draw r).map (fun delayed => s.handle ⟨delayed, chance.duration⟩ c r)

end Service
end ProductQuery
