import ProductQuery.Proofs.AcceptedSettings
import ProductQuery.Proofs.ByteOrder
import ProductQuery.Service.Router
/-!
# Proofs.AllowedOrigins — which origins may read a response

If the settings list origins, a response allows the entry that has the bytes of the origin of its request, and nothing
else (`ServiceConfig.allowed?_eq_some_iff`).  Entries that are no origins are passed over, but the choice between any
origin and the listed ones is made before that, so a list without any origin allows none.  Settings that were accepted
list origins only, so none of their entries is passed over (`ServiceConfig.isOrigin_of_check`).
-/
namespace ProductQuery

namespace ServiceConfig

variable {c : ServiceConfig} {origin : Option (List UInt8)} {v : String}

theorem ne_wildcard_of_isOrigin (h : isOrigin v = true) : v ≠ "*" := by
  rintro rfl
  have hno : isOrigin "*" = false := by decide +kernel
  rw [hno] at h
  cases h

/-- **Settings that pass their check list origins only.** -/
theorem isOrigin_of_check (h : c.check = .ok ()) (hv : v ∈ c.corsOrigins) : isOrigin v = true := by
  obtain ⟨_, -, horigins⟩ := bind_eq_ok_iff.1 h
  have hcheck : checkOrigin v = .ok () := forM_eq_ok_iff.1 horigins v hv
  rw [isOrigin, hcheck]
  rfl

theorem allowed?_of_nil (h : c.corsOrigins = []) (origin : Option (List UInt8)) : c.allowed? origin = some "*" := by
  rw [allowed?, h]
  rfl

/-- **What a list of origins allows.** -/
theorem allowed?_eq_some_iff (h : c.corsOrigins ≠ []) : c.allowed? origin = some v ↔
    v ∈ c.corsOrigins ∧ isOrigin v = true ∧ origin = some (Text.bytes v) := by
  have hlisted : ¬c.corsOrigins.isEmpty = true := mt List.isEmpty_iff.1 h
  rw [allowed?, if_neg hlisted, Option.bind_eq_some_iff]
  constructor
  · rintro ⟨bytes, horigin, hfind⟩
    have hbytes : Text.bytes v = bytes := by simpa using List.find?_some hfind
    obtain ⟨hv, hvalid⟩ := List.mem_filter.1 (List.mem_of_find?_eq_some hfind)
    exact ⟨hv, hvalid, hbytes ▸ horigin⟩
  · rintro ⟨hv, hvalid, horigin⟩
    refine ⟨_, horigin, ?_⟩
    -- Whichever entry has these bytes is the same text.
    have hmem : v ∈ c.corsOrigins.filter isOrigin := List.mem_filter.2 ⟨hv, hvalid⟩
    have hsome : ((c.corsOrigins.filter isOrigin).find? (fun entry => Text.bytes entry = Text.bytes v)).isSome :=
      List.find?_isSome.2 ⟨v, hmem, decide_eq_true rfl⟩
    obtain ⟨w, hw⟩ := Option.isSome_iff_exists.1 hsome
    have hbytes : Text.bytes w = Text.bytes v := by simpa using List.find?_some hw
    rw [hw, Text.bytes_inj.1 hbytes]

end ServiceConfig

/-! ## Responses -/

/-- The origins that a response tells a browser may read it. -/
def Response.allowedOrigins (r : Response) : List String :=
  (r.headers.filter (fun h => h.1 = "access-control-allow-origin")).map Prod.snd

theorem Response.allowedOrigins_withHeaders (r : Response) (headers : List (String × String)) :
    (r.withHeaders headers).allowedOrigins = r.allowedOrigins ++
      (headers.filter (fun h => h.1 = "access-control-allow-origin")).map Prod.snd := by
  rw [allowedOrigins, withHeaders, List.filter_append, List.map_append]
  rfl

namespace Service

variable (s : Service) (t : Timing) (k : Counters) (r : HttpRequest)

theorem allowedOrigins_serve (body : List UInt8) (route : Route) :
    (s.serve t k body route).response.allowedOrigins = [] := by
  have hquery : ∀ {R F K : Type} [Queryable R F K] (e : Engine R), (handleQuery e t k body).response.allowedOrigins = [] := by
    intro R F K _ e
    unfold handleQuery
    split <;> rfl
  cases route with
  | health => rfl
  | metrics => rfl
  | query c =>
    cases c with
    | products => exact hquery s.products
    | attributes => exact hquery s.attributes

/-- No route tells who may read its responses. -/
theorem allowedOrigins_dispatch : (s.dispatch t k r).response.allowedOrigins = [] := by
  unfold dispatch
  dsimp only
  split
  · cases Route.ofTarget? r.target <;> rfl
  split
  · rfl
  · rename_i found htarget
    split
    · unfold forMethod
      split
      · exact s.allowedOrigins_serve t k r.body found
      · exact s.allowedOrigins_serve t k r.body found
    · rw [htarget]
      rfl

/-- **Every response allows what the settings allow to the origin of its request.** -/
theorem allowedOrigins_handle :
    (s.handle t k r).response.allowedOrigins = (s.config.allowed? r.origin?).toList := by
  rw [handle, Response.allowedOrigins_withHeaders, allowedOrigins_dispatch, List.nil_append, corsHeaders]
  cases s.config.allowed? r.origin? <;> rfl

end Service

/-- **Who may read a response is what the settings list.**  Settings that were accepted and list no origin let any origin
read; if they list some, an origin may read exactly if an entry has its bytes, and is then told that entry.  Settings that
were not checked and list anything allow no more than what they list.  And every response of a service says so, once. -/
theorem allowed_as_listed :
    (∀ text c, Config.ofSymbols text = .ok c → ∀ origin,
      (c.service.corsOrigins = [] → c.service.allowed? origin = some "*") ∧
      (c.service.corsOrigins ≠ [] → ∀ v, c.service.allowed? origin = some v ↔
        v ∈ c.service.corsOrigins ∧ origin = some (Text.bytes v))) ∧
    (∀ (c : ServiceConfig) origin v, c.corsOrigins ≠ [] → c.allowed? origin = some v →
      v ≠ "*" ∧ v ∈ c.corsOrigins ∧ origin = some (Text.bytes v)) ∧
    ∀ (s : Service) t k r, (s.handle t k r).response.allowedOrigins = (s.config.allowed? r.origin?).toList := by
  refine ⟨fun text c h origin => ⟨fun hnil => ServiceConfig.allowed?_of_nil hnil origin, fun hne v => ?_⟩,
    fun c origin v hne h => ?_, fun s t k r => s.allowedOrigins_handle t k r⟩
  · obtain ⟨-, -, hservice, -⟩ := Config.check_eq_ok_iff.1 (Config.ofSymbols_eq_ok_iff.1 h).2
    rw [ServiceConfig.allowed?_eq_some_iff hne]
    constructor
    · rintro ⟨hv, -, horigin⟩
      exact ⟨hv, horigin⟩
    · rintro ⟨hv, horigin⟩
      exact ⟨hv, ServiceConfig.isOrigin_of_check hservice hv, horigin⟩
  · obtain ⟨hv, hvalid, horigin⟩ := (ServiceConfig.allowed?_eq_some_iff hne).1 h
    exact ⟨ServiceConfig.ne_wildcard_of_isOrigin hvalid, hv, horigin⟩

/-- Accepted settings that list two origins allow the second, and settings that also list what is no origin still allow
the one that is. -/
theorem allowed_as_listed_shop :
    let text := Symbol.ofText ("\x7b\"products_path\":\"p.json\",\"attributes_path\":\"a.json\",\"http\":" ++
      "\x7b\"cors_origins\":[\"http://localhost:5173\",\"https://shop.example.com\"]\x7d\x7d")
    let origins := ["http://localhost:5173", "https://shop.example.com"]
    let c : Config := ⟨"p.json", "a.json", ⟨"0.0.0.0", 3000, origins⟩, .strict, .standard⟩
    let unchecked : ServiceConfig := ⟨"localhost", 0, ["*", "http://localhost:5173"]⟩
    Config.ofSymbols text = .ok c ∧
      c.service.allowed? (some (Text.bytes "https://shop.example.com")) = some "https://shop.example.com" ∧
      unchecked.allowed? (some (Text.bytes "http://localhost:5173")) = some "http://localhost:5173" ∧
      "http://localhost:5173" ∈ unchecked.corsOrigins := by
  intro text origins c unchecked
  have hproducts : Config.checkPath "products_path" "p.json" = .ok () :=
    Config.checkPath_of_head rfl (by rw [Config.blanks_eq]; decide)
  have hattributes : Config.checkPath "attributes_path" "a.json" = .ok () :=
    Config.checkPath_of_head rfl (by rw [Config.blanks_eq]; decide)
  have hservice : c.service.check = .ok () := eq_ok_of_toOption (by decide +kernel)
  have hcheck : c.check = .ok () := Config.check_eq_ok_iff.2 ⟨hproducts, hattributes, hservice, rfl⟩
  have hread : Config.ofSymbols text = .ok c :=
    Config.ofSymbols_eq_ok_iff.2 ⟨eq_ok_of_toOption (by decide +kernel), hcheck⟩
  obtain ⟨haccepted, hany, -⟩ := allowed_as_listed
  obtain ⟨-, hlisted⟩ := haccepted text c hread (some (Text.bytes "https://shop.example.com"))
  have hallowed : unchecked.allowed? (some (Text.bytes "http://localhost:5173")) = some "http://localhost:5173" := by
    decide +kernel
  obtain ⟨-, hmem, -⟩ := hany unchecked _ _ (List.cons_ne_nil _ _) hallowed
  exact ⟨hread, (hlisted (List.cons_ne_nil _ _) _).2 ⟨List.mem_cons_of_mem _ List.mem_cons_self, rfl⟩, hallowed, hmem⟩

end ProductQuery
