import AdkGateway.GatewayRoutes.Routes

namespace AdkGateway.GatewayRoutes

open Foundation Routing ControlPanel

/-- `validate` tells whether a token is accepted at the moment, with the keys of the identity
provider. -/
structure JwtValidator where
  validate : String → Bool

structure WebhookHandler where
  enabled : Bool
  token : Option String

/-- How many webhook requests there have been in the current minute. -/
structure RateCounter where
  windowStart : DateTime
  count : ℕ

/-- `auth` and `gatewayAuth` are the two auth sections of the configuration, and `awpRoutes` are what
the protocol's library adds. -/
structure GatewayState where
  now : DateTime
  auth : Option ControlPanel.AuthConfig
  gatewayAuth : Option ControlPanel.AuthConfig
  uiSessions : UiSessions
  jwtValidator : Option JwtValidator
  webhook : WebhookHandler
  rate : RateCounter
  awpRoutes : Option (List Endpoint)

structure Request where
  method : Method
  path : String
  authorization : Option String
  cookieHeader : Option String

def stripPrefix (pre s : String) : Option String :=
  (pre.toList.isPrefixOf? s.toList).map String.ofList

def bearerToken (request : Request) : Option String :=
  request.authorization.bind (stripPrefix "Bearer ")

section Serve

variable (gateway : GatewayState) (request : Request)

def jwtAuthMiddleware (validator : JwtValidator) : Bool :=
  (bearerToken request).any validator.validate

def passes : Layer → Bool
  | .jwtAuthMiddleware => gateway.jwtValidator.all (jwtAuthMiddleware request)
  | .authGuard =>
    admits gateway.auth gateway.uiSessions gateway.now request.path request.cookieHeader

def validateToken : Bool :=
  match gateway.webhook.token with
  | none => true
  | some expected => (bearerToken request).any (· = expected)

def isWithinRate : Bool :=
  let count :=
    if gateway.now - gateway.rate.windowStart > DateTime.seconds 60 then 0 else gateway.rate.count
  count < 60

def webhookRoute : Bool :=
  isWithinRate gateway && gateway.webhook.enabled && validateToken gateway request

def serve : Option Endpoint :=
  (call (passes gateway request)
    (buildRouter gateway.jwtValidator.isSome gateway.awpRoutes) request.method request.path).filter
    fun endpoint ↦ endpoint.path ≠ webhookPath || webhookRoute gateway request

def HasLiveSession : Prop :=
  ∃ token, sessionToken request.cookieHeader = some token ∧
    ∃ session, gateway.uiSessions.lookup token = some session ∧
      session.isLive token gateway.now = true

def HasJwt : Prop :=
  ∃ validator, gateway.jwtValidator = some validator ∧
    ∃ token, bearerToken request = some token ∧ validator.validate token = true

def HasWebhookToken : Prop :=
  ∃ token, gateway.webhook.token = some token ∧ bearerToken request = some token

end Serve

/-- An auth section asks for a password or a token that is not empty. -/
def SetsSecret (auth : Option ControlPanel.AuthConfig) : Prop :=
  ∃ config secret, auth = some config ∧ secret ≠ "" ∧
    (config.mode = .password ∧ config.password = some secret ∨
      config.mode = .token ∧ config.token = some secret)

/-- All handlers that are not public are run only with credentials, wherever the secret is set. -/
def EnforcedEverywhere : Prop :=
  ∀ gateway request endpoint, SetsSecret gateway.auth ∨ SetsSecret gateway.gatewayAuth →
    serve gateway request = some endpoint → endpoint.path ∉ publicPaths →
    HasLiveSession gateway request ∨ HasJwt gateway request ∨
      endpoint.path = webhookPath ∧ HasWebhookToken gateway request

structure Credentialed (gateway : GatewayState) (request : Request) (endpoint : Endpoint) : Prop where
  jwt : gateway.jwtValidator ≠ none → HasJwt gateway request
  session : endpoint ∈ endpoints protectedRoutes → HasLiveSession gateway request
  webhook : endpoint.path = webhookPath → gateway.webhook.token ≠ none →
    HasWebhookToken gateway request

section Enforced

variable {gateway : GatewayState} {request : Request} {endpoint : Endpoint}

theorem isAuthRequired_of_setsSecret {auth : Option ControlPanel.AuthConfig} (h : SetsSecret auth) :
    isAuthRequired auth = true := by
  obtain ⟨config, secret, rfl, -, ⟨hmode, hsecret⟩ | ⟨hmode, hsecret⟩⟩ := h
  · simp [isAuthRequired, hmode, hsecret]
  · simp [isAuthRequired, hmode, hsecret]

theorem protected_paths : ∀ endpoint ∈ endpoints protectedRoutes,
    ¬ endpoint.Matches "/ui/api/login" ∧ ¬ endpoint.Matches "/ui/api/auth/check" ∧
      ¬ endpoint.Matches "/pairing/generate" := by
  simp only [protectedRoutes, endpoints, route, List.map_cons, List.map_nil, List.forall_mem_cons]
  repeat' apply And.intro
  all_goals first | exact not_matches_of_ofList rfl rfl (by decide) | exact List.forall_mem_nil _

theorem authGuard_of_mem {r : Route Layer} (h : r ∈ ownRoutes ++ buildRoutes)
    (hpublic : r.endpoint.path ∉ publicPaths) (hprotected : r.endpoint ∈ endpoints protectedRoutes) :
    .authGuard ∈ r.layers := by
  have hends : r.endpoint ∉ endpoints (unprotectedRoutes ++ publicRoutes ++ nestService "/ui") :=
    fun h ↦ hpublic (public_of_mem h)
  rw [buildRoutes, List.mem_append, List.mem_append, List.mem_append] at h
  rw [endpoints_append, endpoints_append, List.mem_append, List.mem_append] at hends
  rcases h with hown | (hends' | hguarded) | hnest
  · exact absurd hprotected (own_not_protected _ (List.mem_map_of_mem hown))
  · exact absurd (.inl (.inr (List.mem_map_of_mem hends'))) hends
  · exact (mem_layer hguarded).1
  · exact absurd (.inr (List.mem_map_of_mem hnest)) hends

/-- A route that is neither public nor of the protocol is called through its layers. -/
theorem layers_of_mem {r : Route Layer}
    (h : r ∈ buildRouter gateway.jwtValidator.isSome gateway.awpRoutes)
    (hpublic : r.endpoint.path ∉ publicPaths)
    (hawp : r.endpoint ∉ endpoints (awpRouter gateway.awpRoutes)) :
    (gateway.jwtValidator ≠ none → .jwtAuthMiddleware ∈ r.layers) ∧
      (r.endpoint ∈ endpoints protectedRoutes → .authGuard ∈ r.layers) := by
  rw [buildRouter, List.mem_append, List.mem_append] at h
  rcases h with (hunprotected | hguarded) | hr
  · have hends : r.endpoint ∈
        endpoints (unprotectedRoutes ++ publicRoutes ++ nestService "/ui") := by
      rw [endpoints_append, endpoints_append, List.mem_append, List.mem_append]
      exact .inl (.inl (List.mem_map_of_mem hunprotected))
    exact absurd (public_of_mem hends) hpublic
  · split at hguarded
    next =>
      obtain ⟨r, hr, rfl⟩ := List.mem_map.mp hguarded
      constructor
      · intro _
        exact List.mem_cons_self
      · intro hprotected
        exact List.mem_cons_of_mem _ (authGuard_of_mem hr hpublic hprotected)
    next hnone =>
      constructor
      · intro hvalidator
        exact absurd (Option.isSome_iff_ne_none.mpr hvalidator) hnone
      · exact authGuard_of_mem hguarded hpublic
  · exact absurd (List.mem_map_of_mem hr) hawp

theorem hasJwt_of_passes (h : passes gateway request .jwtAuthMiddleware = true)
    (hvalidator : gateway.jwtValidator ≠ none) : HasJwt gateway request := by
  obtain ⟨validator, hvalidator⟩ := Option.ne_none_iff_exists'.mp hvalidator
  rw [passes, hvalidator, Option.all_some] at h
  rw [jwtAuthMiddleware, Option.any_eq_true] at h
  obtain ⟨token, htoken, hvalid⟩ := h
  exact ⟨validator, hvalidator, token, htoken, hvalid⟩

theorem hasLiveSession_of_passes (h : passes gateway request .authGuard = true)
    (hauth : SetsSecret gateway.auth) (hmem : endpoint ∈ endpoints protectedRoutes)
    (hmatches : endpoint.Matches request.path) : HasLiveSession gateway request := by
  obtain ⟨hlogin, hcheck, -⟩ := protected_paths endpoint hmem
  have hpath : request.path ≠ "/ui/api/login" ∧ request.path ≠ "/ui/api/auth/check" := by
    constructor
    · intro heq
      exact hlogin (heq ▸ hmatches)
    · intro heq
      exact hcheck (heq ▸ hmatches)
  exact (admits_iff (isAuthRequired_of_setsSecret hauth) hpath).mp h

theorem hasWebhookToken_of_webhookRoute (h : webhookRoute gateway request = true)
    (htoken : gateway.webhook.token ≠ none) : HasWebhookToken gateway request := by
  obtain ⟨expected, hexpected⟩ := Option.ne_none_iff_exists'.mp htoken
  obtain ⟨-, hvalid⟩ := Bool.and_eq_true_iff.mp h
  rw [validateToken, hexpected] at hvalid
  rw [Option.any_eq_true] at hvalid
  obtain ⟨token, htoken, heq⟩ := hvalid
  obtain rfl := of_decide_eq_true heq
  exact ⟨token, hexpected, htoken⟩

end Enforced

/-- With a secret for the control panel, a handler that is neither public nor of the protocol is run
only for a request that carries what its route asks for. -/
theorem credentialed_of_serve {gateway : GatewayState} {request : Request} {endpoint : Endpoint}
    (hauth : SetsSecret gateway.auth) (h : serve gateway request = some endpoint)
    (hpublic : endpoint.path ∉ publicPaths)
    (hawp : endpoint ∉ endpoints (awpRouter gateway.awpRoutes)) :
    Credentialed gateway request endpoint := by
  obtain ⟨hcall, hwebhook⟩ := Option.filter_eq_some_iff.mp h
  obtain ⟨r, hmem, rfl, hmatches, hpasses⟩ := exists_route_of_call hcall
  obtain ⟨hjwt, hguard⟩ := layers_of_mem hmem hpublic hawp
  refine ⟨fun hvalidator ↦ ?_, fun hprotected ↦ ?_, fun hpath htoken ↦ ?_⟩
  · exact hasJwt_of_passes (hpasses _ (hjwt hvalidator)) hvalidator
  · exact hasLiveSession_of_passes (hpasses _ (hguard hprotected)) hauth hprotected hmatches
  · refine hasWebhookToken_of_webhookRoute ?_ htoken
    simpa [hpath] using hwebhook

def passwordGateway : GatewayState :=
  { now := DateTime.hours 1
    auth := some ⟨.password, none, some "s"⟩
    gatewayAuth := none
    uiSessions := AList.insert "t" ⟨"t", DateTime.hours 0⟩ ∅
    jwtValidator := none
    webhook := ⟨true, none⟩
    rate := ⟨DateTime.hours 1, 0⟩
    awpRoutes := none }

theorem dashboard_elsewhere : ∀ endpoint ∈ endpoints protectedRoutes.tail,
    ¬ endpoint.Matches "/ui/api/dashboard" := by
  simp only [protectedRoutes, endpoints, route, List.tail_cons, List.map_cons, List.map_nil,
    List.forall_mem_cons]
  repeat' apply And.intro
  all_goals first | exact not_matches_of_ofList rfl rfl (by decide) | exact List.forall_mem_nil _

theorem dispatch_dashboard : dispatch "/ui/api/dashboard" (buildRouter false none) =
    some ⟨⟨"/ui/api/dashboard", some [.get]⟩, [.authGuard]⟩ := by
  have hsplit : buildRouter false none = (unprotectedRoutes ++ ownRoutes ++ publicRoutes) ++
      ⟨⟨"/ui/api/dashboard", some [.get]⟩, [.authGuard]⟩ ::
        (layer .authGuard protectedRoutes.tail ++ nestService "/ui") := by
    simp [buildRouter, buildRoutes, protectedRoutes, layer, route, awpRouter]
  rw [hsplit]
  refine dispatch_eq_some (by decide +kernel) (by decide +kernel) fun e he hmatches ↦ ?_
  rw [endpoints_append, endpoints_layer, List.mem_append] at he
  rcases he with hguarded | hfiles
  · exact absurd hmatches (dashboard_elsewhere e hguarded)
  · have hnest : ∀ e ∈ endpoints (nestService "/ui" : Router Layer),
        precedes (segments e.path) (segments "/ui/api/dashboard") = false := by
      decide +kernel
    exact hnest e hfiles

theorem dispatch_pairing : dispatch "/pairing/generate" (buildRouter false none) =
    some (route "/pairing/generate" [.post]) := by
  have hsplit : buildRouter false none = (unprotectedRoutes ++ ownRoutes.take 9) ++
      route "/pairing/generate" [.post] ::
        (ownRoutes.drop 10 ++ publicRoutes ++ layer .authGuard protectedRoutes ++
          nestService "/ui") := by
    simp [buildRouter, buildRoutes, ownRoutes, awpRouter]
  rw [hsplit]
  refine dispatch_eq_some (by decide +kernel) (by decide +kernel) fun e he hmatches ↦ ?_
  simp only [endpoints_append, endpoints_layer, List.mem_append, or_assoc] at he
  rcases he with hown | hpublic | hguarded | hfiles
  · have hnone : ∀ e ∈ endpoints (ownRoutes.drop 10), ¬ e.Matches "/pairing/generate" := by
      decide +kernel
    exact absurd hmatches (hnone e hown)
  · have hnone : ∀ e ∈ endpoints publicRoutes, ¬ e.Matches "/pairing/generate" := by
      decide +kernel
    exact absurd hmatches (hnone e hpublic)
  · exact absurd hmatches (protected_paths e hguarded).2.2
  · have hnone : ∀ e ∈ endpoints (nestService "/ui" : Router Layer),
        ¬ e.Matches "/pairing/generate" := by
      decide +kernel
    exact absurd hmatches (hnone e hfiles)

theorem setsSecret_passwordGateway : SetsSecret passwordGateway.auth :=
  ⟨⟨.password, none, some "s"⟩, "s", rfl, by decide, .inl ⟨rfl, rfl⟩⟩

theorem serve_dashboard :
    serve passwordGateway ⟨.get, "/ui/api/dashboard", none, some "adk_ui_session=t"⟩ =
      some ⟨"/ui/api/dashboard", some [.get]⟩ := by
  have hpasses : passes passwordGateway
      ⟨.get, "/ui/api/dashboard", none, some "adk_ui_session=t"⟩ .authGuard = true := by
    decide +kernel
  have hrouter : buildRouter passwordGateway.jwtValidator.isSome passwordGateway.awpRoutes =
      buildRouter false none := rfl
  rw [serve, call, hrouter, dispatch_dashboard, Option.bind_some]
  simp [Endpoint.answersTo, hpasses, webhookPath]

theorem credentialed_dashboard :
    Credentialed passwordGateway ⟨.get, "/ui/api/dashboard", none, some "adk_ui_session=t"⟩
      ⟨"/ui/api/dashboard", some [.get]⟩ :=
  credentialed_of_serve setsSecret_passwordGateway serve_dashboard (by decide) (by decide)

/-- Without a validator, a request that carries nothing is given a pairing code. -/
theorem not_enforcedEverywhere : ¬ EnforcedEverywhere := by
  intro h
  have hserve : serve passwordGateway ⟨.post, "/pairing/generate", none, none⟩ =
      some ⟨"/pairing/generate", some [.post]⟩ := by
    have hrouter : buildRouter passwordGateway.jwtValidator.isSome passwordGateway.awpRoutes =
        buildRouter false none := rfl
    rw [serve, call, hrouter, dispatch_pairing, Option.bind_some]
    simp [route, Endpoint.answersTo, webhookPath]
  rcases h _ _ _ (.inl setsSecret_passwordGateway) hserve (by decide) with
    ⟨token, htoken, -⟩ | ⟨validator, hvalidator, -⟩ | ⟨hpath, -⟩
  · have hnone : sessionToken none = none := by decide
    cases hnone.symm.trans htoken
  · cases hvalidator
  · exact absurd hpath (by decide)

end AdkGateway.GatewayRoutes
