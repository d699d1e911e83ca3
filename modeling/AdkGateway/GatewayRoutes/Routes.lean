import AdkGateway.ControlPanel.Auth
import AdkGateway.Foundation.Routing

namespace AdkGateway.GatewayRoutes

open Foundation Routing ControlPanel

inductive Layer
  | jwtAuthMiddleware
  | authGuard
  deriving DecidableEq

section ControlPanelRoutes

def publicRoutes : Router Layer :=
  [
    route "/ui/api/auth/check" [.get],
    route "/ui/api/login" [.post],
    route "/ui/api/logout" [.post]
  ]

def protectedRoutes : Router Layer :=
  [
    route "/ui/api/dashboard" [.get],
    route "/ui/api/sessions" [.get],
    route "/ui/api/sessions/{id}/terminate" [.post],
    route "/ui/api/config" [.get, .post],
    route "/ui/api/logs" [.get],
    route "/ui/api/settings" [.post],
    route "/ui/api/settings/session-status" [.get],
    route "/ui/api/channels" [.get, .post],
    route "/ui/api/channels/telegram/probe" [.post],
    route "/ui/api/agent" [.get, .post],
    route "/ui/api/memory" [.get, .post],
    route "/ui/api/memory/entities" [.get],
    route "/ui/api/agents" [.get, .post],
    route "/ui/api/agents/{id}/start" [.post],
    route "/ui/api/agents/{id}/stop" [.post],
    route "/ui/api/agents/{id}/delete" [.post],
    route "/ui/api/agents/{id}/logs" [.get],
    route "/ui/api/agents/{id}/configure" [.post],
    route "/ui/api/awp" [.get],
    route "/ui/api/awp/health" [.get],
    route "/ui/api/awp/capabilities" [.get],
    route "/ui/api/awp/subscriptions" [.get],
    route "/ui/api/awp/subscriptions/{id}" [.delete],
    route "/ui/api/awp/consent" [.get],
    route "/ui/api/integrations/mcp" [.get, .post],
    route "/ui/api/integrations/mcp/{id}" [.delete],
    route "/ui/api/integrations/mcp/{id}/toggle" [.post],
    route "/ui/api/integrations/cron" [.get],
    route "/ui/api/scheduled-tasks" [.post],
    route "/ui/api/scheduled-tasks/{id}/cancel" [.post],
    route "/ui/api/scheduled-tasks/{id}/resume" [.post],
    route "/ui/api/scheduled-tasks/{id}/logs" [.get],
    route "/ui/api/scheduled-tasks/{id}" [.delete],
    route "/ui/api/integrations/tools" [.get],
    route "/ws/events" [.get],
    route "/ui/api/delegation" [.get, .post, .delete],
    route "/ui/api/approvals/pending" [.get],
    route "/ui/api/approvals/history" [.get],
    route "/ui/api/approvals/{id}/approve" [.post],
    route "/ui/api/approvals/{id}/reject" [.post],
    route "/ui/api/approvals/config" [.get, .post],
    route "/ui/api/settings/stale-context" [.get, .post],
    route "/ui/api/users/activity" [.get],
    route "/ui/api/settings/rate-limit" [.get, .post],
    route "/ui/api/settings/rate-limit/metrics" [.get],
    route "/ui/api/acp/agents" [.get, .post],
    route "/ui/api/acp/agents/{id}" [.delete],
    route "/ui/api/acp/enabled" [.get],
    route "/ui/api/health/components" [.get],
    route "/ui/api/health/events" [.get],
    route "/ui/api/settings/health-monitor" [.get, .post],
    route "/ui/api/users/paired" [.get],
    route "/ui/api/users/{id}/unpair" [.post],
    route "/ui/api/users/{id}/heartbeat" [.post],
    route "/ui/api/users/groups" [.get, .post],
    route "/ui/api/encryption/status" [.get],
    route "/ui/api/encryption/sensitive-fields" [.get],
    route "/ui/api/encryption/encrypt-all" [.post],
    route "/ui/api/encryption/key-path" [.post],
    route "/ui/api/settings/log-rotation" [.get, .post],
    route "/ui/api/logs/storage" [.get],
    route "/ui/api/logs/files" [.get],
    route "/ui/api/logs/files/{filename}" [.get],
    route "/ui/api/logs/clear-old" [.post],
    route "/ui/api/system/info" [.get],
    route "/ui/api/system/restart-status" [.get],
    route "/ui/api/system/restart" [.post],
    route "/ui/api/coding-agents" [.get, .post],
    route "/ui/api/coding-agents/{id}" [.get, .delete],
    route "/ui/api/coding-agents/{id}/tasks" [.get, .post],
    route "/ui/api/coding-agents/{id}/tasks/{task_id}" [.get],
    route "/ui/api/coding-agents/{id}/tasks/{task_id}/cancel" [.post],
    route "/ui/api/coding-agents/{id}/connect" [.post],
    route "/ui/api/coding-agents/{id}/disconnect" [.post],
    route "/ui/api/coding-agents/{id}/costs" [.get],
    route "/ui/api/coding-agents/{id}/config" [.put],
    route "/ui/api/coding-agents/backends" [.get],
    route "/ui/api/coding-agents/onboarding/check-install" [.post],
    route "/ui/api/coding-agents/onboarding/run-install" [.post],
    route "/ui/api/coding-agents/onboarding/validate-auth" [.post],
    route "/ui/api/coding-agents/onboarding/complete" [.post]
  ]

/-- The routes of the control panel; the embedded files are below `/ui`. -/
def buildRoutes : Router Layer :=
  publicRoutes ++ layer .authGuard protectedRoutes ++ nestService "/ui"

end ControlPanelRoutes

def unprotectedRoutes : Router Layer :=
  [
    route "/health" [.get],
    route "/metrics" [.get]
  ]

def webhookPath : String := "/hooks/inbound"

def ownRoutes : Router Layer :=
  [
    route "/status" [.get],
    route webhookPath [.post],
    route "/cron" [.get],
    route "/cron/{job_id}/cancel" [.post],
    route "/rag/search" [.post],
    route "/rag/hybrid" [.post],
    route "/rag/filtered" [.post],
    route "/rag/diagnostics" [.get],
    route "/rag/ingest" [.post],
    route "/pairing/generate" [.post],
    route "/pairing/status" [.get]
  ]

def consentRoutes : Router Layer :=
  [
    route "/awp/consent" [.post],
    route "/awp/consent/check" [.get],
    route "/awp/consent/revoke" [.post]
  ]

/-- The routes of the protocol, if it is on; `awpRoutes` are those of the protocol's library. -/
def awpRouter (awpRoutes : Option (List Endpoint)) : Router Layer :=
  match awpRoutes with
  | none => []
  | some awpRoutes => awpRoutes.map (⟨·, []⟩) ++ consentRoutes

def buildRouter (hasJwtValidator : Bool) (awpRoutes : Option (List Endpoint)) : Router Layer :=
  let guarded := ownRoutes ++ buildRoutes
  unprotectedRoutes ++
    (if hasJwtValidator then layer .jwtAuthMiddleware guarded else guarded) ++ awpRouter awpRoutes

/-- Health, metrics, the login, and the files of the control panel. -/
def publicPaths : List String :=
  ["/health", "/metrics", "/ui/api/auth/check", "/ui/api/login", "/ui/api/logout", "/ui", "/ui/",
    "/ui/{*path}"]

section Tables

theorem endpoints_append {r r' : Router Layer} : endpoints (r ++ r') = endpoints r ++ endpoints r' :=
  List.map_append

theorem public_of_mem {e : Endpoint}
    (h : e ∈ endpoints (unprotectedRoutes ++ publicRoutes ++ nestService "/ui")) :
    e.path ∈ publicPaths := by
  have hall : ∀ e ∈ endpoints (unprotectedRoutes ++ publicRoutes ++ nestService "/ui"),
      e.path ∈ publicPaths := by decide
  exact hall e h

theorem own_not_protected : ∀ e ∈ endpoints ownRoutes, e ∉ endpoints protectedRoutes := by
  decide

end Tables

end AdkGateway.GatewayRoutes
