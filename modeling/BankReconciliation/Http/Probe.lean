import BankReconciliation.Error
import BankReconciliation.Settings.Load

/-! The probes of the service over HTTP: liveness, readiness and metrics. -/

namespace BankReconciliation.Http

inductive Body
  | empty
  | json (j : Json)
  /-- The counters in their text form. -/
  | metrics

structure Response where
  status : Nat
  contentType : Option String
  body : Body

def pathOf (target : String) : String := String.ofList (target.toList.takeWhile (· != '?'))

def alive : Response where
  status := 200
  contentType := some ServiceError.contentType
  body := .json (.ofMembers [("status", .str "ok"), ("service", .str Settings.defaultName),
    ("version", .str Settings.version)])

def unwell (e : ServiceError) : Response where
  status := 503
  contentType := some ServiceError.contentType
  body := .json (.ofMembers [("status", .str "unhealthy"), ("service", .str Settings.defaultName),
    ("error", .str e.message)])

/-- The response to a request, by the health of the database. Only reading is allowed. -/
def respond (method target : String) (health : Except ServiceError Unit) : Response :=
  let path := pathOf target
  let known := ["/health", "/ready", "/metrics"].contains path
  if !known then ⟨404, none, .empty⟩
  else if method ≠ "GET" ∧ method ≠ "HEAD" then ⟨405, none, .empty⟩
  else
    let response : Response := match path, health with
      | "/health", .ok () => alive
      | "/health", .error e => unwell e
      | "/ready", .ok () => ⟨200, none, .empty⟩
      | "/ready", .error _ => ⟨503, none, .empty⟩
      | _, _ => ⟨200, some "text/plain; charset=utf-8", .metrics⟩
    if method = "HEAD" then { response with body := .empty } else response

end BankReconciliation.Http
