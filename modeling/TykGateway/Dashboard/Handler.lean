import TykGateway.Dashboard.Register
import TykGateway.Dashboard.Nonce

/-! # The dashboard calls that store a nonce

`sendHeartBeat`, `DeRegister` and `NotifyDashboardOfEvent` each send one
request and handle the answer the same way: a transport error or a status
other than `200` is returned as an error, a body that does not decode returns
the decoder's error, and the nonce of a decoded `200` body is stored in
`ServiceNonce`. Each has its own error texts; `sendHeartBeat` alone calls
`Register` on a `403`, and `NotifyDashboardOfEvent` alone rejects events that
are not key quota triggers before it sends anything.

## Implementation notes

The functions are modelled from `client.Do(req)` on; building the request is
left out. `Register`, which `sendHeartBeat` calls through `DashService`, is a
parameter. What one call stores is what the `store` step of the nonce model
(`TykGateway.Nonce`) stores for the answer's `answeredNonce`. An answer that
stores nothing after the dashboard handled the request, a transport error once
it answered or a `200` body that does not decode, is the model's `lose` step.
-/

namespace TykGateway

/-- The nonce an answer gives `ServiceNonce`: that of a decoded `200` body. -/
def answeredNonce : RegisterAnswer → Option String
  | .response 200 (.ok val) => some val.nonce
  | _ => none

/-- What the answer handling of the three calls shares: the error made of a
transport error, the error made of an unexpected status, and on a decoded
`200` body the nonce stored. -/
def storeNodeResponse (onRequestError : GoError → GoError) (onStatus : Nat → GoError) :
    RegisterAnswer → Gateway → Option GoError × Gateway
  | .requestFailed e, gw => (some (onRequestError e), gw)
  | .response status body, gw =>
    if status ≠ 200 then (some (onStatus status), gw)
    else
      match body with
      | .error e => (some e, gw)
      | .ok val => (none, { gw with serviceNonce := val.nonce })

/-- `DeRegister`, from `c.Do(req)` on. -/
def deRegister : RegisterAnswer → Gateway → Option GoError × Gateway :=
  storeNodeResponse (GoError.wrapped "deregister request failed with error ")
    (fun status => .new ("deregister request failed with status " ++ toString status))

/-- `NotifyDashboardOfEvent`, for an event that is an `EventTriggerExceededMeta`
or not, from `c.Do(req)` on. -/
def notifyDashboardOfEvent (isTriggerExceeded : Bool) (answer : RegisterAnswer) (gw : Gateway) :
    Option GoError × Gateway :=
  if isTriggerExceeded then
    storeNodeResponse id
      (fun status => .new ("unexpected status code while trying to notify dashboard of a key " ++
        "limit quota trigger.. Got " ++ toString status)) answer gw
  else (some (.new "event type is currently not supported as a notification to the dashboard"), gw)

/-- `sendHeartBeat`, from `client.Do(req)` on, with `register` the
`DashService.Register` it calls on a `403`. -/
def sendHeartBeat (register : Gateway → Option GoError × Gateway) :
    RegisterAnswer → Gateway → Option GoError × Gateway
  | .response 403 _, gw => register gw
  | answer, gw =>
    storeNodeResponse (fun _ => .new "dashboard is down? Heartbeat is failing")
      (fun _ => .new "dashboard is down? Heartbeat non-200 response") answer gw

/-- The gateway as the nonce model's `store` step leaves it. -/
def storeAnswered (gw : Gateway) : Option String → Gateway
  | some v => { gw with serviceNonce := v }
  | none => gw

/-- Storing an answer refines the nonce model's `store` step: when `enc` maps
`ServiceNonce` to the model's store and the goroutine's answer to the model's
answer, it maps the stored nonce to what the step stores. -/
theorem storeAnswered_refines_store {k : Nat} (kind : Fin k → Nonce.Task) (enc : String → Nat)
    {s : Nonce.System k} {i : Fin k} {gw : Gateway} {answer : RegisterAnswer}
    (hgw : enc gw.serviceNonce = s.serviceNonce)
    (hp : s.phase i = .answered ((answeredNonce answer).map enc)) :
    enc (storeAnswered gw (answeredNonce answer)).serviceNonce =
      (Nonce.step kind s (.store i)).serviceNonce := by
  cases h : answeredNonce answer <;> simp [Nonce.step, hp, h, storeAnswered, hgw]

/-- Whatever the error texts, the shared handling returns no error exactly
when the answer carries a nonce, and the gateway it leaves is the one the
nonce model's `store` step leaves for that answer. -/
theorem storeNodeResponse_spec (onRequestError : GoError → GoError) (onStatus : Nat → GoError)
    (answer : RegisterAnswer) (gw : Gateway) :
    ((storeNodeResponse onRequestError onStatus answer gw).1 = none ↔
        (answeredNonce answer).isSome) ∧
      (storeNodeResponse onRequestError onStatus answer gw).2 =
        storeAnswered gw (answeredNonce answer) := by
  rcases answer with e | ⟨status, e | val⟩
  · simp [storeNodeResponse, answeredNonce, storeAnswered]
  · by_cases hs : status = 200
    · subst hs; simp [storeNodeResponse, answeredNonce, storeAnswered]
    · simp [storeNodeResponse, answeredNonce, storeAnswered, hs]
  · by_cases hs : status = 200
    · subst hs; simp [storeNodeResponse, answeredNonce, storeAnswered]
    · simp [storeNodeResponse, answeredNonce, storeAnswered, hs]

/-- `sendHeartBeat` on an answer other than `403` is the shared handling. -/
theorem sendHeartBeat_of_ne_forbidden (register : Gateway → Option GoError × Gateway)
    {answer : RegisterAnswer} (h : ∀ body, answer ≠ .response 403 body) (gw : Gateway) :
    sendHeartBeat register answer gw =
      storeNodeResponse (fun _ => .new "dashboard is down? Heartbeat is failing")
        (fun _ => .new "dashboard is down? Heartbeat non-200 response") answer gw := by
  rcases answer with e | ⟨status, body⟩
  · rfl
  · by_cases hs : status = 403
    · exact absurd (hs ▸ rfl) (h body)
    · simp only [sendHeartBeat, hs]

end TykGateway
