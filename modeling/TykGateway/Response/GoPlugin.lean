import TykGateway.Go.Basic

/-! # The Go-plugin response handler

`HandleGoPluginResponse` calls the loaded plugin function `ResHandler` with a
`customResponseWriter` that wraps `w` and records whether the plugin sent a
response and which status it sent. When the plugin returns, a sent status of
`400` or more is written to `w` and returned as an error. A deferred `recover`
catches a panicking plugin and writes `500` to `w`, but the function's result
is unnamed, so the recovered call returns the zero error: nil.

## Implementation notes

The plugin is arbitrary code, so a run of it is data: what the writer
recorded when it returned or panicked. `customResponseWriter` is declared
outside the modelled files; only the two fields this function reads are kept.
Injecting the spec into the request context, timing and logging are left out.
-/

namespace TykGateway

/-- `http.StatusBadRequest`. -/
def statusBadRequest : Int := 400

/-- `http.StatusInternalServerError`. -/
def statusInternalServerError : Int := 500

/-- The fields of `customResponseWriter` that `HandleGoPluginResponse` reads
after the plugin ran. -/
structure ResponseRecord where
  responseSent : Bool
  statusCodeSent : Int
  deriving DecidableEq, Repr

/-- One call of the loaded `ResHandler(rw, res, req)`: it returns, or it panics
with a non-nil value, with `rw` as its writes left it. -/
inductive ResHandlerRun where
  | returned (rw : ResponseRecord)
  | panicked (rw : ResponseRecord)
  deriving DecidableEq, Repr

/-- The code after `h.ResHandler` returns: the error and the status it writes
to `w`. -/
def checkResponseSent (rw : ResponseRecord) : Option GoError × List Int :=
  if rw.responseSent then
    if rw.statusCodeSent ≥ statusBadRequest then
      (some (.new ("plugin function sent error response code: " ++ toString rw.statusCodeSent)),
        [rw.statusCodeSent])
    else (none, [])
  else (none, [])

/-- `HandleGoPluginResponse`: the returned error and the statuses it writes to
`w` itself (the plugin's own writes reach `w` through `rw`). On a panic the
deferred function writes `500`; the unnamed result keeps its zero value. -/
def handleGoPluginResponse : ResHandlerRun → Option GoError × List Int
  | .returned rw => checkResponseSent rw
  | .panicked _ => (none, [statusInternalServerError])

/-- `ResponseGoPluginMiddleware.HandleResponse`. -/
def handleResponse (run : ResHandlerRun) : Option GoError × List Int :=
  handleGoPluginResponse run

/-- Whether the plugin returned after sending an error status. -/
def ResHandlerRun.sentErrorStatus : ResHandlerRun → Bool
  | .returned rw => rw.responseSent && decide (rw.statusCodeSent ≥ statusBadRequest)
  | .panicked _ => false

theorem checkResponseSent_of_error {rw : ResponseRecord} (h : rw.responseSent = true)
    (hs : rw.statusCodeSent ≥ statusBadRequest) :
    checkResponseSent rw =
      (some (.new ("plugin function sent error response code: " ++ toString rw.statusCodeSent)),
        [rw.statusCodeSent]) := by
  simp [checkResponseSent, h, hs]

theorem checkResponseSent_of_not_error {rw : ResponseRecord}
    (h : ¬(rw.responseSent = true ∧ rw.statusCodeSent ≥ statusBadRequest)) :
    checkResponseSent rw = (none, []) := by
  unfold checkResponseSent
  split_ifs <;> simp_all

/-- For every run of the plugin, `HandleGoPluginResponse` returns a non-nil
error exactly when the plugin returned after sending a status of `400` or
more; that error names the status the plugin sent, and that status is what
the function writes to `w`. -/
theorem handleGoPluginResponse_error_iff (run : ResHandlerRun) :
    (handleGoPluginResponse run).1.isSome = run.sentErrorStatus ∧
      ∀ err ∈ (handleGoPluginResponse run).1, ∃ rw, run = .returned rw ∧
        err = .new ("plugin function sent error response code: " ++ toString rw.statusCodeSent) ∧
        (handleGoPluginResponse run).2 = [rw.statusCodeSent] := by
  rcases run with rw | rw
  · by_cases h : rw.responseSent = true ∧ rw.statusCodeSent ≥ statusBadRequest
    · simp [handleGoPluginResponse, checkResponseSent_of_error h.1 h.2,
        ResHandlerRun.sentErrorStatus, h.1, h.2]
    · have hs : (ResHandlerRun.returned rw).sentErrorStatus = false := by
        simpa [ResHandlerRun.sentErrorStatus] using h
      simp [handleGoPluginResponse, checkResponseSent_of_not_error h, hs]
  · simp [handleGoPluginResponse, ResHandlerRun.sentErrorStatus]

/-- A plugin that returns after writing `403`. -/
example : handleGoPluginResponse (.returned ⟨true, 403⟩) =
    (some (.new "plugin function sent error response code: 403"), [403]) := by
  decide

/-- Whatever the plugin wrote before it panicked, `HandleGoPluginResponse`
writes `500` to `w` and returns a nil error, as on success. -/
theorem plugin_panic_returns_nil_error (rw : ResponseRecord) :
    handleResponse (.panicked rw) = (none, [statusInternalServerError]) := rfl

end TykGateway
