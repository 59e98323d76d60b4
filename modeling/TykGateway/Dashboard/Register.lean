import TykGateway.Gateway

/-! # Node registration

`Register` asks the dashboard to register the node and retries after 5 s on a
transport error, on a status other than `200` and `409`, and on a `200` body
without `Message["NodeID"]`, unless its context is done first. It calls
`SetNodeID` with the looked-up node id before it checks that one was found.
On a `200` body with a node id it stores the nonce and calls `DoReload`.

## Implementation notes

`Register` runs until it returns, so it is modelled over the list of answers
it reads, `none` when they run out before it returns. `ctxDone w` is what
`ctx.Done()` gives at the `w`-th wait: the context's error, or `none` when the
5 s timer fires first. `DoReload` is a parameter.
-/

namespace TykGateway

/-- `NodeResponseOK`, with the fields `Register` reads. -/
structure NodeResponseOK where
  /-- `Message`, a `map[string]string`. -/
  message : GoMap String
  nonce : String

/-- What one request to the dashboard that answers a `NodeResponseOK` gives:
a transport error, or a status code and what decoding the body gives. -/
inductive RegisterAnswer where
  | requestFailed (e : GoError)
  | response (status : Nat) (body : Except GoError NodeResponseOK)

/-- `SetNodeID`. -/
def Gateway.setNodeID (gw : Gateway) (nodeID : String) : Gateway := { gw with nodeID := nodeID }

section Register

variable (doReload : Gateway → Gateway) (ctxDone : Nat → Option GoError)

/-- `Register(ctx)` from its `w`-th wait on: the error it returns and the
gateway it leaves, or `none` when the answers run out first. -/
def register : Nat → List RegisterAnswer → Gateway → Option (Option GoError × Gateway)
  | _, [], _ => none
  | w, a :: rest, gw =>
    let retry (gw : Gateway) : Option (Option GoError × Gateway) :=
      match ctxDone w with
      | some e => some (some e, gw)
      | none => register (w + 1) rest gw
    match a with
    | .requestFailed _ => retry gw
    | .response status body =>
      if status = 409 then some (none, gw)
      else if status ≠ 200 then retry gw
      else
        match body with
        | .error e => some (some e, gw)
        | .ok val =>
          let gw := gw.setNodeID ((val.message.lookup "NodeID").getD "")
          if (val.message.lookup "NodeID").isSome then
            some (none, doReload { gw with serviceNonce := val.nonce })
          else retry gw

/-- The context is cancelled at the first wait, after a `200` answer whose
`Message` has no `NodeID`. -/
theorem register_clears_nodeID_without_nodeID :
    (register id (fun _ => some (.new "context canceled")) 0
        [.response 200 (.ok ⟨∅, "n1"⟩)] (newGateway "u")).map
        (fun r => (r.1, r.2.nodeID, r.2.serviceNonce)) =
      some (some (.new "context canceled"), "", "") := by
  decide

/-! ### What a returned `Register` did -/

/-- A `200` answer with a node id set the node id and the nonce and `DoReload`
ran on them; or the gateway is as before; or only its node id was cleared, by
a `200` answer without one. -/
def RegisterOutcome (answers : List RegisterAnswer) (gw : Gateway) (res : Option GoError)
    (gw' : Gateway) : Prop :=
  (res = none ∧ ∃ val nid, .response 200 (.ok val) ∈ answers ∧
      val.message.lookup "NodeID" = some nid ∧
      gw' = doReload { gw with nodeID := nid, serviceNonce := val.nonce }) ∨
    gw' = gw ∨
    (gw' = gw.setNodeID "" ∧
      ∃ val, .response 200 (.ok val) ∈ answers ∧ val.message.lookup "NodeID" = none)

theorem RegisterOutcome.cons {answers : List RegisterAnswer} {gw gw' : Gateway}
    {res : Option GoError} (h : RegisterOutcome doReload answers gw res gw') (a : RegisterAnswer) :
    RegisterOutcome doReload (a :: answers) gw res gw' := by
  rcases h with ⟨hr, val, nid, hm, hl, he⟩ | he | ⟨he, val, hm, hl⟩
  · exact .inl ⟨hr, val, nid, List.mem_cons_of_mem _ hm, hl, he⟩
  · exact .inr (.inl he)
  · exact .inr (.inr ⟨he, val, List.mem_cons_of_mem _ hm, hl⟩)

/-- An outcome from the gateway with its node id cleared, by an answer of the
list without one, is an outcome from the gateway. -/
theorem RegisterOutcome.of_cleared {answers : List RegisterAnswer} {gw gw' : Gateway}
    {res : Option GoError} {val : NodeResponseOK} (hm : .response 200 (.ok val) ∈ answers)
    (hl : val.message.lookup "NodeID" = none)
    (h : RegisterOutcome doReload answers (gw.setNodeID "") res gw') :
    RegisterOutcome doReload answers gw res gw' := by
  rcases h with ⟨hr, val', nid, hm', hl', he⟩ | he | ⟨he, -⟩
  · exact .inl ⟨hr, val', nid, hm', hl', he⟩
  · exact .inr (.inr ⟨he, val, hm, hl⟩)
  · exact .inr (.inr ⟨he, val, hm, hl⟩)

/-- When `Register` returns, the gateway it leaves is a `RegisterOutcome`. -/
theorem register_outcome : ∀ (w : Nat) (answers : List RegisterAnswer) (gw gw' : Gateway)
    (res : Option GoError), register doReload ctxDone w answers gw = some (res, gw') →
      RegisterOutcome doReload answers gw res gw'
  | _, [], _, _, _, h => by simp [register] at h
  | w, a :: rest, gw, gw', res, h => by
    have hretry : ∀ g, (match ctxDone w with
        | some e => some (some e, g)
        | none => register doReload ctxDone (w + 1) rest g) = some (res, gw') →
          gw' = g ∨ RegisterOutcome doReload rest g res gw' := fun g hg => by
      cases hc : ctxDone w with
      | some e => simp only [hc, Option.some.injEq, Prod.mk.injEq] at hg; exact .inl hg.2.symm
      | none =>
        simp only [hc] at hg
        exact .inr (register_outcome (w + 1) rest g gw' res hg)
    cases a with
    | requestFailed e =>
      rcases hretry gw h with he | ho
      · exact .inr (.inl he)
      · exact ho.cons doReload _
    | response status body =>
      simp only [register] at h
      split_ifs at h with h409 h200
      · simp only [Option.some.injEq, Prod.mk.injEq] at h
        exact .inr (.inl h.2.symm)
      · rcases hretry gw h with he | ho
        · exact .inr (.inl he)
        · exact ho.cons doReload _
      · obtain rfl : status = 200 := not_not.mp h200
        rcases body with e | val
        · simp only [Option.some.injEq, Prod.mk.injEq] at h
          exact .inr (.inl h.2.symm)
        · simp only at h
          cases hl : val.message.lookup "NodeID" with
          | some nid =>
            simp only [hl, Option.isSome_some, if_true, Option.getD_some, Option.some.injEq,
              Prod.mk.injEq] at h
            exact .inl ⟨h.1.symm, val, nid, List.mem_cons_self _ _, hl, h.2.symm⟩
          | none =>
            simp only [hl, Option.isSome_none, Bool.false_eq_true, if_false, Option.getD_none] at h
            have hm : RegisterAnswer.response 200 (.ok val) ∈ .response 200 (.ok val) :: rest :=
              List.mem_cons_self _ _
            rcases hretry _ h with he | ho
            · exact .inr (.inr ⟨he, val, hm, hl⟩)
            · exact (ho.cons doReload _).of_cleared doReload hm hl

theorem register_outcome_first_answer :
    register id (fun _ => none) 0 [.response 200 (.ok ⟨(∅ : GoMap String).insert "NodeID" "n-1", "c-1"⟩)]
        (newGateway "u") =
        some (none, { newGateway "u" with nodeID := "n-1", serviceNonce := "c-1" }) ∧
      RegisterOutcome id [.response 200 (.ok ⟨(∅ : GoMap String).insert "NodeID" "n-1", "c-1"⟩)]
        (newGateway "u") none { newGateway "u" with nodeID := "n-1", serviceNonce := "c-1" } :=
  ⟨rfl, register_outcome id (fun _ => none) 0 _ _ _ _ rfl⟩

end Register

end TykGateway
