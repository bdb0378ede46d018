import Stratum.Router.Admissibility

/-!
# What one parser call changes

A call of either parser reaches two states: the implementor's, behind its mutex, and the router's,
behind the routing logic's. The hook of a channel request, or of its success, is handed both, the
implementor as `self_mutex.clone()`, and the handler then runs on the implementor as the hook left
it. No other call reaches the router.

* `parser_call_frame`: a call returns both states as they were with an `Err`; or the router as
  it was and the implementor as the handler of the decoded message left it; or, for a channel
  request (downstream) or its success (upstream) under a proxy router, the router as the hook left
  it, with the implementor as the hook left it or as the handler then left it.
-/

namespace Stratum.Router

variable {σ τ ρ Down Up : Type}

/-- Under a proxy router, an `OpenStandardMiningChannelSuccess` always moves the router by its
hook, whether the call then succeeds or not. -/
theorem ParseUpstreamMiningMessages.handleMessageMining_success_logic
    {P : ParseUpstreamMiningMessages σ Down} {R : MiningRouter ρ Down Up τ σ}
    {decode : UInt8 → Bytes → Except Error Mining} {self_id : Up} {s : σ} {message_type : UInt8}
    {payload : Bytes} {r : ρ} {m : Bytes} {x}
    (hm : decode message_type payload = .ok (.openStandardMiningChannelSuccess m))
    (h : P.handleMessageMining R decode self_id s message_type payload (.proxy r) = .some x) :
    ∃ y, R.onOpenStandardChannelSuccess r self_id s m = .some y ∧ x.1.2 = .proxy y.1 := by
  unfold handleMessageMining at h
  simp only [hm, routeOpenStandardChannelSuccess] at h
  obtain ⟨y, hy, ⟨hx, -⟩ | ⟨_, -, hk⟩⟩ := routeThen_proxy h
  · exact ⟨y, hy, congrArg Prod.snd hx⟩
  · refine ⟨y, hy, ?_⟩
    split at hk
    all_goals first | (cases hk; rfl) | exact (withLogic_eq_some hk).1

/-- **What one call of a parser changes.** For the downstream parser and the upstream one alike,
a call that does not panic returns both states as they were with an `Err`; or the router state it
was given and what the handler of the decoded message returned on the implementor it was given;
or, for an `OpenStandardMiningChannel` (downstream, on a paired implementor) or an
`OpenStandardMiningChannelSuccess` (upstream) under a proxy router, the router state the hook
left, with the implementor as the hook left it and an `Err`, or with what the handler returned on
that implementor, the message the hook handed back and the peer it picked. -/
theorem parser_call_frame (P : ParseDownstreamMiningMessages σ Up)
    (Q : ParseUpstreamMiningMessages τ Down) (R : MiningRouter ρ Down Up σ τ)
    (decode : UInt8 → Bytes → Except Error Mining) :
    (∀ self_id s message_type payload l x,
      P.handleMessageMining R decode self_id s message_type payload l = .some x →
      (x.1 = (s, l) ∧ ∃ e, x.2 = .error e) ∨
      (∃ m, decode message_type payload = .ok m ∧ x.1.2 = l ∧ P.HandlerOutcome s m (x.1.1, x.2)) ∨
      ∃ m data r y, decode message_type payload = .ok (.openStandardMiningChannel m) ∧
        P.getDownstreamMiningData s = .some data ∧ l = .proxy r ∧
        R.onOpenStandardChannel r self_id s m data = .some y ∧ x.1.2 = .proxy y.1 ∧
        ((x.1.1 = y.2.1 ∧ ∃ e, x.2 = .error e) ∨ ∃ up, y.2.2.2 = .ok up ∧
          P.handleOpenStandardMiningChannel y.2.1 y.2.2.1 (.some up) = .some (x.1.1, x.2))) ∧
    (∀ self_id s message_type payload l x,
      Q.handleMessageMining R decode self_id s message_type payload l = .some x →
      (x.1 = (s, l) ∧ ∃ e, x.2 = .error e) ∨
      (∃ m, decode message_type payload = .ok m ∧ x.1.2 = l ∧ Q.HandlerOutcome s m (x.1.1, x.2)) ∨
      ∃ m r y, decode message_type payload = .ok (.openStandardMiningChannelSuccess m) ∧
        l = .proxy r ∧ R.onOpenStandardChannelSuccess r self_id s m = .some y ∧
        x.1.2 = .proxy y.1 ∧
        ((x.1.1 = y.2.1 ∧ ∃ e, x.2 = .error e) ∨ ∃ down, y.2.2.2 = .ok down ∧
          Q.handleOpenStandardMiningChannelSuccess y.2.1 y.2.2.1 (.some down) =
            .some (x.1.1, x.2))) :=
  ⟨fun _ _ _ _ _ _ h => P.handleMessageMining_cases h,
    fun _ _ _ _ _ _ h => Q.handleMessageMining_cases h⟩

/-- A share on a Group connection leaves the counting router at its count. -/
theorem share_leaves_router :
    ∃ x, (echoDownstream .group false).handleMessageMining countingRouter
        (fun _ _ => .ok (.submitSharesStandard ⟨7, 0, 3, 0, 0, 0⟩)) () () 0 [] (.proxy 4) =
          .some x ∧ x.1.2 = .proxy 4 := by
  obtain ⟨x, h⟩ : ∃ x, (echoDownstream .group false).handleMessageMining countingRouter
      (fun _ _ => .ok (.submitSharesStandard ⟨7, 0, 3, 0, 0, 0⟩)) () () 0 [] (.proxy 4) =
        .some x := ⟨_, rfl⟩
  rcases (parser_call_frame (echoDownstream .group false) (echoUpstream .group false)
    countingRouter _).1 () () 0 [] (.proxy 4) x h with
    ⟨hx, -⟩ | ⟨_, -, hx, -⟩ | ⟨_, _, _, _, ⟨⟩, -⟩
  · exact ⟨x, h, congrArg Prod.snd hx⟩
  · exact ⟨x, h, hx⟩

end Stratum.Router
