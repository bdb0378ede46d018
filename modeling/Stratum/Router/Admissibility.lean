import Stratum.Router.Mining

/-!
# Admissibility: the parsers against Tables 1 and 2

The spec describes each parser as: decode the message, refuse with `UnexpectedMessage` what the
table of its direction does not admit for the connection's channel type and work selection, and
only then consult the routing policy and invoke the message's handler. `dispatchByTable` is that
description, with the tables as the spec gives them.

* `downstream_parser_refines_table1`, `upstream_parser_refines_table2`: each parser is its
  table-driven dispatch on every input but one kind.
* That kind is `HooksBeforeRefusal`: an `OpenStandardMiningChannel` (or its `Success`) on an
  Extended connection under a proxy router. The code consults the router before it looks at the
  channel type, so the refusal comes after the hook has run: the implementor and the router keep
  what the hook did, and a failing hook's error replaces `UnexpectedMessage`
  (`refused_open_standard_channel_runs_hook`, `refused_open_standard_channel_success_runs_hook`).
-/

namespace Stratum.Router

variable {σ τ ρ Down Up : Type}

/-! ### The tables -/

/-- **Table 1**: the messages a downstream may send. Modelled from the spec. -/
def table1Admits (ct : SupportedChannelTypes) (ws : Bool) : Mining → Bool
  | .openStandardMiningChannel _ => ct != .extended
  | .openExtendedMiningChannel _ => ct == .extended || ct == .groupAndExtended
  | .updateChannel _ => true
  | .submitSharesStandard _ => ct != .extended
  | .submitSharesExtended _ => ct == .extended || ct == .groupAndExtended
  | .setCustomMiningJob _ => ws && ct != .standard
  | _ => false

/-- **Table 2**: the messages an upstream may send. Modelled from the spec. -/
def table2Admits (ct : SupportedChannelTypes) (ws : Bool) : Mining → Bool
  | .openStandardMiningChannelSuccess _ => ct != .extended
  | .openExtendedMiningChannelSuccess _ => ct == .extended || ct == .groupAndExtended
  | .newMiningJob _ => ct == .standard
  | .newExtendedMiningJob _ => ct != .standard
  | .setGroupChannel _ => ct == .group || ct == .groupAndExtended
  | .setNewPrevHash _ | .setTarget _ | .setExtranoncePrefix _ | .openMiningChannelError _
  | .updateChannelError _ | .submitSharesSuccess _ | .submitSharesError _ | .closeChannel _
  | .reconnect _ => true
  | .setCustomMiningJobSuccess _ | .setCustomMiningJobError _ => ws && ct != .standard
  | _ => false

/-! ### Sample peers -/

/-- A downstream on a connection of channel type `ct` whose handlers answer with the message they
were handed. -/
def echoDownstream (ct : SupportedChannelTypes) (ws : Bool) :
    ParseDownstreamMiningMessages Unit Unit where
  getChannelType _ := ct
  isWorkSelectionEnabled _ := ws
  getDownstreamMiningData _ := .some ⟨false, ws, false⟩
  handleOpenStandardMiningChannel s m _ := .some (s, .ok (.respond (.openStandardMiningChannel m)))
  handleOpenExtendedMiningChannel s m := .some (s, .ok (.respond (.openExtendedMiningChannel m)))
  handleUpdateChannel s m := .some (s, .ok (.respond (.updateChannel m)))
  handleSubmitSharesStandard s m := .some (s, .ok (.respond (.submitSharesStandard m)))
  handleSubmitSharesExtended s m := .some (s, .ok (.respond (.submitSharesExtended m)))
  handleSetCustomMiningJob s m := .some (s, .ok (.respond (.setCustomMiningJob m)))

/-- An upstream on a connection of channel type `ct` whose handlers answer with the message they
were handed and leave its state as it is; `SetGroupChannel` keeps its default handler. -/
def echoUpstream (ct : SupportedChannelTypes) (ws : Bool) : ParseUpstreamMiningMessages σ Unit where
  getChannelType _ := ct
  isWorkSelectionEnabled _ := ws
  handleOpenStandardMiningChannelSuccess s m _ :=
    .some (s, .ok (.respond (.openStandardMiningChannelSuccess m)))
  handleOpenExtendedMiningChannelSuccess s m :=
    .some (s, .ok (.respond (.openExtendedMiningChannelSuccess m)))
  handleOpenMiningChannelError s m := .some (s, .ok (.respond (.openMiningChannelError m)))
  handleUpdateChannelError s m := .some (s, .ok (.respond (.updateChannelError m)))
  handleCloseChannel s m := .some (s, .ok (.respond (.closeChannel m)))
  handleSetExtranoncePrefix s m := .some (s, .ok (.respond (.setExtranoncePrefix m)))
  handleSubmitSharesSuccess s m := .some (s, .ok (.respond (.submitSharesSuccess m)))
  handleSubmitSharesError s m := .some (s, .ok (.respond (.submitSharesError m)))
  handleNewMiningJob s m := .some (s, .ok (.respond (.newMiningJob m)))
  handleNewExtendedMiningJob s m := .some (s, .ok (.respond (.newExtendedMiningJob m)))
  handleSetNewPrevHash s m := .some (s, .ok (.respond (.setNewPrevHash m)))
  handleSetCustomMiningJobSuccess s m := .some (s, .ok (.respond (.setCustomMiningJobSuccess m)))
  handleSetCustomMiningJobError s m := .some (s, .ok (.respond (.setCustomMiningJobError m)))
  handleSetTarget s m := .some (s, .ok (.respond (.setTarget m)))
  handleReconnect s m := .some (s, .ok (.respond (.reconnect m)))

/-- A router that counts the channels it is asked to open, and turns down every request but an
empty one, with the count as its error; it leaves the implementors as they are. -/
def countingRouterOn (σ τ : Type) : MiningRouter Nat Unit Unit σ τ where
  onOpenStandardChannel r _ s m _ :=
    .some (r + 1, s, m, if m = [] then .ok () else .error (.other r))
  onOpenStandardChannelSuccess r _ s m :=
    .some (r + 1, s, m, if m = [] then .ok () else .error (.other r))

theorem countingRouterOn_keepsDownstream : (countingRouterOn σ τ).KeepsDownstream := by
  rintro r d s m data y ⟨⟩
  rfl

theorem countingRouterOn_keepsUpstream : (countingRouterOn σ τ).KeepsUpstream := by
  rintro r u s m y ⟨⟩
  rfl

/-- `countingRouterOn` between the sample peers. -/
abbrev countingRouter : MiningRouter Nat Unit Unit Unit Unit := countingRouterOn Unit Unit

/-- The echoing upstream hands its state back as it was given, under a router whose success hook
does. -/
theorem echoUpstream_keeps {R : MiningRouter ρ Unit Up τ σ} (hR : R.KeepsUpstream)
    {ct : SupportedChannelTypes} {ws : Bool} {decode : UInt8 → Bytes → Except Error Mining}
    {self_id : Up} {s : σ} {message_type : UInt8} {payload : Bytes} {l : MiningRoutingLogic ρ} {x}
    (h : (echoUpstream ct ws).handleMessageMining R decode self_id s message_type payload l =
      .some x) : x.1.1 = s := by
  rcases ParseUpstreamMiningMessages.handleMessageMining_cases h with
    ⟨hx, -⟩ | ⟨m, -, -, hout⟩ | ⟨m, r, y, -, -, hy, -, ⟨hx, -⟩ | ⟨down, -, hk⟩⟩
  · rw [hx]
  · cases m <;> simp only [ParseUpstreamMiningMessages.HandlerOutcome, echoUpstream,
      Option.some.injEq] at hout <;> exact (congrArg Prod.fst hout).symm
  · exact hx.trans (hR _ _ _ _ _ hy)
  · simp only [echoUpstream, Option.some.injEq] at hk
    exact (congrArg Prod.fst hk).symm.trans (hR _ _ _ _ _ hy)

/-! ### Downstream to upstream -/

section Downstream

variable (P : ParseDownstreamMiningMessages σ Up) (R : MiningRouter ρ Down Up σ τ)
  (decode : UInt8 → Bytes → Except Error Mining) (self_id : Down) (s : σ)

/-- The handler a message goes to, after the routing hook for the one message that opens a
channel. Modelled from the spec. -/
def ParseDownstreamMiningMessages.invoke (data : CommonDownstreamData) (l : MiningRoutingLogic ρ) :
    Mining → Outcome (σ × MiningRoutingLogic ρ) (SendTo Up)
  | .openStandardMiningChannel m =>
    routeThen (routeOpenStandardChannel R self_id s m data l) fun l' s' m upstream =>
      withLogic l' (P.handleOpenStandardMiningChannel s' m upstream)
  | .openExtendedMiningChannel m => withLogic l (P.handleOpenExtendedMiningChannel s m)
  | .updateChannel m => withLogic l (P.handleUpdateChannel s m)
  | .submitSharesStandard m => withLogic l (P.handleSubmitSharesStandard s m)
  | .submitSharesExtended m => withLogic l (P.handleSubmitSharesExtended s m)
  | .setCustomMiningJob m => withLogic l (P.handleSetCustomMiningJob s m)
  | _ => .some ((s, l), .error .unexpectedMessage)

/-- The downstream parser as the spec describes it: decode, refuse what Table 1 does not admit,
and only then route and invoke the handler. Modelled from the spec. -/
def ParseDownstreamMiningMessages.dispatchByTable (message_type : UInt8) (payload : Bytes)
    (l : MiningRoutingLogic ρ) : Outcome (σ × MiningRoutingLogic ρ) (SendTo Up) :=
  match P.getDownstreamMiningData s with
  | .none => .none
  | .some data =>
    match decode message_type payload with
    | .error e => .some ((s, l), .error e)
    | .ok m =>
      if table1Admits (P.getChannelType s) (P.isWorkSelectionEnabled s) m then
        P.invoke R self_id s data l m
      else .some ((s, l), .error .unexpectedMessage)

/-- The inputs on which the code consults the router for a message it then refuses. -/
def ParseDownstreamMiningMessages.HooksBeforeRefusal (message_type : UInt8) (payload : Bytes)
    (l : MiningRoutingLogic ρ) : Prop :=
  P.getChannelType s = .extended ∧ (∃ r, l = .proxy r) ∧
    ∃ m, decode message_type payload = .ok (.openStandardMiningChannel m)

/-- **A refused `OpenStandardMiningChannel` runs the routing hook.** On an Extended connection
under a proxy router, the result is the hook's: the implementor and the router state it left, its
error if it failed, else `UnexpectedMessage`; no handler runs. -/
theorem refused_open_standard_channel_runs_hook (message_type : UInt8) (payload : Bytes) (r : ρ)
    (m : Bytes) (data : CommonDownstreamData) (hd : P.getDownstreamMiningData s = .some data)
    (hct : P.getChannelType s = .extended)
    (hm : decode message_type payload = .ok (.openStandardMiningChannel m)) :
    P.handleMessageMining R decode self_id s message_type payload (.proxy r) =
      (R.onOpenStandardChannel r self_id s m data).map fun x =>
        ((x.2.1, .proxy x.1), x.2.2.2.bind fun _ => .error .unexpectedMessage) := by
  simp only [ParseDownstreamMiningMessages.handleMessageMining, hd, hm, hct,
    routeOpenStandardChannel]
  rcases R.onOpenStandardChannel r self_id s m data with _ | ⟨r', s', m', _ | _⟩ <;> rfl

end Downstream

/-! ### Upstream to downstream -/

section Upstream

variable (P : ParseUpstreamMiningMessages σ Down) (R : MiningRouter ρ Down Up τ σ)
  (decode : UInt8 → Bytes → Except Error Mining) (self_id : Up) (s : σ)

/-- The handler a message goes to, after the routing hook for `OpenStandardMiningChannelSuccess`.
Modelled from the spec. -/
def ParseUpstreamMiningMessages.invoke (l : MiningRoutingLogic ρ) :
    Mining → Outcome (σ × MiningRoutingLogic ρ) (SendTo Down)
  | .openStandardMiningChannelSuccess m =>
    routeThen (routeOpenStandardChannelSuccess R self_id s m l) fun l' s' m remote =>
      withLogic l' (P.handleOpenStandardMiningChannelSuccess s' m remote)
  | .openExtendedMiningChannelSuccess m => withLogic l (P.handleOpenExtendedMiningChannelSuccess s m)
  | .openMiningChannelError m => withLogic l (P.handleOpenMiningChannelError s m)
  | .updateChannelError m => withLogic l (P.handleUpdateChannelError s m)
  | .closeChannel m => withLogic l (P.handleCloseChannel s m)
  | .setExtranoncePrefix m => withLogic l (P.handleSetExtranoncePrefix s m)
  | .submitSharesSuccess m => withLogic l (P.handleSubmitSharesSuccess s m)
  | .submitSharesError m => withLogic l (P.handleSubmitSharesError s m)
  | .newMiningJob m => withLogic l (P.handleNewMiningJob s m)
  | .newExtendedMiningJob m => withLogic l (P.handleNewExtendedMiningJob s m)
  | .setNewPrevHash m => withLogic l (P.handleSetNewPrevHash s m)
  | .setCustomMiningJobSuccess m => withLogic l (P.handleSetCustomMiningJobSuccess s m)
  | .setCustomMiningJobError m => withLogic l (P.handleSetCustomMiningJobError s m)
  | .setTarget m => withLogic l (P.handleSetTarget s m)
  | .reconnect m => withLogic l (P.handleReconnect s m)
  | .setGroupChannel m => withLogic l (P.handleSetGroupChannel s m)
  | _ => .some ((s, l), .error .unexpectedMessage)

/-- The upstream parser as the spec describes it, with Table 2. Modelled from the spec. -/
def ParseUpstreamMiningMessages.dispatchByTable (message_type : UInt8) (payload : Bytes)
    (l : MiningRoutingLogic ρ) : Outcome (σ × MiningRoutingLogic ρ) (SendTo Down) :=
  match decode message_type payload with
  | .error e => .some ((s, l), .error e)
  | .ok m =>
    if table2Admits (P.getChannelType s) (P.isWorkSelectionEnabled s) m then
      P.invoke R self_id s l m
    else .some ((s, l), .error .unexpectedMessage)

/-- The inputs on which the code consults the router for a message it then refuses. -/
def ParseUpstreamMiningMessages.HooksBeforeRefusal (message_type : UInt8) (payload : Bytes)
    (l : MiningRoutingLogic ρ) : Prop :=
  P.getChannelType s = .extended ∧ (∃ r, l = .proxy r) ∧
    ∃ m, decode message_type payload = .ok (.openStandardMiningChannelSuccess m)

/-- **The upstream parser refines Table 2**, off `HooksBeforeRefusal`. -/
theorem upstream_parser_refines_table2 (message_type : UInt8) (payload : Bytes)
    (l : MiningRoutingLogic ρ) (h : ¬ P.HooksBeforeRefusal decode s message_type payload l) :
    P.handleMessageMining R decode self_id s message_type payload l =
      P.dispatchByTable R decode self_id s message_type payload l := by
  unfold ParseUpstreamMiningMessages.handleMessageMining
    ParseUpstreamMiningMessages.dispatchByTable
  rcases hm : decode message_type payload with e | m
  · rfl
  rcases hct : P.getChannelType s <;> rcases P.isWorkSelectionEnabled s <;> cases m <;>
    first | rfl | skip
  -- left: an `OpenStandardMiningChannelSuccess` on an Extended connection, refused by both
  all_goals
    rcases l with _ | r
    · rfl
    · exact absurd ⟨hct, ⟨r, rfl⟩, _, hm⟩ h

/-- On a Standard connection, a `NewMiningJob` goes to its handler, as Table 2 says. -/
theorem standard_new_mining_job_handled :
    ¬ (echoUpstream .standard false).HooksBeforeRefusal
        (fun _ _ => .ok (.newMiningJob [])) () 0 [] (.proxy 0) ∧
      (echoUpstream .standard false).handleMessageMining countingRouter
          (fun _ _ => .ok (.newMiningJob [])) () () 0 [] (.proxy 0) =
        (echoUpstream .standard false).dispatchByTable countingRouter
          (fun _ _ => .ok (.newMiningJob [])) () () 0 [] (.proxy 0) :=
  have h : ¬ (echoUpstream .standard false).HooksBeforeRefusal
      (fun _ _ => .ok (.newMiningJob [])) () 0 [] (.proxy 0) := fun h => nomatch h.1
  ⟨h, upstream_parser_refines_table2 _ countingRouter _ () () 0 [] (.proxy 0) h⟩

/-- **A refused `OpenStandardMiningChannelSuccess` runs the routing hook**, as its downstream
counterpart does. -/
theorem refused_open_standard_channel_success_runs_hook (message_type : UInt8) (payload : Bytes)
    (r : ρ) (m : Bytes) (hct : P.getChannelType s = .extended)
    (hm : decode message_type payload = .ok (.openStandardMiningChannelSuccess m)) :
    P.handleMessageMining R decode self_id s message_type payload (.proxy r) =
      (R.onOpenStandardChannelSuccess r self_id s m).map fun x =>
        ((x.2.1, .proxy x.1), x.2.2.2.bind fun _ => .error .unexpectedMessage) := by
  simp only [ParseUpstreamMiningMessages.handleMessageMining, hm, hct,
    routeOpenStandardChannelSuccess]
  rcases R.onOpenStandardChannelSuccess r self_id s m with _ | ⟨r', s', m', _ | _⟩ <;> rfl

end Upstream

/-- On an Extended connection under `countingRouter`, both parsers refuse an
`OpenStandardMiningChannel(Success)` only after the router has counted it, and a request the
router turns down comes back with the router's error rather than `UnexpectedMessage`. -/
theorem refused_open_standard_channel_moves_router :
    (echoDownstream .extended false).handleMessageMining countingRouter
        (fun _ _ => .ok (.openStandardMiningChannel [])) () () 0 [] (.proxy 0) =
      .some (((), .proxy 1), .error .unexpectedMessage) ∧
    (echoDownstream .extended false).handleMessageMining countingRouter
        (fun _ _ => .ok (.openStandardMiningChannel [1])) () () 0 [] (.proxy 0) =
      .some (((), .proxy 1), .error (.other 0)) ∧
    (echoUpstream .extended false).handleMessageMining countingRouter
        (fun _ _ => .ok (.openStandardMiningChannelSuccess [])) () () 0 [] (.proxy 0) =
      .some (((), .proxy 1), .error .unexpectedMessage) :=
  ⟨refused_open_standard_channel_runs_hook _ countingRouter _ () () 0 [] 0 [] _ rfl rfl rfl,
    refused_open_standard_channel_runs_hook _ countingRouter _ () () 0 [] 0 [1] _ rfl rfl rfl,
    refused_open_standard_channel_success_runs_hook _ countingRouter _ () () 0 [] 0 [] rfl rfl⟩

end Stratum.Router
