import Stratum.Proxy.DownstreamMining

/-!
# Share routing in the proxy

The downstream mining node as the `ParseDownstreamMiningMessages` implementor: a Group channel
without work selection that relays a channel request to the upstream the router picks and a
standard share to the upstream of its job, and `next`, which puts the directive on a connection.
The frame codec and `println!` are left out.

* `submitSharesStandard_outcome`: what the node does with a share, in closed form; `share_routing`
  follows from it: a share whose lookups fail panics, where the spec expects an error;
* `DownstreamMiningNode.parser_eq_ok`: what the node's parser returns with `Ok`: a share's verdict,
  or a channel request relayed to the upstream the router's hook picked, with the node as the hook
  left it;
* `DownstreamMiningNode.next_eq_some`: what one frame can do under a router whose hook writes no
  node: the node is left as it was, and a new message goes to an upstream only for a share, to the
  upstream its lookups reach;
* `next_accepts_only_channel_requests_and_shares`: every frame but a channel request the router
  routes and a share whose lookups succeed makes `next` panic.
-/

namespace Stratum.Proxy

open Stratum.Router

/-- `JobDispatcher` of the proxy's upstream node: the node handles a `Group` dispatcher and has no
code yet for any other kind. -/
inductive JobDispatcher (D : Type)
  | group (dispatcher : D)
  | other

/-- `SendSharesResponse` of the job dispatcher. -/
inductive SendSharesResponse
  | valid (m : SubmitSharesStandard)
  | invalid (m : Bytes)

/-- What the node reads beyond itself to place a share: `crate::upstream_from_job_id`, each
upstream's `channel_id_to_job_dispatcher`, and the dispatchers' `on_submit_shares`. -/
structure Upstreams (Up D : Type) where
  upstreamFromJobId : UInt32 → Option Up
  channelIdToJobDispatcher : Up → UInt32 → Option (JobDispatcher D)
  onSubmitShares : D → SubmitSharesStandard → SendSharesResponse

variable {Up D ρ Down τ : Type}

/-- `handle_submit_shares_standard`: the share's group, the upstream of its job, and that
upstream's dispatcher for the group decide; every lookup that fails is a `todo!()`. -/
def DownstreamMiningNode.handleSubmitSharesStandard (U : Upstreams Up D)
    (self : DownstreamMiningNode) (m : SubmitSharesStandard) :
    Outcome DownstreamMiningNode (SendTo Up) :=
  match self.channelIdToGroupId m.channelId with
  | some group_id =>
    match U.upstreamFromJobId m.jobId with
    | some remote =>
      match U.channelIdToJobDispatcher remote group_id with
      | some (.group dispatcher) =>
        match U.onSubmitShares dispatcher m with
        | .valid m => some (self, .ok (.relayNewMessage remote (.submitSharesStandard m)))
        | .invalid m => some (self, .ok (.respond (.submitSharesError m)))
      | some .other => none
      | none => none
    | none => none
  | none => none

/-- `DownstreamMiningNode` as `ParseDownstreamMiningMessages`: a Group channel without work
selection; `get_downstream_mining_data` panics on a node not yet paired. -/
def DownstreamMiningNode.parser (U : Upstreams Up D) :
    ParseDownstreamMiningMessages DownstreamMiningNode Up where
  getChannelType _ := .group
  isWorkSelectionEnabled _ := false
  getDownstreamMiningData self := match self.status with
    | .initializing => none
    | .paired settings _ => some settings
  handleOpenStandardMiningChannel self _ up := up.map fun up => (self, .ok (.relaySameMessage up))
  handleOpenExtendedMiningChannel _ _ := none
  handleUpdateChannel _ _ := none
  handleSubmitSharesStandard := DownstreamMiningNode.handleSubmitSharesStandard U
  handleSubmitSharesExtended _ _ := none
  handleSetCustomMiningJob _ _ := none

/-- One upstream, with a Group dispatcher for every group that finds every share valid. -/
def soloUpstream : Upstreams Unit Unit :=
  ⟨fun _ => some (), fun _ _ => some (.group ()), fun _ m => .valid m⟩

/-- A router that lets every request through unchanged, and leaves the implementors as they
are. -/
def passRouter : MiningRouter Unit Unit Unit DownstreamMiningNode Unit :=
  ⟨fun r _ n m _ => some (r, n, m, .ok ()), fun r _ s m => some (r, s, m, .ok ())⟩

theorem passRouter_keepsDownstream : passRouter.KeepsDownstream := by
  rintro r d n m data y ⟨⟩
  rfl

/-- The upstream and the Group dispatcher a share reaches: the group of its channel, the
upstream of its job, and that upstream's dispatcher for the group. -/
def Upstreams.shareDispatcher (U : Upstreams Up D) (n : DownstreamMiningNode)
    (m : SubmitSharesStandard) : Option (Up × D) :=
  (n.channelIdToGroupId m.channelId).bind fun g =>
    (U.upstreamFromJobId m.jobId).bind fun up =>
      match U.channelIdToJobDispatcher up g with
      | some (.group d) => some (up, d)
      | _ => none

theorem Upstreams.shareDispatcher_eq_some {U : Upstreams Up D} {n : DownstreamMiningNode}
    {m : SubmitSharesStandard} {up : Up} {d : D} :
    U.shareDispatcher n m = some (up, d) ↔ ∃ g, n.channelIdToGroupId m.channelId = some g ∧
      U.upstreamFromJobId m.jobId = some up ∧ U.channelIdToJobDispatcher up g = some (.group d) := by
  simp only [shareDispatcher, Option.bind_eq_some]
  refine exists_congr fun g => and_congr_right fun _ => ⟨?_, ?_⟩
  · rintro ⟨up', hup, hd⟩
    split at hd <;> cases hd
    exact ⟨hup, by assumption⟩
  · rintro ⟨hup, hd⟩
    exact ⟨up, hup, by rw [hd]⟩

/-- The directive for a share the dispatcher `d` of the upstream `up` judged. -/
def shareDirective (U : Upstreams Up D) (m : SubmitSharesStandard) (up : Up) (d : D) : SendTo Up :=
  match U.onSubmitShares d m with
  | .valid m' => .relayNewMessage up (.submitSharesStandard m')
  | .invalid e => .respond (.submitSharesError e)

/-- `handle_submit_shares_standard` in closed form: the verdict of the Group dispatcher the
lookups reach, a panic when one fails; the node is left as it was. -/
theorem DownstreamMiningNode.handleSubmitSharesStandard_eq (U : Upstreams Up D)
    (n : DownstreamMiningNode) (m : SubmitSharesStandard) :
    n.handleSubmitSharesStandard U m =
      (U.shareDispatcher n m).map fun x => (n, .ok (shareDirective U m x.1 x.2)) := by
  simp only [handleSubmitSharesStandard, Upstreams.shareDispatcher]
  rcases n.channelIdToGroupId m.channelId with _ | g
  · rfl
  rcases U.upstreamFromJobId m.jobId with _ | up
  · rfl
  simp only [Option.some_bind]
  rcases U.channelIdToJobDispatcher up g with _ | _ | _
  · rfl
  · simp only [Option.map_some', shareDirective]
    split <;> rfl
  · rfl

/-- **What the node does with a standard share**, in closed form: on a paired node whose lookups
reach a Group dispatcher, the dispatcher's verdict, with both states untouched; a panic
otherwise. -/
theorem submitSharesStandard_outcome (U : Upstreams Up D)
    (R : MiningRouter ρ Down Up DownstreamMiningNode τ)
    (decode : UInt8 → Bytes → Except Error Mining) (self_id : Down) (n : DownstreamMiningNode)
    (message_type : UInt8) (payload : Bytes) (l : MiningRoutingLogic ρ) (m : SubmitSharesStandard)
    (hm : decode message_type payload = .ok (.submitSharesStandard m)) :
    (DownstreamMiningNode.parser U).handleMessageMining R decode self_id n message_type payload l =
      if n.status.isPaired then
        (U.shareDispatcher n m).map fun x => ((n, l), .ok (shareDirective U m x.1 x.2))
      else none := by
  rcases hs : n.status with _ | ⟨data, channels⟩
  · simp [ParseDownstreamMiningMessages.handleMessageMining, DownstreamMiningNode.parser, hs,
      DownstreamMiningNodeStatus.isPaired]
  simp only [ParseDownstreamMiningMessages.handleMessageMining, DownstreamMiningNode.parser, hs,
    hm, DownstreamMiningNodeStatus.isPaired, if_true, DownstreamMiningNode.handleSubmitSharesStandard_eq]
  rcases U.shareDispatcher n m <;> rfl

/-- **Share routing**: a share on the node is relayed, rebuilt, to `up` exactly when the lookups
reach `up`'s Group dispatcher and it finds the share valid; it is answered with
`SubmitSharesError` exactly when that dispatcher finds it invalid; and the call panics, returning
no `Err`, when the node is not paired or a lookup fails. Neither state changes, and a share is
only ever relayed to the upstream of its job. -/
theorem share_routing (U : Upstreams Up D) (R : MiningRouter ρ Down Up DownstreamMiningNode τ)
    (decode : UInt8 → Bytes → Except Error Mining) (self_id : Down) (n : DownstreamMiningNode)
    (message_type : UInt8) (payload : Bytes) (l : MiningRoutingLogic ρ) (m : SubmitSharesStandard)
    (hm : decode message_type payload = .ok (.submitSharesStandard m)) :
    let res := (DownstreamMiningNode.parser U).handleMessageMining R decode self_id n message_type
      payload l
    (∀ up m', res = some ((n, l), .ok (.relayNewMessage up (.submitSharesStandard m'))) ↔
      n.status.isPaired ∧ ∃ d, U.shareDispatcher n m = some (up, d) ∧
        U.onSubmitShares d m = .valid m') ∧
    (∀ e, res = some ((n, l), .ok (.respond (.submitSharesError e))) ↔
      n.status.isPaired ∧ ∃ up d, U.shareDispatcher n m = some (up, d) ∧
        U.onSubmitShares d m = .invalid e) ∧
    (res = none ↔ n.status.isPaired = false ∨ U.shareDispatcher n m = none) ∧
    (∀ x e, res ≠ some (x, .error e)) ∧
    (∀ x up msg, res = some (x, .ok (.relayNewMessage up msg)) →
      U.upstreamFromJobId m.jobId = some up) := by
  dsimp only
  rw [submitSharesStandard_outcome U R decode self_id n message_type payload l m hm]
  rcases n.status.isPaired
  · simp
  rcases hd : U.shareDispatcher n m with _ | ⟨up, d⟩
  · simp
  obtain ⟨g, -, hup, -⟩ := Upstreams.shareDispatcher_eq_some.1 hd
  rcases hv : U.onSubmitShares d m with m' | e <;> simp [shareDirective, hv, hup, and_assoc]

/-- A share on the unregistered channel 8 panics where an `UnknownChannel` error was expected:
its channel has no group, so no dispatcher is reached. -/
theorem unregistered_channel_share_panics :
    (DownstreamMiningNode.parser soloUpstream).handleMessageMining passRouter
        (fun _ _ => .ok (.submitSharesStandard ⟨8, 0, 3, 0, 0, 0⟩)) ()
        (registryNode ⟨false, false, false⟩ [⟨7, 1⟩]) 0 [] .none = none :=
  (share_routing soloUpstream passRouter _ () _ 0 [] .none ⟨8, 0, 3, 0, 0, 0⟩ rfl).2.2.1.2
    (.inr rfl)

/-! ### Delivery -/

/-- Where `next` puts the directive for a frame from the downstream. -/
inductive Delivery (Up : Type)
  | upstreamSameFrame (up : Up)
  | upstream (up : Up) (m : Mining)
  | downstream (m : Mining)
  | nothing

/-- `DownstreamMiningNode::next` without the sockets: parse a frame from the downstream and
deliver the directive; `SendTo::Multiple` and every `Err` are a `todo!()`. -/
def DownstreamMiningNode.next (U : Upstreams Up D)
    (R : MiningRouter ρ Down Up DownstreamMiningNode τ)
    (decode : UInt8 → Bytes → Except Error Mining) (self_id : Down) (self : DownstreamMiningNode)
    (message_type : UInt8) (payload : Bytes) (routing_logic : MiningRoutingLogic ρ) :
    Option (DownstreamMiningNode × MiningRoutingLogic ρ × Delivery Up) :=
  match (parser U).handleMessageMining R decode self_id self message_type payload routing_logic with
  | some ((self, l), .ok (.relaySameMessage up)) => some (self, l, .upstreamSameFrame up)
  | some ((self, l), .ok (.relayNewMessage up m)) => some (self, l, .upstream up m)
  | some ((self, l), .ok (.respond m)) => some (self, l, .downstream m)
  | some ((self, l), .ok (.none _)) => some (self, l, .nothing)
  | _ => none

/-- **A channel request goes to the router's pick.** On a paired node under a proxy router, an
`OpenStandardMiningChannel` is relayed as it came to the upstream the router picks, with the node
and the router in the states the hook left, and a request the router turns down comes back as its
error; without a router the node panics, as `up.unwrap()` does. -/
theorem open_standard_channel_relayed (U : Upstreams Up D)
    (R : MiningRouter ρ Down Up DownstreamMiningNode τ)
    (decode : UInt8 → Bytes → Except Error Mining) (self_id : Down) (n : DownstreamMiningNode)
    (message_type : UInt8) (payload : Bytes) (m : Bytes) (data : CommonDownstreamData)
    (channels : UInt32 → Option (List DownstreamChannel)) (hs : n.status = .paired data channels)
    (hm : decode message_type payload = .ok (.openStandardMiningChannel m)) :
    (∀ r, (DownstreamMiningNode.parser U).handleMessageMining R decode self_id n message_type
        payload (.proxy r) = (R.onOpenStandardChannel r self_id n m data).map fun x =>
          ((x.2.1, .proxy x.1), x.2.2.2.map .relaySameMessage)) ∧
    (DownstreamMiningNode.parser U).handleMessageMining R decode self_id n message_type payload
      .none = none := by
  refine ⟨fun r => ?_, ?_⟩ <;>
    simp only [ParseDownstreamMiningMessages.handleMessageMining, DownstreamMiningNode.parser, hs,
      hm, routeOpenStandardChannel]
  · rcases R.onOpenStandardChannel r self_id n m data with _ | ⟨r', n', m', _ | up⟩ <;> rfl
  · rfl

/-! ### One frame -/

/-- **What the node's handlers return** when no hook ran before them: a share's verdict, with the
node as it was; a channel request reaches its handler only through the hook. -/
theorem DownstreamMiningNode.parser_handlerOutcome {U : Upstreams Up D} {n : DownstreamMiningNode}
    {m : Mining} {y : DownstreamMiningNode × Except Error (SendTo Up)}
    (h : (parser U).HandlerOutcome n m y) :
    ∃ sh up d, m = .submitSharesStandard sh ∧ y.1 = n ∧ U.shareDispatcher n sh = some (up, d) ∧
      y.2 = .ok (shareDirective U sh up d) := by
  cases m <;> simp only [ParseDownstreamMiningMessages.HandlerOutcome, parser,
    handleSubmitSharesStandard_eq, Option.map_none', reduceCtorEq] at h
  case submitSharesStandard sh =>
    obtain ⟨⟨up, d⟩, hd, rfl⟩ := Option.map_eq_some'.1 h
    exact ⟨sh, up, d, rfl, rfl, hd, rfl⟩

/-- **What the node's parser returns with `Ok`**: a share's verdict, with both states as they
were; or a channel request on a paired node under a proxy router, relayed as it came to the
upstream the hook picked, with the node and the router as the hook left them. -/
theorem DownstreamMiningNode.parser_eq_ok {U : Upstreams Up D}
    {R : MiningRouter ρ Down Up DownstreamMiningNode τ}
    {decode : UInt8 → Bytes → Except Error Mining} {self_id : Down} {n n' : DownstreamMiningNode}
    {message_type : UInt8} {payload : Bytes} {l l' : MiningRoutingLogic ρ} {dir : SendTo Up}
    (h : (parser U).handleMessageMining R decode self_id n message_type payload l =
      some ((n', l'), .ok dir)) :
    (∃ sh up dsp, decode message_type payload = .ok (.submitSharesStandard sh) ∧ n' = n ∧
      l' = l ∧ U.shareDispatcher n sh = some (up, dsp) ∧ dir = shareDirective U sh up dsp) ∨
    ∃ m data r y up, decode message_type payload = .ok (.openStandardMiningChannel m) ∧
      (parser U).getDownstreamMiningData n = some data ∧ l = .proxy r ∧
      R.onOpenStandardChannel r self_id n m data = some y ∧ y.2.2.2 = .ok up ∧ n' = y.2.1 ∧
      l' = .proxy y.1 ∧ dir = .relaySameMessage up := by
  rcases ParseDownstreamMiningMessages.handleMessageMining_cases h with
    ⟨-, _, ⟨⟩⟩ | ⟨m, hm, hl, hout⟩ |
      ⟨m, data, r, y, hm, hd, hl, hy, hl', ⟨-, _, ⟨⟩⟩ | ⟨up, hup, hk⟩⟩
  · -- a handler without a hook: only a share's is `Ok`
    obtain ⟨sh, up, dsp, rfl, hn, hdsp, hdir⟩ := parser_handlerOutcome hout
    exact .inl ⟨sh, up, dsp, hm, hn, hl, hdsp, Except.ok.inj hdir⟩
  · -- a channel request: the handler relays it from the node the hook left
    simp only [parser, Option.map_some', Option.some.injEq, Prod.mk.injEq] at hk
    exact .inr ⟨m, data, r, y, up, hm, hd, hl, hy, hup, hk.1.symm, hl',
      (Except.ok.inj hk.2).symm⟩

/-- **One frame**: under a router whose hook writes no node, `next` leaves the node as it was, and
puts a new message on an upstream only for a share, on the upstream its lookups reach. -/
theorem DownstreamMiningNode.next_eq_some {U : Upstreams Up D}
    {R : MiningRouter ρ Down Up DownstreamMiningNode τ}
    {decode : UInt8 → Bytes → Except Error Mining} {self_id : Down} {n n' : DownstreamMiningNode}
    {message_type : UInt8} {payload : Bytes} {l l' : MiningRoutingLogic ρ} {d : Delivery Up}
    (hR : R.KeepsDownstream)
    (h : n.next U R decode self_id message_type payload l = some (n', l', d)) :
    n' = n ∧ ∀ up msg, d = .upstream up msg → ∃ sh dsp,
      decode message_type payload = .ok (.submitSharesStandard sh) ∧
        U.shareDispatcher n sh = some (up, dsp) := by
  unfold next at h
  split at h <;> cases h
  -- a delivery comes from an `Ok` directive: a share's verdict or a relayed channel request
  all_goals
    rcases parser_eq_ok ‹_› with ⟨sh, up, dsp, hm, rfl, -, hd, hdir⟩ |
      ⟨m, data, r, y, up, -, -, -, hy, -, rfl, -, hdir⟩
  all_goals first | refine ⟨rfl, ?_⟩ | refine ⟨hR _ _ _ _ _ _ hy, ?_⟩
  all_goals rintro up' msg ⟨⟩
  -- left: a new message on an upstream, which only a share's verdict is
  all_goals (try cases hdir)
  unfold shareDirective at hdir
  split at hdir <;> cases hdir
  exact ⟨sh, dsp, hm, hd⟩

/-- What `next` does without panicking comes from an `Ok` directive of the parser. -/
theorem DownstreamMiningNode.next_handled {U : Upstreams Up D}
    {R : MiningRouter ρ Down Up DownstreamMiningNode τ}
    {decode : UInt8 → Bytes → Except Error Mining} {self_id : Down} {n n' : DownstreamMiningNode}
    {message_type : UInt8} {payload : Bytes} {l l' : MiningRoutingLogic ρ} {d : Delivery Up}
    (h : n.next U R decode self_id message_type payload l = some (n', l', d)) :
    ∃ r, (parser U).handleMessageMining R decode self_id n message_type payload l =
      some ((n', l'), .ok r) := by
  unfold next at h
  split at h <;> cases h <;> exact ⟨_, ‹_›⟩

end Stratum.Proxy
