import Mathlib.Data.List.Basic

/-!
# The mining message parsers

`handlers/mining.rs` of `roles-logic-sv2`: the connection-wide parsers that decode a mining
message and hand it to the implementor's handler for it, or refuse it. `Parse…MiningMessages`
are traits; here each is the structure of the methods `handle_message_mining` calls, over the
implementor's state `σ` (what sits behind its mutex), and `handle_message_mining` is a function of
that structure. The router state `ρ` sits behind the routing logic's mutex. A peer a hook picks is
named by its identifier (`Up`, `Down`); the implementor itself is handed to the hook as
`self_mutex.clone()`, so the hook gets its state and may change it, and the handler then runs on
the state the hook left.

Every call into the implementor or the router may panic (`todo!()`, `unwrap`): an `Outcome` is
`none` for a panic, else the state after the call and its `Result`. The message codec is not
among the sources; `decode` stands for `(message_type, payload).try_into()`.

* `ParseDownstreamMiningMessages.handleMessageMining_cases` and its upstream twin: everything a
  call can return: a refusal before any hook, with both states as they were; what a handler
  returned on the state it was given; or, under a proxy router, what follows the hook: a refusal
  with the states the hook left, or the handler run on the implementor as the hook left it.
-/

namespace Stratum.Router

/-- Byte strings. -/
abbrev Bytes := List UInt8

/-- `errors::Error` of `roles-logic-sv2`, as far as the parsers tell its variants apart. -/
inductive Error
  | unexpectedMessage
  | other (code : Nat)
deriving DecidableEq, Repr

/-- `SupportedChannelTypes`. -/
inductive SupportedChannelTypes
  | standard
  | extended
  | group
  | groupAndExtended
deriving DecidableEq, Repr

/-- `SubmitSharesStandard` of `mining_sv2`. -/
structure SubmitSharesStandard where
  channelId : UInt32
  sequenceNumber : UInt32
  jobId : UInt32
  nonce : UInt32
  ntime : UInt32
  version : UInt32
deriving DecidableEq, Repr

/-- `parsers::Mining`. The proxy reads the fields of `SubmitSharesStandard`; every other message
is handed on unread, and is kept as its bytes. -/
inductive Mining
  | closeChannel (m : Bytes)
  | newExtendedMiningJob (m : Bytes)
  | newMiningJob (m : Bytes)
  | openExtendedMiningChannel (m : Bytes)
  | openExtendedMiningChannelSuccess (m : Bytes)
  | openMiningChannelError (m : Bytes)
  | openStandardMiningChannel (m : Bytes)
  | openStandardMiningChannelSuccess (m : Bytes)
  | reconnect (m : Bytes)
  | setCustomMiningJob (m : Bytes)
  | setCustomMiningJobError (m : Bytes)
  | setCustomMiningJobSuccess (m : Bytes)
  | setExtranoncePrefix (m : Bytes)
  | setGroupChannel (m : Bytes)
  | setNewPrevHash (m : Bytes)
  | setTarget (m : Bytes)
  | submitSharesError (m : Bytes)
  | submitSharesExtended (m : Bytes)
  | submitSharesStandard (m : SubmitSharesStandard)
  | submitSharesSuccess (m : Bytes)
  | updateChannel (m : Bytes)
  | updateChannelError (m : Bytes)
deriving DecidableEq, Repr

/-- `SendTo_<Mining, Remote>`: what the caller of a parser is to do. -/
inductive SendTo (Remote : Type)
  | relaySameMessage (r : Remote)
  | relayNewMessage (r : Remote) (m : Mining)
  | respond (m : Mining)
  | multiple (l : List (SendTo Remote))
  | none (m : Option Mining)

/-- `CommonDownstreamData`: what `SetupConnection` settled. -/
structure CommonDownstreamData where
  headerOnly : Bool
  workSelection : Bool
  versionRolling : Bool
deriving DecidableEq, Repr

/-- What a call ends in: `none` for a panic, else the state after it and its `Result`. -/
abbrev Outcome (σ α : Type) := Option (σ × Except Error α)

/-- `MiningRoutingLogic`: no routing, or a proxy's router, with its state. The `_P` variant only
carries phantom data and is never built. -/
inductive MiningRoutingLogic (ρ : Type)
  | none
  | proxy (r : ρ)
deriving DecidableEq, Repr

/-- The `MiningRouter` hooks the parsers call. Each is handed the calling implementor, through
`self_mutex.clone()`, so it gets its state and may change it (`σ` for a downstream's, `τ` for an
upstream's), and the message by `&mut`, so it may rewrite it. It returns the implementor and the
message as it left them, and the peer it picked or an error; `none` is a panic inside the hook. -/
structure MiningRouter (ρ Down Up σ τ : Type) where
  onOpenStandardChannel :
    ρ → Down → σ → Bytes → CommonDownstreamData → Option (ρ × σ × Bytes × Except Error Up)
  onOpenStandardChannelSuccess : ρ → Up → τ → Bytes → Option (ρ × τ × Bytes × Except Error Down)

variable {σ τ ρ Down Up : Type}

/-- `on_open_standard_channel` only reads the downstream it is handed: it returns it as it was. -/
def MiningRouter.KeepsDownstream (R : MiningRouter ρ Down Up σ τ) : Prop :=
  ∀ r d s m data y, R.onOpenStandardChannel r d s m data = .some y → y.2.1 = s

/-- `on_open_standard_channel_success` only reads the upstream it is handed. -/
def MiningRouter.KeepsUpstream (R : MiningRouter ρ Down Up σ τ) : Prop :=
  ∀ r u s m y, R.onOpenStandardChannelSuccess r u s m = .some y → y.2.1 = s

/-- `Some(up?)` and what follows it: a panic in the hook panics, its error is returned at once with
the implementor and the router state it left, and otherwise `k` runs on the router state, the
implementor and the message as the hook left them, and the peer it picked. -/
def routeThen {Peer α : Type}
    (route : Option (MiningRoutingLogic ρ × σ × Bytes × Except Error (Option Peer)))
    (k : MiningRoutingLogic ρ → σ → Bytes → Option Peer → Outcome (σ × MiningRoutingLogic ρ) α) :
    Outcome (σ × MiningRoutingLogic ρ) α :=
  match route with
  | .none => .none
  | .some (l, s, _, .error e) => .some ((s, l), .error e)
  | .some (l, s, m, .ok peer) => k l s m peer

/-- A call into the implementor, with the routing logic as the parser leaves it. -/
def withLogic (l : MiningRoutingLogic ρ) : Outcome σ α → Outcome (σ × MiningRoutingLogic ρ) α
  | .none => .none
  | .some (s, r) => .some ((s, l), r)

@[simp] theorem withLogic_none (l : MiningRoutingLogic ρ) :
    withLogic l (.none : Outcome σ α) = .none := rfl

@[simp] theorem withLogic_some (l : MiningRoutingLogic ρ) (s : σ) (r : Except Error α) :
    withLogic l (.some (s, r)) = .some ((s, l), r) := rfl

/-! ### Downstream to upstream -/

/-- `ParseDownstreamMiningMessages`, implemented by an upstream for its downstream's messages. -/
structure ParseDownstreamMiningMessages (σ Up : Type) where
  getChannelType : σ → SupportedChannelTypes
  isWorkSelectionEnabled : σ → Bool
  /-- `IsDownstream::get_downstream_mining_data`; `none` is a panic. -/
  getDownstreamMiningData : σ → Option CommonDownstreamData
  handleOpenStandardMiningChannel : σ → Bytes → Option Up → Outcome σ (SendTo Up)
  handleOpenExtendedMiningChannel : σ → Bytes → Outcome σ (SendTo Up)
  handleUpdateChannel : σ → Bytes → Outcome σ (SendTo Up)
  handleSubmitSharesStandard : σ → SubmitSharesStandard → Outcome σ (SendTo Up)
  handleSubmitSharesExtended : σ → Bytes → Outcome σ (SendTo Up)
  handleSetCustomMiningJob : σ → Bytes → Outcome σ (SendTo Up)

/-- The `let upstream = match routing_logic { .. }` of the `OpenStandardMiningChannel` arm: no
upstream without a router, else the router's pick or its error, with the implementor and the
message as the hook left them. -/
def routeOpenStandardChannel (R : MiningRouter ρ Down Up σ τ) (self_id : Down) (s : σ) (m : Bytes)
    (data : CommonDownstreamData) :
    MiningRoutingLogic ρ → Option (MiningRoutingLogic ρ × σ × Bytes × Except Error (Option Up))
  | .none => .some (.none, s, m, .ok .none)
  | .proxy r => (R.onOpenStandardChannel r self_id s m data).map fun x =>
    (.proxy x.1, x.2.1, x.2.2.1, x.2.2.2.map .some)

/-- `ParseDownstreamMiningMessages::handle_message_mining`, called by the downstream `self_id`
in state `s`. -/
def ParseDownstreamMiningMessages.handleMessageMining (P : ParseDownstreamMiningMessages σ Up)
    (R : MiningRouter ρ Down Up σ τ) (decode : UInt8 → Bytes → Except Error Mining) (self_id : Down)
    (s : σ) (message_type : UInt8) (payload : Bytes) (routing_logic : MiningRoutingLogic ρ) :
    Outcome (σ × MiningRoutingLogic ρ) (SendTo Up) :=
  match P.getDownstreamMiningData s with
  | .none => .none
  | .some downstream_mining_data =>
    let channel_type := P.getChannelType s
    let unexpected : Outcome (σ × MiningRoutingLogic ρ) (SendTo Up) :=
      .some ((s, routing_logic), .error .unexpectedMessage)
    match decode message_type payload with
    | .ok (.openStandardMiningChannel m) =>
      routeThen (routeOpenStandardChannel R self_id s m downstream_mining_data routing_logic)
        fun l s' m upstream =>
        match channel_type with
        | .standard => withLogic l (P.handleOpenStandardMiningChannel s' m upstream)
        | .extended => .some ((s', l), .error .unexpectedMessage)
        | .group => withLogic l (P.handleOpenStandardMiningChannel s' m upstream)
        | .groupAndExtended => withLogic l (P.handleOpenStandardMiningChannel s' m upstream)
    | .ok (.openExtendedMiningChannel m) =>
      match channel_type with
      | .extended | .groupAndExtended =>
        withLogic routing_logic (P.handleOpenExtendedMiningChannel s m)
      | .standard | .group => unexpected
    | .ok (.updateChannel m) => withLogic routing_logic (P.handleUpdateChannel s m)
    | .ok (.submitSharesStandard m) =>
      match channel_type with
      | .standard | .group | .groupAndExtended =>
        withLogic routing_logic (P.handleSubmitSharesStandard s m)
      | .extended => unexpected
    | .ok (.submitSharesExtended m) =>
      match channel_type with
      | .extended | .groupAndExtended =>
        withLogic routing_logic (P.handleSubmitSharesExtended s m)
      | .standard | .group => unexpected
    | .ok (.setCustomMiningJob m) =>
      match channel_type, P.isWorkSelectionEnabled s with
      | .extended, true | .group, true | .groupAndExtended, true =>
        withLogic routing_logic (P.handleSetCustomMiningJob s m)
      | _, _ => unexpected
    | .ok _ => unexpected
    | .error e => .some ((s, routing_logic), .error e)

/-- `y` is what the handler the message `m` goes to returned in the state `s` when no hook ran
before it: an `OpenStandardMiningChannel` reaches it with no upstream. -/
def ParseDownstreamMiningMessages.HandlerOutcome (P : ParseDownstreamMiningMessages σ Up) (s : σ) :
    Mining → σ × Except Error (SendTo Up) → Prop
  | .openStandardMiningChannel m, y => P.handleOpenStandardMiningChannel s m .none = .some y
  | .openExtendedMiningChannel m, y => P.handleOpenExtendedMiningChannel s m = .some y
  | .updateChannel m, y => P.handleUpdateChannel s m = .some y
  | .submitSharesStandard m, y => P.handleSubmitSharesStandard s m = .some y
  | .submitSharesExtended m, y => P.handleSubmitSharesExtended s m = .some y
  | .setCustomMiningJob m, y => P.handleSetCustomMiningJob s m = .some y
  | _, _ => False

theorem withLogic_eq_some {l : MiningRoutingLogic ρ} {o : Outcome σ α} {x}
    (h : withLogic l o = .some x) : x.1.2 = l ∧ o = .some (x.1.1, x.2) := by
  rcases o with _ | ⟨s', r⟩ <;> cases h
  exact ⟨rfl, rfl⟩

theorem refusal_eq_some {s : σ} {l : MiningRoutingLogic ρ} {e : Error}
    {x : (σ × MiningRoutingLogic ρ) × Except Error α} (h : (.some ((s, l), .error e) : Outcome _ α) = .some x) :
    x.1 = (s, l) ∧ ∃ e, x.2 = .error e := by
  cases h
  exact ⟨rfl, _, rfl⟩

/-- **A routed call under a proxy router**: the hook ran and did not panic; its error comes back
with the implementor and the router state it left, and otherwise the continuation runs on them,
the message as the hook left it, and its pick. -/
theorem routeThen_proxy {Peer α : Type} {hook : Option (ρ × σ × Bytes × Except Error Peer)}
    {k : MiningRoutingLogic ρ → σ → Bytes → Option Peer → Outcome (σ × MiningRoutingLogic ρ) α} {x}
    (h : routeThen (hook.map fun y => (.proxy y.1, y.2.1, y.2.2.1, y.2.2.2.map .some)) k = .some x) :
    ∃ y, hook = .some y ∧
      ((x.1 = (y.2.1, .proxy y.1) ∧ ∃ e, y.2.2.2 = .error e ∧ x.2 = .error e) ∨
        ∃ peer, y.2.2.2 = .ok peer ∧ k (.proxy y.1) y.2.1 y.2.2.1 (.some peer) = .some x) := by
  rcases hook with _ | ⟨r, s, m, e | peer⟩
  · cases h
  · cases h
    exact ⟨_, rfl, .inl ⟨rfl, e, rfl, rfl⟩⟩
  · exact ⟨_, rfl, .inr ⟨peer, rfl, h⟩⟩

/-- **Everything the downstream parser can return.** A refusal before any hook, with both states
as they were; what the handler of the decoded message returned on the state it was given, the
router untouched (a channel request with no router reaches its handler with no upstream); or,
for a channel request under a proxy router, what follows `on_open_standard_channel`: the router
state it left, and a refusal with the implementor as it left it, or the handler run on that
implementor with the message as the hook left it and the upstream it picked. -/
theorem ParseDownstreamMiningMessages.handleMessageMining_cases
    {P : ParseDownstreamMiningMessages σ Up} {R : MiningRouter ρ Down Up σ τ}
    {decode : UInt8 → Bytes → Except Error Mining} {self_id : Down} {s : σ} {message_type : UInt8}
    {payload : Bytes} {l : MiningRoutingLogic ρ} {x}
    (h : P.handleMessageMining R decode self_id s message_type payload l = .some x) :
    (x.1 = (s, l) ∧ ∃ e, x.2 = .error e) ∨
    (∃ m, decode message_type payload = .ok m ∧ x.1.2 = l ∧ P.HandlerOutcome s m (x.1.1, x.2)) ∨
    ∃ m data r y, decode message_type payload = .ok (.openStandardMiningChannel m) ∧
      P.getDownstreamMiningData s = .some data ∧ l = .proxy r ∧
      R.onOpenStandardChannel r self_id s m data = .some y ∧ x.1.2 = .proxy y.1 ∧
      ((x.1.1 = y.2.1 ∧ ∃ e, x.2 = .error e) ∨ ∃ up, y.2.2.2 = .ok up ∧
        P.handleOpenStandardMiningChannel y.2.1 y.2.2.1 (.some up) = .some (x.1.1, x.2)) := by
  unfold handleMessageMining at h
  dsimp only at h
  split at h
  · cases h
  rename_i data hd
  split at h
  · -- `OpenStandardMiningChannel`: routed, then refused on an Extended connection or handled
    rename_i m hm
    rcases l with _ | r
    · split at h <;> first
        | exact .inl (refusal_eq_some h)
        | exact .inr (.inl ⟨_, hm, withLogic_eq_some h⟩)
    obtain ⟨y, hy, ⟨hx, e, he, hxe⟩ | ⟨up, hup, hk⟩⟩ := routeThen_proxy h
    · exact .inr (.inr ⟨m, data, r, y, hm, hd, rfl, hy, congrArg Prod.snd hx,
        .inl ⟨congrArg Prod.fst hx, e, hxe⟩⟩)
    · refine .inr (.inr ⟨m, data, r, y, hm, hd, rfl, hy, ?_⟩)
      split at hk
      all_goals first
        | (cases hk; exact ⟨rfl, .inl ⟨rfl, _, rfl⟩⟩)
        | (obtain ⟨hl, ho⟩ := withLogic_eq_some hk; exact ⟨hl, .inr ⟨up, hup, ho⟩⟩)
  all_goals (try split at h) <;> first
    | exact .inl (refusal_eq_some h)
    | (refine .inr (.inl ⟨_, ‹_›, ?_⟩); exact withLogic_eq_some h)

/-! ### Upstream to downstream -/

/-- `ParseUpstreamMiningMessages`, implemented by a downstream for its upstream's messages. -/
structure ParseUpstreamMiningMessages (σ Down : Type) where
  getChannelType : σ → SupportedChannelTypes
  isWorkSelectionEnabled : σ → Bool
  handleOpenStandardMiningChannelSuccess : σ → Bytes → Option Down → Outcome σ (SendTo Down)
  handleOpenExtendedMiningChannelSuccess : σ → Bytes → Outcome σ (SendTo Down)
  handleOpenMiningChannelError : σ → Bytes → Outcome σ (SendTo Down)
  handleUpdateChannelError : σ → Bytes → Outcome σ (SendTo Down)
  handleCloseChannel : σ → Bytes → Outcome σ (SendTo Down)
  handleSetExtranoncePrefix : σ → Bytes → Outcome σ (SendTo Down)
  handleSubmitSharesSuccess : σ → Bytes → Outcome σ (SendTo Down)
  handleSubmitSharesError : σ → Bytes → Outcome σ (SendTo Down)
  handleNewMiningJob : σ → Bytes → Outcome σ (SendTo Down)
  handleNewExtendedMiningJob : σ → Bytes → Outcome σ (SendTo Down)
  handleSetNewPrevHash : σ → Bytes → Outcome σ (SendTo Down)
  handleSetCustomMiningJobSuccess : σ → Bytes → Outcome σ (SendTo Down)
  handleSetCustomMiningJobError : σ → Bytes → Outcome σ (SendTo Down)
  handleSetTarget : σ → Bytes → Outcome σ (SendTo Down)
  handleReconnect : σ → Bytes → Outcome σ (SendTo Down)
  handleSetGroupChannel : σ → Bytes → Outcome σ (SendTo Down) := fun s _ => .some (s, .ok (.none .none))

/-- The `let remote = match routing_logic { .. }` of the `OpenStandardMiningChannelSuccess`
arm. -/
def routeOpenStandardChannelSuccess (R : MiningRouter ρ Down Up τ σ) (self_id : Up) (s : σ)
    (m : Bytes) :
    MiningRoutingLogic ρ → Option (MiningRoutingLogic ρ × σ × Bytes × Except Error (Option Down))
  | .none => .some (.none, s, m, .ok .none)
  | .proxy r => (R.onOpenStandardChannelSuccess r self_id s m).map fun x =>
    (.proxy x.1, x.2.1, x.2.2.1, x.2.2.2.map .some)

/-- `ParseUpstreamMiningMessages::handle_message_mining`, called by the upstream `self_id` in
state `s`. -/
def ParseUpstreamMiningMessages.handleMessageMining (P : ParseUpstreamMiningMessages σ Down)
    (R : MiningRouter ρ Down Up τ σ) (decode : UInt8 → Bytes → Except Error Mining) (self_id : Up)
    (s : σ) (message_type : UInt8) (payload : Bytes) (routing_logic : MiningRoutingLogic ρ) :
    Outcome (σ × MiningRoutingLogic ρ) (SendTo Down) :=
  let channel_type := P.getChannelType s
  let call := fun (o : Outcome σ (SendTo Down)) => withLogic routing_logic o
  let unexpected : Outcome (σ × MiningRoutingLogic ρ) (SendTo Down) :=
    .some ((s, routing_logic), .error .unexpectedMessage)
  match decode message_type payload with
  | .ok (.openStandardMiningChannelSuccess m) =>
    routeThen (routeOpenStandardChannelSuccess R self_id s m routing_logic) fun l s' m remote =>
      match channel_type with
      | .standard => withLogic l (P.handleOpenStandardMiningChannelSuccess s' m remote)
      | .extended => .some ((s', l), .error .unexpectedMessage)
      | .group => withLogic l (P.handleOpenStandardMiningChannelSuccess s' m remote)
      | .groupAndExtended => withLogic l (P.handleOpenStandardMiningChannelSuccess s' m remote)
  | .ok (.openExtendedMiningChannelSuccess m) =>
    match channel_type with
    | .extended | .groupAndExtended => call (P.handleOpenExtendedMiningChannelSuccess s m)
    | .standard | .group => unexpected
  | .ok (.openMiningChannelError m) => call (P.handleOpenMiningChannelError s m)
  | .ok (.updateChannelError m) => call (P.handleUpdateChannelError s m)
  | .ok (.closeChannel m) => call (P.handleCloseChannel s m)
  | .ok (.setExtranoncePrefix m) => call (P.handleSetExtranoncePrefix s m)
  | .ok (.submitSharesSuccess m) => call (P.handleSubmitSharesSuccess s m)
  | .ok (.submitSharesError m) => call (P.handleSubmitSharesError s m)
  | .ok (.newMiningJob m) =>
    match channel_type with
    | .standard => call (P.handleNewMiningJob s m)
    | .extended | .group | .groupAndExtended => unexpected
  | .ok (.newExtendedMiningJob m) =>
    match channel_type with
    | .extended | .group | .groupAndExtended => call (P.handleNewExtendedMiningJob s m)
    | .standard => unexpected
  | .ok (.setNewPrevHash m) => call (P.handleSetNewPrevHash s m)
  | .ok (.setCustomMiningJobSuccess m) =>
    match channel_type, P.isWorkSelectionEnabled s with
    | .extended, true | .group, true | .groupAndExtended, true =>
      call (P.handleSetCustomMiningJobSuccess s m)
    | _, _ => unexpected
  | .ok (.setCustomMiningJobError m) =>
    match channel_type, P.isWorkSelectionEnabled s with
    | .extended, true | .group, true | .groupAndExtended, true =>
      call (P.handleSetCustomMiningJobError s m)
    | _, _ => unexpected
  | .ok (.setTarget m) => call (P.handleSetTarget s m)
  | .ok (.reconnect m) => call (P.handleReconnect s m)
  | .ok (.setGroupChannel m) =>
    match channel_type with
    | .group | .groupAndExtended => call (P.handleSetGroupChannel s m)
    | .standard | .extended => unexpected
  | .ok _ => unexpected
  | .error e => .some ((s, routing_logic), .error e)

/-- `y` is what the handler the message `m` goes to returned in the state `s` when no hook ran
before it: an `OpenStandardMiningChannelSuccess` reaches it with no downstream. -/
def ParseUpstreamMiningMessages.HandlerOutcome (P : ParseUpstreamMiningMessages σ Down) (s : σ) :
    Mining → σ × Except Error (SendTo Down) → Prop
  | .openStandardMiningChannelSuccess m, y =>
    P.handleOpenStandardMiningChannelSuccess s m .none = .some y
  | .openExtendedMiningChannelSuccess m, y => P.handleOpenExtendedMiningChannelSuccess s m = .some y
  | .openMiningChannelError m, y => P.handleOpenMiningChannelError s m = .some y
  | .updateChannelError m, y => P.handleUpdateChannelError s m = .some y
  | .closeChannel m, y => P.handleCloseChannel s m = .some y
  | .setExtranoncePrefix m, y => P.handleSetExtranoncePrefix s m = .some y
  | .submitSharesSuccess m, y => P.handleSubmitSharesSuccess s m = .some y
  | .submitSharesError m, y => P.handleSubmitSharesError s m = .some y
  | .newMiningJob m, y => P.handleNewMiningJob s m = .some y
  | .newExtendedMiningJob m, y => P.handleNewExtendedMiningJob s m = .some y
  | .setNewPrevHash m, y => P.handleSetNewPrevHash s m = .some y
  | .setCustomMiningJobSuccess m, y => P.handleSetCustomMiningJobSuccess s m = .some y
  | .setCustomMiningJobError m, y => P.handleSetCustomMiningJobError s m = .some y
  | .setTarget m, y => P.handleSetTarget s m = .some y
  | .reconnect m, y => P.handleReconnect s m = .some y
  | .setGroupChannel m, y => P.handleSetGroupChannel s m = .some y
  | _, _ => False

/-- **Everything the upstream parser can return**, as for the downstream parser, the hook being
`on_open_standard_channel_success` and the message it routes an
`OpenStandardMiningChannelSuccess`. -/
theorem ParseUpstreamMiningMessages.handleMessageMining_cases
    {P : ParseUpstreamMiningMessages σ Down} {R : MiningRouter ρ Down Up τ σ}
    {decode : UInt8 → Bytes → Except Error Mining} {self_id : Up} {s : σ} {message_type : UInt8}
    {payload : Bytes} {l : MiningRoutingLogic ρ} {x}
    (h : P.handleMessageMining R decode self_id s message_type payload l = .some x) :
    (x.1 = (s, l) ∧ ∃ e, x.2 = .error e) ∨
    (∃ m, decode message_type payload = .ok m ∧ x.1.2 = l ∧ P.HandlerOutcome s m (x.1.1, x.2)) ∨
    ∃ m r y, decode message_type payload = .ok (.openStandardMiningChannelSuccess m) ∧
      l = .proxy r ∧ R.onOpenStandardChannelSuccess r self_id s m = .some y ∧
      x.1.2 = .proxy y.1 ∧
      ((x.1.1 = y.2.1 ∧ ∃ e, x.2 = .error e) ∨ ∃ down, y.2.2.2 = .ok down ∧
        P.handleOpenStandardMiningChannelSuccess y.2.1 y.2.2.1 (.some down) = .some (x.1.1, x.2)) := by
  unfold handleMessageMining at h
  dsimp only at h
  split at h
  · -- `OpenStandardMiningChannelSuccess`: routed, then refused on an Extended connection or
    -- handled
    rename_i m hm
    rcases l with _ | r
    · split at h <;> first
        | exact .inl (refusal_eq_some h)
        | exact .inr (.inl ⟨_, hm, withLogic_eq_some h⟩)
    obtain ⟨y, hy, ⟨hx, e, he, hxe⟩ | ⟨down, hdown, hk⟩⟩ := routeThen_proxy h
    · exact .inr (.inr ⟨m, r, y, hm, rfl, hy, congrArg Prod.snd hx,
        .inl ⟨congrArg Prod.fst hx, e, hxe⟩⟩)
    · refine .inr (.inr ⟨m, r, y, hm, rfl, hy, ?_⟩)
      split at hk
      all_goals first
        | (cases hk; exact ⟨rfl, .inl ⟨rfl, _, rfl⟩⟩)
        | (obtain ⟨hl, ho⟩ := withLogic_eq_some hk; exact ⟨hl, .inr ⟨down, hdown, ho⟩⟩)
  all_goals (try split at h) <;> first
    | exact .inl (refusal_eq_some h)
    | (refine .inr (.inl ⟨_, ‹_›, ?_⟩); exact withLogic_eq_some h)

end Stratum.Router
