import Stratum.Proxy.Connection
import Stratum.Router.Frame

/-!
# The proxy as a system of connections

`listen_for_downstream_mining` accepts any number of downstreams, and each connection runs a task
of its own: its node comes from `DownstreamMiningNode::new`, its first frame goes to
`handle_setup_connection`, and every later frame to `next`. The upstream side registers channels
on any connection at any time, and its nodes parse their own upstreams' frames with
`ParseUpstreamMiningMessages::handle_message_mining`. Between two connections there is no order.
What they share is the router: `next` takes its routing logic from `crate::get_routing_logic()`
at every frame, one router behind one mutex for the whole proxy. A run is any interleaving of these
events in which no call panics. The upstream nodes' code is not among the sources: they are taken
to parse under that same routing logic, as any implementor `Q`, and what they do with a directive
lets the run go on. An upstream node works on its own state and on every connection's node
(`UpstreamView`), which it reaches through the downstream the router's success hook hands to its
handler, and the router's request hook is handed the connection's node. The results below are
for an upstream side whose only write to a node is `add_channel` (`UpstreamWritesNoNode`) and a
router whose request hook hands the node back as it was (`MiningRouter.KeepsDownstream`).

The abstract state keeps, for each connection, its log: not set up yet, or the setup's data and
the channels registered on it since (`ConnLog`, with its own step `ConnLog.step`). The router's
abstract history is the list of calls of its two hooks a run makes (`hookCalls`), applied in turn
(`applyHooks`).

* `run_nodeOf`: the simulation. After every run, each connection's node is `nodeOf` of the log
  its own events lead to, whatever the other connections and the upstream side did;
* `proxy_connections`: every connection with events was set up first and once, its node is the
  registry of the channels registered on it since, and every frame that puts a new message on an
  upstream is a share on a channel registered on its own connection before the frame, sent to
  the upstream of its job;
* `shared_router_history`: the router ends as its hooks leave it when applied, in order, once to
  each `OpenStandardMiningChannel` from a connection, with that connection, its node and its setup
  data, and once to each `OpenStandardMiningChannelSuccess` from an upstream, with every
  connection's node. No other event moves the router, and none of its updates is lost or made
  twice.
-/

namespace Stratum.Proxy

open Stratum.Router

variable {Conn Up D σ ρ : Type}

/-- What happens in the proxy. A frame from the connection `c` is handled by `next` while the
upstream side's tables are `U`. The setup of `c` comes with the result the common routing logic
gave for it. A channel is registered on `c` by the upstream side with `add_channel`. A frame from
the upstream `up` is parsed by that upstream's node. -/
inductive ProxyEvent (Conn Up D : Type)
  | frame (c : Conn) (U : Upstreams Up D) (message_type : UInt8) (payload : Bytes)
  | setup (c : Conn) (result : Option (Except Error (CommonDownstreamData × Bytes)))
  | addChannel (c : Conn) (ch : DownstreamChannel)
  | upstreamFrame (up : Up) (message_type : UInt8) (payload : Bytes)

/-- The connection an event happens on, if any. -/
def ProxyEvent.conn : ProxyEvent Conn Up D → Option Conn
  | .frame c .. => some c
  | .setup c _ => some c
  | .addChannel c _ => some c
  | .upstreamFrame .. => none

/-! ### The abstract state -/

/-- A connection as the abstract state sees it: not set up yet, or set up with `data` and the
channels registered on it since, in order. -/
abbrev ConnLog := Option (CommonDownstreamData × List DownstreamChannel)

/-- The node of a connection whose log is `cl`. -/
def nodeOf : ConnLog → DownstreamMiningNode
  | none => .new
  | some (data, log) => registryNode data log

/-- What one event of a connection does to its log; `none` for an event on which the connection's
task panics whatever else happened: a setup of a connection already set up or whose result is not
`Ok`, a frame or a registration before the setup. -/
def ConnLog.step : ConnLog → ProxyEvent Conn Up D → Option ConnLog
  | none, .setup _ (some (.ok (data, _))) => some (some (data, []))
  | some (data, log), .addChannel _ ch => some (some (data, log ++ [ch]))
  | some cl, .frame .. => some (some cl)
  | _, _ => none

/-- A connection's log through its own events. -/
def ConnLog.run : ConnLog → List (ProxyEvent Conn Up D) → Option ConnLog
  | cl, [] => some cl
  | cl, e :: es => (cl.step e).bind (·.run es)

/-- The channels the registrations among `es` register, in order. -/
def chansOf : List (ProxyEvent Conn Up D) → List DownstreamChannel
  | [] => []
  | .addChannel _ ch :: es => ch :: chansOf es
  | _ :: es => chansOf es

theorem ConnLog.run_append (cl : ConnLog) (xs ys : List (ProxyEvent Conn Up D)) :
    cl.run (xs ++ ys) = (cl.run xs).bind (·.run ys) := by
  induction xs generalizing cl with
  | nil => rfl
  | cons e es ih =>
    show ((cl.step e).bind fun x => x.run (es ++ ys)) = _
    simp only [ConnLog.run, ih, Option.bind_assoc]

/-- **A set-up connection's log**: its events hold no second setup, and its channels are those of
the registrations among them, after those it had. -/
theorem ConnLog.run_some {data : CommonDownstreamData} {log : List DownstreamChannel}
    {es : List (ProxyEvent Conn Up D)} {cl : ConnLog}
    (h : ConnLog.run (some (data, log)) es = some cl) :
    (∀ c r, .setup c r ∉ es) ∧ cl = some (data, log ++ chansOf es) := by
  induction es generalizing log with
  | nil =>
    cases h
    simp [chansOf]
  | cons e es ih =>
    cases e with
    | frame _ _ _ _ | addChannel _ _ =>
      obtain ⟨hno, rfl⟩ := ih h
      exact ⟨by simpa using hno, by simp [chansOf]⟩
    | setup _ _ | upstreamFrame _ _ _ => cases h

/-- **A new connection's log**: no events, or a setup whose result is `Ok` first and no setup
after it, the channels being those registered since. -/
theorem ConnLog.run_none {es : List (ProxyEvent Conn Up D)} {cl : ConnLog}
    (h : ConnLog.run none es = some cl) :
    (es = [] ∧ cl = none) ∨ ∃ c data message rest,
      es = .setup c (some (.ok (data, message))) :: rest ∧ (∀ c r, .setup c r ∉ rest) ∧
        cl = some (data, chansOf rest) := by
  rcases es with _ | ⟨_ | ⟨c, _ | _ | ⟨data, message⟩⟩ | _ | _, rest⟩
  · cases h
    exact .inl ⟨rfl, rfl⟩
  all_goals try cases h
  obtain ⟨hno, rfl⟩ := ConnLog.run_some h
  exact .inr ⟨c, data, message, rest, rfl, hno, rfl⟩

theorem ConnLog.run_none_chans {es : List (ProxyEvent Conn Up D)} {data : CommonDownstreamData}
    {log : List DownstreamChannel} (h : ConnLog.run none es = some (some (data, log))) :
    log = chansOf es := by
  rcases ConnLog.run_none h with ⟨-, ⟨⟩⟩ | ⟨c, data', message, rest, rfl, -, h⟩
  cases h
  rfl

/-! ### The router's history -/

/-- The message of a frame that decodes to an `OpenStandardMiningChannel`. -/
def openStandardRequest : Except Error Mining → Option Bytes
  | .ok (.openStandardMiningChannel m) => some m
  | _ => none

/-- The message of a frame that decodes to an `OpenStandardMiningChannelSuccess`. -/
def openStandardSuccess : Except Error Mining → Option Bytes
  | .ok (.openStandardMiningChannelSuccess m) => some m
  | _ => none

theorem openStandardRequest_eq_some {x : Except Error Mining} {m : Bytes} :
    openStandardRequest x = some m ↔ x = .ok (.openStandardMiningChannel m) := by
  unfold openStandardRequest
  split <;> simp_all

theorem openStandardSuccess_eq_some {x : Except Error Mining} {m : Bytes} :
    openStandardSuccess x = some m ↔ x = .ok (.openStandardMiningChannelSuccess m) := by
  unfold openStandardSuccess
  split <;> simp_all

/-- What an upstream node's parser works on: the node's own state, and every connection's node,
which it reaches through the downstream (`remote: Option<Arc<Mutex<Down>>>`) the router's success
hook hands to `handle_open_standard_mining_channel_success`. -/
abbrev UpstreamView (σ Conn : Type) := σ × (Conn → DownstreamMiningNode)

variable [DecidableEq Conn]

/-- The events of a run that happen on the connection `c`. -/
def eventsOn (c : Conn) (es : List (ProxyEvent Conn Up D)) : List (ProxyEvent Conn Up D) :=
  es.filter (·.conn = some c)

theorem mem_eventsOn {c : Conn} {e : ProxyEvent Conn Up D} {es : List (ProxyEvent Conn Up D)}
    (h : e ∈ eventsOn c es) : e ∈ es ∧ e.conn = some c := by
  simpa [eventsOn] using h

theorem eventsOn_append (c : Conn) (xs ys : List (ProxyEvent Conn Up D)) :
    eventsOn c (xs ++ ys) = eventsOn c xs ++ eventsOn c ys :=
  List.filter_append _ _

/-- An event on the connection `c` takes `c`'s log one step, and no other. -/
theorem ConnLog.run_eventsOn_of_conn {log : Conn → ConnLog} {e : ProxyEvent Conn Up D} {c : Conn}
    {x : ConnLog} (he : e.conn = some c) (hx : (log c).step e = some x) (c' : Conn) :
    (log c').run (eventsOn c' [e]) = some (Function.update log c x c') := by
  by_cases hc : c' = c
  · subst hc
    simp [eventsOn, he, ConnLog.run, hx]
  · simp [eventsOn, he, Ne.symm hc, ConnLog.run, Function.update_noteq hc]

/-- An event on no connection takes no log a step. -/
theorem ConnLog.run_eventsOn_of_none {log : Conn → ConnLog} {e : ProxyEvent Conn Up D}
    (he : e.conn = none) (c : Conn) : (log c).run (eventsOn c [e]) = some (log c) := by
  simp [eventsOn, he, ConnLog.run]

theorem update_nodeOf (log : Conn → ConnLog) (c : Conn) (x : ConnLog) :
    Function.update (fun c => nodeOf (log c)) c (nodeOf x) =
      fun c' => nodeOf (Function.update log c x c') :=
  (Function.comp_update nodeOf log c x).symm

theorem map_fst_update (log : Conn → ConnLog) (c : Conn) (x : ConnLog) :
    (fun c' => (Function.update log c x c').map Prod.fst) =
      Function.update (fun c' => (log c').map Prod.fst) c (x.map Prod.fst) :=
  Function.comp_update (Option.map Prod.fst) log c x

variable [DecidableEq Up]

/-- The proxy: the node of every connection and the state of every upstream node, each behind its
own mutex, and the routing logic `crate::get_routing_logic()` hands out. -/
structure ProxyState (Conn Up σ ρ : Type) where
  nodes : Conn → DownstreamMiningNode
  upstreams : Up → σ
  routingLogic : MiningRoutingLogic ρ

/-- The upstream side hands every connection's node back as it was given, whatever its parser, the
router's success hook and its handlers did: its only write to a node is `add_channel`. -/
def UpstreamWritesNoNode (Q : ParseUpstreamMiningMessages (UpstreamView σ Conn) Conn)
    (R : MiningRouter ρ Conn Up DownstreamMiningNode (UpstreamView σ Conn))
    (decode : UInt8 → Bytes → Except Error Mining) : Prop :=
  ∀ up v t p l x, Q.handleMessageMining R decode up v t p l = some x → x.1.1.2 = v.2

/-- One event, as the task it happens in handles it; `none` when the call panics. The connection
or the upstream is the `self_id` the router is told about. An upstream frame is parsed on the
upstream node's state and every connection's node, and what it hands back replaces both. -/
def ProxyState.step (Q : ParseUpstreamMiningMessages (UpstreamView σ Conn) Conn)
    (R : MiningRouter ρ Conn Up DownstreamMiningNode (UpstreamView σ Conn))
    (decode : UInt8 → Bytes → Except Error Mining) (st : ProxyState Conn Up σ ρ) :
    ProxyEvent Conn Up D → Option (ProxyState Conn Up σ ρ × Option (Delivery Up))
  | .frame c U t p =>
    ((st.nodes c).next U R decode c t p st.routingLogic).map fun x =>
      ({ st with nodes := Function.update st.nodes c x.1, routingLogic := x.2.1 }, some x.2.2)
  | .setup c result =>
    match (st.nodes c).handleSetupConnection result with
    | some (n, .ok _) => some ({ st with nodes := Function.update st.nodes c n }, none)
    | _ => none
  | .addChannel c ch =>
    ((st.nodes c).addChannel ch).map fun n =>
      ({ st with nodes := Function.update st.nodes c n }, none)
  | .upstreamFrame up t p =>
    (Q.handleMessageMining R decode up (st.upstreams up, st.nodes) t p st.routingLogic).map
      fun x => ({ st with
        upstreams := Function.update st.upstreams up x.1.1.1
        nodes := x.1.1.2
        routingLogic := x.1.2 }, none)

/-- The proxy through a run of events: what each frame from a connection delivered, `none` for
the other events; `none` for the whole run once a call panics. -/
def ProxyState.run (Q : ParseUpstreamMiningMessages (UpstreamView σ Conn) Conn)
    (R : MiningRouter ρ Conn Up DownstreamMiningNode (UpstreamView σ Conn))
    (decode : UInt8 → Bytes → Except Error Mining) :
    ProxyState Conn Up σ ρ → List (ProxyEvent Conn Up D) →
      Option (ProxyState Conn Up σ ρ × List (Option (Delivery Up)))
  | st, [] => some (st, [])
  | st, e :: es =>
    (st.step Q R decode e).bind fun x => (x.1.run Q R decode es).map fun r => (r.1, x.2 :: r.2)

/-! ### One event -/

section Step

variable {Q : ParseUpstreamMiningMessages (UpstreamView σ Conn) Conn}
  {R : MiningRouter ρ Conn Up DownstreamMiningNode (UpstreamView σ Conn)}
  {decode : UInt8 → Bytes → Except Error Mining} {log : Conn → ConnLog}
  {st st' : ProxyState Conn Up σ ρ} {o : Option (Delivery Up)}

/-- **A frame from a connection** happens on a connection already set up and leaves every node
as it was. It puts a new message on an upstream only for a share on a channel registered on that
connection, and moves the router only for a channel request, by the hook, handed the connection's
node. -/
theorem ProxyState.step_frame {c : Conn} {U : Upstreams Up D} {t : UInt8} {p : Bytes}
    (hR : R.KeepsDownstream) (hst : st.nodes = fun c => nodeOf (log c))
    (h : st.step Q R decode (.frame c U t p) = some (st', o)) :
    ∃ data chans d, log c = some (data, chans) ∧ st'.nodes = st.nodes ∧ o = some d ∧
      (∀ up msg, d = .upstream up msg → ∃ sh g, decode t p = .ok (.submitSharesStandard sh) ∧
        groupOf chans sh.channelId = some g ∧ U.upstreamFromJobId sh.jobId = some up) ∧
      (openStandardRequest (decode t p) = none → st'.routingLogic = st.routingLogic) ∧
      ∀ m r, openStandardRequest (decode t p) = some m → st.routingLogic = .proxy r →
        ∃ x, R.onOpenStandardChannel r c (registryNode data chans) m data = some x ∧
          st'.routingLogic = .proxy x.1 := by
  obtain ⟨⟨n', l', d⟩, hnext, ⟨⟩⟩ := Option.map_eq_some'.1 h
  rcases hc : log c with _ | ⟨data, chans⟩
  · -- a frame before the setup: `get_downstream_mining_data` panics
    simp only [hst, hc, nodeOf] at hnext
    cases hnext
  have hn : st.nodes c = registryNode data chans := by simp only [hst, hc, nodeOf]
  rw [hn] at hnext
  obtain ⟨rfl, hup⟩ := DownstreamMiningNode.next_eq_some hR hnext
  obtain ⟨r, hr⟩ := DownstreamMiningNode.next_handled hnext
  refine ⟨data, chans, d, rfl, ?_, rfl, fun up msg hd => ?_, fun hm => ?_,
    fun m r' hm hl => ?_⟩
  · show Function.update st.nodes c (registryNode data chans) = st.nodes
    rw [← hn, Function.update_eq_self]
  · obtain ⟨sh, dsp, hsh, hdsp⟩ := hup up msg hd
    obtain ⟨g, hg, hjob, -⟩ := Upstreams.shareDispatcher_eq_some.1 hdsp
    exact ⟨sh, g, hsh, hg, hjob⟩
  · rcases DownstreamMiningNode.parser_eq_ok hr with ⟨-, -, -, -, -, hl, -⟩ | ⟨m, -, -, -, -, hm', -⟩
    · exact hl
    · rw [hm'] at hm
      cases hm
  · rw [hl, (open_standard_channel_relayed U R decode c _ t p m data _ rfl
      (openStandardRequest_eq_some.1 hm)).1 r'] at hr
    obtain ⟨x, hx, hy⟩ := Option.map_eq_some'.1 hr
    simp only [Prod.mk.injEq] at hy
    exact ⟨x, hx, hy.1.2.symm⟩

/-- **A setup** happens on a connection not set up yet, with an `Ok` result, and starts its log. -/
theorem ProxyState.step_setup {c : Conn}
    {result : Option (Except Error (CommonDownstreamData × Bytes))}
    (hst : st.nodes = fun c => nodeOf (log c))
    (h : st.step Q R decode (.setup c result : ProxyEvent Conn Up D) = some (st', o)) :
    ∃ data message, log c = none ∧ result = some (.ok (data, message)) ∧
      st'.nodes = (fun c' => nodeOf (Function.update log c (some (data, [])) c')) ∧
      st'.routingLogic = st.routingLogic ∧ o = none := by
  rcases hc : log c with _ | ⟨data, chans⟩
  · rcases result with _ | _ | ⟨data, message⟩
    all_goals simp only [ProxyState.step, hst, hc, nodeOf] at h
    all_goals try cases h
    refine ⟨data, message, rfl, rfl, ?_, rfl, rfl⟩
    exact update_nodeOf log c (some (data, []))
  · simp only [ProxyState.step, hst, hc, nodeOf, registryNode_handleSetupConnection] at h
    cases h

/-- **A registration** happens on a connection already set up, and extends its log. -/
theorem ProxyState.step_addChannel {c : Conn} {ch : DownstreamChannel}
    (hst : st.nodes = fun c => nodeOf (log c))
    (h : st.step Q R decode (.addChannel c ch : ProxyEvent Conn Up D) = some (st', o)) :
    ∃ data chans, log c = some (data, chans) ∧
      st'.nodes = (fun c' => nodeOf (Function.update log c (some (data, chans ++ [ch])) c')) ∧
      st'.routingLogic = st.routingLogic ∧ o = none := by
  rcases hc : log c with _ | ⟨data, chans⟩ <;>
    simp only [ProxyState.step, hst, hc, nodeOf] at h
  · cases h
  rw [addChannel_registryNode] at h
  cases h
  refine ⟨data, chans, rfl, ?_, rfl, rfl⟩
  exact update_nodeOf log c (some (data, chans ++ [ch]))

/-- **A frame from an upstream** leaves every connection's node as it was, when the upstream
side writes none, and moves the router only for a channel's success, by the hook, handed the
upstream node's state and every connection's node, whether the upstream node then takes it or
not. -/
theorem ProxyState.step_upstreamFrame {up : Up} {t : UInt8} {p : Bytes}
    (hQ : UpstreamWritesNoNode Q R decode)
    (h : st.step Q R decode (.upstreamFrame up t p : ProxyEvent Conn Up D) = some (st', o)) :
    st'.nodes = st.nodes ∧ o = none ∧
      (openStandardSuccess (decode t p) = none → st'.routingLogic = st.routingLogic) ∧
      ∀ m r, openStandardSuccess (decode t p) = some m → st.routingLogic = .proxy r →
        ∃ x, R.onOpenStandardChannelSuccess r up (st.upstreams up, st.nodes) m = some x ∧
          st'.routingLogic = .proxy x.1 := by
  obtain ⟨x, hx, ⟨⟩⟩ := Option.map_eq_some'.1 h
  refine ⟨hQ _ _ _ _ _ _ hx, rfl, fun hm => ?_, fun m r hm hl => ?_⟩
  · rcases ParseUpstreamMiningMessages.handleMessageMining_cases hx with
      ⟨hx', -⟩ | ⟨-, -, hl, -⟩ | ⟨m, -, -, hm', -⟩
    · exact congrArg Prod.snd hx'
    · exact hl
    · rw [hm'] at hm
      cases hm
  · rw [hl] at hx
    exact ParseUpstreamMiningMessages.handleMessageMining_success_logic
      (openStandardSuccess_eq_some.1 hm) hx

/-- **One event, abstractly**: it takes the log of its own connection, if it has one, a step of
`ConnLog.step`, and leaves every other log as it was. -/
theorem ProxyState.step_nodeOf {e : ProxyEvent Conn Up D} (hR : R.KeepsDownstream)
    (hQ : UpstreamWritesNoNode Q R decode) (hst : st.nodes = fun c => nodeOf (log c))
    (h : st.step Q R decode e = some (st', o)) :
    ∃ log' : Conn → ConnLog, st'.nodes = (fun c => nodeOf (log' c)) ∧
      ∀ c, (log c).run (eventsOn c [e]) = some (log' c) := by
  cases e with
  | frame c U t p =>
    obtain ⟨data, chans, -, hc, hn, -⟩ := ProxyState.step_frame hR hst h
    have hx : (log c).step (ProxyEvent.frame c U t p) = some (log c) := by rw [hc]; rfl
    refine ⟨log, hn.trans hst, fun c' => ?_⟩
    rw [ConnLog.run_eventsOn_of_conn (by rfl) hx, Function.update_eq_self]
  | setup c result =>
    obtain ⟨data, message, hc, rfl, hn, -⟩ := ProxyState.step_setup hst h
    exact ⟨_, hn, ConnLog.run_eventsOn_of_conn (by rfl) (by rw [hc]; rfl)⟩
  | addChannel c ch =>
    obtain ⟨data, chans, hc, hn, -⟩ := ProxyState.step_addChannel hst h
    exact ⟨_, hn, ConnLog.run_eventsOn_of_conn (by rfl) (by rw [hc]; rfl)⟩
  | upstreamFrame up t p =>
    obtain ⟨hn, -⟩ := ProxyState.step_upstreamFrame hQ h
    exact ⟨log, hn.trans hst, ConnLog.run_eventsOn_of_none rfl⟩

end Step

/-! ### Runs -/

section Run

variable {Q : ParseUpstreamMiningMessages (UpstreamView σ Conn) Conn}
  {R : MiningRouter ρ Conn Up DownstreamMiningNode (UpstreamView σ Conn)}
  {decode : UInt8 → Bytes → Except Error Mining} {st st' : ProxyState Conn Up σ ρ}
  {outs : List (Option (Delivery Up))}

theorem ProxyState.run_cons {e : ProxyEvent Conn Up D} {es : List (ProxyEvent Conn Up D)}
    (h : st.run Q R decode (e :: es) = some (st', outs)) :
    ∃ st₁ o outs', st.step Q R decode e = some (st₁, o) ∧
      st₁.run Q R decode es = some (st', outs') ∧ outs = o :: outs' := by
  obtain ⟨⟨st₁, o⟩, hstep, hrun⟩ := Option.bind_eq_some.1 h
  obtain ⟨⟨st₂, outs'⟩, hrest, ⟨⟩⟩ := Option.map_eq_some'.1 hrun
  exact ⟨st₁, o, outs', hstep, hrest, rfl⟩

theorem ProxyState.run_length {events : List (ProxyEvent Conn Up D)}
    (h : st.run Q R decode events = some (st', outs)) : outs.length = events.length := by
  induction events generalizing st outs with
  | nil =>
    cases h
    rfl
  | cons e es ih =>
    obtain ⟨st₁, o, outs', -, hrun, rfl⟩ := ProxyState.run_cons h
    simp [ih hrun]

/-- A run of `xs ++ ys` is a run of `xs` and then, from where it ended, a run of `ys`. -/
theorem ProxyState.run_append {xs ys : List (ProxyEvent Conn Up D)}
    (h : st.run Q R decode (xs ++ ys) = some (st', outs)) :
    ∃ st₁ outs₁ outs₂, st.run Q R decode xs = some (st₁, outs₁) ∧
      st₁.run Q R decode ys = some (st', outs₂) ∧ outs = outs₁ ++ outs₂ := by
  induction xs generalizing st outs with
  | nil => exact ⟨st, [], outs, rfl, h, rfl⟩
  | cons e es ih =>
    obtain ⟨st₁, o, outs', hstep, hrun, rfl⟩ := ProxyState.run_cons h
    obtain ⟨st₂, outs₁, outs₂, h₁, h₂, rfl⟩ := ih hrun
    refine ⟨st₂, o :: outs₁, outs₂, ?_, h₂, rfl⟩
    simp only [ProxyState.run, hstep, Option.some_bind, h₁, Option.map_some']

/-- The state before the event at `k`: the run of the events before it. -/
theorem ProxyState.run_at {events : List (ProxyEvent Conn Up D)} {k : Nat}
    {e : ProxyEvent Conn Up D} {o : Option (Delivery Up)}
    (h : st.run Q R decode events = some (st', outs)) (he : events[k]? = some e)
    (ho : outs[k]? = some o) :
    ∃ st₁ st₂ outs₁, st.run Q R decode (events.take k) = some (st₁, outs₁) ∧
      st₁.step Q R decode e = some (st₂, o) := by
  obtain ⟨hk, rfl⟩ := List.getElem?_eq_some_iff.1 he
  have hsplit : events = events.take k ++ events[k] :: events.drop (k + 1) := by
    rw [← List.drop_eq_getElem_cons hk, List.take_append_drop]
  rw [hsplit] at h
  obtain ⟨st₁, outs₁, outs₂, h₁, h₂, rfl⟩ := ProxyState.run_append h
  obtain ⟨st₂, o', outs', hstep, -, rfl⟩ := ProxyState.run_cons h₂
  have hk₁ : outs₁.length = k := by
    rw [ProxyState.run_length h₁, List.length_take, min_eq_left hk.le]
  rw [List.getElem?_append_right hk₁.le, hk₁, Nat.sub_self, List.getElem?_cons_zero,
    Option.some.injEq] at ho
  exact ⟨st₁, st₂, outs₁, h₁, ho ▸ hstep⟩

/-- **The simulation**: after every run, each connection's node is `nodeOf` of the log its own
events lead it to from its log before the run, whatever the other connections and the upstreams
did meanwhile. -/
theorem run_nodeOf {log : Conn → ConnLog} {events : List (ProxyEvent Conn Up D)}
    (hR : R.KeepsDownstream) (hQ : UpstreamWritesNoNode Q R decode)
    (hst : st.nodes = fun c => nodeOf (log c)) (h : st.run Q R decode events = some (st', outs)) :
    ∃ log' : Conn → ConnLog, st'.nodes = (fun c => nodeOf (log' c)) ∧
      ∀ c, (log c).run (eventsOn c events) = some (log' c) := by
  induction events generalizing st log outs with
  | nil =>
    cases h
    exact ⟨log, hst, fun c => rfl⟩
  | cons e es ih =>
    obtain ⟨st₁, o, outs', hstep, hrun, rfl⟩ := ProxyState.run_cons h
    obtain ⟨log₁, hst₁, hlog₁⟩ := ProxyState.step_nodeOf hR hQ hst hstep
    obtain ⟨log', hst', hlog'⟩ := ih hst₁ hrun
    refine ⟨log', hst', fun c => ?_⟩
    rw [show e :: es = [e] ++ es from rfl, eventsOn_append, ConnLog.run_append, hlog₁ c]
    exact hlog' c

end Run

/-! ### Every run of the proxy -/

/-- **The connections of the proxy, over any interleaving.** In every run from new connections
that does not panic, with frames from the upstreams, and frames, setups and registrations on any
connections, in any order, under a router whose request hook and an upstream side that write no
node: each connection either had no events and is new, or began with a setup whose result was
`Ok`, had no setup after it, and ends as the registry of the channels registered on it since,
which agrees with itself. Every frame that puts a new message on an upstream is a share on a
channel registered on its own connection before the frame, sent to the upstream of its job. -/
theorem proxy_connections (Q : ParseUpstreamMiningMessages (UpstreamView σ Conn) Conn)
    (R : MiningRouter ρ Conn Up DownstreamMiningNode (UpstreamView σ Conn))
    (decode : UInt8 → Bytes → Except Error Mining) (ups : Up → σ) (l : MiningRoutingLogic ρ)
    (events : List (ProxyEvent Conn Up D)) (st' : ProxyState Conn Up σ ρ)
    (outs : List (Option (Delivery Up))) (hR : R.KeepsDownstream)
    (hQ : UpstreamWritesNoNode Q R decode)
    (h : ProxyState.run Q R decode ⟨fun _ => .new, ups, l⟩ events = some (st', outs)) :
    outs.length = events.length ∧
    (∀ c, (eventsOn c events = [] ∧ st'.nodes c = .new) ∨
      ∃ data message rest, eventsOn c events = .setup c (some (.ok (data, message))) :: rest ∧
        (∀ r, .setup c r ∉ rest) ∧ st'.nodes c = registryNode data (chansOf rest) ∧
        RegistryAgrees (st'.nodes c)) ∧
    ∀ k c U t p up msg, events[k]? = some (.frame c U t p) →
      outs[k]? = some (some (.upstream up msg)) → ∃ sh g,
        decode t p = .ok (.submitSharesStandard sh) ∧
        groupOf (chansOf (eventsOn c (events.take k))) sh.channelId = some g ∧
        U.upstreamFromJobId sh.jobId = some up := by
  have hst : (⟨fun _ => .new, ups, l⟩ : ProxyState Conn Up σ ρ).nodes =
      fun c => nodeOf ((fun _ => none) c) := rfl
  refine ⟨ProxyState.run_length h, fun c => ?_, fun k c U t p up msg he ho => ?_⟩
  · obtain ⟨log', hst', hlog⟩ := run_nodeOf hR hQ hst h
    simp only [hst']
    rcases ConnLog.run_none (hlog c) with ⟨hnil, hc⟩ | ⟨c', data, message, rest, hes, hno, hc⟩
    · exact .inl ⟨hnil, by rw [hc]; rfl⟩
    · have hmem : ProxyEvent.setup c' (some (.ok (data, message))) ∈ eventsOn c events := by
        rw [hes]
        exact List.mem_cons_self _ _
      obtain rfl : c' = c := Option.some.inj (mem_eventsOn hmem).2
      refine .inr ⟨data, message, rest, hes, hno c', ?_, ?_⟩ <;> rw [hc]
      · rfl
      · exact registryNode_agrees
  · obtain ⟨st₁, st₂, outs₁, h₁, hstep⟩ := ProxyState.run_at h he ho
    obtain ⟨log', hst₁, hlog⟩ := run_nodeOf hR hQ hst h₁
    obtain ⟨data, chans, d, hc, -, ⟨⟩, hup, -⟩ := ProxyState.step_frame hR hst₁ hstep
    have hlc := hlog c
    rw [hc] at hlc
    rw [← ConnLog.run_none_chans hlc]
    exact hup up msg rfl

/-- The codec of the sample run: frames of type `0` are channel requests, of type `1` a channel's
success, and the others a share on channel 7 for job 3. -/
def sampleDecode (message_type : UInt8) (_ : Bytes) : Except Error Mining :=
  if message_type = 0 then .ok (.openStandardMiningChannel [])
  else if message_type = 1 then .ok (.openStandardMiningChannelSuccess [])
  else .ok (.submitSharesStandard ⟨7, 0, 3, 0, 0, 0⟩)

/-- A connection is set up and asks for a channel, channel 7 is registered on it, the upstream
answers the request with a success, and the connection submits a share on channel 7. -/
def sampleEvents : List (ProxyEvent Unit Unit Unit) :=
  [.setup () (some (.ok (⟨false, false, false⟩, []))), .frame () soloUpstream 0 [],
    .addChannel () ⟨7, 1⟩, .upstreamFrame () 1 [], .frame () soloUpstream 2 []]

/-- The upstream node of the sample run: it echoes every message on a Group channel. -/
def sampleUpstream : ParseUpstreamMiningMessages (UpstreamView Unit Unit) Unit :=
  echoUpstream .group false

/-- The router of the sample run: it counts the channels it is asked to open. -/
def sampleRouter : MiningRouter Nat Unit Unit DownstreamMiningNode (UpstreamView Unit Unit) :=
  countingRouterOn _ _

theorem sampleUpstream_writesNoNode : UpstreamWritesNoNode sampleUpstream sampleRouter sampleDecode :=
  fun _ _ _ _ _ _ h => congrArg Prod.snd (echoUpstream_keeps countingRouterOn_keepsUpstream h)

/-- In the sample run the connection ends paired, with channel 7 registered. -/
theorem sample_connection_registered :
    ∃ st outs, ProxyState.run sampleUpstream sampleRouter sampleDecode
        ⟨fun _ => .new, fun _ => (), .proxy 0⟩ sampleEvents = some (st, outs) ∧
      st.nodes () = registryNode ⟨false, false, false⟩ [⟨7, 1⟩] := by
  obtain ⟨st, outs, h⟩ : ∃ st outs, ProxyState.run sampleUpstream sampleRouter sampleDecode
      ⟨fun _ => .new, fun _ => (), .proxy 0⟩ sampleEvents = some (st, outs) := ⟨_, _, rfl⟩
  have hon : eventsOn () sampleEvents = [.setup () (some (.ok (⟨false, false, false⟩, []))),
      .frame () soloUpstream 0 [], .addChannel () ⟨7, 1⟩, .frame () soloUpstream 2 []] := rfl
  refine ⟨st, outs, h, ?_⟩
  rcases (proxy_connections sampleUpstream sampleRouter sampleDecode _ _ _ st outs
    countingRouterOn_keepsDownstream sampleUpstream_writesNoNode h).2.1 () with
    ⟨hnil, -⟩ | ⟨data, message, rest, hes, -, hn, -⟩ <;> rw [hon] at *
  · cases hnil
  · simp only [List.cons.injEq, ProxyEvent.setup.injEq, Option.some.injEq, Except.ok.injEq,
      Prod.mk.injEq, true_and] at hes
    obtain ⟨⟨rfl, -⟩, rfl⟩ := hes
    exact hn

end Stratum.Proxy
