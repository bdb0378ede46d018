import Stratum.Proxy.Shares

/-!
# A downstream connection through its life

`listen_for_downstream_mining` spawns one task per downstream connection. The task builds the
node with `DownstreamMiningNode::new`, hands the first frame to `handle_setup_connection` (any other
outcome panics) and then passes every further frame to `next`. Meanwhile the upstream side
registers the downstream's channels with `add_channel`. A run is such an interleaving. The
router's hook is handed the node, as `self_mutex.clone()`, and may change it; the code of
`MiningProxyRoutingLogic` is not among the sources, so the runs below are under a router whose
hook hands the node back as it was (`MiningRouter.KeepsDownstream`).

* `paired_node_run`: the run of a paired node keeps the registry that of its log and sends every
  share to the upstream of its job;
* `new_node_run`: a run from a new node that does not panic pairs first and once, and is then a
  run of the paired node.
-/

namespace Stratum.Proxy

open Stratum.Router

variable {Up D ρ Down τ : Type}

/-- What happens to a node. A frame from its downstream is handled by `next` while the upstream
side's tables are `U` and the router is `l`. The first frame of a connection is the setup, with the
result the common routing logic gave for it. A channel is registered by the upstream side with
`add_channel`. `next` reads the node only inside the handler's lock, after data that pairing fixed,
so a frame and a registration do not interleave. -/
inductive NodeEvent (ρ Up D : Type)
  | frame (U : Upstreams Up D) (l : MiningRoutingLogic ρ) (message_type : UInt8) (payload : Bytes)
  | setup (result : Option (Except Error (CommonDownstreamData × Bytes)))
  | addChannel (c : DownstreamChannel)

/-- The node through a run of events: what each frame delivered, and `none` for a setup or a
registration; `none` for the whole run once a call panics. A setup whose outcome is not `Ok`
panics, as the connection task does. -/
def DownstreamMiningNode.run (R : MiningRouter ρ Down Up DownstreamMiningNode τ)
    (decode : UInt8 → Bytes → Except Error Mining) (self_id : Down) :
    DownstreamMiningNode → List (NodeEvent ρ Up D) →
      Option (DownstreamMiningNode × List (Option (Delivery Up)))
  | n, [] => some (n, [])
  | n, .frame U l t p :: es =>
    (n.next U R decode self_id t p l).bind fun x =>
      (x.1.run R decode self_id es).map fun r => (r.1, some x.2.2 :: r.2)
  | n, .setup result :: es =>
    match n.handleSetupConnection result with
    | some (n', .ok _) => (n'.run R decode self_id es).map fun r => (r.1, none :: r.2)
    | _ => none
  | n, .addChannel c :: es =>
    (n.addChannel c).bind fun n' => (n'.run R decode self_id es).map fun r => (r.1, none :: r.2)

/-- The channels a run of events registers, in order. -/
def addsOf : List (NodeEvent ρ Up D) → List DownstreamChannel
  | [] => []
  | .frame .. :: es => addsOf es
  | .setup _ :: es => addsOf es
  | .addChannel c :: es => c :: addsOf es

/-- A paired node cannot be paired again: `pair` panics. -/
theorem registryNode_handleSetupConnection (data : CommonDownstreamData)
    (log : List DownstreamChannel) (result : Option (Except Error (CommonDownstreamData × Bytes))) :
    (registryNode data log).handleSetupConnection result = none := by
  unfold DownstreamMiningNode.handleSetupConnection
  split <;> rfl

theorem addsOf_cons (e : NodeEvent ρ Up D) (es : List (NodeEvent ρ Up D)) :
    addsOf (e :: es) = addsOf [e] ++ addsOf es := by
  cases e <;> rfl

/-- **One event of a paired node's run**, under a router whose hook writes no node: a setup
panics; a registration moves the node to the longer log; a frame leaves it, and puts a new message
on an upstream only for a share on a registered channel, sent to the upstream of its job. -/
theorem run_registryNode_cons {R : MiningRouter ρ Down Up DownstreamMiningNode τ}
    {decode : UInt8 → Bytes → Except Error Mining} {self_id : Down} {data : CommonDownstreamData}
    {log : List DownstreamChannel} {e : NodeEvent ρ Up D} {es : List (NodeEvent ρ Up D)}
    {n' : DownstreamMiningNode} {ds : List (Option (Delivery Up))} (hR : R.KeepsDownstream)
    (h : (registryNode data log).run R decode self_id (e :: es) = some (n', ds)) :
    ∃ o ds', ds = o :: ds' ∧
      (registryNode data (log ++ addsOf [e])).run R decode self_id es = some (n', ds') ∧
      (∀ U l t p up msg, e = .frame U l t p → o = some (.upstream up msg) → ∃ sh g,
        decode t p = .ok (.submitSharesStandard sh) ∧ groupOf log sh.channelId = some g ∧
        U.upstreamFromJobId sh.jobId = some up) ∧
      ∀ result, e ≠ .setup result := by
  cases e with
  | frame U l t p =>
    obtain ⟨⟨n₁, l₁, d⟩, hnext, hrun⟩ := Option.bind_eq_some.1 h
    obtain ⟨rfl, hup⟩ := DownstreamMiningNode.next_eq_some hR hnext
    obtain ⟨⟨n₂, ds₂⟩, hrest, ⟨⟩⟩ := Option.map_eq_some'.1 hrun
    refine ⟨_, ds₂, rfl, by simpa [addsOf] using hrest, ?_, nofun⟩
    rintro _ _ _ _ up msg ⟨⟩ ⟨⟩
    obtain ⟨sh, dsp, hsh, hdsp⟩ := hup up msg rfl
    obtain ⟨g, hg, hjob, -⟩ := Upstreams.shareDispatcher_eq_some.1 hdsp
    exact ⟨sh, g, hsh, hg, hjob⟩
  | setup result =>
    simp only [DownstreamMiningNode.run, registryNode_handleSetupConnection] at h
    cases h
  | addChannel c =>
    obtain ⟨n₁, hadd, hrun⟩ := Option.bind_eq_some.1 h
    rw [addChannel_registryNode, Option.some.injEq] at hadd
    subst hadd
    obtain ⟨⟨n₂, ds₂⟩, hrest, ⟨⟩⟩ := Option.map_eq_some'.1 hrun
    refine ⟨_, ds₂, rfl, hrest, ?_, nofun⟩
    rintro _ _ _ _ _ _ ⟨⟩

/-- **Every run of a paired node**, under a router whose hook writes no node: it ends at the node
of its log, with no setup among its events, and a frame that puts a new message on an upstream is
a share, on a channel registered before it, sent to the upstream of its job. -/
theorem run_registryNode {R : MiningRouter ρ Down Up DownstreamMiningNode τ}
    {decode : UInt8 → Bytes → Except Error Mining} {self_id : Down} {data : CommonDownstreamData}
    (hR : R.KeepsDownstream) (log : List DownstreamChannel) (events : List (NodeEvent ρ Up D))
    {n' : DownstreamMiningNode} {ds : List (Option (Delivery Up))}
    (h : (registryNode data log).run R decode self_id events = some (n', ds)) :
    n' = registryNode data (log ++ addsOf events) ∧ ds.length = events.length ∧
      (∀ k U l t p up msg, events[k]? = some (.frame U l t p) →
        ds[k]? = some (some (.upstream up msg)) → ∃ sh g,
          decode t p = .ok (.submitSharesStandard sh) ∧
          groupOf (log ++ addsOf (events.take k)) sh.channelId = some g ∧
          U.upstreamFromJobId sh.jobId = some up) ∧
      ∀ result, .setup result ∉ events := by
  induction events generalizing log ds with
  | nil =>
    cases h
    exact ⟨by simp [addsOf], rfl, by simp, by simp⟩
  | cons e es ih =>
    obtain ⟨o, ds', rfl, hrest, hhead, hne⟩ := run_registryNode_cons hR h
    obtain ⟨rfl, hlen, hk, hno⟩ := ih _ hrest
    refine ⟨by rw [addsOf_cons e es, List.append_assoc], by simp [hlen], ?_,
      fun r => by simpa [eq_comm] using ⟨hne r, hno r⟩⟩
    rintro (_ | k) U l t p up msg he hd
    · simpa [addsOf] using hhead U l t p up msg (by simpa using he) (by simpa using hd)
    · rw [List.take_succ_cons, addsOf_cons e, ← List.append_assoc]
      exact hk k U l t p up msg (by simpa using he) (by simpa using hd)

/-- **Every run of a paired node**, frames from its downstream interleaved with registrations
from the upstream side, under a router whose hook writes no node: the registry is that of the
registrations so far, so it agrees with itself, and every frame that puts a new message on an
upstream is a share, on a channel registered before it, sent to the upstream of its job as the
tables stood then. -/
theorem paired_node_run (R : MiningRouter ρ Down Up DownstreamMiningNode τ)
    (decode : UInt8 → Bytes → Except Error Mining) (self_id : Down) (data : CommonDownstreamData)
    (events : List (NodeEvent ρ Up D)) (n' : DownstreamMiningNode)
    (ds : List (Option (Delivery Up))) (hR : R.KeepsDownstream)
    (h : (registryNode data []).run R decode self_id events = some (n', ds)) :
    n' = registryNode data (addsOf events) ∧ RegistryAgrees n' ∧ ds.length = events.length ∧
      ∀ k U l t p up msg, events[k]? = some (.frame U l t p) →
        ds[k]? = some (some (.upstream up msg)) → ∃ sh g,
          decode t p = .ok (.submitSharesStandard sh) ∧
          groupOf (addsOf (events.take k)) sh.channelId = some g ∧
          U.upstreamFromJobId sh.jobId = some up := by
  obtain ⟨rfl, hlen, hk, -⟩ := run_registryNode hR [] events h
  exact ⟨rfl, registryNode_agrees, hlen, hk⟩

/-- A channel registered by the upstream side, then a share on it from the downstream. -/
theorem registered_then_relayed :
    ∃ n ds, (registryNode ⟨false, false, false⟩ []).run passRouter
        (fun _ _ => .ok (.submitSharesStandard ⟨7, 0, 3, 0, 0, 0⟩)) ()
        [.addChannel ⟨7, 1⟩, .frame soloUpstream .none 0 []] = some (n, ds) ∧
      ds = [none, some (.upstream () (.submitSharesStandard ⟨7, 0, 3, 0, 0, 0⟩))] ∧
      n = registryNode ⟨false, false, false⟩ [⟨7, 1⟩] := by
  obtain ⟨n, ds, h, hds⟩ : ∃ n ds, (registryNode ⟨false, false, false⟩ []).run passRouter
      (fun _ _ => .ok (.submitSharesStandard ⟨7, 0, 3, 0, 0, 0⟩)) ()
      [.addChannel ⟨7, 1⟩, .frame soloUpstream .none 0 []] = some (n, ds) ∧
    ds = [none, some (.upstream () (.submitSharesStandard ⟨7, 0, 3, 0, 0, 0⟩))] := ⟨_, _, rfl, rfl⟩
  exact ⟨n, ds, h, hds, (paired_node_run passRouter _ () _ _ n ds passRouter_keepsDownstream h).1⟩

/-! ### From a new node -/

/-- **Every run of a connection from `DownstreamMiningNode::new`**, under a router whose hook
writes no node, that does not panic is empty, or begins with a setup whose outcome is `Ok`. Before
it, a frame panics in `get_downstream_mining_data` and a registration in `add_channel`. No setup
comes after it, the rest is a run of the node paired with the setup's data, and the node ends
paired with that data and the registry of the channels registered since, which agrees with
itself. -/
theorem new_node_run (R : MiningRouter ρ Down Up DownstreamMiningNode τ)
    (decode : UInt8 → Bytes → Except Error Mining) (self_id : Down) (events : List (NodeEvent ρ Up D))
    (n' : DownstreamMiningNode) (ds : List (Option (Delivery Up))) (hR : R.KeepsDownstream)
    (h : DownstreamMiningNode.new.run R decode self_id events = some (n', ds)) :
    (events = [] ∧ n' = DownstreamMiningNode.new ∧ ds = []) ∨
      ∃ data message rest ds', events = .setup (some (.ok (data, message))) :: rest ∧
        ds = none :: ds' ∧ (registryNode data []).run R decode self_id rest = some (n', ds') ∧
        (∀ result, .setup result ∉ rest) ∧ n' = registryNode data (addsOf rest) ∧
        RegistryAgrees n' := by
  rcases events with _ | ⟨_ | result | _, rest⟩
  · cases h
    exact .inl ⟨rfl, rfl, rfl⟩
  · -- a frame before pairing
    cases h
  · rcases result with _ | _ | ⟨data, message⟩
    · cases h
    · cases h
    obtain ⟨⟨n₂, ds₂⟩, hrest, ⟨⟩⟩ := Option.map_eq_some'.1 h
    obtain ⟨rfl, -, -, hno⟩ := run_registryNode hR [] rest hrest
    exact .inr ⟨data, message, rest, ds₂, rfl, rfl, hrest, hno, rfl, registryNode_agrees⟩
  · -- a registration before pairing
    cases h

/-- A connection that pairs, registers channel 7, then relays a share on it. -/
theorem connection_pairs_then_relays :
    ∃ n ds, DownstreamMiningNode.new.run passRouter
        (fun _ _ => .ok (.submitSharesStandard ⟨7, 0, 3, 0, 0, 0⟩)) ()
        [.setup (some (.ok (⟨false, false, false⟩, []))), .addChannel ⟨7, 1⟩,
          .frame soloUpstream .none 0 []] = some (n, ds) ∧
      ds = [none, none, some (.upstream () (.submitSharesStandard ⟨7, 0, 3, 0, 0, 0⟩))] ∧
      n = registryNode ⟨false, false, false⟩ [⟨7, 1⟩] := by
  obtain ⟨n, ds, h, hds⟩ : ∃ n ds, DownstreamMiningNode.new.run passRouter
      (fun _ _ => .ok (.submitSharesStandard ⟨7, 0, 3, 0, 0, 0⟩)) ()
      [.setup (some (.ok (⟨false, false, false⟩, []))), .addChannel ⟨7, 1⟩,
        .frame soloUpstream .none 0 []] = some (n, ds) ∧
    ds = [none, none, some (.upstream () (.submitSharesStandard ⟨7, 0, 3, 0, 0, 0⟩))] :=
    ⟨_, _, rfl, rfl⟩
  rcases new_node_run passRouter _ () _ n ds passRouter_keepsDownstream h with
    ⟨⟨⟩, -⟩ | ⟨_, _, _, _, ⟨⟩, -, -, -, hn, -⟩
  exact ⟨n, ds, h, hds, hn⟩

end Stratum.Proxy
