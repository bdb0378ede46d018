import Mathlib.Data.List.Nodup
import Stratum.Router.Mining

/-!
# The proxy's downstream mining node

`downstream_mining.rs` of the mining proxy: one connection with a downstream, its status
(initializing, then paired with the downstream's data and a table of its channels by group), and
the table from a channel id to its group. The sockets are left out.

* `channelsOf`, `groupOf`: the two tables as functions of the registrations so far.
  `addChannels_tables` is the simulation: every run of `add_channel` after pairing leaves the
  tables of its log, so each invariant of the registry is a fact about one list.
* `channel_registry_agrees`: after pairing and any registrations, each listed channel sits
  under its own group and the two tables agree, fully so when no channel id is registered twice.
-/

namespace Stratum.Proxy

open Stratum.Router

/-- `DownstreamChannel` of `roles-logic-sv2`, through the two accessors the node reads. -/
structure DownstreamChannel where
  channelId : UInt32
  groupId : UInt32
deriving DecidableEq, Repr

/-- `HashMap::insert` on a table read as a function. -/
def mapInsert {V : Type} (m : UInt32 → Option V) (k : UInt32) (v : V) : UInt32 → Option V :=
  fun k' => if k' = k then some v else m k'

@[simp] theorem mapInsert_apply {V : Type} (m : UInt32 → Option V) (k k' : UInt32) (v : V) :
    mapInsert m k v k' = if k' = k then some v else m k' := rfl

/-- `DownstreamMiningNodeStatus`. -/
inductive DownstreamMiningNodeStatus
  | initializing
  | paired (data : CommonDownstreamData) (channels : UInt32 → Option (List DownstreamChannel))

namespace DownstreamMiningNodeStatus

/-- `DownstreamMiningNodeStatus::is_paired`. -/
def isPaired : DownstreamMiningNodeStatus → Bool
  | .initializing => false
  | .paired _ _ => true

/-- `DownstreamMiningNodeStatus::pair`; `none` is its panic on a paired node. -/
def pair : DownstreamMiningNodeStatus → CommonDownstreamData → Option DownstreamMiningNodeStatus
  | .initializing, data => some (.paired data fun _ => none)
  | .paired _ _, _ => none

/-- `DownstreamMiningNodeStatus::get_channels`; `none` is its panic on a node not yet paired. -/
def getChannels : DownstreamMiningNodeStatus → Option (UInt32 → Option (List DownstreamChannel))
  | .initializing => none
  | .paired _ channels => some channels

/-- `DownstreamMiningNodeStatus::add_channel`: push the channel on its group's list, or start the
list. -/
def addChannel : DownstreamMiningNodeStatus → DownstreamChannel → Option DownstreamMiningNodeStatus
  | .initializing, _ => none
  | .paired data channels, channel =>
    some (.paired data (match channels channel.groupId with
      | some g => mapInsert channels channel.groupId (g ++ [channel])
      | none => mapInsert channels channel.groupId [channel]))

end DownstreamMiningNodeStatus

/-- `DownstreamMiningNode`, without its sockets and the `prev_job_id` nothing reads. -/
structure DownstreamMiningNode where
  status : DownstreamMiningNodeStatus
  channelIdToGroupId : UInt32 → Option UInt32

namespace DownstreamMiningNode

/-- `DownstreamMiningNode::new`. -/
def new : DownstreamMiningNode := ⟨.initializing, fun _ => none⟩

/-- `DownstreamMiningNode::add_channel`: the id's entry is written before the status is asked to
list the channel, which panics on a node not yet paired. -/
def addChannel (self : DownstreamMiningNode) (channel : DownstreamChannel) :
    Option DownstreamMiningNode :=
  let self := { self with
    channelIdToGroupId := mapInsert self.channelIdToGroupId channel.channelId channel.groupId }
  (self.status.addChannel channel).map fun status => { self with status }

/-- `handle_setup_connection`: unwrap the result of the setup, pair, and hand the
`SetupConnectionSuccess` on. -/
def handleSetupConnection (self : DownstreamMiningNode)
    (result : Option (Except Error (CommonDownstreamData × Bytes))) :
    Outcome DownstreamMiningNode Bytes :=
  match result with
  | some (.ok (data, message)) =>
    (self.status.pair data).map fun status => ({ self with status }, .ok message)
  | _ => none

/-- A run of `add_channel` calls, in order. -/
def addChannels : DownstreamMiningNode → List DownstreamChannel → Option DownstreamMiningNode
  | self, [] => some self
  | self, c :: cs => (self.addChannel c).bind (·.addChannels cs)

/-- The channel `c` is listed under the group `g`. -/
def Listed (self : DownstreamMiningNode) (c : DownstreamChannel) (g : UInt32) : Prop :=
  ∃ channels l, self.status.getChannels = some channels ∧ channels g = some l ∧ c ∈ l

end DownstreamMiningNode

/-! ### The registry as a log -/

/-- The channels of group `g` among the registrations `log`, in the order they came. -/
def channelsOf (log : List DownstreamChannel) (g : UInt32) : Option (List DownstreamChannel) :=
  if log.filter (·.groupId = g) = [] then none else some (log.filter (·.groupId = g))

/-- The group of the last registration of the channel id `cid` in `log`. -/
def groupOf (log : List DownstreamChannel) (cid : UInt32) : Option UInt32 :=
  (log.reverse.find? (·.channelId = cid)).map (·.groupId)

/-- The paired node whose registry holds the registrations `log`. -/
def registryNode (data : CommonDownstreamData) (log : List DownstreamChannel) :
    DownstreamMiningNode :=
  ⟨.paired data (channelsOf log), groupOf log⟩

theorem groupOf_append_singleton (log : List DownstreamChannel) (c : DownstreamChannel)
    (cid : UInt32) :
    groupOf (log ++ [c]) cid = if cid = c.channelId then some c.groupId else groupOf log cid := by
  by_cases h : cid = c.channelId <;> simp [groupOf, h, eq_comm]

theorem mem_channelsOf {log : List DownstreamChannel} {g : UInt32} {l : List DownstreamChannel}
    (h : channelsOf log g = some l) {c : DownstreamChannel} :
    c ∈ l ↔ c ∈ log ∧ c.groupId = g := by
  unfold channelsOf at h
  split at h <;> cases h
  simp

/-- **One registration**: `add_channel` on the node of `log` gives the node of `log ++ [c]`. -/
theorem addChannel_registryNode (data : CommonDownstreamData) (log : List DownstreamChannel)
    (c : DownstreamChannel) :
    (registryNode data log).addChannel c = some (registryNode data (log ++ [c])) := by
  have hgroups : (match channelsOf log c.groupId with
      | some g => mapInsert (channelsOf log) c.groupId (g ++ [c])
      | none => mapInsert (channelsOf log) c.groupId [c]) = channelsOf (log ++ [c]) := by
    funext g
    by_cases h : g = c.groupId
    · subst h
      by_cases he : log.filter (·.groupId = c.groupId) = [] <;> simp [channelsOf, he]
    · rcases channelsOf log c.groupId <;> simp [channelsOf, h, Ne.symm h]
  simp only [registryNode, DownstreamMiningNode.addChannel, DownstreamMiningNodeStatus.addChannel,
    Option.map_some', hgroups]
  congr
  funext cid
  rw [groupOf_append_singleton, mapInsert_apply]

/-- **Every run of registrations** from the node of `log` reaches the node of the longer log. -/
theorem addChannels_tables (data : CommonDownstreamData) (log cs : List DownstreamChannel) :
    (registryNode data log).addChannels cs = some (registryNode data (log ++ cs)) := by
  induction cs generalizing log with
  | nil => simp [DownstreamMiningNode.addChannels]
  | cons c cs ih =>
    simp only [DownstreamMiningNode.addChannels, addChannel_registryNode, Option.some_bind, ih,
      List.append_assoc, List.singleton_append]

/-- Pairing a new node gives the node of the empty log. -/
theorem handleSetupConnection_new (data : CommonDownstreamData) (message : Bytes) :
    DownstreamMiningNode.new.handleSetupConnection (some (.ok (data, message))) =
      some (registryNode data [], .ok message) := rfl

/-! ### The invariant of the registry -/

/-- What holds of the registry after any registrations: each listed channel sits under its own
group, an id has an entry exactly when a channel with that id is listed, and the entry names a
group under which a channel with that id is listed. -/
structure RegistryAgrees (n : DownstreamMiningNode) : Prop where
  listed_group : ∀ c g, n.Listed c g → c.groupId = g
  entry_listed : ∀ cid g, n.channelIdToGroupId cid = some g → ∃ c, c.channelId = cid ∧ n.Listed c g
  listed_entry : ∀ c g, n.Listed c g → (n.channelIdToGroupId c.channelId).isSome

/-- What holds besides when no channel id was registered twice: each listed channel's entry is
its own group, and no channel id is listed twice. -/
structure RegistryUnique (n : DownstreamMiningNode) : Prop where
  listed_entry_eq : ∀ c g, n.Listed c g → n.channelIdToGroupId c.channelId = some g
  listed_once : ∀ c c' g g', n.Listed c g → n.Listed c' g' → c.channelId = c'.channelId →
    c = c' ∧ g = g'
  nodup : ∀ channels g l, n.status.getChannels = some channels → channels g = some l →
    (l.map (·.channelId)).Nodup

section Registry

variable {data : CommonDownstreamData} {log : List DownstreamChannel}

theorem registryNode_listed {c : DownstreamChannel} {g : UInt32} :
    (registryNode data log).Listed c g ↔ c ∈ log ∧ c.groupId = g := by
  constructor
  · rintro ⟨_, l, ⟨⟩, hl, hc⟩
    exact (mem_channelsOf hl).1 hc
  · rintro ⟨hc, rfl⟩
    have hmem : c ∈ log.filter (·.groupId = c.groupId) := List.mem_filter.2 ⟨hc, by simp⟩
    exact ⟨_, _, rfl, if_neg (List.ne_nil_of_mem hmem), hmem⟩

theorem groupOf_eq_some {cid g : UInt32} :
    groupOf log cid = some g → ∃ c ∈ log, c.channelId = cid ∧ c.groupId = g := by
  simp only [groupOf, Option.map_eq_some']
  rintro ⟨c, hc, rfl⟩
  exact ⟨c, List.mem_reverse.1 (List.mem_of_find?_eq_some hc), by
    simpa using List.find?_some hc, rfl⟩

theorem groupOf_isSome {c : DownstreamChannel} (hc : c ∈ log) : (groupOf log c.channelId).isSome := by
  simp only [groupOf, Option.isSome_map']
  exact List.find?_isSome.2 ⟨c, List.mem_reverse.2 hc, by simp⟩

theorem registryNode_agrees : RegistryAgrees (registryNode data log) where
  listed_group _ _ h := (registryNode_listed.1 h).2
  entry_listed _ _ h := by
    obtain ⟨c, hc, rfl, rfl⟩ := groupOf_eq_some h
    exact ⟨c, rfl, registryNode_listed.2 ⟨hc, rfl⟩⟩
  listed_entry _ _ h := groupOf_isSome (registryNode_listed.1 h).1

theorem registryNode_unique (hlog : (log.map (·.channelId)).Nodup) :
    RegistryUnique (registryNode data log) where
  listed_entry_eq c g h := by
    obtain ⟨hc, rfl⟩ := registryNode_listed.1 h
    obtain ⟨g', hg'⟩ := Option.isSome_iff_exists.1 (groupOf_isSome hc)
    obtain ⟨c', hc', hid, rfl⟩ := groupOf_eq_some hg'
    rwa [List.inj_on_of_nodup_map hlog hc' hc hid] at hg'
  listed_once c c' g g' h h' hid := by
    obtain ⟨hc, rfl⟩ := registryNode_listed.1 h
    obtain ⟨hc', rfl⟩ := registryNode_listed.1 h'
    have := List.inj_on_of_nodup_map hlog hc hc' hid
    exact ⟨this, this ▸ rfl⟩
  nodup channels g l hch hl := by
    cases hch
    unfold channelsOf at hl
    split at hl <;> cases hl
    exact ((List.filter_sublist _).map _).nodup hlog

end Registry

/-- **The channel registry after pairing and any registrations**: the two tables are those of
the log of registrations, so each listed channel sits under its own group, an id has an entry
exactly when a channel with that id is listed, and the entry names the group of the id's last
registration, under which that channel is listed; when no id was registered twice, each listed
channel's entry is its own group and no id is listed twice. -/
theorem channel_registry_agrees (data : CommonDownstreamData) (message : Bytes)
    (cs : List DownstreamChannel) :
    ∃ n₀ n, DownstreamMiningNode.new.handleSetupConnection (some (.ok (data, message))) =
        some (n₀, .ok message) ∧ n₀.addChannels cs = some n ∧
      n.status = .paired data (channelsOf cs) ∧ n.channelIdToGroupId = groupOf cs ∧
      RegistryAgrees n ∧ ((cs.map (·.channelId)).Nodup → RegistryUnique n) :=
  ⟨_, _, handleSetupConnection_new data message, addChannels_tables data [] cs, rfl, rfl,
    registryNode_agrees, registryNode_unique⟩

/-- A channel id registered again under another group stays listed under the first group, while
its entry names the second. -/
theorem reregistered_channel_id_splits_tables :
    ∃ n₀ n, DownstreamMiningNode.new.handleSetupConnection (some (.ok (⟨false, false, false⟩, []))) =
        some (n₀, .ok []) ∧ n₀.addChannels [⟨1, 2⟩, ⟨1, 3⟩] = some n ∧
      n.Listed ⟨1, 2⟩ 2 ∧ n.Listed ⟨1, 3⟩ 3 ∧ n.channelIdToGroupId 1 = some 3 :=
  ⟨_, _, rfl, rfl, ⟨_, _, rfl, rfl, by simp⟩, ⟨_, _, rfl, rfl, by simp⟩, rfl⟩

end Stratum.Proxy
