import LatticeNodes.Analysis.DataStages
import LatticeNodes.Analysis.DeviceOutcomes
import LatticeNodes.Analysis.MeshNetwork
import LatticeNodes.Analysis.RouteStages

/-!
# Whether a node hears its own data

Data for the master climb the route and are delivered to masters only, so they never come back
to the node that sent them.  Broadcast data are passed on to every peer of the relaying node,
the one they were built by included; `Outward` says of a step that it does no such thing, and
`no_self_delivery` is what holds of every run of outward steps.
-/

set_option autoImplicit false

namespace LatticeNodes.Analysis

open LatticeNodes.Program TransitionSystem MeshNetwork

namespace SelfEcho

variable {n : ℕ}

/-! ## Statement -/

/-- The node an event is about. -/
def node : Event n → Fin n
  | .call v _ _ => v
  | .deliver v _ _ => v
  | .dispatch v _ => v
  | .work v _ => v

/-- What the node does outside its mesh object. -/
def effects (s : State n) : Event n → List Effect
  | .call v env c => (c.run (s.mesh v) env).2
  | .deliver v i env =>
      match s.flights[i]? with
      | some f => ((s.mesh v).handleEntry env (s.entryOf f)).2
      | none => []
  | .dispatch v env => ((s.mesh v).dispatchRelay env).2
  | .work _ _ => []

/-- The event hands the node's adapter data that the node built itself. -/
def SelfDelivers (s : State n) (e : Event n) : Prop :=
  ∃ msg, Effect.externalRecvCallback msg ∈ effects s e ∧
    msg.messageType = MeshMessageType.adapterData ∧
      msg.originMacAddress = (s.mesh (node e)).deviceMacAddress

/-- Only a master sends beacons, no radio hears its own frames, and the other work of a node
changes neither its role nor the master its route leads to.
SOURCE: Mesh.cpp:801-815, 1107-1109 -/
def Orderly (s : State n) : Event n → Prop
  | .call v _ .broadcastMasterBeacon => (s.mesh v).isMaster = true
  | .call _ _ _ => True
  | .deliver v i _ => ∀ f ∈ s.flights[i]?, f.transmitter ≠ v
  | .dispatch _ _ => True
  | .work v m' => m'.isMaster = (s.mesh v).isMaster ∧
      (m'.currentMaster = (s.mesh v).currentMaster ∨ m'.currentMaster.distance = 0xFF)

instance (s : State n) (e : Event n) : Decidable (Orderly s e) := by
  cases e with
  | call v env c =>
      cases c with
      | broadcastMasterBeacon => exact inferInstanceAs (Decidable (_ = _))
      | _ => exact inferInstanceAs (Decidable True)
  | deliver v i env => exact inferInstanceAs (Decidable (∀ f ∈ s.flights[i]?, _))
  | dispatch v env => exact inferInstanceAs (Decidable True)
  | work v m' => exact inferInstanceAs (Decidable (_ ∧ _))

/-- Freshly initialised nodes with addresses of their own.
SOURCE: Mesh.cpp:162-182 -/
structure Fresh (s : State n) : Prop where
  unrouted : ∀ v, (s.mesh v).currentMaster.distance = 0xFF
  macs : Function.Injective fun v => (s.mesh v).deviceMacAddress
  unicast : ∀ v, (s.mesh v).deviceMacAddress ≠ broadcastMac

/-- Nodes that keep to their roles. -/
def network (n : ℕ) : System (State n) (Event n) :=
  (MeshNetwork.system n).restrict Fresh Orderly

instance (m : Mesh) (env : Env) (mac : MacAddress) : Decidable (Reaches m env mac) :=
  inferInstanceAs (Decidable (_ ∧ _))

/-- Among the peers a frame goes out to is the builder of the message, or everyone.
SOURCE: Mesh.cpp:969-980 -/
def ReturnsTo (m : Mesh) (env : Env) (msg : MeshMessage) : Prop :=
  ∃ p ∈ m.peers.entries, Reaches m env p.mac ∧
    (p.mac = msg.originMacAddress ∨ p.mac = broadcastMac)

instance (m : Mesh) (env : Env) (msg : MeshMessage) : Decidable (ReturnsTo m env msg) :=
  inferInstanceAs (Decidable (∃ p ∈ m.peers.entries, _ ∧ _))

/-- The drained message is broadcast data that the node passes on. -/
def PassesOn (m : Mesh) (msg : MeshMessage) : Prop :=
  msg.messageType = MeshMessageType.adapterData ∧ msg.targetMacAddress = broadcastMac ∧
    (m.passGate msg).isSome = true ∧ Relayable m msg

instance (m : Mesh) (msg : MeshMessage) : Decidable (PassesOn m msg) :=
  inferInstanceAs (Decidable (_ ∧ _))

/-- No broadcast data are passed on to a peer through which they come back. -/
def Outward (s : State n) : Event n → Prop
  | .deliver v i env => ∀ f ∈ s.flights[i]?,
      PassesOn (s.mesh v) f.msg → ¬ReturnsTo (s.mesh v) env f.msg
  | _ => True

instance (s : State n) (e : Event n) : Decidable (Outward s e) := by
  cases e with
  | deliver v i env => exact inferInstanceAs (Decidable (∀ f ∈ s.flights[i]?, _ → _))
  | _ => exact inferInstanceAs (Decidable True)

/-- The runs of outward steps. -/
def outwardNetwork (n : ℕ) : System (State n) (Event n) :=
  (network n).restrict (fun _ => True) Outward

/-! ## Where the frames go -/

/-- A flood goes to the peers that the radio takes.
SOURCE: Mesh.cpp:632-636, 975-979 -/
theorem sendToPeers_targets {m : Mesh} {env : Env} {msg : MeshMessage}
    {g : MacAddress × MeshMessage} (h : g ∈ sentFrames (m.sendToPeers env msg)) :
    ∃ p ∈ m.peers.entries, Reaches m env p.mac ∧ g.1 = p.mac := by
  rw [mem_sentFrames] at h
  obtain ⟨p, hmem, hp⟩ := List.mem_flatMap.mp h
  refine ⟨p, hmem, ?_⟩
  split at hp
  · cases hp
  · next hother =>
    have hg : g ∈ sentFrames (m.sendMessage env p.mac msg) := mem_sentFrames.mpr hp
    refine ⟨sendMessage_sends_iff.mp (List.ne_nil_of_mem hg), ?_⟩
    rw [sendMessage_frames hg]

/-- The send loop reaches every peer that can be reached. -/
theorem mem_sendToPeers {m : Mesh} {env : Env} {msg : MeshMessage} {p : PeerInfo}
    (hp : p ∈ m.peers.entries) (hreaches : Reaches m env p.mac) :
    (p.mac, msg) ∈ sentFrames (m.sendToPeers env msg) := by
  rw [mem_sentFrames]
  apply List.mem_flatMap.mpr
  refine ⟨p, hp, ?_⟩
  rw [if_neg hreaches.1, Mesh.sendMessage, if_neg hreaches.1, hreaches.2]
  exact List.mem_singleton_self _

/-- Broadcast data on the way out of a receive step go to a peer.
SOURCE: Mesh.cpp:923-980 -/
theorem dispatch_targets {m : Mesh} {env : Env} {msg : MeshMessage}
    (htarget : msg.targetMacAddress = broadcastMac) {g : MacAddress × MeshMessage}
    (h : g ∈ sentFrames (m.dispatch env msg).2) :
    Relayable m msg ∧ ∃ p ∈ m.peers.entries, Reaches m env p.mac ∧ g.1 = p.mac := by
  rcases dispatch_relay m env msg with
    ⟨hrelay, -, before, hquiet, heq⟩ | ⟨-, -, hother, -⟩ | ⟨-, hquiet⟩
  · rw [heq, sentFrames_append, hquiet, List.nil_append] at h
    exact ⟨hrelay, sendToPeers_targets h⟩
  · exact absurd htarget hother
  · rw [hquiet] at h
    cases h

/-- The gate keeps the node.
SOURCE: Mesh.cpp:570-582 -/
theorem received_sameNode {m m' : Mesh} {env : Env} {entry : RecvQueueEntry}
    (h : received m env entry = some m') : SameNode m m' := by
  obtain ⟨m₁, hgate, rfl⟩ := Option.map_eq_some_iff.mp h
  exact (passGate_sameNode hgate).trans (updatePeerLastSeen_sameNode m₁ env entry.srcMac)

/-- A broadcast is passed on to peers only.
SOURCE: Mesh.cpp:969-980 -/
theorem handleEntry_targets {m : Mesh} {env : Env} {entry : RecvQueueEntry}
    (htype : entry.msg.messageType = MeshMessageType.adapterData)
    (htarget : entry.msg.targetMacAddress = broadcastMac) {g : MacAddress × MeshMessage}
    (h : g ∈ sentFrames (m.handleEntry env entry).2) :
    PassesOn m entry.msg ∧ ∃ p ∈ m.peers.entries, Reaches m env p.mac ∧ g.1 = p.mac := by
  cases hreceived : received m env entry with
  | none =>
      rw [handleEntry_of_dropped hreceived] at h
      cases h
  | some m' =>
      have hsame := received_sameNode hreceived
      rw [handleEntry_of_received hreceived] at h
      obtain ⟨hrelay, p, hp, hreaches, hg⟩ := dispatch_targets htarget h
      have hpassed : (m.passGate entry.msg).isSome = true := by
        rw [← isSome_received m env entry, hreceived]
        rfl
      have hrelayable : Relayable m entry.msg := by
        rw [received_frame hreceived] at hrelay
        exact hrelay
      obtain ⟨q, hq, hmac⟩ := exists_peer_of_peerKeys hsame.peerKeys hp
      refine ⟨⟨htype, htarget, hpassed, hrelayable⟩, q, hq, ?_, hg.trans hmac.symm⟩
      rw [hmac]
      exact ⟨fun hself => hreaches.1 (hself.trans hsame.deviceMacAddress.symm), hreaches.2⟩

/-- Broadcast data that are passed on reach every peer in reach.
SOURCE: Mesh.cpp:563-604, 969-980 -/
theorem handleEntry_reaches {m : Mesh} {env : Env} {entry : RecvQueueEntry}
    (hpasses : PassesOn m entry.msg) {p : PeerInfo} (hp : p ∈ m.peers.entries)
    (hreaches : Reaches m env p.mac) :
    (p.mac, entry.msg.relayCopy m.deviceMacAddress) ∈
      sentFrames (m.handleEntry env entry).2 := by
  obtain ⟨-, -, hgate, hrelay⟩ := hpasses
  rcases handleEntry_floods m env entry with
    ⟨-, -, m', hreceived, -, before, hquiet, heq⟩ | ⟨hnot, -⟩
  · have hsame := received_sameNode hreceived
    obtain ⟨q, hq, hmac⟩ := exists_peer_of_peerKeys hsame.peerKeys.symm hp
    have hreaches' : Reaches m' env q.mac := by
      rw [hmac]
      exact ⟨fun hself => hreaches.1 (hself.trans hsame.deviceMacAddress), hreaches.2⟩
    rw [heq, sentFrames_append, hquiet, List.nil_append, ← hmac, ← hsame.deviceMacAddress]
    exact mem_sendToPeers hq hreaches'
  · exact absurd ⟨hgate, hrelay⟩ hnot

/-! ## The invariant -/

/-- The address of a master. -/
def ByMaster (s : State n) (mac : MacAddress) : Prop :=
  ∃ w, (s.mesh w).isMaster = true ∧ (s.mesh w).deviceMacAddress = mac

/-- Broadcast data are on their way to somebody else than their builder, and only the builder
sends them to everyone; other data are for a master and not of one. -/
structure LeadsAway (s : State n) (f : Flight n) : Prop where
  away : f.msg.targetMacAddress = broadcastMac → f.target ≠ f.msg.originMacAddress
  builder : f.msg.targetMacAddress = broadcastMac → f.target = broadcastMac →
    (s.mesh f.transmitter).deviceMacAddress = f.msg.originMacAddress
  upwards : f.msg.targetMacAddress ≠ broadcastMac → ByMaster s f.msg.targetMacAddress
  fromNode : f.msg.targetMacAddress ≠ broadcastMac → ¬ByMaster s f.msg.originMacAddress

/-- A frame that may be on the air. -/
structure Proper (s : State n) (f : Flight n) : Prop where
  data : f.msg.messageType = MeshMessageType.adapterData → LeadsAway s f
  beacon : f.msg.messageType = MeshMessageType.masterBeacon →
    ByMaster s f.msg.originMacAddress

/-- A node whose route and pending relay lead to masters. -/
structure Settled (s : State n) (m : Mesh) : Prop where
  route : m.currentMaster.distance ≠ 0xFF → ByMaster s m.currentMaster.mac
  pending : m.relayPending = true → m.relayPendingMsg.messageType = MeshMessageType.masterBeacon ∧
    ByMaster s m.relayPendingMsg.originMacAddress

structure Outbound (s : State n) : Prop where
  flights : ∀ f ∈ s.flights, Proper s f
  nodes : ∀ v, Settled s (s.mesh v)
  macs : Function.Injective fun v => (s.mesh v).deviceMacAddress
  unicast : ∀ v, (s.mesh v).deviceMacAddress ≠ broadcastMac

section Steps

variable {s s' : State n}

/-- Addresses and roles stay. -/
structure SameRoles (s s' : State n) : Prop where
  macs : ∀ w, (s'.mesh w).deviceMacAddress = (s.mesh w).deviceMacAddress
  roles : ∀ w, (s'.mesh w).isMaster = (s.mesh w).isMaster

/-- Who is a master's stays so while the roles do. -/
theorem SameRoles.byMaster (h : SameRoles s s') (mac : MacAddress) :
    ByMaster s' mac ↔ ByMaster s mac := by
  simp only [ByMaster, h.macs, h.roles]

/-- A proper flight stays so while the roles do. -/
theorem SameRoles.proper (h : SameRoles s s') {f : Flight n} (hf : Proper s f) :
    Proper s' f := by
  refine ⟨fun htype => ?_, fun htype => ?_⟩
  · obtain ⟨haway, hbuilder, hupwards, hnode⟩ := hf.data htype
    refine ⟨haway, fun htarget hall => ?_, fun htarget => ?_, fun htarget => ?_⟩
    · rw [h.macs]
      exact hbuilder htarget hall
    · rw [h.byMaster]
      exact hupwards htarget
    · rw [h.byMaster]
      exact hnode htarget
  · rw [h.byMaster]
    exact hf.beacon htype

/-- A settled node stays so while the roles do. -/
theorem SameRoles.settled (h : SameRoles s s') {m : Mesh} (hm : Settled s m) : Settled s' m := by
  refine ⟨fun hroute => ?_, fun hpending => ?_⟩
  · rw [h.byMaster]
    exact hm.route hroute
  · rw [h.byMaster]
    exact hm.pending hpending

/-- One node changes and sends proper frames. -/
theorem Outbound.install (h : Outbound s) {v : Fin n} {m' : Mesh}
    (hmesh : s'.mesh = Function.update s.mesh v m')
    (hmac : m'.deviceMacAddress = (s.mesh v).deviceMacAddress)
    (hrole : m'.isMaster = (s.mesh v).isMaster) (hsettled : Settled s m')
    (hflights : ∀ f ∈ s'.flights, f ∈ s.flights ∨ Proper s f) : Outbound s' := by
  have hself : s'.mesh v = m' := by
    rw [hmesh, Function.update_self]
  have hother : ∀ w, w ≠ v → s'.mesh w = s.mesh w := by
    intro w hw
    rw [hmesh, Function.update_of_ne hw]
  have hsame : SameRoles s s' := by
    refine ⟨fun w => ?_, fun w => ?_⟩
    · by_cases hw : w = v
      · rw [hw, hself, hmac]
      · rw [hother w hw]
    · by_cases hw : w = v
      · rw [hw, hself, hrole]
      · rw [hother w hw]
  refine ⟨fun f hf => ?_, fun w => ?_, ?_, fun w => ?_⟩
  · rcases hflights f hf with hold | hnew
    · exact hsame.proper (h.flights f hold)
    · exact hsame.proper hnew
  · by_cases hw : w = v
    · rw [hw, hself]
      exact hsame.settled hsettled
    · rw [hother w hw]
      exact hsame.settled (h.nodes w)
  · simp only [hsame.macs]
    exact h.macs
  · rw [hsame.macs]
    exact h.unicast w

/-- A master has no broadcast address. -/
theorem ByMaster.ne_broadcast (h : Outbound s) {mac : MacAddress} (hmac : ByMaster s mac) :
    mac ≠ broadcastMac := by
  obtain ⟨w, -, rfl⟩ := hmac
  exact h.unicast w

/-- A node is the only one with its address. -/
theorem Outbound.byMaster_self (h : Outbound s) (v : Fin n) :
    ByMaster s (s.mesh v).deviceMacAddress ↔ (s.mesh v).isMaster = true := by
  constructor
  · rintro ⟨w, hrole, hmac⟩
    rw [← h.macs hmac]
    exact hrole
  · exact fun hrole => ⟨v, hrole, rfl⟩

/-! ### Calls -/

/-- What a call leaves alone. -/
structure RouteKept (m m' : Mesh) : Prop where
  isMaster : m'.isMaster = m.isMaster
  currentMaster : m'.currentMaster = m.currentMaster

/-- No call of a node touches its route. -/
theorem run_routeKept (m : Mesh) (env : Env) (c : Call) : RouteKept m (c.run m env).1 := by
  rw [Call.run_frame]
  exact ⟨rfl, rfl⟩

/-- Who sends up has a route.
SOURCE: Mesh.cpp:648-652 -/
theorem routeToMaster_distance {m : Mesh} {env : Env} {msg : MeshMessage}
    {g : MacAddress × MeshMessage} (h : g ∈ sentFrames (m.routeToMaster env msg)) :
    m.currentMaster.distance ≠ 0xFF := by
  intro hfar
  have hnone : m.findNextHopToMaster env = none := if_pos hfar
  rw [Mesh.routeToMaster, hnone] at h
  cases h

/-- The broadcast data of a node.
SOURCE: Mesh.cpp:613-637, 776-780 -/
theorem broadcastAdapterData_proper (s : State n) (v : Fin n) (env : Env) (type : AdapterTypes)
    (data : Payload) {g : MacAddress × MeshMessage} (origin relays : ℕ)
    (hg : g ∈ sentFrames ((s.mesh v).broadcastAdapterData env type data).2) :
    Proper s ⟨v, g.1, g.2, origin, relays⟩ := by
  have hframe := (broadcastAdapterData_originates (s.mesh v) env type data).frames g hg
  have htarget : ∃ p, Reaches (s.mesh v) env p ∧ g.1 = p := by
    simp only [Mesh.broadcastAdapterData, Mesh.broadcastToAllPeers] at hg
    split at hg
    · cases hg
    · obtain ⟨p, -, hreaches, hp⟩ := sendToPeers_targets hg
      exact ⟨p.mac, hreaches, hp⟩
  obtain ⟨mac, hreaches, hmac⟩ := htarget
  refine ⟨fun _ => ?_, fun htype => ?_⟩
  · simp only [hframe, hmac]
    refine ⟨fun _ => hreaches.1, fun _ _ => rfl, fun hother => ?_, fun hother => ?_⟩
    · exact absurd rfl hother
    · exact absurd rfl hother
  · simp only [hframe] at htype
    cases htype

/-- The data a node sends to its master.
SOURCE: Mesh.cpp:351-369, 639-677 -/
theorem transmit_proper (h : Outbound s) (v : Fin n) (env : Env) (type : AdapterTypes)
    (data : Payload) {g : MacAddress × MeshMessage} (origin relays : ℕ)
    (hg : g ∈ sentFrames ((s.mesh v).transmit env type data).2) :
    Proper s ⟨v, g.1, g.2, origin, relays⟩ := by
  have hframe := (transmit_originates (s.mesh v) env type data).frames g hg
  unfold Mesh.transmit at hg
  by_cases hrole : (s.mesh v).isMaster = true
  · rw [if_pos hrole] at hg
    exact broadcastAdapterData_proper s v env type data origin relays hg
  · rw [if_neg hrole] at hg
    have hroute : (s.mesh v).currentMaster.distance ≠ 0xFF := routeToMaster_distance hg
    have hmaster := (h.nodes v).route hroute
    rw [Call.frame, if_neg hrole] at hframe
    refine ⟨fun _ => ?_, fun htype => ?_⟩
    · have htarget : g.2.targetMacAddress = (s.mesh v).currentMaster.mac := by
        rw [hframe]
        rfl
      have horigin : g.2.originMacAddress = (s.mesh v).deviceMacAddress := by
        rw [hframe]
        rfl
      have hunicast := hmaster.ne_broadcast h
      rw [← htarget] at hmaster hunicast
      refine ⟨fun hall => absurd hall hunicast, fun hall => absurd hall hunicast,
        fun _ => hmaster, fun _ => ?_⟩
      simp only [horigin]
      rw [h.byMaster_self v]
      exact hrole
    · simp only [hframe] at htype
      cases htype

/-- The frames of an orderly call. -/
theorem run_proper (h : Outbound s) {v : Fin n} {env : Env} {c : Call}
    (horderly : Orderly s (.call v env c)) {g : MacAddress × MeshMessage} (origin relays : ℕ)
    (hg : g ∈ sentFrames (c.run (s.mesh v) env).2) :
    Proper s ⟨v, g.1, g.2, origin, relays⟩ := by
  have hframe := (c.run_originates (s.mesh v) env).frames g hg
  cases c with
  | transmit type data => exact transmit_proper h v env type data origin relays hg
  | broadcastAdapterData type data =>
      exact broadcastAdapterData_proper s v env type data origin relays hg
  | broadcastMasterBeacon =>
      have hrole : (s.mesh v).isMaster = true := horderly
      refine ⟨fun htype => ?_, fun _ => ?_⟩
      · simp only [hframe] at htype
        cases htype
      · simp only [hframe]
        exact (h.byMaster_self v).mpr hrole
  | sendEnrollmentRequest =>
      refine ⟨fun htype => ?_, fun htype => ?_⟩
      · simp only [hframe] at htype
        cases htype
      · simp only [hframe] at htype
        cases htype
  | enrollPeer tls mac publicKey =>
      refine ⟨fun htype => ?_, fun htype => ?_⟩
      · simp only [hframe] at htype
        cases htype
      · simp only [hframe] at htype
        cases htype

/-- Proper frames join proper flights. -/
theorem mem_flights_proper {v : Fin n} {effects : List Effect} {origin relays : ℕ}
    (hsent : ∀ g ∈ sentFrames effects, Proper s ⟨v, g.1, g.2, origin, relays⟩) {f : Flight n}
    (hf : f ∈ s.flights ++ flightsOf v origin relays effects) :
    f ∈ s.flights ∨ Proper s f := by
  rcases List.mem_append.mp hf with hold | hnew
  · exact .inl hold
  · obtain ⟨g, hg, rfl⟩ := List.mem_map.mp hnew
    exact .inr (hsent g hg)

/-- A relay that was pending before leads to a master still. -/
theorem Settled.of_kept {m m' : Mesh} (h : Settled s m) (hkept : RelayKept m m')
    (hroute : m'.currentMaster.distance ≠ 0xFF → ByMaster s m'.currentMaster.mac) :
    Settled s m' := by
  refine ⟨hroute, fun hpending => ?_⟩
  obtain ⟨hbefore, hmsg⟩ := hkept.pending hpending
  rw [hmsg]
  exact h.pending hbefore

/-- A call of a node sends outwards. -/
theorem Outbound.originate (h : Outbound s) {v : Fin n} {env : Env} {c : Call}
    (horderly : Orderly s (.call v env c)) : Outbound (s.originate v env c) := by
  have hcall := (c.run_originates (s.mesh v) env).undisturbed.kept
  obtain ⟨hrole, hroute⟩ := run_routeKept (s.mesh v) env c
  refine h.install rfl hcall.deviceMacAddress hrole ?_ ?_
  · apply (h.nodes v).of_kept hcall
    rw [hroute]
    exact (h.nodes v).route
  · intro f hf
    exact mem_flights_proper (fun g hg => run_proper h horderly _ _ hg) hf

/-! ### Drained frames -/

/-- **What an outward node sends on is proper again.**
SOURCE: Mesh.cpp:563-604, 923-980 -/
theorem handleEntry_proper {v : Fin n} {i : ℕ} {env : Env} {f : Flight n}
    (hf : s.flights[i]? = some f) (hproper : Proper s f)
    (houtward : Outward s (.deliver v i env)) {g : MacAddress × MeshMessage}
    (hg : g ∈ sentFrames ((s.mesh v).handleEntry env (s.entryOf f)).2) (relays : ℕ) :
    Proper s ⟨v, g.1, g.2, f.origin, relays⟩ := by
  obtain ⟨-, hcopy⟩ := handleEntry_frames hg
  refine ⟨fun htype => ?_, fun htype => ?_⟩
  · have hdata : f.msg.messageType = MeshMessageType.adapterData := by
      rw [hcopy] at htype
      exact htype
    obtain ⟨-, -, hupwards, hnode⟩ := hproper.data hdata
    have haway : f.msg.targetMacAddress = broadcastMac →
        g.1 ≠ f.msg.originMacAddress ∧ g.1 ≠ broadcastMac := by
      intro htarget
      obtain ⟨hpasses, p, hp, hreaches, hg₁⟩ := handleEntry_targets hdata htarget hg
      have hnot := houtward f hf hpasses
      rw [hg₁]
      constructor
      · exact fun horigin => hnot ⟨p, hp, hreaches, .inl horigin⟩
      · exact fun hall => hnot ⟨p, hp, hreaches, .inr hall⟩
    simp only [hcopy]
    exact ⟨fun htarget => (haway htarget).1, fun htarget hall => absurd hall (haway htarget).2,
      hupwards, hnode⟩
  · simp only [hcopy] at htype ⊢
    exact hproper.beacon htype

/-- A drained frame leaves a node settled, when beacons are masters'. -/
theorem handleEntry_settled {m : Mesh} (hm : Settled s m) (env : Env) {entry : RecvQueueEntry}
    (hbeacon : entry.msg.messageType = MeshMessageType.masterBeacon →
      ByMaster s entry.msg.originMacAddress) : Settled s (m.handleEntry env entry).1 := by
  have hroute : (m.handleEntry env entry).1.currentMaster.distance ≠ 0xFF →
      ByMaster s (m.handleEntry env entry).1.currentMaster.mac := by
    rcases handleEntry_currentMaster_mac m env entry with hsame | ⟨htype, hmac⟩
    · rw [hsame]
      exact hm.route
    · rw [hmac]
      exact fun _ => hbeacon htype
  rcases handleEntry_relay m env entry with ⟨hyes, hdone⟩ | ⟨-, hkept⟩
  · refine ⟨hroute, fun _ => ?_⟩
    rw [hdone.pending.2]
    exact ⟨hyes.1, hbeacon hyes.1⟩
  · exact hm.of_kept hkept hroute

/-- A drained frame goes on outwards. -/
theorem Outbound.drain (h : Outbound s) {v : Fin n} {i : ℕ} {env : Env} {f : Flight n}
    (hf : s.flights[i]? = some f) (houtward : Outward s (.deliver v i env)) :
    Outbound (s.drain v env f) := by
  have hproper := h.flights f (List.mem_of_getElem? hf)
  have hsame := handleEntry_sameNode (s.mesh v) env (s.entryOf f)
  refine h.install rfl hsame.deviceMacAddress hsame.isMaster ?_ ?_
  · exact handleEntry_settled (h.nodes v) env hproper.beacon
  · intro g hg
    exact mem_flights_proper
      (fun sent hsent => handleEntry_proper hf hproper houtward hsent _) hg

/-! ### Relays and other work -/

/-- A deferred beacon goes on outwards. -/
theorem Outbound.dispatchAt (h : Outbound s) (v : Fin n) (env : Env) :
    Outbound (s.dispatchAt v env) := by
  have hkept := dispatchRelay_relayKept (s.mesh v) env
  have hsame : ((s.mesh v).dispatchRelay env).1.isMaster = (s.mesh v).isMaster ∧
      ((s.mesh v).dispatchRelay env).1.currentMaster = (s.mesh v).currentMaster := by
    rcases dispatchRelay_fst (s.mesh v) env with heq | heq
    · rw [heq]
      exact ⟨rfl, rfl⟩
    · rw [heq]
      exact ⟨rfl, rfl⟩
  refine h.install rfl hkept.deviceMacAddress hsame.1 ?_ ?_
  · apply (h.nodes v).of_kept hkept
    rw [hsame.2]
    exact (h.nodes v).route
  · intro f hf
    refine mem_flights_proper (fun g hg => ?_) hf
    obtain ⟨hpending, rfl⟩ := dispatchRelay_frames hg
    obtain ⟨htype, hmaster⟩ := (h.nodes v).pending hpending
    refine ⟨fun hdata => ?_, fun _ => hmaster⟩
    rw [htype] at hdata
    cases hdata

/-- Other work sends nothing. -/
theorem Outbound.work (h : Outbound s) {v : Fin n} {m' : Mesh}
    (hwork : Undisturbed (s.mesh v) m') (horderly : Orderly s (.work v m')) :
    Outbound { s with mesh := Function.update s.mesh v m' } := by
  obtain ⟨hrole, hroute⟩ := horderly
  refine h.install rfl hwork.kept.deviceMacAddress hrole ?_ fun f hf => .inl hf
  apply (h.nodes v).of_kept hwork.kept
  rcases hroute with hsame | hnone
  · rw [hsame]
    exact (h.nodes v).route
  · exact fun hsome => absurd hnone hsome

/-- One case for each event. -/
theorem Outbound.step {e : Event n} (h : Outbound s) (horderly : Orderly s e)
    (houtward : Outward s e) (hstep : MeshNetwork.step s e = some s') : Outbound s' := by
  cases e with
  | call v env c =>
      cases hstep
      exact h.originate horderly
  | deliver v i env =>
      obtain ⟨f, hf, hdrain⟩ := Option.bind_eq_some_iff.mp hstep
      simp only [Option.ite_none_right_eq_some, Option.some.injEq] at hdrain
      obtain ⟨-, rfl⟩ := hdrain
      exact h.drain hf houtward
  | dispatch v env =>
      cases hstep
      exact h.dispatchAt v env
  | work v m' =>
      simp only [MeshNetwork.step, Option.ite_none_right_eq_some, Option.some.injEq] at hstep
      obtain ⟨hwork, rfl⟩ := hstep
      exact h.work hwork horderly

/-- All traffic is outbound in every reachable state. -/
theorem outbound_of_reachable (h : (outwardNetwork n).Reachable s) : Outbound s := by
  refine h.invariant ?_ ?_
  · rintro s ⟨⟨hstart, hfresh⟩, -⟩
    refine ⟨fun f hf => ?_, fun v => ⟨fun hroute => ?_, fun hpending => ?_⟩, hfresh.macs,
      hfresh.unicast⟩
    · rw [hstart.flights] at hf
      cases hf
    · exact absurd (hfresh.unrouted v) hroute
    · rw [hstart.noRelay v] at hpending
      cases hpending
  · intro s e s' hs hstep
    obtain ⟨houtward, hstep⟩ := System.restrict_step_eq_some_iff.mp hstep
    obtain ⟨horderly, hstep⟩ := System.restrict_step_eq_some_iff.mp hstep
    exact hs.step horderly houtward hstep

/-! ## Result -/

/-- Only drained frames reach the callback. -/
theorem exists_deliver_of_callback {e : Event n} {msg : MeshMessage}
    (h : Effect.externalRecvCallback msg ∈ effects s e) :
    ∃ v i env f, e = .deliver v i env ∧ s.flights[i]? = some f ∧
      Effect.externalRecvCallback msg ∈ ((s.mesh v).handleEntry env (s.entryOf f)).2 := by
  cases e with
  | call v env c =>
      exfalso
      cases c with
      | transmit type data => exact transmit_radioOnly (s.mesh v) env type data _ h
      | broadcastAdapterData type data =>
          exact broadcastAdapterData_radioOnly (s.mesh v) env type data _ h
      | broadcastMasterBeacon =>
          simp only [effects, Call.run, Mesh.broadcastMasterBeacon, Mesh.espNowBroadcast] at h
          split at h
          · cases h
          · split at h
            · cases List.mem_singleton.mp h
            · cases h
      | sendEnrollmentRequest =>
          simp only [effects, Call.run, Mesh.sendEnrollmentRequest, Mesh.espNowBroadcast] at h
          split at h
          · cases List.mem_singleton.mp h
          · cases h
      | enrollPeer tls mac publicKey => exact enrollPeer_quiet (s.mesh v) tls env mac publicKey _ h
  | deliver v i env =>
      simp only [effects] at h
      split at h
      · next f hf => exact ⟨v, i, env, f, rfl, hf, h⟩
      · cases h
  | dispatch v env =>
      exfalso
      simp only [effects, Mesh.dispatchRelay] at h
      split at h
      · exact transmitCore_radioOnly _ _ _ _ _ _ _ h
      · cases h
  | work v m' => cases h

/-- **As long as no node passes broadcast data on to their builder or to everyone, no node is
handed its own data.**
SOURCE: Mesh.cpp:563-604, 776-780, 923-980 -/
theorem no_self_delivery (h : (outwardNetwork n).Reachable s) {e : Event n}
    (hstep : (network n).step s e = some s') : ¬SelfDelivers s e := by
  obtain ⟨horderly, hstep⟩ := System.restrict_step_eq_some_iff.mp hstep
  rintro ⟨msg, hcallback, htype, horigin⟩
  obtain ⟨v, i, env, f, rfl, hf, hmem⟩ := exists_deliver_of_callback hcallback
  obtain ⟨rfl, -⟩ := handleEntry_callback hmem
  have houtbound := outbound_of_reachable h
  obtain ⟨haway, hbuilder, hupwards, hnode⟩ :=
    (houtbound.flights f (List.mem_of_getElem? hf)).data htype
  have hself : f.msg.originMacAddress = (s.mesh v).deviceMacAddress := horigin
  obtain ⟨-, hdelivers⟩ := (handleEntry_delivers_iff htype).mp hmem
  by_cases htarget : f.msg.targetMacAddress = broadcastMac
  · -- Only the builder's own frames to everyone could come in, and no radio hears those.
    obtain ⟨f', hf', hadmitted⟩ := Option.bind_eq_some_iff.mp hstep
    obtain rfl : f = f' := Option.some.inj (hf.symm.trans hf')
    have hadmits : Admits (s.mesh v).deviceMacAddress f := by
      by_contra hnot
      rw [if_neg hnot] at hadmitted
      cases hadmitted
    rcases hadmits with hall | hown
    · have hmac := (hbuilder htarget hall).trans hself
      exact horderly f hf (houtbound.macs hmac)
    · exact haway htarget (hown.trans hself.symm)
  · -- Other data are delivered to a master or to their target, and both are masters.
    have hrole : ¬(s.mesh v).isMaster = true := by
      rw [← houtbound.byMaster_self v, ← hself]
      exact hnode htarget
    rcases hdelivers.2.1 with hmaster | hown | hall
    · exact hrole hmaster
    · apply hrole
      rw [← houtbound.byMaster_self v, ← hown]
      exact hupwards htarget
    · exact htarget hall

/-- **Data passed on to their builder, or to everyone, do come back**: the frame is on the air
then, and is delivered when the builder lets it through.
SOURCE: Mesh.cpp:563-604, 969-980 -/
theorem self_delivery_of_returnsTo {v w : Fin n} {env env' : Env} {f : Flight n} (hvw : v ≠ w)
    (hbuilder : f.msg.originMacAddress = (s.mesh w).deviceMacAddress)
    (hpasses : PassesOn (s.mesh v) f.msg) (hreturns : ReturnsTo (s.mesh v) env f.msg)
    (hgate : ((s.mesh w).passGate (f.msg.relayCopy (s.mesh v).deviceMacAddress)).isSome = true)
    (hdelivers : Delivers (s.mesh w) (f.msg.relayCopy (s.mesh v).deviceMacAddress)) :
    ∃ j s', MeshNetwork.step (s.drain v env f) (.deliver w j env') = some s' ∧
      SelfDelivers (s.drain v env f) (.deliver w j env') := by
  obtain ⟨p, hp, hreaches, hmac⟩ := hreturns
  have hsent : (p.mac, f.msg.relayCopy (s.mesh v).deviceMacAddress) ∈
      sentFrames ((s.mesh v).handleEntry env (s.entryOf f)).2 :=
    handleEntry_reaches hpasses hp hreaches
  let copy : Flight n := ⟨v, p.mac, f.msg.relayCopy (s.mesh v).deviceMacAddress, f.origin,
    f.relays + 1⟩
  have hair : copy ∈ (s.drain v env f).flights :=
    List.mem_append_right _ (List.mem_map.mpr ⟨_, hsent, rfl⟩)
  obtain ⟨j, hj⟩ := List.getElem?_of_mem hair
  have hsame : (s.drain v env f).mesh w = s.mesh w := Function.update_of_ne hvw.symm _ _
  have hadmits : Admits ((s.drain v env f).mesh w).deviceMacAddress copy := by
    rw [hsame]
    rcases hmac with horigin | hall
    · exact .inr (horigin.trans hbuilder)
    · exact .inl hall
  refine ⟨j, (s.drain v env f).drain w env' copy, ?_, copy.msg, ?_, hpasses.1, ?_⟩
  · rw [MeshNetwork.step, hj, Option.bind_some, if_pos hadmits]
  · simp only [effects, hj]
    apply (handleEntry_delivers_iff hpasses.1).mpr
    rw [hsame]
    exact ⟨hgate, hdelivers⟩
  · show f.msg.originMacAddress = ((s.drain v env f).mesh w).deviceMacAddress
    rw [hsame, hbuilder]

end Steps

/-! ## A master and a node -/

def echoMesh (v : Fin 2) : Mesh :=
  { pairMesh v with externalRecvCallback := true }

def echoState : State 2 :=
  { pairState with mesh := echoMesh }

/-- The two nodes are a start. -/
theorem init_echoState : (network 2).Init echoState := by
  refine ⟨⟨rfl, rfl, fun _ => rfl, fun _ => rfl⟩, fun _ => rfl, ?_, ?_⟩
  · show ∀ v w, pairMac v = pairMac w → v = w
    decide
  · show ∀ v, pairMac v ≠ broadcastMac
    decide

/-- The master broadcasts, and the node passes the data on to its peers. -/
def echoEvents : List (Event 2) :=
  [.call 0 quietEnv (.broadcastAdapterData AdapterTypes.serialAdapter zeroPayload),
    .deliver 1 0 quietEnv]

/-- The master is handed its own broadcast.
SOURCE: Mesh.cpp:776-780, 923-980 -/
theorem self_delivery_echo :
    ∃ s s' e, (network 2).Reachable s ∧ (network 2).step s e = some s' ∧ SelfDelivers s e := by
  have hrun : ∃ s s' f, (network 2).runFrom echoState echoEvents = some s ∧
      (network 2).step s (.deliver 0 1 quietEnv) = some s' ∧ s.flights[1]? = some f ∧
      Effect.externalRecvCallback f.msg ∈ effects s (.deliver 0 1 quietEnv) ∧
      f.msg.messageType = MeshMessageType.adapterData ∧
      f.msg.originMacAddress = (s.mesh 0).deviceMacAddress :=
    ⟨_, _, _, rfl, rfl, rfl, .head _, rfl, rfl⟩
  obtain ⟨s, s', f, hrun, hstep, -, hmem, htype, horigin⟩ := hrun
  exact ⟨s, s', _, System.Reachable.runFrom (.init init_echoState) hrun, hstep, f.msg, hmem, htype,
    horigin⟩

/-- The master's broadcast reaches the node, and that is no self-delivery. -/
theorem no_self_delivery_first :
    ∃ s s' e, (outwardNetwork 2).Reachable s ∧ (network 2).step s e = some s' ∧
      e = .deliver 1 0 quietEnv ∧ ¬SelfDelivers s e := by
  have hrun : ∃ s s', (outwardNetwork 2).runFrom echoState (echoEvents.take 1) = some s ∧
      (network 2).step s (.deliver 1 0 quietEnv) = some s' :=
    ⟨_, _, rfl, rfl⟩
  obtain ⟨s, s', hrun, hstep⟩ := hrun
  have hreach : (outwardNetwork 2).Reachable s :=
    System.Reachable.runFrom (.init ⟨init_echoState, trivial⟩) hrun
  exact ⟨s, s', _, hreach, hstep, rfl, no_self_delivery hreach hstep⟩

end SelfEcho

end LatticeNodes.Analysis
