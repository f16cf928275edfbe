import Mathlib.Combinatorics.SimpleGraph.Metric
import LatticeNodes.Analysis.RelayStages
import LatticeNodes.Library.TransitionSystem

/-!
# How far a beacon travels

A finite radio network with one master.  The master broadcasts one beacon; frames in flight
are drained by their addressees, and pending relays are dispatched, in any order.

The route a node learns from a beacon points back to the sender, and a relayed beacon is sent
along this route (`dispatchRelay_frames`), so it returns to the master instead of travelling
on.  `reached_iff_adjacent` says who has a route when all is quiet: the master's neighbours;
`beacon_spreads_iff` compares this with the reach the hop limit promises.
-/

set_option autoImplicit false

namespace LatticeNodes.Analysis

open LatticeNodes.Program TransitionSystem

namespace BeaconSpread

/-! ## The network -/

/-- A frame on its way to one of its addressees. -/
structure Flight (n : ℕ) where
  receiver : Fin n
  srcMac : MacAddress
  msg : MeshMessage

structure State (n : ℕ) where
  mesh : Fin n → Mesh
  flights : List (Flight n)

section Network

variable {n : ℕ} (G : SimpleGraph (Fin n)) [DecidableRel G.Adj]

/-- The nodes in range of `v` that an address reaches. -/
def addressees (mesh : Fin n → Mesh) (v : Fin n) (target : MacAddress) : List (Fin n) :=
  (List.finRange n).filter fun w =>
    G.Adj v w ∧ (target = broadcastMac ∨ (mesh w).deviceMacAddress = target)

/-- The flights of the frames a node has sent. -/
def flightsOf (mesh : Fin n → Mesh) (v : Fin n) (effects : List Effect) : List (Flight n) :=
  (sentFrames effects).flatMap fun f =>
    (addressees G mesh v f.1).map fun w => ⟨w, (mesh v).deviceMacAddress, f.2⟩

/-- Replace one node's mesh object and send what it sent. -/
def install (s : State n) (v : Fin n) (result : Mesh × List Effect) : State n where
  mesh := Function.update s.mesh v result.1
  flights := s.flights ++ flightsOf G s.mesh v result.2

inductive Event (n : ℕ) where
  /-- The addressee of flight `i` receives and drains it. -/
  | deliver (i : ℕ) (env : Env)
  /-- `loop()` dispatches the pending relay of a node. -/
  | dispatch (v : Fin n) (env : Env)

def step (s : State n) : Event n → Option (State n)
  | .deliver i env =>
      s.flights[i]?.map fun f =>
        install G { s with flights := s.flights.eraseIdx i } f.receiver
          ((s.mesh f.receiver).handleEntry env ⟨f.srcMac, f.msg⟩)
  | .dispatch v env => some (install G s v ((s.mesh v).dispatchRelay env))

/-- The master has just broadcast its beacon. -/
def launched (mesh : Fin n → Mesh) (root : Fin n) (env : Env) : State n :=
  install G ⟨mesh, []⟩ root ((mesh root).broadcastMasterBeacon env)

def system (mesh : Fin n → Mesh) (root : Fin n) (env : Env) : System (State n) (Event n) where
  Init := fun s => s = launched G mesh root env
  step := step G

end Network

/-- Nothing is in flight and nothing waits to be relayed. -/
def Done {n : ℕ} (s : State n) : Prop :=
  s.flights = [] ∧ ∀ v, (s.mesh v).relayPending = false

/-- The beacon that `broadcastMasterBeacon` builds.
SOURCE: Mesh.cpp:351-369, 693-697 -/
def beaconOf (m : Mesh) : MeshMessage :=
  { MeshMessage.zero with
    protoVersion := Config.protoVersion
    messageType := MeshMessageType.masterBeacon
    dataType := AdapterTypes.unknownAdapter
    originMacAddress := m.deviceMacAddress
    targetMacAddress := broadcastMac
    lastHopMacAddress := m.deviceMacAddress
    data := zeroPayload.set 0 1 byte0_lt
    epochNum := m.bootEpoch
    seqNum := m.txSeqNum + 1 }

/-- A network of one master in which nobody has a route: peer tables list the radio
neighbours, nobody trusts another master, and the beacon about to be sent is new to all. -/
structure Start {n : ℕ} (G : SimpleGraph (Fin n)) (root : Fin n) (mesh : Fin n → Mesh) :
    Prop where
  distinct : Function.Injective fun v => (mesh v).deviceMacAddress
  unicast : ∀ v, (mesh v).deviceMacAddress ≠ broadcastMac
  isMaster : ∀ v, (mesh v).isMaster = true ↔ v = root
  neighbours : ∀ v mac, mac ∈ (mesh v).peers.entries.map (·.mac) ↔
    ∃ w, G.Adj v w ∧ (mesh w).deviceMacAddress = mac
  noRoute : ∀ v, (mesh v).currentMaster.distance = 0xFF
  noRelay : ∀ v, (mesh v).relayPending = false
  oneMaster : ∀ v, (mesh v).hasMasterMac = true →
    (mesh v).knownMasterMac = (mesh root).deviceMacAddress
  unseen : ∀ v, Mesh.replayEntry (beaconOf (mesh root)) ∉ (mesh v).replayCache.slots

/-- The master's beacon is due, and the radio takes it. -/
structure Sends (m : Mesh) (env : Env) : Prop where
  due : ¬env.millis - m.lastBeaconMillis < Config.masterBeaconIntervalMs
  accepted : env.sendError broadcastMac = none

/-- The node has a route to the master. -/
def Reached {n : ℕ} (mesh : Fin n → Mesh) (root : Fin n) (s : State n) (v : Fin n) : Prop :=
  (s.mesh v).currentMaster.mac = (mesh root).deviceMacAddress ∧
    (s.mesh v).currentMaster.distance ≠ 0xFF

/-- Every node the hop limit allows for has a route to the master. -/
def Spreads {n : ℕ} (G : SimpleGraph (Fin n)) (mesh : Fin n → Mesh) (root : Fin n)
    (s : State n) : Prop :=
  ∀ v, 1 ≤ G.dist root v → G.dist root v ≤ Config.maxHops.toNat → Reached mesh root s v

/-! ## Frames of a beacon -/

/-- A due beacon is broadcast once, and takes a number. -/
theorem broadcastMasterBeacon_eq {m : Mesh} {env : Env} (h : Sends m env) :
    (m.broadcastMasterBeacon env).2 = [.espNowSend broadcastMac (beaconOf m)] ∧
      ∃ seq, (m.broadcastMasterBeacon env).1 =
        { m with lastBeaconMillis := env.millis, txSeqNum := seq } := by
  unfold Mesh.broadcastMasterBeacon
  rw [if_neg h.due]
  simp only [Mesh.espNowBroadcast, h.accepted]
  exact ⟨rfl, _, rfl⟩

/-- A drained beacon sends nothing at once.
SOURCE: Mesh.cpp:563-604 -/
theorem handleEntry_sentFrames {m : Mesh} {env : Env} {entry : RecvQueueEntry}
    (htype : entry.msg.messageType = MeshMessageType.masterBeacon) :
    sentFrames (m.handleEntry env entry).2 = [] := by
  cases hreceived : received m env entry with
  | none =>
      rw [handleEntry_of_dropped hreceived]
      rfl
  | some m' =>
      rw [handleEntry_of_received hreceived, dispatch_masterBeacon m' env htype]
      exact processMasterBeacon_sentFrames m' env entry.msg

/-! ## What a node knows of the beacon -/

section Node

variable (rootMac : MacAddress) (beacon : MeshMessage)

/-- The node has not processed the beacon. -/
structure Untouched (m : Mesh) : Prop where
  noRoute : m.currentMaster.distance = 0xFF
  noRelay : m.relayPending = false
  oneMaster : m.hasMasterMac = true → m.knownMasterMac = rootMac
  unseen : Mesh.replayEntry beacon ∉ m.replayCache.slots

/-- The node took its route straight from the master. -/
structure Routed (m : Mesh) : Prop where
  route : m.currentMaster = ⟨rootMac, 1, rootMac⟩
  relay : m.relayPending = true → m.relayPendingMsg.messageType = MeshMessageType.masterBeacon

/-- The frame as the master sent it. -/
structure FromRoot : Prop where
  messageType : beacon.messageType = MeshMessageType.masterBeacon
  protoVersion : beacon.protoVersion = Config.protoVersion
  hopCount : beacon.hopCount = 0
  origin : beacon.originMacAddress = rootMac
  lastHop : beacon.lastHopMacAddress = rootMac

variable {rootMac beacon}

/-- A beacon from the root gives the route to the root. -/
theorem FromRoot.updateRoute (h : FromRoot rootMac beacon) {m : Mesh}
    (hroute : m.currentMaster.distance = 0xFF ∨ m.currentMaster = ⟨rootMac, 1, rootMac⟩) :
    (m.updateRoute beacon).currentMaster = ⟨rootMac, 1, rootMac⟩ := by
  rcases hroute with hnone | hrouted
  · rw [updateRoute_of_better (.inl hnone), h.origin, h.hopCount, h.lastHop]
    rfl
  · have hkept : ¬BetterRoute m beacon := by
      rw [BetterRoute, hrouted, h.origin, h.hopCount]
      simp
    rw [updateRoute_of_not_better hkept, hrouted]

/-- The route and relay stages on a node with no route, or the route from the master. -/
theorem FromRoot.afterTrust (h : FromRoot rootMac beacon) {m : Mesh} (env : Env)
    (hroute : m.currentMaster.distance = 0xFF ∨ m.currentMaster = ⟨rootMac, 1, rootMac⟩)
    (hrelay : m.relayPending = true →
      m.relayPendingMsg.messageType = MeshMessageType.masterBeacon) :
    Routed rootMac (afterTrust m env beacon) := by
  refine ⟨(afterTrust_currentMaster m env beacon).trans (h.updateRoute hroute), ?_⟩
  by_cases hskip : m.isMaster = true ∨ m.isNewer beacon = false
  · rw [afterTrust_of_not_relayed hskip]
    exact hrelay
  · obtain ⟨hnode, hnew⟩ := not_or.mp hskip
    obtain ⟨time, heq⟩ := afterTrust_of_relayed (by simpa using hnode) (by simpa using hnew)
    rw [heq]
    intro _
    exact h.messageType

/-- An untouched node takes the beacon.
SOURCE: Mesh.cpp:831-921 -/
theorem Untouched.receive (hfrom : FromRoot rootMac beacon) {m : Mesh}
    (h : Untouched rootMac beacon m) (env : Env) (srcMac : MacAddress) :
    Routed rootMac (m.handleEntry env ⟨srcMac, beacon⟩).1 := by
  have hgate : ∃ m', received m env ⟨srcMac, beacon⟩ = some m' := by
    have hpass : ∃ m', m.passGate beacon = some m' := by
      unfold Mesh.passGate
      rw [if_neg (by simp [hfrom.protoVersion])]
      split
      · have hnew : (m.isReplay beacon).1 = false := by
          rw [Mesh.isReplay, BoundedFifo.Ring.check_of_notMem h.unseen]
        rw [hnew, if_neg (by simp)]
        exact ⟨_, rfl⟩
      · exact ⟨m, rfl⟩
    obtain ⟨m', hm'⟩ := hpass
    exact ⟨_, by rw [received, hm']; rfl⟩
  obtain ⟨m', hreceived⟩ := hgate
  have hframe := received_frame hreceived
  rw [handleEntry_of_received hreceived, dispatch_masterBeacon m' env hfrom.messageType]
  rcases processMasterBeacon_inv m' env beacon with
    ⟨hrejected, -⟩ | ⟨m₂, trusted, -, -, htrust, heq⟩
  · exfalso
    have hhop : ¬Config.maxHops ≤ beacon.hopCount := by
      rw [hfrom.hopCount]
      decide
    have hnone : m'.admitBeacon env beacon = none := by
      simpa [Mesh.acceptsBeacon, hhop] using hrejected
    obtain ⟨⟨hhas, hother, -⟩, -⟩ := admitBeacon_eq_none_iff.mp hnone
    apply hother
    rw [hframe] at hhas ⊢
    rw [hfrom.origin]
    exact (h.oneMaster hhas).symm
  · rw [heq]
    have hsame : m₂.currentMaster = m.currentMaster ∧ m₂.relayPending = m.relayPending := by
      cases htrust with
      | _ =>
          rw [hframe]
          exact ⟨rfl, rfl⟩
    apply hfrom.afterTrust env
    · left
      rw [hsame.1]
      exact h.noRoute
    · intro hpending
      rw [hsame.2, h.noRelay] at hpending
      cases hpending

/-- A routed node stays routed. -/
theorem Routed.receive (hfrom : FromRoot rootMac beacon) {m : Mesh} (h : Routed rootMac m)
    (env : Env) (srcMac : MacAddress) :
    Routed rootMac (m.handleEntry env ⟨srcMac, beacon⟩).1 := by
  cases hreceived : received m env ⟨srcMac, beacon⟩ with
  | none =>
      rw [handleEntry_of_dropped hreceived]
      exact h
  | some m' =>
      have hframe := received_frame hreceived
      have h' : Routed rootMac m' := by
        rw [hframe]
        exact ⟨h.route, h.relay⟩
      rw [handleEntry_of_received hreceived, dispatch_masterBeacon m' env hfrom.messageType]
      rcases processMasterBeacon_inv m' env beacon with ⟨-, heq⟩ | ⟨m₂, trusted, -, -, htrust, heq⟩
      · rw [heq]
        exact h'
      · rw [heq]
        have hsame : Routed rootMac m₂ := by
          cases htrust with
          | _ => exact ⟨h'.route, h'.relay⟩
        exact hfrom.afterTrust env (.inr hsame.route) hsame.relay

end Node

/-- A master never schedules a relay. -/
theorem master_receive {m : Mesh} {env : Env} {entry : RecvQueueEntry}
    (htype : entry.msg.messageType = MeshMessageType.masterBeacon) (hmaster : m.isMaster = true)
    (hrelay : m.relayPending = false) : (m.handleEntry env entry).1.relayPending = false := by
  cases hreceived : received m env entry with
  | none =>
      rw [handleEntry_of_dropped hreceived]
      exact hrelay
  | some m' =>
      have hframe := received_frame hreceived
      have hmaster' : m'.isMaster = true := by
        rw [hframe]
        exact hmaster
      have hrelay' : m'.relayPending = false := by
        rw [hframe]
        exact hrelay
      rw [handleEntry_of_received hreceived, dispatch_masterBeacon m' env htype]
      rcases processMasterBeacon_inv m' env entry.msg with
        ⟨-, heq⟩ | ⟨m₂, trusted, -, -, htrust, heq⟩
      · rw [heq]
        exact hrelay'
      · have hsame : m₂.isMaster = true ∧ m₂.relayPending = false := by
          cases htrust with
          | _ => exact ⟨hmaster', hrelay'⟩
        rw [heq, afterTrust_of_not_relayed (.inl hsame.1)]
        exact hsame.2

/-! ## The invariant -/

section Runs

variable {n : ℕ} {G : SimpleGraph (Fin n)} [DecidableRel G.Adj] {mesh : Fin n → Mesh}
  {root : Fin n}

/-- Only the master's neighbours have processed the beacon; what else is in flight is on its
way back to the master; no neighbour is forgotten. -/
structure Spread (G : SimpleGraph (Fin n)) (mesh : Fin n → Mesh) (root : Fin n) (s : State n) :
    Prop where
  macs : ∀ v, (s.mesh v).deviceMacAddress = (mesh v).deviceMacAddress
  master : (s.mesh root).isMaster = true ∧ (s.mesh root).relayPending = false
  flights : ∀ f ∈ s.flights, f.msg.messageType = MeshMessageType.masterBeacon ∧
    (f.receiver = root ∨ G.Adj root f.receiver ∧ f.msg = beaconOf (mesh root))
  node : ∀ v, v ≠ root →
    Untouched (mesh root).deviceMacAddress (beaconOf (mesh root)) (s.mesh v) ∨
      G.Adj root v ∧ Routed (mesh root).deviceMacAddress (s.mesh v)
  coming : ∀ v, G.Adj root v →
    Routed (mesh root).deviceMacAddress (s.mesh v) ∨ ∃ f ∈ s.flights, f.receiver = v

/-- The root's own beacon comes from the root. -/
theorem fromRoot_beaconOf (m : Mesh) : FromRoot m.deviceMacAddress (beaconOf m) :=
  ⟨rfl, rfl, rfl, rfl, rfl⟩

/-- A frame in flight goes to a neighbour it was addressed to. -/
theorem mem_flightsOf {f : Flight n} {current : Fin n → Mesh} {v : Fin n} {effects : List Effect}
    (h : f ∈ flightsOf G current v effects) :
    ∃ target, (target, f.msg) ∈ sentFrames effects ∧ G.Adj v f.receiver ∧
      (target = broadcastMac ∨ (current f.receiver).deviceMacAddress = target) := by
  obtain ⟨⟨target, msg⟩, hsent, hf⟩ := List.mem_flatMap.mp h
  obtain ⟨w, hw, rfl⟩ := List.mem_map.mp hf
  have haddressed := (List.mem_filter.mp hw).2
  simp only [decide_eq_true_eq] at haddressed
  exact ⟨target, hsent, haddressed.1, haddressed.2⟩

/-- Who sends nothing puts nothing in flight. -/
theorem flightsOf_of_sentFrames_nil {current : Fin n → Mesh} {v : Fin n} {effects : List Effect}
    (h : sentFrames effects = []) : flightsOf G current v effects = [] := by
  rw [flightsOf, h]
  rfl

/-- The network after the master's broadcast. -/
theorem spread_launched (hstart : Start G root mesh) {env : Env} (hsends : Sends (mesh root) env) :
    Spread G mesh root (launched G mesh root env) := by
  obtain ⟨hframes, seq, hmesh⟩ := broadcastMasterBeacon_eq hsends
  have hroot : (launched G mesh root env).mesh root =
      { mesh root with lastBeaconMillis := env.millis, txSeqNum := seq } := by
    rw [← hmesh]
    exact Function.update_self root _ _
  have hother : ∀ v, v ≠ root → (launched G mesh root env).mesh v = mesh v :=
    fun v hv => Function.update_of_ne hv _ _
  have hflights : (launched G mesh root env).flights =
      flightsOf G mesh root [.espNowSend broadcastMac (beaconOf (mesh root))] := by
    rw [← hframes]
    exact List.nil_append _
  refine ⟨?_, ?_, ?_, ?_, ?_⟩
  · intro v
    by_cases hv : v = root
    · rw [hv, hroot]
    · rw [hother v hv]
  · rw [hroot]
    exact ⟨(hstart.isMaster root).mpr rfl, hstart.noRelay root⟩
  · intro f hf
    rw [hflights] at hf
    obtain ⟨target, hsent, hadj, -⟩ := mem_flightsOf hf
    obtain ⟨-, hmsg⟩ : target = broadcastMac ∧ f.msg = beaconOf (mesh root) :=
      Prod.mk.inj (List.mem_singleton.mp hsent)
    rw [hmsg]
    exact ⟨rfl, .inr ⟨hadj, rfl⟩⟩
  · intro v hv
    rw [hother v hv]
    exact .inl ⟨hstart.noRoute v, hstart.noRelay v, hstart.oneMaster v, hstart.unseen v⟩
  · intro v hadj
    right
    rw [hflights]
    refine ⟨⟨v, (mesh root).deviceMacAddress, beaconOf (mesh root)⟩, ?_, rfl⟩
    refine List.mem_flatMap.mpr ⟨(broadcastMac, beaconOf (mesh root)), List.mem_cons_self, ?_⟩
    refine List.mem_map.mpr ⟨v, List.mem_filter.mpr ⟨List.mem_finRange v, ?_⟩, rfl⟩
    simp [hadj]

/-- A node other than the addressee of a delivered flight keeps its own flight. -/
theorem mem_eraseIdx_of_receiver {flights : List (Flight n)} {i : ℕ} {f g : Flight n}
    (hi : flights[i]? = some f) (hg : g ∈ flights) (hne : g.receiver ≠ f.receiver) :
    g ∈ flights.eraseIdx i := by
  obtain ⟨j, hj, rfl⟩ := List.mem_iff_getElem.mp hg
  refine List.mem_eraseIdx_iff_getElem.mpr ⟨j, hj, ?_, rfl⟩
  rintro rfl
  rw [List.getElem?_eq_getElem hj] at hi
  exact hne (congrArg Flight.receiver (Option.some.inj hi))

omit [DecidableRel G.Adj] in
/-- Replacing one node keeps the invariant when the node's own part of it is kept, and when no
other node's flight is lost. -/
theorem Spread.replace {s : State n} (h : Spread G mesh root s) {v : Fin n} {m' : Mesh}
    {flights : List (Flight n)}
    (hmac : m'.deviceMacAddress = (s.mesh v).deviceMacAddress)
    (hmaster : v = root → m'.isMaster = true ∧ m'.relayPending = false)
    (hnode : v ≠ root →
      Untouched (mesh root).deviceMacAddress (beaconOf (mesh root)) m' ∨
        G.Adj root v ∧ Routed (mesh root).deviceMacAddress m')
    (hflights : ∀ f ∈ flights, f.msg.messageType = MeshMessageType.masterBeacon ∧
      (f.receiver = root ∨ G.Adj root f.receiver ∧ f.msg = beaconOf (mesh root)))
    (hcoming : G.Adj root v →
      Routed (mesh root).deviceMacAddress m' ∨ ∃ f ∈ flights, f.receiver = v)
    (hothers : ∀ f ∈ s.flights, f.receiver ≠ v → f ∈ flights) :
    Spread G mesh root ⟨Function.update s.mesh v m', flights⟩ := by
  have hself : (⟨Function.update s.mesh v m', flights⟩ : State n).mesh v = m' :=
    Function.update_self v m' s.mesh
  have hother : ∀ w, w ≠ v → (⟨Function.update s.mesh v m', flights⟩ : State n).mesh w = s.mesh w :=
    fun w hw => Function.update_of_ne hw m' s.mesh
  refine ⟨?_, ?_, hflights, ?_, ?_⟩
  · intro w
    by_cases hw : w = v
    · subst hw
      rw [hself, hmac]
      exact h.macs w
    · rw [hother w hw]
      exact h.macs w
  · by_cases hroot : root = v
    · rw [hroot, hself]
      exact hmaster hroot.symm
    · rw [hother root hroot]
      exact h.master
  · intro w hw
    by_cases hwv : w = v
    · subst hwv
      rw [hself]
      exact hnode hw
    · rw [hother w hwv]
      exact h.node w hw
  · intro w hadj
    by_cases hwv : w = v
    · subst hwv
      rw [hself]
      exact hcoming hadj
    · rw [hother w hwv]
      rcases h.coming w hadj with hrouted | ⟨f, hf, hreceiver⟩
      · exact .inl hrouted
      · exact .inr ⟨f, hothers f hf (by rw [hreceiver]; exact hwv), hreceiver⟩

/-- The delivery of one flight.
SOURCE: Mesh.cpp:563-604 -/
theorem Spread.deliver {s : State n} (h : Spread G mesh root s) {i : ℕ} {f : Flight n}
    (hi : s.flights[i]? = some f) (env : Env) :
    Spread G mesh root (install G { s with flights := s.flights.eraseIdx i } f.receiver
      ((s.mesh f.receiver).handleEntry env ⟨f.srcMac, f.msg⟩)) := by
  obtain ⟨htype, hto⟩ := h.flights f (List.mem_of_getElem? hi)
  have hsilent := @handleEntry_sentFrames (s.mesh f.receiver) env ⟨f.srcMac, f.msg⟩ htype
  have hsame := handleEntry_sameNode (s.mesh f.receiver) env ⟨f.srcMac, f.msg⟩
  unfold install
  rw [flightsOf_of_sentFrames_nil hsilent, List.append_nil]
  have hrouted : f.receiver ≠ root → G.Adj root f.receiver ∧
      Routed (mesh root).deviceMacAddress
        ((s.mesh f.receiver).handleEntry env ⟨f.srcMac, f.msg⟩).1 := by
    intro hne
    obtain ⟨hadj, hmsg⟩ := hto.resolve_left hne
    refine ⟨hadj, ?_⟩
    rw [hmsg]
    rcases h.node f.receiver hne with huntouched | ⟨-, hrouted⟩
    · exact huntouched.receive (fromRoot_beaconOf _) env f.srcMac
    · exact hrouted.receive (fromRoot_beaconOf _) env f.srcMac
  refine h.replace hsame.deviceMacAddress ?_ ?_ ?_ ?_ ?_
  · intro hroot
    rw [hroot] at hsame ⊢
    exact ⟨hsame.isMaster.trans h.master.1, master_receive htype h.master.1 h.master.2⟩
  · exact fun hne => .inr (hrouted hne)
  · exact fun g hg => h.flights g (List.mem_of_mem_eraseIdx hg)
  · intro hadj
    exact .inl (hrouted hadj.ne').2
  · exact fun g hg hne => mem_eraseIdx_of_receiver hi hg hne

/-- The dispatch of one node's pending relay: it goes to the master.
SOURCE: Mesh.cpp:1099-1105 -/
theorem Spread.dispatch (hstart : Start G root mesh) {s : State n} (h : Spread G mesh root s)
    (v : Fin n) (env : Env) :
    Spread G mesh root (install G s v ((s.mesh v).dispatchRelay env)) := by
  have hkept : ∀ {P : Mesh → Prop}, P (s.mesh v) → P { s.mesh v with relayPending := false } →
      P ((s.mesh v).dispatchRelay env).1 := by
    intro P hsame hcleared
    rcases dispatchRelay_fst (s.mesh v) env with heq | heq
    · rwa [heq]
    · rwa [heq]
  have hrouted : Routed (mesh root).deviceMacAddress (s.mesh v) →
      Routed (mesh root).deviceMacAddress ((s.mesh v).dispatchRelay env).1 := by
    intro hr
    refine hkept hr ⟨hr.route, fun hpending => ?_⟩
    cases hpending
  refine h.replace ?_ ?_ ?_ ?_ ?_ ?_
  · exact @hkept (fun m => m.deviceMacAddress = (s.mesh v).deviceMacAddress) rfl rfl
  · rintro rfl
    exact @hkept (fun m => m.isMaster = true ∧ m.relayPending = false) h.master ⟨h.master.1, rfl⟩
  · intro hv
    rcases h.node v hv with hu | ⟨hadj, hr⟩
    · exact .inl (hkept hu ⟨hu.noRoute, rfl, hu.oneMaster, hu.unseen⟩)
    · exact .inr ⟨hadj, hrouted hr⟩
  · intro f hf
    rcases List.mem_append.mp hf with hold | hnew
    · exact h.flights f hold
    · obtain ⟨target, hsent, -, haddress⟩ := mem_flightsOf hnew
      obtain ⟨hpending, hframe⟩ := dispatchRelay_frames hsent
      have hv : v ≠ root := by
        rintro rfl
        rw [h.master.2] at hpending
        cases hpending
      rcases h.node v hv with hu | ⟨-, hr⟩
      · rw [hu.noRelay] at hpending
        cases hpending
      · obtain ⟨htarget, hmsg⟩ := Prod.mk.inj hframe
        rw [hr.route] at htarget
        refine ⟨hmsg ▸ hr.relay hpending, .inl ?_⟩
        rcases haddress with hbroadcast | hmac
        · exact absurd (htarget.symm.trans hbroadcast) (hstart.unicast root)
        · apply hstart.distinct
          exact (h.macs f.receiver).symm.trans (hmac.trans htarget)
  · intro hadj
    rcases h.coming v hadj with hr | ⟨f, hf, hreceiver⟩
    · exact .inl (hrouted hr)
    · exact .inr ⟨f, List.mem_append_left _ hf, hreceiver⟩
  · exact fun f hf _ => List.mem_append_left _ hf

/-- The invariant holds in every reachable state. -/
theorem spread_run (hstart : Start G root mesh) {env : Env} (hsends : Sends (mesh root) env)
    {s : State n} (h : (system G mesh root env).Reachable s) : Spread G mesh root s := by
  refine h.invariant ?_ ?_
  · rintro s rfl
    exact spread_launched hstart hsends
  · intro s e s' hs hstep
    cases e with
    | deliver i env' =>
        obtain ⟨f, hi, rfl⟩ := Option.map_eq_some_iff.mp hstep
        exact hs.deliver hi env'
    | dispatch v env' =>
        cases hstep
        exact hs.dispatch hstart v env'

/-! ## Result -/

/-- When all is quiet, exactly the master's neighbours have a route. -/
theorem reached_iff_adjacent (hstart : Start G root mesh) {env : Env}
    (hsends : Sends (mesh root) env) {s : State n} (h : (system G mesh root env).Reachable s)
    (hdone : Done s) {v : Fin n} (hv : v ≠ root) : Reached mesh root s v ↔ G.Adj root v := by
  have hspread := spread_run hstart hsends h
  constructor
  · intro hreached
    rcases hspread.node v hv with huntouched | ⟨hadj, -⟩
    · exact absurd huntouched.noRoute hreached.2
    · exact hadj
  · intro hadj
    rcases hspread.coming v hadj with hrouted | ⟨f, hf, -⟩
    · rw [Reached, hrouted.route]
      exact ⟨rfl, (by decide : (1 : UInt8) ≠ 0xFF)⟩
    · rw [hdone.1] at hf
      cases hf

/-- **A beacon reaches every node within the hop limit exactly when all of them are the
master's neighbours.**
SOURCE: Mesh.cpp:337-349, 639-665, 831-921, 1091-1111 -/
theorem beacon_spreads_iff (hstart : Start G root mesh) {env : Env}
    (hsends : Sends (mesh root) env) {s : State n} (h : (system G mesh root env).Reachable s)
    (hdone : Done s) :
    Spreads G mesh root s ↔
      ∀ v, 1 ≤ G.dist root v → G.dist root v ≤ Config.maxHops.toNat → G.dist root v = 1 := by
  have hne : ∀ v, 1 ≤ G.dist root v → v ≠ root := by
    rintro v hv rfl
    rw [SimpleGraph.dist_self] at hv
    omega
  constructor
  · intro hspreads v hlo hhi
    have hreached := hspreads v hlo hhi
    rw [SimpleGraph.dist_eq_one_iff_adj]
    exact (reached_iff_adjacent hstart hsends h hdone (hne v hlo)).mp hreached
  · intro hall v hlo hhi
    apply (reached_iff_adjacent hstart hsends h hdone (hne v hlo)).mpr
    rw [← SimpleGraph.dist_eq_one_iff_adj]
    exact hall v hlo hhi

end Runs

/-! ## A chain of three nodes -/

/-- Node 0 reaches node 1, and node 1 reaches node 2. -/
def chain : SimpleGraph (Fin 3) where
  Adj v w := v.val + 1 = w.val ∨ w.val + 1 = v.val
  symm := ⟨fun _ _ h => h.symm⟩
  loopless := ⟨fun v h => by rcases h with h | h <;> omega⟩

instance : DecidableRel chain.Adj := fun v w =>
  inferInstanceAs (Decidable (v.val + 1 = w.val ∨ w.val + 1 = v.val))

def chainMac (v : Fin 3) : MacAddress := Vector.replicate 6 (UInt8.ofNat (v.val + 1))

/-- The neighbours of a node, not enrolled. -/
def chainPeers (v : Fin 3) : PeerTable where
  entries := ((List.finRange 3).filter fun w => chain.Adj v w).map fun w =>
    ⟨chainMac w, zeroKey, 0⟩
  bounded := by
    rw [List.length_map]
    refine (List.length_filter_le _ _).trans ?_
    simp [Config.maxPeers]

/-- Freshly booted nodes; node 0 is the master. -/
def chainMesh (v : Fin 3) : Mesh :=
  { Mesh.new with
    deviceMacAddress := chainMac v
    peers := chainPeers v
    isMaster := v = 0
    bootEpoch := 1 }

/-- Five seconds after boot. -/
def laterEnv : Env := { quietEnv with millis := 5000 }

/-- The chain is a start. -/
theorem start_chain : Start chain 0 chainMesh where
  distinct := by
    intro v w h
    revert h
    revert v w
    decide
  unicast := by decide
  isMaster := by simp [chainMesh]
  neighbours := by
    intro v mac
    simp [chainMesh, chainPeers, chainMac]
  noRoute := fun _ => rfl
  noRelay := fun _ => rfl
  oneMaster := by
    intro v h
    cases h
  unseen := by
    intro v
    simp only [chainMesh, Mesh.new, zeroReplayCache]
    rw [Vector.mem_replicate]
    rintro ⟨-, h⟩
    exact absurd h (by decide)

/-- The root of the chain has a beacon due. -/
theorem sends_chain : Sends (chainMesh 0) laterEnv :=
  ⟨by decide, rfl⟩

/-- Node 1 drains the beacon, dispatches its relay, and the master drains it. -/
theorem chain_run :
    ∃ s, (system chain chainMesh 0 laterEnv).runFrom (launched chain chainMesh 0 laterEnv)
        [.deliver 0 laterEnv, .dispatch 1 laterEnv, .deliver 0 laterEnv] = some s ∧
      Done s ∧ (s.mesh 2).currentMaster.distance = 0xFF := by
  have hrun : ∃ s, (system chain chainMesh 0 laterEnv).runFrom
      (launched chain chainMesh 0 laterEnv)
        [.deliver 0 laterEnv, .dispatch 1 laterEnv, .deliver 0 laterEnv] = some s ∧
      s.flights = [] ∧ (s.mesh 0).relayPending = false ∧ (s.mesh 1).relayPending = false ∧
      (s.mesh 2).relayPending = false ∧ (s.mesh 2).currentMaster.distance = 0xFF :=
    ⟨_, rfl, rfl, rfl, rfl, rfl, rfl⟩
  obtain ⟨s, hs, hflights, h0, h1, h2, hroute⟩ := hrun
  refine ⟨s, hs, ⟨hflights, fun v => ?_⟩, hroute⟩
  match v with
  | 0 => exact h0
  | 1 => exact h1
  | 2 => exact h2

/-- In the chain the theorem's condition decides the complete run. -/
theorem beacon_spreads_chain :
    ∃ s, (system chain chainMesh 0 laterEnv).runFrom (launched chain chainMesh 0 laterEnv)
        [.deliver 0 laterEnv, .dispatch 1 laterEnv, .deliver 0 laterEnv] = some s ∧
      (Spreads chain chainMesh 0 s ↔ ∀ v, 1 ≤ chain.dist 0 v →
        chain.dist 0 v ≤ Config.maxHops.toNat → chain.dist 0 v = 1) := by
  obtain ⟨s, hrun, hdone, -⟩ := chain_run
  have hreach : (system chain chainMesh 0 laterEnv).Reachable s :=
    System.Reachable.runFrom (.init rfl) hrun
  exact ⟨s, hrun, beacon_spreads_iff start_chain sends_chain hreach hdone⟩

/-- The node two hops away never hears of the master.
SOURCE: Mesh.cpp:654-659 -/
theorem not_beacon_spreads_chain :
    ∃ s, (system chain chainMesh 0 laterEnv).runFrom (launched chain chainMesh 0 laterEnv)
        [.deliver 0 laterEnv, .dispatch 1 laterEnv, .deliver 0 laterEnv] = some s ∧
      Done s ∧ ¬Spreads chain chainMesh 0 s := by
  obtain ⟨s, hrun, hdone, hunreached⟩ := chain_run
  refine ⟨s, hrun, hdone, fun hspreads => ?_⟩
  have h01 : chain.Adj 0 1 := .inl rfl
  have h12 : chain.Adj 1 2 := .inl rfl
  have hnear : chain.dist 0 2 ≤ Config.maxHops.toNat := by
    have hle := SimpleGraph.dist_le (h01.toWalk.append h12.toWalk)
    have hlength : (h01.toWalk.append h12.toWalk).length = 2 := rfl
    rw [hlength] at hle
    exact hle.trans (by decide)
  have hfar : 1 ≤ chain.dist 0 2 :=
    (h01.reachable.trans h12.reachable).pos_dist_of_ne (by decide)
  exact (hspreads 2 hfar hnear).2 hunreached

end BeaconSpread

end LatticeNodes.Analysis
