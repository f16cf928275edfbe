import LatticeNodes.Analysis.PeerTables
import LatticeNodes.Analysis.RouteStages
import LatticeNodes.Analysis.TrustAnchor

/-!
# Whether a beacon heals the route

A node can send towards the master while its next hop is a registered peer that was heard of
lately (`Live`).  A beacon renews the time of the peer it came from and the freshness of the
master, but replaces the route only with a shorter one: `route_heals_iff` says when a usable
route is left after it.
-/

set_option autoImplicit false

namespace LatticeNodes.Analysis

open LatticeNodes.Program TransitionSystem WrappingClock TrustAnchor

/-! ## Usable routes -/

/-- A registered peer with this address, another node than this one, was heard of lately.
SOURCE: Mesh.cpp:331-349 -/
def Live (m : Mesh) (env : Env) (mac : MacAddress) : Prop :=
  mac ≠ m.deviceMacAddress ∧ ∃ p, m.peers.findPeer mac = some p ∧
    env.millis - p.lastSeenMillis < Config.stalePeerThresholdMs

/-- A peer is in range when it was heard of lately.
SOURCE: Mesh.cpp:331-336 -/
theorem isPeerInRange_iff {m : Mesh} {env : Env} {mac : MacAddress} :
    m.isPeerInRange env mac = true ↔ ∃ p, m.peers.findPeer mac = some p ∧
      env.millis - p.lastSeenMillis < Config.stalePeerThresholdMs := by
  unfold Mesh.isPeerInRange
  cases m.peers.findPeer mac with
  | none => simp
  | some p => simp

/-- The node has a way to the master exactly when it has a route over a live peer.
SOURCE: Mesh.cpp:337-349 -/
theorem findNextHopToMaster_isSome_iff {m : Mesh} {env : Env} :
    (m.findNextHopToMaster env).isSome = true ↔
      m.currentMaster.distance ≠ 0xFF ∧ Live m env m.currentMaster.nextHop := by
  unfold Mesh.findNextHopToMaster
  by_cases hfar : m.currentMaster.distance = 0xFF
  · simp [hfar]
  · rw [if_neg hfar, List.find?_isSome]
    simp only [decide_eq_true_eq, ne_eq, hfar, not_false_eq_true, true_and]
    constructor
    · rintro ⟨p, -, hmac, hrange, hother⟩
      rw [hmac] at hrange hother
      exact ⟨hother, isPeerInRange_iff.mp hrange⟩
    · rintro ⟨hother, p, hfind, hrecent⟩
      obtain ⟨hmem, hmac⟩ := mem_of_findPeer hfind
      refine ⟨p, hmem, hmac, ?_, ?_⟩
      · rw [hmac]
        exact isPeerInRange_iff.mpr ⟨p, hfind, hrecent⟩
      · rw [hmac]
        exact hother

/-! ## What an accepted beacon leaves -/

/-- Receiving a frame renews the record of who sent it.
SOURCE: Mesh.cpp:818-829 -/
theorem received_peers {m m' : Mesh} {env : Env} {entry : RecvQueueEntry}
    (h : received m env entry = some m') :
    m'.peers = (m.updatePeerLastSeen env entry.srcMac).peers := by
  obtain ⟨m₁, hgate, rfl⟩ := Option.map_eq_some_iff.mp h
  rw [passGate_frame hgate]
  unfold Mesh.updatePeerLastSeen
  split <;> rfl

/-- After an accepted beacon the source has been seen, and the route stage has run.
SOURCE: Mesh.cpp:563-604, 831-897 -/
theorem handleEntry_of_accepts {m : Mesh} {env : Env} {entry : RecvQueueEntry}
    (h : accepts m env entry = true) :
    (m.handleEntry env entry).1.peers = (m.updatePeerLastSeen env entry.srcMac).peers ∧
      (m.handleEntry env entry).1.currentMaster = (m.updateRoute entry.msg).currentMaster ∧
        entry.msg.hopCount < Config.maxHops := by
  cases hreceived : received m env entry with
  | none =>
      rw [accepts, hreceived] at h
      cases h
  | some m' =>
      rw [accepts, hreceived, Bool.and_eq_true, beq_iff_eq] at h
      obtain ⟨htype, haccepted⟩ := h
      have hroute : m'.currentMaster = m.currentMaster := by
        rw [received_frame hreceived]
      rw [handleEntry_of_received hreceived]
      refine ⟨(dispatch_handlerKept m' env entry.msg).peers.trans (received_peers hreceived),
        ?_, ?_⟩
      · rw [dispatch_masterBeacon m' env htype, processMasterBeacon_currentMaster,
          if_pos haccepted]
        exact updateRoute_currentMaster_congr entry.msg hroute
      · rw [Mesh.acceptsBeacon, Bool.and_eq_true, Bool.not_eq_true', decide_eq_false_iff_not,
          UInt8.not_le] at haccepted
        exact haccepted.1

/-- A message that is no accepted beacon leaves the route alone.
SOURCE: Mesh.cpp:563-604 -/
theorem route_of_refused {m : Mesh} {env : Env} {entry : RecvQueueEntry}
    (hrefused : accepts m env entry = false) :
    (m.handleEntry env entry).1.currentMaster = m.currentMaster := by
  cases hreceived : received m env entry with
  | none => rw [handleEntry_of_dropped hreceived]
  | some m' =>
      have hroute : m'.currentMaster = m.currentMaster := by
        rw [received_frame hreceived]
      rw [accepts, hreceived] at hrefused
      rw [handleEntry_of_received hreceived, ← hroute]
      by_cases htype : entry.msg.messageType = MeshMessageType.masterBeacon
      · simp only [htype, beq_self_eq_true, Bool.true_and] at hrefused
        rw [dispatch_masterBeacon m' env htype, processMasterBeacon_currentMaster, hrefused,
          if_neg Bool.false_ne_true]
      · exact dispatch_currentMaster_of_ne m' env htype

section Healing

variable {m : Mesh} {env env' : Env} {entry : RecvQueueEntry} {peer : PeerInfo}

/-- The peer that was heard is live afterwards; of the others nothing has changed.
SOURCE: Mesh.cpp:818-829 -/
theorem live_after (haccepted : accepts m env entry = true) (hpeer : peer ∈ m.peers.entries)
    (hsrc : entry.srcMac = peer.mac) (hother : peer.mac ≠ m.deviceMacAddress)
    (hsoon : env'.millis - env.millis < Config.stalePeerThresholdMs) (mac : MacAddress) :
    Live (m.handleEntry env entry).1 env' mac ↔ mac = peer.mac ∨ Live m env' mac := by
  have hmac : (m.handleEntry env entry).1.deviceMacAddress = m.deviceMacAddress :=
    (handleEntry_sameNode m env entry).deviceMacAddress
  have hfind : (m.handleEntry env entry).1.peers.findPeer mac =
      if mac = peer.mac then
        (m.peers.findPeer mac).map fun p => { p with lastSeenMillis := env.millis }
      else m.peers.findPeer mac := by
    rw [(handleEntry_of_accepts haccepted).1, hsrc, Mesh.updatePeerLastSeen, if_neg hother]
    exact findPeer_modify m.peers peer.mac mac fun p => rfl
  rw [Live, hmac, hfind]
  by_cases hsame : mac = peer.mac
  · subst hsame
    obtain ⟨q, hq⟩ := Option.isSome_iff_exists.mp (findPeer_isSome_iff.mpr ⟨peer, hpeer, rfl⟩)
    rw [if_pos rfl, hq]
    refine ⟨fun _ => .inl rfl, fun _ => ⟨hother, _, rfl, hsoon⟩⟩
  · rw [if_neg hsame]
    exact ⟨.inr, fun h => h.resolve_left hsame⟩

/-- **A route is left after the beacon exactly when the beacon's way replaces the route, or the
route goes over the peer that was heard, or over another live one.**
SOURCE: Mesh.cpp:337-349, 884-897 -/
theorem findNextHopToMaster_after (haccepted : accepts m env entry = true)
    (hpeer : peer ∈ m.peers.entries) (hsrc : entry.srcMac = peer.mac)
    (hlast : entry.msg.lastHopMacAddress = peer.mac) (hother : peer.mac ≠ m.deviceMacAddress)
    (hsoon : env'.millis - env.millis < Config.stalePeerThresholdMs) :
    ((m.handleEntry env entry).1.findNextHopToMaster env').isSome = true ↔
      BetterRoute m entry.msg ∨ m.currentMaster.nextHop = peer.mac ∨
        Live m env' m.currentMaster.nextHop := by
  obtain ⟨-, hroute, hhop⟩ := handleEntry_of_accepts haccepted
  rw [findNextHopToMaster_isSome_iff, live_after haccepted hpeer hsrc hother hsoon, hroute]
  by_cases hbetter : BetterRoute m entry.msg
  · rw [updateRoute_of_better hbetter]
    exact ⟨fun _ => .inl hbetter, fun _ => ⟨hopCount_succ_ne hhop, .inl hlast⟩⟩
  · have hset : m.currentMaster.distance ≠ 0xFF := fun hfar => hbetter (.inl hfar)
    rw [updateRoute_of_not_better hbetter]
    exact ⟨fun h => .inr h.2, fun h => ⟨hset, h.resolve_left hbetter⟩⟩

end Healing

namespace RouteHealing

/-! ## Result -/

/-- The readings of a call at one time. -/
def envNow (time : ℕ) : Env := envAt time time quietEnv

/-- A received frame is a step of the trust machine. -/
theorem receive_mesh {s s' : State} {start finish : ℕ} {env : Env} {entry : RecvQueueEntry}
    (hstep : system.step s (.receive start finish env entry) = some s') :
    start ≤ finish ∧ s'.mesh = (s.mesh.handleEntry (envAt start finish env) entry).1 := by
  change step s (.receive start finish env entry) = some s' at hstep
  simp only [TrustAnchor.step, Option.ite_none_right_eq_some, Option.some.injEq] at hstep
  obtain ⟨⟨-, hfinish⟩, rfl⟩ := hstep
  exact ⟨hfinish, rfl⟩

/-- A clock that was read less than eight seconds later. -/
theorem recent_of_lt {start later : ℕ} (h : start ≤ later)
    (hsoon : later < start + Config.stalePeerThresholdMs.toNat) :
    reading later - reading start < Config.stalePeerThresholdMs := by
  have helapsed := elapsed_le h
  rw [UInt32.lt_iff_toNat_lt]
  omega

/-- **After a beacon from a registered peer a usable route is left exactly when the beacon's way
replaces the route, or the current next hop is that peer or another live one.**
SOURCE: Mesh.cpp:337-349, 818-829, 884-897 -/
theorem route_heals_iff {s s' : State} {start finish later : ℕ} {env : Env}
    {entry : RecvQueueEntry} {peer : PeerInfo}
    (hstep : system.step s (.receive start finish env entry) = some s')
    (haccepted : accepts s.mesh (envAt start finish env) entry = true)
    (hpeer : peer ∈ s.mesh.peers.entries) (hsrc : entry.srcMac = peer.mac)
    (hlast : entry.msg.lastHopMacAddress = peer.mac)
    (hother : peer.mac ≠ s.mesh.deviceMacAddress) (hafter : finish ≤ later)
    (hsoon : later < start + Config.stalePeerThresholdMs.toNat) :
    (s'.mesh.findNextHopToMaster (envNow later)).isSome = true ↔
      BetterRoute s.mesh entry.msg ∨ s.mesh.currentMaster.nextHop = peer.mac ∨
        Live s.mesh (envNow later) s.mesh.currentMaster.nextHop := by
  obtain ⟨hfinish, hmesh⟩ := receive_mesh hstep
  rw [hmesh]
  apply findNextHopToMaster_after haccepted hpeer hsrc hlast hother
  exact recent_of_lt (hfinish.trans hafter) hsoon

/-! ## A short route that died -/

def masterMac : MacAddress := Vector.replicate 6 1
def relayMac : MacAddress := Vector.replicate 6 2

/-- A node with the master and a relaying node among its peers. -/
def healingNode : State where
  mesh :=
    { Mesh.new with
      deviceMacAddress := Vector.replicate 6 3
      peers := (PeerTable.empty.appendPeer ⟨masterMac, zeroKey, 0⟩).appendPeer
        ⟨relayMac, zeroKey, 0⟩ }
  clock := 0
  lastAccepted := none

/-- A beacon of the master, heard from a node at the given distance of it. -/
def beaconFrom (mac : MacAddress) (hopCount : UInt8) (seqNum : UInt16) : RecvQueueEntry where
  srcMac := mac
  msg :=
    { MeshMessage.zero with
      protoVersion := Config.protoVersion
      messageType := MeshMessageType.masterBeacon
      originMacAddress := masterMac
      targetMacAddress := broadcastMac
      lastHopMacAddress := mac
      hopCount := hopCount
      epochNum := 1
      seqNum := seqNum }

/-- The healing node is a start. -/
theorem start_healingNode : Start healingNode where
  unheard := rfl
  lastAccepted := rfl
  secondary := by
    intro hsecondary
    cases hsecondary

/-- The master is heard once; 8.5 s later its next beacon comes over the relay only. -/
theorem relayed_run :
    ∃ s s', system.runFrom healingNode [.receive 1000 1000 quietEnv (beaconFrom masterMac 0 1)] =
        some s ∧
      system.step s (.receive 9500 9500 quietEnv (beaconFrom relayMac 1 2)) = some s' ∧
      accepts s.mesh (envAt 9500 9500 quietEnv) (beaconFrom relayMac 1 2) = true ∧
      s.mesh.currentMaster = ⟨masterMac, 1, masterMac⟩ ∧
      s.mesh.peers.entries = [⟨masterMac, zeroKey, reading 1000⟩, ⟨relayMac, zeroKey, 0⟩] ∧
      s.mesh.deviceMacAddress = Vector.replicate 6 3 ∧ s.mesh.isMaster = false :=
  ⟨_, _, rfl, rfl, rfl, rfl, rfl, rfl, rfl⟩

/-- The master's own beacon makes the route. -/
theorem route_heals_direct :
    ∃ s', system.step healingNode (.receive 1000 1000 quietEnv (beaconFrom masterMac 0 1)) =
        some s' ∧
      ((s'.mesh.findNextHopToMaster (envNow 1000)).isSome = true ↔
        BetterRoute healingNode.mesh (beaconFrom masterMac 0 1).msg ∨
          healingNode.mesh.currentMaster.nextHop = masterMac ∨
            Live healingNode.mesh (envNow 1000) healingNode.mesh.currentMaster.nextHop) := by
  have hrun : ∃ s', system.step healingNode
      (.receive 1000 1000 quietEnv (beaconFrom masterMac 0 1)) = some s' :=
    ⟨_, rfl⟩
  obtain ⟨s', hstep⟩ := hrun
  have hother : masterMac ≠ Vector.replicate 6 3 := by decide
  refine ⟨s', hstep, ?_⟩
  exact @route_heals_iff _ _ _ _ 1000 _ _ ⟨masterMac, zeroKey, 0⟩ hstep rfl (.head _) rfl rfl
    hother (Nat.le_refl _) (Nat.lt_add_of_pos_right (by decide))

/-- A beacon that came over a live peer leaves the node without a way to the master: the route
over the silent master itself is shorter.
SOURCE: Mesh.cpp:337-349, 884-897 -/
theorem not_healed_relayed :
    ∃ s s' entry, system.Reachable s ∧ s.mesh.isMaster = false ∧
      system.step s (.receive 9500 9500 quietEnv entry) = some s' ∧
      accepts s.mesh (envAt 9500 9500 quietEnv) entry = true ∧
      entry.srcMac = relayMac ∧ entry.msg.lastHopMacAddress = relayMac ∧
      (∃ p ∈ s.mesh.peers.entries, p.mac = relayMac) ∧ relayMac ≠ s.mesh.deviceMacAddress ∧
      (s'.mesh.findNextHopToMaster (envNow 9500)).isSome = false := by
  obtain ⟨s, s', hrun, hstep, haccepted, hroute, hpeers, hmac, hrole⟩ := relayed_run
  have hreach := System.Reachable.runFrom (.init start_healingNode) hrun
  have hpeer : (⟨relayMac, zeroKey, 0⟩ : PeerInfo) ∈ s.mesh.peers.entries := by
    rw [hpeers]
    exact .tail _ (.head _)
  have hother : relayMac ≠ s.mesh.deviceMacAddress := by
    rw [hmac]
    decide
  have hshorter : ¬BetterRoute s.mesh (beaconFrom relayMac 1 2).msg := by
    rw [BetterRoute, hroute]
    decide
  have hhop : s.mesh.currentMaster.nextHop ≠ relayMac := by
    rw [hroute]
    decide
  have hdead : ¬Live s.mesh (envNow 9500) s.mesh.currentMaster.nextHop := by
    rintro ⟨-, p, hfind, hrecent⟩
    rw [hroute, PeerTable.findPeer, hpeers, List.find?_cons_of_pos (by simp)] at hfind
    obtain rfl := Option.some.inj hfind
    have hstale : ¬reading 9500 - reading 1000 < Config.stalePeerThresholdMs := by decide
    exact hstale hrecent
  have hsoon : reading 9500 - reading 9500 < Config.stalePeerThresholdMs := by decide
  have hiff := @findNextHopToMaster_after s.mesh (envAt 9500 9500 quietEnv) (envNow 9500)
    (beaconFrom relayMac 1 2) ⟨relayMac, zeroKey, 0⟩ haccepted hpeer rfl rfl hother hsoon
  have hgone : (s'.mesh.findNextHopToMaster (envNow 9500)).isSome = false := by
    rw [← Bool.not_eq_true, (receive_mesh hstep).2, hiff]
    exact fun h => h.elim hshorter fun h => h.elim hhop hdead
  exact ⟨s, s', _, hreach, hrole, hstep, haccepted, rfl, rfl, ⟨_, hpeer, rfl⟩, hother, hgone⟩

end RouteHealing

end LatticeNodes.Analysis
