import LatticeNodes.Analysis.EffectRuns

/-!
# What a receive step leaves alone

`SameNode` lists the members of the mesh object that no received message changes: the node's
addresses, keys, role and epoch, its transmit counter, the driver's registry, and of every
peer the address and key.
-/

set_option autoImplicit false

namespace LatticeNodes.Analysis

open LatticeNodes.Program

/-- The addresses and keys of the peer table, in order. -/
def peerKeys (t : PeerTable) : List (MacAddress × Key) :=
  t.entries.map fun p => (p.mac, p.publicKey)

/-- The addresses of the peer table are in its keys. -/
theorem exists_peer_of_peerKeys {t t' : PeerTable} (h : peerKeys t' = peerKeys t) {p : PeerInfo}
    (hp : p ∈ t'.entries) : ∃ q ∈ t.entries, q.mac = p.mac := by
  have hmem : (p.mac, p.publicKey) ∈ peerKeys t' := List.mem_map_of_mem hp
  rw [h] at hmem
  obtain ⟨q, hq, heq⟩ := List.mem_map.mp hmem
  exact ⟨q, hq, congrArg Prod.fst heq⟩

structure SameNode (m m' : Mesh) : Prop where
  deviceMacAddress : m'.deviceMacAddress = m.deviceMacAddress
  devicePrivateKey : m'.devicePrivateKey = m.devicePrivateKey
  devicePublicKey : m'.devicePublicKey = m.devicePublicKey
  bootEpoch : m'.bootEpoch = m.bootEpoch
  txSeqNum : m'.txSeqNum = m.txSeqNum
  isMaster : m'.isMaster = m.isMaster
  dualMasterMode : m'.dualMasterMode = m.dualMasterMode
  espNowPeers : m'.espNowPeers = m.espNowPeers
  enrollmentRelayFn : m'.enrollmentRelayFn = m.enrollmentRelayFn
  peerKeys : peerKeys m'.peers = peerKeys m.peers

/-- A node is itself. -/
theorem SameNode.refl (m : Mesh) : SameNode m m :=
  ⟨rfl, rfl, rfl, rfl, rfl, rfl, rfl, rfl, rfl, rfl⟩

/-- Two steps that keep the node do so together. -/
theorem SameNode.trans {m₁ m₂ m₃ : Mesh} (h : SameNode m₁ m₂) (h' : SameNode m₂ m₃) :
    SameNode m₁ m₃ where
  deviceMacAddress := h'.deviceMacAddress.trans h.deviceMacAddress
  devicePrivateKey := h'.devicePrivateKey.trans h.devicePrivateKey
  devicePublicKey := h'.devicePublicKey.trans h.devicePublicKey
  bootEpoch := h'.bootEpoch.trans h.bootEpoch
  txSeqNum := h'.txSeqNum.trans h.txSeqNum
  isMaster := h'.isMaster.trans h.isMaster
  dualMasterMode := h'.dualMasterMode.trans h.dualMasterMode
  espNowPeers := h'.espNowPeers.trans h.espNowPeers
  enrollmentRelayFn := h'.enrollmentRelayFn.trans h.enrollmentRelayFn
  peerKeys := h'.peerKeys.trans h.peerKeys

/-! ## Peers -/

/-- Changing a peer leaves what the change does not touch. -/
theorem map_modifyFirst {β : Type*} (mac : MacAddress) (f : PeerInfo → PeerInfo)
    (g : PeerInfo → β) (h : ∀ p, g (f p) = g p) (ps : List PeerInfo) :
    (PeerTable.modifyFirst mac f ps).map g = ps.map g := by
  induction ps with
  | nil => rfl
  | cons p ps ih =>
      unfold PeerTable.modifyFirst
      split
      · simp only [List.map_cons, h]
      · simp only [List.map_cons, ih]

/-- Only the time a peer was seen changes.
SOURCE: Mesh.cpp:818-829 -/
theorem updatePeerLastSeen_sameNode (m : Mesh) (env : Env) (mac : MacAddress) :
    SameNode m (m.updatePeerLastSeen env mac) := by
  unfold Mesh.updatePeerLastSeen
  split
  · exact SameNode.refl m
  · refine ⟨rfl, rfl, rfl, rfl, rfl, rfl, rfl, rfl, rfl, ?_⟩
    apply map_modifyFirst
    intro p
    rfl

/-! ## Handlers -/

/-- Adapter data leave the mesh object as it is.
SOURCE: Mesh.cpp:923-967 -/
theorem processAdapterData_fst (m : Mesh) (env : Env) (msg : MeshMessage) :
    (m.processAdapterData env msg).1 = m := by
  unfold Mesh.processAdapterData
  simp only
  split
  · split
    · unfold Mesh.relayUplink
      split <;> rfl
    · rfl
  · split <;> rfl

/-- Learning a master keeps the node.
SOURCE: Mesh.cpp:838-870 -/
theorem TrustStep.sameNode {m m' : Mesh} {env : Env} {msg : MeshMessage} {effects : List Effect}
    (h : TrustStep m env msg m' effects) : SameNode m m' := by
  cases h with
  | trusted _ _ => exact SameNode.refl m
  | _ => exact ⟨rfl, rfl, rfl, rfl, rfl, rfl, rfl, rfl, rfl, rfl⟩

/-- The stages after the trust check keep the node. -/
theorem afterTrust_sameNode (m : Mesh) (env : Env) (msg : MeshMessage) :
    SameNode m (afterTrust m env msg) := by
  have hnote : SameNode m (m.noteMaster env msg).1 :=
    ⟨rfl, rfl, rfl, rfl, rfl, rfl, rfl, rfl, rfl, rfl⟩
  have hroute : ∀ m : Mesh, SameNode m (m.updateRoute msg) := by
    intro m
    unfold Mesh.updateRoute
    split
    · exact ⟨rfl, rfl, rfl, rfl, rfl, rfl, rfl, rfl, rfl, rfl⟩
    · exact SameNode.refl m
  have hrelay : ∀ m : Mesh, SameNode m (m.relayBeacon env msg) := by
    intro m
    unfold Mesh.relayBeacon
    split
    · exact SameNode.refl m
    · split
      · exact SameNode.refl m
      · exact ⟨rfl, rfl, rfl, rfl, rfl, rfl, rfl, rfl, rfl, rfl⟩
  exact (hnote.trans (hroute _)).trans (hrelay _)

/-- The handler of a beacon keeps the node.
SOURCE: Mesh.cpp:831-921 -/
theorem processMasterBeacon_sameNode (m : Mesh) (env : Env) (msg : MeshMessage) :
    SameNode m (m.processMasterBeacon env msg).1 := by
  rcases processMasterBeacon_inv m env msg with ⟨-, heq⟩ | ⟨m', trusted, -, -, htrust, heq⟩
  · rw [heq]
    exact SameNode.refl m
  · rw [heq]
    exact htrust.sameNode.trans (afterTrust_sameNode m' env msg)

/-- The gate keeps the node.
SOURCE: Mesh.cpp:570-582 -/
theorem passGate_sameNode {m m' : Mesh} {msg : MeshMessage} (h : m.passGate msg = some m') :
    SameNode m m' := by
  rw [passGate_frame h]
  exact ⟨rfl, rfl, rfl, rfl, rfl, rfl, rfl, rfl, rfl, rfl⟩

/-! ## The receive step -/

/-- The object after the gate and the update of the sender's time, if the gate is passed.
SOURCE: Mesh.cpp:565-585 -/
def received (m : Mesh) (env : Env) (entry : RecvQueueEntry) : Option Mesh :=
  (m.passGate entry.msg).map fun m => m.updatePeerLastSeen env entry.srcMac

/-- A frame is received when the gate lets it pass. -/
theorem isSome_received (m : Mesh) (env : Env) (entry : RecvQueueEntry) :
    (received m env entry).isSome = (m.passGate entry.msg).isSome := by
  rw [received, Option.isSome_map]

/-- A received frame goes to its handler.
SOURCE: Mesh.cpp:563-604 -/
theorem handleEntry_of_received {m m' : Mesh} {env : Env} {entry : RecvQueueEntry}
    (h : received m env entry = some m') : m.handleEntry env entry = m'.dispatch env entry.msg := by
  obtain ⟨m₁, hgate, rfl⟩ := Option.map_eq_some_iff.mp h
  simp only [Mesh.handleEntry, hgate]

/-- A dropped one does nothing.
SOURCE: Mesh.cpp:563-604 -/
theorem handleEntry_of_dropped {m : Mesh} {env : Env} {entry : RecvQueueEntry}
    (h : received m env entry = none) : m.handleEntry env entry = (m, []) := by
  have hgate : m.passGate entry.msg = none := Option.map_eq_none_iff.mp h
  simp only [Mesh.handleEntry, hgate]

/-- Before the dispatch only the replay cache and the peers' times have changed. -/
theorem received_frame {m m' : Mesh} {env : Env} {entry : RecvQueueEntry}
    (h : received m env entry = some m') :
    m' = { m with replayCache := m'.replayCache, peers := m'.peers } := by
  obtain ⟨m₁, hgate, rfl⟩ := Option.map_eq_some_iff.mp h
  have hseen := updatePeerLastSeen_frame m₁ env entry.srcMac
  rw [hseen, passGate_frame hgate]

/-- The members that no handler writes. -/
structure HandlerKept (m m' : Mesh) : Prop where
  peers : m'.peers = m.peers
  replayCache : m'.replayCache = m.replayCache
  recvQueue : m'.recvQueue = m.recvQueue
  externalRecvCallback : m'.externalRecvCallback = m.externalRecvCallback

/-- Doing nothing keeps what the handlers keep. -/
theorem HandlerKept.refl (m : Mesh) : HandlerKept m m :=
  ⟨rfl, rfl, rfl, rfl⟩

/-- What two stages keep, they keep together. -/
theorem HandlerKept.trans {m₁ m₂ m₃ : Mesh} (h : HandlerKept m₁ m₂) (h' : HandlerKept m₂ m₃) :
    HandlerKept m₁ m₃ :=
  ⟨h'.peers.trans h.peers, h'.replayCache.trans h.replayCache, h'.recvQueue.trans h.recvQueue,
    h'.externalRecvCallback.trans h.externalRecvCallback⟩

/-- Learning a master keeps peers and queue.
SOURCE: Mesh.cpp:838-870 -/
theorem TrustStep.handlerKept {m m' : Mesh} {env : Env} {msg : MeshMessage}
    {effects : List Effect} (h : TrustStep m env msg m' effects) : HandlerKept m m' := by
  cases h with
  | _ => exact ⟨rfl, rfl, rfl, rfl⟩

/-- The stages after the trust check keep peers and queue. -/
theorem afterTrust_handlerKept (m : Mesh) (env : Env) (msg : MeshMessage) :
    HandlerKept m (afterTrust m env msg) := by
  by_cases hskip : m.isMaster = true ∨ m.isNewer msg = false
  · rw [afterTrust_of_not_relayed hskip]
    exact ⟨rfl, rfl, rfl, rfl⟩
  · obtain ⟨hnode, hnew⟩ := not_or.mp hskip
    obtain ⟨time, heq⟩ := afterTrust_of_relayed (by simpa using hnode) (by simpa using hnew)
    rw [heq]
    exact ⟨rfl, rfl, rfl, rfl⟩

/-- The handler of a beacon keeps peers and queue.
SOURCE: Mesh.cpp:831-921 -/
theorem processMasterBeacon_handlerKept (m : Mesh) (env : Env) (msg : MeshMessage) :
    HandlerKept m (m.processMasterBeacon env msg).1 := by
  rcases processMasterBeacon_inv m env msg with ⟨-, heq⟩ | ⟨m', trusted, -, -, htrust, heq⟩
  · rw [heq]
    exact HandlerKept.refl m
  · rw [heq]
    exact htrust.handlerKept.trans (afterTrust_handlerKept m' env msg)

/-- A beacon goes to its handler.
SOURCE: Mesh.cpp:584-602 -/
theorem dispatch_masterBeacon (m : Mesh) (env : Env) {msg : MeshMessage}
    (htype : msg.messageType = MeshMessageType.masterBeacon) :
    m.dispatch env msg = m.processMasterBeacon env msg := by
  simp [Mesh.dispatch, htype, MeshMessageType.masterBeacon, MeshMessageType.enrollment,
    MeshMessageType.joinAck]

/-- A message that is no beacon leaves an enrollment to relay, or the first master to trust.
SOURCE: Mesh.cpp:587-602, 1001-1033 -/
theorem dispatch_frame_of_ne (m : Mesh) (env : Env) {msg : MeshMessage}
    (h : msg.messageType ≠ MeshMessageType.masterBeacon) :
    ∃ mac pubKey relay master hasMaster, (m.dispatch env msg).1 =
      { m with
        pendingEnrollmentMac := mac
        pendingEnrollmentPubKey := pubKey
        pendingEnrollmentRelay := relay
        knownMasterMac := master
        hasMasterMac := hasMaster } := by
  unfold Mesh.dispatch
  split
  · unfold Mesh.processEnrollmentRequest
    split
    · exact ⟨_, _, _, _, _, rfl⟩
    · exact ⟨_, _, _, _, _, rfl⟩
  · split
    · unfold Mesh.processJoinAck
      split
      · exact ⟨_, _, _, _, _, rfl⟩
      · split
        · exact ⟨_, _, _, _, _, rfl⟩
        · split
          · exact ⟨_, _, _, _, _, rfl⟩
          · exact ⟨_, _, _, _, _, rfl⟩
    · split
      · rw [processAdapterData_fst]
        exact ⟨_, _, _, _, _, rfl⟩
      · exact ⟨_, _, _, _, _, rfl⟩

/-- **No handler touches the peers, the replay cache or the receive queue.**
SOURCE: Mesh.cpp:587-602 -/
theorem dispatch_handlerKept (m : Mesh) (env : Env) (msg : MeshMessage) :
    HandlerKept m (m.dispatch env msg).1 := by
  by_cases htype : msg.messageType = MeshMessageType.masterBeacon
  · rw [dispatch_masterBeacon m env htype]
    exact processMasterBeacon_handlerKept m env msg
  · obtain ⟨mac, pubKey, relay, master, hasMaster, heq⟩ := dispatch_frame_of_ne m env htype
    rw [heq]
    exact ⟨rfl, rfl, rfl, rfl⟩

/-- Every handler keeps the node. -/
theorem dispatch_sameNode (m : Mesh) (env : Env) (msg : MeshMessage) :
    SameNode m (m.dispatch env msg).1 := by
  by_cases htype : msg.messageType = MeshMessageType.masterBeacon
  · rw [dispatch_masterBeacon m env htype]
    exact processMasterBeacon_sameNode m env msg
  · obtain ⟨mac, pubKey, relay, master, hasMaster, heq⟩ := dispatch_frame_of_ne m env htype
    rw [heq]
    exact ⟨rfl, rfl, rfl, rfl, rfl, rfl, rfl, rfl, rfl, rfl⟩

/-- **No received message changes who the node is or whom it holds keys of.**
SOURCE: Mesh.cpp:563-604 -/
theorem handleEntry_sameNode (m : Mesh) (env : Env) (entry : RecvQueueEntry) :
    SameNode m (m.handleEntry env entry).1 := by
  unfold Mesh.handleEntry
  split
  · exact SameNode.refl m
  · next m' hgate =>
    have hseen := updatePeerLastSeen_sameNode m' env entry.srcMac
    exact ((passGate_sameNode hgate).trans hseen).trans (dispatch_sameNode _ env entry.msg)

/-! ## The deferred relay -/

/-- SOURCE: Mesh.cpp:337-349 -/
theorem findNextHopToMaster_mac {m : Mesh} {env : Env} {p : PeerInfo}
    (h : m.findNextHopToMaster env = some p) : p.mac = m.currentMaster.nextHop := by
  unfold Mesh.findNextHopToMaster at h
  split at h
  · cases h
  · have hprop := List.find?_some h
    simp only [decide_eq_true_eq] at hprop
    exact hprop.1

/-- **A relayed beacon goes back to the next hop on the way to the master.**
SOURCE: Mesh.cpp:337-349, 639-665, 1099-1105 -/
theorem dispatchRelay_frames {m : Mesh} {env : Env} {f : MacAddress × MeshMessage}
    (h : f ∈ sentFrames (m.dispatchRelay env).2) :
    m.relayPending = true ∧ f = (m.currentMaster.nextHop, m.relayPendingMsg) := by
  unfold Mesh.dispatchRelay at h
  split at h
  · next hdue =>
    have hpending : m.relayPending = true := (Bool.and_eq_true_iff.mp hdue).1
    refine ⟨hpending, ?_⟩
    have haddress : ∀ m' : Mesh, ∀ msg : MeshMessage,
        m'.addressToMaster MeshMessageType.masterBeacon msg = msg := by
      intro m' msg
      exact if_neg (by decide)
    simp only [Mesh.transmitCore, haddress, Mesh.routeToMaster] at h
    split at h
    · next nextHop hfind =>
      have hmac : nextHop.mac = m.currentMaster.nextHop := findNextHopToMaster_mac hfind
      split at h
      · unfold Mesh.sendMessage at h
        split at h
        · cases h
        · split at h
          · have hf : f = (nextHop.mac, m.relayPendingMsg) := List.mem_singleton.mp h
            rw [hf, hmac]
          · cases h
      · cases h
    · cases h
  · cases h

/-- The relay timer lowers its flag at most.
SOURCE: Mesh.cpp:1099-1105 -/
theorem dispatchRelay_fst (m : Mesh) (env : Env) :
    (m.dispatchRelay env).1 = m ∨ (m.dispatchRelay env).1 = { m with relayPending := false } := by
  unfold Mesh.dispatchRelay
  split
  · exact .inr rfl
  · exact .inl rfl

/-! ## The other calls of the loop -/

section Loop

variable (m : Mesh) (env : Env)

/-- A received frame only joins the queue.
SOURCE: Mesh.cpp:544-561 -/
theorem onDataRecvCallback_frame (srcMac : MacAddress) (len : ℕ) (msg : MeshMessage) :
    m.onDataRecvCallback srcMac len msg =
      { m with recvQueue := (m.onDataRecvCallback srcMac len msg).recvQueue } := by
  unfold Mesh.onDataRecvCallback
  split
  · rfl
  · split
    · rfl
    · rfl

/-- The timeout only forgets the route.
SOURCE: Mesh.cpp:801-815 -/
theorem checkMasterTimeout_frame :
    m.checkMasterTimeout env =
      { m with
        currentMaster := (m.checkMasterTimeout env).currentMaster
        lastSeenMasterMac := (m.checkMasterTimeout env).lastSeenMasterMac
        lastMasterBeaconReceivedMs := (m.checkMasterTimeout env).lastMasterBeaconReceivedMs } := by
  unfold Mesh.checkMasterTimeout
  split
  · rfl
  · split
    · rfl
    · split
      · rfl
      · rfl

/-- Handing a request over empties the slot at most.
SOURCE: Mesh.cpp:1082-1089 -/
theorem drainPendingEnrollment_frame :
    m.drainPendingEnrollment.1 =
      { m with pendingEnrollmentRelay := m.drainPendingEnrollment.1.pendingEnrollmentRelay } := by
  unfold Mesh.drainPendingEnrollment
  split
  · rfl
  · rfl

/-- A beacon sets its timer and takes a number at most.
SOURCE: Mesh.cpp:684-703 -/
theorem broadcastMasterBeacon_frame :
    (m.broadcastMasterBeacon env).1 =
      { m with
        lastBeaconMillis := (m.broadcastMasterBeacon env).1.lastBeaconMillis
        txSeqNum := (m.broadcastMasterBeacon env).1.txSeqNum } := by
  unfold Mesh.broadcastMasterBeacon
  split
  · rfl
  · rfl

end Loop

end LatticeNodes.Analysis
