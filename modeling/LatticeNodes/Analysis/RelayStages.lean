import LatticeNodes.Analysis.MeshFrames

/-!
# When a node relays

A received message is passed on in three ways: a beacon becomes the pending relay
(`Schedules`), adapter data for the master go one hop along the route, and what is meant for
others goes to all peers (`Forwards`).  Whatever the way, the frames sent are the relay copy
of the message received (`handleEntry_frames`).
-/

set_option autoImplicit false

namespace LatticeNodes.Analysis

open LatticeNodes.Program

/-! ## Beacons -/

/-- The beacon passes every check before the deferred relay.
SOURCE: Mesh.cpp:831-921 -/
def Schedules (m : Mesh) (env : Env) (msg : MeshMessage) : Prop :=
  m.acceptsBeacon env msg = true ∧ m.isMaster = false ∧ m.isNewer msg = true

instance (m : Mesh) (env : Env) (msg : MeshMessage) : Decidable (Schedules m env msg) :=
  inferInstanceAs (Decidable (_ ∧ _))

/-- The message is the pending relay. -/
def IsPending (m : Mesh) (msg : MeshMessage) : Prop :=
  m.relayPending = true ∧ m.relayPendingMsg = msg.relayCopy m.deviceMacAddress

/-- Nothing about the deferred relay has changed, except that it may have been sent. -/
structure RelayKept (m m' : Mesh) : Prop where
  deviceMacAddress : m'.deviceMacAddress = m.deviceMacAddress
  lastRelayedEpoch : m'.lastRelayedEpoch = m.lastRelayedEpoch
  lastRelayedSeqNum : m'.lastRelayedSeqNum = m.lastRelayedSeqNum
  pending : m'.relayPending = true →
    m.relayPending = true ∧ m'.relayPendingMsg = m.relayPendingMsg

instance (m m' : Mesh) : Decidable (RelayKept m m') :=
  decidable_of_iff
    (m'.deviceMacAddress = m.deviceMacAddress ∧ m'.lastRelayedEpoch = m.lastRelayedEpoch ∧
      m'.lastRelayedSeqNum = m.lastRelayedSeqNum ∧
      (m'.relayPending = true → m.relayPending = true ∧ m'.relayPendingMsg = m.relayPendingMsg))
    ⟨fun ⟨hmac, hepoch, hseq, hpending⟩ => ⟨hmac, hepoch, hseq, hpending⟩,
      fun ⟨hmac, hepoch, hseq, hpending⟩ => ⟨hmac, hepoch, hseq, hpending⟩⟩

/-- Doing nothing keeps the pending relay. -/
theorem RelayKept.refl (m : Mesh) : RelayKept m m :=
  ⟨rfl, rfl, rfl, fun h => ⟨h, rfl⟩⟩

/-- What two steps keep, they keep together. -/
theorem RelayKept.trans {m₁ m₂ m₃ : Mesh} (h : RelayKept m₁ m₂) (h' : RelayKept m₂ m₃) :
    RelayKept m₁ m₃ where
  deviceMacAddress := h'.deviceMacAddress.trans h.deviceMacAddress
  lastRelayedEpoch := h'.lastRelayedEpoch.trans h.lastRelayedEpoch
  lastRelayedSeqNum := h'.lastRelayedSeqNum.trans h.lastRelayedSeqNum
  pending := by
    intro hpending
    obtain ⟨hpending₂, hmsg₂⟩ := h'.pending hpending
    obtain ⟨hpending₁, hmsg₁⟩ := h.pending hpending₂
    exact ⟨hpending₁, hmsg₂.trans hmsg₁⟩

/-- What the deferred relay looks like after a beacon was scheduled. -/
structure Scheduled (m : Mesh) (msg : MeshMessage) (m' : Mesh) : Prop where
  deviceMacAddress : m'.deviceMacAddress = m.deviceMacAddress
  hopCount : msg.hopCount < Config.maxHops
  pending : IsPending m' msg
  lastRelayedEpoch : m'.lastRelayedEpoch = msg.epochNum
  lastRelayedSeqNum : m'.lastRelayedSeqNum = msg.seqNum

/-- A trust step leaves the deferred relay alone. -/
theorem TrustStep.relay {m m' : Mesh} {env : Env} {msg : MeshMessage} {effects : List Effect}
    (h : TrustStep m env msg m' effects) :
    RelayKept m m' ∧ m'.isMaster = m.isMaster ∧ m'.isNewer msg = m.isNewer msg := by
  cases h with
  | _ => exact ⟨⟨rfl, rfl, rfl, fun h => ⟨h, rfl⟩⟩, rfl, rfl⟩

/-- **A beacon becomes the pending relay, or leaves the deferred relay alone.**
SOURCE: Mesh.cpp:831-921 -/
theorem processMasterBeacon_relay (m : Mesh) (env : Env) (msg : MeshMessage) :
    (Schedules m env msg ∧ Scheduled m msg (m.processMasterBeacon env msg).1) ∨
      (¬Schedules m env msg ∧ RelayKept m (m.processMasterBeacon env msg).1) := by
  rcases processMasterBeacon_inv m env msg with
    ⟨hrejected, heq⟩ | ⟨m', trusted, haccepted, hhop, htrust, heq⟩
  · right
    rw [heq]
    refine ⟨?_, RelayKept.refl m⟩
    rintro ⟨haccepted, -⟩
    rw [hrejected] at haccepted
    cases haccepted
  · obtain ⟨hkept, hrole, hnewer⟩ := htrust.relay
    rw [heq]
    by_cases hskip : m'.isMaster = true ∨ m'.isNewer msg = false
    · right
      rw [afterTrust_of_not_relayed hskip]
      refine ⟨?_, hkept.trans ⟨rfl, rfl, rfl, fun h => ⟨h, rfl⟩⟩⟩
      rintro ⟨-, hnode, hnew⟩
      rcases hskip with hmaster | hold
      · rw [hrole, hnode] at hmaster
        cases hmaster
      · rw [hnewer, hnew] at hold
        cases hold
    · obtain ⟨hnode, hnew⟩ := not_or.mp hskip
      rw [Bool.not_eq_true] at hnode
      rw [Bool.not_eq_false] at hnew
      left
      refine ⟨⟨haccepted, hrole.symm.trans hnode, hnewer.symm.trans hnew⟩, ?_⟩
      obtain ⟨time, hrelay⟩ := @afterTrust_of_relayed m' env msg hnode hnew
      rw [hrelay]
      exact ⟨hkept.deviceMacAddress, hhop, ⟨rfl, rfl⟩, rfl, rfl⟩

/-! ## Messages for others -/

/-- Adapter data that reach `relayDownlink`.
SOURCE: Mesh.cpp:923-967 -/
def ForwardsData (m : Mesh) (msg : MeshMessage) : Prop :=
  m.isMaster = false ∧
    if msg.targetMacAddress = broadcastMac then
      ¬(Mesh.isConfigOpcode msg = true ∧ m.hasMasterMac = true ∧
        msg.originMacAddress ≠ m.knownMasterMac)
    else
      msg.targetMacAddress ≠ m.deviceMacAddress ∧
        ¬(m.hasMasterMac = true ∧ msg.targetMacAddress = m.currentMaster.mac)

/-- The message reaches `relayDownlink`.
SOURCE: Mesh.cpp:587-602, 943-946, 963-966, 1013-1017 -/
def Forwards (m : Mesh) (msg : MeshMessage) : Prop :=
  msg.messageType = MeshMessageType.joinAck ∧ msg.targetMacAddress ≠ m.deviceMacAddress ∨
    msg.messageType = MeshMessageType.adapterData ∧ ForwardsData m msg

/-- The message reaches the send loop of `relayDownlink`.
SOURCE: Mesh.cpp:969-980 -/
def Relayable (m : Mesh) (msg : MeshMessage) : Prop :=
  msg.hopCount < Config.maxHops ∧ Forwards m msg

instance (m : Mesh) (msg : MeshMessage) : Decidable (ForwardsData m msg) :=
  inferInstanceAs (Decidable (_ ∧ ite _ _ _))

instance (m : Mesh) (msg : MeshMessage) : Decidable (Forwards m msg) :=
  inferInstanceAs (Decidable (_ ∨ _))

instance (m : Mesh) (msg : MeshMessage) : Decidable (Relayable m msg) :=
  inferInstanceAs (Decidable (_ ∧ _))

/-- A send sends its message to its target.
SOURCE: Mesh.cpp:613-625 -/
theorem sendMessage_frames {m : Mesh} {env : Env} {target : MacAddress} {msg : MeshMessage}
    {f : MacAddress × MeshMessage} (h : f ∈ sentFrames (m.sendMessage env target msg)) :
    f = (target, msg) := by
  unfold Mesh.sendMessage at h
  split at h
  · cases h
  · split at h
    · exact List.mem_singleton.mp h
    · cases h

/-- A broadcast sends it to the broadcast address.
SOURCE: Mesh.cpp:698-701 -/
theorem espNowBroadcast_frames {env : Env} {msg : MeshMessage} {f : MacAddress × MeshMessage}
    (h : f ∈ sentFrames (Mesh.espNowBroadcast env msg)) : f = (broadcastMac, msg) := by
  unfold Mesh.espNowBroadcast at h
  split at h
  · exact List.mem_singleton.mp h
  · cases h

/-- A flood sends its message.
SOURCE: Mesh.cpp:632-636, 975-979 -/
theorem sendToPeers_frames {m : Mesh} {env : Env} {msg : MeshMessage}
    {f : MacAddress × MeshMessage} (h : f ∈ sentFrames (m.sendToPeers env msg)) : f.2 = msg := by
  rw [mem_sentFrames] at h
  obtain ⟨p, -, hp⟩ := List.mem_flatMap.mp h
  split at hp
  · cases hp
  · have hf : f ∈ sentFrames (m.sendMessage env p.mac msg) := mem_sentFrames.mpr hp
    rw [sendMessage_frames hf]

/-- A message on its way up is sent as it is.
SOURCE: Mesh.cpp:648-652 -/
theorem routeToMaster_frames {m : Mesh} {env : Env} {msg : MeshMessage}
    {f : MacAddress × MeshMessage} (h : f ∈ sentFrames (m.routeToMaster env msg)) : f.2 = msg := by
  unfold Mesh.routeToMaster at h
  split at h
  · split at h
    · rw [sendMessage_frames h]
    · cases h
  · cases h

/-- A message that has come too far is not passed on.
SOURCE: Mesh.cpp:969-980 -/
theorem relayDownlink_of_far {m : Mesh} {env : Env} {msg : MeshMessage}
    (h : ¬msg.hopCount < Config.maxHops) : m.relayDownlink env msg = [] :=
  if_pos (UInt8.not_lt.mp h)

/-- A message below the hop limit is passed on with one more hop.
SOURCE: Mesh.cpp:969-980 -/
theorem relayDownlink_of_near {m : Mesh} {env : Env} {msg : MeshMessage}
    (h : msg.hopCount < Config.maxHops) :
    m.relayDownlink env msg = m.sendToPeers env (msg.relayCopy m.deviceMacAddress) :=
  if_neg (UInt8.not_le.mpr h)

/-- Adapter data addressed to the current master go on unchanged: the new target is the old
one.
SOURCE: Mesh.cpp:934-942, 648-652 -/
theorem relayUplink_frames {m : Mesh} {env : Env} {msg : MeshMessage}
    (hmaster : msg.targetMacAddress = m.currentMaster.mac) {f : MacAddress × MeshMessage}
    (h : f ∈ sentFrames (m.relayUplink env msg).2) :
    msg.hopCount < Config.maxHops ∧ f.2 = msg.relayCopy m.deviceMacAddress := by
  unfold Mesh.relayUplink at h
  split at h
  · cases h
  · next hhop =>
    refine ⟨UInt8.not_le.mp hhop, ?_⟩
    have hsame : m.addressToMaster MeshMessageType.adapterData
        (msg.relayCopy m.deviceMacAddress) = msg.relayCopy m.deviceMacAddress := by
      rw [Mesh.addressToMaster, if_pos rfl, ← hmaster]
      rfl
    simp only [Mesh.transmitCore, hsame] at h
    exact routeToMaster_frames h

/-- **Adapter data are flooded, sent one hop along the route, or kept.**
SOURCE: Mesh.cpp:923-967 -/
theorem processAdapterData_relay (m : Mesh) (env : Env) (msg : MeshMessage) :
    (ForwardsData m msg ∧ ∃ before, sentFrames before = [] ∧
      (m.processAdapterData env msg).2 = before ++ m.relayDownlink env msg) ∨
    (¬ForwardsData m msg ∧ msg.targetMacAddress ≠ broadcastMac ∧
      msg.targetMacAddress = m.currentMaster.mac ∧
      (m.processAdapterData env msg).2 = (m.relayUplink env msg).2) ∨
    (¬ForwardsData m msg ∧ sentFrames (m.processAdapterData env msg).2 = []) := by
  have hcallback : sentFrames
      (if m.externalRecvCallback then [Effect.externalRecvCallback msg] else []) = [] := by
    split <;> rfl
  unfold Mesh.processAdapterData
  simp only
  by_cases hbroadcast : msg.targetMacAddress = broadcastMac
  · rw [if_neg (by simp [hbroadcast])]
    by_cases hconfig : (Mesh.isConfigOpcode msg && m.hasMasterMac &&
        msg.originMacAddress != m.knownMasterMac) = true
    · rw [if_pos hconfig]
      refine .inr (.inr ⟨?_, rfl⟩)
      rw [ForwardsData, if_pos hbroadcast]
      rintro ⟨-, haccepted⟩
      apply haccepted
      simpa [and_assoc] using hconfig
    · rw [if_neg hconfig]
      cases hrole : m.isMaster with
      | true =>
          refine .inr (.inr ⟨?_, ?_⟩)
          · rintro ⟨hnode, -⟩
            rw [hrole] at hnode
            cases hnode
          · simpa using hcallback
      | false =>
          left
          refine ⟨⟨hrole, ?_⟩, _, hcallback, by simp [hbroadcast]⟩
          rw [if_pos hbroadcast]
          simpa [and_assoc] using hconfig
  · by_cases hlocal : m.isMaster = true ∨ msg.targetMacAddress = m.deviceMacAddress
    · rw [if_neg (by rcases hlocal with h | h <;> simp [h])]
      refine .inr (.inr ⟨?_, ?_⟩)
      · rw [ForwardsData, if_neg hbroadcast]
        rintro ⟨hnode, hother, -⟩
        rcases hlocal with hmaster | hself
        · rw [hmaster] at hnode
          cases hnode
        · exact hother hself
      · split
        · rfl
        · simpa [hbroadcast] using hcallback
    · obtain ⟨hnode, hother⟩ := not_or.mp hlocal
      rw [Bool.not_eq_true] at hnode
      rw [if_pos (by simp [hnode, hother, hbroadcast])]
      by_cases hmaster : m.hasMasterMac = true ∧ msg.targetMacAddress = m.currentMaster.mac
      · rw [if_pos (by simp [hmaster])]
        refine .inr (.inl ⟨?_, hbroadcast, hmaster.2, rfl⟩)
        rw [ForwardsData, if_neg hbroadcast]
        rintro ⟨-, -, hnot⟩
        exact hnot hmaster
      · rw [if_neg (by simpa using hmaster)]
        refine .inl ⟨⟨hnode, ?_⟩, [], rfl, rfl⟩
        rw [if_neg hbroadcast]
        exact ⟨hother, hmaster⟩

/-! ## The receive step -/

/-- A beacon makes the receiving node send nothing.
SOURCE: Mesh.cpp:831-921 -/
theorem processMasterBeacon_sentFrames (m : Mesh) (env : Env) (msg : MeshMessage) :
    sentFrames (m.processMasterBeacon env msg).2 = [] := by
  rcases processMasterBeacon_inv m env msg with ⟨-, heq⟩ | ⟨m', trusted, -, -, htrust, heq⟩
  · rw [heq]
    rfl
  · rw [heq]
    have hsaves : sentFrames trusted = [] := by
      cases htrust with
      | _ => rfl
    have hwarning : sentFrames (m'.noteMaster env msg).2 = [] := by
      unfold Mesh.noteMaster
      split <;> rfl
    rw [sentFrames_append, hsaves, hwarning]
    rfl

/-- What reaches the send loop is sent to all peers; the rest of the effects sends nothing. -/
structure Flooded (m : Mesh) (env : Env) (msg : MeshMessage) (effects : List Effect) : Prop where
  near : msg.hopCount < Config.maxHops
  loop : ∃ before, sentFrames before = [] ∧
    effects = before ++ m.sendToPeers env (msg.relayCopy m.deviceMacAddress)

section Dispatch

variable {m : Mesh} {env : Env} {msg : MeshMessage}

/-- A message of another type is not relayed. -/
theorem not_relayable_of_type (hjoin : msg.messageType ≠ MeshMessageType.joinAck)
    (hdata : msg.messageType ≠ MeshMessageType.adapterData) : ¬Relayable m msg := by
  rintro ⟨-, ⟨htype, -⟩ | ⟨htype, -⟩⟩
  · exact hjoin htype
  · exact hdata htype

/-- What is forwarded runs the send loop, unless the hop guard stops it.
SOURCE: Mesh.cpp:969-980 -/
theorem relayDownlink_floods (hforwards : Forwards m msg) {before : List Effect}
    (hquiet : sentFrames before = []) :
    (Relayable m msg ∧ Flooded m env msg (before ++ m.relayDownlink env msg)) ∨
      (¬Relayable m msg ∧ sentFrames (before ++ m.relayDownlink env msg) = []) := by
  by_cases hhop : msg.hopCount < Config.maxHops
  · refine .inl ⟨⟨hhop, hforwards⟩, hhop, before, hquiet, ?_⟩
    rw [relayDownlink_of_near hhop]
  · refine .inr ⟨fun hrelay => hhop hrelay.1, ?_⟩
    rw [relayDownlink_of_far hhop, List.append_nil, hquiet]

/-- An acknowledgement is forwarded by everyone but the node it is for.
SOURCE: Mesh.cpp:1012-1033 -/
theorem processJoinAck_relay (htype : msg.messageType = MeshMessageType.joinAck) :
    (Relayable m msg ∧ Flooded m env msg (m.processJoinAck env msg).2) ∨
      (¬Relayable m msg ∧ sentFrames (m.processJoinAck env msg).2 = []) := by
  unfold Mesh.processJoinAck
  split
  · next htarget => exact relayDownlink_floods (.inl ⟨htype, htarget⟩) sentFrames_nil
  · next htarget =>
    have hself : ¬Relayable m msg := by
      rintro ⟨-, ⟨-, hother⟩ | ⟨hdata, -⟩⟩
      · exact htarget hother
      · rw [htype] at hdata
        cases hdata
    refine .inr ⟨hself, ?_⟩
    split
    · rfl
    · split <;> rfl

end Dispatch

/-- **A dispatched message runs the send loop, goes up the route, or makes the node send
nothing.**
SOURCE: Mesh.cpp:587-602 -/
theorem dispatch_relay (m : Mesh) (env : Env) (msg : MeshMessage) :
    (Relayable m msg ∧ Flooded m env msg (m.dispatch env msg).2) ∨
    (¬Relayable m msg ∧ msg.messageType = MeshMessageType.adapterData ∧
      msg.targetMacAddress ≠ broadcastMac ∧ msg.targetMacAddress = m.currentMaster.mac ∧
      (m.dispatch env msg).2 = (m.relayUplink env msg).2) ∨
    (¬Relayable m msg ∧ sentFrames (m.dispatch env msg).2 = []) := by
  unfold Mesh.dispatch
  split
  · next htype =>
    refine .inr (.inr ⟨not_relayable_of_type ?_ ?_, rfl⟩)
    · rw [htype]
      decide
    · rw [htype]
      decide
  · split
    · next htype =>
      rcases @processJoinAck_relay m env msg htype with h | h
      · exact .inl h
      · exact .inr (.inr h)
    · next hjoin =>
      split
      · next htype =>
        refine .inr (.inr ⟨not_relayable_of_type hjoin ?_,
          processMasterBeacon_sentFrames m env msg⟩)
        rw [htype]
        decide
      · split
        · next htype =>
          have hdata : Forwards m msg ↔ ForwardsData m msg := by
            refine ⟨?_, fun h => .inr ⟨htype, h⟩⟩
            rintro (⟨hack, -⟩ | ⟨-, h⟩)
            · exact absurd hack hjoin
            · exact h
          rcases processAdapterData_relay m env msg with
            ⟨hforwards, before, hquiet, heq⟩ | ⟨hnot, hbroadcast, hmaster, heq⟩ | ⟨hnot, hquiet⟩
          · rw [heq]
            rcases @relayDownlink_floods m env msg (hdata.mpr hforwards) before hquiet with h | h
            · exact .inl h
            · exact .inr (.inr h)
          · exact .inr (.inl ⟨fun h => hnot (hdata.mp h.2), htype, hbroadcast, hmaster, heq⟩)
          · exact .inr (.inr ⟨fun h => hnot (hdata.mp h.2), hquiet⟩)
        · next hdata => exact .inr (.inr ⟨not_relayable_of_type hjoin hdata, rfl⟩)

/-- **Every frame a receive step sends is the relay copy of the message received.**
SOURCE: Mesh.cpp:563-604 -/
theorem handleEntry_frames {m : Mesh} {env : Env} {entry : RecvQueueEntry}
    {f : MacAddress × MeshMessage} (h : f ∈ sentFrames (m.handleEntry env entry).2) :
    entry.msg.hopCount < Config.maxHops ∧ f.2 = entry.msg.relayCopy m.deviceMacAddress := by
  cases hreceived : received m env entry with
  | none =>
      rw [handleEntry_of_dropped hreceived] at h
      cases h
  | some m' =>
      have hmac : m'.deviceMacAddress = m.deviceMacAddress := by rw [received_frame hreceived]
      rw [handleEntry_of_received hreceived] at h
      rw [← hmac]
      rcases dispatch_relay m' env entry.msg with
        ⟨-, hhop, before, hquiet, heq⟩ | ⟨-, -, -, hmaster, heq⟩ | ⟨-, hquiet⟩
      · rw [heq, sentFrames_append, hquiet, List.nil_append] at h
        exact ⟨hhop, sendToPeers_frames h⟩
      · rw [heq] at h
        exact relayUplink_frames hmaster h
      · rw [hquiet] at h
        cases h

/-- **An entry that passes the gate and is relayable runs the send loop once; any other sends
nothing, or goes up the route.**
SOURCE: Mesh.cpp:563-604, 969-980 -/
theorem handleEntry_floods (m : Mesh) (env : Env) (entry : RecvQueueEntry) :
    ((m.passGate entry.msg).isSome = true ∧ Relayable m entry.msg ∧
      ∃ m', received m env entry = some m' ∧
        Flooded m' env entry.msg (m.handleEntry env entry).2) ∨
    (¬((m.passGate entry.msg).isSome = true ∧ Relayable m entry.msg) ∧
      (sentFrames (m.handleEntry env entry).2 = [] ∨ ∃ m', received m env entry = some m' ∧
        (m.handleEntry env entry).2 = (m'.relayUplink env entry.msg).2)) := by
  rw [← isSome_received m env entry]
  cases hreceived : received m env entry with
  | none =>
      right
      rw [handleEntry_of_dropped hreceived]
      exact ⟨fun h => absurd h.1 Bool.false_ne_true, .inl rfl⟩
  | some m' =>
      have hsame : Relayable m' entry.msg ↔ Relayable m entry.msg := by
        rw [received_frame hreceived]
        exact Iff.rfl
      rw [handleEntry_of_received hreceived]
      rcases dispatch_relay m' env entry.msg with
        ⟨hrelay, hflooded⟩ | ⟨hnot, -, -, -, heq⟩ | ⟨hnot, hquiet⟩
      · exact .inl ⟨rfl, hsame.mp hrelay, m', rfl, hflooded⟩
      · exact .inr ⟨fun h => hnot (hsame.mpr h.2), .inr ⟨m', rfl, heq⟩⟩
      · exact .inr ⟨fun h => hnot (hsame.mpr h.2), .inl hquiet⟩

/-- The entry is a beacon that passes the gate and becomes the pending relay. -/
def SchedulesEntry (m : Mesh) (env : Env) (entry : RecvQueueEntry) : Prop :=
  entry.msg.messageType = MeshMessageType.masterBeacon ∧
    ∃ m', received m env entry = some m' ∧ Schedules m' env entry.msg

instance (m : Mesh) (env : Env) (entry : RecvQueueEntry) : Decidable (SchedulesEntry m env entry) :=
  inferInstanceAs (Decidable (_ ∧ ∃ m', received m env entry = some m' ∧ _))

/-- Only a beacon touches the deferred relay. -/
theorem dispatch_relayKept (m : Mesh) (env : Env) {msg : MeshMessage}
    (h : msg.messageType ≠ MeshMessageType.masterBeacon) : RelayKept m (m.dispatch env msg).1 := by
  obtain ⟨mac, pubKey, relay, master, hasMaster, heq⟩ := dispatch_frame_of_ne m env h
  rw [heq]
  exact ⟨rfl, rfl, rfl, fun hpending => ⟨hpending, rfl⟩⟩

/-- The gate keeps the pending relay.
SOURCE: Mesh.cpp:570-582 -/
theorem received_relayKept {m m' : Mesh} {env : Env} {entry : RecvQueueEntry}
    (h : received m env entry = some m') : RelayKept m m' := by
  rw [received_frame h]
  exact ⟨rfl, rfl, rfl, fun h => ⟨h, rfl⟩⟩

/-- **A received entry becomes the pending relay, or leaves the deferred relay alone.**
SOURCE: Mesh.cpp:563-604 -/
theorem handleEntry_relay (m : Mesh) (env : Env) (entry : RecvQueueEntry) :
    (SchedulesEntry m env entry ∧ Scheduled m entry.msg (m.handleEntry env entry).1) ∨
      (¬SchedulesEntry m env entry ∧ RelayKept m (m.handleEntry env entry).1) := by
  cases hreceived : received m env entry with
  | none =>
      right
      rw [handleEntry_of_dropped hreceived]
      refine ⟨?_, RelayKept.refl m⟩
      rintro ⟨-, m', hsome, -⟩
      rw [hreceived] at hsome
      cases hsome
  | some m' =>
      have hkept := received_relayKept hreceived
      rw [handleEntry_of_received hreceived]
      by_cases htype : entry.msg.messageType = MeshMessageType.masterBeacon
      · rw [dispatch_masterBeacon m' env htype]
        rcases processMasterBeacon_relay m' env entry.msg with ⟨hyes, hdone⟩ | ⟨hno, hsame⟩
        · left
          exact ⟨⟨htype, m', hreceived, hyes⟩, hdone.deviceMacAddress.trans hkept.deviceMacAddress,
            hdone.hopCount, hdone.pending, hdone.lastRelayedEpoch, hdone.lastRelayedSeqNum⟩
        · right
          refine ⟨?_, hkept.trans hsame⟩
          rintro ⟨-, m₁, hsome, hyes⟩
          obtain rfl : m' = m₁ := Option.some.inj (hreceived.symm.trans hsome)
          exact hno hyes
      · right
        refine ⟨fun hyes => htype hyes.1, hkept.trans (dispatch_relayKept m' env htype)⟩

/-- The dispatch of the deferred relay sends it or leaves it.
SOURCE: Mesh.cpp:1099-1105 -/
theorem dispatchRelay_relayKept (m : Mesh) (env : Env) : RelayKept m (m.dispatchRelay env).1 := by
  rcases dispatchRelay_fst m env with heq | heq
  · rw [heq]
    exact RelayKept.refl m
  · rw [heq]
    exact ⟨rfl, rfl, rfl, fun hpending => absurd hpending Bool.false_ne_true⟩

end LatticeNodes.Analysis
