import LatticeNodes.Analysis.RelayStages

/-!
# What adapter data make a node do

Adapter data go up the route (`Uplink`), or are delivered (`Delivers`) and passed on to the
peers (`ForwardsData`), each under its own guard; `processAdapterData_eq` is the whole
handler.  What is passed on only counts as relayed when the radio takes a frame
(`RelaysData`).
-/

set_option autoImplicit false

namespace LatticeNodes.Analysis

open LatticeNodes.Program

/-! ## The guards -/

/-- The message is for the current master, and this node is on the way.
SOURCE: Mesh.cpp:927-935 -/
def Uplink (m : Mesh) (msg : MeshMessage) : Prop :=
  m.isMaster = false ∧ msg.targetMacAddress ≠ m.deviceMacAddress ∧
    msg.targetMacAddress ≠ broadcastMac ∧ m.hasMasterMac = true ∧
      msg.targetMacAddress = m.currentMaster.mac

/-- A configuration command that does not come from the known master.
SOURCE: Mesh.cpp:949-955 -/
def ConfigRejected (m : Mesh) (msg : MeshMessage) : Prop :=
  Mesh.isConfigOpcode msg = true ∧ m.hasMasterMac = true ∧
    msg.originMacAddress ≠ m.knownMasterMac

/-- The message is handed to the receive callback.
SOURCE: Mesh.cpp:932, 949-961 -/
def Delivers (m : Mesh) (msg : MeshMessage) : Prop :=
  m.externalRecvCallback = true ∧
    (m.isMaster = true ∨ msg.targetMacAddress = m.deviceMacAddress ∨
      msg.targetMacAddress = broadcastMac) ∧ ¬ConfigRejected m msg

instance (m : Mesh) (msg : MeshMessage) : Decidable (Uplink m msg) :=
  inferInstanceAs (Decidable (_ ∧ _))

instance (m : Mesh) (msg : MeshMessage) : Decidable (ConfigRejected m msg) :=
  inferInstanceAs (Decidable (_ ∧ _))

instance (m : Mesh) (msg : MeshMessage) : Decidable (Delivers m msg) :=
  inferInstanceAs (Decidable (_ ∧ _))

/-- A node floods the broadcasts it does not refuse and the messages for others that are not on
their way up.
SOURCE: Mesh.cpp:923-980 -/
theorem forwardsData_iff {m : Mesh} {msg : MeshMessage} :
    ForwardsData m msg ↔ m.isMaster = false ∧ ¬Uplink m msg ∧
      (msg.targetMacAddress = broadcastMac ∧ ¬ConfigRejected m msg ∨
        msg.targetMacAddress ≠ broadcastMac ∧ msg.targetMacAddress ≠ m.deviceMacAddress) := by
  unfold ForwardsData Uplink ConfigRejected
  by_cases hbroadcast : msg.targetMacAddress = broadcastMac
  · rw [if_pos hbroadcast]
    simp [hbroadcast]
  · rw [if_neg hbroadcast]
    constructor
    · rintro ⟨hnode, hother, hnot⟩
      refine ⟨hnode, ?_, .inr ⟨hbroadcast, hother⟩⟩
      rintro ⟨-, -, -, hmaster⟩
      exact hnot hmaster
    · rintro ⟨hnode, hnot, ⟨hyes, -⟩ | ⟨-, hother⟩⟩
      · exact absurd hyes hbroadcast
      · exact ⟨hnode, hother, fun hmaster => hnot ⟨hnode, hother, hbroadcast, hmaster⟩⟩

/-- **The handler of adapter data.**
SOURCE: Mesh.cpp:923-967 -/
theorem processAdapterData_eq (m : Mesh) (env : Env) (msg : MeshMessage) :
    m.processAdapterData env msg =
      if Uplink m msg then m.relayUplink env msg
      else (m, (if Delivers m msg then [.externalRecvCallback msg] else []) ++
        (if ForwardsData m msg then m.relayDownlink env msg else [])) := by
  have hconfig : (Mesh.isConfigOpcode msg && m.hasMasterMac &&
      msg.originMacAddress != m.knownMasterMac) = true ↔ ConfigRejected m msg := by
    simp [ConfigRejected, and_assoc]
  unfold Mesh.processAdapterData
  simp only
  by_cases hlocal : m.isMaster = true ∨ msg.targetMacAddress = m.deviceMacAddress ∨
      msg.targetMacAddress = broadcastMac
  · have huplink : ¬Uplink m msg := by
      rintro ⟨hnode, hother, hbroadcast, -⟩
      simp [hnode, hother, hbroadcast] at hlocal
    have hguard : ¬(!m.isMaster && !(msg.targetMacAddress == m.deviceMacAddress) &&
        !(msg.targetMacAddress == broadcastMac)) = true := by
      rcases hlocal with h | h | h <;> simp [h]
    have hforwards : ForwardsData m msg ↔ m.isMaster = false ∧
        msg.targetMacAddress = broadcastMac ∧ ¬ConfigRejected m msg := by
      rw [forwardsData_iff]
      constructor
      · rintro ⟨hnode, -, hyes | ⟨hbroadcast, hother⟩⟩
        · exact ⟨hnode, hyes⟩
        · simp [hnode, hother, hbroadcast] at hlocal
      · rintro ⟨hnode, hyes⟩
        exact ⟨hnode, huplink, .inl hyes⟩
    rw [if_neg hguard, if_neg huplink]
    by_cases hrejected : ConfigRejected m msg
    · have hquiet : ¬Delivers m msg := fun h => h.2.2 hrejected
      have hkept : ¬ForwardsData m msg := fun h => (hforwards.mp h).2.2 hrejected
      rw [if_pos (hconfig.mpr hrejected), if_neg hquiet, if_neg hkept]
      rfl
    · rw [if_neg (fun h => hrejected (hconfig.mp h))]
      have hdelivers : Delivers m msg ↔ m.externalRecvCallback = true := by
        simp [Delivers, hlocal, hrejected]
      simp only [hdelivers, hforwards, hrejected, not_false_eq_true, and_true,
        Bool.and_eq_true, beq_iff_eq, Bool.not_eq_true']
      congr 3
      exact propext and_comm
  · obtain ⟨hnode, hother, hbroadcast⟩ : m.isMaster = false ∧
        msg.targetMacAddress ≠ m.deviceMacAddress ∧ msg.targetMacAddress ≠ broadcastMac := by
      simpa using hlocal
    have hquiet : ¬Delivers m msg := fun h => hlocal h.2.1
    rw [if_pos (by simp [hnode, hother, hbroadcast])]
    by_cases huplink : Uplink m msg
    · rw [if_pos huplink, if_pos (by simpa using huplink.2.2.2)]
    · have hforwards : ForwardsData m msg :=
        forwardsData_iff.mpr ⟨hnode, huplink, .inr ⟨hbroadcast, hother⟩⟩
      have hmaster : ¬(m.hasMasterMac && msg.targetMacAddress == m.currentMaster.mac) = true := by
        intro hyes
        apply huplink
        exact ⟨hnode, hother, hbroadcast, by simpa using hyes⟩
      rw [if_neg huplink, if_neg hmaster, if_neg hquiet, if_pos hforwards]
      rfl

/-! ## Frames on the air -/

/-- A frame for this address goes out.
SOURCE: Mesh.cpp:613-625 -/
def Reaches (m : Mesh) (env : Env) (mac : MacAddress) : Prop :=
  mac ≠ m.deviceMacAddress ∧ env.sendError mac = none

/-- A frame goes out to some peer. -/
def ReachesPeer (m : Mesh) (env : Env) : Prop :=
  ∃ p ∈ m.peers.entries, Reaches m env p.mac

/-- A frame goes out along the route. -/
def ReachesMaster (m : Mesh) (env : Env) : Prop :=
  ∃ p, m.findNextHopToMaster env = some p ∧ Reaches m env p.mac

/-- The message is passed on, and the radio takes a frame of it. -/
def RelaysData (m : Mesh) (env : Env) (msg : MeshMessage) : Prop :=
  msg.hopCount < Config.maxHops ∧
    (ForwardsData m msg ∧ ReachesPeer m env ∨ Uplink m msg ∧ ReachesMaster m env)

/-- A send leaves the device when the radio takes it.
SOURCE: Mesh.cpp:613-625 -/
theorem sendMessage_sends_iff {m : Mesh} {env : Env} {mac : MacAddress} {msg : MeshMessage} :
    sentFrames (m.sendMessage env mac msg) ≠ [] ↔ Reaches m env mac := by
  unfold Mesh.sendMessage Reaches
  by_cases hself : mac = m.deviceMacAddress
  · simp [hself]
  · rw [if_neg hself]
    cases hsend : env.sendError mac with
    | none => simp [hself]
    | some err => simp [sentFrames]

/-- A flood leaves it when the radio takes one of the peers.
SOURCE: Mesh.cpp:632-636, 975-979 -/
theorem sendToPeers_sends_iff {m : Mesh} {env : Env} {msg : MeshMessage} :
    sentFrames (m.sendToPeers env msg) ≠ [] ↔ ReachesPeer m env := by
  unfold Mesh.sendToPeers ReachesPeer
  induction m.peers.entries with
  | nil => simp
  | cons p ps ih =>
      rw [List.flatMap_cons, sentFrames_append, Ne, List.append_eq_nil_iff, not_and_or,
        List.exists_mem_cons_iff]
      apply or_congr ?_ ih
      by_cases hself : p.mac = m.deviceMacAddress
      · simp [hself, Reaches]
      · rw [if_neg hself]
        exact sendMessage_sends_iff

/-- A message goes up when the master is reached. -/
theorem routeToMaster_sends_iff {m : Mesh} {env : Env} {msg : MeshMessage} :
    sentFrames (m.routeToMaster env msg) ≠ [] ↔ ReachesMaster m env := by
  unfold Mesh.routeToMaster ReachesMaster
  cases hfind : m.findNextHopToMaster env with
  | none => simp [sentFrames]
  | some p =>
      simp only [Option.some.injEq, exists_eq_left']
      by_cases hself : p.mac = m.deviceMacAddress
      · simp [hself, Reaches, sentFrames]
      · rw [if_pos hself]
        exact sendMessage_sends_iff

/-- A flood is passed on below the hop limit.
SOURCE: Mesh.cpp:969-980 -/
theorem relayDownlink_sends_iff {m : Mesh} {env : Env} {msg : MeshMessage} :
    sentFrames (m.relayDownlink env msg) ≠ [] ↔
      msg.hopCount < Config.maxHops ∧ ReachesPeer m env := by
  by_cases hhop : msg.hopCount < Config.maxHops
  · rw [relayDownlink_of_near hhop, sendToPeers_sends_iff]
    simp [hhop]
  · rw [relayDownlink_of_far hhop]
    simp [hhop]

/-- A message on its way up is passed on below the hop limit, when the master is reached.
SOURCE: Mesh.cpp:934-942 -/
theorem relayUplink_sends_iff {m : Mesh} {env : Env} {msg : MeshMessage} :
    sentFrames (m.relayUplink env msg).2 ≠ [] ↔
      msg.hopCount < Config.maxHops ∧ ReachesMaster m env := by
  unfold Mesh.relayUplink
  by_cases hhop : msg.hopCount < Config.maxHops
  · rw [if_neg (UInt8.not_le.mpr hhop)]
    simp only [Mesh.transmitCore, hhop, true_and]
    exact routeToMaster_sends_iff
  · rw [if_pos (UInt8.not_lt.mp hhop)]
    simp [hhop]

/-- Sending calls no callback. -/
theorem notMem_callback_of_radioOnly {effects : List Effect} (h : AllRadioOnly effects)
    (msg : MeshMessage) : Effect.externalRecvCallback msg ∉ effects :=
  fun hmem => h _ hmem

/-- Passing a message up uses the radio only.
SOURCE: Mesh.cpp:934-942 -/
theorem relayUplink_radioOnly (m : Mesh) (env : Env) (msg : MeshMessage) :
    AllRadioOnly (m.relayUplink env msg).2 := by
  unfold Mesh.relayUplink
  split
  · exact allRadioOnly_nil
  · exact transmitCore_radioOnly m env _ _ _ _

/-- Adapter data are delivered exactly under the guards of the delivery.
SOURCE: Mesh.cpp:923-961 -/
theorem processAdapterData_delivers_iff {m : Mesh} {env : Env} {msg : MeshMessage} :
    Effect.externalRecvCallback msg ∈ (m.processAdapterData env msg).2 ↔ Delivers m msg := by
  rw [processAdapterData_eq]
  by_cases huplink : Uplink m msg
  · rw [if_pos huplink]
    have hsilent := notMem_callback_of_radioOnly (relayUplink_radioOnly m env msg) msg
    refine ⟨fun h => absurd h hsilent, fun hdelivers => ?_⟩
    obtain ⟨hnode, hother, hbroadcast, -⟩ := huplink
    have hlocal := hdelivers.2.1
    simp [hnode, hother, hbroadcast] at hlocal
  · rw [if_neg huplink, List.mem_append]
    have hdown : Effect.externalRecvCallback msg ∉
        (if ForwardsData m msg then m.relayDownlink env msg else []) := by
      split
      · exact notMem_callback_of_radioOnly (relayDownlink_radioOnly m env msg) msg
      · exact List.not_mem_nil
    by_cases hdelivers : Delivers m msg
    · simp [hdelivers]
    · simp [hdelivers, hdown]

/-- Adapter data are relayed exactly when they are passed on within the hop limit and a frame
goes out.
SOURCE: Mesh.cpp:934-980 -/
theorem processAdapterData_relays_iff {m : Mesh} {env : Env} {msg : MeshMessage} :
    sentFrames (m.processAdapterData env msg).2 ≠ [] ↔ RelaysData m env msg := by
  rw [processAdapterData_eq, RelaysData]
  by_cases huplink : Uplink m msg
  · have hdown : ¬ForwardsData m msg := fun h => (forwardsData_iff.mp h).2.1 huplink
    rw [if_pos huplink, relayUplink_sends_iff]
    simp [huplink, hdown]
  · have hsilent : sentFrames
        (if Delivers m msg then [Effect.externalRecvCallback msg] else []) = [] := by
      split <;> rfl
    rw [if_neg huplink, sentFrames_append, hsilent, List.nil_append]
    by_cases hdown : ForwardsData m msg
    · rw [if_pos hdown, relayDownlink_sends_iff]
      simp [huplink, hdown]
    · rw [if_neg hdown]
      simp [huplink, hdown]

/-! ## The receive step -/

/-- The guards read neither the replay cache nor the peers' times. -/
theorem delivers_of_received {m m' : Mesh} {env : Env} {entry : RecvQueueEntry}
    (h : received m env entry = some m') (msg : MeshMessage) :
    Delivers m' msg ↔ Delivers m msg := by
  rw [received_frame h]
  exact Iff.rfl

/-- The gate does not change whether data are relayed. -/
theorem relaysData_of_received {m m' : Mesh} {env : Env} {entry : RecvQueueEntry}
    (h : received m env entry = some m') (msg : MeshMessage) :
    RelaysData m' env msg ↔ RelaysData (m.updatePeerLastSeen env entry.srcMac) env msg := by
  obtain ⟨m₁, hgate, rfl⟩ := Option.map_eq_some_iff.mp h
  rw [passGate_frame hgate]
  unfold Mesh.updatePeerLastSeen
  split <;> exact Iff.rfl

/-- Adapter data go to their handler.
SOURCE: Mesh.cpp:584-603 -/
theorem dispatch_adapterData (m : Mesh) (env : Env) {msg : MeshMessage}
    (htype : msg.messageType = MeshMessageType.adapterData) :
    m.dispatch env msg = m.processAdapterData env msg := by
  simp [Mesh.dispatch, htype, MeshMessageType.masterBeacon, MeshMessageType.enrollment,
    MeshMessageType.joinAck, MeshMessageType.adapterData]

/-- **Adapter data that pass the gate are delivered under the guards of the delivery.**
SOURCE: Mesh.cpp:563-604, 923-961 -/
theorem handleEntry_delivers_iff {m : Mesh} {env : Env} {entry : RecvQueueEntry}
    (htype : entry.msg.messageType = MeshMessageType.adapterData) :
    Effect.externalRecvCallback entry.msg ∈ (m.handleEntry env entry).2 ↔
      (m.passGate entry.msg).isSome = true ∧ Delivers m entry.msg := by
  rw [← isSome_received m env entry]
  cases hreceived : received m env entry with
  | none =>
      rw [handleEntry_of_dropped hreceived]
      simp
  | some m' =>
      rw [handleEntry_of_received hreceived, dispatch_adapterData m' env htype,
        processAdapterData_delivers_iff, delivers_of_received hreceived]
      simp

/-- **Adapter data that pass the gate are relayed under the guards of the relays; the source
of the entry has been seen by then.**
SOURCE: Mesh.cpp:563-604, 934-980 -/
theorem handleEntry_relays_iff {m : Mesh} {env : Env} {entry : RecvQueueEntry}
    (htype : entry.msg.messageType = MeshMessageType.adapterData) :
    sentFrames (m.handleEntry env entry).2 ≠ [] ↔ (m.passGate entry.msg).isSome = true ∧
      RelaysData (m.updatePeerLastSeen env entry.srcMac) env entry.msg := by
  rw [← isSome_received m env entry]
  cases hreceived : received m env entry with
  | none =>
      rw [handleEntry_of_dropped hreceived]
      simp
  | some m' =>
      rw [handleEntry_of_received hreceived, dispatch_adapterData m' env htype,
        processAdapterData_relays_iff, relaysData_of_received hreceived]
      simp

/-- The callback sees the entry's own message, and only adapter data. -/
theorem handleEntry_callback {m : Mesh} {env : Env} {entry : RecvQueueEntry} {msg : MeshMessage}
    (h : Effect.externalRecvCallback msg ∈ (m.handleEntry env entry).2) :
    msg = entry.msg ∧ entry.msg.messageType = MeshMessageType.adapterData := by
  constructor
  · rcases handleEntry_effects m env entry with ⟨rest, hrest, heq⟩ | hquiet
    · rw [heq] at h
      rcases List.mem_cons.mp h with hmsg | hmem
      · exact Effect.externalRecvCallback.inj hmsg
      · exact absurd hmem (notMem_callback_of_radioOnly hrest msg)
    · exact (hquiet _ h).elim
  · unfold Mesh.handleEntry at h
    split at h
    · cases h
    · unfold Mesh.dispatch at h
      split at h
      · cases h
      · split at h
        · exact (processJoinAck_quiet _ _ _ _ h).elim
        · split at h
          · exact (processMasterBeacon_quiet _ _ _ _ h).elim
          · split at h
            · next htype => exact htype
            · cases h

end LatticeNodes.Analysis
