import LatticeNodes.Analysis.EepromStore
import LatticeNodes.Analysis.MeshFrames

/-!
# Who may reconfigure a node

Three opcodes change what a node has stored: its adapter type, its node ID and its transmit power.
The mesh object checks the sender of the first only, and the two others are carried out further on,
by the base class for every adapter and by the serial adapter.  `settings_untouched_iff` says for
which messages of a stranger the settings stay as they are.
-/

set_option autoImplicit false

namespace LatticeNodes.Analysis

open LatticeNodes.Program FieldStore

namespace Reconfiguration

open EepromFields EepromField

/-! ## Statement -/

/-- What the loads of the three settings return is as before. -/
structure SameSettings (em em' : EepromManager) : Prop where
  adapterType : em'.loadAdapterType = em.loadAdapterType
  nodeId : em'.loadNodeId = em.loadNodeId
  txPowerPreset : em'.loadTxPowerPreset = em.loadTxPowerPreset

/-- Processing the message, down to the adapter, does not restart the node and changes no
setting.
SOURCE: Mesh.cpp:923-967, Adapter.cpp:41-138, Serial_Adapter.cpp:143-201 -/
def Untouched (d : Device) (env : DeviceEnv) (msg : MeshMessage) : Prop :=
  ∃ d', d.commitMesh (Device.dataRecvCallback env) (d.mesh.processAdapterData env.handler msg) =
    .ok d' ∧ SameSettings d.eeprom d'.eeprom

/-- The message is for this node, which has its adapter linked.
SOURCE: Mesh.cpp:927-946, 959-960 -/
def Delivered (m : Mesh) (msg : MeshMessage) : Prop :=
  (msg.targetMacAddress = m.deviceMacAddress ∨ msg.targetMacAddress = broadcastMac) ∧
    m.externalRecvCallback = true

/-- An `OP_NODE_ID_SET` for this node with another ID than the stored one.
SOURCE: Adapter.cpp:72-88, EEPROM_Manager.cpp:555-568 -/
def SetsNodeId (d : Device) (msg : MeshMessage) : Prop :=
  getElem msg.data 0 byte0_lt = Opcode.nodeIdSet ∧ d.targets (Device.dataAddress msg) = true ∧
    d.eeprom.isInitialized = true ∧ unlessErased (getElem msg.data 7 byte7_lt) ≠ d.eeprom.loadNodeId

/-- An `OP_TX_POWER_SET` with a valid preset other than the stored one, on a production node with
a serial adapter.
SOURCE: Serial_Adapter.cpp:160-176, EEPROM_Manager.cpp:537-553 -/
def SetsTxPower (d : Device) (adapter : Adapter) (msg : MeshMessage) : Prop :=
  getElem msg.data 0 byte0_lt = Opcode.txPowerSet ∧
    adapter.adapterType = AdapterTypes.serialAdapter ∧
    getElem msg.data 1 byte1_lt ≤ 2 ∧ (d.eeprom.isInitialized = true ∧ d.eeprom.isDevMode = false) ∧
      getElem msg.data 1 byte1_lt ≠ d.eeprom.loadTxPowerPreset

/-- The reconfigurations that the mesh object does not check. -/
def Reconfigures (d : Device) (msg : MeshMessage) : Prop :=
  Delivered d.mesh msg ∧ msg.dataType = AdapterTypes.serialAdapter ∧
    ∃ adapter, d.adapter = some adapter ∧ (SetsNodeId d msg ∨ SetsTxPower d adapter msg)

/-! ## The two saves -/

section Saves

variable {em : EepromManager}

/-- A manager has its own settings. -/
theorem SameSettings.refl (em : EepromManager) : SameSettings em em := ⟨rfl, rfl, rfl⟩

/-- A node ID is stored beside the two other settings.
SOURCE: EEPROM_Manager.cpp:555-568 -/
theorem sameSettings_saveNodeId (id : UInt8) : SameSettings em (em.saveNodeId id) ↔
    ¬(em.isInitialized = true ∧ unlessErased id ≠ em.loadNodeId) := by
  by_cases hinit : em.isInitialized = true
  · have hread : (em.saveNodeId id).read = Function.update em.read EepromAddresses.nodeId id := by
      have hbound : ∀ w ∈ [(EepromAddresses.nodeId, id)], w.1 < EepromSizes.totalSize := by
        intro w hw
        rw [List.mem_singleton.mp hw]
        exact (by decide : EepromAddresses.nodeId < EepromSizes.totalSize)
      rw [EepromManager.saveNodeId, onceInitialized_open hinit, read_deferredSave em hbound,
        overwrite_singleton]
    have hinit' : (em.saveNodeId id).isInitialized = true := by
      rw [EepromManager.saveNodeId, onceInitialized_open hinit]
      exact hinit
    have htype : EepromAddresses.adapterType ≠ EepromAddresses.nodeId := by decide
    have hpower : EepromAddresses.txPowerPreset ≠ EepromAddresses.nodeId := by decide
    have hload : (em.saveNodeId id).loadNodeId = unlessErased id := by
      simp [EepromManager.loadNodeId, hinit', hread, unlessErased]
    constructor
    · rintro hsame ⟨-, hother⟩
      exact hother (hload.symm.trans hsame.nodeId)
    · intro hnot
      have hsame : unlessErased id = em.loadNodeId := by
        by_contra hother
        exact hnot ⟨hinit, hother⟩
      refine ⟨?_, hload.trans hsame, ?_⟩
      · simp [EepromManager.loadAdapterType, hinit, hinit', hread,
          Function.update_of_ne htype]
      · simp [EepromManager.loadTxPowerPreset, hinit, hinit', hread,
          Function.update_of_ne hpower]
  · rw [EepromManager.saveNodeId, onceInitialized_closed hinit]
    exact ⟨fun _ h => hinit h.1, fun _ => SameSettings.refl em⟩

/-- A valid preset is stored beside the two other settings.
SOURCE: EEPROM_Manager.cpp:537-553 -/
theorem sameSettings_saveTxPowerPreset {preset : UInt8} (hvalid : preset ≤ 2) :
    SameSettings em (em.saveTxPowerPreset preset) ↔
      ¬((em.isInitialized = true ∧ em.isDevMode = false) ∧ preset ≠ em.loadTxPowerPreset) := by
  by_cases hopen : em.isInitialized = true ∧ em.isDevMode = false
  · obtain ⟨hinit, hdev⟩ := hopen
    have hread : (em.saveTxPowerPreset preset).read =
        Function.update em.read EepromAddresses.txPowerPreset preset := by
      have hbound : ∀ w ∈ [(EepromAddresses.txPowerPreset, preset)],
          w.1 < EepromSizes.totalSize := by
        intro w hw
        rw [List.mem_singleton.mp hw]
        exact (by decide : EepromAddresses.txPowerPreset < EepromSizes.totalSize)
      rw [EepromManager.saveTxPowerPreset, unlessDevMode_open hinit hdev,
        read_committedSave em hbound, overwrite_singleton]
    have hinit' : (em.saveTxPowerPreset preset).isInitialized = true := by
      rw [EepromManager.saveTxPowerPreset, unlessDevMode_open hinit hdev]
      exact hinit
    have htype : EepromAddresses.adapterType ≠ EepromAddresses.txPowerPreset := by decide
    have hid : EepromAddresses.nodeId ≠ EepromAddresses.txPowerPreset := by decide
    have henum : ¬(2 < preset ∨ preset = 0xFF) := by
      rintro (hlarge | rfl)
      · exact UInt8.not_lt.mpr hvalid hlarge
      · exact absurd hvalid (by decide)
    have hload : (em.saveTxPowerPreset preset).loadTxPowerPreset = preset := by
      simp [EepromManager.loadTxPowerPreset, hinit', hread, henum]
    constructor
    · rintro hsame ⟨-, hother⟩
      exact hother (hload.symm.trans hsame.txPowerPreset)
    · intro hnot
      have hsame : preset = em.loadTxPowerPreset := by
        by_contra hother
        exact hnot ⟨⟨hinit, hdev⟩, hother⟩
      refine ⟨?_, ?_, hload.trans hsame⟩
      · simp [EepromManager.loadAdapterType, hinit, hinit', hread,
          Function.update_of_ne htype]
      · simp [EepromManager.loadNodeId, hinit, hinit', hread, Function.update_of_ne hid]
  · rw [EepromManager.saveTxPowerPreset, unlessDevMode_closed hopen]
    exact ⟨fun _ h => hopen h.1, fun _ => SameSettings.refl em⟩

end Saves

/-! ## The adapter's side -/

section Adapter

variable {d : Device} {adapter : Adapter} {msg : MeshMessage}

/-- The EEPROM after the opcode of a message that is not a `CONFIG_SET`.
SOURCE: Adapter.cpp:72-88, Serial_Adapter.cpp:153-177 -/
def reconfigured (d : Device) (adapter : Adapter) (msg : MeshMessage) : EepromManager :=
  if msg.dataType ≠ AdapterTypes.serialAdapter then d.eeprom
  else if getElem msg.data 0 byte0_lt = Opcode.nodeIdSet then (d.applyNodeIdSet msg).eeprom
  else if adapter.adapterType = AdapterTypes.serialAdapter ∧
      getElem msg.data 0 byte0_lt = Opcode.txPowerSet ∧ getElem msg.data 1 byte1_lt ≤ 2 then
    d.eeprom.saveTxPowerPreset (getElem msg.data 1 byte1_lt)
  else d.eeprom

/-- A transmission leaves the EEPROM alone. -/
theorem sendHealthReport_eeprom (d : Device) (env : Env) :
    ∃ d', d.sendHealthReport env = .ok d' ∧ d'.eeprom = d.eeprom := by
  obtain ⟨mesh, sent, htransmit⟩ :=
    transmit_eq d env AdapterTypes.serialAdapter (d.healthReport env)
  exact ⟨_, htransmit, rfl⟩

/-- Of the serial adapter's own opcodes one stores a preset. -/
theorem serialOpcode_eeprom (d : Device) (env : Env) (msg : MeshMessage) :
    ∃ d', d.serialOpcode env msg = .ok d' ∧ d'.eeprom =
      if msg.dataType = AdapterTypes.serialAdapter ∧
        getElem msg.data 0 byte0_lt = Opcode.txPowerSet ∧ getElem msg.data 1 byte1_lt ≤ 2
      then d.eeprom.saveTxPowerPreset (getElem msg.data 1 byte1_lt) else d.eeprom := by
  unfold Device.serialOpcode
  by_cases htype : msg.dataType = AdapterTypes.serialAdapter
  · rw [if_neg (not_not.mpr htype)]
    by_cases hhealth : msg.data[0] = Opcode.healthReq
    · obtain ⟨d', hsent, heeprom⟩ := sendHealthReport_eeprom d env
      have hother : Opcode.healthReq ≠ Opcode.txPowerSet := by decide
      rw [if_pos hhealth, hhealth, if_neg fun h => hother h.2.1]
      exact ⟨d', hsent, heeprom⟩
    · rw [if_neg hhealth]
      by_cases hpower : msg.data[0] = Opcode.txPowerSet ∧ msg.data[1] ≤ 2
      · rw [if_pos hpower, if_pos ⟨htype, hpower⟩]
        exact ⟨_, rfl, rfl⟩
      · rw [if_neg hpower, if_neg fun h => hpower h.2]
        exact ⟨d, rfl, rfl⟩
  · rw [if_pos htype, if_neg fun h => htype h.1]
    exact ⟨d, rfl, rfl⟩

/-- What a serial adapter does with the message; forwarding it stores nothing. -/
theorem serialOnMeshDataImpl_eeprom (d : Device) (env : Env) (msg : MeshMessage) :
    ∃ d', d.serialOnMeshDataImpl env msg = .ok d' ∧ d'.eeprom =
      if msg.dataType = AdapterTypes.serialAdapter ∧
        getElem msg.data 0 byte0_lt = Opcode.txPowerSet ∧ getElem msg.data 1 byte1_lt ≤ 2
      then d.eeprom.saveTxPowerPreset (getElem msg.data 1 byte1_lt) else d.eeprom := by
  obtain ⟨d₁, hok, heeprom⟩ := serialOpcode_eeprom d env msg
  rw [Device.serialOnMeshDataImpl, hok]
  simp only [Except.bind]
  split
  · exact ⟨d₁, rfl, heeprom⟩
  · exact ⟨_, rfl, heeprom⟩

/-- Only a serial adapter has opcodes of its own, and of these only the preset is stored.
SOURCE: Adapter.cpp:140-142, Serial_Adapter.cpp:143-201, PIR_Adapter.cpp:124-126 -/
theorem onMeshDataImpl_eeprom (d : Device) (env : Env) (adapter : Adapter) (msg : MeshMessage) :
    ∃ d', d.onMeshDataImpl env adapter msg = .ok d' ∧ d'.eeprom =
      if adapter.adapterType = AdapterTypes.serialAdapter ∧
        msg.dataType = AdapterTypes.serialAdapter ∧
        getElem msg.data 0 byte0_lt = Opcode.txPowerSet ∧ getElem msg.data 1 byte1_lt ≤ 2
      then d.eeprom.saveTxPowerPreset (getElem msg.data 1 byte1_lt) else d.eeprom := by
  unfold Device.onMeshDataImpl
  by_cases hserial : adapter.adapterType = AdapterTypes.serialAdapter
  · obtain ⟨d', hok, heeprom⟩ := serialOnMeshDataImpl_eeprom d env msg
    rw [if_pos hserial]
    refine ⟨d', hok, ?_⟩
    simpa only [hserial, true_and] using heeprom
  · rw [if_neg hserial, if_neg fun h => hserial h.1]
    exact ⟨d, rfl, rfl⟩

/-- What follows the opcodes of the base class.
SOURCE: Adapter.cpp:89-93, 137 -/
theorem afterBaseOpcode_eeprom (d : Device) (env : Env) (adapter : Adapter) {msg : MeshMessage}
    (htype : msg.dataType = AdapterTypes.serialAdapter) :
    ∃ d', (if adapter.adapterType ≠ AdapterTypes.serialAdapter then .ok d
      else d.onMeshDataImpl env adapter msg : Outcome) = .ok d' ∧ d'.eeprom =
      if adapter.adapterType = AdapterTypes.serialAdapter ∧
        getElem msg.data 0 byte0_lt = Opcode.txPowerSet ∧ getElem msg.data 1 byte1_lt ≤ 2
      then d.eeprom.saveTxPowerPreset (getElem msg.data 1 byte1_lt) else d.eeprom := by
  by_cases hserial : adapter.adapterType = AdapterTypes.serialAdapter
  · obtain ⟨d', hok, heeprom⟩ := onMeshDataImpl_eeprom d env adapter msg
    rw [if_neg (not_not.mpr hserial)]
    refine ⟨d', hok, ?_⟩
    simpa only [htype, true_and] using heeprom
  · rw [if_pos hserial, if_neg fun h => hserial h.1]
    exact ⟨d, rfl, rfl⟩

/-- The stubs of the LED commands store nothing.
SOURCE: Adapter.cpp:99-131 -/
theorem ledCommand_eeprom (d : Device) (env : DeviceEnv) (adapter : Adapter)
    (msg : MeshMessage) :
    ∃ d', d.ledCommand env adapter msg = .ok d' ∧ d'.eeprom = d.eeprom := by
  unfold Device.ledCommand
  simp only
  split
  · unfold Device.sendDataThroughMesh
    split
    · obtain ⟨mesh, sent, htransmit⟩ := transmit_eq d env.callback AdapterTypes.serialAdapter
        (Vector.ofFn fun i => ([Opcode.commandAck, msg.data[0]] ++ List.replicate 10 0 ++
          env.behindAck.toList).getD i 0)
      exact ⟨_, htransmit, rfl⟩
    · exact ⟨d, rfl, rfl⟩
  · exact ⟨d, rfl, rfl⟩

/-- **What an adapter does with a message that is not a `CONFIG_SET`**: it returns, and the
opcodes it knows are carried out, whoever sent them.
SOURCE: Adapter.cpp:41-138 -/
theorem onMeshData_eeprom (d : Device) (env : DeviceEnv) (adapter : Adapter) {msg : MeshMessage}
    (hconfig : Mesh.isConfigOpcode msg = false) :
    ∃ d', d.onMeshData env adapter msg = .ok d' ∧ d'.eeprom = reconfigured d adapter msg := by
  unfold Device.onMeshData reconfigured
  by_cases htype : msg.dataType = AdapterTypes.serialAdapter
  · have hop : msg.data[0] ≠ Opcode.configSet := by
      intro hop
      rw [Mesh.isConfigOpcode, htype, hop] at hconfig
      cases hconfig
    rw [if_pos htype, if_neg (not_not.mpr htype), Device.baseOpcode, if_neg hop]
    by_cases hid : msg.data[0] = Opcode.nodeIdSet
    · have hother : Opcode.nodeIdSet ≠ Opcode.txPowerSet := by decide
      obtain ⟨d', hok, heeprom⟩ :=
        afterBaseOpcode_eeprom (d.applyNodeIdSet msg) env.callback adapter htype
      rw [hid, if_neg fun h => hother h.2.1] at heeprom
      rw [if_pos hid, if_pos hid]
      exact ⟨d', hok, heeprom⟩
    · rw [if_neg hid, if_neg hid]
      exact afterBaseOpcode_eeprom d env.callback adapter htype
  · rw [if_neg htype, if_pos htype]
    split
    · exact ledCommand_eeprom d env adapter msg
    · split
      · exact ⟨d, rfl, rfl⟩
      · obtain ⟨d', hok, heeprom⟩ := onMeshDataImpl_eeprom d env.callback adapter msg
        rw [if_neg fun h => htype h.2.1] at heeprom
        exact ⟨d', hok, heeprom⟩

end Adapter

/-! ## The mesh object's side -/

section Mesh

variable {m : Mesh} {msg : MeshMessage}

/-- A message that is delivered reaches the adapter before it is relayed.
SOURCE: Mesh.cpp:923-967 -/
theorem processAdapterData_delivered (hdelivered : Delivered m msg)
    (hconfig : Mesh.isConfigOpcode msg = false) (env : Env) :
    ∃ rest, AllRadioOnly rest ∧
      (m.processAdapterData env msg).2 = .externalRecvCallback msg :: rest := by
  obtain ⟨htarget, hlinked⟩ := hdelivered
  have hlocal : (!m.isMaster && !(msg.targetMacAddress == m.deviceMacAddress) &&
      !(msg.targetMacAddress == broadcastMac)) = false := by
    rcases htarget with heq | heq
    · simp [heq]
    · simp [heq]
  refine ⟨if (msg.targetMacAddress == broadcastMac && !m.isMaster) = true then
    m.relayDownlink env msg else [], ?_, ?_⟩
  · split
    · exact relayDownlink_radioOnly m env msg
    · exact allRadioOnly_nil
  · simp [Mesh.processAdapterData, hlocal, hconfig, hlinked]

/-- A node that knows its master drops a `CONFIG_SET` of anyone else, and what it does not deliver
is at most relayed. -/
theorem processAdapterData_dropped (hnode : m.isMaster = false) (hknows : m.hasMasterMac = true)
    (hstranger : msg.originMacAddress ≠ m.knownMasterMac)
    (h : ¬(Delivered m msg ∧ Mesh.isConfigOpcode msg = false)) (env : Env) :
    AllRadioOnly (m.processAdapterData env msg).2 := by
  unfold Mesh.processAdapterData
  simp only [hnode, Bool.not_false, Bool.true_and, hknows, Bool.and_true]
  split
  · split
    · unfold Mesh.relayUplink
      split
      · exact allRadioOnly_nil
      · exact transmitCore_radioOnly _ _ _ _ _ _
    · exact relayDownlink_radioOnly m env msg
  · next hlocal =>
    split
    · exact allRadioOnly_nil
    · next hguard =>
      have hconfig : Mesh.isConfigOpcode msg = false := by
        have hother : (msg.originMacAddress != m.knownMasterMac) = true := by
          simpa using hstranger
        rw [hother, Bool.and_true] at hguard
        simpa using hguard
      have htarget : msg.targetMacAddress = m.deviceMacAddress ∨
          msg.targetMacAddress = broadcastMac := by
        simpa [or_iff_not_imp_left] using hlocal
      have hunlinked : ¬m.externalRecvCallback = true :=
        fun hlinked => h ⟨⟨htarget, hlinked⟩, hconfig⟩
      rw [if_neg hunlinked, List.nil_append]
      split
      · exact relayDownlink_radioOnly m env msg
      · exact allRadioOnly_nil

end Mesh

/-! ## Result -/

section Result

variable {d : Device} {msg : MeshMessage}

/-- The settings after an opcode are those before, unless it is one of the two. -/
theorem sameSettings_reconfigured {adapter : Adapter} :
    SameSettings d.eeprom (reconfigured d adapter msg) ↔
      ¬(msg.dataType = AdapterTypes.serialAdapter ∧
        (SetsNodeId d msg ∨ SetsTxPower d adapter msg)) := by
  unfold reconfigured
  by_cases htype : msg.dataType = AdapterTypes.serialAdapter
  · rw [if_neg (not_not.mpr htype)]
    by_cases hid : msg.data[0] = Opcode.nodeIdSet
    · have hpower : ¬SetsTxPower d adapter msg := by
        rintro ⟨hop, -⟩
        rw [hid] at hop
        exact absurd hop (by decide)
      rw [if_pos hid, Device.applyNodeIdSet]
      by_cases htarget : d.targets (Device.dataAddress msg) = true
      · rw [if_pos htarget, sameSettings_saveNodeId]
        simp [htype, hpower, SetsNodeId, hid, htarget]
      · rw [if_neg htarget]
        simp [htype, hpower, SetsNodeId, htarget, SameSettings.refl d.eeprom]
    · have hnode : ¬SetsNodeId d msg := fun h => hid h.1
      rw [if_neg hid]
      by_cases hpower : adapter.adapterType = AdapterTypes.serialAdapter ∧
          msg.data[0] = Opcode.txPowerSet ∧ msg.data[1] ≤ 2
      · rw [if_pos hpower, sameSettings_saveTxPowerPreset hpower.2.2]
        simp [htype, hnode, SetsTxPower, hpower.1, hpower.2.1, hpower.2.2]
      · have hnotSet : ¬SetsTxPower d adapter msg :=
          fun h => hpower ⟨h.2.1, h.1, h.2.2.1⟩
        rw [if_neg hpower]
        simp [hnode, hnotSet, SameSettings.refl d.eeprom]
  · rw [if_pos htype]
    simp [htype, SameSettings.refl d.eeprom]

/-- The EEPROM after a stranger's message. -/
theorem processAdapterData_eeprom (hnode : d.mesh.isMaster = false)
    (hknows : d.mesh.hasMasterMac = true)
    (hstranger : msg.originMacAddress ≠ d.mesh.knownMasterMac) (env : DeviceEnv) :
    ∃ d', d.commitMesh (Device.dataRecvCallback env)
      (d.mesh.processAdapterData env.handler msg) = .ok d' ∧
        (¬(Delivered d.mesh msg ∧ Mesh.isConfigOpcode msg = false) → d'.eeprom = d.eeprom) ∧
        (Delivered d.mesh msg ∧ Mesh.isConfigOpcode msg = false →
          (d.adapter = none → d'.eeprom = d.eeprom) ∧
          ∀ adapter, d.adapter = some adapter → d'.eeprom = reconfigured d adapter msg) := by
  have hsame : ({ d with mesh := (d.mesh.processAdapterData env.handler msg).1 } : Device) = d := by
    rw [processAdapterData_fst]
  by_cases hreach : Delivered d.mesh msg ∧ Mesh.isConfigOpcode msg = false
  · obtain ⟨rest, hrest, heffects⟩ := processAdapterData_delivered hreach.1 hreach.2 env.handler
    obtain ⟨d₁, hok, hnone, hsome⟩ : ∃ d₁, Device.dataRecvCallback env d msg = .ok d₁ ∧
        (d.adapter = none → d₁.eeprom = d.eeprom) ∧
          ∀ adapter, d.adapter = some adapter → d₁.eeprom = reconfigured d adapter msg := by
      unfold Device.dataRecvCallback
      cases hadapter : d.adapter with
      | none => exact ⟨d, rfl, fun _ => rfl, nofun⟩
      | some adapter =>
          obtain ⟨d₁, hok, heeprom⟩ := onMeshData_eeprom d env adapter hreach.2
          refine ⟨d₁, hok, nofun, fun adapter' heq => ?_⟩
          cases heq
          exact heeprom
    refine ⟨{ d₁ with sent := d₁.sent ++ sentFrames rest }, ?_, fun hnot => absurd hreach hnot,
      fun _ => ⟨hnone, hsome⟩⟩
    rw [Device.commitMesh, hsame, heffects, runEffects_cons, Device.runEffect, hok]
    exact runEffects_radioOnly _ _ hrest
  · have hradio := processAdapterData_dropped hnode hknows hstranger hreach env.handler
    refine ⟨{ d with sent := d.sent ++ sentFrames (d.mesh.processAdapterData env.handler msg).2 },
      ?_, fun _ => rfl, fun hyes => absurd hyes hreach⟩
    rw [Device.commitMesh, hsame]
    exact runEffects_radioOnly _ _ hradio

/-- **A stranger's message leaves the settings alone exactly when it is none of the two opcodes
that the mesh object does not check**, or stores what is stored already.
SOURCE: Mesh.cpp:948-967, Adapter.cpp:41-93, Serial_Adapter.cpp:143-177 -/
theorem settings_untouched_iff (hnode : d.mesh.isMaster = false)
    (hknows : d.mesh.hasMasterMac = true)
    (hstranger : msg.originMacAddress ≠ d.mesh.knownMasterMac) (env : DeviceEnv) :
    Untouched d env msg ↔ ¬Reconfigures d msg := by
  obtain ⟨d', hok, hdropped, hdelivered⟩ := processAdapterData_eeprom hnode hknows hstranger env
  have hsettings : Untouched d env msg ↔ SameSettings d.eeprom d'.eeprom := by
    unfold Untouched
    rw [hok]
    constructor
    · rintro ⟨d'', heq, hsame⟩
      cases heq
      exact hsame
    · exact fun hsame => ⟨d', rfl, hsame⟩
  rw [hsettings]
  have hnotConfig : msg.dataType = AdapterTypes.serialAdapter →
      (msg.data[0] = Opcode.nodeIdSet ∨ msg.data[0] = Opcode.txPowerSet) →
        Mesh.isConfigOpcode msg = false := by
    intro _ hop
    have hother : msg.data[0] ≠ Opcode.configSet := by
      rcases hop with hop | hop
      · rw [hop]
        decide
      · rw [hop]
        decide
    simp [Mesh.isConfigOpcode, hother]
  by_cases hreach : Delivered d.mesh msg ∧ Mesh.isConfigOpcode msg = false
  · obtain ⟨hnone, hsome⟩ := hdelivered hreach
    cases hadapter : d.adapter with
    | none =>
        rw [hnone hadapter]
        simp [Reconfigures, hadapter, SameSettings.refl d.eeprom]
    | some adapter =>
        rw [hsome adapter hadapter, sameSettings_reconfigured]
        simp [Reconfigures, hadapter, hreach.1]
  · rw [hdropped hreach]
    refine ⟨fun _ => ?_, fun _ => SameSettings.refl d.eeprom⟩
    rintro ⟨hdeliv, htype, adapter, -, hsets⟩
    exact hreach ⟨hdeliv, hnotConfig htype (hsets.imp And.left And.left)⟩

end Result

/-! ## A stranger's commands -/

/-- A node with a PIR adapter that trusts the master `02:00:00:00:00:01`. -/
def pirNode : Device where
  mesh := { Mesh.new with
    knownMasterMac := #v[2, 0, 0, 0, 0, 1]
    hasMasterMac := true
    externalRecvCallback := true }
  eeprom := { EepromManager.powerUp blankImage with isInitialized := true }
  adapter := some pirAdapter
  factoryDevMode := false
  wifiMac := zeroMac
  serialOut := []
  sent := []

/-- A command to every node, from `02:00:00:00:00:09`, with value 7. -/
def strangerCommand (op : UInt8) : MeshMessage :=
  { MeshMessage.zero with
    messageType := MeshMessageType.adapterData
    dataType := AdapterTypes.serialAdapter
    originMacAddress := #v[2, 0, 0, 0, 0, 9]
    targetMacAddress := broadcastMac
    data := Vector.ofFn fun i => [op, 0xFF, 0xFF, 0xFF, 0xFF, 0xFF, 0xFF, 7].getD i 0 }

/-- A commanded adapter type of a stranger is rejected. -/
theorem settings_untouched_iff_configSet :
    Untouched pirNode quietDeviceEnv (strangerCommand Opcode.configSet) := by
  refine (settings_untouched_iff rfl rfl (by decide) quietDeviceEnv).mpr ?_
  rintro ⟨-, -, adapter, -, ⟨hop, -⟩ | ⟨hop, -⟩⟩
  · exact absurd hop (by decide)
  · exact absurd hop (by decide)

/-- A commanded node ID of a stranger is stored. -/
theorem not_untouched_nodeIdSet :
    pirNode.mesh.isMaster = false ∧ pirNode.mesh.hasMasterMac = true ∧
      (strangerCommand Opcode.nodeIdSet).originMacAddress ≠ pirNode.mesh.knownMasterMac ∧
      ¬Untouched pirNode quietDeviceEnv (strangerCommand Opcode.nodeIdSet) := by
  have hstranger : (strangerCommand Opcode.nodeIdSet).originMacAddress ≠
      pirNode.mesh.knownMasterMac := by decide
  obtain ⟨d', hok, -, hdelivered⟩ :=
    @processAdapterData_eeprom pirNode (strangerCommand Opcode.nodeIdSet) rfl rfl hstranger
      quietDeviceEnv
  have heeprom := (hdelivered ⟨⟨.inr rfl, rfl⟩, by decide⟩).2 _ rfl
  refine ⟨rfl, rfl, hstranger, ?_⟩
  rintro ⟨d'', hok', hsame⟩
  cases hok.symm.trans hok'
  rw [heeprom, sameSettings_reconfigured] at hsame
  exact hsame ⟨rfl, .inl ⟨by decide, by decide, rfl, by decide⟩⟩

end Reconfiguration

end LatticeNodes.Analysis
