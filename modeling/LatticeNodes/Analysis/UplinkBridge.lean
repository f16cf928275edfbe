import LatticeNodes.Analysis.EffectRuns
import LatticeNodes.Analysis.SerialRoundTrip

/-!
# The uplink bridge of a master

A master with a serial adapter is to hand every sensor message addressed to it to the server.
The chain is `processAdapterData`, `dataRecvCallback`, `Adapter::onMeshData` and
`Serial_Adapter::onMeshDataImpl`; `bridgesUplink_iff` says for which messages a frame
carrying the message comes out: those whose `dataType` is the adapter's own type.
-/

set_option autoImplicit false

namespace LatticeNodes.Analysis

open LatticeNodes.Program

/-! ## Statement -/

/-- A master whose adapter is a `Serial_Adapter` linked as the receive callback.
SOURCE: main.ino:280-282 -/
structure BridgingMaster (d : Device) (adapter : Adapter) : Prop where
  isMaster : d.mesh.isMaster = true
  linked : d.mesh.externalRecvCallback = true
  adapter_eq : d.adapter = some adapter
  serial : adapter.adapterType = AdapterTypes.serialAdapter

/-- A message of the server's own opcodes that reconfigures a node.
SOURCE: Adapter.cpp:46-88 -/
def IsReconfiguration (msg : MeshMessage) : Prop :=
  msg.dataType = AdapterTypes.serialAdapter ∧
    (getElem msg.data 0 byte0_lt = Opcode.configSet ∨
      getElem msg.data 0 byte0_lt = Opcode.nodeIdSet)

/-- The payload decodes to the message's origin, target, type, counters and all data bytes.
SOURCE: mesh.pb.h:15-29 -/
def Carries (payload : List UInt8) (msg : MeshMessage) : Prop :=
  ∃ pb, Pb.decode payload = some pb ∧
    pb.originMacAddress = msg.originMacAddress ∧
    pb.targetMacAddress = msg.targetMacAddress ∧
    pb.dataType = msg.dataType ∧
    pb.hopCount = msg.hopCount.toUInt32 ∧
    pb.epochNum = msg.epochNum ∧
    pb.seqNum = msg.seqNum.toUInt32 ∧
    pb.hasData = true ∧ pb.data = ⟨64, msg.data⟩

/-- The step writes exactly one frame to the serial line, and it carries the message.
SOURCE: Serial_Adapter.cpp:179-198 -/
def BridgesUplink (d : Device) (env : DeviceEnv) (entry : RecvQueueEntry) : Prop :=
  ∃ d' payload, d.handleEntry env entry = .ok d' ∧
    d'.serialOut = (d.writeFrame payload).serialOut ∧ Carries payload entry.msg

/-! ## The chain -/

/-- What the encoder writes carries the message.
SOURCE: Serial_Adapter.cpp:203-254 -/
theorem carries_encodeFields (msg : MeshMessage) :
    Carries (Pb.encodeFields (SerialAdapter.toPb msg)) msg :=
  ⟨_, decode_encodeFields (toPb_canonical msg), rfl, rfl, rfl, rfl, rfl, rfl, rfl, rfl⟩

/-- A master delivers what is addressed to it, and does nothing else with it.
SOURCE: Mesh.cpp:923-967 -/
theorem processAdapterData_master {m : Mesh} {env : Env} {msg : MeshMessage}
    (hmaster : m.isMaster = true) (hlinked : m.externalRecvCallback = true)
    (hop : ¬IsReconfiguration msg) :
    m.processAdapterData env msg = (m, [.externalRecvCallback msg]) := by
  have hconfig : Mesh.isConfigOpcode msg = false := by
    rw [← Bool.not_eq_true]
    intro hc
    obtain ⟨htype, hdata⟩ : msg.dataType = AdapterTypes.serialAdapter ∧
        msg.data[0] = Opcode.configSet := by
      simpa [Mesh.isConfigOpcode] using hc
    exact hop ⟨htype, .inl hdata⟩
  simp [Mesh.processAdapterData, hmaster, hlinked, hconfig]

/-- The receive step of a bridging master is the adapter's handler, run on a device that
differs in its replay cache and peer times only.
SOURCE: Mesh.cpp:563-604, main.ino:73-79 -/
theorem handleEntry_bridgingMaster {d : Device} {adapter : Adapter}
    (hd : BridgingMaster d adapter) (env : DeviceEnv) (entry : RecvQueueEntry)
    (htype : entry.msg.messageType = MeshMessageType.adapterData)
    (hgate : (d.mesh.passGate entry.msg).isSome) (hop : ¬IsReconfiguration entry.msg) :
    ∃ mesh, d.handleEntry env entry =
      ({ d with mesh := mesh }).onMeshData env adapter entry.msg := by
  obtain ⟨m, hm⟩ := Option.isSome_iff_exists.mp hgate
  have hframe := updatePeerLastSeen_frame m env.handler entry.srcMac
  have hgateFrame := passGate_frame hm
  have hmaster : (m.updatePeerLastSeen env.handler entry.srcMac).isMaster = true := by
    rw [hframe, hgateFrame]
    exact hd.isMaster
  have hlinked : (m.updatePeerLastSeen env.handler entry.srcMac).externalRecvCallback = true := by
    rw [hframe, hgateFrame]
    exact hd.linked
  have hmesh : d.mesh.handleEntry env.handler entry =
      (m.updatePeerLastSeen env.handler entry.srcMac, [.externalRecvCallback entry.msg]) := by
    have hdispatch : ∀ m' : Mesh, m'.dispatch env.handler entry.msg =
        m'.processAdapterData env.handler entry.msg := by
      intro m'
      simp [Mesh.dispatch, htype, MeshMessageType.adapterData, MeshMessageType.enrollment,
        MeshMessageType.joinAck, MeshMessageType.masterBeacon]
    simp only [Mesh.handleEntry, hm]
    rw [hdispatch, processAdapterData_master hmaster hlinked hop]
  refine ⟨m.updatePeerLastSeen env.handler entry.srcMac, ?_⟩
  have hcallback : Device.dataRecvCallback env
      { d with mesh := m.updatePeerLastSeen env.handler entry.srcMac } entry.msg =
        ({ d with mesh := m.updatePeerLastSeen env.handler entry.srcMac }).onMeshData env adapter
          entry.msg := by
    simp [Device.dataRecvCallback, hd.adapter_eq]
  simp only [Device.handleEntry, Device.commitMesh, hmesh, runEffects_cons, Device.runEffect]
  rw [hcallback]
  cases Device.onMeshData _ env adapter entry.msg <;> rfl

/-- The opcodes of a serial node leave the serial line alone and do not restart.
SOURCE: Serial_Adapter.cpp:153-177 -/
theorem serialOpcode_serialOut (d : Device) (env : Env) (msg : MeshMessage) :
    ∃ d', d.serialOpcode env msg = .ok d' ∧ d'.serialOut = d.serialOut := by
  unfold Device.serialOpcode
  split
  · exact ⟨d, rfl, rfl⟩
  · split
    · obtain ⟨mesh, sent, htransmit⟩ :=
        transmit_eq d env AdapterTypes.serialAdapter (d.healthReport env)
      exact ⟨_, htransmit, rfl⟩
    · split
      · exact ⟨_, rfl, rfl⟩
      · exact ⟨d, rfl, rfl⟩

/-- A serial adapter that is handed a message writes it to the serial line.
SOURCE: Serial_Adapter.cpp:143-201 -/
theorem serialOnMeshDataImpl_writes (d : Device) (env : Env) (msg : MeshMessage) :
    ∃ d', d.serialOnMeshDataImpl env msg = .ok d' ∧ d'.serialOut =
      (d.writeFrame (Pb.encodeFields (SerialAdapter.toPb msg))).serialOut := by
  obtain ⟨d₁, hop, hout⟩ := serialOpcode_serialOut d env msg
  refine ⟨d₁.writeFrame (Pb.encodeFields (SerialAdapter.toPb msg)), ?_, ?_⟩
  · simp only [Device.serialOnMeshDataImpl, hop, Except.bind, encodeMeshMessage_eq]
  · simp only [Device.writeFrame, hout]

/-- The base class passes a serial message on to a serial adapter.
SOURCE: Adapter.cpp:41-138 -/
theorem onMeshData_serialType {d : Device} {env : DeviceEnv} {adapter : Adapter}
    {msg : MeshMessage} (hserial : adapter.adapterType = AdapterTypes.serialAdapter)
    (htype : msg.dataType = AdapterTypes.serialAdapter) (hop : ¬IsReconfiguration msg) :
    d.onMeshData env adapter msg = d.serialOnMeshDataImpl env.callback msg := by
  have hconfig : msg.data[0] ≠ Opcode.configSet := fun h => hop ⟨htype, .inl h⟩
  have hnodeId : msg.data[0] ≠ Opcode.nodeIdSet := fun h => hop ⟨htype, .inr h⟩
  simp [Device.onMeshData, Device.baseOpcode, Device.onMeshDataImpl, Except.bind, htype, hserial,
    hconfig, hnodeId]

/-- A message of another type stops at the type comparison.
SOURCE: Adapter.cpp:135-136 -/
theorem onMeshData_otherType {d : Device} {env : DeviceEnv} {adapter : Adapter}
    {msg : MeshMessage} (hserial : adapter.adapterType = AdapterTypes.serialAdapter)
    (htype : msg.dataType ≠ AdapterTypes.serialAdapter) :
    d.onMeshData env adapter msg = .ok d := by
  have hled : AdapterTypes.serialAdapter ≠ AdapterTypes.ledAdapter := by decide
  simp [Device.onMeshData, htype, hled, hserial]

/-! ## Result -/

/-- **A master bridges exactly the messages of its adapter's own type.**  A master delivers
`ADAPTER_DATA` whatever its target, so the target does not matter here.
SOURCE: Mesh.cpp:923-967, Adapter.cpp:41-138, Serial_Adapter.cpp:143-254 -/
theorem bridgesUplink_iff {d : Device} {adapter : Adapter} (hd : BridgingMaster d adapter)
    (env : DeviceEnv) (entry : RecvQueueEntry)
    (htype : entry.msg.messageType = MeshMessageType.adapterData)
    (hgate : (d.mesh.passGate entry.msg).isSome) (hop : ¬IsReconfiguration entry.msg) :
    BridgesUplink d env entry ↔ entry.msg.dataType = AdapterTypes.serialAdapter := by
  obtain ⟨mesh, hstep⟩ := handleEntry_bridgingMaster hd env entry htype hgate hop
  constructor
  · rintro ⟨d', payload, hok, hout, -⟩
    by_contra hother
    rw [hstep, onMeshData_otherType hd.serial hother] at hok
    cases hok
    simp [Device.writeFrame] at hout
  · intro hserial
    rw [BridgesUplink, hstep, onMeshData_serialType hd.serial hserial hop]
    obtain ⟨d', hok, hout⟩ :=
      serialOnMeshDataImpl_writes { d with mesh := mesh } env.callback entry.msg
    exact ⟨d', _, hok, hout, carries_encodeFields entry.msg⟩

/-! ## A motion event -/

/-- A freshly booted master with a serial adapter. -/
def plainMaster : Device where
  mesh := { Mesh.new with isMaster := true, externalRecvCallback := true }
  eeprom := EepromManager.powerUp blankImage
  adapter := some serialAdapter
  factoryDevMode := false
  wifiMac := zeroMac
  serialOut := []
  sent := []

/-- An event of the given adapter type, addressed to the master. -/
def sensorEntry (type : AdapterTypes) : RecvQueueEntry :=
  ⟨zeroMac,
    { MeshMessage.zero with
      protoVersion := Config.protoVersion
      dataType := type
      epochNum := 1
      seqNum := 1
      data := zeroPayload.set 0 1 byte0_lt }⟩

/-- The plain master bridges. -/
theorem plainMaster_bridging : BridgingMaster plainMaster serialAdapter :=
  ⟨rfl, rfl, rfl, rfl⟩

/-- A message of the serial type comes out on the serial line. -/
theorem bridgesUplink_serial :
    BridgesUplink plainMaster quietDeviceEnv (sensorEntry AdapterTypes.serialAdapter) :=
  (bridgesUplink_iff plainMaster_bridging quietDeviceEnv _ rfl (by decide)
    (by rw [IsReconfiguration]; decide)).mpr rfl

/-- A motion event does not.
SOURCE: Adapter.cpp:135-136 -/
theorem not_bridgesUplink_pir :
    BridgingMaster plainMaster serialAdapter ∧
      (plainMaster.mesh.passGate (sensorEntry AdapterTypes.pirAdapter).msg).isSome ∧
      ¬IsReconfiguration (sensorEntry AdapterTypes.pirAdapter).msg ∧
      ¬BridgesUplink plainMaster quietDeviceEnv (sensorEntry AdapterTypes.pirAdapter) := by
  have hgate : (plainMaster.mesh.passGate (sensorEntry AdapterTypes.pirAdapter).msg).isSome := by
    decide
  have hop : ¬IsReconfiguration (sensorEntry AdapterTypes.pirAdapter).msg := by
    rw [IsReconfiguration]
    decide
  refine ⟨plainMaster_bridging, hgate, hop, ?_⟩
  obtain ⟨mesh, hstep⟩ :=
    handleEntry_bridgingMaster plainMaster_bridging quietDeviceEnv _ rfl hgate hop
  rintro ⟨d', payload, hok, hout, -⟩
  rw [hstep, onMeshData_otherType rfl (by decide)] at hok
  cases hok
  simp [Device.writeFrame] at hout

end LatticeNodes.Analysis
