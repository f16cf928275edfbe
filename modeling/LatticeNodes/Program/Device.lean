import LatticeNodes.Program.AdapterFactory
import LatticeNodes.Program.MeshHandlers
import LatticeNodes.Program.SerialCodec

/-!
# The device

The mesh object, the EEPROM manager and the adapter put together as `main.ino` does: where
the effects of a mesh call end up, the adapter's side of a received message
(`Adapter::onMeshData`, `Serial_Adapter::onMeshDataImpl`), the serial side
(`Serial_Adapter::handleCompleteFrame`) and the places that restart the device.

A restart does not return to its caller: `Outcome` is the device a call leaves, or the
restart with the device at that moment, whose RAM image is then lost.
-/

set_option autoImplicit false

namespace LatticeNodes.Program

/-! ## State and outcome -/

/-- The device.  `wifiMac` is what `esp_wifi_get_mac` reads, `serialOut` the bytes written to
`Serial`, `sent` the frames the radio accepted, oldest first.
SOURCE: main.ino:42-46, AdapterFactory.cpp:15 -/
structure Device where
  mesh : Mesh
  eeprom : EepromManager
  adapter : Option Adapter
  factoryDevMode : Bool
  wifiMac : MacAddress
  serialOut : List UInt8
  sent : List (MacAddress × MeshMessage)

/-- The call sites of `ESP.restart()`.
SOURCE: Adapter.cpp:66, Serial_Adapter.cpp:468, ErrorCore.cpp:101, main.ino:392, 421 -/
inductive RestartSite where
  | adapterConfigSet
  | serialConfigSet
  | errorCore
  | configButton
  | resetButton
  deriving DecidableEq, Repr

structure Restart where
  site : RestartSite
  device : Device

abbrev Outcome := Except Restart Device

/-- The readings of one step of the device.  `handler` are those of the mesh function that
runs, `callback` those of the mesh calls made from the receive callback; `behindAck` are the
52 bytes behind the 12-byte acknowledgement buffer, which the mesh copies along.
SOURCE: Adapter.cpp:111-114, Mesh.cpp:364 -/
structure DeviceEnv where
  handler : Env
  callback : Env
  behindAck : Vector UInt8 52

namespace Device

/-! ## Effects

SOURCE: Serial_Adapter.cpp:304-323 -/

/-- `lattice::err::fail`.
SOURCE: Error.h:34-40, ErrorCore.cpp:26-55 -/
def fail (d : Device) (f : Failure) : Outcome :=
  if f.restarts then .error ⟨.errorCore, d⟩ else .ok d

/-- A length-prefixed frame on the serial line.
SOURCE: Serial_Adapter.cpp:195-198, 319-321 -/
def writeFrame (d : Device) (payload : List UInt8) : Device :=
  { d with serialOut := d.serialOut ++
      [UInt8.ofNat (payload.length % 256), UInt8.ofNat (payload.length / 256 % 256)] ++ payload }

def relayEnrollmentToServer (d : Device) (mac : MacAddress) (pubKey : Key) : Device :=
  match SerialAdapter.encodeMeshMessage
      { MeshMessage.zero with
        messageType := MeshMessageType.enrollment
        protoVersion := 1
        originMacAddress := mac
        enrollmentPublicKey := pubKey } 128 with
  | none => d
  | some payload => d.writeFrame payload

/-- The bytes behind a pointer into a list; beyond its end nothing is read here. -/
def pointerTo (bytes : List UInt8) : ℕ → UInt8 :=
  fun i => bytes.getD i 0xFF

/-- Carry out one effect of a mesh function; `callback` is the linked receive callback. -/
def runEffect (callback : Device → MeshMessage → Outcome) (d : Device) : Effect → Outcome
  | .espNowSend target msg => .ok { d with sent := d.sent ++ [(target, msg)] }
  | .externalRecvCallback msg => callback d msg
  | .enrollmentRelay mac pubKey => .ok (d.relayEnrollmentToServer mac pubKey)
  | .saveKnownMasterMac mac => .ok { d with eeprom := d.eeprom.saveKnownMasterMac mac }
  | .saveKnownMasterMacSecondary mac =>
      .ok { d with eeprom := d.eeprom.saveKnownMasterMacSecondary mac }
  | .saveEnrolledFlag enrolled => .ok { d with eeprom := d.eeprom.saveEnrolledFlag enrolled }
  | .savePeerList records numPeers =>
      .ok { d with eeprom := d.eeprom.savePeerList (pointerTo records) numPeers }
  | .fail f => d.fail f

/-- Carry out the effects in order, up to a restart. -/
def runEffects (callback : Device → MeshMessage → Outcome) (d : Device) :
    List Effect → Outcome
  | [] => .ok d
  | e :: es => (d.runEffect callback e).bind fun d => d.runEffects callback es

/-- A mesh function that never calls the receive callback. -/
def noCallback (d : Device) (_ : MeshMessage) : Outcome := .ok d

/-- Install the mesh object a member function leaves and carry out its effects. -/
def commitMesh (callback : Device → MeshMessage → Outcome) (d : Device)
    (result : Mesh × List Effect) : Outcome :=
  ({ d with mesh := result.1 }).runEffects callback result.2

/-- `Mesh::transmit`.
SOURCE: Mesh.cpp:667-677 -/
def transmit (d : Device) (env : Env) (type : AdapterTypes) (data : Payload) : Outcome :=
  d.commitMesh noCallback (d.mesh.transmit env type data)

/-- `Mesh::broadcastAdapterDataStatic`.
SOURCE: Mesh.cpp:782-785 -/
def broadcastAdapterData (d : Device) (env : Env) (type : AdapterTypes) (data : Payload) :
    Outcome :=
  d.commitMesh noCallback (d.mesh.broadcastAdapterData env type data)

/-! ## Commands shared by both sides

SOURCE: Serial_Adapter.cpp:24-57, 501-516, Adapter.cpp:52-59, 72-88 -/

/-- The payload of a health report.
SOURCE: Serial_Adapter.cpp:27-39 -/
def healthReport (d : Device) (env : Env) : Payload :=
  let uptime := EepromManager.bytesOfWord (env.millis / 1000)
  let bytes :=
    [Opcode.healthReport, AdapterFactory.adapterTypeToEEPROM AdapterTypes.serialAdapter] ++
      d.wifiMac.toList ++ uptime
  Vector.ofFn fun i => bytes.getD i 0

def sendHealthReport (d : Device) (env : Env) : Outcome :=
  d.transmit env AdapterTypes.serialAdapter (d.healthReport env)

/-- Bytes 1 to 6 of the data: the address a command is for.
SOURCE: Adapter.cpp:52-59, 75-82 -/
def dataAddress (msg : MeshMessage) : MacAddress :=
  Vector.ofFn fun i => msg.data[(i : ℕ) + 1]

def targets (d : Device) (address : MacAddress) : Bool :=
  address == broadcastMac || address == d.wifiMac

/-- The byte `OP_CONFIG_SET` stores for data byte 7.
SOURCE: Adapter.cpp:61-62 -/
def commandedByte (msg : MeshMessage) : UInt8 :=
  AdapterFactory.adapterTypeToEEPROM
    (AdapterFactory.adapterTypeFromEEPROM (getElem msg.data 7 byte7_lt))

/-- Save the commanded adapter type and restart.
SOURCE: Adapter.cpp:60-66, Serial_Adapter.cpp:453-468 -/
def applyConfigSet (d : Device) (site : RestartSite) (msg : MeshMessage) : Outcome :=
  let newType := AdapterFactory.adapterTypeFromEEPROM (getElem msg.data 7 byte7_lt)
  let eeprom := AdapterFactory.saveAdapterTypeToEEPROM d.factoryDevMode newType d.eeprom
  .error ⟨site, { d with eeprom := eeprom }⟩

def applyNodeIdSet (d : Device) (msg : MeshMessage) : Device :=
  if d.targets (dataAddress msg) then
    { d with eeprom := d.eeprom.saveNodeId (getElem msg.data 7 byte7_lt) }
  else d

/-! ## The adapter's side

SOURCE: Adapter.cpp:26-138, Serial_Adapter.cpp:143-201, main.ino:73-79 -/

/-- The opcodes every adapter handles in the base class.
SOURCE: Adapter.cpp:46-88 -/
def baseOpcode (d : Device) (msg : MeshMessage) : Outcome :=
  if getElem msg.data 0 byte0_lt = Opcode.configSet then
    if d.targets (dataAddress msg) then d.applyConfigSet .adapterConfigSet msg else .ok d
  else if getElem msg.data 0 byte0_lt = Opcode.nodeIdSet then .ok (d.applyNodeIdSet msg)
  else .ok d

def sendDataThroughMesh (d : Device) (env : Env) (adapter : Adapter) (type : AdapterTypes)
    (data : Payload) : Outcome :=
  if adapter.transmitFnSet then d.transmit env type data
  else d.fail ⟨.config, .adapter, 1, "Adapter: Transmit function not set"⟩

/-- The stubs of the LED commands: they acknowledge.
SOURCE: Adapter.cpp:99-131 -/
def ledCommand (d : Device) (env : DeviceEnv) (adapter : Adapter) (msg : MeshMessage) :
    Outcome :=
  let op := getElem msg.data 0 byte0_lt
  if op = Opcode.ledSolid ∨ op = Opcode.ledOff ∨ op = Opcode.ledBlink then
    let ack := [Opcode.commandAck, op] ++ List.replicate 10 0 ++ env.behindAck.toList
    d.sendDataThroughMesh env.callback adapter AdapterTypes.serialAdapter
      (Vector.ofFn fun i => ack.getD i 0)
  else .ok d

/-- The opcodes of a serial node: a health request is answered, a power preset is saved.
SOURCE: Serial_Adapter.cpp:153-177 -/
def serialOpcode (d : Device) (env : Env) (msg : MeshMessage) : Outcome :=
  if msg.dataType ≠ AdapterTypes.serialAdapter then .ok d
  else if getElem msg.data 0 byte0_lt = Opcode.healthReq then d.sendHealthReport env
  else if getElem msg.data 0 byte0_lt = Opcode.txPowerSet ∧ getElem msg.data 1 byte1_lt ≤ 2 then
    .ok { d with eeprom := d.eeprom.saveTxPowerPreset (getElem msg.data 1 byte1_lt) }
  else .ok d

def serialOnMeshDataImpl (d : Device) (env : Env) (msg : MeshMessage) : Outcome :=
  (d.serialOpcode env msg).bind fun d =>
    match SerialAdapter.encodeMeshMessage msg SerialAdapter.maxPayload with
    | none => d.fail ⟨.comm, .adapter, 4, "Serial_Adapter: Message encoding failed"⟩
    | some payload => .ok (d.writeFrame payload)

/-- The virtual call: only a serial adapter does anything.
SOURCE: Adapter.cpp:140-142, PIR_Adapter.cpp:124-126 -/
def onMeshDataImpl (d : Device) (env : Env) (adapter : Adapter) (msg : MeshMessage) : Outcome :=
  if adapter.adapterType = AdapterTypes.serialAdapter then d.serialOnMeshDataImpl env msg
  else .ok d

def onMeshData (d : Device) (env : DeviceEnv) (adapter : Adapter) (msg : MeshMessage) :
    Outcome :=
  if msg.dataType = AdapterTypes.serialAdapter then
    (d.baseOpcode msg).bind fun d =>
      if adapter.adapterType ≠ AdapterTypes.serialAdapter then .ok d
      else d.onMeshDataImpl env.callback adapter msg
  else if msg.dataType = AdapterTypes.ledAdapter ∧
      adapter.adapterType = AdapterTypes.ledAdapter then
    d.ledCommand env adapter msg
  else if msg.dataType ≠ adapter.adapterType then .ok d
  else d.onMeshDataImpl env.callback adapter msg

def dataRecvCallback (env : DeviceEnv) (d : Device) (msg : MeshMessage) : Outcome :=
  match d.adapter with
  | none => .ok d
  | some adapter => d.onMeshData env adapter msg

/-! ## Steps of the main loop -/

/-- One entry of the receive queue, with everything the handler calls.
SOURCE: Mesh.cpp:565-602, main.ino:73-79 -/
def handleEntry (d : Device) (env : DeviceEnv) (entry : RecvQueueEntry) : Outcome :=
  d.commitMesh (dataRecvCallback env) (d.mesh.handleEntry env.handler entry)

/-- The mesh call a decoded frame asks for.
SOURCE: Serial_Adapter.cpp:382-426 -/
def forwardFrame (d : Device) (env : Env) (adapter : Adapter) (msg : MeshMessage) :
    Outcome :=
  if msg.messageType = MeshMessageType.adapterData then
    if adapter.transmitFnSet then d.transmit env msg.dataType msg.data
    else d.fail ⟨.config, .adapter, 6, "Serial_Adapter: transmit function not set"⟩
  else if msg.messageType = MeshMessageType.serialCmdBroadcast then
    d.broadcastAdapterData env msg.dataType msg.data
  else .ok d

/-- The power preset of a serial command is saved and, by a master, passed on.
SOURCE: Serial_Adapter.cpp:473-500 -/
def serialTxPowerSet (d : Device) (env : Env) (msg : MeshMessage) : Outcome :=
  if (2 : UInt8) < getElem msg.data 1 byte1_lt then .ok d
  else
    let d := { d with eeprom := d.eeprom.saveTxPowerPreset (getElem msg.data 1 byte1_lt) }
    if d.mesh.isMaster then
      d.broadcastAdapterData env AdapterTypes.serialAdapter
        ((zeroPayload.set 0 Opcode.txPowerSet byte0_lt).set 1
          (getElem msg.data 1 byte1_lt) byte1_lt)
    else .ok d

/-- The control opcodes of a serial frame.  `OP_CONFIG_SET` looks at the header's target,
`OP_NODE_ID_SET` at the data.
SOURCE: Serial_Adapter.cpp:428-521 -/
def serialControl (d : Device) (env : Env) (msg : MeshMessage) : Outcome :=
  if msg.dataType ≠ AdapterTypes.serialAdapter then .ok d
  else if getElem msg.data 0 byte0_lt = Opcode.healthReq then d.sendHealthReport env
  else if getElem msg.data 0 byte0_lt = Opcode.configSet then
    if d.targets msg.targetMacAddress then d.applyConfigSet .serialConfigSet msg else .ok d
  else if getElem msg.data 0 byte0_lt = Opcode.txPowerSet then d.serialTxPowerSet env msg
  else if getElem msg.data 0 byte0_lt = Opcode.nodeIdSet then .ok (d.applyNodeIdSet msg)
  else .ok d

/-- A complete frame from the server, with `SIMULATE_MODE` off.
SOURCE: Serial_Adapter.cpp:325-524 -/
def handleCompleteFrame (tls : Mbedtls) (d : Device) (env : Env) (adapter : Adapter)
    (bytes : List UInt8) : Outcome :=
  match SerialAdapter.decodeMeshMessage d.wifiMac bytes with
  | none => d.fail ⟨.comm, .adapter, 5, "Serial_Adapter: Failed to decode protobuf frame"⟩
  | some msg =>
      if msg.messageType = MeshMessageType.joinAck then
        if msg.enrollmentPublicKey = zeroKey then .ok d
        else d.commitMesh noCallback
          (d.mesh.enrollPeer tls env msg.targetMacAddress msg.enrollmentPublicKey)
      else (d.forwardFrame env adapter msg).bind fun d => d.serialControl env msg

/-- A press of the config button held long enough, in production: the saved role is toggled.
SOURCE: main.ino:383-393 -/
def configButtonHeld (d : Device) (millis : UInt32) : Outcome :=
  let eeprom := d.eeprom.saveMasterFlag (!d.eeprom.loadMasterFlag)
  .error ⟨.configButton, { d with eeprom := eeprom.forceFlush millis }⟩

/-- A confirmed press of the reset button: the EEPROM is wiped.
SOURCE: main.ino:413-422 -/
def resetConfirmed (d : Device) (millis : UInt32) : Outcome :=
  .error ⟨.resetButton, { d with eeprom := d.eeprom.clearAll.forceFlush millis }⟩

end Device

end LatticeNodes.Program
