import LatticeNodes.Program.MeshSend

/-!
# Receiving messages

The receiving half of `Mesh.cpp`: the receive ring, the gate of `drainRecvQueue` with the
replay check, the handler of each message type, and the timed work of `Mesh::loop`.

`processMasterBeacon` is cut at its four stages: the trust check with its early return
(`admitBeacon`), the bookkeeping of the accepted master (`noteMaster`), the route
(`updateRoute`) and the deferred relay (`relayBeacon`).
-/

set_option autoImplicit false

namespace LatticeNodes.Program

namespace Mesh

/-! ## Beacons

SOURCE: Mesh.cpp:831-921 -/

def fromPrimary (m : Mesh) (msg : MeshMessage) : Bool :=
  m.hasMasterMac && msg.originMacAddress == m.knownMasterMac

def fromSecondary (m : Mesh) (msg : MeshMessage) : Bool :=
  m.dualMasterMode && m.hasMasterMacSecondary &&
    msg.originMacAddress == m.knownMasterMacSecondary

/-- The trust check; `none` is the early return of a rejected beacon.
SOURCE: Mesh.cpp:838-870 -/
def admitBeacon (m : Mesh) (env : Env) (msg : MeshMessage) : Option (Mesh × List Effect) :=
  if !m.hasMasterMac then
    some ({ m with knownMasterMac := msg.originMacAddress, hasMasterMac := true },
      [.saveKnownMasterMac msg.originMacAddress])
  else if !m.fromPrimary msg && !m.fromSecondary msg then
    if m.dualMasterMode && !m.hasMasterMacSecondary then
      some ({ m with knownMasterMacSecondary := msg.originMacAddress,
                     hasMasterMacSecondary := true },
        [.saveKnownMasterMacSecondary msg.originMacAddress])
    else if env.millis - m.lastMasterBeaconReceivedMs < Config.staleMasterThresholdMs then none
    else
      some ({ m with knownMasterMac := msg.originMacAddress },
        [.saveKnownMasterMac msg.originMacAddress])
  else some (m, [])

def multipleMasters : Failure :=
  ⟨.config, .mesh, 7,
    "Multiple master nodes detected! Network split or misconfiguration likely."⟩

def noteMaster (m : Mesh) (env : Env) (msg : MeshMessage) : Mesh × List Effect :=
  ({ m with lastSeenMasterMac := msg.originMacAddress,
            lastMasterBeaconReceivedMs := env.millisLate },
    if m.lastSeenMasterMac ≠ msg.originMacAddress ∧ m.lastSeenMasterMac[0] ≠ 0 ∧
        m.dualMasterMode = false then [.fail multipleMasters] else [])

def updateRoute (m : Mesh) (msg : MeshMessage) : Mesh :=
  if m.currentMaster.distance = 0xFF ∨ m.currentMaster.mac ≠ msg.originMacAddress ∨
      msg.hopCount + 1 < m.currentMaster.distance then
    { m with currentMaster :=
        ⟨msg.originMacAddress, msg.hopCount + 1, msg.lastHopMacAddress⟩ }
  else m

def isNewer (m : Mesh) (msg : MeshMessage) : Bool :=
  m.lastRelayedEpoch < msg.epochNum ||
    (msg.epochNum == m.lastRelayedEpoch && m.lastRelayedSeqNum < msg.seqNum)

def relayBeacon (m : Mesh) (env : Env) (msg : MeshMessage) : Mesh :=
  if m.isMaster then m
  else if !m.isNewer msg then m
  else
    let jitterMs := (env.espRandom % Config.relayJitterMaxMs).toUInt8
    { m with
      lastRelayedEpoch := msg.epochNum
      lastRelayedSeqNum := msg.seqNum
      relayPendingMsg := msg.relayCopy m.deviceMacAddress
      relayPendingAt := env.millisLate + 10 + jitterMs.toUInt32
      relayPending := true }

def processMasterBeacon (m : Mesh) (env : Env) (msg : MeshMessage) : Mesh × List Effect :=
  if Config.maxHops ≤ msg.hopCount then (m, [])
  else match m.admitBeacon env msg with
    | none => (m, [])
    | some (m, trusted) =>
        let noted := m.noteMaster env msg
        ((noted.1.updateRoute msg).relayBeacon env msg, trusted ++ noted.2)

/-- Does `processMasterBeacon` accept this beacon, i.e. pass the hop guard and the trust
check?
SOURCE: Mesh.cpp:831-870 -/
def acceptsBeacon (m : Mesh) (env : Env) (msg : MeshMessage) : Bool :=
  !decide (Config.maxHops ≤ msg.hopCount) && (m.admitBeacon env msg).isSome

/-! ## Adapter data

SOURCE: Mesh.cpp:923-980 -/

def relayDownlink (m : Mesh) (env : Env) (msg : MeshMessage) : List Effect :=
  if Config.maxHops ≤ msg.hopCount then []
  else m.sendToPeers env (msg.relayCopy m.deviceMacAddress)

/-- Uplink: one more hop along the route to the master.
SOURCE: Mesh.cpp:934-942 -/
def relayUplink (m : Mesh) (env : Env) (msg : MeshMessage) : Mesh × List Effect :=
  if Config.maxHops ≤ msg.hopCount then (m, [])
  else
    let relay := msg.relayCopy m.deviceMacAddress
    m.transmitCore env relay.dataType relay.data MeshMessageType.adapterData (some relay)

def isConfigOpcode (msg : MeshMessage) : Bool :=
  msg.dataType == AdapterTypes.serialAdapter && getElem msg.data 0 byte0_lt == Opcode.configSet

def processAdapterData (m : Mesh) (env : Env) (msg : MeshMessage) : Mesh × List Effect :=
  let addressedToSelf := msg.targetMacAddress == m.deviceMacAddress
  let isBroadcastTarget := msg.targetMacAddress == broadcastMac
  let addressedToMaster := m.hasMasterMac && msg.targetMacAddress == m.currentMaster.mac
  if !m.isMaster && !addressedToSelf && !isBroadcastTarget then
    if addressedToMaster then m.relayUplink env msg else (m, m.relayDownlink env msg)
  else if isConfigOpcode msg && m.hasMasterMac && msg.originMacAddress != m.knownMasterMac then
    (m, [])
  else
    (m, (if m.externalRecvCallback then [.externalRecvCallback msg] else []) ++
      (if isBroadcastTarget && !m.isMaster then m.relayDownlink env msg else []))

/-! ## Enrollment

SOURCE: Mesh.cpp:1001-1033 -/

def processEnrollmentRequest (m : Mesh) (msg : MeshMessage) : Mesh :=
  if !m.isMaster then m
  else
    { m with
      pendingEnrollmentMac := msg.originMacAddress
      pendingEnrollmentPubKey := msg.enrollmentPublicKey
      pendingEnrollmentRelay := true }

/-- The first four data bytes are those of this device's key.
SOURCE: Mesh.cpp:1019 -/
def fingerprintMatches (m : Mesh) (msg : MeshMessage) : Bool :=
  getElem msg.data 0 byte0_lt == getElem m.devicePublicKey 0 key0_lt &&
    getElem msg.data 1 byte1_lt == getElem m.devicePublicKey 1 key1_lt &&
    getElem msg.data 2 byte2_lt == getElem m.devicePublicKey 2 key2_lt &&
    getElem msg.data 3 byte3_lt == getElem m.devicePublicKey 3 key3_lt

def processJoinAck (m : Mesh) (env : Env) (msg : MeshMessage) : Mesh × List Effect :=
  if msg.targetMacAddress ≠ m.deviceMacAddress then (m, m.relayDownlink env msg)
  else if !m.fingerprintMatches msg then (m, [])
  else if !m.hasMasterMac then
    ({ m with knownMasterMac := msg.originMacAddress, hasMasterMac := true },
      [.saveEnrolledFlag true, .saveKnownMasterMac msg.originMacAddress])
  else (m, [.saveEnrolledFlag true])

/-! ## The receive queue

SOURCE: Mesh.cpp:524-537, 577-602, 818-829 -/

/-- The triple the replay cache compares.
SOURCE: Mesh.cpp:526-528 -/
def replayEntry (msg : MeshMessage) : ReplayEntry :=
  ⟨msg.originMacAddress, msg.epochNum, msg.seqNum⟩

def isReplay (m : Mesh) (msg : MeshMessage) : Bool × Mesh :=
  let checked := m.replayCache.check (replayEntry msg)
  (checked.1, { m with replayCache := checked.2 })

def replayChecked (msg : MeshMessage) : Bool :=
  msg.protoVersion == Config.protoVersion && 0 < msg.epochNum

/-- The two checks before dispatch; `none` is a dropped message.
SOURCE: Mesh.cpp:570-582 -/
def passGate (m : Mesh) (msg : MeshMessage) : Option Mesh :=
  if msg.protoVersion ≠ 0 ∧ msg.protoVersion ≠ Config.protoVersion then none
  else if replayChecked msg then
    if (m.isReplay msg).1 then none else some (m.isReplay msg).2
  else some m

def updatePeerLastSeen (m : Mesh) (env : Env) (mac : MacAddress) : Mesh :=
  if mac = m.deviceMacAddress then m
  else { m with peers := m.peers.modify mac fun p => { p with lastSeenMillis := env.millis } }

def dispatch (m : Mesh) (env : Env) (msg : MeshMessage) : Mesh × List Effect :=
  if msg.messageType = MeshMessageType.enrollment then (m.processEnrollmentRequest msg, [])
  else if msg.messageType = MeshMessageType.joinAck then m.processJoinAck env msg
  else if msg.messageType = MeshMessageType.masterBeacon then m.processMasterBeacon env msg
  else if msg.messageType = MeshMessageType.adapterData then m.processAdapterData env msg
  else (m, [])

/-- The body of the drain loop.
SOURCE: Mesh.cpp:565-602 -/
def handleEntry (m : Mesh) (env : Env) (entry : RecvQueueEntry) : Mesh × List Effect :=
  match m.passGate entry.msg with
  | none => (m, [])
  | some m => (m.updatePeerLastSeen env entry.srcMac).dispatch env entry.msg

/-- The size of the packed struct.
SOURCE: Mesh.h:55 -/
def meshMessageSize : ℕ := 127

/-- A frame of `len` bytes whose first 127 are `msg`: too short or no room drops it.
SOURCE: Mesh.cpp:544-561 -/
def onDataRecvCallback (m : Mesh) (srcMac : MacAddress) (len : ℕ) (msg : MeshMessage) : Mesh :=
  if len < meshMessageSize then m
  else if m.recvQueue.head + 1 = m.recvQueue.tail then m
  else
    { m with recvQueue :=
        { m.recvQueue with
          slots := m.recvQueue.slots.set m.recvQueue.head ⟨srcMac, msg⟩
          head := m.recvQueue.head + 1 } }

/-- `while (recvQueueTail != recvQueueHead)`, cut off after the given number of entries.
Each iteration has its own readings.
SOURCE: Mesh.cpp:563-604 -/
def drainEntries (m : Mesh) (env : ℕ → Env) : ℕ → Mesh × List Effect
  | 0 => (m, [])
  | n + 1 =>
      if m.recvQueue.tail = m.recvQueue.head then (m, [])
      else
        let entry := m.recvQueue.slots[m.recvQueue.tail]
        let m := { m with recvQueue := { m.recvQueue with tail := m.recvQueue.tail + 1 } }
        let handled := m.handleEntry (env 0) entry
        let rest := handled.1.drainEntries (fun i => env (i + 1)) n
        (rest.1, handled.2 ++ rest.2)

/-- The ring holds fewer entries than it has slots, so that many iterations empty it.
SOURCE: Mesh.cpp:563-604 -/
def drainRecvQueue (m : Mesh) (env : ℕ → Env) : Mesh × List Effect :=
  m.drainEntries env recvQueueSize

/-! ## Timed work

SOURCE: Mesh.cpp:801-815, 1082-1089 -/

def checkMasterTimeout (m : Mesh) (env : Env) : Mesh :=
  if m.isMaster then m
  else if m.currentMaster.distance = 0xFF then m
  else if Config.staleMasterThresholdMs < env.millis - m.lastMasterBeaconReceivedMs then
    { m with
      currentMaster := ⟨zeroMac, 0xFF, zeroMac⟩
      lastSeenMasterMac := zeroMac
      lastMasterBeaconReceivedMs := 0 }
  else m

def drainPendingEnrollment (m : Mesh) : Mesh × List Effect :=
  if !m.pendingEnrollmentRelay then (m, [])
  else ({ m with pendingEnrollmentRelay := false },
    if m.enrollmentRelayFn then
      [.enrollmentRelay m.pendingEnrollmentMac m.pendingEnrollmentPubKey] else [])

/-- The dispatch of the deferred beacon relay, when its time has come.
SOURCE: Mesh.cpp:1099-1105 -/
def dispatchRelay (m : Mesh) (env : Env) : Mesh × List Effect :=
  if m.relayPending && m.relayPendingAt ≤ env.millis then
    ({ m with relayPending := false }).transmitCore env m.relayPendingMsg.dataType
      m.relayPendingMsg.data MeshMessageType.masterBeacon (some m.relayPendingMsg)
  else (m, [])

/-- The timed work of `Mesh::loop`, behind the receive queue: the pending request, the deferred
relay, and the beacon of a master.
SOURCE: Mesh.cpp:1095-1111 -/
def timedWork (m : Mesh) (env : Env) : Mesh × List Effect :=
  let drained := m.drainPendingEnrollment
  let relayed := drained.1.dispatchRelay env
  let beacon := if relayed.1.isMaster then relayed.1.broadcastMasterBeacon env else (relayed.1, [])
  (beacon.1, drained.2 ++ relayed.2 ++ beacon.2)

/-- `Mesh::loop`, with the readings of each round of the drain and those of the timed work.  The
flush of the EEPROM between the two does not concern the object.
SOURCE: Mesh.cpp:1091-1111 -/
def loop (m : Mesh) (env : ℕ → Env) (late : Env) : Mesh × List Effect :=
  let drained := m.drainRecvQueue env
  let timed := drained.1.timedWork late
  (timed.1, drained.2 ++ timed.2)

end Mesh

end LatticeNodes.Program
