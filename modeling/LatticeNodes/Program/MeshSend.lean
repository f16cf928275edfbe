import LatticeNodes.Program.MeshState

/-!
# Building and sending messages

The sending half of `Mesh.cpp`: `buildMessage`, the unicast and broadcast sends, routing
towards the master, the originating calls, and enrollment with the peer-table operations.
-/

set_option autoImplicit false

namespace LatticeNodes.Program

namespace Mesh

/-! ## Peers in range

SOURCE: Mesh.cpp:331-349 -/

def isPeerInRange (m : Mesh) (env : Env) (mac : MacAddress) : Bool :=
  match m.peers.findPeer mac with
  | none => false
  | some peer => env.millis - peer.lastSeenMillis < Config.stalePeerThresholdMs

def findNextHopToMaster (m : Mesh) (env : Env) : Option PeerInfo :=
  if m.currentMaster.distance = 0xFF then none
  else m.peers.entries.find? fun p =>
    p.mac = m.currentMaster.nextHop ∧ m.isPeerInRange env p.mac ∧ p.mac ≠ m.deviceMacAddress

/-! ## Sending

SOURCE: Mesh.cpp:351-369, 613-703, 776-780 -/

def buildMessage (m : Mesh) (type : AdapterTypes) (data : Option Payload)
    (msgType : MeshMessageType) : MeshMessage × Mesh :=
  ({ MeshMessage.zero with
      protoVersion := Config.protoVersion
      messageType := msgType
      dataType := type
      originMacAddress := m.deviceMacAddress
      targetMacAddress :=
        if msgType = MeshMessageType.masterBeacon then broadcastMac else m.currentMaster.mac
      lastHopMacAddress := m.deviceMacAddress
      data := data.getD zeroPayload
      hopCount := 0
      epochNum := m.bootEpoch
      seqNum := m.txSeqNum + 1 },
    { m with txSeqNum := m.txSeqNum + 1 })

def sendMessage (m : Mesh) (env : Env) (target : MacAddress) (msg : MeshMessage) :
    List Effect :=
  if target = m.deviceMacAddress then []
  else match env.sendError target with
    | none => [.espNowSend target msg]
    | some err => [.fail ⟨.comm, .mesh, 5, "MESH: Error sending message: " ++ err⟩]

/-- One `esp_now_send` whose result is only logged.
SOURCE: Mesh.cpp:698-701, 996-998, 1071-1073 -/
def espNowBroadcast (env : Env) (msg : MeshMessage) : List Effect :=
  match env.sendError broadcastMac with
  | none => [.espNowSend broadcastMac msg]
  | some _ => []

/-- The send loop over the peer table that skips the device's own address.
SOURCE: Mesh.cpp:632-636, 975-979 -/
def sendToPeers (m : Mesh) (env : Env) (msg : MeshMessage) : List Effect :=
  m.peers.entries.flatMap fun p =>
    if p.mac = m.deviceMacAddress then [] else m.sendMessage env p.mac msg

def broadcastToAllPeers (m : Mesh) (env : Env) (msg : MeshMessage) : List Effect :=
  if m.peers.entries = [] then [] else m.sendToPeers env msg

def noRoute : Failure :=
  ⟨.comm, .mesh, 8, "MESH: message dropped, no route to master"⟩

/-- Only adapter data are readdressed to the current master.
SOURCE: Mesh.cpp:648-652 -/
def addressToMaster (m : Mesh) (msgType : MeshMessageType) (msg : MeshMessage) : MeshMessage :=
  if msgType = MeshMessageType.adapterData then
    { msg with targetMacAddress := m.currentMaster.mac }
  else msg

def routeToMaster (m : Mesh) (env : Env) (msg : MeshMessage) : List Effect :=
  match m.findNextHopToMaster env with
  | some nextHop =>
      if nextHop.mac ≠ m.deviceMacAddress then m.sendMessage env nextHop.mac msg
      else [.fail noRoute]
  | none => [.fail noRoute]

def transmitCore (m : Mesh) (env : Env) (type : AdapterTypes) (data : Payload)
    (msgType : MeshMessageType) (msgOverride : Option MeshMessage) : Mesh × List Effect :=
  match msgOverride with
  | some msg => (m, m.routeToMaster env (m.addressToMaster msgType msg))
  | none =>
      let built := m.buildMessage type (some data) msgType
      (built.2, built.2.routeToMaster env (built.2.addressToMaster msgType built.1))

def broadcastAdapterData (m : Mesh) (env : Env) (type : AdapterTypes) (data : Payload) :
    Mesh × List Effect :=
  let built := m.buildMessage type (some data) MeshMessageType.adapterData
  (built.2, built.2.broadcastToAllPeers env { built.1 with targetMacAddress := broadcastMac })

def transmit (m : Mesh) (env : Env) (type : AdapterTypes) (data : Payload) :
    Mesh × List Effect :=
  if m.isMaster then m.broadcastAdapterData env type data
  else m.transmitCore env type data MeshMessageType.adapterData none

def broadcastMasterBeacon (m : Mesh) (env : Env) : Mesh × List Effect :=
  if env.millis - m.lastBeaconMillis < Config.masterBeaconIntervalMs then (m, [])
  else
    let built := ({ m with lastBeaconMillis := env.millis }).buildMessage
      AdapterTypes.unknownAdapter none MeshMessageType.masterBeacon
    (built.2, espNowBroadcast env
      { built.1 with data := built.1.data.set 0 1 byte0_lt, hopCount := 0 })

/-! ## Enrollment

SOURCE: Mesh.cpp:274-286, 986-999, 1035-1075 -/

def enrollmentRequest (m : Mesh) : MeshMessage :=
  { MeshMessage.zero with
    messageType := MeshMessageType.enrollment
    dataType := AdapterTypes.unknownAdapter
    originMacAddress := m.deviceMacAddress
    targetMacAddress := broadcastMac
    lastHopMacAddress := m.deviceMacAddress
    hopCount := 0
    enrollmentPublicKey := m.devicePublicKey }

def sendEnrollmentRequest (m : Mesh) (env : Env) : List Effect :=
  espNowBroadcast env m.enrollmentRequest

/-- The acknowledgement: the fingerprint of the approved key in `data`, and neither an epoch
nor a protocol version nor a key.
SOURCE: Mesh.cpp:1061-1069 -/
def joinAck (m : Mesh) (mac : MacAddress) (publicKey : Key) : MeshMessage :=
  { MeshMessage.zero with
    messageType := MeshMessageType.joinAck
    dataType := AdapterTypes.unknownAdapter
    originMacAddress := m.deviceMacAddress
    targetMacAddress := mac
    lastHopMacAddress := m.deviceMacAddress
    hopCount := 0
    data :=
      (((zeroPayload.set 0 (getElem publicKey 0 key0_lt) byte0_lt).set 1
        (getElem publicKey 1 key1_lt) byte1_lt).set 2
        (getElem publicKey 2 key2_lt) byte2_lt).set 3 (getElem publicKey 3 key3_lt) byte3_lt }

/-- Register a peer with the driver unless it is registered already; encrypted exactly when
the key is known.
SOURCE: Mesh.cpp:131-160 -/
def registerPeerWithEspNow (m : Mesh) (tls : Mbedtls) (env : Env) (mac : MacAddress)
    (peerPublicKey : Key) : Mesh × List Effect :=
  if m.espNowPeers.any (·.peerAddr == mac) then (m, [])
  else
    let hasPublicKey := peerPublicKey != zeroKey
    let lmk := if hasPublicKey then derivePeerLMK tls m.devicePrivateKey peerPublicKey
      else Vector.replicate 16 0
    match env.addPeerError mac with
    | none => ({ m with espNowPeers := m.espNowPeers ++ [⟨mac, hasPublicKey, lmk⟩] }, [])
    | some _ =>
        (m, [.fail (Failure.legacy .communicationFail "registerPeerWithEspNow: add_peer failed")])

def savePeersToEEPROM (m : Mesh) : List Effect :=
  [.savePeerList m.peers.records m.peers.entries.length]

/-- The driver forgets a peer, unless it reports an error. -/
def espNowDelPeer (m : Mesh) (env : Env) (mac : MacAddress) : Mesh :=
  match env.delPeerError mac with
  | none => { m with espNowPeers := m.espNowPeers.filter (·.peerAddr != mac) }
  | some _ => m

def enrollPeer (m : Mesh) (tls : Mbedtls) (env : Env) (mac : MacAddress) (publicKey : Key) :
    Mesh × List Effect :=
  let enrolled : Option PeerTable :=
    if (m.peers.findPeer mac).isSome then
      some (m.peers.modify mac fun p => { p with publicKey := publicKey })
    else if Config.maxPeers ≤ m.peers.entries.length then none
    else some (m.peers.appendPeer ⟨mac, publicKey, 0⟩)
  match enrolled with
  | none => (m, [])
  | some peers =>
      let m := { m with peers := peers }
      let saved := m.savePeersToEEPROM
      let m := if m.espNowPeers.any (·.peerAddr == mac) then m.espNowDelPeer env mac else m
      let registered := m.registerPeerWithEspNow tls env mac publicKey
      (registered.1,
        saved ++ registered.2 ++ espNowBroadcast env (registered.1.joinAck mac publicKey))

/-! ## Peer management

SOURCE: Mesh.cpp:310-323, 706-726 -/

def addPeer (m : Mesh) (tls : Mbedtls) (env : Env) (mac : MacAddress) : Mesh × List Effect :=
  if (m.peers.findPeer mac).isSome then (m, [])
  else if Config.maxPeers ≤ m.peers.entries.length then
    (m, [.fail ⟨.memory, .mesh, 6,
      "Peer list full! Cannot add new peer. MAX_PEERS reached."⟩])
  else
    let m := { m with peers := m.peers.appendPeer ⟨mac, zeroKey, 0⟩ }
    let saved := m.savePeersToEEPROM
    let registered := m.registerPeerWithEspNow tls env mac zeroKey
    (registered.1, saved ++ registered.2)

def removePeer (m : Mesh) (env : Env) (mac : MacAddress) : Mesh × List Effect :=
  let m := { m with peers := m.peers.remove mac }
  let saved := m.savePeersToEEPROM
  match env.delPeerError mac with
  | none => (m.espNowDelPeer env mac, saved)
  | some _ => (m, saved ++
      [.fail (Failure.legacy .communicationFail "removePeerFromEEPROM: del_peer failed")])

end Mesh

end LatticeNodes.Program
