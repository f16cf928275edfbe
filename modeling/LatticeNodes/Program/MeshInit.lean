import LatticeNodes.Program.Eeprom
import LatticeNodes.Program.MeshSend

/-!
# Initialising the mesh object

`Mesh::init`: the peers, the mesh key, the keypair and the trusted masters are loaded from the
EEPROM, the boot is counted, and the radio is set up with the peers registered beside the
broadcast address.
-/

set_option autoImplicit false

namespace LatticeNodes.Program

namespace Mesh

/-! ## Loading the peers

SOURCE: Mesh.cpp:233-272 -/

/-- Record `i` of the stored list.
SOURCE: Mesh.cpp:242, 252-255 -/
def storedPeer (peerRecords : List UInt8) (i : ℕ) : PeerInfo where
  mac := Vector.ofFn fun j => peerRecords.getD (i * EepromSizes.peerRecordSize + j) 0
  publicKey := Vector.ofFn fun j => peerRecords.getD (i * EepromSizes.peerRecordSize + 6 + j) 0
  lastSeenMillis := 0

/-- An all-`0xFF` address is an empty slot.
SOURCE: Mesh.cpp:243-257 -/
def appendStored (peerRecords : List UInt8) (peers : PeerTable) (i : ℕ) : PeerTable :=
  if (storedPeer peerRecords i).mac = broadcastMac then peers
  else peers.appendPeer (storedPeer peerRecords i)

def storedPeers (em : EepromManager) : PeerTable :=
  match em.loadPeerList Config.maxPeers with
  | none => PeerTable.empty
  | some peerRecords =>
      (List.range Config.maxPeers).foldl (appendStored peerRecords) PeerTable.empty

/-- The peers from the configuration, with unknown keys.
SOURCE: Mesh.cpp:262-271 -/
def appendDefaults (peers : PeerTable) : PeerTable :=
  Config.defaultPeers.foldl (fun peers mac => peers.appendPeer ⟨mac, zeroKey, 0⟩) peers

def loadPeersFromEEPROM (m : Mesh) (em : EepromManager) : Mesh :=
  if (storedPeers em).entries = [] then { m with peers := appendDefaults (storedPeers em) }
  else { m with peers := storedPeers em }

/-! ## Loading the keys

SOURCE: Mesh.cpp:417-490, 728-759 -/

def meshKeyUnset (key : Vector UInt8 16) : Bool :=
  key.all fun b => b == 0xFF || b == 0x00

def loadMeshKeyFromEEPROM (m : Mesh) (em : EepromManager) : Mesh × EepromManager :=
  let loaded := (em.loadMeshKey m.meshKey).2
  let key := if Config.devMode then Config.defaultMeshKey else loaded
  if meshKeyUnset key then
    ({ m with meshKey := Config.defaultMeshKey }, em.saveMeshKey Config.defaultMeshKey.toList)
  else ({ m with meshKey := key }, em)

/-- `generated` is the private and the public key that mbedTLS would generate.
SOURCE: Mesh.cpp:434-490 -/
def loadOrGenerateKeypair (m : Mesh) (em : EepromManager) (generated : Key × Key) :
    Mesh × EepromManager :=
  match em.loadKeypair with
  | some keys => ({ m with devicePrivateKey := keys.1, devicePublicKey := keys.2 }, em)
  | none =>
      ({ m with devicePrivateKey := generated.1, devicePublicKey := generated.2 },
        em.saveKeypair generated.1 generated.2)

/-- SOURCE: Mesh.cpp:421-431 -/
def loadMasters (m : Mesh) (em : EepromManager) : Mesh :=
  let primary := em.loadKnownMasterMac m.knownMasterMac
  let m := { m with knownMasterMac := primary.2, hasMasterMac := primary.1 }
  if m.dualMasterMode then
    let secondary := em.loadKnownMasterMacSecondary m.knownMasterMacSecondary
    { m with knownMasterMacSecondary := secondary.2, hasMasterMacSecondary := secondary.1 }
  else m

def loadPersistentState (m : Mesh) (em : EepromManager) (generated : Key × Key) :
    Mesh × EepromManager :=
  let keyed := (m.loadPeersFromEEPROM em).loadMeshKeyFromEEPROM em
  let paired := keyed.1.loadOrGenerateKeypair keyed.2 generated
  (paired.1.loadMasters paired.2, paired.2)

/-! ## Counting the boot -/

/-- The next epoch is stored before the radio is set up; the write index of the replay cache
stays where it is.
SOURCE: Mesh.cpp:377-381 -/
def countBoot (m : Mesh) (em : EepromManager) : Mesh × EepromManager :=
  let bootEpoch := em.loadBootEpoch + 1
  ({ m with
      bootEpoch := bootEpoch
      txSeqNum := 0
      replayCache := { m.replayCache with slots := zeroReplayCache.slots } },
    em.saveBootEpoch bootEpoch)

/-! ## Setting up the radio

SOURCE: Mesh.cpp:492-521 -/

/-- The broadcast address is registered without encryption; an error of the driver is ignored.
SOURCE: Mesh.cpp:501-512 -/
def registerBroadcast (m : Mesh) (env : Env) : Mesh :=
  if m.espNowPeers.any (·.peerAddr == broadcastMac) then m
  else match env.addPeerError broadcastMac with
    | none => { m with
        espNowPeers := m.espNowPeers ++ [⟨broadcastMac, false, Vector.replicate 16 0⟩] }
    | some _ => m

/-- The loop over the peer table.
SOURCE: Mesh.cpp:514-516 -/
def registerPeers (tls : Mbedtls) (env : Env) (m : Mesh) : List PeerInfo → Mesh × List Effect
  | [] => (m, [])
  | p :: ps =>
      let registered := m.registerPeerWithEspNow tls env p.mac p.publicKey
      let rest := registerPeers tls env registered.1 ps
      (rest.1, registered.2 ++ rest.2)

/-- `initError` is the name of the error `esp_now_init` reports. -/
def setupEspNow (m : Mesh) (tls : Mbedtls) (env : Env) (initError : Option String) :
    Bool × Mesh × List Effect :=
  match initError with
  | some err => (false, m, [.fail ⟨.comm, .mesh, 3, "MESH: esp_now_init failed: " ++ err⟩])
  | none => (true, registerPeers tls env (m.registerBroadcast env) m.peers.entries)

/-- What the drivers answer during `Mesh::init`; errors by name, `none` for `ESP_OK`. -/
structure InitEnv where
  generated : Key × Key
  channelError : Option String
  macError : Option String
  stationMac : MacAddress
  initError : Option String
  radio : Env

/-- A channel that cannot be set is a hardware error, and so is an address that cannot be read.
SOURCE: Mesh.cpp:191-202, 408-415 -/
def setupWiFi (m : Mesh) (r : InitEnv) : Mesh × List Effect :=
  let channel := match r.channelError with
    | none => []
    | some _ => [.fail (Failure.legacy .hardwareFailure "Failed to set WiFi channel")]
  match r.macError with
  | none => ({ m with deviceMacAddress := r.stationMac }, channel)
  | some err =>
      (m, channel ++ [.fail ⟨.hardware, .mesh, 1, "MESH: Failed to read MAC address: " ++ err⟩])

/-- The mesh object, the EEPROM and the effects of `Mesh::init`, with its return value.  The
transmit power it sets has no effect on either.
SOURCE: Mesh.cpp:371-406 -/
def init (m : Mesh) (em : EepromManager) (tls : Mbedtls) (r : InitEnv) :
    Bool × (Mesh × EepromManager) × List Effect :=
  let restored := m.loadPersistentState em r.generated
  let counted := restored.1.countBoot restored.2
  let wifi := counted.1.setupWiFi r
  let espNow := wifi.1.setupEspNow tls r.radio r.initError
  (espNow.1, (espNow.2.1, counted.2), wifi.2 ++ espNow.2.2)

/-- What `setup()` sets on the initialised object: the two callbacks and the role.
SOURCE: main.ino:238, 267-282 -/
def link (m : Mesh) (isMaster : Bool) : Mesh :=
  { m with enrollmentRelayFn := true, isMaster := isMaster, externalRecvCallback := true }

end Mesh

end LatticeNodes.Program
