import LatticeNodes.Library.BoundedFifo
import LatticeNodes.Program.Error
import LatticeNodes.Program.Types

/-!
# The mesh object

The members of `lattice::mesh::Mesh`, the peer table with its bound, the registry the ESP-NOW
driver keeps, and what a member function reads from outside (`Env`) and does outside
(`Effect`).  Every member function is a pure function of the object and an `Env`; its effects
are listed in the order the source performs them.

`meshKey` is kept for `init`; `peerInfo` and `lastBeaconMs` are never read and left out.
-/

set_option autoImplicit false

namespace LatticeNodes.Program

open BoundedFifo

/-! ## Peers

SOURCE: Mesh.h:58-62, Mesh.cpp:166, 184-189, 310-330 -/

structure PeerInfo where
  mac : MacAddress
  publicKey : Key
  lastSeenMillis : UInt32
  deriving DecidableEq

/-- `peerMacs` with `peerCount`: a list that never outgrows the array.
SOURCE: Mesh.h:95-96 -/
structure PeerTable where
  entries : List PeerInfo
  bounded : entries.length ≤ Config.maxPeers
  deriving DecidableEq

namespace PeerTable

/-- Apply `f` to the first entry with this address.
SOURCE: Mesh.cpp:324-330 -/
def modifyFirst (mac : MacAddress) (f : PeerInfo → PeerInfo) : List PeerInfo → List PeerInfo
  | [] => []
  | p :: ps => if p.mac = mac then f p :: ps else p :: modifyFirst mac f ps

/-- Changing a peer changes no length. -/
@[simp] theorem length_modifyFirst (mac : MacAddress) (f : PeerInfo → PeerInfo)
    (ps : List PeerInfo) : (modifyFirst mac f ps).length = ps.length := by
  induction ps with
  | nil => rfl
  | cons p ps ih => by_cases h : p.mac = mac <;> simp [modifyFirst, h, ih]

/-- `peerMacs[i] = peerMacs[--peerCount]`: the last entry takes the place of entry `i`.
SOURCE: Mesh.cpp:311-316 -/
def swapRemove (ps : List PeerInfo) (i : ℕ) : List PeerInfo :=
  match ps.getLast? with
  | none => []
  | some last => (ps.set i last).dropLast

/-- Removing a peer makes the list no longer. -/
theorem length_swapRemove_le (ps : List PeerInfo) (i : ℕ) :
    (swapRemove ps i).length ≤ ps.length := by
  unfold swapRemove
  split <;> simp

def empty : PeerTable := ⟨[], Nat.zero_le _⟩

def findPeer (t : PeerTable) (mac : MacAddress) : Option PeerInfo :=
  t.entries.find? fun p => p.mac = mac

def appendPeer (t : PeerTable) (peer : PeerInfo) : PeerTable :=
  if h : t.entries.length < Config.maxPeers then
    ⟨t.entries ++ [peer], by simpa using Nat.succ_le_of_lt h⟩
  else t

/-- Write through the pointer that `findPeer` returned. -/
def modify (t : PeerTable) (mac : MacAddress) (f : PeerInfo → PeerInfo) : PeerTable :=
  ⟨modifyFirst mac f t.entries, by simpa using t.bounded⟩

def remove (t : PeerTable) (mac : MacAddress) : PeerTable :=
  match t.entries.findIdx? fun p => p.mac = mac with
  | none => t
  | some i => ⟨swapRemove t.entries i, (length_swapRemove_le t.entries i).trans t.bounded⟩

/-- The records `savePeersToEEPROM` hands to the EEPROM manager: one after another, the rest
of the 380 bytes `0xFF`.
SOURCE: Mesh.cpp:274-284 -/
def records (t : PeerTable) : List UInt8 :=
  let used := t.entries.flatMap fun p => p.mac.toList ++ p.publicKey.toList
  used ++ List.replicate (380 - used.length) 0xFF

end PeerTable

/-! ## The radio's registry

SOURCE: Mesh.cpp:108 -/

/-- An entry of the ESP-NOW driver's peer list.
SOURCE: Mesh.cpp:152-157 -/
structure EspNowPeer where
  peerAddr : MacAddress
  encrypt : Bool
  lmk : Vector UInt8 16
  deriving DecidableEq

/-- The primitives of mbedTLS the firmware uses; they are not part of the repository.
SOURCE: Mesh.cpp:27-129 -/
structure Mbedtls where
  ecdhCalcSecret : Key → Key → Key
  sha256 : List UInt8 → Vector UInt8 32

def lmkLabel : List UInt8 :=
  [0x6C, 0x61, 0x74, 0x74, 0x69, 0x63, 0x65, 0x2D, 0x6C, 0x6D, 0x6B]

/-- The first 16 bytes of `SHA256(shared secret || "lattice-lmk")`.
SOURCE: Mesh.cpp:27-129 -/
def derivePeerLMK (tls : Mbedtls) (ownPrivateKey peerPublicKey : Key) : Vector UInt8 16 :=
  (tls.sha256 ((tls.ecdhCalcSecret ownPrivateKey peerPublicKey).toList ++ lmkLabel)).take 16

/-! ## The mesh object

SOURCE: Mesh.h:65-69, 168-173, 202-207 -/

structure MasterInfo where
  mac : MacAddress
  distance : UInt8
  nextHop : MacAddress
  deriving DecidableEq

structure ReplayEntry where
  mac : MacAddress
  epoch : UInt32
  seq : UInt16
  deriving DecidableEq

abbrev replayCacheSize : ℕ := 16

abbrev recvQueueSize : ℕ := 8

instance replayCacheSize_neZero : NeZero replayCacheSize := ⟨by decide⟩
instance recvQueueSize_neZero : NeZero recvQueueSize := ⟨by decide⟩

structure RecvQueueEntry where
  srcMac : MacAddress
  msg : MeshMessage
  deriving DecidableEq

/-- The receive ring; both indices stay below its size.
SOURCE: Mesh.h:209-211 -/
structure RecvQueue where
  slots : Vector RecvQueueEntry recvQueueSize
  head : Fin recvQueueSize
  tail : Fin recvQueueSize
  deriving DecidableEq

/-- The members of `Mesh`.  The two callbacks are modelled by whether they are set; the
functions behind them belong to `main.ino`.
SOURCE: Mesh.h:75-214 -/
structure Mesh where
  meshKey : Vector UInt8 16
  deviceMacAddress : MacAddress
  lastSeenMasterMac : MacAddress
  peers : PeerTable
  espNowPeers : List EspNowPeer
  externalRecvCallback : Bool
  currentMaster : MasterInfo
  isMaster : Bool
  lastBeaconMillis : UInt32
  lastMasterBeaconReceivedMs : UInt32
  devicePrivateKey : Key
  devicePublicKey : Key
  bootEpoch : UInt32
  txSeqNum : UInt16
  replayCache : Ring ReplayEntry replayCacheSize
  lastRelayedEpoch : UInt32
  lastRelayedSeqNum : UInt16
  relayPendingMsg : MeshMessage
  relayPendingAt : UInt32
  relayPending : Bool
  knownMasterMac : MacAddress
  hasMasterMac : Bool
  knownMasterMacSecondary : MacAddress
  hasMasterMacSecondary : Bool
  dualMasterMode : Bool
  pendingEnrollmentRelay : Bool
  pendingEnrollmentMac : MacAddress
  pendingEnrollmentPubKey : Key
  enrollmentRelayFn : Bool
  recvQueue : RecvQueue
  deriving DecidableEq

/-- The zeroed replay cache.
SOURCE: Mesh.cpp:176 -/
def zeroReplayCache : Ring ReplayEntry replayCacheSize :=
  ⟨Vector.replicate replayCacheSize ⟨zeroMac, 0, 0⟩, 0⟩

/-- The constructor.
SOURCE: Mesh.cpp:162-182 -/
def Mesh.new : Mesh where
  meshKey := Vector.replicate 16 0
  deviceMacAddress := zeroMac
  lastSeenMasterMac := zeroMac
  peers := PeerTable.empty
  espNowPeers := []
  externalRecvCallback := false
  currentMaster := ⟨zeroMac, 0xFF, zeroMac⟩
  isMaster := false
  lastBeaconMillis := 0
  lastMasterBeaconReceivedMs := 0
  devicePrivateKey := zeroKey
  devicePublicKey := zeroKey
  bootEpoch := 0
  txSeqNum := 0
  replayCache := zeroReplayCache
  lastRelayedEpoch := 0
  lastRelayedSeqNum := 0
  relayPendingMsg := MeshMessage.zero
  relayPendingAt := 0
  relayPending := false
  knownMasterMac := broadcastMac
  hasMasterMac := false
  knownMasterMacSecondary := broadcastMac
  hasMasterMacSecondary := false
  dualMasterMode := Config.dualMasterMode
  pendingEnrollmentRelay := false
  pendingEnrollmentMac := zeroMac
  pendingEnrollmentPubKey := zeroKey
  enrollmentRelayFn := false
  recvQueue := ⟨Vector.replicate recvQueueSize ⟨zeroMac, MeshMessage.zero⟩, 0, 0⟩

/-! ## What a member function reads and does outside the object -/

/-- The readings of one call.  `millisLate` is what `millis()` returns after the only
blocking point inside a handler, the LED blink of the multiple-masters warning.  The error
fields hold the name of the driver's error, or `none` for `ESP_OK`. -/
structure Env where
  millis : UInt32
  millisLate : UInt32
  espRandom : UInt32
  sendError : MacAddress → Option String
  addPeerError : MacAddress → Option String
  delPeerError : MacAddress → Option String

/-- An action outside the mesh object.  `espNowSend` is a frame the driver accepted. -/
inductive Effect where
  | espNowSend (target : MacAddress) (msg : MeshMessage)
  | externalRecvCallback (msg : MeshMessage)
  | enrollmentRelay (mac : MacAddress) (pubKey : Key)
  | saveKnownMasterMac (mac : MacAddress)
  | saveKnownMasterMacSecondary (mac : MacAddress)
  | saveEnrolledFlag (enrolled : Bool)
  | savePeerList (records : List UInt8) (numPeers : ℕ)
  | fail (failure : Failure)
  deriving DecidableEq

/-- The frames among the effects, with the address each is sent to. -/
def sentFrames (effects : List Effect) : List (MacAddress × MeshMessage) :=
  effects.filterMap fun
    | .espNowSend target msg => some (target, msg)
    | _ => none

/-- No effects send nothing. -/
@[simp] theorem sentFrames_nil : sentFrames [] = [] := rfl

/-- Effects are sent in their order. -/
@[simp] theorem sentFrames_append (xs ys : List Effect) :
    sentFrames (xs ++ ys) = sentFrames xs ++ sentFrames ys := by
  simp [sentFrames]

/-- A send is a frame. -/
@[simp] theorem sentFrames_espNowSend_cons (target : MacAddress) (msg : MeshMessage)
    (xs : List Effect) :
    sentFrames (.espNowSend target msg :: xs) = (target, msg) :: sentFrames xs := rfl

/-- The frames sent are the sends among the effects. -/
theorem mem_sentFrames {effects : List Effect} {f : MacAddress × MeshMessage} :
    f ∈ sentFrames effects ↔ Effect.espNowSend f.1 f.2 ∈ effects := by
  simp only [sentFrames, List.mem_filterMap]
  constructor
  · rintro ⟨e, he, h⟩
    cases e <;> simp_all
    rwa [← h]
  · intro h
    exact ⟨_, h, rfl⟩

end LatticeNodes.Program
