import Mathlib.Data.List.FinRange
import Mathlib.Logic.Function.Iterate
import LatticeNodes.Library.CachedMemory
import LatticeNodes.Program.Types

/-!
# The EEPROM manager

`EEPROM_Manager`: the layout of the 512-byte EEPROM, its loads, and its two kinds of save.
A *deferred* save writes the RAM image and raises `_dirty`; a *committed* save writes the RAM
image and calls `EEPROM.commit()` at once, leaving `_dirty` as it was.  Every save is the list
of its byte writes handed to `deferredSave` or `committedSave`.
-/

set_option autoImplicit false

namespace LatticeNodes.Program

open CachedMemory

/-! ## Layout

SOURCE: EEPROM_Manager.h:33-74 -/

namespace EepromAddresses

def masterFlag : ℕ := 0
def devFlag : ℕ := 1
def adapterType : ℕ := 8
def meshKey : ℕ := 16
def peerList : ℕ := 32
def rebootReason : ℕ := 412
def rebootCount : ℕ := 413
def privateKey : ℕ := 417
def publicKey : ℕ := 449
def keypairCrc : ℕ := 481
def enrolledFlag : ℕ := 483
def bootEpoch : ℕ := 484
def knownMasterMac : ℕ := 488
def schemaVersion : ℕ := 494
def txPowerPreset : ℕ := 495
def nodeId : ℕ := 496
def knownMasterMacSecondary : ℕ := 497
def v1RebootReason : ℕ := 92
def v1RebootCount : ℕ := 93
def v1PrivateKey : ℕ := 97
def v1PublicKey : ℕ := 129
def v1KeypairCrc : ℕ := 161
def v1EnrolledFlag : ℕ := 163

end EepromAddresses

namespace EepromSizes

def totalSize : ℕ := 512
def meshKeySize : ℕ := 16
def peerRecordSize : ℕ := 38
def peerListSize : ℕ := Config.maxPeers * peerRecordSize
def currentSchemaVersion : UInt8 := 3

end EepromSizes

/-- The minimal time between two deferred commits.
SOURCE: EEPROM_Manager.h:82 -/
def eepromFlushIntervalMs : UInt32 := 5000

/-- The bytes of the EEPROM.
SOURCE: EEPROM_Manager.h:66 -/
abbrev EepromImage := Fin EepromSizes.totalSize → UInt8

/-- The image of a factory-blank or wiped EEPROM.
SOURCE: EEPROM_Manager.cpp:574-578 -/
def blankImage : EepromImage := fun _ => 0xFF

/-! ## The manager

SOURCE: EEPROM_Manager.cpp:139-142, 165-186 -/

/-- The manager and the memory under it.
SOURCE: EEPROM_Manager.h:77-86 -/
structure EepromManager where
  memory : Memory (Fin EepromSizes.totalSize) UInt8
  isInitialized : Bool
  isDevMode : Bool
  dirty : Bool
  lastFlushMs : UInt32

namespace EepromManager

/-- The manager of a device that has just been powered up, over the flash image it finds.
SOURCE: EEPROM_Manager.cpp:7-8 -/
def powerUp (flash : EepromImage) : EepromManager where
  memory := Memory.load flash
  isInitialized := false
  isDevMode := false
  dirty := false
  lastFlushMs := 0

/-- The byte `EEPROM.read` returns; reading beyond the end gives 0. -/
def readByte (image : EepromImage) (address : ℕ) : UInt8 :=
  if h : address < EepromSizes.totalSize then image ⟨address, h⟩ else 0

/-- `EEPROM.read`: the RAM image. -/
def read (em : EepromManager) (address : ℕ) : UInt8 :=
  readByte em.memory.cache address

/-- The bytes at consecutive addresses. -/
def readBytes (em : EepromManager) (address length : ℕ) : List UInt8 :=
  (List.range length).map fun i => em.read (address + i)

/-- The bytes at consecutive addresses, as an array. -/
def readVector (em : EepromManager) (address n : ℕ) : Vector UInt8 n :=
  Vector.ofFn fun i => em.read (address + i)

/-- The writes that store bytes at consecutive addresses. -/
def bytesAt (address : ℕ) (bytes : List UInt8) : List (ℕ × UInt8) :=
  bytes.mapIdx fun i b => (address + i, b)

/-- `EEPROM.write` ignores addresses beyond the end. -/
def inRange (writes : List (ℕ × UInt8)) : List (Fin EepromSizes.totalSize × UInt8) :=
  writes.filterMap fun w =>
    if h : w.1 < EepromSizes.totalSize then some (⟨w.1, h⟩, w.2) else none

/-- A sequence of `EEPROM.write` calls: only the RAM image changes. -/
def write (em : EepromManager) (writes : List (ℕ × UInt8)) : EepromManager :=
  { em with memory := em.memory.writeAll (inRange writes) }

/-- `EEPROM.commit()`. -/
def commit (em : EepromManager) : EepromManager :=
  { em with memory := em.memory.commit }

def markDirty (em : EepromManager) : EepromManager :=
  { em with dirty := true }

/-- The body of a save with a deferred commit: write, then `markDirty()`. -/
def deferredSave (em : EepromManager) (writes : List (ℕ × UInt8)) : EepromManager :=
  (em.write writes).markDirty

/-- The body of a save with an immediate commit: write, then `EEPROM.commit()`. -/
def committedSave (em : EepromManager) (writes : List (ℕ × UInt8)) : EepromManager :=
  (em.write writes).commit

def setDevMode (em : EepromManager) (devMode : Bool) : EepromManager :=
  { em with isDevMode := devMode }

def flushIfDirty (em : EepromManager) (millis : UInt32) : EepromManager :=
  if !em.dirty then em
  else if millis - em.lastFlushMs < eepromFlushIntervalMs then em
  else { em.commit with dirty := false, lastFlushMs := millis }

def forceFlush (em : EepromManager) (millis : UInt32) : EepromManager :=
  if !em.dirty then em
  else { em.commit with dirty := false, lastFlushMs := millis }

/-! ## Guards of the saves -/

/-- A save that is skipped before `init()` and in development mode.
SOURCE: EEPROM_Manager.cpp:199-210 -/
def unlessDevMode (em : EepromManager) (save : EepromManager → EepromManager) : EepromManager :=
  if !em.isInitialized then em else if em.isDevMode then em else save em

/-- A save that is skipped before `init()` only.
SOURCE: EEPROM_Manager.cpp:328-337, 555-561 -/
def onceInitialized (em : EepromManager) (save : EepromManager → EepromManager) : EepromManager :=
  if !em.isInitialized then em else save em

/-! ## Flags

SOURCE: EEPROM_Manager.cpp:189-234 -/

def loadMasterFlag (em : EepromManager) : Bool :=
  em.isInitialized && em.read EepromAddresses.masterFlag == 1

def saveMasterFlag (em : EepromManager) (isMaster : Bool) : EepromManager :=
  em.unlessDevMode fun em =>
    em.deferredSave [(EepromAddresses.masterFlag, if isMaster then 1 else 0)]

def loadDevFlag (em : EepromManager) : Bool :=
  em.isInitialized && em.read EepromAddresses.devFlag == 1

def saveDevFlag (em : EepromManager) (isDev : Bool) : EepromManager :=
  em.unlessDevMode fun em =>
    em.deferredSave [(EepromAddresses.devFlag, if isDev then 1 else 0)]

/-! ## Mesh key

SOURCE: EEPROM_Manager.cpp:252-269 -/

/-- The mesh key, or the caller's buffer unchanged when it cannot be read.
SOURCE: EEPROM_Manager.cpp:237-250 -/
def loadMeshKey (em : EepromManager) (key : Vector UInt8 16) : Bool × Vector UInt8 16 :=
  if !em.isInitialized then (false, key)
  else (true, em.readVector EepromAddresses.meshKey 16)

def saveMeshKey (em : EepromManager) (key : List UInt8) : EepromManager :=
  if key.length ≠ EepromSizes.meshKeySize then em
  else em.unlessDevMode fun em => em.deferredSave (bytesAt EepromAddresses.meshKey key)

/-! ## Peer list

SOURCE: EEPROM_Manager.cpp:273-288, 316-337 -/

def loadPeerList (em : EepromManager) (maxPeers : ℕ) : Option (List UInt8) :=
  if !em.isInitialized then none
  else if Config.maxPeers < maxPeers then none
  else some (em.readBytes EepromAddresses.peerList (maxPeers * EepromSizes.peerRecordSize))

/-- `peerRecords` is a pointer: byte `i` is read for every `i` below `numPeers * 38`,
whatever the size of the array behind it.
SOURCE: EEPROM_Manager.cpp:290-314 -/
def savePeerList (em : EepromManager) (peerRecords : ℕ → UInt8) (numPeers : ℕ) :
    EepromManager :=
  if Config.maxPeers < numPeers then em
  else em.unlessDevMode fun em =>
    em.deferredSave
      (bytesAt EepromAddresses.peerList (List.replicate EepromSizes.peerListSize 0xFF) ++
        bytesAt EepromAddresses.peerList
          ((List.range (numPeers * EepromSizes.peerRecordSize)).map peerRecords))

def hasPeers (em : EepromManager) : Bool :=
  em.isInitialized &&
    (em.readBytes EepromAddresses.peerList EepromSizes.peerListSize).any (· != 0xFF)

def clearPeerList (em : EepromManager) : EepromManager :=
  em.onceInitialized fun em =>
    em.deferredSave
      (bytesAt EepromAddresses.peerList (List.replicate EepromSizes.peerListSize 0xFF))

/-! ## Adapter type

SOURCE: EEPROM_Manager.cpp:352-363 -/

/-- A stored `0xFF` is returned as 0.
SOURCE: EEPROM_Manager.cpp:340-350 -/
def loadAdapterType (em : EepromManager) : UInt8 :=
  if !em.isInitialized then 0xFF
  else if em.read EepromAddresses.adapterType == 0xFF then 0
  else em.read EepromAddresses.adapterType

def saveAdapterType (em : EepromManager) (adapterType : UInt8) : EepromManager :=
  em.unlessDevMode fun em => em.deferredSave [(EepromAddresses.adapterType, adapterType)]

/-! ## Reboot tracking

SOURCE: EEPROM_Manager.cpp:366-387 -/

def loadRebootCount (em : EepromManager) : UInt8 :=
  if !em.isInitialized then 0 else em.read EepromAddresses.rebootCount

def saveRebootCount (em : EepromManager) (count : UInt8) : EepromManager :=
  em.unlessDevMode fun em => em.deferredSave [(EepromAddresses.rebootCount, count)]

def saveRebootReason (em : EepromManager) (reason : UInt8) : EepromManager :=
  em.unlessDevMode fun em => em.deferredSave [(EepromAddresses.rebootReason, reason)]

def loadRebootReason (em : EepromManager) : UInt8 :=
  if !em.isInitialized then 0xFF else em.read EepromAddresses.rebootReason

/-! ## Keypair -/

/-- One bit of the CRC.
SOURCE: EEPROM_Manager.cpp:394-395 -/
def crc16Bit (crc : UInt16) : UInt16 :=
  if crc &&& 0x8000 ≠ 0 then (crc <<< 1) ^^^ 0x1021 else crc <<< 1

/-- One byte of the CRC: it enters at the top, then eight bits are shifted out.
SOURCE: EEPROM_Manager.cpp:393-395 -/
def crc16Byte (crc : UInt16) (b : UInt8) : UInt16 :=
  let mixed : UInt16 := crc ^^^ (b.toUInt16 <<< (8 : UInt16))
  crc16Bit^[8] mixed

/-- CRC16 (CCITT) over a byte buffer.
SOURCE: EEPROM_Manager.cpp:390-398 -/
def crc16 (bytes : List UInt8) : UInt16 :=
  bytes.foldl crc16Byte 0xFFFF

/-- The keys read, with `true` when the stored CRC matches them.
SOURCE: EEPROM_Manager.cpp:401-419 -/
def loadKeypair (em : EepromManager) : Option (Key × Key) :=
  let privateKey := em.readVector EepromAddresses.privateKey 32
  let publicKey := em.readVector EepromAddresses.publicKey 32
  let stored := (em.read EepromAddresses.keypairCrc).toUInt16 |||
    ((em.read (EepromAddresses.keypairCrc + 1)).toUInt16 <<< 8)
  if !em.isInitialized then none
  else if stored ≠ crc16 (privateKey.toList ++ publicKey.toList) then none
  else some (privateKey, publicKey)

/-- The two keys are written byte by byte in turn.
SOURCE: EEPROM_Manager.cpp:421-436 -/
def saveKeypair (em : EepromManager) (privateKey publicKey : Key) : EepromManager :=
  let crc := crc16 (privateKey.toList ++ publicKey.toList)
  em.unlessDevMode fun em =>
    em.committedSave
      (((List.finRange 32).flatMap fun i : Fin 32 =>
          [(EepromAddresses.privateKey + i, privateKey[i]),
            (EepromAddresses.publicKey + i, publicKey[i])]) ++
        [(EepromAddresses.keypairCrc, (crc &&& 0xFF).toUInt8),
          (EepromAddresses.keypairCrc + 1, ((crc >>> 8) &&& 0xFF).toUInt8)])

/-! ## Enrolled flag and boot epoch

SOURCE: EEPROM_Manager.cpp:438-466 -/

def loadEnrolledFlag (em : EepromManager) : Bool :=
  em.isInitialized && em.read EepromAddresses.enrolledFlag == 0x01

def saveEnrolledFlag (em : EepromManager) (enrolled : Bool) : EepromManager :=
  em.unlessDevMode fun em =>
    em.committedSave [(EepromAddresses.enrolledFlag, if enrolled then 0x01 else 0xFF)]

/-- Four bytes, least significant first.
SOURCE: EEPROM_Manager.cpp:454-456 -/
def wordOfBytes (b₀ b₁ b₂ b₃ : UInt8) : UInt32 :=
  b₀.toUInt32 ||| (b₁.toUInt32 <<< 8) ||| (b₂.toUInt32 <<< 16) ||| (b₃.toUInt32 <<< 24)

def bytesOfWord (w : UInt32) : List UInt8 :=
  [(w &&& 0xFF).toUInt8, ((w >>> 8) &&& 0xFF).toUInt8,
    ((w >>> 16) &&& 0xFF).toUInt8, ((w >>> 24) &&& 0xFF).toUInt8]

def loadBootEpoch (em : EepromManager) : UInt32 :=
  let epoch := wordOfBytes (em.read EepromAddresses.bootEpoch)
    (em.read (EepromAddresses.bootEpoch + 1)) (em.read (EepromAddresses.bootEpoch + 2))
    (em.read (EepromAddresses.bootEpoch + 3))
  if !em.isInitialized then 0 else if epoch = 0xFFFFFFFF then 0 else epoch

def saveBootEpoch (em : EepromManager) (epoch : UInt32) : EepromManager :=
  em.unlessDevMode fun em =>
    em.committedSave (bytesAt EepromAddresses.bootEpoch (bytesOfWord epoch))

/-! ## Master addresses

SOURCE: EEPROM_Manager.cpp:469-534 -/

/-- The address read and whether it is set, i.e. not all `0xFF`.
SOURCE: EEPROM_Manager.cpp:469-483, 504-517 -/
def loadMac (em : EepromManager) (address : ℕ) (mac : MacAddress) : Bool × MacAddress :=
  if !em.isInitialized then (false, mac)
  else (em.readVector address 6 != broadcastMac, em.readVector address 6)

def loadKnownMasterMac (em : EepromManager) (mac : MacAddress) : Bool × MacAddress :=
  em.loadMac EepromAddresses.knownMasterMac mac

def saveKnownMasterMac (em : EepromManager) (mac : MacAddress) : EepromManager :=
  em.unlessDevMode fun em =>
    em.committedSave (bytesAt EepromAddresses.knownMasterMac mac.toList)

def clearKnownMasterMac (em : EepromManager) : EepromManager :=
  em.unlessDevMode fun em =>
    em.committedSave (bytesAt EepromAddresses.knownMasterMac (List.replicate 6 0xFF))

def loadKnownMasterMacSecondary (em : EepromManager) (mac : MacAddress) : Bool × MacAddress :=
  em.loadMac EepromAddresses.knownMasterMacSecondary mac

def saveKnownMasterMacSecondary (em : EepromManager) (mac : MacAddress) : EepromManager :=
  em.unlessDevMode fun em =>
    em.committedSave (bytesAt EepromAddresses.knownMasterMacSecondary mac.toList)

def clearKnownMasterMacSecondary (em : EepromManager) : EepromManager :=
  em.unlessDevMode fun em =>
    em.committedSave (bytesAt EepromAddresses.knownMasterMacSecondary (List.replicate 6 0xFF))

/-! ## Transmit power and node ID

SOURCE: EEPROM_Manager.cpp:546-568 -/

/-- `TxPowerPreset::OUTDOOR` is the default.
SOURCE: EEPROM_Manager.cpp:537-544 -/
def loadTxPowerPreset (em : EepromManager) : UInt8 :=
  let val := em.read EepromAddresses.txPowerPreset
  if !em.isInitialized then 2 else if 2 < val ∨ val = 0xFF then 2 else val

def saveTxPowerPreset (em : EepromManager) (preset : UInt8) : EepromManager :=
  em.unlessDevMode fun em => em.committedSave [(EepromAddresses.txPowerPreset, preset)]

/-- The only save without a development-mode guard, beside the wipes.
SOURCE: EEPROM_Manager.cpp:555-561 -/
def saveNodeId (em : EepromManager) (nodeId : UInt8) : EepromManager :=
  em.onceInitialized fun em => em.deferredSave [(EepromAddresses.nodeId, nodeId)]

def loadNodeId (em : EepromManager) : UInt8 :=
  if !em.isInitialized then 0
  else if em.read EepromAddresses.nodeId == 0xFF then 0
  else em.read EepromAddresses.nodeId

/-! ## Wiping

SOURCE: EEPROM_Manager.cpp:571-596 -/

def clearAll (em : EepromManager) : EepromManager :=
  em.onceInitialized fun em =>
    em.committedSave (bytesAt 0 (List.replicate EepromSizes.totalSize 0xFF))

def clearRange (em : EepromManager) (startAddr endAddr : ℕ) : EepromManager :=
  em.onceInitialized fun em =>
    if startAddr < EepromSizes.totalSize ∧ endAddr < EepromSizes.totalSize ∧
        startAddr ≤ endAddr then
      em.committedSave (bytesAt startAddr (List.replicate (endAddr + 1 - startAddr) 0xFF))
    else em

/-! ## Initialisation -/

/-- The copy of a v1 layout to the current addresses.
SOURCE: EEPROM_Manager.cpp:58-101 -/
def migrateV1 (em : EepromManager) : EepromManager :=
  let oldReason := em.read EepromAddresses.v1RebootReason
  let oldCount := em.read EepromAddresses.v1RebootCount
  let em := em.write [(EepromAddresses.rebootReason, if oldReason = 0x00 then 0xFF else oldReason),
    (EepromAddresses.rebootCount, if 10 < oldCount then 0 else oldCount)]
  let em := em.write ((List.range 32).flatMap fun i =>
    [(EepromAddresses.privateKey + i, em.read (EepromAddresses.v1PrivateKey + i)),
      (EepromAddresses.publicKey + i, em.read (EepromAddresses.v1PublicKey + i))])
  let em := em.write [(EepromAddresses.keypairCrc, em.read EepromAddresses.v1KeypairCrc),
    (EepromAddresses.keypairCrc + 1, em.read (EepromAddresses.v1KeypairCrc + 1)),
    (EepromAddresses.enrolledFlag, em.read EepromAddresses.v1EnrolledFlag)]
  let em := em.write (bytesAt 92 (List.replicate 72 0xFF))
  em.write (bytesAt EepromAddresses.peerList (List.replicate EepromSizes.peerListSize 0xFF))

/-- The handlers between the stored schema version and the current one.
SOURCE: EEPROM_Manager.cpp:44-124 -/
def migrate (em : EepromManager) : EepromManager :=
  let storedVersion := em.read EepromAddresses.schemaVersion
  let writeVersion := fun em : EepromManager =>
    em.committedSave [(EepromAddresses.schemaVersion, EepromSizes.currentSchemaVersion)]
  if storedVersion = 0xFF then writeVersion em
  else if storedVersion < EepromSizes.currentSchemaVersion then
    let em := if storedVersion = 0 then em.migrateV1 else em
    let em := if storedVersion ≤ 2 then
        em.write (bytesAt EepromAddresses.knownMasterMacSecondary (List.replicate 6 0xFF))
      else em
    writeVersion em
  else if EepromSizes.currentSchemaVersion < storedVersion then writeVersion em.clearAll
  else em

/-- The validation of the watchdog bytes at every boot.
SOURCE: EEPROM_Manager.cpp:126-133 -/
def validateRebootBytes (em : EepromManager) : EepromManager :=
  let em := if em.read EepromAddresses.rebootReason = 0x00 then
      em.write [(EepromAddresses.rebootReason, 0xFF)] else em
  let em := if 10 < em.read EepromAddresses.rebootCount then
      em.write [(EepromAddresses.rebootCount, 0)] else em
  em.commit

/-- `EEPROM.begin` is taken to succeed: it has just loaded the RAM image from flash.
SOURCE: EEPROM_Manager.cpp:36-137 -/
def init (em : EepromManager) : EepromManager :=
  if em.isInitialized then em
  else ({ em with isInitialized := true }).migrate.validateRebootBytes

end EepromManager

end LatticeNodes.Program
