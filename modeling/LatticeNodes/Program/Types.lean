import Mathlib.Data.Nat.Notation
import Mathlib.Logic.Basic

/-!
# Data model of the node firmware

MAC addresses, adapter types, message types and the packed `mesh_message` of `Mesh.h`,
with the compile-time constants of `project_config.h` and the opcodes the handlers test.

`adapter_types` and `MeshMessageType` are C++ enumerations with a fixed underlying type.
Received frames are copied into them byte for byte, so every value of that type can occur;
they are modelled by the underlying integer, with one constant for each enumerator.
-/

set_option autoImplicit false

namespace LatticeNodes.Program

/-! ## Byte arrays -/

/-- A 6-byte MAC address; `memcmp(a, b, 6) == 0` is equality.
SOURCE: network/MacAddress.h:9-36 -/
abbrev MacAddress := Vector UInt8 6

/-- A 32-byte Curve25519 key.
SOURCE: Mesh.h:60 -/
abbrev Key := Vector UInt8 32

/-- The data bytes of a message.
SOURCE: Mesh.h:48 -/
abbrev Payload := Vector UInt8 64

/-! The bounds of the data bytes that have a meaning of their own, by name: `data[k]` of the source
is `getElem data k` with the bound of that byte. -/

/-- The payload has a byte 0, the opcode. -/
theorem byte0_lt : 0 < 64 := by decide
theorem byte1_lt : 1 < 64 := by decide
theorem byte2_lt : 2 < 64 := by decide
theorem byte3_lt : 3 < 64 := by decide
theorem byte7_lt : 7 < 64 := by decide

/-! A fingerprint repeats the first four bytes of a key. -/

/-- The four bytes are there. -/
theorem key0_lt : 0 < 32 := by decide
theorem key1_lt : 1 < 32 := by decide
theorem key2_lt : 2 < 32 := by decide
theorem key3_lt : 3 < 32 := by decide

/-- An index of the payload is below 64. -/
theorem payload_lt (i : Fin 64) : (i : ℕ) < 64 := i.isLt
/-- An index of a key is below 32. -/
theorem key_lt (i : Fin 32) : (i : ℕ) < 32 := i.isLt

/-- The address `FF:FF:FF:FF:FF:FF`.
SOURCE: Mesh.cpp:925 -/
def broadcastMac : MacAddress := Vector.replicate 6 0xFF

/-- The all-zero address.
SOURCE: Mesh.cpp:169 -/
def zeroMac : MacAddress := Vector.replicate 6 0

/-- The key of a peer that has not been enrolled: all zero.
SOURCE: Mesh.h:60 -/
def zeroKey : Key := Vector.replicate 32 0

/-- The zeroed data block.
SOURCE: Mesh.cpp:352 -/
def zeroPayload : Payload := Vector.replicate 64 0

/-! ## Enumerations -/

/-- The underlying type of `adapter_types`.
SOURCE: Adapter.h:17-23 -/
abbrev AdapterTypes := Int32

namespace AdapterTypes

def unknownAdapter : AdapterTypes := 0
def serialAdapter : AdapterTypes := 1
def pirAdapter : AdapterTypes := 2
def ledAdapter : AdapterTypes := 3

end AdapterTypes

/-- The underlying type of `MeshMessageType`.
SOURCE: Mesh.h:29-36 -/
abbrev MeshMessageType := UInt8

namespace MeshMessageType

def adapterData : MeshMessageType := 0
def masterBeacon : MeshMessageType := 1
def enrollment : MeshMessageType := 2
def serialCmdBroadcast : MeshMessageType := 3
def joinAck : MeshMessageType := 4

end MeshMessageType

/-! ## Opcodes in `data[0]` of a `SERIAL_ADAPTER` message -/

namespace Opcode

def healthReq : UInt8 := 0xB0
def healthReport : UInt8 := 0xB1
def nodeIdSet : UInt8 := 0xC0
def configSet : UInt8 := 0xC1
def txPowerSet : UInt8 := 0xC2
def ledSolid : UInt8 := 0xD0
def ledOff : UInt8 := 0xD1
def ledBlink : UInt8 := 0xD2
def commandAck : UInt8 := 0xE0

end Opcode

/-! ## Configuration constants

SOURCE: project_config.h:17-49, 73-76, 115-117, Mesh.h:38, EEPROM_Manager.h:68 -/

namespace Config

def devMode : Bool := false
def defaultAdapter : AdapterTypes := AdapterTypes.serialAdapter
def masterBeaconIntervalMs : UInt32 := 3000
def staleMasterThresholdMs : UInt32 := 9000
def dualMasterMode : Bool := false
def relayJitterMaxMs : UInt32 := 64
def defaultMeshKey : Vector UInt8 16 :=
  #v[0x12, 0x34, 0x56, 0x78, 0x9A, 0xBC, 0xDE, 0xF0,
     0x11, 0x22, 0x33, 0x44, 0x55, 0x66, 0x77, 0x88]
def defaultPeers : List MacAddress :=
  [#v[0xAA, 0xBB, 0xCC, 0xDD, 0xEE, 0x01], #v[0xAA, 0xBB, 0xCC, 0xDD, 0xEE, 0x02]]
def maxHops : UInt8 := 10
def stalePeerThresholdMs : UInt32 := 8000
def protoVersion : UInt8 := 2
def maxPeers : ℕ := 10

end Config

/-! ## Messages -/

/-- The packed wire struct.
SOURCE: Mesh.h:41-53 -/
structure MeshMessage where
  protoVersion : UInt8
  messageType : MeshMessageType
  dataType : AdapterTypes
  originMacAddress : MacAddress
  targetMacAddress : MacAddress
  lastHopMacAddress : MacAddress
  data : Payload
  hopCount : UInt8
  epochNum : UInt32
  seqNum : UInt16
  enrollmentPublicKey : Key
  deriving DecidableEq

/-- `mesh_message msg = {}`: every byte zero.
SOURCE: Mesh.cpp:352, 987, 1061 -/
def MeshMessage.zero : MeshMessage where
  protoVersion := 0
  messageType := 0
  dataType := 0
  originMacAddress := zeroMac
  targetMacAddress := zeroMac
  lastHopMacAddress := zeroMac
  data := zeroPayload
  hopCount := 0
  epochNum := 0
  seqNum := 0
  enrollmentPublicKey := zeroKey

/-- What every relay path does to the message it forwards: one more hop, and the relaying
node as the last hop.
SOURCE: Mesh.cpp:915-917, 937-939, 972-974 -/
def MeshMessage.relayCopy (msg : MeshMessage) (deviceMac : MacAddress) : MeshMessage :=
  { msg with hopCount := msg.hopCount + 1, lastHopMacAddress := deviceMac }

/-- Two messages agree in every field a relay must not touch.
SOURCE: Mesh.cpp:972-974 -/
def MeshMessage.SameContent (a b : MeshMessage) : Prop :=
  { a with hopCount := b.hopCount, lastHopMacAddress := b.lastHopMacAddress } = b

end LatticeNodes.Program
