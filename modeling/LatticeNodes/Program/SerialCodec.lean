import LatticeNodes.Program.Nanopb

/-!
# The serial codec

`Serial_Adapter::encodeMeshMessage` and `Serial_Adapter::decodeMeshMessage`, between the
packed mesh message and the protobuf payload of a serial frame.
-/

set_option autoImplicit false

namespace LatticeNodes.Program

namespace SerialAdapter

/-- SOURCE: Serial_Adapter.h:57 -/
def maxPayload : ℕ := 256

/-- The message types whose public key is encoded.
SOURCE: Serial_Adapter.cpp:228-229 -/
def carriesPublicKey (msg : MeshMessage) : Bool :=
  msg.messageType == MeshMessageType.enrollment || msg.messageType == MeshMessageType.joinAck

/-- The protobuf struct filled from a mesh message.
SOURCE: Serial_Adapter.cpp:211-242 -/
def toPb (msg : MeshMessage) : PbMeshMessage :=
  let hasKey := carriesPublicKey msg && msg.enrollmentPublicKey != zeroKey
  { messageType := msg.messageType.toUInt32
    dataType := msg.dataType
    originMacAddress := msg.originMacAddress
    targetMacAddress := msg.targetMacAddress
    lastHopMacAddress := msg.lastHopMacAddress
    hasData := true
    data := ⟨64, msg.data⟩
    hopCount := msg.hopCount.toUInt32
    epochNum := msg.epochNum
    seqNum := msg.seqNum.toUInt32
    protoVersion := msg.protoVersion.toUInt32
    hasPublicKey := hasKey
    publicKey := if hasKey then ⟨32, msg.enrollmentPublicKey⟩ else ⟨0, zeroKey⟩ }

/-- The encoded bytes, or `none` where the source returns 0.
SOURCE: Serial_Adapter.cpp:203-254 -/
def encodeMeshMessage (msg : MeshMessage) (outCap : ℕ) : Option (List UInt8) :=
  Pb.encode outCap (toPb msg)

/-- `memcpy` of the data bytes: at most twelve of them.
SOURCE: Serial_Adapter.cpp:278-281 -/
def copyData (pb : PbMeshMessage) : Payload :=
  if pb.hasData then
    Vector.ofFn fun i => if (i : ℕ) < min (pb.data.size : ℕ) 12 then pb.data.bytes[i] else 0
  else zeroPayload

/-- The mesh message filled from a protobuf struct; `ownMac` is what `readOwnMac` reads.
SOURCE: Serial_Adapter.cpp:256-302 -/
def ofPb (ownMac : MacAddress) (pb : PbMeshMessage) : MeshMessage :=
  let messageType : MeshMessageType := pb.messageType.toUInt8
  let keepsMacs := messageType == MeshMessageType.joinAck ||
    messageType == MeshMessageType.serialCmdBroadcast
  { protoVersion := pb.protoVersion.toUInt8
    messageType := messageType
    dataType := pb.dataType
    originMacAddress := if keepsMacs then pb.originMacAddress else ownMac
    targetMacAddress := pb.targetMacAddress
    lastHopMacAddress := if keepsMacs then pb.lastHopMacAddress else ownMac
    data := copyData pb
    hopCount := pb.hopCount.toUInt8
    epochNum := pb.epochNum
    seqNum := pb.seqNum.toUInt16
    enrollmentPublicKey := if pb.hasPublicKey then pb.publicKey.bytes else zeroKey }

/-- SOURCE: Serial_Adapter.cpp:256-302 -/
def decodeMeshMessage (ownMac : MacAddress) (bytes : List UInt8) : Option MeshMessage :=
  (Pb.decode bytes).map (ofPb ownMac)

end SerialAdapter

end LatticeNodes.Program
