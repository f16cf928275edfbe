import LatticeNodes.Analysis.NanopbRoundTrip
import LatticeNodes.Program.SerialCodec

/-!
# Round trip of the serial codec

What `decodeMeshMessage` returns for the bytes `encodeMeshMessage` wrote
(`decodeMeshMessage_encode`), and when that is the message again.  The encoder writes all 64
data bytes, the decoder copies the first twelve, so exactly the messages whose data end
after twelve bytes survive (`roundTrips_iff`).
-/

set_option autoImplicit false

namespace LatticeNodes.Analysis

open LatticeNodes.Program SerialAdapter

/-! ## Encoding -/

/-- The struct filled from a mesh message is one the decoder can produce.
SOURCE: Serial_Adapter.cpp:211-242 -/
theorem toPb_canonical (m : MeshMessage) : PbMeshMessage.Canonical (toPb m) where
  data := by
    show Pb.overwrite (Vector.replicate 64 0) (m.data.toList.take 64) = m.data
    rw [List.take_of_length_le (by simp), overwrite_toList]
  publicKey := by
    by_cases h : carriesPublicKey m && m.enrollmentPublicKey != zeroKey
    · simp only [toPb, h, if_true]
      show Pb.overwrite (Vector.replicate 32 0) (m.enrollmentPublicKey.toList.take 32) = _
      rw [List.take_of_length_le (by simp), overwrite_toList]
    · have h' : (carriesPublicKey m && m.enrollmentPublicKey != zeroKey) = false := by simpa using h
      simp only [toPb, h', if_neg Bool.false_ne_true]
      rfl
  no_data := by simp [toPb]
  no_publicKey := by
    intro h
    have h' : (carriesPublicKey m && m.enrollmentPublicKey != zeroKey) = false := h
    simp [toPb, h']

/-- Encoding into a buffer of `MAX_PAYLOAD` bytes never fails.
SOURCE: Serial_Adapter.cpp:203-254 -/
theorem encodeMeshMessage_eq (m : MeshMessage) :
    encodeMeshMessage m maxPayload = some (Pb.encodeFields (toPb m)) :=
  if_pos ((length_encodeFields_le (toPb m)).trans (by decide))

/-- What the decoder makes of the encoded bytes.
SOURCE: Serial_Adapter.cpp:203-302 -/
theorem decodeMeshMessage_encode (ownMac : MacAddress) (m : MeshMessage) :
    decodeMeshMessage ownMac (Pb.encodeFields (toPb m)) = some (ofPb ownMac (toPb m)) := by
  rw [decodeMeshMessage, decode_encodeFields (toPb_canonical m), Option.map_some]

/-! ## The decoded message -/

/-- The data that come back: the first twelve bytes.
SOURCE: Serial_Adapter.cpp:278-281 -/
theorem copyData_toPb (m : MeshMessage) :
    copyData (toPb m) = Vector.ofFn fun i : Fin 64 =>
      if (i : ℕ) < 12 then getElem m.data i (payload_lt i) else 0 := by
  rfl

/-- All data bytes come back exactly when those from the twelfth on are zero.
SOURCE: Serial_Adapter.cpp:278-281 -/
theorem copyData_toPb_eq_iff (m : MeshMessage) :
    copyData (toPb m) = m.data ↔
      ∀ i : Fin 64, 12 ≤ (i : ℕ) → getElem m.data i (payload_lt i) = 0 := by
  rw [copyData_toPb]
  constructor
  · intro h i hi
    have := congrArg (fun v : Payload => v[i]) h
    simpa [show ¬((i : ℕ) < 12) by omega, eq_comm] using this
  · intro h
    refine Vector.ext fun i hi => ?_
    by_cases hlt : i < 12
    · simp [hlt]
    · simpa [hlt, eq_comm] using h ⟨i, hi⟩ (Nat.not_lt.mp hlt)

/-- The key comes back when no other message type carries one.
SOURCE: Serial_Adapter.cpp:227-242, 283-285 -/
theorem publicKey_toPb {m : MeshMessage}
    (hkey : m.messageType ≠ MeshMessageType.joinAck → m.enrollmentPublicKey = zeroKey)
    (ownMac : MacAddress) :
    (ofPb ownMac (toPb m)).enrollmentPublicKey = m.enrollmentPublicKey := by
  by_cases hack : m.messageType = MeshMessageType.joinAck
  · by_cases hzero : m.enrollmentPublicKey = zeroKey
    · simp [ofPb, toPb, hzero]
    · simp [ofPb, toPb, carriesPublicKey, hack, hzero]
  · simp [ofPb, toPb, hkey hack]

/-- The decoded message agrees with the encoded one in every field the codec is to keep: for
`ADAPTER_DATA` the origin and the last hop are the device's own address.
SOURCE: Serial_Adapter.cpp:291-298 -/
structure Restores (ownMac : MacAddress) (m m' : MeshMessage) : Prop where
  messageType : m'.messageType = m.messageType
  dataType : m'.dataType = m.dataType
  targetMacAddress : m'.targetMacAddress = m.targetMacAddress
  data : m'.data = m.data
  hopCount : m'.hopCount = m.hopCount
  epochNum : m'.epochNum = m.epochNum
  seqNum : m'.seqNum = m.seqNum
  protoVersion : m'.protoVersion = m.protoVersion
  enrollmentPublicKey : m'.enrollmentPublicKey = m.enrollmentPublicKey
  originMacAddress : m'.originMacAddress =
    if m.messageType = MeshMessageType.adapterData then ownMac else m.originMacAddress
  lastHopMacAddress : m'.lastHopMacAddress =
    if m.messageType = MeshMessageType.adapterData then ownMac else m.lastHopMacAddress

/-- Encoding succeeds, decoding what it wrote succeeds, and the message is restored.
SOURCE: Serial_Adapter.cpp:203-302 -/
def RoundTrips (ownMac : MacAddress) (m : MeshMessage) : Prop :=
  ∃ bytes, encodeMeshMessage m maxPayload = some bytes ∧
    ∃ m', decodeMeshMessage ownMac bytes = some m' ∧ Restores ownMac m m'

/-- The message types the server exchanges.
SOURCE: Mesh.h:29-36 -/
def ServerType (m : MeshMessage) : Prop :=
  m.messageType = MeshMessageType.adapterData ∨
    m.messageType = MeshMessageType.serialCmdBroadcast ∨ m.messageType = MeshMessageType.joinAck

/-- Every field but the data is restored.
SOURCE: Serial_Adapter.cpp:256-302 -/
theorem restores_ofPb_toPb {m : MeshMessage} (htype : ServerType m)
    (hkey : m.messageType ≠ MeshMessageType.joinAck → m.enrollmentPublicKey = zeroKey)
    (ownMac : MacAddress) (hdata : copyData (toPb m) = m.data) :
    Restores ownMac m (ofPb ownMac (toPb m)) where
  messageType := by simp [ofPb, toPb]
  dataType := rfl
  targetMacAddress := rfl
  data := hdata
  hopCount := by simp [ofPb, toPb]
  epochNum := rfl
  seqNum := by simp [ofPb, toPb]
  protoVersion := by simp [ofPb, toPb]
  enrollmentPublicKey := publicKey_toPb hkey ownMac
  originMacAddress := by
    rcases htype with h | h | h <;>
      simp [ofPb, toPb, h, MeshMessageType.adapterData, MeshMessageType.joinAck,
        MeshMessageType.serialCmdBroadcast]
  lastHopMacAddress := by
    rcases htype with h | h | h <;>
      simp [ofPb, toPb, h, MeshMessageType.adapterData, MeshMessageType.joinAck,
        MeshMessageType.serialCmdBroadcast]

/-- **The codec restores exactly the messages whose data end after twelve bytes.**
SOURCE: Serial_Adapter.cpp:203-302, Mesh.h:48 -/
theorem roundTrips_iff (ownMac : MacAddress) (m : MeshMessage) (htype : ServerType m)
    (hkey : m.messageType ≠ MeshMessageType.joinAck → m.enrollmentPublicKey = zeroKey) :
    RoundTrips ownMac m ↔ ∀ i : Fin 64, 12 ≤ (i : ℕ) → getElem m.data i (payload_lt i) = 0 := by
  rw [← copyData_toPb_eq_iff]
  constructor
  · rintro ⟨bytes, henc, m', hdec, hres⟩
    rw [encodeMeshMessage_eq, Option.some.injEq] at henc
    subst henc
    rw [decodeMeshMessage_encode, Option.some.injEq] at hdec
    subst hdec
    exact hres.data
  · intro hdata
    exact ⟨_, encodeMeshMessage_eq m, _, decodeMeshMessage_encode ownMac m,
      restores_ofPb_toPb htype hkey ownMac hdata⟩

/-- A command to all nodes whose thirteenth data byte is set. -/
def longCommand : MeshMessage :=
  { MeshMessage.zero with
    messageType := MeshMessageType.serialCmdBroadcast
    data := zeroPayload.set 12 1 }

/-- A JOIN_ACK with every field set, a key and twelve data bytes. -/
def fullJoinAck : MeshMessage where
  protoVersion := Config.protoVersion
  messageType := MeshMessageType.joinAck
  dataType := 2
  originMacAddress := Vector.replicate 6 17
  targetMacAddress := Vector.replicate 6 34
  lastHopMacAddress := Vector.replicate 6 51
  data := (Vector.replicate 12 7 : Vector UInt8 12) ++ (Vector.replicate 52 0 : Vector UInt8 52)
  hopCount := 3
  epochNum := 70000
  seqNum := 300
  enrollmentPublicKey := Vector.replicate 32 9

/-- The JOIN_ACK survives. -/
theorem roundTrips_joinAck : RoundTrips (Vector.replicate 6 1) fullJoinAck :=
  (roundTrips_iff (Vector.replicate 6 1) fullJoinAck (.inr (.inr rfl))
    (fun hother => absurd rfl hother)).mpr (by decide)

/-- The command with a thirteenth data byte is one the codec is for, and does not survive.
SOURCE: Serial_Adapter.cpp:278-281 -/
theorem not_roundTrips_longCommand :
    ServerType longCommand ∧ longCommand.enrollmentPublicKey = zeroKey ∧
      ¬RoundTrips zeroMac longCommand := by
  refine ⟨.inr (.inl rfl), rfl, ?_⟩
  rintro ⟨bytes, henc, m', hdec, hres⟩
  rw [encodeMeshMessage_eq, Option.some.injEq] at henc
  subst henc
  rw [decodeMeshMessage_encode, Option.some.injEq] at hdec
  subst hdec
  have hdata := (copyData_toPb_eq_iff longCommand).mp hres.data ⟨12, by decide⟩ (by decide)
  exact absurd hdata (by decide)

end LatticeNodes.Analysis
