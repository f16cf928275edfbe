import LatticeNodes.Analysis.SerialRoundTrip
import LatticeNodes.Program.Device

/-!
# Room for every encoded message

Every mesh message fits in `mesh_MeshMessage_size` bytes, and the enrollment request a gateway
passes on in the 128 of its local buffer: with a key that is not zero it fills them.
-/

set_option autoImplicit false

namespace LatticeNodes.Analysis

open LatticeNodes.Program SerialAdapter WireFormat

/-! ## Fields -/

/-- A `uint32` field below 128 takes at most two bytes.
SOURCE: pb_encode.c:244-289 -/
theorem length_encodeUint32_of_lt {number : ℕ} {v : UInt32} (hn : number < 15)
    (hv : v.toNat < 128) : (Pb.encodeUint32 number v).length ≤ 2 := by
  unfold Pb.encodeUint32
  split
  · exact Nat.zero_le _
  · have hkey := length_encodeKey_le (show number * 8 + wireVarint < 128 by
      simp only [wireVarint]; omega)
    have hval : (encodeVarint v.toNat).length ≤ 1 := length_encodeVarint_le (by decide) hv
    rw [List.length_append]
    omega

/-- The addresses are written whatever they are, so no message is empty.
SOURCE: pb_encode.c:299-305 -/
theorem length_encodeFields_pos (msg : PbMeshMessage) : 0 < (Pb.encodeFields msg).length := by
  have hmac : 0 < (Pb.encodeFixedBytes 3 msg.originMacAddress).length := by
    simp only [Pb.encodeFixedBytes, Pb.encodeString, List.length_append, Vector.length_toList]
    omega
  simp only [Pb.encodeFields, List.length_append]
  omega

/-! ## The enrollment request -/

/-- The message the gateway builds for the server.
SOURCE: Serial_Adapter.cpp:304-309 -/
def enrollmentRequest (mac : MacAddress) (pubKey : Key) : MeshMessage :=
  { MeshMessage.zero with
    messageType := MeshMessageType.enrollment
    protoVersion := 1
    originMacAddress := mac
    enrollmentPublicKey := pubKey }

/-- The message fits in the buffer of 128 bytes: 2 for the type, 24 for the addresses, 66 for the
data, 2 for the version and 34 for the key.
SOURCE: Serial_Adapter.cpp:304-323 -/
theorem length_enrollmentRequest_le (mac : MacAddress) (pubKey : Key) :
    (Pb.encodeFields (toPb (enrollmentRequest mac pubKey))).length ≤ 128 := by
  generalize hpb : toPb (enrollmentRequest mac pubKey) = pb
  have htype : (Pb.encodeUint32 1 pb.messageType).length ≤ 2 := by
    subst hpb
    exact length_encodeUint32_of_lt (by decide)
      (show MeshMessageType.enrollment.toUInt32.toNat < 128 by decide)
  have hdataType : (Pb.encodeSint32 2 pb.dataType).length = 0 := by
    subst hpb
    rfl
  have horigin := length_encodeFixedBytes_le pb.originMacAddress (show 3 < 15 by decide)
  have htarget := length_encodeFixedBytes_le pb.targetMacAddress (show 4 < 15 by decide)
  have hlastHop := length_encodeFixedBytes_le pb.lastHopMacAddress (show 5 < 15 by decide)
  have hdata : (Pb.encodeBytes 6 pb.hasData pb.data).length ≤ 64 + 2 :=
    length_encodeBytes_le _ _ (by decide) (by decide)
  have hhopCount : (Pb.encodeUint32 7 pb.hopCount).length = 0 := by
    subst hpb
    rfl
  have hepochNum : (Pb.encodeUint32 8 pb.epochNum).length = 0 := by
    subst hpb
    rfl
  have hseqNum : (Pb.encodeUint32 9 pb.seqNum).length = 0 := by
    subst hpb
    rfl
  have hversion : (Pb.encodeUint32 10 pb.protoVersion).length ≤ 2 := by
    subst hpb
    exact length_encodeUint32_of_lt (by decide) (show (1 : UInt8).toUInt32.toNat < 128 by decide)
  have hkey : (Pb.encodeBytes 11 pb.hasPublicKey pb.publicKey).length ≤ 32 + 2 :=
    length_encodeBytes_le _ _ (by decide) (by decide)
  simp only [Pb.encodeFields, List.length_append]
  omega

/-! ## Result -/

/-- **Encoding to serial never fails**, and writes the fields of the message by nanopb's rules.
Every mesh message fits in 160 bytes, and so in the buffer of `MAX_PAYLOAD`; every enrollment
request fits in its buffer of 128, and so is written to the server.
SOURCE: Serial_Adapter.cpp:203-254, 304-323, mesh.pb.h:62-87 -/
theorem encodeMeshMessage_succeeds :
    (∀ msg, ∃ payload, encodeMeshMessage msg maxPayload = some payload ∧
        payload = Pb.encodeFields (toPb msg) ∧ 0 < payload.length ∧ payload.length ≤ 160) ∧
      ∀ (d : Device) (mac : MacAddress) (pubKey : Key), ∃ payload,
        encodeMeshMessage (enrollmentRequest mac pubKey) 128 = some payload ∧
          payload = Pb.encodeFields (toPb (enrollmentRequest mac pubKey)) ∧
          0 < payload.length ∧ payload.length ≤ 128 ∧
          d.relayEnrollmentToServer mac pubKey = d.writeFrame payload := by
  constructor
  · intro msg
    exact ⟨_, encodeMeshMessage_eq msg, rfl, length_encodeFields_pos _, length_encodeFields_le _⟩
  · intro d mac pubKey
    have hfits : encodeMeshMessage (enrollmentRequest mac pubKey) 128 =
        some (Pb.encodeFields (toPb (enrollmentRequest mac pubKey))) :=
      if_pos (length_enrollmentRequest_le mac pubKey)
    refine ⟨_, hfits, rfl, length_encodeFields_pos _, length_enrollmentRequest_le mac pubKey, ?_⟩
    unfold enrollmentRequest at hfits
    rw [Device.relayEnrollmentToServer, hfits]
    rfl

end LatticeNodes.Analysis
