import LatticeNodes.Program.Nanopb

/-!
# Round trip of the protobuf layer

`decode_encodeFields`: decoding the fields that were encoded gives back the message, for
every message whose `bytes` fields hold nothing beyond their size (`Canonical`).

The decoder is a loop over a stream; `Decodes msg stream res` says that what is left of the
stream completes `msg` to `res`.  One lemma for each kind of field peels that field off the
front, and the round trip is their composition in field order.
-/

set_option autoImplicit false

namespace LatticeNodes.Analysis

open LatticeNodes.Program WireFormat

/-! ## Single values -/

/-- A key below 128 is one byte, and is read back.
SOURCE: pb_decode.c:171-235 -/
theorem decodeVarint32_encodeKey {number wireType : ℕ} (h : number * 8 + wireType < 128)
    (s : List UInt8) :
    Pb.decodeVarint32 (encodeKey number wireType ++ s) = some (number * 8 + wireType, s) := by
  have hb : (UInt8.ofNat (number * 8 + wireType)).toNat = number * 8 + wireType := by
    rw [UInt8.toNat_ofNat']; omega
  rw [encodeKey, encodeVarint_of_lt h, List.singleton_append, Pb.decodeVarint32, hb, if_pos h]

/-- A length below 128 is one byte, and is read back.
SOURCE: pb_decode.c:171-235 -/
theorem decodeVarint32_length {k : ℕ} (h : k < 128) (s : List UInt8) :
    Pb.decodeVarint32 (encodeVarint k ++ s) = some (k, s) := by
  have hb : (UInt8.ofNat k).toNat = k := by rw [UInt8.toNat_ofNat']; omega
  rw [encodeVarint_of_lt h, List.singleton_append, Pb.decodeVarint32, hb, if_pos h]

/-- After its key, the value of a field decides the step.
SOURCE: pb_decode.c:1015-1116 -/
theorem decodeField_encodeKey (msg : PbMeshMessage) {number wireType : ℕ}
    (hn : number < 15) (hw : wireType < 8) (s : List UInt8) :
    Pb.decodeField msg (encodeKey number wireType ++ s) =
      Pb.decodeValue msg number wireType s := by
  have hnumber : (number * 8 + wireType) / 8 = number := by omega
  have hwire : (number * 8 + wireType) % 8 = wireType := by omega
  simp only [Pb.decodeField, decodeVarint32_encodeKey (show number * 8 + wireType < 128 by omega),
    Option.bind_some, hnumber, hwire]

/-- An unsigned number comes back. -/
theorem decodeUint32_encodeVarint (v : UInt32) (s : List UInt8) :
    Pb.decodeUint32 wireVarint (encodeVarint v.toNat ++ s) = some (v, s) := by
  have hv : v.toNat < 2 ^ 32 := v.toNat_lt
  have h64 : v.toNat < 2 ^ 64 := by omega
  simp only [Pb.decodeUint32, ne_eq, not_true_eq_false, if_false, decodeVarint_encode h64,
    Option.bind_some, if_pos hv, UInt32.ofNat_toNat]

/-- A signed number comes back. -/
theorem decodeSint32_encodeVarint (v : Int32) (s : List UInt8) :
    Pb.decodeSint32 wireVarint (encodeVarint (zigzag v.toInt) ++ s) = some (v, s) := by
  have hlo : -(2 ^ 31 : ℤ) ≤ v.toInt := v.le_toInt
  have hhi : v.toInt < 2 ^ 31 := v.toInt_lt
  have hz : zigzag v.toInt < 2 ^ 64 := lt_trans (zigzag_lt hlo hhi) (by decide)
  simp only [Pb.decodeSint32, ne_eq, not_true_eq_false, if_false, decodeVarint_encode hz,
    Option.bind_some, unzigzag_zigzag, if_pos (And.intro hlo hhi), Int32.ofInt_toInt]

/-- A read takes its bytes off the front. -/
theorem read_append {bytes : List UInt8} {k : ℕ} (h : bytes.length = k) (s : List UInt8) :
    Pb.read (bytes ++ s) k = some (bytes, s) := by
  subst h
  simp [Pb.read]

/-- Overwriting a whole buffer leaves nothing of it. -/
theorem overwrite_toList {n : ℕ} (buffer v : Vector UInt8 n) :
    Pb.overwrite buffer v.toList = v := by
  ext i hi
  simp [Pb.overwrite]

/-- An address comes back, whatever was there before. -/
theorem decodeFixedBytes_encode (dest v : MacAddress) (s : List UInt8) :
    Pb.decodeFixedBytes wireString dest (encodeVarint v.toList.length ++ (v.toList ++ s)) =
      some (v, s) := by
  have hlen : v.toList.length = 6 := by simp
  simp only [Pb.decodeFixedBytes, ne_eq, not_true_eq_false, if_false, hlen,
    decodeVarint32_length (show 6 < 128 by decide), Option.bind_some,
    show ¬(6 = 0) by decide, read_append hlen, Option.map_some, overwrite_toList]

/-- A `bytes` field that holds nothing beyond its size: what the decoder produces from a
fresh message. -/
def PbBytes.Canonical {max : ℕ} (v : PbBytes max) : Prop :=
  Pb.overwrite (Vector.replicate max 0) (v.bytes.toList.take v.size) = v.bytes

/-- The bytes of a canonical field come back. -/
theorem decodeBytes_encode {max : ℕ} (hmax : max < 128) {v : PbBytes max}
    (hv : PbBytes.Canonical v) (s : List UInt8) :
    Pb.decodeBytes wireString (⟨0, Vector.replicate max 0⟩ : PbBytes max)
      (encodeVarint (v.bytes.toList.take v.size).length ++
        (v.bytes.toList.take v.size ++ s)) = some (v, s) := by
  obtain ⟨size, bytes⟩ := v
  have hsize : (size : ℕ) ≤ max := Nat.lt_succ_iff.mp size.isLt
  have hlen : (bytes.toList.take size).length = size := by simpa using hsize
  have hle : (bytes.toList.take size).length ≤ max := by omega
  simp only [Pb.decodeBytes, ne_eq, not_true_eq_false, if_false,
    decodeVarint32_length (show (bytes.toList.take size).length < 128 by omega),
    Option.bind_some, dif_pos hle, read_append rfl, Option.map_some, Option.some.injEq,
    Prod.mk.injEq, PbBytes.mk.injEq, and_true]
  exact ⟨Fin.ext hlen, hv⟩

/-! ## The loop -/

/-- The stream completes `msg` to `res`, whatever bound is put on the loop.
SOURCE: pb_decode.c:1013-1116 -/
def Decodes (msg : PbMeshMessage) (stream : List UInt8) (res : PbMeshMessage) : Prop :=
  ∀ n, stream.length ≤ n → Pb.decodeFields n msg stream = some res

/-- No bytes change nothing. -/
theorem Decodes.nil (msg : PbMeshMessage) : Decodes msg [] msg := by
  intro n _
  cases n <;> rfl

/-- One field at the front of the stream. -/
theorem Decodes.field {msg msg' res : PbMeshMessage} {bytes rest : List UInt8}
    (hne : bytes ≠ []) (h : Pb.decodeField msg (bytes ++ rest) = some (msg', rest))
    (hrest : Decodes msg' rest res) : Decodes msg (bytes ++ rest) res := by
  obtain ⟨b, bs, rfl⟩ := List.exists_cons_of_ne_nil hne
  intro n hn
  simp only [List.cons_append, List.length_cons, List.length_append] at hn
  obtain ⟨n, rfl⟩ := Nat.exists_eq_add_of_le' (show 1 ≤ n by omega)
  rw [List.cons_append] at h ⊢
  rw [Pb.decodeFields, h, Option.bind_some]
  exact hrest n (by omega)

/-- A stream that begins with a key is not at its end. -/
theorem encodeKey_append_ne_nil (number wireType : ℕ) (s : List UInt8) :
    encodeKey number wireType ++ s ≠ [] := by
  simp [encodeKey, encodeVarint_ne_nil]

/-- A `uint32` field; `set` stores its value, and storing 0 changes nothing.
SOURCE: pb_encode.c:244-289, pb_decode.c:1427-1449 -/
theorem Decodes.uint32 {msg res : PbMeshMessage} {rest : List UInt8} (number : ℕ)
    (hn : number < 15) (set : UInt32 → PbMeshMessage)
    (hset : ∀ wireType s, Pb.decodeValue msg number wireType s =
      (Pb.decodeUint32 wireType s).map fun r => (set r.1, r.2))
    (hzero : set 0 = msg) (v : UInt32) (h : Decodes (set v) rest res) :
    Decodes msg (Pb.encodeUint32 number v ++ rest) res := by
  unfold Pb.encodeUint32
  split
  · next hv => simpa [hv, hzero] using h
  · refine .field (encodeKey_append_ne_nil _ _ _) ?_ h
    rw [List.append_assoc, decodeField_encodeKey msg hn (by decide), hset,
      decodeUint32_encodeVarint, Option.map_some]

/-- The `sint32` field.
SOURCE: pb_encode.c:244-289, pb_decode.c:1356-1368 -/
theorem Decodes.sint32 {msg res : PbMeshMessage} {rest : List UInt8} (v : Int32)
    (hzero : msg.dataType = 0) (h : Decodes { msg with dataType := v } rest res) :
    Decodes msg (Pb.encodeSint32 2 v ++ rest) res := by
  unfold Pb.encodeSint32
  split
  · next hv =>
    subst hv
    rw [← hzero] at h
    exact h
  · refine .field (encodeKey_append_ne_nil _ _ _) ?_ h
    rw [List.append_assoc, decodeField_encodeKey msg (by decide) (by decide), Pb.decodeValue,
      decodeSint32_encodeVarint, Option.map_some]

/-- A fixed-length field.
SOURCE: pb_encode.c:299-305, pb_decode.c:1639-1659 -/
theorem Decodes.fixedBytes {msg res : PbMeshMessage} {rest : List UInt8} (number : ℕ)
    (hn : number < 15) (old : MacAddress) (set : MacAddress → PbMeshMessage)
    (hset : ∀ wireType s, Pb.decodeValue msg number wireType s =
      (Pb.decodeFixedBytes wireType old s).map fun r => (set r.1, r.2))
    (v : MacAddress) (h : Decodes (set v) rest res) :
    Decodes msg (Pb.encodeFixedBytes number v ++ rest) res := by
  unfold Pb.encodeFixedBytes Pb.encodeString
  refine .field (by rw [List.append_assoc]; exact encodeKey_append_ne_nil _ _ _) ?_ h
  rw [List.append_assoc, List.append_assoc, decodeField_encodeKey msg hn (by decide), hset,
    decodeFixedBytes_encode, Option.map_some]

/-- An optional `bytes` field that is written.
SOURCE: pb_encode.c:262-267, pb_decode.c:1497-1538 -/
theorem Decodes.bytes {max : ℕ} (hmax : max < 128) {msg res : PbMeshMessage}
    {rest : List UInt8} (number : ℕ) (hn : number < 15) (set : PbBytes max → PbMeshMessage)
    (hset : ∀ wireType s, Pb.decodeValue msg number wireType s =
      (Pb.decodeBytes wireType (⟨0, Vector.replicate max 0⟩ : PbBytes max) s).map
        fun r => (set r.1, r.2))
    {v : PbBytes max} (hv : PbBytes.Canonical v) (h : Decodes (set v) rest res) :
    Decodes msg (Pb.encodeBytes number true v ++ rest) res := by
  unfold Pb.encodeBytes Pb.encodeString
  rw [if_pos rfl]
  refine .field (by rw [List.append_assoc]; exact encodeKey_append_ne_nil _ _ _) ?_ h
  rw [List.append_assoc, List.append_assoc, decodeField_encodeKey msg hn (by decide), hset,
    decodeBytes_encode hmax hv, Option.map_some]

/-! ## The round trip -/

/-- A message that the decoder can produce: its `bytes` fields hold nothing beyond their size,
and nothing at all when they are absent. -/
structure PbMeshMessage.Canonical (msg : PbMeshMessage) : Prop where
  data : PbBytes.Canonical msg.data
  publicKey : PbBytes.Canonical msg.publicKey
  no_data : msg.hasData = false → msg.data = ⟨0, zeroPayload⟩
  no_publicKey : msg.hasPublicKey = false → msg.publicKey = ⟨0, zeroKey⟩

/-- The data field of a canonical message, present or not.
SOURCE: pb_encode.c:262-267, pb_decode.c:1497-1538 -/
theorem Decodes.data {msg acc res : PbMeshMessage} {rest : List UInt8}
    (hc : PbMeshMessage.Canonical msg) (hhas : acc.hasData = false)
    (hdata : acc.data = ⟨0, zeroPayload⟩)
    (h : Decodes { acc with hasData := msg.hasData, data := msg.data } rest res) :
    Decodes acc (Pb.encodeBytes 6 msg.hasData msg.data ++ rest) res := by
  cases hd : msg.hasData with
  | false =>
      rw [hd, hc.no_data hd, ← hhas, ← hdata] at h
      exact h
  | true =>
      rw [hd] at h
      refine .bytes (by decide) 6 (by decide) (fun v => { acc with hasData := true, data := v })
        (fun _ _ => ?_) hc.data h
      rw [Pb.decodeValue, hdata]
      rfl

/-- The key field of a canonical message, the last one, present or not.
SOURCE: pb_encode.c:262-267, pb_decode.c:1497-1538 -/
theorem Decodes.publicKey {msg : PbMeshMessage} (hc : PbMeshMessage.Canonical msg) :
    Decodes { msg with hasPublicKey := false, publicKey := ⟨0, zeroKey⟩ }
      (Pb.encodeBytes 11 msg.hasPublicKey msg.publicKey) msg := by
  cases hk : msg.hasPublicKey with
  | false =>
      have hmsg : { msg with hasPublicKey := false, publicKey := ⟨0, zeroKey⟩ } = msg := by
        rw [← hc.no_publicKey hk, ← hk]
      rw [hmsg]
      exact .nil msg
  | true =>
      have hmsg : { msg with hasPublicKey := true, publicKey := msg.publicKey } = msg := by
        rw [← hk]
      have hend : Decodes { msg with hasPublicKey := true, publicKey := msg.publicKey } [] msg := by
        rw [hmsg]
        exact .nil msg
      have hbytes : Decodes { msg with hasPublicKey := false, publicKey := ⟨0, zeroKey⟩ }
          (Pb.encodeBytes 11 true msg.publicKey ++ []) msg :=
        .bytes (by decide) 11 (by decide)
          (fun v => { msg with hasPublicKey := true, publicKey := v })
          (fun wireType s => by rw [Pb.decodeValue]; rfl) hc.publicKey hend
      rwa [List.append_nil] at hbytes

/-- Decoding the encoded fields gives the message back.
SOURCE: pb_encode.c, pb_decode.c, mesh.pb.h:63-74 -/
theorem decode_encodeFields {msg : PbMeshMessage} (hc : PbMeshMessage.Canonical msg) :
    Pb.decode (Pb.encodeFields msg) = some msg := by
  have hdec : Decodes PbMeshMessage.initZero (Pb.encodeFields msg) msg := by
    unfold Pb.encodeFields
    refine .uint32 1 (by decide) (fun v => { PbMeshMessage.initZero with messageType := v })
      (fun _ _ => rfl) rfl _ ?_
    refine .sint32 _ rfl ?_
    refine .fixedBytes 3 (by decide) _ (fun v => { PbMeshMessage.initZero with
      messageType := msg.messageType, dataType := msg.dataType, originMacAddress := v })
      (fun _ _ => rfl) _ ?_
    refine .fixedBytes 4 (by decide) _ (fun v => { PbMeshMessage.initZero with
      messageType := msg.messageType, dataType := msg.dataType,
      originMacAddress := msg.originMacAddress, targetMacAddress := v })
      (fun _ _ => rfl) _ ?_
    refine .fixedBytes 5 (by decide) _ (fun v => { PbMeshMessage.initZero with
      messageType := msg.messageType, dataType := msg.dataType,
      originMacAddress := msg.originMacAddress, targetMacAddress := msg.targetMacAddress,
      lastHopMacAddress := v }) (fun _ _ => rfl) _ ?_
    refine .data hc rfl rfl ?_
    refine .uint32 7 (by decide) (fun v => { msg with
      hopCount := v, epochNum := 0, seqNum := 0, protoVersion := 0, hasPublicKey := false,
      publicKey := ⟨0, zeroKey⟩ }) (fun _ _ => rfl) rfl _ ?_
    refine .uint32 8 (by decide) (fun v => { msg with
      epochNum := v, seqNum := 0, protoVersion := 0, hasPublicKey := false,
      publicKey := ⟨0, zeroKey⟩ }) (fun _ _ => rfl) rfl _ ?_
    refine .uint32 9 (by decide) (fun v => { msg with
      seqNum := v, protoVersion := 0, hasPublicKey := false,
      publicKey := ⟨0, zeroKey⟩ }) (fun _ _ => rfl) rfl _ ?_
    refine .uint32 10 (by decide) (fun v => { msg with
      protoVersion := v, hasPublicKey := false,
      publicKey := ⟨0, zeroKey⟩ }) (fun _ _ => rfl) rfl _ ?_
    exact .publicKey hc
  exact hdec _ le_rfl

/-! ## Size -/

/-- A `uint32` field takes at most six bytes.
SOURCE: pb_encode.c:244-289 -/
theorem length_encodeUint32_le {number : ℕ} (v : UInt32) (hn : number < 15) :
    (Pb.encodeUint32 number v).length ≤ 6 := by
  unfold Pb.encodeUint32
  split
  · simp
  · have hkey := length_encodeKey_le (show number * 8 + wireVarint < 128 by
      simp only [wireVarint]; omega)
    have hlt : v.toNat < 128 ^ 5 := lt_trans v.toNat_lt (by decide)
    have hval := length_encodeVarint_le (by decide) hlt
    rw [List.length_append]
    omega

/-- The `sint32` field takes at most six bytes.
SOURCE: pb_encode.c:244-289 -/
theorem length_encodeSint32_le (v : Int32) : (Pb.encodeSint32 2 v).length ≤ 6 := by
  unfold Pb.encodeSint32
  split
  · simp
  · have hkey := length_encodeKey_le (show 2 * 8 + wireVarint < 128 by decide)
    have hlt : zigzag v.toInt < 128 ^ 5 :=
      lt_trans (zigzag_lt v.le_toInt v.toInt_lt) (by decide)
    have hval := length_encodeVarint_le (by decide) hlt
    rw [List.length_append]
    omega

/-- A string-like field of fewer than 128 bytes takes two bytes more.
SOURCE: pb_encode.c:710-722 -/
theorem length_encodeString_le {number : ℕ} (bytes : List UInt8) (hn : number < 15)
    (hb : bytes.length < 128) : (Pb.encodeString number bytes).length ≤ bytes.length + 2 := by
  have hkey := length_encodeKey_le (show number * 8 + wireString < 128 by
    simp only [wireString]; omega)
  have hlen : (encodeVarint bytes.length).length ≤ 1 :=
    length_encodeVarint_le (by decide) (by simpa using hb)
  simp only [Pb.encodeString, List.length_append]
  omega

/-- A bytes field costs two bytes more than it holds. -/
theorem length_encodeBytes_le {number max : ℕ} (present : Bool) (v : PbBytes max)
    (hn : number < 15) (hmax : max < 128) :
    (Pb.encodeBytes number present v).length ≤ max + 2 := by
  have htake : (v.bytes.toList.take v.size).length ≤ max := by
    rw [List.length_take]
    simp
  unfold Pb.encodeBytes
  split
  · have := length_encodeString_le (v.bytes.toList.take v.size) hn (by omega)
    omega
  · simp

/-- An address takes eight bytes.
SOURCE: pb_encode.c:299-305 -/
theorem length_encodeFixedBytes_le {number : ℕ} (mac : MacAddress) (hn : number < 15) :
    (Pb.encodeFixedBytes number mac).length ≤ 8 := by
  simpa [Pb.encodeFixedBytes] using length_encodeString_le mac.toList hn (by simp)

/-- Every message fits in `mesh_MeshMessage_size` bytes.
SOURCE: mesh.pb.h:85 -/
theorem length_encodeFields_le (msg : PbMeshMessage) :
    (Pb.encodeFields msg).length ≤ 160 := by
  have hword : ∀ (n : ℕ) (v : UInt32), n < 15 → (Pb.encodeUint32 n v).length ≤ 6 :=
    fun n v hn => length_encodeUint32_le v hn
  have h1 := hword 1 msg.messageType (by decide)
  have h2 := length_encodeSint32_le msg.dataType
  have h3 := length_encodeFixedBytes_le msg.originMacAddress (show 3 < 15 by decide)
  have h4 := length_encodeFixedBytes_le msg.targetMacAddress (show 4 < 15 by decide)
  have h5 := length_encodeFixedBytes_le msg.lastHopMacAddress (show 5 < 15 by decide)
  have h6 : (Pb.encodeBytes 6 msg.hasData msg.data).length ≤ 64 + 2 :=
    length_encodeBytes_le _ _ (by decide) (by decide)
  have h7 := hword 7 msg.hopCount (by decide)
  have h8 := hword 8 msg.epochNum (by decide)
  have h9 := hword 9 msg.seqNum (by decide)
  have h10 := hword 10 msg.protoVersion (by decide)
  have h11 : (Pb.encodeBytes 11 msg.hasPublicKey msg.publicKey).length ≤ 32 + 2 :=
    length_encodeBytes_le _ _ (by decide) (by decide)
  simp only [Pb.encodeFields, List.length_append]
  omega

end LatticeNodes.Analysis
