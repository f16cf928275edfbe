import LatticeNodes.Analysis.NanopbMemory
import LatticeNodes.Analysis.NanopbRoundTrip

/-!
# The decoder of the engine is the decoder of the message

`Represents` says which message a struct in memory holds: each member is a cell of its bytes
(`layout`).  Decoding through the descriptor and decoding the message field by field accept the
same streams, and what the first leaves in memory represents what the second returns, whatever
was in memory before: `decode_refines`.
-/

set_option autoImplicit false

namespace LatticeNodes.Analysis.NanopbDecoding

open LatticeNodes.Program LatticeNodes.Program.PbEngine NanopbIterator NanopbMemory ByteMemory
open WireFormat

/-! ## The struct -/

/-- The bytes of an `int32_t`. -/
def int32Bytes (v : Int32) : List UInt8 := littleEndian 4 (v.toInt % 2 ^ 32).toNat

/-- The byte of a `bool`. -/
def boolByte (b : Bool) : UInt8 := if b then 1 else 0

/-- The members of the struct at an address, with the bytes they hold.
SOURCE: mesh.pb.h:12-29 -/
def layout (message : ℕ) (msg : PbMeshMessage) : List (ℕ × List UInt8) :=
  [(message + MeshMember.messageType.offset, littleEndian 4 msg.messageType.toNat),
    (message + MeshMember.dataType.offset, int32Bytes msg.dataType),
    (message + MeshMember.originMacAddress.offset, msg.originMacAddress.toList),
    (message + MeshMember.targetMacAddress.offset, msg.targetMacAddress.toList),
    (message + MeshMember.lastHopMacAddress.offset, msg.lastHopMacAddress.toList),
    (message + MeshMember.hasData.offset, [boolByte msg.hasData]),
    (message + MeshMember.data.offset, littleEndian 2 msg.data.size),
    (message + MeshMember.data.offset + 2, msg.data.bytes.toList),
    (message + MeshMember.hopCount.offset, littleEndian 4 msg.hopCount.toNat),
    (message + MeshMember.epochNum.offset, littleEndian 4 msg.epochNum.toNat),
    (message + MeshMember.seqNum.offset, littleEndian 4 msg.seqNum.toNat),
    (message + MeshMember.protoVersion.offset, littleEndian 4 msg.protoVersion.toNat),
    (message + MeshMember.hasPublicKey.offset, [boolByte msg.hasPublicKey]),
    (message + MeshMember.publicKey.offset, littleEndian 2 msg.publicKey.size),
    (message + MeshMember.publicKey.offset + 2, msg.publicKey.bytes.toList)]

/-- The struct at an address holds a message. -/
def Represents (m : Mem) (message : ℕ) (msg : PbMeshMessage) : Prop :=
  Contains m (layout message msg)

/-- Where the cells lie in the struct, and how long they are. -/
def extents : List (ℕ × ℕ) :=
  [(0, 4), (4, 4), (8, 6), (14, 6), (20, 6), (26, 1), (28, 2), (30, 64), (96, 4), (100, 4),
    (104, 4), (108, 4), (112, 1), (114, 2), (116, 32)]

/-- Where the members of a struct lie does not depend on the message in it. -/
theorem layout_extents (message : ℕ) (msg : PbMeshMessage) :
    (layout message msg).map (fun c => (c.1, c.2.length)) =
      extents.map fun c => (message + c.1, c.2) := by
  simp [layout, int32Bytes, extents]
  decide

/-- The members of the struct do not overlap. -/
theorem pairwise_layout (message : ℕ) (msg : PbMeshMessage) :
    (layout message msg).Pairwise Apart := by
  have hextents : extents.Pairwise fun c d => c.1 + c.2 ≤ d.1 := by decide
  have hpairs : ((layout message msg).map fun c => (c.1, c.2.length)).Pairwise
      fun c d => c.1 + c.2 ≤ d.1 ∨ d.1 + d.2 ≤ c.1 := by
    rw [layout_extents, List.pairwise_map]
    apply hextents.imp
    intro c d h
    omega
  rw [List.pairwise_map] at hpairs
  exact hpairs

/-- A write of a member's bytes changes that member of the message. -/
theorem Represents.write {m : Mem} {message : ℕ} {msg msg' : PbMeshMessage}
    (h : Represents m message msg) (i : ℕ) {c : ℕ × List UInt8}
    (hc : (layout message msg)[i]? = some c) {bytes : List UInt8}
    (hlength : bytes.length = c.2.length)
    (hset : (layout message msg).set i (c.1, bytes) = layout message msg') :
    Represents (write m c.1 bytes) message msg' := by
  rw [Represents, ← hset]
  exact Contains.write h (pairwise_layout message msg) hc hlength

/-! ## Values -/

/-- A value decoder of the engine does what a decoder of plain values does, and leaves the value
it returns in memory. -/
def Yields {α : Type} (d : Decoded) (decoded : Option (α × List UInt8)) (after : α → Mem) : Prop :=
  (decoded = none → d.2 = none) ∧ ∀ v rest, decoded = some (v, rest) → d = (after v, some rest)

/-- A value that fails to decode leaves no obligation. -/
theorem Yields.none {α : Type} {m : Mem} (after : α → Mem) : Yields (m, none) none after :=
  ⟨fun _ => rfl, fun _ _ h => by simp at h⟩

/-- A decoded value is there when the memory is what was promised of it. -/
theorem Yields.some {α : Type} {v : α} {rest : List UInt8} {m : Mem} (after : α → Mem)
    (h : after v = m) : Yields (m, some rest) (some (v, rest)) after := by
  refine ⟨fun h => by simp at h, fun v' rest' heq => ?_⟩
  simp only [Option.some.injEq, Prod.mk.injEq] at heq
  rw [← heq.1, ← heq.2, h]

/-- Bytes written over the start of a buffer. -/
theorem toList_overwrite {n : ℕ} (buffer : Vector UInt8 n) {bytes : List UInt8}
    (h : bytes.length ≤ n) :
    (Pb.overwrite buffer bytes).toList = bytes ++ buffer.toList.drop bytes.length := by
  apply List.ext_getElem
  · simp
    omega
  · intro i hi hi'
    have hin : i < n := by simpa using hi
    by_cases hinside : i < bytes.length
    · simp [Pb.overwrite, List.getElem_append_left hinside, hinside]
    · have hend : bytes.length ≤ i := by omega
      rw [List.getElem_append_right hend]
      simp [Pb.overwrite, hinside, hend]

section Values

variable {field : FieldIter} {wireType : ℕ} (m : Mem) (stream : List UInt8)

/-- An unsigned field: four bytes, clamped.
SOURCE: pb_decode.c:396-465 -/
theorem decodeBasicField_uint32 (htype : ltype field.type = ltypeUvarint)
    (hsize : field.dataSize = 4) (hwire : wireType < 8) :
    Yields (decodeBasicField wireType field m stream) (Pb.decodeUint32 wireType stream)
      fun v => write m field.pField (littleEndian 4 v.toNat) := by
  have hbasic : decodeBasicField wireType field m stream =
      if wireType ≠ wireVarint ∧ wireType ≠ wirePacked then (m, none)
      else decVarint field m stream := by
    rw [decodeBasicField, htype]
    rfl
  rw [hbasic, Pb.decodeUint32]
  by_cases hvarint : wireType = wireVarint
  · rw [if_neg (by simp [hvarint]), if_neg (by simp [hvarint]), decVarint]
    cases decodeVarint stream with
    | none => exact .none _
    | some decoded =>
        obtain ⟨value, rest⟩ := decoded
        have hinteger : ¬¬isIntegerSize 4 = true := by decide
        simp only [Option.bind_some, hsize, if_neg hinteger, htype, if_true]
        by_cases hlt : value < 2 ^ 32
        · have hclamped : value % 256 ^ 4 = value := Nat.mod_eq_of_lt hlt
          have hvalue : (UInt32.ofNat value).toNat = value := by
            rw [UInt32.toNat_ofNat']
            exact hclamped
          rw [if_pos hlt, hclamped, if_pos rfl]
          apply Yields.some
          rw [hvalue]
        · have hclamped : ¬value % 256 ^ 4 = value := by omega
          rw [if_neg hlt, if_neg hclamped]
          exact .none _
  · have hpacked : wireType ≠ wirePacked := by
      rw [wirePacked]
      omega
    rw [if_pos ⟨hvarint, hpacked⟩, if_pos hvarint]
    exact .none _

/-- A signed field in zigzag coding: four bytes, clamped.
SOURCE: pb_decode.c:396-465 -/
theorem decodeBasicField_sint32 (htype : ltype field.type = ltypeSvarint)
    (hsize : field.dataSize = 4) (hwire : wireType < 8) :
    Yields (decodeBasicField wireType field m stream) (Pb.decodeSint32 wireType stream)
      fun v => write m field.pField (int32Bytes v) := by
  have hbasic : decodeBasicField wireType field m stream =
      if wireType ≠ wireVarint ∧ wireType ≠ wirePacked then (m, none)
      else decVarint field m stream := by
    rw [decodeBasicField, htype]
    rfl
  have hsigned : ¬ltypeSvarint = ltypeUvarint := by decide
  rw [hbasic, Pb.decodeSint32]
  by_cases hvarint : wireType = wireVarint
  · rw [if_neg (by simp [hvarint]), if_neg (by simp [hvarint]), decVarint]
    cases decodeVarint stream with
    | none => exact .none _
    | some decoded =>
        obtain ⟨value, rest⟩ := decoded
        have hinteger : ¬¬isIntegerSize 4 = true := by decide
        simp only [Option.bind_some, hsize, if_neg hinteger, htype, if_neg hsigned, if_true]
        generalize unzigzag value = svalue
        by_cases hfits : -(2 ^ 31) ≤ svalue ∧ svalue < 2 ^ 31
        · have hclamped : svalue.bmod (256 ^ 4) = svalue := by
            simp only [Int.bmod_def]
            omega
          rw [if_pos hfits, hclamped, if_pos rfl]
          apply Yields.some
          have hvalue : (Int32.ofInt svalue).toInt = svalue := by
            rw [Int32.toInt_ofInt]
            exact hclamped
          rw [int32Bytes, hvalue]
          rfl
        · have hclamped : ¬svalue.bmod (256 ^ 4) = svalue := by
            simp only [Int.bmod_def]
            omega
          rw [if_neg hfits, if_neg hclamped]
          exact .none _
  · have hpacked : wireType ≠ wirePacked := by
      rw [wirePacked]
      omega
    rw [if_pos ⟨hvarint, hpacked⟩, if_pos hvarint]
    exact .none _

/-- A field of fixed length: as many bytes as the member has.
SOURCE: pb_decode.c:396-465 -/
theorem decodeBasicField_fixedBytes (htype : ltype field.type = ltypeFixedLengthBytes)
    (hsize : field.dataSize = 6) (dest : MacAddress) :
    Yields (decodeBasicField wireType field m stream) (Pb.decodeFixedBytes wireType dest stream)
      fun v => write m field.pField v.toList := by
  have hbasic : decodeBasicField wireType field m stream =
      if wireType ≠ wireString then (m, none) else decFixedLengthBytes field m stream := by
    rw [decodeBasicField, htype]
    rfl
  rw [hbasic, Pb.decodeFixedBytes]
  by_cases hstring : wireType ≠ wireString
  · rw [if_pos hstring, if_pos hstring]
    exact .none _
  rw [if_neg hstring, if_neg hstring, decFixedLengthBytes]
  cases Pb.decodeVarint32 stream with
  | none => exact .none _
  | some decoded =>
      obtain ⟨size, rest⟩ := decoded
      simp only [Option.bind_some, hsize]
      by_cases hzero : size = 0
      · rw [if_neg (by omega), if_pos hzero, if_pos hzero]
        exact .some _ rfl
      · by_cases hsix : size = 6
        · rw [if_neg (by omega), if_neg hzero, if_neg (not_not_intro hsix), if_neg hzero,
            if_neg (not_not_intro hsix)]
          cases hread : Pb.read rest 6 with
          | none => exact .none _
          | some read =>
              obtain ⟨bytes, rest⟩ := read
              have hlength := length_of_read hread
              apply Yields.some
              rw [toList_overwrite dest hlength.le, List.drop_eq_nil_of_le (by simp [hlength]),
                List.append_nil]
        · rw [if_neg hzero, if_pos hsix, if_neg hzero, if_pos hsix, ite_self]
          exact .none _

/-- The size and the bytes of a `bytes` value, after its flag. -/
def afterBytes {max : ℕ} (m : Mem) (pField : ℕ) (v : PbBytes max) : Mem :=
  write (write m pField (littleEndian 2 v.size)) (pField + 2) v.bytes.toList

/-- A bytes field: a length prefix, and the bytes that came; the rest stays.
SOURCE: pb_decode.c:396-465 -/
theorem decodeBasicField_bytes {max : ℕ} (hmax : max < 2 ^ 16 - 2)
    (htype : ltype field.type = ltypeBytes) (hsize : field.dataSize = 2 + max)
    {dest : PbBytes max} (hdest : read m (field.pField + 2) max = dest.bytes.toList) :
    Yields (decodeBasicField wireType field m stream) (Pb.decodeBytes wireType dest stream)
      (afterBytes m field.pField) := by
  have hbasic : decodeBasicField wireType field m stream =
      if wireType ≠ wireString then (m, none) else decBytes field m stream := by
    rw [decodeBasicField, htype]
    rfl
  rw [hbasic, Pb.decodeBytes]
  by_cases hstring : wireType ≠ wireString
  · rw [if_pos hstring, if_pos hstring]
    exact .none _
  rw [if_neg hstring, if_neg hstring, decBytes]
  cases Pb.decodeVarint32 stream with
  | none => exact .none _
  | some decoded =>
      obtain ⟨size, rest⟩ := decoded
      simp only [Option.bind_some, hsize]
      by_cases hfits : size ≤ max
      · rw [if_neg (by omega), if_neg (by omega), dif_pos hfits]
        cases hread : Pb.read rest size with
        | none => exact .none _
        | some read =>
            obtain ⟨bytes, rest⟩ := read
            have hlength := length_of_read hread
            apply Yields.some
            have hold : ByteMemory.read (write m field.pField (littleEndian 2 size))
                (field.pField + 2) max = dest.bytes.toList := by
              rw [read_write_of_disjoint m (by rw [length_littleEndian]; omega), hdest]
            have hle : bytes.length ≤ max := by omega
            rw [afterBytes, toList_overwrite dest.bytes hle, ← hold, write_append_read _ _ hle]
      · rw [dif_neg hfits]
        by_cases hlarge : 2 ^ 16 - 1 < size
        · rw [if_pos hlarge]
          exact .none _
        · rw [if_neg hlarge, if_pos (by omega)]
          exact .none _

end Values

/-! ## Fields -/

/-- A step of the engine on the struct does what a step on the message does. -/
def Refines (message : ℕ) (d : Decoded) (decoded : Option (PbMeshMessage × List UInt8)) : Prop :=
  (decoded = none → d.2 = none) ∧
    ∀ msg rest, decoded = some (msg, rest) → d.2 = some rest ∧ Represents d.1 message msg

/-- A decoded value in the right member is the message with that member set. -/
theorem Yields.refines {α : Type} {message : ℕ} {d : Decoded}
    {decoded : Option (α × List UInt8)} {after : α → Mem} (h : Yields d decoded after)
    {set : α → PbMeshMessage} (hset : ∀ v, Represents (after v) message (set v)) :
    Refines message d (decoded.map fun p => (set p.1, p.2)) := by
  cases decoded with
  | none => exact ⟨fun _ => h.1 rfl, fun _ _ hsome => by simp at hsome⟩
  | some p =>
      refine ⟨fun hnone => by simp at hnone, fun msg rest hsome => ?_⟩
      simp only [Option.map_some, Option.some.injEq, Prod.mk.injEq] at hsome
      rw [h.2 p.1 p.2 rfl, ← hsome.1, ← hsome.2]
      exact ⟨rfl, hset p.1⟩

section Members

variable {message : ℕ} {m : Mem} {msg : PbMeshMessage} (h : Represents m message msg)

include h

/-- Writing the member `messageType` sets it in the message. -/
theorem Represents.messageType (v : UInt32) :
    Represents (ByteMemory.write m (message + MeshMember.messageType.offset)
      (littleEndian 4 v.toNat)) message { msg with messageType := v } :=
  h.write 0 (c := (_, littleEndian 4 msg.messageType.toNat)) rfl (by simp) rfl

/-- Writing the member `dataType` sets it in the message. -/
theorem Represents.dataType (v : Int32) :
    Represents (ByteMemory.write m (message + MeshMember.dataType.offset) (int32Bytes v)) message
      { msg with dataType := v } :=
  h.write 1 (c := (_, int32Bytes msg.dataType)) rfl (by simp [int32Bytes]) rfl

/-- Writing the member `originMacAddress` sets it in the message. -/
theorem Represents.originMacAddress (v : MacAddress) :
    Represents (ByteMemory.write m (message + MeshMember.originMacAddress.offset) v.toList) message
      { msg with originMacAddress := v } :=
  h.write 2 (c := (_, msg.originMacAddress.toList)) rfl (by simp) rfl

/-- Writing the member `targetMacAddress` sets it in the message. -/
theorem Represents.targetMacAddress (v : MacAddress) :
    Represents (ByteMemory.write m (message + MeshMember.targetMacAddress.offset) v.toList) message
      { msg with targetMacAddress := v } :=
  h.write 3 (c := (_, msg.targetMacAddress.toList)) rfl (by simp) rfl

/-- Writing the member `lastHopMacAddress` sets it in the message. -/
theorem Represents.lastHopMacAddress (v : MacAddress) :
    Represents (ByteMemory.write m (message + MeshMember.lastHopMacAddress.offset) v.toList)
      message { msg with lastHopMacAddress := v } :=
  h.write 4 (c := (_, msg.lastHopMacAddress.toList)) rfl (by simp) rfl

/-- Writing `has_data` sets the flag of `data`. -/
theorem Represents.hasData (b : Bool) :
    Represents (ByteMemory.write m (message + MeshMember.hasData.offset) [boolByte b]) message
      { msg with hasData := b } :=
  h.write 5 (c := (_, [boolByte msg.hasData])) rfl rfl rfl

/-- Writing the size and the bytes of `data` sets it in the message. -/
theorem Represents.data (v : PbBytes 64) :
    Represents (afterBytes m (message + MeshMember.data.offset) v) message
      { msg with data := v } := by
  have hsize : Represents (ByteMemory.write m (message + MeshMember.data.offset)
      (littleEndian 2 v.size)) message { msg with data := ⟨v.size, msg.data.bytes⟩ } :=
    h.write 6 (c := (_, littleEndian 2 msg.data.size)) rfl (by simp) rfl
  exact hsize.write 7 (c := (_, msg.data.bytes.toList)) rfl (by simp) rfl

/-- Writing the member `hopCount` sets it in the message. -/
theorem Represents.hopCount (v : UInt32) :
    Represents (ByteMemory.write m (message + MeshMember.hopCount.offset)
      (littleEndian 4 v.toNat)) message { msg with hopCount := v } :=
  h.write 8 (c := (_, littleEndian 4 msg.hopCount.toNat)) rfl (by simp) rfl

/-- Writing the member `epochNum` sets it in the message. -/
theorem Represents.epochNum (v : UInt32) :
    Represents (ByteMemory.write m (message + MeshMember.epochNum.offset)
      (littleEndian 4 v.toNat)) message { msg with epochNum := v } :=
  h.write 9 (c := (_, littleEndian 4 msg.epochNum.toNat)) rfl (by simp) rfl

/-- Writing the member `seqNum` sets it in the message. -/
theorem Represents.seqNum (v : UInt32) :
    Represents (ByteMemory.write m (message + MeshMember.seqNum.offset)
      (littleEndian 4 v.toNat)) message { msg with seqNum := v } :=
  h.write 10 (c := (_, littleEndian 4 msg.seqNum.toNat)) rfl (by simp) rfl

/-- Writing the member `protoVersion` sets it in the message. -/
theorem Represents.protoVersion (v : UInt32) :
    Represents (ByteMemory.write m (message + MeshMember.protoVersion.offset)
      (littleEndian 4 v.toNat)) message { msg with protoVersion := v } :=
  h.write 11 (c := (_, littleEndian 4 msg.protoVersion.toNat)) rfl (by simp) rfl

/-- Writing `has_publicKey` sets the flag of `publicKey`. -/
theorem Represents.hasPublicKey (b : Bool) :
    Represents (ByteMemory.write m (message + MeshMember.hasPublicKey.offset) [boolByte b]) message
      { msg with hasPublicKey := b } :=
  h.write 12 (c := (_, [boolByte msg.hasPublicKey])) rfl rfl rfl

/-- Writing the size and the bytes of `publicKey` sets it in the message. -/
theorem Represents.publicKey (v : PbBytes 32) :
    Represents (afterBytes m (message + MeshMember.publicKey.offset) v) message
      { msg with publicKey := v } := by
  have hsize : Represents (ByteMemory.write m (message + MeshMember.publicKey.offset)
      (littleEndian 2 v.size)) message { msg with publicKey := ⟨v.size, msg.publicKey.bytes⟩ } :=
    h.write 13 (c := (_, littleEndian 2 msg.publicKey.size)) rfl (by simp) rfl
  exact hsize.write 14 (c := (_, msg.publicKey.bytes.toList)) rfl (by simp) rfl

end Members

section Fields

variable {message wireType : ℕ} {m : Mem} {msg : PbMeshMessage} (stream : List UInt8)

/-- The type byte of a field of the mesh message. -/
theorem type_parts : ∀ type < 16, atype (atypeStatic ||| htypeSingular ||| type) = atypeStatic ∧
    htype (atypeStatic ||| htypeSingular ||| type) = htypeOptional ∧
      ltype (atypeStatic ||| htypeSingular ||| type) = type := by
  decide

/-- A singular field is decoded in place, with no flag to set. -/
theorem decodeField_singular {type : ℕ} (hlt : type < 16) (k : ℕ) (member : MeshMember)
    (tag : ℕ) (m : Mem) :
    decodeField wireType (iterAt meshFields message k (singular type member tag).2) m stream =
      decodeBasicField wireType (iterAt meshFields message k (singular type member tag).2) m
        stream := by
  obtain ⟨hstatic, hsingular, -⟩ := type_parts type hlt
  have hrequired : ¬htypeOptional = htypeRequired := by decide
  rw [decodeField, decodeStaticField]
  simp only [singular, iterAt, FieldIter.place, hstatic, hsingular, if_true,
    if_neg hrequired, ne_eq, not_true_eq_false, if_false]

/-- The flag of an optional field lies where its own member is. -/
theorem pSize_optional {type k : ℕ} {member has : MeshMember} (hbefore : has.offset < member.offset)
    {tag : ℕ} :
    (iterAt meshFields message k (optional type member has tag).2).pSize =
      some (message + has.offset) := by
  have hne : (member.offset : ℤ) - has.offset ≠ 0 := by omega
  have haddress : (((message + member.offset : ℕ) : ℤ) -
      ((member.offset : ℤ) - has.offset)).toNat = message + has.offset := by omega
  simp only [PbEngine.optional, iterAt, FieldIter.place, if_pos hne, haddress]

/-- The flag of an optional field is set first. -/
theorem decodeField_optional {type : ℕ} (hlt : type < 16) (k : ℕ) {member has : MeshMember}
    (hbefore : has.offset < member.offset) (tag : ℕ) (m : Mem) :
    decodeField wireType (iterAt meshFields message k (optional type member has tag).2) m stream =
      decodeBasicField wireType (iterAt meshFields message k (optional type member has tag).2)
        (write m (message + has.offset) [1]) stream := by
  obtain ⟨hstatic, hoptional, -⟩ := type_parts type hlt
  have hrequired : ¬htypeOptional = htypeRequired := by decide
  have htype : (iterAt meshFields message k (optional type member has tag).2).type =
      atypeStatic ||| htypeSingular ||| type := rfl
  rw [decodeField, decodeStaticField, pSize_optional hbefore]
  simp only [htype, hstatic, hoptional, if_true, if_neg hrequired]

/-- A `uint32` field of the list, stored by `set`. -/
theorem decodeField_uint32 {k : ℕ} {member : MeshMember} {tag : ℕ} (hsize : member.size = 4)
    (hwire : wireType < 8) {set : UInt32 → PbMeshMessage}
    (hset : ∀ v, Represents (write m (message + member.offset) (littleEndian 4 v.toNat)) message
      (set v)) :
    Refines message
      (decodeField wireType (iterAt meshFields message k (singular ltypeUvarint member tag).2) m
        stream)
      ((Pb.decodeUint32 wireType stream).map fun p => (set p.1, p.2)) := by
  have hltype := (type_parts ltypeUvarint (by decide)).2.2
  rw [decodeField_singular stream (by decide)]
  have hyields : Yields
      (decodeBasicField wireType (iterAt meshFields message k (singular ltypeUvarint member tag).2)
        m stream) (Pb.decodeUint32 wireType stream)
      fun v => write m (message + member.offset) (littleEndian 4 v.toNat) :=
    decodeBasicField_uint32 m stream hltype hsize hwire
  exact hyields.refines hset

/-- An address field fills its member. -/
theorem decodeField_fixedBytes {k : ℕ} {member : MeshMember} {tag : ℕ} (hsize : member.size = 6)
    (dest : MacAddress) {set : MacAddress → PbMeshMessage}
    (hset : ∀ v : MacAddress, Represents (write m (message + member.offset) v.toList) message
      (set v)) :
    Refines message
      (decodeField wireType
        (iterAt meshFields message k (singular ltypeFixedLengthBytes member tag).2) m stream)
      ((Pb.decodeFixedBytes wireType dest stream).map fun p => (set p.1, p.2)) := by
  have hltype := (type_parts ltypeFixedLengthBytes (by decide)).2.2
  rw [decodeField_singular stream (by decide)]
  have hyields : Yields
      (decodeBasicField wireType
        (iterAt meshFields message k (singular ltypeFixedLengthBytes member tag).2) m stream)
      (Pb.decodeFixedBytes wireType dest stream)
      fun v => write m (message + member.offset) v.toList :=
    decodeBasicField_fixedBytes m stream hltype hsize dest
  exact hyields.refines hset

/-- A signed field fills its member. -/
theorem decodeField_sint32 {k : ℕ} {member : MeshMember} {tag : ℕ} (hsize : member.size = 4)
    (hwire : wireType < 8) {set : Int32 → PbMeshMessage}
    (hset : ∀ v, Represents (write m (message + member.offset) (int32Bytes v)) message (set v)) :
    Refines message
      (decodeField wireType (iterAt meshFields message k (singular ltypeSvarint member tag).2) m
        stream)
      ((Pb.decodeSint32 wireType stream).map fun p => (set p.1, p.2)) := by
  have hltype := (type_parts ltypeSvarint (by decide)).2.2
  rw [decodeField_singular stream (by decide)]
  have hyields : Yields
      (decodeBasicField wireType (iterAt meshFields message k (singular ltypeSvarint member tag).2)
        m stream) (Pb.decodeSint32 wireType stream)
      fun v => write m (message + member.offset) (int32Bytes v) :=
    decodeBasicField_sint32 m stream hltype hsize hwire
  exact hyields.refines hset

/-- An optional bytes field sets its flag and fills its member. -/
theorem decodeField_bytes {max : ℕ} (hmax : max < 2 ^ 16 - 2) {k : ℕ} {member has : MeshMember}
    {tag : ℕ} (hbefore : has.offset < member.offset) (hsize : member.size = 2 + max)
    {dest : PbBytes max}
    (hdest : read m (message + member.offset + 2) max = dest.bytes.toList)
    {set : PbBytes max → PbMeshMessage}
    (hset : ∀ v, Represents (afterBytes (write m (message + has.offset) [1])
      (message + member.offset) v) message (set v)) :
    Refines message
      (decodeField wireType (iterAt meshFields message k (optional ltypeBytes member has tag).2) m
        stream)
      ((Pb.decodeBytes wireType dest stream).map fun p => (set p.1, p.2)) := by
  have hltype := (type_parts ltypeBytes (by decide)).2.2
  have hdest' : read (write m (message + has.offset) [1]) (message + member.offset + 2) max =
      dest.bytes.toList := by
    rw [read_write_of_disjoint m (by rw [List.length_singleton]; omega), hdest]
  rw [decodeField_optional stream (by decide) k hbefore]
  have hyields : Yields
      (decodeBasicField wireType
        (iterAt meshFields message k (optional ltypeBytes member has tag).2)
        (write m (message + has.offset) [1]) stream) (Pb.decodeBytes wireType dest stream)
      (afterBytes (write m (message + has.offset) [1]) (message + member.offset)) :=
    decodeBasicField_bytes _ stream hmax hltype hsize hdest'
  exact hyields.refines hset

/-- **Each field of the list** is decoded by the engine as it is in the message. -/
theorem decodeField_refines (h : Represents m message msg) (hwire : wireType < 8) {number : ℕ}
    (hlo : 1 ≤ number) (hhi : number ≤ 11) :
    ∃ j g, meshFields[j]? = some g ∧ g.2.tag = number ∧
      Refines message (decodeField wireType (iterAt meshFields message j g.2) m stream)
        (Pb.decodeValue msg number wireType stream) := by
  have hdata : read m (message + MeshMember.data.offset + 2) 64 = msg.data.bytes.toList := by
    have hcell := h (_, msg.data.bytes.toList) (List.mem_of_getElem? (i := 7) rfl)
    rwa [Vector.length_toList] at hcell
  have hkey : read m (message + MeshMember.publicKey.offset + 2) 32 =
      msg.publicKey.bytes.toList := by
    have hcell := h (_, msg.publicKey.bytes.toList) (List.mem_of_getElem? (i := 14) rfl)
    rwa [Vector.length_toList] at hcell
  obtain rfl | rfl | rfl | rfl | rfl | rfl | rfl | rfl | rfl | rfl | rfl :
      number = 1 ∨ number = 2 ∨ number = 3 ∨ number = 4 ∨ number = 5 ∨ number = 6 ∨ number = 7 ∨
        number = 8 ∨ number = 9 ∨ number = 10 ∨ number = 11 := by omega
  · exact ⟨0, _, rfl, rfl, decodeField_uint32 stream rfl hwire h.messageType⟩
  · exact ⟨1, _, rfl, rfl, decodeField_sint32 stream rfl hwire h.dataType⟩
  · exact ⟨2, _, rfl, rfl, decodeField_fixedBytes stream rfl _ h.originMacAddress⟩
  · exact ⟨3, _, rfl, rfl, decodeField_fixedBytes stream rfl _ h.targetMacAddress⟩
  · exact ⟨4, _, rfl, rfl, decodeField_fixedBytes stream rfl _ h.lastHopMacAddress⟩
  · exact ⟨5, _, rfl, rfl, decodeField_bytes stream (by decide) (by decide) rfl hdata
      (h.hasData true).data⟩
  · exact ⟨6, _, rfl, rfl, decodeField_uint32 stream rfl hwire h.hopCount⟩
  · exact ⟨7, _, rfl, rfl, decodeField_uint32 stream rfl hwire h.epochNum⟩
  · exact ⟨8, _, rfl, rfl, decodeField_uint32 stream rfl hwire h.seqNum⟩
  · exact ⟨9, _, rfl, rfl, decodeField_uint32 stream rfl hwire h.protoVersion⟩
  · exact ⟨10, _, rfl, rfl, decodeField_bytes stream (by decide) (by decide) rfl hkey
      (h.hasPublicKey true).publicKey⟩

end Fields

/-! ## Whole messages -/

/-- The engine ends as the message decoder does, with the result in memory. -/
def Agrees (message : ℕ) (d : Decoded) (decoded : Option PbMeshMessage) : Prop :=
  (decoded = none → d.2 = none) ∧
    ∀ msg, decoded = some msg → d.2 = some [] ∧ Represents d.1 message msg

/-- Two decoders that fail agree, whatever was written before. -/
theorem Agrees.none {message : ℕ} (m : Mem) : Agrees message (m, none) none :=
  ⟨fun _ => rfl, fun _ h => by simp at h⟩

/-- Decoders that agree on a field and on what follows agree on both. -/
theorem Refines.andThen {message : ℕ} {d : Decoded}
    {decoded : Option (PbMeshMessage × List UInt8)} (h : Refines message d decoded)
    {next : Mem → List UInt8 → Decoded} {rest : PbMeshMessage × List UInt8 → Option PbMeshMessage}
    (hnext : ∀ m msg stream, Represents m message msg →
      Agrees message (next m stream) (rest (msg, stream))) :
    Agrees message (d.andThen next) (decoded.bind rest) := by
  obtain ⟨m, remaining⟩ := d
  cases decoded with
  | none =>
      obtain rfl : remaining = none := h.1 rfl
      exact .none m
  | some p =>
      obtain ⟨hremaining, hrep⟩ := h.2 p.1 p.2 rfl
      obtain rfl : remaining = some p.2 := hremaining
      exact hnext m p.1 p.2 hrep

section Messages

variable {message : ℕ}

/-- The message decoder skips a number that no field has. -/
theorem decodeValue_unlisted (msg : PbMeshMessage) {number : ℕ} (h : 12 ≤ number)
    (wireType : ℕ) (stream : List UInt8) :
    Pb.decodeValue msg number wireType stream =
      (Pb.skipField wireType stream).map fun s => (msg, s) := by
  obtain ⟨n, rfl⟩ : ∃ n, number = n + 12 := ⟨number - 12, by omega⟩
  rfl

/-- The tags are those the message decoder knows. -/
theorem tags_meshFields : ∀ g ∈ meshFields, 1 ≤ g.2.tag ∧ g.2.tag ≤ 11 := by decide

/-- **Round by round the engine does what the message decoder does**, from any position of its
iterator: the search finds the field of the tag, or there is none and both skip.
SOURCE: pb_decode.c:1013-1116 -/
theorem decodeLoop_refines {rounds : ℕ} : ∀ {searched : Bool} {k : ℕ} {f : InfoWidth × FieldInfo}
    {m : Mem} {msg : PbMeshMessage} (stream : List UInt8), meshFields[k]? = some f →
    Represents m message msg →
    Agrees message
      (decodeLoop meshMessageMsg message rounds searched (iterAt meshFields message k f.2) m stream)
      (Pb.decodeFields rounds msg stream) := by
  induction rounds with
  | zero =>
      intro searched k f m msg stream hf hrep
      cases stream with
      | nil => exact ⟨fun h => by simp [Pb.decodeFields] at h, fun _ h => by
          obtain rfl : msg = _ := by simpa [Pb.decodeFields] using h
          exact ⟨rfl, hrep⟩⟩
      | cons b stream => exact .none m
  | succ rounds ih =>
      intro searched k f m msg stream hf hrep
      cases stream with
      | nil => exact ⟨fun h => by simp [Pb.decodeFields] at h, fun _ h => by
          obtain rfl : msg = _ := by simpa [Pb.decodeFields] using h
          exact ⟨rfl, hrep⟩⟩
      | cons b stream =>
          rw [Pb.decodeFields, Pb.decodeField]
          cases hkey : Pb.decodeVarint32 (b :: stream) with
          | none =>
              rw [decodeLoop, hkey]
              exact .none m
          | some keyed =>
              obtain ⟨temp, rest⟩ := keyed
              have htag : temp >>> 3 = temp / 8 := by rw [Nat.shiftRight_eq_div_pow]
              have hwire : temp &&& 7 = temp % 8 := and_mask temp 3
              rw [Option.bind_some]
              by_cases hzero : temp / 8 = 0
              · rw [decodeLoop, hkey]
                simp only [htag, hzero, if_true]
                exact .none m
              by_cases hlisted : temp / 8 ≤ 11
              · obtain ⟨j, g, hg, hgtag, hfield⟩ := decodeField_refines rest hrep
                  (Nat.mod_lt temp (by decide) : temp % 8 < 8) (by omega) hlisted
                have hround : decodeLoop meshMessageMsg message (rounds + 1) searched
                    (iterAt meshFields message k f.2) m (b :: stream) =
                    (decodeField (temp % 8) (iterAt meshFields message j g.2) m rest).andThen
                      fun m stream => decodeLoop meshMessageMsg message rounds searched
                        (iterAt meshFields message j g.2) m stream := by
                  rw [← hwire]
                  exact decodeLoop_listed (l := meshFieldList) message hf hkey
                    (by rw [htag]; exact hzero) hg (by rw [htag]; exact hgtag)
                rw [hround]
                exact hfield.andThen fun m msg stream hrep => ih stream hg hrep
              · have hunlisted : ∀ g ∈ meshFields, g.2.tag ≠ temp >>> 3 := by
                  intro g hg heq
                  have hbounds := tags_meshFields g hg
                  omega
                have hround : decodeLoop meshMessageMsg message (rounds + 1) searched
                    (iterAt meshFields message k f.2) m (b :: stream) =
                    Decoded.andThen (m, Pb.skipField (temp % 8) rest) fun m stream =>
                      decodeLoop meshMessageMsg message rounds true
                        (iterAt meshFields message k f.2) m stream := by
                  rw [← hwire]
                  exact decodeLoop_unlisted (l := meshFieldList) message hf hkey
                    (by rw [htag]; exact hzero) hunlisted
                have hvalue := decodeValue_unlisted msg (by omega : 12 ≤ temp / 8) (temp % 8) rest
                rw [hround]
                dsimp only
                rw [hvalue]
                cases Pb.skipField (temp % 8) rest with
                | none => exact .none m
                | some rest => exact ih rest hf hrep

/-! ### Defaults -/

/-- The default of a scalar field is zero.
SOURCE: pb_decode.c:869-949 -/
theorem fieldSetToDefault_owns {field : FieldIter} (hf : Scalar field.type field.dataSize)
    (m : Mem) {a : ℕ} (ha : Owns field a ∨ m a = 0) : fieldSetToDefault field m a = 0 := by
  have hzeros : ∀ m : Mem, Spans field a ∨ m a = 0 →
      write m field.pField (List.replicate field.dataSize 0) a = 0 := by
    intro m hm
    by_cases hspans : Spans field a
    · obtain ⟨i, rfl⟩ : ∃ i, a = field.pField + i := ⟨a - field.pField, by
        have hlo := hspans.1
        omega⟩
      have hi : i < (List.replicate field.dataSize (0 : UInt8)).length := by
        have hhi := hspans.2
        rw [List.length_replicate]
        omega
      rw [write_of_inside m _ hi, List.getElem_replicate]
    · rw [write_of_outside]
      · exact hm.resolve_left hspans
      · rw [List.length_replicate]
        simp only [Spans] at hspans
        omega
  rw [fieldSetToDefault, if_pos hf.static]
  cases hflag : field.pSize with
  | none =>
      apply hzeros
      rcases ha with (hspans | hnone) | hzero
      · exact .inl hspans
      · rw [hflag] at hnone
        simp at hnone
      · exact .inr hzero
  | some flag =>
      dsimp only
      rw [if_pos hf.optional]
      apply hzeros
      by_cases hat : a = flag
      · subst hat
        have hcleared : write m a [0] (a + 0) = 0 := write_of_inside m a (by simp)
        exact .inr hcleared
      · rcases ha with (hspans | hsome) | hzero
        · exact .inl hspans
        · rw [hflag, Option.some.injEq] at hsome
          exact absurd hsome.symm hat
        · refine .inr ?_
          rw [write_of_outside m (by rw [List.length_singleton]; omega), hzero]

/-- Setting the defaults leaves zero in every field from the iterator on. -/
theorem messageSetToDefaults_zero {rounds : ℕ} : ∀ {k : ℕ} {f : InfoWidth × FieldInfo} (m : Mem),
    meshFields[k]? = some f → k + rounds = meshFields.length → ∀ {a : ℕ},
    (m a = 0 ∨ ∃ j g, k ≤ j ∧ meshFields[j]? = some g ∧ Owns (iterAt meshFields message j g.2) a) →
    (messageSetToDefaults meshMessageMsg message rounds (iterAt meshFields message k f.2) m).2 a =
      0 := by
  induction rounds with
  | zero =>
      intro k f m hf hrounds a ha
      have hk : k < meshFields.length := (List.getElem?_eq_some_iff.mp hf).1
      omega
  | succ rounds ih =>
      intro k f m hf hrounds a ha
      have hscalar : Scalar (iterAt meshFields message k f.2).type
          (iterAt meshFields message k f.2).dataSize :=
        scalar_meshFields f (List.mem_of_getElem? hf)
      rw [messageSetToDefaults]
      by_cases hlast : k + 1 = meshFields.length
      · have hnext : fieldIterNext meshMessageMsg message (iterAt meshFields message k f.2) =
            (false, iterAt meshFields message 0 meshFields[0].2) :=
          fieldIterNext_last meshFieldList message hf hlast rfl
        rw [hnext]
        apply fieldSetToDefault_owns hscalar
        rcases ha with hzero | ⟨j, g, hj, hg, howns⟩
        · exact .inr hzero
        · have hlt : j < meshFields.length := (List.getElem?_eq_some_iff.mp hg).1
          obtain rfl : j = k := by omega
          obtain rfl : g = f := by
            rw [hf] at hg
            exact (Option.some.inj hg).symm
          exact .inl howns
      · have hlt : k + 1 < meshFields.length := by omega
        have hg : meshFields[k + 1]? = some meshFields[k + 1] := List.getElem?_eq_getElem hlt
        have hnext : fieldIterNext meshMessageMsg message (iterAt meshFields message k f.2) =
            (true, iterAt meshFields message (k + 1) meshFields[k + 1].2) :=
          fieldIterNext_at meshFieldList message hf hg
        rw [hnext]
        apply ih _ hg (by omega)
        rcases ha with hzero | ⟨j, g, hj, hgj, howns⟩
        · exact .inl (fieldSetToDefault_owns hscalar m (.inr hzero))
        · rcases Nat.lt_or_eq_of_le hj with hkj | rfl
          · exact .inr ⟨j, g, hkj, hgj, howns⟩
          · obtain rfl : g = f := by
              rw [hf] at hgj
              exact (Option.some.inj hgj).symm
            exact .inl (fieldSetToDefault_owns hscalar m (.inl howns))

/-- Every cell of the struct belongs to a field or is its flag. -/
theorem owns_of_extent {e : ℕ × ℕ} (he : e ∈ extents) {i : ℕ} (hi : i < e.2) :
    ∃ j g, meshFields[j]? = some g ∧
      Owns (iterAt meshFields message j g.2) (message + e.1 + i) := by
  have hfields : ∀ e ∈ extents, ∃ g ∈ meshFields,
      (g.2.dataOffset ≤ e.1 ∧ e.1 + e.2 ≤ g.2.dataOffset + g.2.dataSize) ∨
        (e.2 = 1 ∧ g.2.sizeOffset ≠ 0 ∧ (g.2.dataOffset : ℤ) - g.2.sizeOffset = e.1) := by
    decide
  obtain ⟨g, hmem, hinside⟩ := hfields e he
  obtain ⟨j, hg⟩ := List.getElem?_of_mem hmem
  refine ⟨j, g, hg, ?_⟩
  rcases hinside with ⟨hlo, hhi⟩ | ⟨hone, hne, hflag⟩
  · left
    show message + g.2.dataOffset ≤ message + e.1 + i ∧
      message + e.1 + i < message + g.2.dataOffset + g.2.dataSize
    omega
  · right
    have haddress : (((message + g.2.dataOffset : ℕ) : ℤ) - g.2.sizeOffset).toNat =
        message + e.1 + i := by omega
    simp only [iterAt, FieldIter.place, if_pos hne, haddress]

/-- A struct of zeros is the default message. -/
theorem represents_initZero {m : Mem}
    (h : ∀ e ∈ extents, ∀ i < e.2, m (message + e.1 + i) = 0) :
    Represents m message PbMeshMessage.initZero := by
  have hcells : layout message PbMeshMessage.initZero =
      extents.map fun e => (message + e.1, List.replicate e.2 0) := by
    rfl
  rw [Represents, hcells]
  intro c hc
  obtain ⟨e, he, rfl⟩ := List.mem_map.mp hc
  rw [List.length_replicate]
  apply List.ext_getElem
  · simp
  · intro i hi hi'
    rw [length_read] at hi
    simp [ByteMemory.read, h e he i hi]

/-- The decoders agree on the whole stream, defaults included. -/
theorem decode_refined (message : ℕ) (m : Mem) (stream : List UInt8) :
    Agrees message (decode meshMessageMsg message m stream) (Pb.decode stream) := by
  have hbegin : fieldIterBegin meshMessageMsg message =
      (true, iterAt meshFields message 0 meshFields[0].2) :=
    fieldIterBegin_at meshFieldList message rfl
  obtain ⟨g, hg, hiter, -⟩ := messageSetToDefaults_confined (l := meshFieldList) scalar_meshFields
    message m (k := 0) (f := meshFields[0]) rfl (Nat.zero_add meshFields.length)
  have hzero : Represents (messageSetToDefaults meshMessageMsg message meshFields.length
      (iterAt meshFields message 0 meshFields[0].2) m).2 message PbMeshMessage.initZero := by
    apply represents_initZero
    intro e he i hi
    obtain ⟨j, f, hf, howns⟩ := owns_of_extent he hi
    exact messageSetToDefaults_zero m rfl (Nat.zero_add meshFields.length)
      (.inr ⟨j, f, Nat.zero_le j, hf, howns⟩)
  have hiter' : (messageSetToDefaults meshMessageMsg message meshFields.length
      (iterAt meshFields message 0 meshFields[0].2) m).1 = iterAt meshFields message 0 g.2 := hiter
  have hcount : meshMessageMsg.fieldCount = meshFields.length := rfl
  rw [decode, hbegin, Pb.decode, hcount]
  dsimp only
  rw [if_pos rfl, hiter']
  exact decodeLoop_refines stream hg hzero

/-- **Decoding through the descriptor is decoding the message**, for every stream and whatever the
struct held before. -/
theorem decode_refines (message : ℕ) (m : Mem) (stream : List UInt8) :
    Agrees message (decode meshMessageMsg message m stream) (Pb.decode stream) :=
  decode_refined message m stream

end Messages

end LatticeNodes.Analysis.NanopbDecoding
