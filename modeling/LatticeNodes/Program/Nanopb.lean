import LatticeNodes.Library.WireFormat
import LatticeNodes.Program.Types

/-!
# The protobuf message and nanopb

`mesh_MeshMessage` with the field list of `mesh.pb.h`, and what `pb_encode` and `pb_decode`
do for that list: which fields are written, in which order and form; how the decoder reads
keys, checks wire types and sizes, skips unknown fields and lets the last occurrence of a
field win.
-/

set_option autoImplicit false

namespace LatticeNodes.Program

open WireFormat

/-- A `bytes` field with its maximal size.
SOURCE: mesh.pb.h:12-13, pb.h:273-284 -/
structure PbBytes (max : ℕ) where
  size : Fin (max + 1)
  bytes : Vector UInt8 max
  deriving DecidableEq

/-- SOURCE: mesh.pb.h:15-29 -/
structure PbMeshMessage where
  messageType : UInt32
  dataType : Int32
  originMacAddress : MacAddress
  targetMacAddress : MacAddress
  lastHopMacAddress : MacAddress
  hasData : Bool
  data : PbBytes 64
  hopCount : UInt32
  epochNum : UInt32
  seqNum : UInt32
  protoVersion : UInt32
  hasPublicKey : Bool
  publicKey : PbBytes 32
  deriving DecidableEq

-- Above the general instance for sums, so that every literal size is elaborated alike.
instance (priority := 2000) dataSize_neZero : NeZero (64 + 1) := ⟨by decide⟩
instance (priority := 2000) keySize_neZero : NeZero (32 + 1) := ⟨by decide⟩

/-- `mesh_MeshMessage_init_zero`, which are also the defaults `pb_decode` sets first.
SOURCE: mesh.pb.h:42-47 -/
def PbMeshMessage.initZero : PbMeshMessage where
  messageType := 0
  dataType := 0
  originMacAddress := zeroMac
  targetMacAddress := zeroMac
  lastHopMacAddress := zeroMac
  hasData := false
  data := ⟨0, zeroPayload⟩
  hopCount := 0
  epochNum := 0
  seqNum := 0
  protoVersion := 0
  hasPublicKey := false
  publicKey := ⟨0, zeroKey⟩

/-! ## Encoding -/

namespace Pb

/-- A singular `uint32`: omitted when zero.
SOURCE: pb_encode.c:244-289 -/
def encodeUint32 (fieldNumber : ℕ) (v : UInt32) : List UInt8 :=
  if v = 0 then [] else encodeKey fieldNumber wireVarint ++ encodeVarint v.toNat

/-- A singular `sint32`: omitted when zero.
SOURCE: pb_encode.c:244-289 -/
def encodeSint32 (fieldNumber : ℕ) (v : Int32) : List UInt8 :=
  if v = 0 then [] else encodeKey fieldNumber wireVarint ++ encodeVarint (zigzag v.toInt)

/-- The length and the bytes of a string-like field.
SOURCE: pb_encode.c:710-722 -/
def encodeString (fieldNumber : ℕ) (bytes : List UInt8) : List UInt8 :=
  encodeKey fieldNumber wireString ++ encodeVarint bytes.length ++ bytes

/-- Fixed-length bytes are always written.
SOURCE: pb_encode.c:299-305 -/
def encodeFixedBytes (fieldNumber : ℕ) (v : MacAddress) : List UInt8 :=
  encodeString fieldNumber v.toList

/-- An optional `bytes` field: written when its `has_` flag is set.
SOURCE: pb_encode.c:262-267 -/
def encodeBytes {max : ℕ} (fieldNumber : ℕ) (present : Bool) (v : PbBytes max) : List UInt8 :=
  if present then encodeString fieldNumber (v.bytes.toList.take v.size) else []

/-- All fields in the order of the field list.
SOURCE: mesh.pb.h:63-74 -/
def encodeFields (msg : PbMeshMessage) : List UInt8 :=
  encodeUint32 1 msg.messageType ++ (encodeSint32 2 msg.dataType ++
    (encodeFixedBytes 3 msg.originMacAddress ++ (encodeFixedBytes 4 msg.targetMacAddress ++
      (encodeFixedBytes 5 msg.lastHopMacAddress ++ (encodeBytes 6 msg.hasData msg.data ++
        (encodeUint32 7 msg.hopCount ++ (encodeUint32 8 msg.epochNum ++
          (encodeUint32 9 msg.seqNum ++ (encodeUint32 10 msg.protoVersion ++
            encodeBytes 11 msg.hasPublicKey msg.publicKey)))))))))

/-- `pb_encode` into a buffer: the bytes written, or `none` when the stream is full.
SOURCE: pb_encode.c:100-128 -/
def encode (outCap : ℕ) (msg : PbMeshMessage) : Option (List UInt8) :=
  if (encodeFields msg).length ≤ outCap then some (encodeFields msg) else none

/-! ## Decoding

SOURCE: pb_decode.c:266-275, 308-318, 1356-1368, 1427-1493, 1639-1659 -/

/-- The bytes after the first of a 32-bit varint.  Beyond bit 32 only the extension of the
sign bit is accepted.
SOURCE: pb_decode.c:192-231 -/
def decodeVarint32From (bitpos result : ℕ) : List UInt8 → Option (ℕ × List UInt8)
  | [] => none
  | b :: rest =>
      let next (result : ℕ) : Option (ℕ × List UInt8) :=
        if 128 ≤ b.toNat then decodeVarint32From (bitpos + 7) result rest
        else some (result, rest)
      if 32 ≤ bitpos then
        let signExtension : UInt8 := if bitpos < 63 then 0xFF else 0x01
        if 64 ≤ bitpos ∨ ¬(b &&& 0x7F = 0 ∨ (result / 2 ^ 31 ≠ 0 ∧ b = signExtension)) then none
        else next result
      else if bitpos = 28 then
        if b &&& 0x70 ≠ 0 ∧ b &&& 0x78 ≠ 0x78 then none
        else next (result + b.toNat % 16 * 2 ^ bitpos)
      else next (result + b.toNat % 128 * 2 ^ bitpos)

/-- A 32-bit varint: a key or a length.
SOURCE: pb_decode.c:171-235 -/
def decodeVarint32 : List UInt8 → Option (ℕ × List UInt8)
  | [] => none
  | b :: rest =>
      if b.toNat < 128 then some (b.toNat, rest)
      else decodeVarint32From 7 (b.toNat % 128) rest

/-- `pb_read`: fail at the end of the stream.
SOURCE: pb_decode.c:96-142 -/
def read (stream : List UInt8) (count : ℕ) : Option (List UInt8 × List UInt8) :=
  if count ≤ stream.length then some (stream.take count, stream.drop count) else none

def skipVarint : List UInt8 → Option (List UInt8)
  | [] => none
  | b :: rest => if 128 ≤ b.toNat then skipVarint rest else some rest

def skipField (wireType : ℕ) (stream : List UInt8) : Option (List UInt8) :=
  if wireType = wireVarint then skipVarint stream
  else if wireType = wire64Bit then (read stream 8).map (·.2)
  else if wireType = wireString then
    (decodeVarint32 stream).bind fun (length, stream) => (read stream length).map (·.2)
  else if wireType = wire32Bit then (read stream 4).map (·.2)
  else none

def decodeUint32 (wireType : ℕ) (stream : List UInt8) : Option (UInt32 × List UInt8) :=
  if wireType ≠ wireVarint then none
  else (decodeVarint stream).bind fun (value, stream) =>
    if value < 2 ^ 32 then some (UInt32.ofNat value, stream) else none

def decodeSint32 (wireType : ℕ) (stream : List UInt8) : Option (Int32 × List UInt8) :=
  if wireType ≠ wireVarint then none
  else (decodeVarint stream).bind fun (value, stream) =>
    let svalue := unzigzag value
    if -(2 ^ 31) ≤ svalue ∧ svalue < 2 ^ 31 then some (Int32.ofInt svalue, stream) else none

/-- Overwrite the first bytes of a buffer. -/
def overwrite {n : ℕ} (buffer : Vector UInt8 n) (bytes : List UInt8) : Vector UInt8 n :=
  Vector.ofFn fun i => bytes.getD i (getElem buffer i i.isLt)

def decodeFixedBytes (wireType : ℕ) (dest : MacAddress) (stream : List UInt8) :
    Option (MacAddress × List UInt8) :=
  if wireType ≠ wireString then none
  else (decodeVarint32 stream).bind fun (size, stream) =>
    if size = 0 then some (zeroMac, stream)
    else if size ≠ 6 then none
    else (read stream 6).map fun (bytes, stream) => (overwrite dest bytes, stream)

/-- A `bytes` field keeps what lies beyond the received size.
SOURCE: pb_decode.c:1497-1538 -/
def decodeBytes {max : ℕ} (wireType : ℕ) (dest : PbBytes max) (stream : List UInt8) :
    Option (PbBytes max × List UInt8) :=
  if wireType ≠ wireString then none
  else (decodeVarint32 stream).bind fun (size, stream) =>
    if h : size ≤ max then
      (read stream size).map fun (bytes, stream) =>
        (⟨⟨size, Nat.lt_succ_of_le h⟩, overwrite dest.bytes bytes⟩, stream)
    else none

/-- The value of a field, stored in the message; unknown fields are skipped, and field
number 0 is an error.
SOURCE: pb_decode.c:1029-1116 -/
def decodeValue (msg : PbMeshMessage) (fieldNumber wireType : ℕ) (stream : List UInt8) :
    Option (PbMeshMessage × List UInt8) :=
  match fieldNumber with
  | 0 => none
  | 1 => (decodeUint32 wireType stream).map fun (v, s) => ({ msg with messageType := v }, s)
  | 2 => (decodeSint32 wireType stream).map fun (v, s) => ({ msg with dataType := v }, s)
  | 3 => (decodeFixedBytes wireType msg.originMacAddress stream).map fun (v, s) =>
      ({ msg with originMacAddress := v }, s)
  | 4 => (decodeFixedBytes wireType msg.targetMacAddress stream).map fun (v, s) =>
      ({ msg with targetMacAddress := v }, s)
  | 5 => (decodeFixedBytes wireType msg.lastHopMacAddress stream).map fun (v, s) =>
      ({ msg with lastHopMacAddress := v }, s)
  | 6 => (decodeBytes wireType msg.data stream).map fun (v, s) =>
      ({ msg with hasData := true, data := v }, s)
  | 7 => (decodeUint32 wireType stream).map fun (v, s) => ({ msg with hopCount := v }, s)
  | 8 => (decodeUint32 wireType stream).map fun (v, s) => ({ msg with epochNum := v }, s)
  | 9 => (decodeUint32 wireType stream).map fun (v, s) => ({ msg with seqNum := v }, s)
  | 10 => (decodeUint32 wireType stream).map fun (v, s) => ({ msg with protoVersion := v }, s)
  | 11 => (decodeBytes wireType msg.publicKey stream).map fun (v, s) =>
      ({ msg with hasPublicKey := true, publicKey := v }, s)
  | _ => (skipField wireType stream).map fun s => (msg, s)

/-- One key and its value.
SOURCE: pb_decode.c:291-305, 1015-1116 -/
def decodeField (msg : PbMeshMessage) (stream : List UInt8) :
    Option (PbMeshMessage × List UInt8) :=
  (decodeVarint32 stream).bind fun (key, stream) => decodeValue msg (key / 8) (key % 8) stream

/-- `while (stream->bytes_left)`, cut off after the given number of fields.
SOURCE: pb_decode.c:1013-1116 -/
def decodeFields : ℕ → PbMeshMessage → List UInt8 → Option PbMeshMessage
  | _, msg, [] => some msg
  | 0, _, _ :: _ => none
  | n + 1, msg, b :: stream =>
      (decodeField msg (b :: stream)).bind fun (msg, stream) => decodeFields n msg stream

/-- `pb_decode`.  Every field takes at least one byte, so a stream holds no more fields than
bytes.
SOURCE: pb_decode.c:1181-1200 -/
def decode (stream : List UInt8) : Option PbMeshMessage :=
  decodeFields stream.length PbMeshMessage.initZero stream

end Pb

end LatticeNodes.Program
