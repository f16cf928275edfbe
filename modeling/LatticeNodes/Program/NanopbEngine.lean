import LatticeNodes.Library.ByteMemory
import LatticeNodes.Program.Nanopb
import LatticeNodes.Program.NanopbFields

/-!
# The nanopb engine

`pb_decode` and `pb_encode` as nanopb has them: loops over the descriptor that read and write
the struct in memory through the addresses of the iterator, on a little endian machine.

Modelled for static fields that are optional or singular and of a scalar, `bytes`, `string` or
fixed-length type; the descriptor has no default values and no callback, which is what
`mesh.pb.h` declares.  Repeated fields, oneofs, required fields, submessages and extensions are
left out.
-/

set_option autoImplicit false

namespace LatticeNodes.Program.PbEngine

open WireFormat ByteMemory

/-! ## Decoding -/

/-- The memory after a decoder, and the rest of the stream unless it failed. -/
abbrev Decoded := Mem × Option (List UInt8)

/-- `if (!d) return false;`, and then what follows. -/
def Decoded.andThen (d : Decoded) (next : Mem → List UInt8 → Decoded) : Decoded :=
  match d with
  | (m, none) => (m, none)
  | (m, some stream) => next m stream

/-- The wire type of the elements of a packed array.
SOURCE: pb.h:428-434 -/
def wirePacked : ℕ := 255

/-- SOURCE: pb_decode.c:1346-1354, 1420-1423 -/
def decBool (field : FieldIter) (m : Mem) (stream : List UInt8) : Decoded :=
  match Pb.decodeVarint32 stream with
  | none => (m, none)
  | some (value, stream) => (write m field.pField [if value ≠ 0 then 1 else 0], some stream)

/-- The sizes of an integer member. -/
def isIntegerSize (size : ℕ) : Bool := size = 8 ∨ size = 4 ∨ size = 2 ∨ size = 1

/-- The value is stored before it is compared with what was stored.
SOURCE: pb_decode.c:1425-1495 -/
def decVarint (field : FieldIter) (m : Mem) (stream : List UInt8) : Decoded :=
  match decodeVarint stream with
  | none => (m, none)
  | some (value, stream) =>
      if ¬isIntegerSize field.dataSize then (m, none)
      else if ltype field.type = ltypeUvarint then
        let clamped := value % 256 ^ field.dataSize
        (write m field.pField (littleEndian field.dataSize clamped),
          if clamped = value then some stream else none)
      else
        let svalue :=
          if ltype field.type = ltypeSvarint then unzigzag value
          else if field.dataSize = 8 then (value : ℤ).bmod (256 ^ 8)
          else (value : ℤ).bmod (256 ^ 4)
        let clamped := svalue.bmod (256 ^ field.dataSize)
        (write m field.pField
            (littleEndian field.dataSize (clamped % 256 ^ field.dataSize).toNat),
          if clamped = svalue then some stream else none)

/-- `pb_decode_fixed32` and `pb_decode_fixed64`.
SOURCE: pb_decode.c:1370-1418 -/
def decodeFixed (size : ℕ) (field : FieldIter) (m : Mem) (stream : List UInt8) : Decoded :=
  match Pb.read stream size with
  | none => (m, none)
  | some (bytes, stream) => (write m field.pField bytes, some stream)

/-- The size is stored before the bytes are read.
SOURCE: pb_decode.c:1497-1535 -/
def decBytes (field : FieldIter) (m : Mem) (stream : List UInt8) : Decoded :=
  match Pb.decodeVarint32 stream with
  | none => (m, none)
  | some (size, stream) =>
      if 2 ^ 16 - 1 < size then (m, none)
      else if field.dataSize < size + 2 then (m, none)
      else
        let m := write m field.pField (littleEndian 2 size)
        match Pb.read stream size with
        | none => (m, none)
        | some (bytes, stream) => (write m (field.pField + 2) bytes, some stream)

/-- The terminator is stored before the bytes are read.
SOURCE: pb_decode.c:1537-1585 -/
def decString (field : FieldIter) (m : Mem) (stream : List UInt8) : Decoded :=
  match Pb.decodeVarint32 stream with
  | none => (m, none)
  | some (size, stream) =>
      if size = 2 ^ 32 - 1 then (m, none)
      else if field.dataSize < size + 1 then (m, none)
      else
        let m := write m (field.pField + size) [0]
        match Pb.read stream size with
        | none => (m, none)
        | some (bytes, stream) => (write m field.pField bytes, some stream)

/-- An empty value stands for zeros.
SOURCE: pb_decode.c:1639-1660 -/
def decFixedLengthBytes (field : FieldIter) (m : Mem) (stream : List UInt8) : Decoded :=
  match Pb.decodeVarint32 stream with
  | none => (m, none)
  | some (size, stream) =>
      if 2 ^ 16 - 1 < size then (m, none)
      else if size = 0 then
        (write m field.pField (List.replicate field.dataSize 0), some stream)
      else if size ≠ field.dataSize then (m, none)
      else
        match Pb.read stream field.dataSize with
        | none => (m, none)
        | some (bytes, stream) => (write m field.pField bytes, some stream)

/-- Submessages are not modelled.
SOURCE: pb_decode.c:396-465 -/
def decodeBasicField (wireType : ℕ) (field : FieldIter) (m : Mem) (stream : List UInt8) :
    Decoded :=
  if ltype field.type = ltypeBool then
    if wireType ≠ wireVarint ∧ wireType ≠ wirePacked then (m, none)
    else decBool field m stream
  else if ltype field.type = ltypeVarint ∨ ltype field.type = ltypeUvarint ∨
      ltype field.type = ltypeSvarint then
    if wireType ≠ wireVarint ∧ wireType ≠ wirePacked then (m, none)
    else decVarint field m stream
  else if ltype field.type = ltypeFixed32 then
    if wireType ≠ wire32Bit ∧ wireType ≠ wirePacked then (m, none)
    else decodeFixed 4 field m stream
  else if ltype field.type = ltypeFixed64 then
    if wireType ≠ wire64Bit ∧ wireType ≠ wirePacked then (m, none)
    else decodeFixed 8 field m stream
  else if ltype field.type = ltypeBytes then
    if wireType ≠ wireString then (m, none) else decBytes field m stream
  else if ltype field.type = ltypeString then
    if wireType ≠ wireString then (m, none) else decString field m stream
  else if ltype field.type = ltypeFixedLengthBytes then
    if wireType ≠ wireString then (m, none) else decFixedLengthBytes field m stream
  else (m, none)

/-- The `has_` flag of an optional field is set before its value is decoded.  Repeated fields and
oneofs are not modelled.
SOURCE: pb_decode.c:467-479 -/
def decodeStaticField (wireType : ℕ) (field : FieldIter) (m : Mem) (stream : List UInt8) :
    Decoded :=
  if htype field.type = htypeRequired then decodeBasicField wireType field m stream
  else if htype field.type = htypeOptional then
    match field.pSize with
    | none => decodeBasicField wireType field m stream
    | some flag => decodeBasicField wireType field (write m flag [1]) stream
  else (m, none)

/-- Without `PB_ENABLE_MALLOC` a pointer field is an error; without a callback the value of a
callback field is skipped.
SOURCE: pb_decode.c:624-629, 752-755, 798-823 -/
def decodeField (wireType : ℕ) (field : FieldIter) (m : Mem) (stream : List UInt8) : Decoded :=
  if atype field.type = atypeStatic then decodeStaticField wireType field m stream
  else if atype field.type = atypeCallback then (m, Pb.skipField wireType stream)
  else (m, none)

/-- `pb_field_set_to_default` for a static field that is not repeated.
SOURCE: pb_decode.c:869-949 -/
def fieldSetToDefault (field : FieldIter) (m : Mem) : Mem :=
  if atype field.type = atypeStatic then
    let m :=
      match field.pSize with
      | none => m
      | some flag => if htype field.type = htypeOptional then write m flag [0] else m
    write m field.pField (List.replicate field.dataSize 0)
  else m

/-- `pb_message_set_to_defaults`, cut off after a number of fields.  The iterator ends where the
walk has taken it.
SOURCE: pb_decode.c:951-984 -/
def messageSetToDefaults (desc : MsgDesc) (message : ℕ) : ℕ → FieldIter → Mem → FieldIter × Mem
  | 0, iter, m => (iter, m)
  | rounds + 1, iter, m =>
      let m := fieldSetToDefault iter m
      let (more, iter) := fieldIterNext desc message iter
      if more then messageSetToDefaults desc message rounds iter m else (iter, m)

/-- `while (stream->bytes_left)`, cut off after a number of fields.  `searched` is
`extension_range_start` no longer being zero: the search for an extension field is made once.
SOURCE: pb_decode.c:1013-1116 -/
def decodeLoop (desc : MsgDesc) (message : ℕ) : ℕ → Bool → FieldIter → Mem → List UInt8 → Decoded
  | _, _, _, m, [] => (m, some [])
  | 0, _, _, m, _ :: _ => (m, none)
  | rounds + 1, searched, iter, m, b :: stream =>
      match Pb.decodeVarint32 (b :: stream) with
      | none => (m, none)
      | some (temp, stream) =>
          let tag := temp >>> 3
          let wireType := temp &&& 7
          if tag = 0 then (m, none)
          else
            let (found, iter) := fieldIterFind desc message tag iter
            if ¬found ∨ ltype iter.type = ltypeExtension then
              let iter :=
                if searched then iter else (fieldIterFindExtension desc message iter).2
              Decoded.andThen (m, Pb.skipField wireType stream) fun m stream =>
                decodeLoop desc message rounds true iter m stream
            else
              (decodeField wireType iter m stream).andThen fun m stream =>
                decodeLoop desc message rounds searched iter m stream

/-- `pb_decode`.  Every field takes at least one byte of the stream.
SOURCE: pb_decode.c:990-1011, 1182-1194 -/
def decode (desc : MsgDesc) (message : ℕ) (m : Mem) (stream : List UInt8) : Decoded :=
  let (ok, iter) := fieldIterBegin desc message
  let (iter, m) :=
    if ok then messageSetToDefaults desc message desc.fieldCount iter m else (iter, m)
  decodeLoop desc message stream.length false iter m stream

/-! ## Encoding

An output stream is the bytes written so far, at most `maxSize` of them. -/

/-- `pb_write` to a buffer.
SOURCE: pb_encode.c:84-108 -/
def pbWrite (maxSize : ℕ) (written buf : List UInt8) : Option (List UInt8) :=
  if 0 < buf.length ∧ maxSize < written.length + buf.length then none
  else some (written ++ buf)

/-- `while (i < 4 && (low != 0 || high != 0))`: the buffer, the byte that is not stored yet and
what is left of `low`.
SOURCE: pb_encode.c:580-586 -/
def lowGroups (high : ℕ) : ℕ → ℕ → UInt8 → List UInt8 → List UInt8 × UInt8
  | 0, _, byte, buffer => (buffer, byte)
  | i + 1, low, byte, buffer =>
      if low ≠ 0 ∨ high ≠ 0 then
        lowGroups high i (low >>> 7) (UInt8.ofNat (low &&& 0x7F)) (buffer ++ [byte ||| 0x80])
      else (buffer, byte)

/-- `while (high)`.
SOURCE: pb_encode.c:593-599 -/
def highGroups (high : ℕ) (byte : UInt8) (buffer : List UInt8) : List UInt8 × UInt8 :=
  if high = 0 then (buffer, byte)
  else highGroups (high >>> 7) (UInt8.ofNat (high &&& 0x7F)) (buffer ++ [byte ||| 0x80])
termination_by high
decreasing_by
  rw [Nat.shiftRight_eq_div_pow]
  omega

/-- The bytes `pb_encode_varint_32` puts in its buffer.
SOURCE: pb_encode.c:573-605 -/
def encodeVarint32 (low high : ℕ) : List UInt8 :=
  let (buffer, byte) := lowGroups high 4 (low >>> 7) (UInt8.ofNat (low &&& 0x7F)) []
  if high ≠ 0 then
    let byte := byte ||| UInt8.ofNat ((high &&& 0x07) <<< 4)
    let (buffer, byte) := highGroups (high >>> 3) byte buffer
    buffer ++ [byte]
  else buffer ++ [byte]

/-- `pb_encode_varint`, with its fast path for one byte.
SOURCE: pb_encode.c:607-623 -/
def pbEncodeVarint (maxSize value : ℕ) (written : List UInt8) : Option (List UInt8) :=
  if value ≤ 0x7F then pbWrite maxSize written [UInt8.ofNat value]
  else pbWrite maxSize written (encodeVarint32 (value % 2 ^ 32) (value >>> 32))

/-- The zigzag code of a 64-bit value.
SOURCE: pb_encode.c:625-635 -/
def pbEncodeSvarint (maxSize : ℕ) (value : ℤ) (written : List UInt8) : Option (List UInt8) :=
  let bits := (value % 2 ^ 64).toNat
  let zigzagged :=
    if value < 0 then 2 ^ 64 - 1 - ((bits &&& (2 ^ 63 - 1)) <<< 1) % 2 ^ 64
    else (bits <<< 1) % 2 ^ 64
  pbEncodeVarint maxSize zigzagged written

/-- SOURCE: pb_encode.c:675-679 -/
def pbEncodeTag (maxSize wireType fieldNumber : ℕ) (written : List UInt8) : Option (List UInt8) :=
  pbEncodeVarint maxSize ((fieldNumber <<< 3) ||| wireType) written

/-- The wire type of a field; submessages are not modelled.
SOURCE: pb_encode.c:681-714 -/
def wireTypeOf (type : ℕ) : Option ℕ :=
  if ltype type = ltypeBool ∨ ltype type = ltypeVarint ∨ ltype type = ltypeUvarint ∨
      ltype type = ltypeSvarint then some wireVarint
  else if ltype type = ltypeFixed32 then some wire32Bit
  else if ltype type = ltypeFixed64 then some wire64Bit
  else if ltype type = ltypeBytes ∨ ltype type = ltypeString ∨
      ltype type = ltypeFixedLengthBytes then some wireString
  else none

/-- SOURCE: pb_encode.c:681-714 -/
def pbEncodeTagForField (maxSize : ℕ) (field : FieldIter) (written : List UInt8) :
    Option (List UInt8) :=
  (wireTypeOf field.type).bind fun wireType => pbEncodeTag maxSize wireType field.tag written

/-- SOURCE: pb_encode.c:716-722 -/
def pbEncodeString (maxSize : ℕ) (buffer written : List UInt8) : Option (List UInt8) :=
  (pbEncodeVarint maxSize buffer.length written).bind fun written =>
    pbWrite maxSize written buffer

/-- SOURCE: pb_encode.c:776-781 -/
def encBool (maxSize : ℕ) (field : FieldIter) (m : Mem) (written : List UInt8) :
    Option (List UInt8) :=
  pbEncodeVarint maxSize (if m field.pField ≠ 0 then 1 else 0) written

/-- SOURCE: pb_encode.c:783-829 -/
def encVarint (maxSize : ℕ) (field : FieldIter) (m : Mem) (written : List UInt8) :
    Option (List UInt8) :=
  let stored := wordOf (read m field.pField field.dataSize)
  if ¬isIntegerSize field.dataSize then none
  else if ltype field.type = ltypeUvarint then pbEncodeVarint maxSize stored written
  else
    let value := (stored : ℤ).bmod (256 ^ field.dataSize)
    if ltype field.type = ltypeSvarint then pbEncodeSvarint maxSize value written
    else pbEncodeVarint maxSize (value % 2 ^ 64).toNat written

/-- SOURCE: pb_encode.c:831-854 -/
def encFixed (maxSize : ℕ) (field : FieldIter) (m : Mem) (written : List UInt8) :
    Option (List UInt8) :=
  if field.dataSize = 4 ∨ field.dataSize = 8 then
    pbWrite maxSize written (read m field.pField field.dataSize)
  else none

/-- SOURCE: pb_encode.c:856-875 -/
def encBytes (maxSize : ℕ) (field : FieldIter) (m : Mem) (written : List UInt8) :
    Option (List UInt8) :=
  let size := wordOf (read m field.pField 2)
  if field.dataSize - 2 < size then none
  else pbEncodeString maxSize (read m (field.pField + 2) size) written

/-- The length of a string is looked for below the last byte, which must be the terminator when
no other is.
SOURCE: pb_encode.c:877-928 -/
def encString (maxSize : ℕ) (field : FieldIter) (m : Mem) (written : List UInt8) :
    Option (List UInt8) :=
  if field.dataSize = 0 then none
  else
    let size := ((read m field.pField (field.dataSize - 1)).takeWhile (· ≠ 0)).length
    if m (field.pField + size) ≠ 0 then none
    else pbEncodeString maxSize (read m field.pField size) written

/-- SOURCE: pb_encode.c:949-952 -/
def encFixedLengthBytes (maxSize : ℕ) (field : FieldIter) (m : Mem) (written : List UInt8) :
    Option (List UInt8) :=
  pbEncodeString maxSize (read m field.pField field.dataSize) written

/-- The value of a static field that proto3 does not write.
SOURCE: pb_encode.c:244-306 -/
def checkProto3DefaultValue (field : FieldIter) (m : Mem) : Bool :=
  if htype field.type = htypeRequired then false
  else
    match field.pSize with
    | some flag => m flag = 0
    | none =>
        if ltype field.type ≤ ltypeLastPackable then
          (read m field.pField field.dataSize).all (· = 0)
        else if ltype field.type = ltypeBytes then wordOf (read m field.pField 2) = 0
        else if ltype field.type = ltypeString then m field.pField = 0
        else if ltype field.type = ltypeFixedLengthBytes then field.dataSize = 0
        else false

/-- SOURCE: pb_encode.c:362-403 -/
def encodeBasicField (maxSize : ℕ) (field : FieldIter) (m : Mem) (written : List UInt8) :
    Option (List UInt8) :=
  (pbEncodeTagForField maxSize field written).bind fun written =>
    if ltype field.type = ltypeBool then encBool maxSize field m written
    else if ltype field.type = ltypeVarint ∨ ltype field.type = ltypeUvarint ∨
        ltype field.type = ltypeSvarint then encVarint maxSize field m written
    else if ltype field.type = ltypeFixed32 ∨ ltype field.type = ltypeFixed64 then
      encFixed maxSize field m written
    else if ltype field.type = ltypeBytes then encBytes maxSize field m written
    else if ltype field.type = ltypeString then encString maxSize field m written
    else if ltype field.type = ltypeFixedLengthBytes then
      encFixedLengthBytes maxSize field m written
    else none

/-- A static field: an optional one is written when its flag is set, a singular one when its
value is not zero.
SOURCE: pb_encode.c:418-469 -/
def encodeField (maxSize : ℕ) (field : FieldIter) (m : Mem) (written : List UInt8) :
    Option (List UInt8) :=
  let absent :=
    if htype field.type = htypeOptional then
      match field.pSize with
      | some flag => m flag = 0
      | none => checkProto3DefaultValue field m
    else false
  if absent then some written else encodeBasicField maxSize field m written

/-- The `do`-`while` of `pb_encode`, cut off after a number of fields.
SOURCE: pb_encode.c:518-531 -/
def encodeLoop (desc : MsgDesc) (message maxSize : ℕ) (m : Mem) :
    ℕ → FieldIter → List UInt8 → Option (List UInt8)
  | 0, _, written => some written
  | rounds + 1, iter, written =>
      match encodeField maxSize iter m written with
      | none => none
      | some written =>
          let (more, iter) := fieldIterNext desc message iter
          if more then encodeLoop desc message maxSize m rounds iter written else some written

/-- `pb_encode` into an empty buffer; an empty message has no fields to write.
SOURCE: pb_encode.c:512-534 -/
def encode (desc : MsgDesc) (message maxSize : ℕ) (m : Mem) : Option (List UInt8) :=
  let (ok, iter) := fieldIterBegin desc message
  if ok then encodeLoop desc message maxSize m desc.fieldCount iter [] else some []

end LatticeNodes.Program.PbEngine
