import Mathlib.Algebra.Ring.Int.Defs
import Mathlib.Algebra.Ring.Nat
import Mathlib.Data.List.Basic

/-!
# nanopb field descriptors

The descriptor `PB_BIND` generates for a message: one packed entry of one, two, four or eight
32-bit words for each field, the number of fields and the largest tag; and the iterator of
`pb_common.c` that walks the entries and finds the field with a tag.

Pointers are addresses, and `NULL` is `none`.  Submessages and the extension structure are
left out: an iterator carries no submessage index.
-/

set_option autoImplicit false

namespace LatticeNodes.Program.PbEngine

/-! ## Field types

SOURCE: pb.h:239-299 -/

def ltypeBool : ℕ := 0x00
def ltypeVarint : ℕ := 0x01
def ltypeUvarint : ℕ := 0x02
def ltypeSvarint : ℕ := 0x03
def ltypeFixed32 : ℕ := 0x04
def ltypeFixed64 : ℕ := 0x05
def ltypeLastPackable : ℕ := 0x05
def ltypeBytes : ℕ := 0x06
def ltypeString : ℕ := 0x07
def ltypeExtension : ℕ := 0x0A
def ltypeFixedLengthBytes : ℕ := 0x0B

def htypeRequired : ℕ := 0x00
def htypeOptional : ℕ := 0x10
def htypeSingular : ℕ := 0x10

def atypeStatic : ℕ := 0x00
def atypeCallback : ℕ := 0x40

def ltype (type : ℕ) : ℕ := type &&& 0x0F
def htype (type : ℕ) : ℕ := type &&& 0x30
def atype (type : ℕ) : ℕ := type &&& 0xC0

/-- A value cast to `pb_size_t`.
SOURCE: pb.h:306-312 -/
def pbSize (n : ℕ) : ℕ := n % 2 ^ 16

/-! ## Packed entries -/

/-- `(uint32_t)(value)`. -/
def uint32 (value : ℤ) : ℕ := (value % 2 ^ 32).toNat

/-- `(int_least8_t)(value)`. -/
def int8 (value : ℤ) : ℤ := value.bmod 256

/-- The arguments of a `PB_FIELDINFO` macro.
SOURCE: pb.h:786-804 -/
structure FieldInfo where
  tag : ℕ
  type : ℕ
  dataOffset : ℕ
  dataSize : ℕ
  sizeOffset : ℤ
  arraySize : ℕ
  deriving DecidableEq

/-- The formats of an entry, named by their number of words. -/
inductive InfoWidth where
  | one
  | two
  | four
  | eight
  deriving DecidableEq

/-- `PB_FIELDINFO_1`.
SOURCE: pb.h:786-788 -/
def fieldInfo1 (f : FieldInfo) : List ℕ :=
  [0 ||| ((f.tag <<< 2) &&& 0xFF) ||| (f.type <<< 8) ||| ((f.dataOffset &&& 0xFF) <<< 16) |||
    ((uint32 f.sizeOffset &&& 0x0F) <<< 24) ||| ((f.dataSize &&& 0x0F) <<< 28)]

/-- `PB_FIELDINFO_2`.
SOURCE: pb.h:790-794 -/
def fieldInfo2 (f : FieldInfo) : List ℕ :=
  [1 ||| ((f.tag <<< 2) &&& 0xFF) ||| (f.type <<< 8) ||| ((f.arraySize &&& 0xFFF) <<< 16) |||
      ((uint32 f.sizeOffset &&& 0x0F) <<< 28),
    (f.dataOffset &&& 0xFFFF) ||| ((f.dataSize &&& 0xFFF) <<< 16) ||| ((f.tag &&& 0x3C0) <<< 22)]

/-- The second word of the two widest formats.
SOURCE: pb.h:798, 803 -/
def tagWord (f : FieldInfo) : ℕ :=
  uint32 (int8 f.sizeOffset) ||| ((f.tag <<< 2) &&& 0xFFFFFF00)

/-- `PB_FIELDINFO_4`.
SOURCE: pb.h:796-799 -/
def fieldInfo4 (f : FieldInfo) : List ℕ :=
  [2 ||| ((f.tag <<< 2) &&& 0xFF) ||| (f.type <<< 8) ||| ((f.arraySize &&& 0xFFFF) <<< 16),
    tagWord f, f.dataOffset, f.dataSize]

/-- `PB_FIELDINFO_8`.
SOURCE: pb.h:801-804 -/
def fieldInfo8 (f : FieldInfo) : List ℕ :=
  [3 ||| ((f.tag <<< 2) &&& 0xFF) ||| (f.type <<< 8),
    tagWord f, f.dataOffset, f.dataSize, f.arraySize, 0, 0, 0]

def InfoWidth.pack : InfoWidth → FieldInfo → List ℕ
  | one => fieldInfo1
  | two => fieldInfo2
  | four => fieldInfo4
  | eight => fieldInfo8

/-- `PB_FITS`.
SOURCE: pb.h:813 -/
def PbFits (value bits : ℕ) : Prop := value < 1 <<< bits

instance decidablePbFits (value bits : ℕ) : Decidable (PbFits value bits) :=
  inferInstanceAs (Decidable (value < 1 <<< bits))

/-- The static assertions on an entry, with a `pb_size_t` of 16 bits.
SOURCE: pb.h:814-836 -/
def InfoWidth.Fits : InfoWidth → FieldInfo → Prop
  | one, f =>
      PbFits f.tag 6 ∧ PbFits f.dataOffset 8 ∧ PbFits (uint32 f.sizeOffset) 4 ∧
        PbFits f.dataSize 4 ∧ PbFits f.arraySize 1
  | two, f =>
      PbFits f.tag 10 ∧ PbFits f.dataOffset 16 ∧ PbFits (uint32 f.sizeOffset) 4 ∧
        PbFits f.dataSize 12 ∧ PbFits f.arraySize 12
  | four, f | eight, f =>
      PbFits f.tag 16 ∧ PbFits f.dataOffset 16 ∧ PbFits (uint32 (int8 f.sizeOffset)) 8 ∧
        PbFits f.dataSize 16 ∧ PbFits f.arraySize 16

/-- `pb_msgdesc_t`.
SOURCE: pb.h:324-335 -/
structure MsgDesc where
  fieldInfo : List ℕ
  fieldCount : ℕ
  requiredFieldCount : ℕ
  largestTag : ℕ
  deriving DecidableEq

/-- `PB_BIND`: the entries end with a zero word, and the largest tag is that of the last
field.
SOURCE: pb.h:513-532 -/
def pbBind (fields : List (InfoWidth × FieldInfo)) : MsgDesc where
  fieldInfo := fields.flatMap (fun f => f.1.pack f.2) ++ [0]
  fieldCount := fields.length
  requiredFieldCount := (fields.filter fun f => htype f.2.type = htypeRequired).length
  largestTag := fields.foldl (fun largest f => largest * 0 + f.2.tag) 0

/-! ## The iterator -/

/-- `pb_field_iter_t`.  All data is static, so `pData` is `pField`.
SOURCE: pb.h:338-361 -/
structure FieldIter where
  index : ℕ
  fieldInfoIndex : ℕ
  requiredFieldIndex : ℕ
  tag : ℕ
  dataSize : ℕ
  arraySize : ℕ
  type : ℕ
  pField : ℕ
  pSize : Option ℕ
  deriving DecidableEq

/-- The iterator after `memset`. -/
def FieldIter.zero : FieldIter where
  index := 0
  fieldInfoIndex := 0
  requiredFieldIndex := 0
  tag := 0
  dataSize := 0
  arraySize := 0
  type := 0
  pField := 0
  pSize := none

/-- The values of an entry, read from its words; the two lowest bits of the first word tell the
format.
SOURCE: pb_common.c:17-71 -/
def unpackEntry (word : ℕ → ℕ) : FieldInfo :=
  let type := (word 0 >>> 8) &&& 0xFF
  if word 0 &&& 3 = 0 then
    { tag := pbSize ((word 0 >>> 2) &&& 0x3F)
      type := type
      dataOffset := (word 0 >>> 16) &&& 0xFF
      dataSize := pbSize ((word 0 >>> 28) &&& 0x0F)
      sizeOffset := int8 ((word 0 >>> 24) &&& 0x0F : ℕ)
      arraySize := 1 }
  else if word 0 &&& 3 = 1 then
    { tag := pbSize (((word 0 >>> 2) &&& 0x3F) ||| ((word 1 >>> 28) <<< 6))
      type := type
      dataOffset := word 1 &&& 0xFFFF
      dataSize := pbSize ((word 1 >>> 16) &&& 0x0FFF)
      sizeOffset := int8 ((word 0 >>> 28) &&& 0x0F : ℕ)
      arraySize := pbSize ((word 0 >>> 16) &&& 0x0FFF) }
  else
    { tag := pbSize (((word 0 >>> 2) &&& 0x3F) ||| ((word 1 >>> 8) <<< 6))
      type := type
      dataOffset := word 2
      dataSize := pbSize (word 3)
      sizeOffset := int8 (word 1 &&& 0xFF : ℕ)
      -- the four word format keeps the array size in its first word, the eight word format in
      -- its fifth
      arraySize := if word 0 &&& 3 = 2 then pbSize (word 0 >>> 16) else pbSize (word 4) }

def MsgDesc.unpack (desc : MsgDesc) (infoIndex : ℕ) : FieldInfo :=
  unpackEntry fun i => desc.fieldInfo.getD (infoIndex + i) 0

/-- The values of a field, and where its data and its `has_` flag lie in the message.  A fixed
count array, whose size is kept in the iterator, is not modelled.
SOURCE: pb_common.c:73-106 -/
def FieldIter.place (iter : FieldIter) (message : ℕ) (f : FieldInfo) : FieldIter where
  index := iter.index
  fieldInfoIndex := iter.fieldInfoIndex
  requiredFieldIndex := iter.requiredFieldIndex
  tag := f.tag
  dataSize := f.dataSize
  arraySize := f.arraySize
  type := f.type
  pField := message + f.dataOffset
  pSize :=
    if f.sizeOffset ≠ 0 then some ((message + f.dataOffset : ℕ) - f.sizeOffset).toNat else none

/-- SOURCE: pb_common.c:8-120 -/
def loadDescriptorValues (desc : MsgDesc) (message : ℕ) (iter : FieldIter) : Bool × FieldIter :=
  if desc.fieldCount ≤ iter.index then (false, iter)
  else (true, iter.place message (desc.unpack iter.fieldInfoIndex))

/-- SOURCE: pb_common.c:122-154 -/
def advanceIterator (desc : MsgDesc) (iter : FieldIter) : FieldIter :=
  let index := pbSize (iter.index + 1)
  if desc.fieldCount ≤ index then
    { iter with index := 0, fieldInfoIndex := 0, requiredFieldIndex := 0 }
  else
    let prevDescriptor := desc.fieldInfo.getD iter.fieldInfoIndex 0
    let prevType := (prevDescriptor >>> 8) &&& 0xFF
    let descriptorLen := pbSize (1 <<< (prevDescriptor &&& 3))
    let required := if htype prevType = htypeRequired then 1 else 0
    { iter with
      index := index
      fieldInfoIndex := pbSize (iter.fieldInfoIndex + descriptorLen)
      requiredFieldIndex := pbSize (iter.requiredFieldIndex + required) }

/-- SOURCE: pb_common.c:156-164 -/
def fieldIterBegin (desc : MsgDesc) (message : ℕ) : Bool × FieldIter :=
  loadDescriptorValues desc message FieldIter.zero

/-- SOURCE: pb_common.c:188-193 -/
def fieldIterNext (desc : MsgDesc) (message : ℕ) (iter : FieldIter) : Bool × FieldIter :=
  let iter := (loadDescriptorValues desc message (advanceIterator desc iter)).2
  (iter.index ≠ 0, iter)

/-- The `do`-`while` of `pb_field_iter_find`, cut off after a number of rounds.
SOURCE: pb_common.c:218-238 -/
def findLoop (desc : MsgDesc) (message tag start : ℕ) : ℕ → FieldIter → Bool × FieldIter
  | 0, iter => (false, iter)
  | rounds + 1, iter =>
      let iter := advanceIterator desc iter
      let fieldInfo := desc.fieldInfo.getD iter.fieldInfoIndex 0
      let candidate := (fieldInfo >>> 2) &&& 0x3F = tag &&& 0x3F
      -- the values are loaded for a candidate only
      let iter := if candidate then (loadDescriptorValues desc message iter).2 else iter
      if candidate ∧ iter.tag = tag ∧ ltype iter.type ≠ ltypeExtension then (true, iter)
      else if iter.index ≠ start then findLoop desc message tag start rounds iter
      else (false, (loadDescriptorValues desc message iter).2)

/-- A search passes every field at most once on the way back to its start.
SOURCE: pb_common.c:195-244 -/
def fieldIterFind (desc : MsgDesc) (message tag : ℕ) (iter : FieldIter) : Bool × FieldIter :=
  if iter.tag = tag then (true, iter)
  else if desc.largestTag < tag then (false, iter)
  else
    -- an index at the end makes `advance_iterator` restart from the first field
    let restarted := if tag < iter.tag then { iter with index := desc.fieldCount } else iter
    findLoop desc message tag iter.index (desc.fieldCount + 1) restarted

/-- The `do`-`while` of `pb_field_iter_find_extension`, cut off after a number of rounds.
SOURCE: pb_common.c:257-273 -/
def findExtensionLoop (desc : MsgDesc) (message start : ℕ) : ℕ → FieldIter → Bool × FieldIter
  | 0, iter => (false, iter)
  | rounds + 1, iter =>
      let iter := advanceIterator desc iter
      let fieldInfo := desc.fieldInfo.getD iter.fieldInfoIndex 0
      if ltype ((fieldInfo >>> 8) &&& 0xFF) = ltypeExtension then
        loadDescriptorValues desc message iter
      else if iter.index ≠ start then findExtensionLoop desc message start rounds iter
      else (false, (loadDescriptorValues desc message iter).2)

/-- SOURCE: pb_common.c:246-275 -/
def fieldIterFindExtension (desc : MsgDesc) (message : ℕ) (iter : FieldIter) :
    Bool × FieldIter :=
  if ltype iter.type = ltypeExtension then (true, iter)
  else findExtensionLoop desc message iter.index (desc.fieldCount + 1) iter

/-! ## The mesh message -/

/-- The members of `mesh_MeshMessage`, in the order of the struct.
SOURCE: mesh.pb.h:12-29 -/
inductive MeshMember where
  | messageType
  | dataType
  | originMacAddress
  | targetMacAddress
  | lastHopMacAddress
  | hasData
  | data
  | hopCount
  | epochNum
  | seqNum
  | protoVersion
  | hasPublicKey
  | publicKey
  deriving DecidableEq

namespace MeshMember

def all : List MeshMember :=
  [messageType, dataType, originMacAddress, targetMacAddress, lastHopMacAddress, hasData, data,
    hopCount, epochNum, seqNum, protoVersion, hasPublicKey, publicKey]

/-- `sizeof`.  A `PB_BYTES_ARRAY_T` is its size, in two bytes, and its bytes.
SOURCE: mesh.pb.h:12-29, pb.h:380-384 -/
def size : MeshMember → ℕ
  | messageType | dataType | hopCount | epochNum | seqNum | protoVersion => 4
  | originMacAddress | targetMacAddress | lastHopMacAddress => 6
  | hasData | hasPublicKey => 1
  | data => 2 + 64
  | publicKey => 2 + 32

/-- `alignof`. -/
def align : MeshMember → ℕ
  | messageType | dataType | hopCount | epochNum | seqNum | protoVersion => 4
  | originMacAddress | targetMacAddress | lastHopMacAddress | hasData | hasPublicKey => 1
  | data | publicKey => 2

/-- The offset of a member in a list of members laid out from an address: each lies at the
next multiple of its alignment. -/
def offsetFrom (next : ℕ) (m : MeshMember) : List MeshMember → ℕ
  | [] => next
  | first :: rest =>
      let start := (next + first.align - 1) / first.align * first.align
      if first = m then start else offsetFrom (start + first.size) m rest

/-- `offsetof(mesh_MeshMessage, m)`. -/
def offset (m : MeshMember) : ℕ := offsetFrom 0 m all

end MeshMember

/-- `PB_FIELDINFO_WIDTH_AUTO` for a static field that is not repeated.
SOURCE: pb.h:854-889 -/
def widthAuto (ltype : ℕ) : InfoWidth :=
  if ltype ≤ ltypeLastPackable ∨ ltype = ltypeExtension then .one else .two

/-- A line `X(a, STATIC, SINGULAR, ltype, m, tag)`: there is no size offset. -/
def singular (ltype : ℕ) (m : MeshMember) (tag : ℕ) : InfoWidth × FieldInfo where
  fst := widthAuto ltype
  snd :=
    { tag := tag
      type := atypeStatic ||| htypeSingular ||| ltype
      dataOffset := m.offset
      dataSize := m.size
      sizeOffset := 0
      arraySize := 1 }

/-- A line `X(a, STATIC, OPTIONAL, ltype, m, tag)`: the size offset is the distance to the
`has_` flag. -/
def optional (ltype : ℕ) (m has : MeshMember) (tag : ℕ) : InfoWidth × FieldInfo where
  fst := widthAuto ltype
  snd :=
    { tag := tag
      type := atypeStatic ||| htypeOptional ||| ltype
      dataOffset := m.offset
      dataSize := m.size
      sizeOffset := (m.offset : ℤ) - has.offset
      arraySize := 1 }

/-- `mesh_MeshMessage_FIELDLIST`.
SOURCE: mesh.pb.h:62-74 -/
def meshFields : List (InfoWidth × FieldInfo) :=
  [singular ltypeUvarint .messageType 1,
    singular ltypeSvarint .dataType 2,
    singular ltypeFixedLengthBytes .originMacAddress 3,
    singular ltypeFixedLengthBytes .targetMacAddress 4,
    singular ltypeFixedLengthBytes .lastHopMacAddress 5,
    optional ltypeBytes .data .hasData 6,
    singular ltypeUvarint .hopCount 7,
    singular ltypeUvarint .epochNum 8,
    singular ltypeUvarint .seqNum 9,
    singular ltypeUvarint .protoVersion 10,
    optional ltypeBytes .publicKey .hasPublicKey 11]

/-- `PB_BIND(mesh_MeshMessage, mesh_MeshMessage, AUTO)`.
SOURCE: mesh.pb.c:9 -/
def meshMessageMsg : MsgDesc := pbBind meshFields

end LatticeNodes.Program.PbEngine
