import LatticeNodes.Analysis.NanopbDecoding

/-!
# The encoder of the engine is the encoder of the message

`encodeVarint32_eq`: the two 32-bit loops of `pb_encode_varint_32` give the varint of the 64-bit
value.  `Appends` says that an encoder appends certain bytes or finds the buffer too short; it
composes, and every field of the descriptor appends what the message encoder does
(`encodeField_appends`).  So encoding the struct is encoding the message it holds
(`encode_refines`), and with `decode_refines` a struct that is encoded and decoded again holds the
same message (`decode_encode`).
-/

set_option autoImplicit false

namespace LatticeNodes.Analysis.NanopbEncoding

open LatticeNodes.Program LatticeNodes.Program.PbEngine NanopbIterator NanopbDecoding ByteMemory
open WireFormat

/-! ## Varints in two halves -/

/-- A byte holds a number below 256. -/
theorem toNat_ofNat_of_lt {n : ℕ} (h : n < 256) : (UInt8.ofNat n).toNat = n := by
  rw [UInt8.toNat_ofNat']
  exact Nat.mod_eq_of_lt h

/-- `byte |= 0x80`. -/
theorem or_0x80 {n : ℕ} (h : n < 128) : UInt8.ofNat n ||| 0x80 = UInt8.ofNat (n + 128) := by
  apply UInt8.toNat_inj.mp
  have hmask : (0x80 : UInt8).toNat = 1 <<< 7 := rfl
  rw [UInt8.toNat_or, toNat_ofNat_of_lt (by omega), toNat_ofNat_of_lt (by omega), hmask,
    lor_shiftLeft 1 (by omega : n < 2 ^ 7)]
  omega

/-- The seven low bits are a remainder. -/
theorem and_0x7F (n : ℕ) : n &&& 0x7F = n % 128 := and_mask n 7

/-- A small number has one group. -/
theorem encodeGroups_of_lt {g v : ℕ} (h : v < 128) : encodeGroups (g + 1) v = [UInt8.ofNat v] := by
  rw [encodeGroups, if_pos h]

/-- A larger number has its low seven bits in front, and the continuation bit set. -/
theorem encodeGroups_step {g byte rest : ℕ} (hbyte : byte < 128) (hrest : 0 < rest) :
    encodeGroups (g + 1) (byte + 128 * rest) =
      UInt8.ofNat (byte + 128) :: encodeGroups g rest := by
  have hlow : (byte + 128 * rest) % 128 = byte := by omega
  have hdiv : (byte + 128 * rest) / 128 = rest := by omega
  rw [encodeGroups, if_neg (by omega), hlow, hdiv]

/-- The loop over the high half writes the groups of what is left, of which `byte` is the lowest. -/
theorem highGroups_eq {i : ℕ} : ∀ {g high byte : ℕ} (buffer : List UInt8), i < g → byte < 128 →
    high < 128 ^ i →
    (highGroups high (UInt8.ofNat byte) buffer).1 ++
        [(highGroups high (UInt8.ofNat byte) buffer).2] =
      buffer ++ encodeGroups g (byte + 128 * high) := by
  induction i with
  | zero =>
      intro g high byte buffer hg hbyte hhigh
      obtain ⟨g, rfl⟩ : ∃ n, g = n + 1 := ⟨g - 1, by omega⟩
      obtain rfl : high = 0 := by simpa using hhigh
      rw [highGroups, if_pos rfl, encodeGroups_of_lt (by omega)]
      simp
  | succ i ih =>
      intro g high byte buffer hg hbyte hhigh
      obtain ⟨g, rfl⟩ : ∃ n, g = n + 1 := ⟨g - 1, by omega⟩
      rw [highGroups]
      by_cases hzero : high = 0
      · subst hzero
        rw [if_pos rfl, encodeGroups_of_lt (by omega)]
        simp
      · have hrest : high / 128 < 128 ^ i := by
          rw [Nat.div_lt_iff_lt_mul (by decide), ← pow_succ]
          exact hhigh
        have hsplit : high % 128 + 128 * (high / 128) = high := Nat.mod_add_div high 128
        rw [if_neg hzero, and_0x7F, Nat.shiftRight_eq_div_pow, or_0x80 hbyte,
          ih _ (by omega : i < g) (Nat.mod_lt _ (by decide)) hrest, hsplit,
          encodeGroups_step hbyte (Nat.pos_of_ne_zero hzero), List.append_assoc,
          List.singleton_append]

/-- Without a high half the loop over the low half is the same loop. -/
theorem lowGroups_zero {i : ℕ} : ∀ {low : ℕ} {byte : UInt8} {buffer : List UInt8},
    low < 128 ^ i → lowGroups 0 i low byte buffer = highGroups low byte buffer := by
  induction i with
  | zero =>
      intro low byte buffer hlow
      obtain rfl : low = 0 := by simpa using hlow
      rw [lowGroups, highGroups, if_pos rfl]
  | succ i ih =>
      intro low byte buffer hlow
      rw [lowGroups, highGroups]
      by_cases hzero : low = 0
      · rw [if_neg (by omega), if_pos hzero]
      · have hrest : low >>> 7 < 128 ^ i := by
          rw [Nat.shiftRight_eq_div_pow, Nat.div_lt_iff_lt_mul (by decide), ← pow_succ]
          exact hlow
        rw [if_pos (.inl hzero), if_neg hzero, ih hrest]

/-- With a high half the loop over the low half writes all its groups, and the four highest bits
of `low` are left in the byte. -/
theorem lowGroups_high {high : ℕ} (hhigh : high ≠ 0) {i : ℕ} : ∀ {low byte : ℕ}
    (buffer : List UInt8), byte < 128 → low < 2 ^ (7 * i + 4) →
    ∃ buffer' byte', byte' < 16 ∧
      lowGroups high (i + 1) low (UInt8.ofNat byte) buffer = (buffer', UInt8.ofNat byte') ∧
      ∀ g, buffer' ++ encodeGroups g (byte' + 16 * high) =
        buffer ++ encodeGroups (g + i + 1) (byte + 128 * (low + 2 ^ (7 * i + 4) * high)) := by
  induction i with
  | zero =>
      intro low byte buffer hbyte hlow
      refine ⟨buffer ++ [UInt8.ofNat (byte + 128)], low, by simpa using hlow, ?_, ?_⟩
      · have hlt : low % 128 = low := Nat.mod_eq_of_lt (by omega)
        rw [lowGroups, if_pos (.inr hhigh), lowGroups, and_0x7F, hlt, or_0x80 hbyte]
      · intro g
        have hpow : 2 ^ (7 * 0 + 4) = 16 := by decide
        rw [hpow, encodeGroups_step hbyte (by omega), List.append_assoc, List.singleton_append]
  | succ i ih =>
      intro low byte buffer hbyte hlow
      have hpow : 2 ^ (7 * (i + 1) + 4) = 128 * 2 ^ (7 * i + 4) := by ring
      have hrest : low / 128 < 2 ^ (7 * i + 4) := by
        rw [hpow] at hlow
        omega
      obtain ⟨buffer', byte', hbyte', hloop, hgroups⟩ :=
        ih (buffer ++ [UInt8.ofNat (byte + 128)]) (Nat.mod_lt low (by decide)) hrest
      refine ⟨buffer', byte', hbyte', ?_, ?_⟩
      · rw [lowGroups, if_pos (.inr hhigh), and_0x7F, Nat.shiftRight_eq_div_pow, or_0x80 hbyte]
        exact hloop
      · intro g
        have hhighPart : 2 ^ (7 * (i + 1) + 4) * high = 128 * (2 ^ (7 * i + 4) * high) := by
          rw [hpow, Nat.mul_assoc]
        have hpos : 0 < 2 ^ (7 * i + 4) * high :=
          Nat.mul_pos (Nat.two_pow_pos _) (Nat.pos_of_ne_zero hhigh)
        rw [hgroups, hhighPart]
        generalize 2 ^ (7 * i + 4) * high = upper at hpos ⊢
        have hvalue : low % 128 + 128 * (low / 128 + upper) = low + 128 * upper := by omega
        rw [hvalue, ← Nat.add_assoc g i 1, encodeGroups_step hbyte (by omega), List.append_assoc,
          List.singleton_append]

/-- **The two loops on 32-bit halves write the varint of the 64-bit value.**
SOURCE: pb_encode.c:573-605 -/
theorem encodeVarint32_eq {value : ℕ} (h : value < 2 ^ 64) :
    encodeVarint32 (value % 2 ^ 32) (value >>> 32) = encodeVarint value := by
  rw [Nat.shiftRight_eq_div_pow]
  have hhighLt : value / 2 ^ 32 < 2 ^ 32 := by omega
  have hvalue : value % 2 ^ 32 + 2 ^ 32 * (value / 2 ^ 32) = value := Nat.mod_add_div value _
  have hlowLt : value % 2 ^ 32 < 2 ^ 32 := Nat.mod_lt _ (by decide)
  generalize value % 2 ^ 32 = low at hlowLt hvalue ⊢
  generalize value / 2 ^ 32 = high at hhighLt hvalue ⊢
  have hbyte : low % 128 < 128 := Nat.mod_lt low (by decide)
  rw [encodeVarint32, and_0x7F, Nat.shiftRight_eq_div_pow]
  by_cases hzero : high = 0
  · subst hzero
    have hlow : low / 2 ^ 7 < 128 ^ 4 := by omega
    have hsum : low % 128 + 128 * (low / 2 ^ 7) = value := by omega
    have hloop := highGroups_eq (g := maxGroups) [] (by decide) hbyte hlow
    rw [← lowGroups_zero hlow, hsum] at hloop
    exact hloop
  · have hlow : low / 2 ^ 7 < 2 ^ (7 * 3 + 4) := by omega
    obtain ⟨buffer, byte, hbyteLt, hloop, hgroups⟩ := lowGroups_high hzero [] hbyte hlow
    have hjoin : UInt8.ofNat byte ||| UInt8.ofNat ((high &&& 0x07) <<< 4) =
        UInt8.ofNat (byte + high % 8 * 16) := by
      have hmask : high &&& 0x07 = high % 8 := and_mask high 3
      apply UInt8.toNat_inj.mp
      have hshift : (high % 8) <<< 4 = high % 8 * 16 := Nat.shiftLeft_eq _ 4
      rw [hmask, UInt8.toNat_or, toNat_ofNat_of_lt (by omega), toNat_ofNat_of_lt (by omega),
        toNat_ofNat_of_lt (by omega), lor_shiftLeft _ (by omega)]
      omega
    have hhigh : high / 2 ^ 3 < 128 ^ 5 := by omega
    have hrest := highGroups_eq (g := 6) buffer (by decide)
      (by omega : byte + high % 8 * 16 < 128) hhigh
    have hsum : byte + high % 8 * 16 + 128 * (high / 2 ^ 3) = byte + 16 * high := by omega
    have htotal : low % 128 + 128 * (low / 2 ^ 7 + 2 ^ (7 * 3 + 4) * high) = value := by omega
    rw [hsum, hgroups, htotal] at hrest
    rw [hloop]
    dsimp only
    rw [if_pos hzero, hjoin, Nat.shiftRight_eq_div_pow]
    exact hrest

/-! ## Appending -/

/-- An encoder appends the bytes, or finds the buffer too short for all of them. -/
def Appends (maxSize : ℕ) (f : List UInt8 → Option (List UInt8)) (bytes : List UInt8) : Prop :=
  ∀ written : List UInt8, written.length ≤ maxSize →
    f written = if written.length + bytes.length ≤ maxSize then some (written ++ bytes) else none

section Appending

variable {maxSize : ℕ} {f g : List UInt8 → Option (List UInt8)} {bytes bytes' : List UInt8}

/-- Writing nothing appends nothing. -/
theorem Appends.nil : Appends maxSize some [] := by
  intro written hwritten
  rw [List.length_nil, Nat.add_zero, if_pos hwritten, List.append_nil]

/-- A write appends its bytes, or fails for want of room.
SOURCE: pb_encode.c:84-105 -/
theorem pbWrite_appends (buf : List UInt8) :
    Appends maxSize (fun written => pbWrite maxSize written buf) buf := by
  intro written hwritten
  dsimp only
  rw [pbWrite]
  by_cases hfits : written.length + buf.length ≤ maxSize
  · rw [if_neg (by omega), if_pos hfits]
  · rw [if_pos (by omega), if_neg hfits]

/-- Two writers in a row append one behind the other. -/
theorem Appends.bind (hf : Appends maxSize f bytes) (hg : Appends maxSize g bytes') :
    Appends maxSize (fun written => (f written).bind g) (bytes ++ bytes') := by
  intro written hwritten
  dsimp only
  rw [hf written hwritten, List.length_append]
  by_cases hfirst : written.length + bytes.length ≤ maxSize
  · have hlength : (written ++ bytes).length = written.length + bytes.length := List.length_append
    rw [if_pos hfirst, Option.bind_some, hg _ (by omega), hlength, Nat.add_assoc, List.append_assoc]
  · rw [if_neg hfirst, if_neg (by omega), Option.bind_none]

/-- The two 32-bit loops write the varint of a 64-bit number.
SOURCE: pb_encode.c:607-623 -/
theorem pbEncodeVarint_appends {value : ℕ} (h : value < 2 ^ 64) :
    Appends maxSize (pbEncodeVarint maxSize value) (encodeVarint value) := by
  intro written hwritten
  rw [pbEncodeVarint]
  by_cases hbyte : value ≤ 0x7F
  · rw [if_pos hbyte, encodeVarint_of_lt (by omega)]
    exact pbWrite_appends _ written hwritten
  · rw [if_neg hbyte, encodeVarint32_eq h]
    exact pbWrite_appends _ written hwritten

/-- A signed number is written in zigzag coding.
SOURCE: pb_encode.c:625-635 -/
theorem pbEncodeSvarint_appends {value : ℤ} (hlo : -(2 ^ 63) ≤ value) (hhi : value < 2 ^ 63) :
    Appends maxSize (pbEncodeSvarint maxSize value) (encodeVarint (zigzag value)) := by
  have hzigzag : (if value < 0 then
      2 ^ 64 - 1 - (((value % 2 ^ 64).toNat &&& (2 ^ 63 - 1)) <<< 1) % 2 ^ 64
      else ((value % 2 ^ 64).toNat <<< 1) % 2 ^ 64) = zigzag value := by
    rw [and_mask, Nat.shiftLeft_eq, Nat.shiftLeft_eq, zigzag]
    split
    · rw [if_neg (by omega)]
      omega
    · rw [if_pos (by omega)]
      omega
  have hlt : zigzag value < 2 ^ 64 := zigzag_lt hlo hhi
  intro written hwritten
  simp only [pbEncodeSvarint, hzigzag]
  exact pbEncodeVarint_appends hlt written hwritten

/-- A tag is written as the key of its field.
SOURCE: pb_encode.c:675-679 -/
theorem pbEncodeTag_appends {wireType fieldNumber : ℕ} (hwire : wireType < 8)
    (hnumber : fieldNumber < 2 ^ 16) :
    Appends maxSize (pbEncodeTag maxSize wireType fieldNumber)
      (encodeKey fieldNumber wireType) := by
  have hkey : (fieldNumber <<< 3) ||| wireType = fieldNumber * 8 + wireType := by
    rw [Nat.or_comm, lor_shiftLeft fieldNumber (by omega : wireType < 2 ^ 3)]
    omega
  intro written hwritten
  rw [pbEncodeTag, hkey]
  exact pbEncodeVarint_appends (by omega) written hwritten

/-- A string is written behind its length.
SOURCE: pb_encode.c:716-722 -/
theorem pbEncodeString_appends {buffer : List UInt8} (h : buffer.length < 2 ^ 64) :
    Appends maxSize (pbEncodeString maxSize buffer) (encodeVarint buffer.length ++ buffer) :=
  (pbEncodeVarint_appends h).bind (pbWrite_appends buffer)

end Appending

/-! ## Fields -/

/-- Bytes are all zero exactly when the number they store is. -/
theorem all_zero_iff (bytes : List UInt8) : bytes.all (· = 0) = true ↔ wordOf bytes = 0 := by
  induction bytes with
  | nil => simp [wordOf]
  | cons b bytes ih =>
      have hbyte : b = 0 ↔ b.toNat = 0 := by
        rw [← UInt8.toNat_inj]
        rfl
      rw [List.all_cons, Bool.and_eq_true, ih, decide_eq_true_iff, hbyte, wordOf]
      omega

/-! ### Values after their keys -/

section Values

variable {maxSize : ℕ} {m : Mem} {field : FieldIter}

/-- The wire type of a key is that of the field's type.
SOURCE: pb_encode.c:681-714 -/
theorem pbEncodeTagForField_appends {wireType : ℕ} (hwire : wireTypeOf field.type = some wireType)
    (hlt : wireType < 8) (htag : field.tag < 2 ^ 16) :
    Appends maxSize (pbEncodeTagForField maxSize field) (encodeKey field.tag wireType) := by
  intro written hwritten
  rw [pbEncodeTagForField, hwire, Option.bind_some]
  exact pbEncodeTag_appends hlt htag written hwritten

/-- An unsigned field is its key and its varint.
SOURCE: pb_encode.c:362-403 -/
theorem encodeBasicField_uint32 (htype : ltype field.type = ltypeUvarint)
    (hsize : field.dataSize = 4) (htag : field.tag < 2 ^ 16) {v : UInt32}
    (hread : read m field.pField 4 = littleEndian 4 v.toNat) :
    Appends maxSize (encodeBasicField maxSize field m)
      (encodeKey field.tag wireVarint ++ encodeVarint v.toNat) := by
  have hlt : v.toNat < 2 ^ 64 := Nat.lt_trans v.toNat_lt (by decide)
  have hstored : wordOf (read m field.pField field.dataSize) = v.toNat := by
    rw [hsize, hread, wordOf_littleEndian]
    exact Nat.mod_eq_of_lt v.toNat_lt
  have hvalue : Appends maxSize (encVarint maxSize field m) (encodeVarint v.toNat) := by
    have hinteger : ¬¬isIntegerSize field.dataSize = true := by
      rw [hsize]
      decide
    intro written hwritten
    simp only [encVarint, hstored, if_neg hinteger, htype, if_true]
    exact pbEncodeVarint_appends hlt written hwritten
  have hwire : wireTypeOf field.type = some wireVarint := by
    rw [wireTypeOf, htype]
    decide
  intro written hwritten
  rw [encodeBasicField, htype]
  exact (pbEncodeTagForField_appends hwire (by decide) htag).bind hvalue written hwritten

/-- A signed one is its key and its zigzag varint.
SOURCE: pb_encode.c:362-403 -/
theorem encodeBasicField_sint32 (htype : ltype field.type = ltypeSvarint)
    (hsize : field.dataSize = 4) (htag : field.tag < 2 ^ 16) {v : Int32}
    (hread : read m field.pField 4 = int32Bytes v) :
    Appends maxSize (encodeBasicField maxSize field m)
      (encodeKey field.tag wireVarint ++ encodeVarint (zigzag v.toInt)) := by
  have hlo : -(2 ^ 31 : ℤ) ≤ v.toInt := v.le_toInt
  have hhi : v.toInt < 2 ^ 31 := v.toInt_lt
  have hstored : ((wordOf (read m field.pField field.dataSize) : ℕ) : ℤ).bmod
      (256 ^ field.dataSize) = v.toInt := by
    rw [hsize, hread, int32Bytes, wordOf_littleEndian]
    simp only [Int.bmod_def]
    omega
  have hvalue : Appends maxSize (encVarint maxSize field m) (encodeVarint (zigzag v.toInt)) := by
    have hinteger : ¬¬isIntegerSize field.dataSize = true := by
      rw [hsize]
      decide
    have hsigned : ¬ltypeSvarint = ltypeUvarint := by decide
    intro written hwritten
    simp only [encVarint, hstored, if_neg hinteger, htype, if_neg hsigned, if_true]
    exact pbEncodeSvarint_appends (by omega) (by omega) written hwritten
  have hwire : wireTypeOf field.type = some wireVarint := by
    rw [wireTypeOf, htype]
    decide
  intro written hwritten
  rw [encodeBasicField, htype]
  exact (pbEncodeTagForField_appends hwire (by decide) htag).bind hvalue written hwritten

/-- A field of fixed length is written whole.
SOURCE: pb_encode.c:362-403 -/
theorem encodeBasicField_fixedBytes (htype : ltype field.type = ltypeFixedLengthBytes)
    (htag : field.tag < 2 ^ 16) {bytes : List UInt8} (hlt : bytes.length < 2 ^ 64)
    (hread : read m field.pField field.dataSize = bytes) :
    Appends maxSize (encodeBasicField maxSize field m) (Pb.encodeString field.tag bytes) := by
  have hvalue : Appends maxSize (encFixedLengthBytes maxSize field m)
      (encodeVarint bytes.length ++ bytes) := by
    intro written hwritten
    rw [encFixedLengthBytes, hread]
    exact pbEncodeString_appends hlt written hwritten
  have hwire : wireTypeOf field.type = some wireString := by
    rw [wireTypeOf, htype]
    decide
  intro written hwritten
  rw [encodeBasicField, htype, Pb.encodeString, List.append_assoc]
  exact (pbEncodeTagForField_appends hwire (by decide) htag).bind hvalue written hwritten

/-- Of a bytes field as many are written as its size says.
SOURCE: pb_encode.c:362-403 -/
theorem encodeBasicField_bytes {max : ℕ} (hmax : max < 2 ^ 16)
    (htype : ltype field.type = ltypeBytes) (hsize : field.dataSize = 2 + max)
    (htag : field.tag < 2 ^ 16) {v : PbBytes max}
    (hlength : read m field.pField 2 = littleEndian 2 v.size)
    (hbytes : read m (field.pField + 2) max = v.bytes.toList) :
    Appends maxSize (encodeBasicField maxSize field m)
      (Pb.encodeString field.tag (v.bytes.toList.take v.size)) := by
  have hle : (v.size : ℕ) ≤ max := Nat.le_of_lt_succ v.size.isLt
  have hstored : wordOf (read m field.pField 2) = v.size := by
    rw [hlength, wordOf_littleEndian]
    exact Nat.mod_eq_of_lt (by omega)
  have htake : read m (field.pField + 2) v.size = v.bytes.toList.take v.size := by
    rw [← hbytes, take_read m _ hle]
  have hvalue : Appends maxSize (encBytes maxSize field m)
      (encodeVarint (v.bytes.toList.take v.size).length ++ v.bytes.toList.take v.size) := by
    intro written hwritten
    simp only [encBytes, hstored, htake]
    rw [if_neg (by omega)]
    exact pbEncodeString_appends (by simp; omega) written hwritten
  have hwire : wireTypeOf field.type = some wireString := by
    rw [wireTypeOf, htype]
    decide
  intro written hwritten
  rw [encodeBasicField, htype, Pb.encodeString, List.append_assoc]
  exact (pbEncodeTagForField_appends hwire (by decide) htag).bind hvalue written hwritten

end Values

/-! ### Presence -/

section Fields

variable {message maxSize : ℕ} {m : Mem} {k : ℕ} {member has : MeshMember} {tag : ℕ}

/-- A singular field is left out when its value is the default. -/
theorem encodeField_singular {type : ℕ} (hlt : type < 16) {bytes : List UInt8} {absent : Prop}
    [Decidable absent]
    (habsent : checkProto3DefaultValue (iterAt meshFields message k (singular type member tag).2)
      m = true ↔ absent)
    (hbytes : Appends maxSize
      (encodeBasicField maxSize (iterAt meshFields message k (singular type member tag).2) m)
      bytes) :
    Appends maxSize
      (encodeField maxSize (iterAt meshFields message k (singular type member tag).2) m)
      (if absent then [] else bytes) := by
  have hoptional : htype (iterAt meshFields message k (singular type member tag).2).type =
      htypeOptional := (type_parts type hlt).2.1
  have hflag : (iterAt meshFields message k (singular type member tag).2).pSize = none := rfl
  intro written hwritten
  rw [encodeField, hoptional, hflag]
  simp only [if_true, habsent]
  by_cases hcase : absent
  · rw [if_pos hcase, if_pos hcase]
    exact Appends.nil written hwritten
  · rw [if_neg hcase, if_neg hcase]
    exact hbytes written hwritten

/-- An optional field is left out when its flag is not set. -/
theorem encodeField_optional {type : ℕ} (hlt : type < 16) (hbefore : has.offset < member.offset)
    {present : Bool} (hflag : m (message + has.offset) = boolByte present) {bytes : List UInt8}
    (hbytes : Appends maxSize
      (encodeBasicField maxSize (iterAt meshFields message k (optional type member has tag).2) m)
      bytes) :
    Appends maxSize
      (encodeField maxSize (iterAt meshFields message k (optional type member has tag).2) m)
      (if present then bytes else []) := by
  have hoptional : htype (iterAt meshFields message k (optional type member has tag).2).type =
      htypeOptional := (type_parts type hlt).2.1
  intro written hwritten
  rw [encodeField, hoptional, pSize_optional hbefore]
  simp only [if_true, hflag]
  cases present with
  | false => exact Appends.nil written hwritten
  | true => exact hbytes written hwritten

/-- A number is the default when all its bytes are zero. -/
theorem checkProto3_number {type : ℕ} (hlt : type ≤ ltypeLastPackable) :
    checkProto3DefaultValue (iterAt meshFields message k (singular type member tag).2) m = true ↔
      wordOf (read m (message + member.offset) member.size) = 0 := by
  obtain ⟨-, hoptional, hltype⟩ := type_parts type (Nat.lt_of_le_of_lt hlt (by decide))
  have hrequired : ¬htypeOptional = htypeRequired := by decide
  have htype : (iterAt meshFields message k (singular type member tag).2).type =
      atypeStatic ||| htypeSingular ||| type := rfl
  have hflag : (iterAt meshFields message k (singular type member tag).2).pSize = none := rfl
  rw [checkProto3DefaultValue, htype, hoptional, if_neg hrequired, hflag, hltype]
  dsimp only
  rw [if_pos hlt]
  exact all_zero_iff _

/-- A singular field is left out when it is zero.
SOURCE: pb_encode.c:418-469 -/
theorem encodeField_uint32 (hsize : member.size = 4) (htag : tag < 2 ^ 16) {v : UInt32}
    (hread : read m (message + member.offset) 4 = littleEndian 4 v.toNat) :
    Appends maxSize
      (encodeField maxSize (iterAt meshFields message k (singular ltypeUvarint member tag).2) m)
      (Pb.encodeUint32 tag v) := by
  have hzero : v.toNat = 0 ↔ v = 0 := by
    rw [← UInt32.toNat_inj]
    rfl
  have hmod : v.toNat % 256 ^ 4 = v.toNat := Nat.mod_eq_of_lt v.toNat_lt
  apply encodeField_singular (by decide)
  · rw [checkProto3_number (by decide), hsize, hread, wordOf_littleEndian, hmod]
    exact hzero
  · exact encodeBasicField_uint32 (type_parts ltypeUvarint (by decide)).2.2 hsize htag hread

/-- A signed field is left out when it is zero.
SOURCE: pb_encode.c:418-469 -/
theorem encodeField_sint32 (hsize : member.size = 4) (htag : tag < 2 ^ 16) {v : Int32}
    (hread : read m (message + member.offset) 4 = int32Bytes v) :
    Appends maxSize
      (encodeField maxSize (iterAt meshFields message k (singular ltypeSvarint member tag).2) m)
      (Pb.encodeSint32 tag v) := by
  have hlo : -(2 ^ 31 : ℤ) ≤ v.toInt := v.le_toInt
  have hhi : v.toInt < 2 ^ 31 := v.toInt_lt
  have hzero : v.toInt = 0 ↔ v = 0 := by
    rw [← Int32.toInt_inj]
    rfl
  apply encodeField_singular (by decide)
  · rw [checkProto3_number (by decide), hsize, hread, int32Bytes, wordOf_littleEndian, ← hzero]
    omega
  · exact encodeBasicField_sint32 (type_parts ltypeSvarint (by decide)).2.2 hsize htag hread

/-- Bytes of a fixed length are written also when they are zero. -/
theorem checkProto3_fixedBytes (hsize : member.size ≠ 0) :
    checkProto3DefaultValue
      (iterAt meshFields message k (singular ltypeFixedLengthBytes member tag).2) m = true ↔
        False := by
  obtain ⟨-, hoptional, hltype⟩ := type_parts ltypeFixedLengthBytes (by decide)
  have hrequired : ¬htypeOptional = htypeRequired := by decide
  have htype : (iterAt meshFields message k (singular ltypeFixedLengthBytes member tag).2).type =
      atypeStatic ||| htypeSingular ||| ltypeFixedLengthBytes := rfl
  have hflag :
      (iterAt meshFields message k (singular ltypeFixedLengthBytes member tag).2).pSize = none :=
    rfl
  have hdata :
      (iterAt meshFields message k (singular ltypeFixedLengthBytes member tag).2).dataSize =
        member.size := rfl
  have hpackable : ¬ltypeFixedLengthBytes ≤ ltypeLastPackable := by decide
  have hbytes : ¬ltypeFixedLengthBytes = ltypeBytes := by decide
  have hstring : ¬ltypeFixedLengthBytes = ltypeString := by decide
  rw [checkProto3DefaultValue, htype, hoptional, if_neg hrequired, hflag, hltype, hdata]
  dsimp only
  rw [if_neg hpackable, if_neg hbytes, if_neg hstring, if_pos rfl, decide_eq_true_iff]
  exact iff_of_false hsize not_false

/-- An address is written also when it is zero.
SOURCE: pb_encode.c:418-469 -/
theorem encodeField_fixedBytes (hsize : member.size = 6) (htag : tag < 2 ^ 16) {v : MacAddress}
    (hread : read m (message + member.offset) 6 = v.toList) :
    Appends maxSize
      (encodeField maxSize
        (iterAt meshFields message k (singular ltypeFixedLengthBytes member tag).2) m)
      (Pb.encodeFixedBytes tag v) := by
  have hdata : read m (message + member.offset) member.size = v.toList := by rw [hsize, hread]
  have hfield : Appends maxSize
      (encodeField maxSize
        (iterAt meshFields message k (singular ltypeFixedLengthBytes member tag).2) m)
      (if False then [] else Pb.encodeFixedBytes tag v) := by
    apply encodeField_singular (by decide) (checkProto3_fixedBytes (by omega))
    exact encodeBasicField_fixedBytes (type_parts ltypeFixedLengthBytes (by decide)).2.2 htag
      (by simp) hdata
  rwa [if_false] at hfield

/-- An optional field is left out when its flag is down.
SOURCE: pb_encode.c:418-469 -/
theorem encodeField_bytes {max : ℕ} (hmax : max < 2 ^ 16) (hbefore : has.offset < member.offset)
    (hsize : member.size = 2 + max) (htag : tag < 2 ^ 16) {present : Bool} {v : PbBytes max}
    (hflag : m (message + has.offset) = boolByte present)
    (hlength : read m (message + member.offset) 2 = littleEndian 2 v.size)
    (hbytes : read m (message + member.offset + 2) max = v.bytes.toList) :
    Appends maxSize
      (encodeField maxSize (iterAt meshFields message k (optional ltypeBytes member has tag).2) m)
      (Pb.encodeBytes tag present v) := by
  apply encodeField_optional (by decide) hbefore hflag
  exact encodeBasicField_bytes hmax (type_parts ltypeBytes (by decide)).2.2 hsize htag hlength
    hbytes

end Fields

/-! ## Whole messages -/

section Loop

variable {message maxSize : ℕ} {m : Mem}

/-- One round writes a field and goes on to the next.
SOURCE: pb_encode.c:512-534 -/
theorem encodeLoop_succ (desc : MsgDesc) (rounds : ℕ) (iter : FieldIter) (written : List UInt8) :
    encodeLoop desc message maxSize m (rounds + 1) iter written =
      (encodeField maxSize iter m written).bind fun written =>
        if (fieldIterNext desc message iter).1 then
          encodeLoop desc message maxSize m rounds (fieldIterNext desc message iter).2 written
        else some written := by
  rw [encodeLoop]
  cases encodeField maxSize iter m written <;> rfl

/-- The loop appends what each field from the iterator on appends. -/
theorem encodeLoop_appends (l : FieldList) {chunks : List (List UInt8)}
    (hchunks : ∀ k f, l.fields[k]? = some f → ∃ chunk, chunks[k]? = some chunk ∧
      Appends maxSize (encodeField maxSize (iterAt l.fields message k f.2) m) chunk)
    (hcount : chunks.length = l.fields.length) {rounds : ℕ} :
    ∀ {k : ℕ} {f : InfoWidth × FieldInfo}, l.fields[k]? = some f → k + rounds = l.fields.length →
      Appends maxSize
        (encodeLoop (pbBind l.fields) message maxSize m rounds (iterAt l.fields message k f.2))
        (chunks.drop k).flatten := by
  induction rounds with
  | zero =>
      intro k f hf hrounds
      have hk : k < l.fields.length := (List.getElem?_eq_some_iff.mp hf).1
      omega
  | succ rounds ih =>
      intro k f hf hrounds
      obtain ⟨chunk, hchunk, hfield⟩ := hchunks k f hf
      obtain ⟨hk, hget⟩ := List.getElem?_eq_some_iff.mp hchunk
      have hdrop : (chunks.drop k).flatten = chunk ++ (chunks.drop (k + 1)).flatten := by
        rw [List.drop_eq_getElem_cons hk, hget, List.flatten_cons]
      have hrest : Appends maxSize (fun written =>
          if (fieldIterNext (pbBind l.fields) message (iterAt l.fields message k f.2)).1 then
            encodeLoop (pbBind l.fields) message maxSize m rounds
              (fieldIterNext (pbBind l.fields) message (iterAt l.fields message k f.2)).2 written
          else some written) (chunks.drop (k + 1)).flatten := by
        by_cases hlast : k + 1 = l.fields.length
        · have hfirst : 0 < l.fields.length := by omega
          rw [fieldIterNext_last l message hf hlast (List.getElem?_eq_getElem hfirst),
            List.drop_eq_nil_of_le (by omega)]
          exact Appends.nil
        · have hlt : k + 1 < l.fields.length := by omega
          have hg : l.fields[k + 1]? = some l.fields[k + 1] := List.getElem?_eq_getElem hlt
          rw [fieldIterNext_at l message hf hg]
          exact ih hg (by omega)
      intro written hwritten
      rw [encodeLoop_succ, hdrop]
      exact hfield.bind hrest written hwritten

end Loop

/-- What each field of the list adds to the message. -/
def chunks (msg : PbMeshMessage) : List (List UInt8) :=
  [Pb.encodeUint32 1 msg.messageType, Pb.encodeSint32 2 msg.dataType,
    Pb.encodeFixedBytes 3 msg.originMacAddress, Pb.encodeFixedBytes 4 msg.targetMacAddress,
    Pb.encodeFixedBytes 5 msg.lastHopMacAddress, Pb.encodeBytes 6 msg.hasData msg.data,
    Pb.encodeUint32 7 msg.hopCount, Pb.encodeUint32 8 msg.epochNum, Pb.encodeUint32 9 msg.seqNum,
    Pb.encodeUint32 10 msg.protoVersion, Pb.encodeBytes 11 msg.hasPublicKey msg.publicKey]

/-- The fields of a message are written in the order of their numbers. -/
theorem encodeFields_eq (msg : PbMeshMessage) : Pb.encodeFields msg = (chunks msg).flatten := by
  simp [Pb.encodeFields, chunks]

section Messages

variable {message maxSize : ℕ} {m : Mem} {msg : PbMeshMessage}

/-- **Each field of the list** appends its part of the message. -/
theorem encodeField_appends (h : Represents m message msg) (k : ℕ) (f : InfoWidth × FieldInfo)
    (hf : meshFields[k]? = some f) :
    ∃ chunk, (chunks msg)[k]? = some chunk ∧
      Appends maxSize (encodeField maxSize (iterAt meshFields message k f.2) m) chunk := by
  have hcell : ∀ (i : ℕ) {c : ℕ × List UInt8} {n : ℕ}, (layout message msg)[i]? = some c →
      c.2.length = n → read m c.1 n = c.2 := by
    intro i c n hc hn
    rw [← hn]
    exact h c (List.mem_of_getElem? hc)
  have hflag : ∀ (i : ℕ) {a : ℕ} {b : Bool}, (layout message msg)[i]? = some (a, [boolByte b]) →
      m a = boolByte b := by
    intro i a b hc
    have hread : read m a 1 = [boolByte b] := hcell i hc rfl
    exact List.cons.inj hread |>.1
  have hk : k < 11 := (List.getElem?_eq_some_iff.mp hf).1
  obtain rfl | rfl | rfl | rfl | rfl | rfl | rfl | rfl | rfl | rfl | rfl :
      k = 0 ∨ k = 1 ∨ k = 2 ∨ k = 3 ∨ k = 4 ∨ k = 5 ∨ k = 6 ∨ k = 7 ∨ k = 8 ∨ k = 9 ∨ k = 10 := by
    omega
  all_goals
    obtain rfl := (Option.some.inj hf).symm
    refine ⟨_, rfl, ?_⟩
  · exact encodeField_uint32 rfl (by decide) (hcell 0 rfl (by simp))
  · exact encodeField_sint32 rfl (by decide) (hcell 1 rfl (by simp [int32Bytes]))
  · exact encodeField_fixedBytes rfl (by decide) (hcell 2 rfl (by simp))
  · exact encodeField_fixedBytes rfl (by decide) (hcell 3 rfl (by simp))
  · exact encodeField_fixedBytes rfl (by decide) (hcell 4 rfl (by simp))
  · exact encodeField_bytes (by decide) (by decide) rfl (by decide) (hflag 5 rfl)
      (hcell 6 rfl (by simp)) (hcell 7 rfl (by simp))
  · exact encodeField_uint32 rfl (by decide) (hcell 8 rfl (by simp))
  · exact encodeField_uint32 rfl (by decide) (hcell 9 rfl (by simp))
  · exact encodeField_uint32 rfl (by decide) (hcell 10 rfl (by simp))
  · exact encodeField_uint32 rfl (by decide) (hcell 11 rfl (by simp))
  · exact encodeField_bytes (by decide) (by decide) rfl (by decide) (hflag 12 rfl)
      (hcell 13 rfl (by simp)) (hcell 14 rfl (by simp))

/-- **The engine writes what the message encoder writes.** -/
theorem encode_represented (h : Represents m message msg) :
    encode meshMessageMsg message maxSize m = Pb.encode maxSize msg := by
  have hbegin : fieldIterBegin meshMessageMsg message =
      (true, iterAt meshFields message 0 meshFields[0].2) :=
    fieldIterBegin_at meshFieldList message rfl
  have hcount : meshMessageMsg.fieldCount = meshFields.length := rfl
  have hloop : Appends maxSize
      (encodeLoop meshMessageMsg message maxSize m meshFields.length
        (iterAt meshFields message 0 meshFields[0].2)) ((chunks msg).drop 0).flatten :=
    encodeLoop_appends meshFieldList (encodeField_appends h) rfl rfl (Nat.zero_add _)
  rw [encode, hbegin, hcount]
  dsimp only
  rw [if_pos rfl, hloop [] (Nat.zero_le maxSize), List.drop_zero, ← encodeFields_eq,
    List.length_nil, Nat.zero_add, List.nil_append, Pb.encode]

/-- **Encoding the struct is encoding the message it holds**, whether it fits the buffer or not. -/
theorem encode_refines (message maxSize : ℕ) (m : Mem) (msg : PbMeshMessage)
    (h : Represents m message msg) :
    encode meshMessageMsg message maxSize m = Pb.encode maxSize msg :=
  encode_represented h

/-- A message the decoder can produce is what a struct holds after it was decoded there. -/
theorem represents_decoded {msg : PbMeshMessage} (hc : PbMeshMessage.Canonical msg) (message : ℕ)
    (m : Mem) :
    Represents (decode meshMessageMsg message m (Pb.encodeFields msg)).1 message msg :=
  ((decode_refined message m _).2 msg (decode_encodeFields hc)).2

/-- A message with every member set, and a negative data type. -/
def fullMessage : PbMeshMessage where
  messageType := 2
  dataType := -1
  originMacAddress := Vector.replicate 6 17
  targetMacAddress := Vector.replicate 6 34
  lastHopMacAddress := Vector.replicate 6 51
  hasData := true
  data := ⟨64, Vector.replicate 64 7⟩
  hopCount := 3
  epochNum := 70000
  seqNum := 300
  protoVersion := 2
  hasPublicKey := true
  publicKey := ⟨32, Vector.replicate 32 9⟩

/-- The full message is one the decoder can produce. -/
theorem canonical_fullMessage : PbMeshMessage.Canonical fullMessage where
  data := by
    show Pb.overwrite (Vector.replicate 64 0) ((Vector.replicate 64 7).toList.take 64) = _
    rw [List.take_of_length_le (by simp), overwrite_toList]
    rfl
  publicKey := by
    show Pb.overwrite (Vector.replicate 32 0) ((Vector.replicate 32 9).toList.take 32) = _
    rw [List.take_of_length_le (by simp), overwrite_toList]
    rfl
  no_data := fun hno => absurd hno.symm Bool.false_ne_true
  no_publicKey := fun hno => absurd hno.symm Bool.false_ne_true

/-- The full message takes 139 bytes, and does not fit 138. -/
theorem encode_refines_full :
    let memory := (decode meshMessageMsg 4096 (fun _ => 0) (Pb.encodeFields fullMessage)).1
    encode meshMessageMsg 4096 192 memory = Pb.encode 192 fullMessage ∧
      (Pb.encode 192 fullMessage).map List.length = some 139 ∧
      encode meshMessageMsg 4096 138 memory = none := by
  have hmemory := represents_decoded canonical_fullMessage 4096 fun _ => 0
  refine ⟨encode_refines 4096 192 _ fullMessage hmemory, by decide +kernel, ?_⟩
  rw [encode_refines 4096 138 _ fullMessage hmemory]
  decide +kernel

/-- **A struct that is encoded and decoded into another** leaves there the message it held,
whatever the other struct held before. -/
theorem decode_encode (message message' maxSize : ℕ) (m m' : Mem) (msg : PbMeshMessage)
    (bytes : List UInt8) (h : Represents m message msg) (hc : PbMeshMessage.Canonical msg)
    (hbytes : encode meshMessageMsg message maxSize m = some bytes) :
    (decode meshMessageMsg message' m' bytes).2 = some [] ∧
      Represents (decode meshMessageMsg message' m' bytes).1 message' msg := by
  have hfits : encode meshMessageMsg message maxSize m = Pb.encode maxSize msg :=
    encode_represented h
  rw [hbytes, Pb.encode] at hfits
  split at hfits
  · obtain rfl := Option.some.inj hfits
    exact (decode_refined message' m' (Pb.encodeFields msg)).2 msg (decode_encodeFields hc)
  · simp at hfits

/-- The full message survives the way through memory. -/
theorem decode_encode_full :
    (decode meshMessageMsg 8192 (fun _ => 255) (Pb.encodeFields fullMessage)).2 = some [] ∧
      Represents
        (decode meshMessageMsg 8192 (fun _ => 255) (Pb.encodeFields fullMessage)).1 8192
        fullMessage := by
  have hmemory := represents_decoded canonical_fullMessage 4096 fun _ => 0
  have hfits : (Pb.encodeFields fullMessage).length ≤ 192 :=
    (length_encodeFields_le _).trans (by decide)
  have hbytes : encode meshMessageMsg 4096 192
      (decode meshMessageMsg 4096 (fun _ => 0) (Pb.encodeFields fullMessage)).1 =
        some (Pb.encodeFields fullMessage) := by
    rw [encode_represented hmemory, Pb.encode, if_pos hfits]
  exact decode_encode 4096 8192 192 _ (fun _ => 255) fullMessage (Pb.encodeFields fullMessage)
    hmemory canonical_fullMessage hbytes

end Messages

end LatticeNodes.Analysis.NanopbEncoding
