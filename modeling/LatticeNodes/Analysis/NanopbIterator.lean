import Mathlib.Data.List.Induction
import Mathlib.Tactic.Ring
import LatticeNodes.Program.NanopbFields

/-!
# The descriptor iterator finds its fields

A list of fields is packed into words and read back entry by entry.  `unpack_pack` inverts the
packing of one entry, in each of the four formats; `At` says that an iterator stands at a field
of the list; and the spec lemmas `loadDescriptorValues_at`, `advanceIterator_at` say what one
operation does there.  From them: the iterator visits the fields in order (`fieldIterNext_at`),
and a search from any position ends at the field with the tag, or where it began
(`find_locates`).
-/

set_option autoImplicit false

namespace LatticeNodes.Analysis.NanopbIterator

open LatticeNodes.Program.PbEngine

/-! ## Masks and shifts -/

/-- Masking the low bits is taking a remainder. -/
theorem and_mask (n k : ℕ) : n &&& (2 ^ k - 1) = n % 2 ^ k :=
  Nat.and_two_pow_sub_one_eq_mod n k

/-- Masking bits in the middle is dividing first. -/
theorem and_shifted_mask (n j k : ℕ) :
    n &&& ((2 ^ k - 1) <<< j) = n / 2 ^ j % 2 ^ k * 2 ^ j := by
  rw [← Nat.shiftRight_eq_div_pow, ← and_mask, ← Nat.shiftLeft_eq]
  apply Nat.eq_of_testBit_eq
  intro i
  by_cases hi : j ≤ i
  · simp [Nat.testBit_shiftLeft, hi, Bool.and_comm]
  · simp [Nat.testBit_shiftLeft, hi]

/-- Parts that do not overlap are joined by addition. -/
theorem lor_shiftLeft {low k : ℕ} (high : ℕ) (h : low < 2 ^ k) :
    low ||| high <<< k = low + high * 2 ^ k := by
  rw [Nat.or_comm, ← Nat.shiftLeft_add_eq_or_of_lt h, Nat.shiftLeft_eq, Nat.add_comm]

section Masks

variable (n : ℕ)

/-- The two low bits. -/
theorem and_3 : n &&& 3 = n % 4 := and_mask n 2
/-- The four low bits. -/
theorem and_0x0F : n &&& 0x0F = n % 16 := and_mask n 4
/-- The six low bits. -/
theorem and_0x3F : n &&& 0x3F = n % 64 := and_mask n 6
/-- The low byte. -/
theorem and_0xFF : n &&& 0xFF = n % 256 := and_mask n 8
/-- The twelve low bits. -/
theorem and_0xFFF : n &&& 0xFFF = n % 4096 := and_mask n 12
/-- The low two bytes. -/
theorem and_0xFFFF : n &&& 0xFFFF = n % 65536 := and_mask n 16
/-- The four bits above the six low ones. -/
theorem and_0x3C0 : n &&& 0x3C0 = n / 64 % 16 * 64 := and_shifted_mask n 6 4
/-- All bytes but the lowest of a word. -/
theorem and_0xFFFFFF00 : n &&& 0xFFFFFF00 = n / 256 % 16777216 * 256 := and_shifted_mask n 8 24

end Masks

/-! ## One entry -/

/-- What the generated descriptor promises of an entry: the static assertions hold, the type is
a byte, and the `has_` flag lies within a signed byte of the data. -/
structure Encodable (width : InfoWidth) (f : FieldInfo) : Prop where
  fits : width.Fits f
  type_lt : f.type < 256
  le_sizeOffset : -128 ≤ f.sizeOffset
  sizeOffset_lt : f.sizeOffset < 128
  arraySize_pos : 0 < f.arraySize

/-- A small number is its own signed byte. -/
theorem int8_of_lt {z : ℤ} (hlo : -128 ≤ z) (hhi : z < 128) : int8 z = z := by
  simp only [int8, Int.bmod_def]
  omega

/-- A small number whose word is a byte is its own word. -/
theorem uint32_of_lt {z : ℤ} (hlo : -128 ≤ z) (hhi : z < 128) (h : uint32 z < 256) :
    (uint32 z : ℤ) = z := by
  simp only [uint32] at h ⊢
  omega

/-- The format, the tag and the type in the first word of an entry. -/
theorem firstWord_eq {format : ℕ} (hformat : format < 4) (tag type : ℕ) :
    format ||| ((tag <<< 2) &&& 0xFF) ||| (type <<< 8) =
      format + tag % 64 * 4 + type * 256 := by
  have htag : (tag <<< 2) &&& 0xFF = (tag % 64) <<< 2 := by
    rw [and_0xFF, Nat.shiftLeft_eq, Nat.shiftLeft_eq]
    omega
  rw [htag, lor_shiftLeft _ (by omega : format < 2 ^ 2), lor_shiftLeft _ (by omega)]
  omega

/-- The word of a tag has the size offset in its low byte and the rest of the tag above. -/
theorem tagWord_eq {f : FieldInfo} (htag : f.tag < 65536)
    (hoffset : uint32 (int8 f.sizeOffset) < 256) :
    tagWord f = uint32 (int8 f.sizeOffset) + f.tag / 64 * 256 := by
  have hmask : (f.tag <<< 2) &&& 0xFFFFFF00 = (f.tag / 64) <<< 8 := by
    rw [and_0xFFFFFF00, Nat.shiftLeft_eq, Nat.shiftLeft_eq]
    omega
  rw [tagWord, hmask, lor_shiftLeft _ (by omega)]
  omega

/-- The first word of every format: the format, the tag, the type, and a half that differs. -/
def firstWord (format high : ℕ) (f : FieldInfo) : ℕ :=
  format + f.tag % 64 * 4 + f.type * 256 + high * 65536

/-- The code of a format in the two lowest bits. -/
def InfoWidth.code : InfoWidth → ℕ
  | .one => 0
  | .two => 1
  | .four => 2
  | .eight => 3

/-- The upper half of the first word. -/
def InfoWidth.high : InfoWidth → FieldInfo → ℕ
  | .one, f => f.dataOffset + uint32 f.sizeOffset * 256 + f.dataSize * 4096
  | .two, f => f.arraySize + uint32 f.sizeOffset * 4096
  | .four, f => f.arraySize
  | .eight, _ => 0

/-- Every entry begins with its first word. -/
theorem pack_getD_zero {width : InfoWidth} {f : FieldInfo} (h : Encodable width f) :
    (width.pack f).getD 0 0 = firstWord (InfoWidth.code width) (InfoWidth.high width f) f := by
  obtain ⟨hfits, htype, hlo, hhi, hpos⟩ := h
  cases width with
  | one =>
      obtain ⟨htag, hoffset, hso, hsize, harray⟩ := hfits
      simp only [PbFits, Nat.one_shiftLeft] at htag hoffset hso hsize harray
      rw [InfoWidth.pack, fieldInfo1, firstWord_eq (by omega), and_0xFF, and_0x0F, and_0x0F,
        lor_shiftLeft (f.dataOffset % 256) (by omega),
        lor_shiftLeft (uint32 f.sizeOffset % 16) (by omega),
        lor_shiftLeft (f.dataSize % 16) (by omega), List.getD_cons_zero]
      simp only [firstWord, InfoWidth.code, InfoWidth.high]
      omega
  | two =>
      obtain ⟨htag, hoffset, hso, hsize, harray⟩ := hfits
      simp only [PbFits, Nat.one_shiftLeft] at htag hoffset hso hsize harray
      rw [InfoWidth.pack, fieldInfo2, firstWord_eq (by omega), and_0xFFF, and_0x0F,
        List.getD_cons_zero, lor_shiftLeft (f.arraySize % 4096) (by omega),
        lor_shiftLeft (uint32 f.sizeOffset % 16) (by omega)]
      simp only [firstWord, InfoWidth.code, InfoWidth.high]
      omega
  | four =>
      obtain ⟨htag, hoffset, hso, hsize, harray⟩ := hfits
      simp only [PbFits, Nat.one_shiftLeft] at htag hoffset hso hsize harray
      rw [InfoWidth.pack, fieldInfo4, firstWord_eq (by omega), and_0xFFFF, List.getD_cons_zero,
        lor_shiftLeft (f.arraySize % 65536) (by omega)]
      simp only [firstWord, InfoWidth.code, InfoWidth.high]
      omega
  | eight =>
      rw [InfoWidth.pack, fieldInfo8, firstWord_eq (by omega), List.getD_cons_zero]
      simp only [firstWord, InfoWidth.code, InfoWidth.high]
      omega

section FirstWord

variable {width : InfoWidth} {f : FieldInfo} {n : ℕ}

/-- The first word tells how wide the entry is. -/
theorem firstWord_format (hn : n = firstWord (InfoWidth.code width) (InfoWidth.high width f) f) :
    n &&& 3 = InfoWidth.code width := by
  have hcode : InfoWidth.code width < 4 := by cases width <;> decide
  rw [and_3]
  simp only [firstWord] at hn
  omega

/-- The first word holds six bits of the tag, for the search. -/
theorem firstWord_tag (hn : n = firstWord (InfoWidth.code width) (InfoWidth.high width f) f) :
    (n >>> 2) &&& 0x3F = f.tag % 64 := by
  have hcode : InfoWidth.code width < 4 := by cases width <;> decide
  rw [and_0x3F, Nat.shiftRight_eq_div_pow]
  simp only [firstWord] at hn
  omega

/-- The first word holds the type of the field. -/
theorem firstWord_type (htype : f.type < 256)
    (hn : n = firstWord (InfoWidth.code width) (InfoWidth.high width f) f) :
    (n >>> 8) &&& 0xFF = f.type := by
  have hcode : InfoWidth.code width < 4 := by cases width <;> decide
  rw [and_0xFF, Nat.shiftRight_eq_div_pow]
  simp only [firstWord] at hn
  omega

end FirstWord

section OneEntry

variable {word : ℕ → ℕ} {f : FieldInfo}

/-- An entry of one word unpacks to its field.
SOURCE: pb_common.c:8-120 -/
theorem unpackEntry_one (h : Encodable .one f) (hword : word 0 = (fieldInfo1 f).getD 0 0) :
    unpackEntry word = f := by
  have hfirst : word 0 = firstWord _ _ f := hword.trans (pack_getD_zero h)
  obtain ⟨⟨htag, hoffset, hso, hsize, harray⟩, htype, hlo, hhi, hpos⟩ := h
  simp only [PbFits, Nat.one_shiftLeft] at htag hoffset hso hsize harray
  have hz := uint32_of_lt hlo hhi (by omega)
  have hformat : word 0 &&& 3 = 0 := firstWord_format hfirst
  rw [unpackEntry, if_pos hformat, firstWord_tag hfirst, firstWord_type htype hfirst]
  simp only [firstWord, InfoWidth.code, InfoWidth.high] at hfirst
  simp only [Nat.shiftRight_eq_div_pow, and_0x0F, and_0xFF, pbSize]
  have hoff : ((word 0 / 2 ^ 24 % 16 : ℕ) : ℤ) = f.sizeOffset := by omega
  rw [hoff, int8_of_lt hlo hhi]
  congr 1 <;> omega

/-- An entry of two words unpacks to its field.
SOURCE: pb_common.c:8-120 -/
theorem unpackEntry_two (h : Encodable .two f) (hword0 : word 0 = (fieldInfo2 f).getD 0 0)
    (hword1 : word 1 = (fieldInfo2 f).getD 1 0) : unpackEntry word = f := by
  have hfirst : word 0 = firstWord _ _ f := hword0.trans (pack_getD_zero h)
  obtain ⟨⟨htag, hoffset, hso, hsize, harray⟩, htype, hlo, hhi, hpos⟩ := h
  simp only [PbFits, Nat.one_shiftLeft] at htag hoffset hso hsize harray
  have hz := uint32_of_lt hlo hhi (by omega)
  have hsecond : word 1 = f.dataOffset + f.dataSize * 65536 + f.tag / 64 * 268435456 := by
    have htagHigh : (f.tag &&& 0x3C0) <<< 22 = (f.tag / 64) <<< 28 := by
      rw [and_0x3C0, Nat.shiftLeft_eq, Nat.shiftLeft_eq]
      omega
    rw [hword1, fieldInfo2, List.getD_cons_succ, List.getD_cons_zero, and_0xFFFF, and_0xFFF,
      htagHigh, lor_shiftLeft (f.dataSize % 4096) (by omega),
      lor_shiftLeft (f.tag / 64) (by omega)]
    omega
  have hformat : word 0 &&& 3 = 1 := firstWord_format hfirst
  rw [unpackEntry, hformat, if_neg (by omega), if_pos rfl, firstWord_tag hfirst,
    firstWord_type htype hfirst]
  simp only [firstWord, InfoWidth.code, InfoWidth.high] at hfirst
  simp only [Nat.shiftRight_eq_div_pow, and_0x0F, and_0xFFF, and_0xFFFF, pbSize]
  rw [lor_shiftLeft (word 1 / 2 ^ 28) (by omega)]
  have hoff : ((word 0 / 2 ^ 28 % 16 : ℕ) : ℤ) = f.sizeOffset := by omega
  rw [hoff, int8_of_lt hlo hhi]
  congr 1 <;> omega

/-- The formats of four and of eight words differ in where the array size stands. -/
theorem unpackEntry_wide {width : InfoWidth} (hwidth : 2 ≤ InfoWidth.code width)
    (htag : f.tag < 65536) (hsize : f.dataSize < 65536) (htype : f.type < 256)
    (hlo : -128 ≤ f.sizeOffset) (hhi : f.sizeOffset < 128)
    (hso : uint32 (int8 f.sizeOffset) < 256)
    (hfirst : word 0 = firstWord (InfoWidth.code width) (InfoWidth.high width f) f)
    (hword1 : word 1 = tagWord f) (hword2 : word 2 = f.dataOffset) (hword3 : word 3 = f.dataSize)
    (harray : f.arraySize =
      if InfoWidth.code width = 2 then pbSize (InfoWidth.high width f) else pbSize (word 4)) :
    unpackEntry word = f := by
  have hbyte := hso
  rw [int8_of_lt hlo hhi] at hbyte
  have hz := uint32_of_lt hlo hhi hbyte
  rw [tagWord_eq htag hso, int8_of_lt hlo hhi] at hword1
  have hhigh : word 0 / 2 ^ 16 = InfoWidth.high width f := by
    have hcode : InfoWidth.code width < 4 := by cases width <;> decide
    simp only [firstWord] at hfirst
    omega
  rw [unpackEntry, firstWord_format hfirst, if_neg (by omega), if_neg (by omega),
    firstWord_tag hfirst, firstWord_type htype hfirst, hword2, hword3]
  simp only [Nat.shiftRight_eq_div_pow, and_0xFF]
  have hoff : ((word 1 % 256 : ℕ) : ℤ) = f.sizeOffset := by omega
  rw [hhigh, ← harray, hoff, int8_of_lt hlo hhi, lor_shiftLeft (word 1 / 2 ^ 8) (by omega)]
  simp only [pbSize]
  congr 1 <;> omega

/-- **An entry is read back from its words**, in every format. -/
theorem unpackEntry_pack {width : InfoWidth} (h : Encodable width f)
    (hwords : ∀ i < (width.pack f).length, word i = (width.pack f).getD i 0) :
    unpackEntry word = f := by
  cases width with
  | one => exact unpackEntry_one h (hwords 0 Nat.one_pos)
  | two => exact unpackEntry_two h (hwords 0 Nat.two_pos) (hwords 1 Nat.one_lt_two)
  | four =>
      have hwidth : 2 ≤ InfoWidth.code .four := le_refl 2
      have hfirst := (hwords 0 (Nat.succ_pos 3)).trans (pack_getD_zero h)
      obtain ⟨⟨htag, hoffset, hso, hsize, harray⟩, htype, hlo, hhi, hpos⟩ := h
      simp only [PbFits, Nat.one_shiftLeft] at htag hso hsize harray
      apply unpackEntry_wide hwidth htag hsize htype hlo hhi hso hfirst
        (hwords 1 (by simp [InfoWidth.pack, fieldInfo4]))
        (hwords 2 (by simp [InfoWidth.pack, fieldInfo4]))
        (hwords 3 (by simp [InfoWidth.pack, fieldInfo4]))
      exact (Nat.mod_eq_of_lt harray).symm
  | eight =>
      have hwidth : 2 ≤ InfoWidth.code .eight := Nat.le_succ 2
      have hfirst := (hwords 0 (Nat.succ_pos 7)).trans (pack_getD_zero h)
      have harrayWord : word 4 = f.arraySize := hwords 4 (by simp [InfoWidth.pack, fieldInfo8])
      obtain ⟨⟨htag, hoffset, hso, hsize, harray⟩, htype, hlo, hhi, hpos⟩ := h
      simp only [PbFits, Nat.one_shiftLeft] at htag hso hsize harray
      apply unpackEntry_wide hwidth htag hsize htype hlo hhi hso hfirst
        (hwords 1 (by simp [InfoWidth.pack, fieldInfo8]))
        (hwords 2 (by simp [InfoWidth.pack, fieldInfo8]))
        (hwords 3 (by simp [InfoWidth.pack, fieldInfo8]))
      rw [harrayWord]
      exact (Nat.mod_eq_of_lt harray).symm

end OneEntry

/-! ## The list of fields -/

/-- The fields of a message as the generator emits them: entries that fit, in the order of their
tags, few enough for the indexes of the iterator. -/
structure FieldList where
  fields : List (InfoWidth × FieldInfo)
  encodable : ∀ f ∈ fields, Encodable f.1 f.2
  increasing : fields.Pairwise fun f g => f.2.tag < g.2.tag
  noExtension : ∀ f ∈ fields, ltype f.2.type ≠ ltypeExtension
  length_lt : (pbBind fields).fieldInfo.length < 2 ^ 16

/-- The words of all entries. -/
def words (fields : List (InfoWidth × FieldInfo)) : List ℕ :=
  fields.flatMap fun f => f.1.pack f.2

def required (fields : List (InfoWidth × FieldInfo)) : List (InfoWidth × FieldInfo) :=
  fields.filter fun f => htype f.2.type = htypeRequired

/-- An entry has as many words as its width says. -/
theorem length_pack (width : InfoWidth) (f : FieldInfo) :
    (width.pack f).length = 1 <<< InfoWidth.code width := by
  cases width <;> rfl

/-- An entry has at least one word. -/
theorem length_pack_pos (width : InfoWidth) (f : FieldInfo) : 0 < (width.pack f).length := by
  cases width <;> simp [InfoWidth.pack, fieldInfo1, fieldInfo2, fieldInfo4, fieldInfo8]

/-- So there are at least as many words as fields. -/
theorem length_le_words (fields : List (InfoWidth × FieldInfo)) :
    fields.length ≤ (words fields).length := by
  induction fields with
  | nil => simp
  | cons f fields ih =>
      have hpos := length_pack_pos f.1 f.2
      simp only [words, List.flatMap_cons, List.length_append, List.length_cons] at ih ⊢
      omega

section Positions

variable {fields : List (InfoWidth × FieldInfo)} {k : ℕ} {f : InfoWidth × FieldInfo}

/-- The fields up to the next one. -/
theorem take_succ_of_getElem? (hf : fields[k]? = some f) :
    fields.take (k + 1) = fields.take k ++ [f] := by
  rw [List.take_add_one, hf, Option.toList_some]

/-- The words before the next field. -/
theorem words_take_succ (hf : fields[k]? = some f) :
    (words (fields.take (k + 1))).length =
      (words (fields.take k)).length + (f.1.pack f.2).length := by
  simp [take_succ_of_getElem? hf, words]

/-- The words before a field are among all words. -/
theorem length_words_take_le (fields : List (InfoWidth × FieldInfo)) (k : ℕ) :
    (words (fields.take k)).length ≤ (words fields).length := by
  have hsplit : words fields = words (fields.take k) ++ words (fields.drop k) := by
    rw [words, words, words, ← List.flatMap_append, List.take_append_drop]
  rw [hsplit, List.length_append]
  omega

/-- The required fields before the next one. -/
theorem length_required_take_succ (hf : fields[k]? = some f) :
    (required (fields.take (k + 1))).length =
      (required (fields.take k)).length + if htype f.2.type = htypeRequired then 1 else 0 := by
  by_cases hrequired : htype f.2.type = htypeRequired
  · simp [take_succ_of_getElem? hf, required, hrequired]
  · simp [take_succ_of_getElem? hf, required, hrequired]

/-- There are no more of them than fields. -/
theorem length_required_take_le (fields : List (InfoWidth × FieldInfo)) (k : ℕ) :
    (required (fields.take k)).length ≤ fields.length :=
  (List.length_filter_le _ _).trans (List.length_take_le' k fields)

/-- The entry of a field stands in the descriptor after the entries before it. -/
theorem getD_entry (hf : fields[k]? = some f) {i : ℕ} (hi : i < (f.1.pack f.2).length) :
    (pbBind fields).fieldInfo.getD ((words (fields.take k)).length + i) 0 =
      (f.1.pack f.2).getD i 0 := by
  have hsplit : (pbBind fields).fieldInfo =
      words (fields.take k) ++ (f.1.pack f.2 ++ (words (fields.drop (k + 1)) ++ [0])) := by
    have hfields : fields = fields.take k ++ f :: fields.drop (k + 1) := by
      conv_lhs => rw [← List.take_append_drop (k + 1) fields, take_succ_of_getElem? hf]
      simp
    conv_lhs => rw [hfields]
    simp [pbBind, words]
  have hle : (words (fields.take k)).length ≤ (words (fields.take k)).length + i := by omega
  rw [hsplit, List.getD_eq_getElem?_getD, List.getD_eq_getElem?_getD,
    List.getElem?_append_right hle, Nat.add_sub_cancel_left, List.getElem?_append_left hi]

end Positions

/-! ## Standing at a field -/

/-- The indexes of the iterator are those of a field. -/
structure At (fields : List (InfoWidth × FieldInfo)) (k : ℕ) (iter : FieldIter) : Prop where
  index : iter.index = k
  fieldInfoIndex : iter.fieldInfoIndex = (words (fields.take k)).length
  requiredFieldIndex : iter.requiredFieldIndex = (required (fields.take k)).length

/-- The iterator at a field whose values are loaded. -/
def iterAt (fields : List (InfoWidth × FieldInfo)) (message k : ℕ) (f : FieldInfo) : FieldIter :=
  { FieldIter.zero with
    index := k
    fieldInfoIndex := (words (fields.take k)).length
    requiredFieldIndex := (required (fields.take k)).length }.place message f

/-- An iterator that was put at a field is there. -/
theorem iterAt_at (fields : List (InfoWidth × FieldInfo)) (message k : ℕ) (f : FieldInfo) :
    At fields k (iterAt fields message k f) :=
  ⟨rfl, rfl, rfl⟩

section OneStep

variable (l : FieldList) (message : ℕ) {k : ℕ} {f : InfoWidth × FieldInfo} {iter : FieldIter}

/-- The entry at its word index unpacks to its field. -/
theorem unpack_at (hf : l.fields[k]? = some f) :
    (pbBind l.fields).unpack (words (l.fields.take k)).length = f.2 := by
  have hencodable := l.encodable f (List.mem_of_getElem? hf)
  exact unpackEntry_pack hencodable fun i hi => getD_entry hf hi

/-- The word at its index is the first word of its field. -/
theorem entry_at (hf : l.fields[k]? = some f) (hat : At l.fields k iter) :
    (pbBind l.fields).fieldInfo.getD iter.fieldInfoIndex 0 =
      firstWord (InfoWidth.code f.1) (InfoWidth.high f.1 f.2) f.2 := by
  have hencodable := l.encodable f (List.mem_of_getElem? hf)
  have hfirst := getD_entry hf (length_pack_pos f.1 f.2)
  rw [hat.fieldInfoIndex, ← pack_getD_zero hencodable, ← hfirst, Nat.add_zero]

/-- Loading the values at a field puts the iterator there.
SOURCE: pb_common.c:8-120 -/
theorem loadDescriptorValues_at (hf : l.fields[k]? = some f) (hat : At l.fields k iter) :
    loadDescriptorValues (pbBind l.fields) message iter =
      (true, iterAt l.fields message k f.2) := by
  have hk : k < l.fields.length := (List.getElem?_eq_some_iff.mp hf).1
  have hcount : ¬(pbBind l.fields).fieldCount ≤ iter.index := by
    rw [hat.index]
    simpa [pbBind] using hk
  rw [loadDescriptorValues, if_neg hcount, hat.fieldInfoIndex, unpack_at l hf]
  simp [FieldIter.place, iterAt, hat.index, hat.fieldInfoIndex, hat.requiredFieldIndex]

/-- No index of the iterator overflows. -/
theorem length_lt_of_fieldList : l.fields.length + 1 < 2 ^ 16 := by
  have hlength := l.length_lt
  have hle := length_le_words l.fields
  have hwords : (pbBind l.fields).fieldInfo.length = (words l.fields).length + 1 := by
    simp [pbBind, words]
  omega

/-- Past the last field the iterator restarts. -/
theorem advanceIterator_restart (hend : l.fields.length ≤ iter.index + 1)
    (hindex : iter.index ≤ l.fields.length) :
    At l.fields 0 (advanceIterator (pbBind l.fields) iter) := by
  have hlt := length_lt_of_fieldList l
  have hsize : pbSize (iter.index + 1) = iter.index + 1 := Nat.mod_eq_of_lt (by omega)
  have hcount : (pbBind l.fields).fieldCount ≤ pbSize (iter.index + 1) := by
    rw [hsize]
    exact hend
  rw [advanceIterator, if_pos hcount]
  exact ⟨rfl, rfl, rfl⟩

/-- Advancing moves on to the next field.
SOURCE: pb_common.c:122-154 -/
theorem advanceIterator_at (hf : l.fields[k]? = some f) (hnext : k + 1 < l.fields.length)
    (hat : At l.fields k iter) :
    At l.fields (k + 1) (advanceIterator (pbBind l.fields) iter) := by
  have hlt := length_lt_of_fieldList l
  have hencodable := l.encodable f (List.mem_of_getElem? hf)
  have hentry := entry_at l hf hat
  have hsize : pbSize (iter.index + 1) = k + 1 := by
    rw [hat.index]
    exact Nat.mod_eq_of_lt (by omega)
  have hcount : ¬(pbBind l.fields).fieldCount ≤ pbSize (iter.index + 1) := by
    rw [hsize]
    exact Nat.not_le.mpr hnext
  have hwordsLe := length_words_take_le l.fields (k + 1)
  have hwords := words_take_succ hf
  have hrequiredLe := length_required_take_le l.fields (k + 1)
  have hrequired := length_required_take_succ hf
  have hall : (pbBind l.fields).fieldInfo.length = (words l.fields).length + 1 := by
    simp [pbBind, words]
  have htotal := l.length_lt
  rw [advanceIterator, if_neg hcount]
  simp only [hentry, firstWord_format rfl, firstWord_type hencodable.type_lt rfl, hsize]
  rw [← length_pack f.1 f.2, hat.fieldInfoIndex, hat.requiredFieldIndex]
  refine ⟨rfl, ?_, ?_⟩
  · show pbSize _ = _
    rw [hwords]
    simp only [pbSize]
    omega
  · show pbSize _ = _
    rw [hrequired]
    simp only [pbSize]
    omega

/-- `pb_field_iter_next` moves on and loads the values of the next field.
SOURCE: pb_common.c:188-193 -/
theorem fieldIterNext_at (hf : l.fields[k]? = some f) {g : InfoWidth × FieldInfo}
    (hg : l.fields[k + 1]? = some g) :
    fieldIterNext (pbBind l.fields) message (iterAt l.fields message k f.2) =
      (true, iterAt l.fields message (k + 1) g.2) := by
  have hnext : k + 1 < l.fields.length := (List.getElem?_eq_some_iff.mp hg).1
  have hadvanced := advanceIterator_at l hf hnext (iterAt_at l.fields message k f.2)
  rw [fieldIterNext, loadDescriptorValues_at l message hg hadvanced]
  simp [iterAt, FieldIter.place]

/-- After the last field the iterator is at the first again, and says so. -/
theorem fieldIterNext_last (hf : l.fields[k]? = some f) (hlast : k + 1 = l.fields.length)
    {g : InfoWidth × FieldInfo} (hg : l.fields[0]? = some g) :
    fieldIterNext (pbBind l.fields) message (iterAt l.fields message k f.2) =
      (false, iterAt l.fields message 0 g.2) := by
  have hk : k < l.fields.length := (List.getElem?_eq_some_iff.mp hf).1
  have hadvanced : At l.fields 0
      (advanceIterator (pbBind l.fields) (iterAt l.fields message k f.2)) := by
    apply advanceIterator_restart l
    · show l.fields.length ≤ k + 1
      omega
    · show k ≤ l.fields.length
      omega
  rw [fieldIterNext, loadDescriptorValues_at l message hg hadvanced]
  simp [iterAt, FieldIter.place]

/-- `pb_field_iter_begin` is at the first field.
SOURCE: pb_common.c:156-164 -/
theorem fieldIterBegin_at (hf : l.fields[0]? = some f) :
    fieldIterBegin (pbBind l.fields) message = (true, iterAt l.fields message 0 f.2) := by
  apply loadDescriptorValues_at l message hf
  exact ⟨rfl, by simp [FieldIter.zero, words], by simp [FieldIter.zero, required]⟩

end OneStep

/-! ## Searching -/

section Search

variable (l : FieldList) {message start tag : ℕ} {s : InfoWidth × FieldInfo}

/-- A loop over the fields of which no round ends the search but the one at the start. -/
def Misses (message start : ℕ) (loop : ℕ → FieldIter → Bool × FieldIter) : Prop :=
  ∀ {k f} rounds {iter}, l.fields[k]? = some f →
    At l.fields k (advanceIterator (pbBind l.fields) iter) → ∃ iter', At l.fields k iter' ∧
      loop (rounds + 1) iter =
        if k ≠ start then loop rounds iter' else (false, iterAt l.fields message k f.2)

variable {loop : ℕ → FieldIter → Bool × FieldIter} {l}

/-- A search that misses comes back to where it started. -/
theorem Misses.upTo_start (h : Misses l message start loop) (hs : l.fields[start]? = some s)
    {d : ℕ} : ∀ {k rounds iter}, k + d = start → d < rounds →
      At l.fields k (advanceIterator (pbBind l.fields) iter) →
      loop rounds iter = (false, iterAt l.fields message start s.2) := by
  have hlt : start < l.fields.length := (List.getElem?_eq_some_iff.mp hs).1
  induction d with
  | zero =>
      intro k rounds iter hk hrounds hat
      obtain rfl : k = start := hk
      obtain ⟨rounds, rfl⟩ : ∃ n, rounds = n + 1 := ⟨rounds - 1, by omega⟩
      obtain ⟨iter', -, hround⟩ := h rounds hs hat
      rw [hround, if_neg (not_not_intro rfl)]
  | succ d ih =>
      intro k rounds iter hk hrounds hat
      obtain ⟨rounds, rfl⟩ : ∃ n, rounds = n + 1 := ⟨rounds - 1, by omega⟩
      have hf : l.fields[k]? = some l.fields[k] := List.getElem?_eq_getElem (by omega)
      obtain ⟨iter', hat', hround⟩ := h rounds hf hat
      rw [hround, if_pos (by omega)]
      exact ih (by omega) (by omega) (advanceIterator_at l hf (by omega) hat')

/-- From a field after the start the search passes the end of the list. -/
theorem Misses.around (h : Misses l message start loop) (hs : l.fields[start]? = some s)
    {d : ℕ} : ∀ {k rounds iter}, start < k → k + d + 1 = l.fields.length →
      d + 1 + start < rounds → At l.fields k (advanceIterator (pbBind l.fields) iter) →
      loop rounds iter = (false, iterAt l.fields message start s.2) := by
  induction d with
  | zero =>
      intro k rounds iter hk hend hrounds hat
      obtain ⟨rounds, rfl⟩ : ∃ n, rounds = n + 1 := ⟨rounds - 1, by omega⟩
      have hf : l.fields[k]? = some l.fields[k] := List.getElem?_eq_getElem (by omega)
      obtain ⟨iter', hat', hround⟩ := h rounds hf hat
      rw [hround, if_pos (by omega)]
      have hrestart : At l.fields 0 (advanceIterator (pbBind l.fields) iter') :=
        advanceIterator_restart l (by rw [hat'.index]; omega) (by rw [hat'.index]; omega)
      exact h.upTo_start hs (Nat.zero_add start) (by omega) hrestart
  | succ d ih =>
      intro k rounds iter hk hend hrounds hat
      obtain ⟨rounds, rfl⟩ : ∃ n, rounds = n + 1 := ⟨rounds - 1, by omega⟩
      have hf : l.fields[k]? = some l.fields[k] := List.getElem?_eq_getElem (by omega)
      obtain ⟨iter', hat', hround⟩ := h rounds hf hat
      rw [hround, if_pos (by omega)]
      exact ih (by omega) (by omega) (by omega) (advanceIterator_at l hf (by omega) hat')

/-- A loop that misses everywhere ends where it began. -/
theorem Misses.returns (h : Misses l message start loop) (hs : l.fields[start]? = some s)
    {rounds : ℕ} (hrounds : l.fields.length < rounds) {iter : FieldIter}
    (hat : At l.fields start iter) :
    loop rounds iter = (false, iterAt l.fields message start s.2) := by
  have hlt : start < l.fields.length := (List.getElem?_eq_some_iff.mp hs).1
  by_cases hlast : start + 1 = l.fields.length
  · have hrestart : At l.fields 0 (advanceIterator (pbBind l.fields) iter) :=
      advanceIterator_restart l (by rw [hat.index]; omega) (by rw [hat.index]; omega)
    exact h.upTo_start hs (Nat.zero_add start) (by omega) hrestart
  · have hnext := advanceIterator_at l hs (by omega) hat
    obtain ⟨d, hd⟩ : ∃ d, start + 1 + d + 1 = l.fields.length :=
      ⟨l.fields.length - start - 2, by omega⟩
    exact h.around hs (by omega) hd (by omega) hnext

/-! ### The search for a tag -/

/-- A round at the field with the tag ends the search there. -/
theorem findLoop_hit {k : ℕ} {f : InfoWidth × FieldInfo} (rounds : ℕ) {iter : FieldIter}
    (hf : l.fields[k]? = some f) (htag : f.2.tag = tag)
    (hat : At l.fields k (advanceIterator (pbBind l.fields) iter)) :
    findLoop (pbBind l.fields) message tag start (rounds + 1) iter =
      (true, iterAt l.fields message k f.2) := by
  have hext : ltype (iterAt l.fields message k f.2).type ≠ ltypeExtension :=
    l.noExtension f (List.mem_of_getElem? hf)
  have hloadedTag : (iterAt l.fields message k f.2).tag = tag := htag
  rw [findLoop]
  simp only [entry_at l hf hat, firstWord_tag rfl, and_0x3F, htag, if_true,
    loadDescriptorValues_at l message hf hat, hloadedTag, true_and, if_pos hext]

/-- A round at a field with another tag goes on, with or without that field's values. -/
theorem findLoop_miss (message start : ℕ) {k : ℕ} {f : InfoWidth × FieldInfo} (rounds : ℕ)
    {iter : FieldIter} (hf : l.fields[k]? = some f) (htag : f.2.tag ≠ tag)
    (hat : At l.fields k (advanceIterator (pbBind l.fields) iter)) :
    ∃ iter', At l.fields k iter' ∧
      findLoop (pbBind l.fields) message tag start (rounds + 1) iter =
        if k ≠ start then findLoop (pbBind l.fields) message tag start rounds iter'
        else (false, iterAt l.fields message k f.2) := by
  have hne : (iterAt l.fields message k f.2).tag ≠ tag := htag
  have hloaded := loadDescriptorValues_at l message hf hat
  rw [findLoop]
  simp only [entry_at l hf hat, firstWord_tag rfl, and_0x3F]
  by_cases hcandidate : f.2.tag % 64 = tag % 64
  · refine ⟨iterAt l.fields message k f.2, iterAt_at _ _ _ _, ?_⟩
    have hreloaded := loadDescriptorValues_at l message hf
      (iterAt_at l.fields message k f.2)
    simp only [if_pos hcandidate, hloaded, hne, false_and, and_false, if_false, hreloaded]
    rfl
  · refine ⟨advanceIterator (pbBind l.fields) iter, hat, ?_⟩
    simp only [hcandidate, if_false, false_and, hloaded, hat.index]

/-- The fields are sorted by their tags. -/
theorem tag_lt_of_lt {i j : ℕ} {f g : InfoWidth × FieldInfo} (hij : i < j)
    (hf : l.fields[i]? = some f) (hg : l.fields[j]? = some g) : f.2.tag < g.2.tag := by
  obtain ⟨hi, rfl⟩ := List.getElem?_eq_some_iff.mp hf
  obtain ⟨hj, rfl⟩ := List.getElem?_eq_some_iff.mp hg
  exact List.pairwise_iff_getElem.mp l.increasing i j hi hj hij

/-- From a field before it, without the start in between, the search reaches the field with the
tag. -/
theorem findLoop_reaches {j : ℕ} {g : InfoWidth × FieldInfo} (hg : l.fields[j]? = some g)
    (htag : g.2.tag = tag) {d : ℕ} : ∀ {k rounds iter}, k + d = j → d < rounds →
      (start < k ∨ j ≤ start) → At l.fields k (advanceIterator (pbBind l.fields) iter) →
      findLoop (pbBind l.fields) message tag start rounds iter =
        (true, iterAt l.fields message j g.2) := by
  have hlt : j < l.fields.length := (List.getElem?_eq_some_iff.mp hg).1
  induction d with
  | zero =>
      intro k rounds iter hk hrounds hstart hat
      obtain rfl : k = j := hk
      obtain ⟨rounds, rfl⟩ : ∃ n, rounds = n + 1 := ⟨rounds - 1, by omega⟩
      exact findLoop_hit rounds hg htag hat
  | succ d ih =>
      intro k rounds iter hk hrounds hstart hat
      obtain ⟨rounds, rfl⟩ : ∃ n, rounds = n + 1 := ⟨rounds - 1, by omega⟩
      have hf : l.fields[k]? = some l.fields[k] := List.getElem?_eq_getElem (by omega)
      have hbelow := tag_lt_of_lt (by omega : k < j) hf hg
      obtain ⟨iter', hat', hround⟩ := findLoop_miss message start rounds hf
        (by omega : l.fields[k].2.tag ≠ tag) hat
      rw [hround, if_pos (by omega)]
      exact ih (by omega) (by omega) (by omega) (advanceIterator_at l hf (by omega) hat')

/-- No field is above the largest tag. -/
theorem le_largestTag {f : InfoWidth × FieldInfo} (hf : f ∈ l.fields) :
    f.2.tag ≤ (pbBind l.fields).largestTag := by
  have hincreasing := l.increasing
  simp only [pbBind]
  rcases List.eq_nil_or_concat l.fields with hnil | ⟨init, last, hconcat⟩
  · rw [hnil] at hf
    simp at hf
  · rw [hconcat, List.concat_eq_append] at hf hincreasing ⊢
    have hbelow := (List.pairwise_append.mp hincreasing).2.2
    rw [List.foldl_append]
    simp only [List.foldl_cons, List.foldl_nil]
    rcases List.mem_append.mp hf with hinit | hlast
    · have hlt := hbelow f hinit last (by simp)
      omega
    · rw [List.mem_singleton.mp hlast]
      omega

/-- **A listed tag is found** from every field. -/
theorem fieldIterFind_listed {k j : ℕ} {f g : InfoWidth × FieldInfo}
    (hf : l.fields[k]? = some f) (hg : l.fields[j]? = some g) (htag : g.2.tag = tag) :
    fieldIterFind (pbBind l.fields) message tag (iterAt l.fields message k f.2) =
      (true, iterAt l.fields message j g.2) := by
  have hk : k < l.fields.length := (List.getElem?_eq_some_iff.mp hf).1
  have hj : j < l.fields.length := (List.getElem?_eq_some_iff.mp hg).1
  have hlargest := le_largestTag (List.mem_of_getElem? hg)
  have hcurrent : (iterAt l.fields message k f.2).tag = f.2.tag := rfl
  have hindex : (iterAt l.fields message k f.2).index = k := rfl
  rw [fieldIterFind, hcurrent, hindex, if_neg (by omega : ¬(pbBind l.fields).largestTag < tag)]
  obtain hkj | rfl | hjk := Nat.lt_trichotomy k j
  · have hlt := tag_lt_of_lt hkj hf hg
    have hat := advanceIterator_at l hf (by omega) (iterAt_at l.fields message k f.2)
    rw [if_neg (by omega), if_neg (by omega)]
    obtain ⟨d, hd⟩ : ∃ d, k + 1 + d = j := ⟨j - (k + 1), by omega⟩
    exact findLoop_reaches hg htag hd (by show d < l.fields.length + 1; omega) (by omega) hat
  · obtain rfl : f = g := by
      rw [hf] at hg
      exact Option.some.inj hg
    rw [if_pos htag]
  · have hlt := tag_lt_of_lt hjk hg hf
    rw [if_neg (by omega), if_pos (by omega)]
    apply findLoop_reaches hg htag (Nat.zero_add j)
    · show j < l.fields.length + 1
      omega
    · omega
    · apply advanceIterator_restart l
      · show l.fields.length ≤ l.fields.length + 1
        omega
      · exact le_refl l.fields.length

/-- **A tag that is not listed is not found**, and the iterator is where it was. -/
theorem fieldIterFind_unlisted {k : ℕ} {f : InfoWidth × FieldInfo}
    (hf : l.fields[k]? = some f) (hnone : ∀ g ∈ l.fields, g.2.tag ≠ tag) :
    fieldIterFind (pbBind l.fields) message tag (iterAt l.fields message k f.2) =
      (false, iterAt l.fields message k f.2) := by
  have hk : k < l.fields.length := (List.getElem?_eq_some_iff.mp hf).1
  have hne : f.2.tag ≠ tag := hnone f (List.mem_of_getElem? hf)
  have hcurrent : (iterAt l.fields message k f.2).tag = f.2.tag := rfl
  have hindex : (iterAt l.fields message k f.2).index = k := rfl
  have hmisses : Misses l message k (findLoop (pbBind l.fields) message tag k) := by
    intro i g rounds iter hg hat
    exact findLoop_miss message k rounds hg (hnone g (List.mem_of_getElem? hg)) hat
  rw [fieldIterFind, hcurrent, hindex, if_neg hne]
  by_cases hlargest : (pbBind l.fields).largestTag < tag
  · rw [if_pos hlargest]
  · rw [if_neg hlargest]
    by_cases hbelow : tag < f.2.tag
    · rw [if_pos hbelow]
      apply hmisses.upTo_start hf (Nat.zero_add k)
      · show k < l.fields.length + 1
        omega
      · apply advanceIterator_restart l
        · show l.fields.length ≤ l.fields.length + 1
          omega
        · exact le_refl l.fields.length
    · rw [if_neg hbelow]
      exact hmisses.returns hf (Nat.lt_succ_self _) (iterAt_at l.fields message k f.2)

/-- Without extension fields the search for one comes back. -/
theorem fieldIterFindExtension_eq {k : ℕ} {f : InfoWidth × FieldInfo}
    (hf : l.fields[k]? = some f) :
    fieldIterFindExtension (pbBind l.fields) message (iterAt l.fields message k f.2) =
      (false, iterAt l.fields message k f.2) := by
  have hindex : (iterAt l.fields message k f.2).index = k := rfl
  have hext : ¬ltype (iterAt l.fields message k f.2).type = ltypeExtension :=
    l.noExtension f (List.mem_of_getElem? hf)
  have hmisses : Misses l message k (findExtensionLoop (pbBind l.fields) message k) := by
    intro i g rounds iter hg hat
    have hmem := List.mem_of_getElem? hg
    have htype := firstWord_type (l.encodable g hmem).type_lt (entry_at l hg hat)
    refine ⟨advanceIterator (pbBind l.fields) iter, hat, ?_⟩
    rw [findExtensionLoop]
    simp only [htype, l.noExtension g hmem, if_false, hat.index,
      loadDescriptorValues_at l message hg hat]
  rw [fieldIterFindExtension, if_neg hext, hindex]
  exact hmisses.returns hf (Nat.lt_succ_self _) (iterAt_at l.fields message k f.2)

end Search

/-! ## Runs -/

/-- The calls of the iterator that a decoder or an encoder makes. -/
inductive Call where
  | next
  | find (tag : ℕ)
  | findExtension

/-- The result and the iterator after a call. -/
def call (desc : MsgDesc) (message : ℕ) (iter : FieldIter) : Call → Bool × FieldIter
  | .next => fieldIterNext desc message iter
  | .find tag => fieldIterFind desc message tag iter
  | .findExtension => fieldIterFindExtension desc message iter

/-- `pb_field_iter_begin`, and any calls after it. -/
def run (desc : MsgDesc) (message : ℕ) (calls : List Call) : FieldIter :=
  calls.foldl (fun iter c => (call desc message iter c).2) (fieldIterBegin desc message).2

section Runs

variable (l : FieldList) (message : ℕ)

/-- Any call leaves the iterator at some field. -/
theorem call_at {k : ℕ} {f : InfoWidth × FieldInfo} (hf : l.fields[k]? = some f) (c : Call) :
    ∃ j g, l.fields[j]? = some g ∧
      (call (pbBind l.fields) message (iterAt l.fields message k f.2) c).2 =
        iterAt l.fields message j g.2 := by
  have hk : k < l.fields.length := (List.getElem?_eq_some_iff.mp hf).1
  cases c with
  | next =>
      by_cases hlast : k + 1 = l.fields.length
      · have hfirst : l.fields[0]? = some l.fields[0] := List.getElem?_eq_getElem (by omega)
        exact ⟨0, _, hfirst, by rw [call, fieldIterNext_last l message hf hlast hfirst]⟩
      · have hnext : l.fields[k + 1]? = some l.fields[k + 1] :=
          List.getElem?_eq_getElem (by omega)
        exact ⟨k + 1, _, hnext, by rw [call, fieldIterNext_at l message hf hnext]⟩
  | find tag =>
      by_cases hlisted : ∃ g ∈ l.fields, g.2.tag = tag
      · obtain ⟨g, hmem, htag⟩ := hlisted
        obtain ⟨j, hg⟩ := List.getElem?_of_mem hmem
        exact ⟨j, g, hg, by rw [call, fieldIterFind_listed hf hg htag]⟩
      · have hnone : ∀ g ∈ l.fields, g.2.tag ≠ tag := fun g hg htag => hlisted ⟨g, hg, htag⟩
        exact ⟨k, f, hf, by rw [call, fieldIterFind_unlisted hf hnone]⟩
  | findExtension => exact ⟨k, f, hf, by rw [call, fieldIterFindExtension_eq hf]⟩

/-- After any calls the iterator stands at a field of the list, with that field's values. -/
theorem run_at (hne : l.fields ≠ []) (calls : List Call) :
    ∃ k f, l.fields[k]? = some f ∧
      run (pbBind l.fields) message calls = iterAt l.fields message k f.2 := by
  induction calls using List.reverseRecOn with
  | nil =>
      have hpos : 0 < l.fields.length := List.length_pos_iff.mpr hne
      have hfirst : l.fields[0]? = some l.fields[0] := List.getElem?_eq_getElem hpos
      exact ⟨0, _, hfirst, by rw [run, List.foldl_nil, fieldIterBegin_at l message hfirst]⟩
  | append_singleton calls c ih =>
      obtain ⟨k, f, hf, hrun⟩ := ih
      obtain ⟨j, g, hg, hcall⟩ := call_at l message hf c
      refine ⟨j, g, hg, ?_⟩
      rw [run, List.foldl_append, List.foldl_cons, List.foldl_nil, ← hcall, ← hrun]
      rfl

/-- **Whatever calls came before, a search ends at the field with the tag, with the values the
entry was made from, and only where there is none does it fail, leaving the iterator as it was.** -/
theorem find_locates (hne : l.fields ≠ []) (calls : List Call) (tag : ℕ) :
    (∀ j g, l.fields[j]? = some g → g.2.tag = tag →
      fieldIterFind (pbBind l.fields) message tag (run (pbBind l.fields) message calls) =
        (true, iterAt l.fields message j g.2)) ∧
    ((∀ g ∈ l.fields, g.2.tag ≠ tag) →
      fieldIterFind (pbBind l.fields) message tag (run (pbBind l.fields) message calls) =
        (false, run (pbBind l.fields) message calls)) := by
  obtain ⟨k, f, hf, hrun⟩ := run_at l message hne calls
  rw [hrun]
  constructor
  · intro j g hg htag
    exact fieldIterFind_listed hf hg htag
  · intro hnone
    exact fieldIterFind_unlisted hf hnone

/-- The field list of the mesh message.
SOURCE: mesh.pb.h:62-74 -/
def meshFieldList : FieldList where
  fields := meshFields
  encodable := by
    intro f hf
    simp only [meshFields, List.mem_cons, List.not_mem_nil, or_false] at hf
    obtain rfl | rfl | rfl | rfl | rfl | rfl | rfl | rfl | rfl | rfl | rfl := hf <;>
      exact ⟨⟨by decide, by decide, by decide, by decide, by decide⟩, by decide, by decide,
        by decide, by decide⟩
  increasing := by decide
  noExtension := by decide
  length_lt := by decide

/-- Tag 6 after a search that failed: the search goes round. -/
theorem find_locates_meshMessage :
    fieldIterFind meshMessageMsg 4096 6 (run meshMessageMsg 4096 [.find 11, .next, .find 12]) =
      (true, iterAt meshFields 4096 5 (optional ltypeBytes .data .hasData 6).2) :=
  (find_locates meshFieldList 4096 (List.cons_ne_nil _ _) [.find 11, .next, .find 12] 6).1 5
    (optional ltypeBytes .data .hasData 6) rfl rfl

end Runs

end LatticeNodes.Analysis.NanopbIterator
