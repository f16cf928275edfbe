import LatticeNodes.Analysis.NanopbIterator
import LatticeNodes.Program.NanopbEngine

/-!
# Decoding stays inside the message

Whatever bytes `pb_decode` is given, and whether it accepts them or fails half way, it writes
only the members of the struct that the descriptor names and their `has_` flags:
`decode_confined`.  One lemma for each value decoder says that it writes inside its member, and
the loops keep it.
-/

set_option autoImplicit false

namespace LatticeNodes.Analysis.NanopbMemory

open LatticeNodes.Program LatticeNodes.Program.PbEngine NanopbIterator ByteMemory WireFormat

/-! ## Values -/

/-- The bytes of the member a field is stored in. -/
def Spans (field : FieldIter) (a : ℕ) : Prop :=
  field.pField ≤ a ∧ a < field.pField + field.dataSize

/-- The bytes of a field and its flag. -/
def Owns (field : FieldIter) (a : ℕ) : Prop :=
  Spans field a ∨ field.pSize = some a

section Values

variable {field : FieldIter} (m : Mem) (stream : List UInt8)

/-- Bytes that fit in a field stay in it. -/
theorem write_spans {bytes : List UInt8} (h : bytes.length ≤ field.dataSize) :
    Confined (Spans field) m (write m field.pField bytes) := by
  apply Confined.write
  intro a hlo hhi
  exact ⟨hlo, by omega⟩

/-- A read returns as many bytes as were asked for. -/
theorem length_of_read {stream rest bytes : List UInt8} {count : ℕ}
    (h : Pb.read stream count = some (bytes, rest)) : bytes.length = count := by
  rw [Pb.read] at h
  split at h
  · rename_i hle
    simp only [Option.some.injEq, Prod.mk.injEq] at h
    rw [← h.1, List.length_take]
    omega
  · exact absurd h (by simp)

/-- A boolean is written into its member.
SOURCE: pb_decode.c:1420-1423 -/
theorem decBool_confined (hsize : 1 ≤ field.dataSize) :
    Confined (Spans field) m (decBool field m stream).1 := by
  unfold decBool
  split
  · exact Confined.refl _ _
  · exact write_spans m hsize

/-- A varint is written into its member, in the size of the member.
SOURCE: pb_decode.c:1425-1495 -/
theorem decVarint_confined : Confined (Spans field) m (decVarint field m stream).1 := by
  unfold decVarint
  split
  · exact Confined.refl _ _
  · by_cases hinteger : ¬isIntegerSize field.dataSize
    · rw [if_pos hinteger]
      exact Confined.refl _ _
    · rw [if_neg hinteger]
      by_cases hunsigned : ltype field.type = ltypeUvarint
      · rw [if_pos hunsigned]
        exact write_spans m (by simp)
      · rw [if_neg hunsigned]
        exact write_spans m (by simp)

/-- A number of fixed width is written into its member. -/
theorem decodeFixed_confined {size : ℕ} (hsize : size ≤ field.dataSize) :
    Confined (Spans field) m (decodeFixed size field m stream).1 := by
  unfold decodeFixed
  split
  · exact Confined.refl _ _
  · rename_i hread
    have hlength := length_of_read hread
    exact write_spans m (by omega)

/-- The size and the bytes both lie in the member: the size is checked before either is
stored. -/
theorem decBytes_confined : Confined (Spans field) m (decBytes field m stream).1 := by
  unfold decBytes
  split
  · exact Confined.refl _ _
  · rename_i size rest _
    split_ifs with hmax hroom
    · exact Confined.refl _ _
    · exact Confined.refl _ _
    · have hsize : Confined (Spans field) m (write m field.pField (littleEndian 2 size)) :=
        write_spans m (by rw [length_littleEndian]; omega)
      dsimp only
      split
      · exact hsize
      · rename_i bytes _ hread
        have hlength := length_of_read hread
        apply hsize.trans
        apply Confined.write
        intro a hlo hhi
        exact ⟨by omega, by omega⟩

/-- A string is written into its member, its end included.
SOURCE: pb_decode.c:1537-1585 -/
theorem decString_confined : Confined (Spans field) m (decString field m stream).1 := by
  unfold decString
  split
  · exact Confined.refl _ _
  · rename_i size rest _
    split_ifs with hmax hroom
    · exact Confined.refl _ _
    · exact Confined.refl _ _
    · have hterminator : Confined (Spans field) m (write m (field.pField + size) [0]) := by
        apply Confined.write
        intro a hlo hhi
        simp only [List.length_singleton] at hhi
        exact ⟨by omega, by omega⟩
      dsimp only
      split
      · exact hterminator
      · rename_i bytes _ hread
        have hlength := length_of_read hread
        exact hterminator.trans (write_spans _ (by omega))

/-- Bytes of fixed length are written into their member.
SOURCE: pb_decode.c:1639-1660 -/
theorem decFixedLengthBytes_confined :
    Confined (Spans field) m (decFixedLengthBytes field m stream).1 := by
  unfold decFixedLengthBytes
  split
  · exact Confined.refl _ _
  · split_ifs
    · exact Confined.refl _ _
    · exact write_spans m (by simp)
    · exact Confined.refl _ _
    · split
      · exact Confined.refl _ _
      · rename_i hread
        have hlength := length_of_read hread
        exact write_spans m (by omega)

end Values

/-! ## Fields -/

/-- A field the engine models: static, optional or singular, in a member that holds a value of its
type. -/
structure Scalar (type dataSize : ℕ) : Prop where
  static : atype type = atypeStatic
  optional : htype type = htypeOptional
  bool_size : ltype type = ltypeBool → 1 ≤ dataSize
  fixed32_size : ltype type = ltypeFixed32 → 4 ≤ dataSize
  fixed64_size : ltype type = ltypeFixed64 → 8 ≤ dataSize

section Fields

variable {field : FieldIter}

/-- **A scalar value is written into its member only.**
SOURCE: pb_decode.c:396-465 -/
theorem decodeBasicField_confined (hf : Scalar field.type field.dataSize) (wireType : ℕ)
    (m : Mem) (stream : List UInt8) :
    Confined (Spans field) m (decodeBasicField wireType field m stream).1 := by
  unfold decodeBasicField
  split_ifs with hbool _ hvarint _ h32 _ h64 _ hbytes _ hstring _ hfixed
  · exact Confined.refl _ _
  · exact decBool_confined m stream (hf.bool_size hbool)
  · exact Confined.refl _ _
  · exact decVarint_confined m stream
  · exact Confined.refl _ _
  · exact decodeFixed_confined m stream (hf.fixed32_size h32)
  · exact Confined.refl _ _
  · exact decodeFixed_confined m stream (hf.fixed64_size h64)
  · exact Confined.refl _ _
  · exact decBytes_confined m stream
  · exact Confined.refl _ _
  · exact decString_confined m stream
  · exact Confined.refl _ _
  · exact decFixedLengthBytes_confined m stream
  · exact Confined.refl _ _

/-- The flag of a field belongs to it. -/
theorem write_flag (m : Mem) {flag : ℕ} (hflag : field.pSize = some flag) (b : UInt8) :
    Confined (Owns field) m (write m flag [b]) := by
  apply Confined.write
  intro a hlo hhi
  simp only [List.length_singleton] at hhi
  obtain rfl : a = flag := by omega
  exact .inr hflag

/-- A field writes its member and its flag only.
SOURCE: pb_decode.c:467-555 -/
theorem decodeField_confined (hf : Scalar field.type field.dataSize) (wireType : ℕ) (m : Mem)
    (stream : List UInt8) : Confined (Owns field) m (decodeField wireType field m stream).1 := by
  have hrequired : ¬htypeOptional = htypeRequired := by decide
  rw [decodeField, if_pos hf.static, decodeStaticField, hf.optional, if_neg hrequired, if_pos rfl]
  cases hflag : field.pSize with
  | none => exact (decodeBasicField_confined hf wireType m stream).mono fun _ => Or.inl
  | some flag =>
      apply (write_flag m hflag 1).trans
      exact (decodeBasicField_confined hf wireType _ stream).mono fun _ => Or.inl

/-- The default of a field writes its member and its flag only.
SOURCE: pb_decode.c:869-949 -/
theorem fieldSetToDefault_confined (hf : Scalar field.type field.dataSize) (m : Mem) :
    Confined (Owns field) m (fieldSetToDefault field m) := by
  have hzeros : ∀ m : Mem, Confined (Owns field) m
      (write m field.pField (List.replicate field.dataSize 0)) := by
    intro m
    exact (write_spans m (by simp)).mono fun _ => Or.inl
  rw [fieldSetToDefault, if_pos hf.static]
  cases hflag : field.pSize with
  | none => exact hzeros m
  | some flag =>
      dsimp only
      rw [if_pos hf.optional]
      exact (write_flag m hflag 0).trans (hzeros _)

end Fields

/-! ## The loops -/

/-- The bytes of the fields of a list and of their flags. -/
def OwnedBy (fields : List (InfoWidth × FieldInfo)) (message a : ℕ) : Prop :=
  ∃ k f, fields[k]? = some f ∧ Owns (iterAt fields message k f.2) a

section Loops

variable {l : FieldList} (hscalar : ∀ f ∈ l.fields, Scalar f.2.type f.2.dataSize) (message : ℕ)

/-- The default of any field of the descriptor stays in the struct.
SOURCE: pb_decode.c:869-949 -/
theorem fieldSetToDefault_ownedBy (hscalar : ∀ f ∈ l.fields, Scalar f.2.type f.2.dataSize)
    {k : ℕ} {f : InfoWidth × FieldInfo} (hf : l.fields[k]? = some f) (m : Mem) :
    Confined (OwnedBy l.fields message) m
      (fieldSetToDefault (iterAt l.fields message k f.2) m) := by
  have hfield : Scalar (iterAt l.fields message k f.2).type
      (iterAt l.fields message k f.2).dataSize := hscalar f (List.mem_of_getElem? hf)
  exact (fieldSetToDefault_confined hfield m).mono fun _ ha => ⟨k, f, hf, ha⟩

/-- The value of any field of the descriptor stays in the struct.
SOURCE: pb_decode.c:467-555 -/
theorem decodeField_ownedBy (hscalar : ∀ f ∈ l.fields, Scalar f.2.type f.2.dataSize)
    {k : ℕ} {f : InfoWidth × FieldInfo} (hf : l.fields[k]? = some f) (wireType : ℕ) (m : Mem)
    (stream : List UInt8) :
    Confined (OwnedBy l.fields message) m
      (decodeField wireType (iterAt l.fields message k f.2) m stream).1 := by
  have hfield : Scalar (iterAt l.fields message k f.2).type
      (iterAt l.fields message k f.2).dataSize := hscalar f (List.mem_of_getElem? hf)
  exact (decodeField_confined hfield wireType m stream).mono fun _ ha => ⟨k, f, hf, ha⟩

/-- Two decoders in a row stay where each does. -/
theorem Confined.andThen {allowed : ℕ → Prop} {m : Mem} {d : Decoded}
    {next : Mem → List UInt8 → Decoded} (hd : Confined allowed m d.1)
    (hnext : ∀ m stream, Confined allowed m (next m stream).1) :
    Confined allowed m (d.andThen next).1 := by
  obtain ⟨m', rest⟩ := d
  cases rest with
  | none => exact hd
  | some stream => exact hd.trans (hnext m' stream)

/-! ### One round -/

section Round

variable {rounds k temp : ℕ} {searched : Bool} {f : InfoWidth × FieldInfo} {m : Mem} {b : UInt8}
  {stream rest : List UInt8}

/-- A listed field is decoded at its place in the struct. -/
theorem decodeLoop_listed (hf : l.fields[k]? = some f)
    (hkey : Pb.decodeVarint32 (b :: stream) = some (temp, rest)) (hzero : temp >>> 3 ≠ 0) {j : ℕ}
    {g : InfoWidth × FieldInfo} (hg : l.fields[j]? = some g) (htag : g.2.tag = temp >>> 3) :
    decodeLoop (pbBind l.fields) message (rounds + 1) searched (iterAt l.fields message k f.2) m
        (b :: stream) =
      (decodeField (temp &&& 7) (iterAt l.fields message j g.2) m rest).andThen fun m stream =>
        decodeLoop (pbBind l.fields) message rounds searched (iterAt l.fields message j g.2) m
          stream := by
  have hext : ¬ltype (iterAt l.fields message j g.2).type = ltypeExtension :=
    l.noExtension g (List.mem_of_getElem? hg)
  rw [decodeLoop, hkey]
  simp only [if_neg hzero, fieldIterFind_listed hf hg htag, hext, or_false, not_true_eq_false,
    if_false]

/-- An unlisted field is skipped, and leaves the iterator where it was. -/
theorem decodeLoop_unlisted (hf : l.fields[k]? = some f)
    (hkey : Pb.decodeVarint32 (b :: stream) = some (temp, rest)) (hzero : temp >>> 3 ≠ 0)
    (hnone : ∀ g ∈ l.fields, g.2.tag ≠ temp >>> 3) :
    decodeLoop (pbBind l.fields) message (rounds + 1) searched (iterAt l.fields message k f.2) m
        (b :: stream) =
      Decoded.andThen (m, Pb.skipField (temp &&& 7) rest) fun m stream =>
        decodeLoop (pbBind l.fields) message rounds true (iterAt l.fields message k f.2) m
          stream := by
  rw [decodeLoop, hkey]
  simp only [if_neg hzero, fieldIterFind_unlisted hf hnone, Bool.false_eq_true, not_false_eq_true,
    true_or, if_true, fieldIterFindExtension_eq hf, ite_self]

end Round

/-! ### Runs -/

include hscalar

/-- All defaults of the descriptor stay in the struct.
SOURCE: pb_decode.c:951-984 -/
theorem messageSetToDefaults_confined {rounds : ℕ} : ∀ {k : ℕ} {f : InfoWidth × FieldInfo}
    (m : Mem), l.fields[k]? = some f → k + rounds = l.fields.length →
    ∃ g, l.fields[0]? = some g ∧
      (messageSetToDefaults (pbBind l.fields) message rounds (iterAt l.fields message k f.2) m).1 =
        iterAt l.fields message 0 g.2 ∧
      Confined (OwnedBy l.fields message) m
        (messageSetToDefaults (pbBind l.fields) message rounds
          (iterAt l.fields message k f.2) m).2 := by
  induction rounds with
  | zero =>
      intro k f m hf hrounds
      have hk : k < l.fields.length := (List.getElem?_eq_some_iff.mp hf).1
      omega
  | succ rounds ih =>
      intro k f m hf hrounds
      have hfirst : l.fields[0]? = some l.fields[0] := List.getElem?_eq_getElem (by omega)
      have hset := fieldSetToDefault_ownedBy message hscalar hf m
      rw [messageSetToDefaults]
      by_cases hlast : k + 1 = l.fields.length
      · rw [fieldIterNext_last l message hf hlast hfirst]
        exact ⟨_, hfirst, rfl, hset⟩
      · have hnext : l.fields[k + 1]? = some l.fields[k + 1] :=
          List.getElem?_eq_getElem (by omega)
        rw [fieldIterNext_at l message hf hnext]
        obtain ⟨g, hg, hiter, hrest⟩ := ih _ hnext (by omega)
        exact ⟨g, hg, hiter, hset.trans hrest⟩

/-- The whole loop stays in the struct, from any position of its iterator.
SOURCE: pb_decode.c:990-1152 -/
theorem decodeLoop_confined {rounds : ℕ} : ∀ {searched : Bool} {k : ℕ}
    {f : InfoWidth × FieldInfo} (m : Mem) (stream : List UInt8), l.fields[k]? = some f →
    Confined (OwnedBy l.fields message) m
      (decodeLoop (pbBind l.fields) message rounds searched (iterAt l.fields message k f.2) m
        stream).1 := by
  induction rounds with
  | zero =>
      intro searched k f m stream hf
      cases stream <;> exact Confined.refl _ _
  | succ rounds ih =>
      intro searched k f m stream hf
      cases stream with
      | nil => exact Confined.refl _ _
      | cons b stream =>
          cases hkey : Pb.decodeVarint32 (b :: stream) with
          | none =>
              rw [decodeLoop, hkey]
              exact Confined.refl _ _
          | some keyed =>
              obtain ⟨temp, rest⟩ := keyed
              by_cases hzero : temp >>> 3 = 0
              · rw [decodeLoop, hkey]
                simp only [hzero, if_true]
                exact Confined.refl _ _
              by_cases hlisted : ∃ g ∈ l.fields, g.2.tag = temp >>> 3
              · obtain ⟨g, hmem, htag⟩ := hlisted
                obtain ⟨j, hg⟩ := List.getElem?_of_mem hmem
                rw [decodeLoop_listed message hf hkey hzero hg htag]
                apply Confined.andThen (decodeField_ownedBy message hscalar hg (temp &&& 7) m rest)
                intro m stream
                exact ih m stream hg
              · have hnone : ∀ g ∈ l.fields, g.2.tag ≠ temp >>> 3 :=
                  fun g hg htag => hlisted ⟨g, hg, htag⟩
                rw [decodeLoop_unlisted message hf hkey hzero hnone]
                apply Confined.andThen (Confined.refl _ m)
                intro m stream
                exact ih m stream hf

/-- **Decoding writes nothing but the fields of the message and their flags**, whatever the bytes
are and whether they are accepted or not. -/
theorem decode_confined (hne : l.fields ≠ []) (m : Mem) (stream : List UInt8) :
    Confined (OwnedBy l.fields message) m (decode (pbBind l.fields) message m stream).1 := by
  have hpos : 0 < l.fields.length := List.length_pos_iff.mpr hne
  have hfirst : l.fields[0]? = some l.fields[0] := List.getElem?_eq_getElem hpos
  obtain ⟨g, hg, hiter, hdefaults⟩ :=
    messageSetToDefaults_confined hscalar message m hfirst (Nat.zero_add _)
  have hcount : (pbBind l.fields).fieldCount = l.fields.length := rfl
  rw [decode, fieldIterBegin_at l message hfirst, hcount]
  simp only [if_true, hiter]
  exact hdefaults.trans (decodeLoop_confined hscalar message _ stream hg)

end Loops

/-! ## The mesh message -/

/-- The fields of a mesh message are scalar. -/
theorem scalar_meshFields : ∀ f ∈ meshFields, Scalar f.2.type f.2.dataSize := by
  intro f hf
  simp only [meshFields, List.mem_cons, List.not_mem_nil, or_false] at hf
  obtain rfl | rfl | rfl | rfl | rfl | rfl | rfl | rfl | rfl | rfl | rfl := hf <;>
    exact ⟨by decide, by decide, by decide, by decide, by decide⟩

/-- A stream that fails in the middle of a bytes field. -/
theorem decode_confined_meshMessage :
    Confined (OwnedBy meshFields 4096) (fun _ => 0xAA)
      (decode meshMessageMsg 4096 (fun _ => 0xAA) [0x32, 0x41, 0x00]).1 :=
  decode_confined scalar_meshFields 4096 (List.cons_ne_nil _ _) (l := meshFieldList) _ _

/-- Every byte of a field lies in the struct, which ends with the public key. -/
theorem inside_of_ownedBy {message a : ℕ} (h : OwnedBy meshFields message a) :
    message ≤ a ∧ a < message + (MeshMember.publicKey.offset + MeshMember.publicKey.size) := by
  obtain ⟨k, f, hf, howns⟩ := h
  have hmem := List.mem_of_getElem? hf
  have hbounds : ∀ g ∈ meshFields, 0 ≤ (g.2.dataOffset : ℤ) - g.2.sizeOffset ∧
      (g.2.dataOffset : ℤ) - g.2.sizeOffset < 148 ∧ g.2.dataOffset + g.2.dataSize ≤ 148 := by
    decide
  have hend : MeshMember.publicKey.offset + MeshMember.publicKey.size = 148 := by decide
  obtain ⟨hlo, hhi, hdata⟩ := hbounds f hmem
  rw [hend]
  rcases howns with hspans | hflag
  · simp only [Spans, iterAt, FieldIter.place] at hspans
    omega
  · simp only [iterAt, FieldIter.place] at hflag
    split at hflag
    · simp only [Option.some.injEq] at hflag
      omega
    · exact absurd hflag (by simp)

/-- A frame from the serial port changes no byte outside the message it is decoded into. -/
theorem decode_meshMessage_outside (message : ℕ) (m : Mem) (stream : List UInt8) {a : ℕ}
    (ha : a < message ∨
      message + (MeshMember.publicKey.offset + MeshMember.publicKey.size) ≤ a) :
    (decode meshMessageMsg message m stream).1 a = m a := by
  have hconfined : Confined (OwnedBy meshFields message) m
      (decode meshMessageMsg message m stream).1 :=
    decode_confined (l := meshFieldList) scalar_meshFields message (List.cons_ne_nil _ _) m stream
  apply hconfined
  intro howned
  have hinside := inside_of_ownedBy howned
  omega

end LatticeNodes.Analysis.NanopbMemory
