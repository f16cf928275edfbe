import LatticeNodes.Analysis.NanopbRoundTrip

/-!
# The fields of a payload

A protobuf payload is a list of fields, and of a field that occurs more than once the last
occurrence counts.  What `pb_decode` accepts can be cut into its fields, and the two fields of an
approval end up in the struct as they were in the payload, provided they have their full size:
`carriesField_target_iff`, `carriesField_publicKey_iff`.
-/

set_option autoImplicit false

namespace LatticeNodes.Analysis

open LatticeNodes.Program WireFormat

/-! ## Cutting a payload -/

/-- One field of a payload; the content is that of a length-delimited field. -/
structure RawField where
  number : ℕ
  wireType : ℕ
  content : List UInt8

/-- One key and its value, cut off the stream. -/
def splitField (stream : List UInt8) : Option (RawField × List UInt8) :=
  (Pb.decodeVarint32 stream).bind fun (key, stream) =>
    if key % 8 = wireString then
      (Pb.decodeVarint32 stream).bind fun (length, stream) =>
        (Pb.read stream length).map fun (bytes, stream) => (⟨key / 8, key % 8, bytes⟩, stream)
    else (Pb.skipField (key % 8) stream).map fun stream => (⟨key / 8, key % 8, []⟩, stream)

/-- The fields of a stream, cut off after the given number of them. -/
def splitFields : ℕ → List UInt8 → Option (List RawField)
  | _, [] => some []
  | 0, _ :: _ => none
  | n + 1, b :: stream =>
      (splitField (b :: stream)).bind fun (field, stream) =>
        (splitFields n stream).map fun fields => field :: fields

/-- The content of the last length-delimited field with this number. -/
def lastContent (fields : List RawField) (number : ℕ) : Option (List UInt8) :=
  ((fields.filter fun f => f.number = number ∧ f.wireType = wireString).getLast?).map
    RawField.content

/-- The payload carries these bytes in this field. -/
def CarriesField (payload : List UInt8) (number : ℕ) (value : List UInt8) : Prop :=
  ∃ fields, splitFields payload.length payload = some fields ∧
    lastContent fields number = some value

/-- The last field with a number has the last content. -/
theorem lastContent_append_self {f : RawField} (hwire : f.wireType = wireString)
    (fields : List RawField) : lastContent (fields ++ [f]) f.number = some f.content := by
  rw [lastContent, List.filter_append]
  simp [hwire]

/-- Fields with other numbers do not change it. -/
theorem lastContent_append_of_ne {f : RawField} {number : ℕ} (h : f.number ≠ number)
    (fields : List RawField) : lastContent (fields ++ [f]) number = lastContent fields number := by
  rw [lastContent, List.filter_append]
  simp [h, lastContent]

/-! ## What the decoder consumes -/

/-- Continuation bytes are skipped as they are decoded. -/
theorem skipVarint_of_decode {bitpos acc v : ℕ} {stream rest : List UInt8}
    (h : decodeVarintFrom bitpos acc stream = some (v, rest)) :
    Pb.skipVarint stream = some rest := by
  induction stream generalizing bitpos acc with
  | nil => cases h
  | cons b stream ih =>
      rw [decodeVarintFrom] at h
      rw [Pb.skipVarint]
      split at h
      · cases h
      · split at h
        · next hmore =>
          rw [if_pos hmore]
          exact ih h
        · next hlast =>
          rw [if_neg hlast]
          cases h
          rfl

/-- A varint field that is skipped as it is decoded. -/
structure Skips (wireType : ℕ) (stream rest : List UInt8) : Prop where
  isVarint : wireType = wireVarint
  skipped : Pb.skipVarint stream = some rest

/-- What a decoder reads the skipper would skip. -/
theorem Skips.skipField {wireType : ℕ} {stream rest : List UInt8}
    (h : Skips wireType stream rest) : Pb.skipField wireType stream = some rest := by
  rw [Pb.skipField, if_pos h.isVarint]
  exact h.skipped

/-- An unsigned number is skipped. -/
theorem decodeUint32_skips {wireType : ℕ} {stream rest : List UInt8} {v : UInt32}
    (h : Pb.decodeUint32 wireType stream = some (v, rest)) : Skips wireType stream rest := by
  unfold Pb.decodeUint32 at h
  split at h
  · cases h
  · next htype =>
    obtain ⟨⟨value, s⟩, hdecode, hvalue⟩ := Option.bind_eq_some_iff.mp h
    simp only [Option.ite_none_right_eq_some, Option.some.injEq, Prod.mk.injEq] at hvalue
    obtain ⟨-, -, rfl⟩ := hvalue
    exact ⟨not_not.mp htype, skipVarint_of_decode hdecode⟩

/-- A signed number is skipped. -/
theorem decodeSint32_skips {wireType : ℕ} {stream rest : List UInt8} {v : Int32}
    (h : Pb.decodeSint32 wireType stream = some (v, rest)) : Skips wireType stream rest := by
  unfold Pb.decodeSint32 at h
  split at h
  · cases h
  · next htype =>
    obtain ⟨⟨value, s⟩, hdecode, hvalue⟩ := Option.bind_eq_some_iff.mp h
    simp only [Option.ite_none_right_eq_some, Option.some.injEq, Prod.mk.injEq] at hvalue
    obtain ⟨-, -, rfl⟩ := hvalue
    exact ⟨not_not.mp htype, skipVarint_of_decode hdecode⟩

/-- A length-delimited value with these bytes. -/
structure Delimited (wireType : ℕ) (stream bytes rest : List UInt8) : Prop where
  isString : wireType = wireString
  taken : (Pb.decodeVarint32 stream).bind (fun p => Pb.read p.2 p.1) = some (bytes, rest)

/-- A buffer that is overwritten in full. -/
theorem overwrite_full {n : ℕ} (buffer : Vector UInt8 n) {bytes : List UInt8}
    (h : bytes.length = n) : (Pb.overwrite buffer bytes).toList = bytes := by
  subst h
  exact congrArg Vector.toList (overwrite_toList buffer ⟨bytes.toArray, rfl⟩)

/-- An address is read from a delimited field. -/
theorem decodeFixedBytes_delimited {wireType : ℕ} {dest v : MacAddress} {stream rest : List UInt8}
    (h : Pb.decodeFixedBytes wireType dest stream = some (v, rest)) :
    ∃ bytes, Delimited wireType stream bytes rest ∧ (bytes.length = 6 → v.toList = bytes) := by
  unfold Pb.decodeFixedBytes at h
  split at h
  · cases h
  · next htype =>
    obtain ⟨⟨size, s⟩, hsize, hvalue⟩ := Option.bind_eq_some_iff.mp h
    simp only at hvalue
    split at hvalue
    · next hzero =>
      cases hvalue
      refine ⟨[], ⟨not_not.mp htype, ?_⟩, fun hsix => by simp at hsix⟩
      rw [hsize, hzero]
      rfl
    · split at hvalue
      · cases hvalue
      · next hsix =>
        obtain ⟨⟨bytes, s'⟩, hread, hpair⟩ := Option.map_eq_some_iff.mp hvalue
        cases hpair
        refine ⟨bytes, ⟨not_not.mp htype, ?_⟩, fun hlength => overwrite_full dest hlength⟩
        rw [hsize]
        show Pb.read s size = _
        rw [not_not.mp hsix, hread]

/-- Bytes are read from a delimited field. -/
theorem decodeBytes_delimited {wireType max : ℕ} {dest v : PbBytes max}
    {stream rest : List UInt8} (h : Pb.decodeBytes wireType dest stream = some (v, rest)) :
    ∃ bytes, Delimited wireType stream bytes rest ∧
      (bytes.length = max → v.bytes.toList = bytes) := by
  unfold Pb.decodeBytes at h
  split at h
  · cases h
  · next htype =>
    obtain ⟨⟨size, s⟩, hsize, hvalue⟩ := Option.bind_eq_some_iff.mp h
    simp only at hvalue
    split at hvalue
    · obtain ⟨⟨bytes, s'⟩, hread, hpair⟩ := Option.map_eq_some_iff.mp hvalue
      cases hpair
      refine ⟨bytes, ⟨not_not.mp htype, ?_⟩, fun hlength => overwrite_full dest.bytes hlength⟩
      rw [hsize]
      exact hread
    · cases hvalue

/-! ## Fields and struct -/

/-- What storing a field does to the two members of an approval. -/
structure Stores (field : RawField) (msg msg' : PbMeshMessage) : Prop where
  target : if field.number = 4 then field.wireType = wireString ∧
      (field.content.length = 6 → msg'.targetMacAddress.toList = field.content)
    else msg'.targetMacAddress = msg.targetMacAddress
  publicKey : if field.number = 11 then field.wireType = wireString ∧
      (field.content.length = 32 →
        msg'.hasPublicKey = true ∧ msg'.publicKey.bytes.toList = field.content)
    else msg'.hasPublicKey = msg.hasPublicKey ∧ msg'.publicKey = msg.publicKey

/-- A skipped value is a raw field without content. -/
theorem splitField_of_skips {key : ℕ} {stream s rest : List UInt8}
    (hkey : Pb.decodeVarint32 stream = some (key, s)) (h : Skips (key % 8) s rest) :
    splitField stream = some (⟨key / 8, key % 8, []⟩, rest) := by
  have hother : ¬key % 8 = wireString := by
    rw [h.isVarint]
    decide
  rw [splitField, hkey]
  simp only [Option.bind_some, if_neg hother, h.skipField, Option.map_some]

/-- A delimited one has its bytes as content. -/
theorem splitField_of_delimited {key : ℕ} {stream s bytes rest : List UInt8}
    (hkey : Pb.decodeVarint32 stream = some (key, s)) (h : Delimited (key % 8) s bytes rest) :
    splitField stream = some (⟨key / 8, key % 8, bytes⟩, rest) := by
  obtain ⟨⟨length, s'⟩, hlength, hread⟩ := Option.bind_eq_some_iff.mp h.taken
  rw [splitField, hkey]
  simp only [Option.bind_some, if_pos h.isString, hlength, hread, Option.map_some]

/-- An unknown field is cut as it is skipped. -/
theorem splitField_of_skipped {key : ℕ} {stream s rest : List UInt8}
    (hkey : Pb.decodeVarint32 stream = some (key, s))
    (h : Pb.skipField (key % 8) s = some rest) :
    ∃ bytes, splitField stream = some (⟨key / 8, key % 8, bytes⟩, rest) := by
  by_cases hstring : key % 8 = wireString
  · have htaken : ∃ bytes, Delimited (key % 8) s bytes rest := by
      rw [Pb.skipField, hstring] at h
      simp only [wireString, wireVarint, wire64Bit] at h
      obtain ⟨⟨length, s'⟩, hlength, hskip⟩ := Option.bind_eq_some_iff.mp h
      obtain ⟨⟨bytes, s''⟩, hread, rfl⟩ := Option.map_eq_some_iff.mp hskip
      refine ⟨bytes, hstring, ?_⟩
      rw [hlength]
      exact hread
    obtain ⟨bytes, hdelimited⟩ := htaken
    exact ⟨bytes, splitField_of_delimited hkey hdelimited⟩
  · refine ⟨[], ?_⟩
    rw [splitField, hkey]
    simp only [Option.bind_some, if_neg hstring, h, Option.map_some]

/-- A field of another number stores neither target nor key. -/
theorem Stores.other {field : RawField} {msg msg' : PbMeshMessage} (htarget : field.number ≠ 4)
    (hkey : field.number ≠ 11) (hsame : msg'.targetMacAddress = msg.targetMacAddress)
    (hpresent : msg'.hasPublicKey = msg.hasPublicKey) (hbytes : msg'.publicKey = msg.publicKey) :
    Stores field msg msg' := by
  constructor
  · rw [if_neg htarget]
    exact hsame
  · rw [if_neg hkey]
    exact ⟨hpresent, hbytes⟩

section Step

variable {key : ℕ} {stream s rest : List UInt8} {msg msg' : PbMeshMessage}

/-- The value of a key is cut off the stream. -/
def Cuts (key : ℕ) (stream rest : List UInt8) : Prop :=
  ∃ field, splitField stream = some (field, rest) ∧ field.number = key / 8

/-- A decoded unsigned field is cut off the stream whole. -/
theorem cuts_uint32 (hkey : Pb.decodeVarint32 stream = some (key, s)) {v : UInt32}
    (h : Pb.decodeUint32 (key % 8) s = some (v, rest)) : Cuts key stream rest :=
  ⟨_, splitField_of_skips hkey (decodeUint32_skips h), rfl⟩

/-- A decoded signed field is cut off the stream whole. -/
theorem cuts_sint32 (hkey : Pb.decodeVarint32 stream = some (key, s)) {v : Int32}
    (h : Pb.decodeSint32 (key % 8) s = some (v, rest)) : Cuts key stream rest :=
  ⟨_, splitField_of_skips hkey (decodeSint32_skips h), rfl⟩

/-- A decoded address is cut off the stream whole. -/
theorem cuts_fixedBytes (hkey : Pb.decodeVarint32 stream = some (key, s)) {dest v : MacAddress}
    (h : Pb.decodeFixedBytes (key % 8) dest s = some (v, rest)) : Cuts key stream rest := by
  obtain ⟨bytes, hdelimited, -⟩ := decodeFixedBytes_delimited h
  exact ⟨_, splitField_of_delimited hkey hdelimited, rfl⟩

/-- Decoded bytes are cut off the stream whole. -/
theorem cuts_bytes (hkey : Pb.decodeVarint32 stream = some (key, s)) {max : ℕ}
    {dest v : PbBytes max} (h : Pb.decodeBytes (key % 8) dest s = some (v, rest)) :
    Cuts key stream rest := by
  obtain ⟨bytes, hdelimited, -⟩ := decodeBytes_delimited h
  exact ⟨_, splitField_of_delimited hkey hdelimited, rfl⟩

/-- The step of any field but the two members. -/
theorem splits_other {α : Type} {decoded : Option (α × List UInt8)} (set : α → PbMeshMessage)
    (h : decoded.map (fun (v, s) => (set v, s)) = some (msg', rest))
    (hnumber : key / 8 ≠ 4 ∧ key / 8 ≠ 11)
    (hcuts : ∀ {v}, decoded = some (v, rest) → Cuts key stream rest)
    (hset : ∀ v, (set v).targetMacAddress = msg.targetMacAddress ∧
      (set v).hasPublicKey = msg.hasPublicKey ∧ (set v).publicKey = msg.publicKey) :
    ∃ field, splitField stream = some (field, rest) ∧ Stores field msg msg' := by
  obtain ⟨⟨v, s⟩, hdecoded, hpair⟩ := Option.map_eq_some_iff.mp h
  cases hpair
  obtain ⟨field, hsplit, hfield⟩ := hcuts hdecoded
  obtain ⟨htarget, hpresent, hbytes⟩ := hset v
  refine ⟨field, hsplit, .other ?_ ?_ htarget hpresent hbytes⟩
  · rw [hfield]
    exact hnumber.1
  · rw [hfield]
    exact hnumber.2

/-- Field 4 is the target. -/
theorem splits_target (hkey : Pb.decodeVarint32 stream = some (key, s)) (hnumber : key / 8 = 4)
    (h : (Pb.decodeFixedBytes (key % 8) msg.targetMacAddress s).map
      (fun (v, s) => ({ msg with targetMacAddress := v }, s)) = some (msg', rest)) :
    ∃ field, splitField stream = some (field, rest) ∧ Stores field msg msg' := by
  obtain ⟨⟨v, s'⟩, hdecoded, hpair⟩ := Option.map_eq_some_iff.mp h
  cases hpair
  obtain ⟨bytes, hdelimited, hfull⟩ := decodeFixedBytes_delimited hdecoded
  refine ⟨_, splitField_of_delimited hkey hdelimited, ?_, ?_⟩
  · rw [if_pos hnumber]
    exact ⟨hdelimited.isString, hfull⟩
  · rw [if_neg (by simp [hnumber])]
    exact ⟨rfl, rfl⟩

/-- Field 11 is the public key. -/
theorem splits_publicKey (hkey : Pb.decodeVarint32 stream = some (key, s))
    (hnumber : key / 8 = 11) (h : (Pb.decodeBytes (key % 8) msg.publicKey s).map
      (fun (v, s) => ({ msg with hasPublicKey := true, publicKey := v }, s)) = some (msg', rest)) :
    ∃ field, splitField stream = some (field, rest) ∧ Stores field msg msg' := by
  obtain ⟨⟨v, s'⟩, hdecoded, hpair⟩ := Option.map_eq_some_iff.mp h
  cases hpair
  obtain ⟨bytes, hdelimited, hfull⟩ := decodeBytes_delimited hdecoded
  refine ⟨_, splitField_of_delimited hkey hdelimited, ?_, ?_⟩
  · rw [if_neg (by simp [hnumber])]
  · rw [if_pos hnumber]
    exact ⟨hdelimited.isString, fun hlength => ⟨rfl, hfull hlength⟩⟩

/-- **Every field the decoder takes is a field of the payload.**
SOURCE: pb_decode.c:1015-1116 -/
theorem decodeField_splits (h : Pb.decodeField msg stream = some (msg', rest)) :
    ∃ field, splitField stream = some (field, rest) ∧ Stores field msg msg' := by
  obtain ⟨⟨key, s⟩, hkey, hvalue⟩ := Option.bind_eq_some_iff.mp h
  simp only at hvalue
  unfold Pb.decodeValue at hvalue
  split at hvalue
  · cases hvalue
  · next hnumber =>
    exact splits_other (fun v => { msg with messageType := v }) hvalue
      (by simp [hnumber]) (cuts_uint32 hkey) fun _ => ⟨rfl, rfl, rfl⟩
  · next hnumber =>
    exact splits_other (fun v => { msg with dataType := v }) hvalue
      (by simp [hnumber]) (cuts_sint32 hkey) fun _ => ⟨rfl, rfl, rfl⟩
  · next hnumber =>
    exact splits_other (fun v => { msg with originMacAddress := v }) hvalue
      (by simp [hnumber]) (cuts_fixedBytes hkey) fun _ => ⟨rfl, rfl, rfl⟩
  · next hnumber => exact splits_target hkey hnumber hvalue
  · next hnumber =>
    exact splits_other (fun v => { msg with lastHopMacAddress := v }) hvalue
      (by simp [hnumber]) (cuts_fixedBytes hkey) fun _ => ⟨rfl, rfl, rfl⟩
  · next hnumber =>
    exact splits_other (fun v => { msg with hasData := true, data := v }) hvalue
      (by simp [hnumber]) (cuts_bytes hkey) fun _ => ⟨rfl, rfl, rfl⟩
  · next hnumber =>
    exact splits_other (fun v => { msg with hopCount := v }) hvalue
      (by simp [hnumber]) (cuts_uint32 hkey) fun _ => ⟨rfl, rfl, rfl⟩
  · next hnumber =>
    exact splits_other (fun v => { msg with epochNum := v }) hvalue
      (by simp [hnumber]) (cuts_uint32 hkey) fun _ => ⟨rfl, rfl, rfl⟩
  · next hnumber =>
    exact splits_other (fun v => { msg with seqNum := v }) hvalue
      (by simp [hnumber]) (cuts_uint32 hkey) fun _ => ⟨rfl, rfl, rfl⟩
  · next hnumber =>
    exact splits_other (fun v => { msg with protoVersion := v }) hvalue
      (by simp [hnumber]) (cuts_uint32 hkey) fun _ => ⟨rfl, rfl, rfl⟩
  · next hnumber => exact splits_publicKey hkey hnumber hvalue
  · next htarget hpublicKey =>
    obtain ⟨s', hskipped, hpair⟩ := Option.map_eq_some_iff.mp hvalue
    cases hpair
    obtain ⟨bytes, hsplit⟩ := splitField_of_skipped hkey hskipped
    exact ⟨_, hsplit, .other (by assumption) (by assumption) rfl rfl rfl⟩

end Step

/-! ## The whole payload -/

/-- The two members are the last full-sized contents of their fields so far. -/
structure Reads (fields : List RawField) (msg : PbMeshMessage) : Prop where
  target : ∀ c, lastContent fields 4 = some c → c.length = 6 → msg.targetMacAddress.toList = c
  publicKey : ∀ c, lastContent fields 11 = some c → c.length = 32 →
    msg.hasPublicKey = true ∧ msg.publicKey.bytes.toList = c

/-- Before the first field nothing is stored. -/
theorem Reads.nil (msg : PbMeshMessage) : Reads [] msg := by
  constructor
  · intro c hc
    cases hc
  · intro c hc
    cases hc

/-- One more field stores its own content. -/
theorem Reads.snoc {fields : List RawField} {field : RawField} {msg msg' : PbMeshMessage}
    (h : Reads fields msg) (hstores : Stores field msg msg') :
    Reads (fields ++ [field]) msg' := by
  obtain ⟨htarget, hkey⟩ := hstores
  constructor
  · intro c hc hlength
    split at htarget
    · next hnumber =>
      obtain ⟨hwire, hfull⟩ := htarget
      rw [← hnumber, lastContent_append_self hwire] at hc
      cases hc
      exact hfull hlength
    · next hnumber =>
      rw [lastContent_append_of_ne hnumber] at hc
      rw [htarget]
      exact h.target c hc hlength
  · intro c hc hlength
    split at hkey
    · next hnumber =>
      obtain ⟨hwire, hfull⟩ := hkey
      rw [← hnumber, lastContent_append_self hwire] at hc
      cases hc
      exact hfull hlength
    · next hnumber =>
      rw [lastContent_append_of_ne hnumber] at hc
      rw [hkey.1, hkey.2]
      exact h.publicKey c hc hlength

/-- The induction is on the number of fields; `before` are the fields read so far. -/
theorem decodeFields_splits {n : ℕ} {stream : List UInt8} {msg pb : PbMeshMessage}
    {before : List RawField} (hbefore : Reads before msg)
    (h : Pb.decodeFields n msg stream = some pb) :
    ∃ fields, splitFields n stream = some fields ∧ Reads (before ++ fields) pb := by
  induction n generalizing stream msg before with
  | zero =>
      cases stream with
      | nil =>
          cases h
          exact ⟨[], rfl, by rwa [List.append_nil]⟩
      | cons b stream => cases h
  | succ n ih =>
      cases stream with
      | nil =>
          cases h
          exact ⟨[], rfl, by rwa [List.append_nil]⟩
      | cons b stream =>
          obtain ⟨⟨msg', rest⟩, hfield, hrest⟩ := Option.bind_eq_some_iff.mp h
          obtain ⟨field, hsplit, hstores⟩ := decodeField_splits hfield
          obtain ⟨fields, hfields, hreads⟩ := ih (hbefore.snoc hstores) hrest
          refine ⟨field :: fields, ?_, ?_⟩
          · rw [splitFields, hsplit]
            simp only [Option.bind_some, hfields, Option.map_some]
          · rw [List.append_cons]
            exact hreads

/-- **An accepted payload is cut into its fields, and the struct holds their last values.**
SOURCE: pb_decode.c:1013-1200 -/
theorem decode_splits {payload : List UInt8} {pb : PbMeshMessage}
    (h : Pb.decode payload = some pb) :
    ∃ fields, splitFields payload.length payload = some fields ∧ Reads fields pb := by
  obtain ⟨fields, hsplit, hreads⟩ := decodeFields_splits (Reads.nil _) h
  exact ⟨fields, hsplit, hreads⟩

/-- A payload carries the value of a member if the last occurrence of its field is full-sized. -/
theorem carriesField_iff {payload : List UInt8} {fields : List RawField}
    (hsplit : splitFields payload.length payload = some fields) {number size : ℕ}
    {value : List UInt8} (hsize : value.length = size)
    (hreads : ∀ c, lastContent fields number = some c → c.length = size → value = c) :
    CarriesField payload number value ↔ ∃ c, CarriesField payload number c ∧ c.length = size := by
  constructor
  · exact fun hcarries => ⟨value, hcarries, hsize⟩
  · rintro ⟨c, ⟨fields', hsplit', hlast⟩, hlength⟩
    obtain rfl : fields = fields' := Option.some.inj (hsplit.symm.trans hsplit')
    rw [hreads c hlast hlength]
    exact ⟨fields, hsplit, hlast⟩

/-- A target address of six bytes is the one in the struct. -/
theorem carriesField_target_iff {payload : List UInt8} {pb : PbMeshMessage}
    (h : Pb.decode payload = some pb) :
    CarriesField payload 4 pb.targetMacAddress.toList ↔
      ∃ c, CarriesField payload 4 c ∧ c.length = 6 := by
  obtain ⟨fields, hsplit, hreads⟩ := decode_splits h
  exact carriesField_iff hsplit Vector.length_toList hreads.target

/-- A public key of 32 bytes is the one in the struct. -/
theorem carriesField_publicKey_iff {payload : List UInt8} {pb : PbMeshMessage}
    (h : Pb.decode payload = some pb) :
    CarriesField payload 11 pb.publicKey.bytes.toList ↔
      ∃ c, CarriesField payload 11 c ∧ c.length = 32 := by
  obtain ⟨fields, hsplit, hreads⟩ := decode_splits h
  exact carriesField_iff hsplit Vector.length_toList
    fun c hlast hlength => (hreads.publicKey c hlast hlength).2

end LatticeNodes.Analysis
