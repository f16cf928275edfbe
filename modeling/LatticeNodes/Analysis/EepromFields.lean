import LatticeNodes.Analysis.EepromFrames
import LatticeNodes.Library.FieldStore
import Mathlib.Algebra.Group.Nat.Defs

/-!
# The fields of the EEPROM

The fourteen fields with a load and a save of their own, where each lies (`field`), what a
call writes (`writesOf`) and what a later load of the field returns (`resultOf`): the image
refines a store that keeps one value for each field (`fieldStore`).
-/

set_option autoImplicit false

namespace LatticeNodes.Analysis

open LatticeNodes.Program FieldStore

/-! ## Saves and clears -/

/-- The calls that change the EEPROM after `init()`.
SOURCE: EEPROM_Manager.h:88-170 -/
inductive SaveCall where
  | masterFlag (isMaster : Bool)
  | devFlag (isDev : Bool)
  | meshKey (key : List UInt8)
  | peerList (peerRecords : ℕ → UInt8) (numPeers : ℕ)
  | clearPeerList
  | adapterType (type : UInt8)
  | rebootCount (count : UInt8)
  | rebootReason (reason : UInt8)
  | keypair (privateKey publicKey : Key)
  | enrolledFlag (enrolled : Bool)
  | bootEpoch (epoch : UInt32)
  | knownMasterMac (mac : MacAddress)
  | clearKnownMasterMac
  | knownMasterMacSecondary (mac : MacAddress)
  | clearKnownMasterMacSecondary
  | txPowerPreset (preset : UInt8)
  | nodeId (id : UInt8)
  | clearAll
  | clearRange (startAddr endAddr : ℕ)

def SaveCall.run (em : EepromManager) : SaveCall → EepromManager
  | .masterFlag isMaster => em.saveMasterFlag isMaster
  | .devFlag isDev => em.saveDevFlag isDev
  | .meshKey key => em.saveMeshKey key
  | .peerList peerRecords numPeers => em.savePeerList peerRecords numPeers
  | .clearPeerList => em.clearPeerList
  | .adapterType type => em.saveAdapterType type
  | .rebootCount count => em.saveRebootCount count
  | .rebootReason reason => em.saveRebootReason reason
  | .keypair privateKey publicKey => em.saveKeypair privateKey publicKey
  | .enrolledFlag enrolled => em.saveEnrolledFlag enrolled
  | .bootEpoch epoch => em.saveBootEpoch epoch
  | .knownMasterMac mac => em.saveKnownMasterMac mac
  | .clearKnownMasterMac => em.clearKnownMasterMac
  | .knownMasterMacSecondary mac => em.saveKnownMasterMacSecondary mac
  | .clearKnownMasterMacSecondary => em.clearKnownMasterMacSecondary
  | .txPowerPreset preset => em.saveTxPowerPreset preset
  | .nodeId id => em.saveNodeId id
  | .clearAll => em.clearAll
  | .clearRange startAddr endAddr => em.clearRange startAddr endAddr

/-! ## Fields and loads -/

/-- SOURCE: EEPROM_Manager.h:12-31 -/
inductive EepromField where
  | masterFlag
  | devFlag
  | adapterType
  | meshKey
  | peerList
  | rebootReason
  | rebootCount
  | keypair
  | enrolledFlag
  | bootEpoch
  | knownMasterMac
  | txPowerPreset
  | nodeId
  | knownMasterMacSecondary
  deriving DecidableEq

namespace EepromField

/-- What the load function of a field returns, given its arguments. -/
abbrev Value : EepromField → Type
  | .masterFlag | .devFlag | .enrolledFlag => Bool
  | .adapterType | .rebootReason | .rebootCount | .txPowerPreset | .nodeId => UInt8
  | .meshKey => Vector UInt8 16 → Bool × Vector UInt8 16
  | .peerList => ℕ → Option (List UInt8)
  | .keypair => Option (Key × Key)
  | .bootEpoch => UInt32
  | .knownMasterMac | .knownMasterMacSecondary => MacAddress → Bool × MacAddress

/-- The load function of each field. -/
def load (em : EepromManager) : (k : EepromField) → k.Value
  | .masterFlag => em.loadMasterFlag
  | .devFlag => em.loadDevFlag
  | .adapterType => em.loadAdapterType
  | .meshKey => em.loadMeshKey
  | .peerList => em.loadPeerList
  | .rebootReason => em.loadRebootReason
  | .rebootCount => em.loadRebootCount
  | .keypair => em.loadKeypair
  | .enrolledFlag => em.loadEnrolledFlag
  | .bootEpoch => em.loadBootEpoch
  | .knownMasterMac => em.loadKnownMasterMac
  | .txPowerPreset => em.loadTxPowerPreset
  | .nodeId => em.loadNodeId
  | .knownMasterMacSecondary => em.loadKnownMasterMacSecondary

/-- What `loadPeerList` makes of the peer region. -/
def peersOf (region : Vector UInt8 EepromSizes.peerListSize) (maxPeers : ℕ) :
    Option (List UInt8) :=
  if Config.maxPeers < maxPeers then none
  else some (region.toList.take (maxPeers * EepromSizes.peerRecordSize))

/-- What `loadKeypair` makes of the image. -/
def keypairOf (image : ℕ → UInt8) : Option (Key × Key) :=
  let privateKey := readVector image EepromAddresses.privateKey 32
  let publicKey := readVector image EepromAddresses.publicKey 32
  let stored := (image EepromAddresses.keypairCrc).toUInt16 |||
    ((image (EepromAddresses.keypairCrc + 1)).toUInt16 <<< 8)
  if stored ≠ EepromManager.crc16 (privateKey.toList ++ publicKey.toList) then none
  else some (privateKey, publicKey)

/-- The value a byte stands for when `0xFF` is unset. -/
def unlessErased (b : UInt8) : UInt8 := if b = 0xFF then 0 else b

/-- The default for anything but an enumerator.
SOURCE: EEPROM_Manager.cpp:537-544 -/
def presetOf (b : UInt8) : UInt8 := if 2 < b ∨ b = 0xFF then 2 else b

def epochOf (epoch : UInt32) : UInt32 := if epoch = 0xFFFFFFFF then 0 else epoch

def macOf (mac : MacAddress) (_ : MacAddress) : Bool × MacAddress := (mac != broadcastMac, mac)

end EepromField

namespace EepromFields

open EepromField

/-- The keypair is read from its 66 bytes only. -/
theorem keypairOf_congr {image image' : ℕ → UInt8}
    (h : ∀ i, EepromAddresses.privateKey ≤ i → i < EepromAddresses.privateKey + 66 →
      image i = image' i) : keypairOf image = keypairOf image' := by
  have hprivate : readVector image EepromAddresses.privateKey 32 =
      readVector image' EepromAddresses.privateKey 32 :=
    readVector_congr fun i hlo hhi => h i hlo (by omega)
  have hpublic : readVector image EepromAddresses.publicKey 32 =
      readVector image' EepromAddresses.publicKey 32 := by
    apply readVector_congr
    intro i hlo hhi
    simp only [EepromAddresses.publicKey] at hlo hhi
    apply h i
    · simp only [EepromAddresses.privateKey]
      omega
    · simp only [EepromAddresses.privateKey]
      omega
  have hlow := h EepromAddresses.keypairCrc (by decide) (by decide)
  have hhigh := h (EepromAddresses.keypairCrc + 1) (by decide) (by decide)
  simp only [keypairOf, hprivate, hpublic, hlow, hhigh]

/-- A word has a byte 0. -/
theorem word0_lt : 0 < 4 := by decide
theorem word1_lt : 1 < 4 := by decide
theorem word2_lt : 2 < 4 := by decide
theorem word3_lt : 3 < 4 := by decide

/-- Where each field lies and how it is read.
SOURCE: EEPROM_Manager.h:33-56 -/
def field : (k : EepromField) → Field UInt8 k.Value
  | .masterFlag => .ofCell EepromAddresses.masterFlag (· == 1)
  | .devFlag => .ofCell EepromAddresses.devFlag (· == 1)
  | .adapterType => .ofCell EepromAddresses.adapterType unlessErased
  | .meshKey => .ofVector EepromAddresses.meshKey 16 fun key _ => (true, key)
  | .peerList => .ofVector EepromAddresses.peerList EepromSizes.peerListSize peersOf
  | .rebootReason => .ofCell EepromAddresses.rebootReason id
  | .rebootCount => .ofCell EepromAddresses.rebootCount id
  | .keypair => ⟨EepromAddresses.privateKey, 66, keypairOf, keypairOf_congr⟩
  | .enrolledFlag => .ofCell EepromAddresses.enrolledFlag (· == 0x01)
  | .bootEpoch => .ofVector EepromAddresses.bootEpoch 4 fun b =>
      epochOf (EepromManager.wordOfBytes (getElem b 0 word0_lt) (getElem b 1 word1_lt)
        (getElem b 2 word2_lt) (getElem b 3 word3_lt))
  | .knownMasterMac => .ofVector EepromAddresses.knownMasterMac 6 macOf
  | .txPowerPreset => .ofCell EepromAddresses.txPowerPreset presetOf
  | .nodeId => .ofCell EepromAddresses.nodeId unlessErased
  | .knownMasterMacSecondary => .ofVector EepromAddresses.knownMasterMacSecondary 6 macOf

/-- Some bytes of the peer region are its first ones. -/
theorem readBytes_eq_take {em : EepromManager} {n : ℕ} (h : n ≤ EepromSizes.peerListSize) :
    em.readBytes EepromAddresses.peerList n =
      (readVector em.read EepromAddresses.peerList EepromSizes.peerListSize).toList.take n := by
  apply List.ext_getElem
  · simp [EepromManager.readBytes, h]
  · intro i hi hi'
    simp [EepromManager.readBytes, readVector]

/-- **Every load of an initialised manager reads its field.** -/
theorem load_eq_read {em : EepromManager} (hinit : em.isInitialized = true) (k : EepromField) :
    k.load em = (field k).read em.read := by
  cases k with
  | masterFlag => simp [load, field, EepromManager.loadMasterFlag, hinit, Field.ofCell]
  | devFlag => simp [load, field, EepromManager.loadDevFlag, hinit, Field.ofCell]
  | adapterType =>
      simp [load, field, EepromManager.loadAdapterType, hinit, Field.ofCell, unlessErased]
  | meshKey =>
      funext key
      simp [load, field, EepromManager.loadMeshKey, hinit, Field.ofVector]
      rfl
  | peerList =>
      funext maxPeers
      simp only [load, field, EepromManager.loadPeerList, hinit, Field.ofVector, peersOf]
      by_cases hmany : Config.maxPeers < maxPeers
      · simp [hmany]
      · have hfits : maxPeers * EepromSizes.peerRecordSize ≤ EepromSizes.peerListSize :=
          Nat.mul_le_mul_right _ (Nat.not_lt.mp hmany)
        simp [hmany, readBytes_eq_take hfits]
  | rebootReason => simp [load, field, EepromManager.loadRebootReason, hinit, Field.ofCell]
  | rebootCount => simp [load, field, EepromManager.loadRebootCount, hinit, Field.ofCell]
  | keypair =>
      simp only [load, field, EepromManager.loadKeypair, hinit, keypairOf,
        EepromManager.readVector, readVector, Bool.not_true, Bool.false_eq_true, if_false]
      rfl
  | enrolledFlag => simp [load, field, EepromManager.loadEnrolledFlag, hinit, Field.ofCell]
  | bootEpoch =>
      simp [load, field, EepromManager.loadBootEpoch, hinit, Field.ofVector, epochOf, readVector]
  | knownMasterMac =>
      funext mac
      simp only [load, field, EepromManager.loadKnownMasterMac, EepromManager.loadMac, hinit]
      rfl
  | txPowerPreset =>
      simp [load, field, EepromManager.loadTxPowerPreset, hinit, Field.ofCell, presetOf]
  | nodeId => simp [load, field, EepromManager.loadNodeId, hinit, Field.ofCell, unlessErased]
  | knownMasterMacSecondary =>
      funext mac
      simp only [load, field, EepromManager.loadKnownMasterMacSecondary, EepromManager.loadMac,
        hinit]
      rfl

/-- `loadKeypair` reads the field.
SOURCE: EEPROM_Manager.cpp:401-419 -/
theorem loadKeypair_eq {em : EepromManager} (hinit : em.isInitialized = true) :
    em.loadKeypair = EepromField.keypairOf em.read := by
  have hload := load_eq_read hinit .keypair
  simp only [EepromField.load, field] at hload
  exact hload

/-! ## Byte order -/

/-- Masking the low byte is taking the remainder. -/
theorem and_lowByte (n : ℕ) : n &&& 255 = n % 256 :=
  Nat.and_two_pow_sub_one_eq_mod n 8

/-- Parts that do not overlap are joined by addition. -/
theorem or_shiftLeft {low n : ℕ} (high : ℕ) (h : low < 2 ^ n) :
    low ||| high <<< n = low + high * 2 ^ n := by
  rw [Nat.or_comm, Nat.shiftLeft_eq, Nat.mul_comm, ← Nat.two_pow_add_eq_or_of_lt h, Nat.add_comm]

/-- SOURCE: EEPROM_Manager.cpp:408-409, 433-434 -/
theorem crc_bytes (crc : UInt16) :
    (crc &&& 0xFF).toUInt8.toUInt16 ||| ((((crc >>> 8) &&& 0xFF).toUInt8).toUInt16 <<< 8) =
      crc := by
  apply UInt16.toNat_inj.mp
  have hlt := crc.toNat_lt
  have hhigh : (crc.toNat / 256 % 256) <<< 8 % 65536 = (crc.toNat / 256) <<< 8 := by
    rw [Nat.shiftLeft_eq, Nat.shiftLeft_eq]
    omega
  simp only [UInt16.toNat_or, UInt8.toNat_toUInt16, UInt16.toNat_toUInt8, UInt16.toNat_and,
    UInt16.toNat_shiftLeft, UInt16.toNat_shiftRight]
  simp [and_lowByte, Nat.shiftRight_eq_div_pow, hhigh]
  rw [or_shiftLeft _ (by omega)]
  omega

/-- SOURCE: EEPROM_Manager.cpp:454-456 -/
theorem wordOfBytes_toNat (b₀ b₁ b₂ b₃ : UInt8) :
    (EepromManager.wordOfBytes b₀ b₁ b₂ b₃).toNat =
      b₀.toNat + b₁.toNat * 2 ^ 8 + b₂.toNat * 2 ^ 16 + b₃.toNat * 2 ^ 24 := by
  have h₀ := b₀.toNat_lt
  have h₁ := b₁.toNat_lt
  have h₂ := b₂.toNat_lt
  have h₃ := b₃.toNat_lt
  have hshift : ∀ {a : ℕ} (b : ℕ), a < 256 → b ≤ 24 → a <<< b % 4294967296 = a <<< b := by
    intro a b ha hb
    apply Nat.mod_eq_of_lt
    rw [Nat.shiftLeft_eq]
    have hpow : 2 ^ b ≤ 2 ^ 24 := Nat.pow_le_pow_right (by omega) hb
    calc a * 2 ^ b ≤ 255 * 2 ^ 24 := Nat.mul_le_mul (by omega) hpow
      _ < 4294967296 := by omega
  have hparts : (EepromManager.wordOfBytes b₀ b₁ b₂ b₃).toNat =
      b₀.toNat ||| b₁.toNat <<< 8 % 4294967296 ||| b₂.toNat <<< 16 % 4294967296 |||
        b₃.toNat <<< 24 % 4294967296 := by
    simp [EepromManager.wordOfBytes]
  rw [hparts, hshift 8 h₁ (by omega), hshift 16 h₂ (by omega), hshift 24 h₃ (by omega),
    @or_shiftLeft b₀.toNat 8 _ h₀, @or_shiftLeft (b₀.toNat + b₁.toNat * 2 ^ 8) 16 _ (by omega),
    or_shiftLeft _ (by omega)]

/-- SOURCE: EEPROM_Manager.cpp:454-456, 463-464 -/
theorem wordOfBytes_bytesOfWord (w : UInt32) :
    EepromManager.wordOfBytes (w &&& 0xFF).toUInt8 ((w >>> 8) &&& 0xFF).toUInt8
      ((w >>> 16) &&& 0xFF).toUInt8 ((w >>> 24) &&& 0xFF).toUInt8 = w := by
  have hlt := w.toNat_lt
  apply UInt32.toNat_inj.mp
  rw [wordOfBytes_toNat]
  simp [and_lowByte, Nat.shiftRight_eq_div_pow]
  omega

/-! ## Calls -/

/-- The peer region after a save: the records, and `0xFF` behind them. -/
def peerRegion (peerRecords : ℕ → UInt8) (numPeers : ℕ) :
    Vector UInt8 EepromSizes.peerListSize :=
  Vector.ofFn fun i =>
    if i < numPeers * EepromSizes.peerRecordSize then peerRecords i else 0xFF

def keypairWrites (privateKey publicKey : Key) : List (ℕ × UInt8) :=
  let crc := EepromManager.crc16 (privateKey.toList ++ publicKey.toList)
  ((List.finRange 32).flatMap fun i : Fin 32 =>
      [(EepromAddresses.privateKey + i, getElem privateKey i (key_lt i)),
        (EepromAddresses.publicKey + i, getElem publicKey i (key_lt i))]) ++
    [(EepromAddresses.keypairCrc, (crc &&& 0xFF).toUInt8),
      (EepromAddresses.keypairCrc + 1, ((crc >>> 8) &&& 0xFF).toUInt8)]

/-- The bytes a call writes on an initialised production manager; the wipes are no calls on a
field. -/
def writesOf : SaveCall → List (ℕ × UInt8)
  | .masterFlag isMaster => [(EepromAddresses.masterFlag, if isMaster then 1 else 0)]
  | .devFlag isDev => [(EepromAddresses.devFlag, if isDev then 1 else 0)]
  | .meshKey key => if key.length = 16 then consecutive EepromAddresses.meshKey key else []
  | .peerList peerRecords numPeers =>
      if Config.maxPeers < numPeers then []
      else consecutive EepromAddresses.peerList (List.replicate EepromSizes.peerListSize 0xFF) ++
        consecutive EepromAddresses.peerList
          ((List.range (numPeers * EepromSizes.peerRecordSize)).map peerRecords)
  | .clearPeerList =>
      consecutive EepromAddresses.peerList (List.replicate EepromSizes.peerListSize 0xFF)
  | .adapterType type => [(EepromAddresses.adapterType, type)]
  | .rebootCount count => [(EepromAddresses.rebootCount, count)]
  | .rebootReason reason => [(EepromAddresses.rebootReason, reason)]
  | .keypair privateKey publicKey => keypairWrites privateKey publicKey
  | .enrolledFlag enrolled => [(EepromAddresses.enrolledFlag, if enrolled then 0x01 else 0xFF)]
  | .bootEpoch epoch => consecutive EepromAddresses.bootEpoch (EepromManager.bytesOfWord epoch)
  | .knownMasterMac mac => consecutive EepromAddresses.knownMasterMac mac.toList
  | .clearKnownMasterMac => consecutive EepromAddresses.knownMasterMac (List.replicate 6 0xFF)
  | .knownMasterMacSecondary mac => consecutive EepromAddresses.knownMasterMacSecondary mac.toList
  | .clearKnownMasterMacSecondary =>
      consecutive EepromAddresses.knownMasterMacSecondary (List.replicate 6 0xFF)
  | .txPowerPreset preset => [(EepromAddresses.txPowerPreset, preset)]
  | .nodeId id => [(EepromAddresses.nodeId, id)]
  | .clearAll => []
  | .clearRange _ _ => []

/-- The field a call sets and what its load returns from then on; `none` is a call that is
refused. -/
def resultOf : SaveCall → Option (Σ k : EepromField, k.Value)
  | .masterFlag isMaster => some ⟨.masterFlag, isMaster⟩
  | .devFlag isDev => some ⟨.devFlag, isDev⟩
  | .meshKey key =>
      if h : key.length = 16 then some ⟨.meshKey, fun _ => (true, ⟨key.toArray, by simp [h]⟩)⟩
      else none
  | .peerList peerRecords numPeers =>
      if Config.maxPeers < numPeers then none
      else some ⟨.peerList, peersOf (peerRegion peerRecords numPeers)⟩
  | .clearPeerList => some ⟨.peerList, peersOf (Vector.replicate _ 0xFF)⟩
  | .adapterType type => some ⟨.adapterType, unlessErased type⟩
  | .rebootCount count => some ⟨.rebootCount, count⟩
  | .rebootReason reason => some ⟨.rebootReason, reason⟩
  | .keypair privateKey publicKey => some ⟨.keypair, some (privateKey, publicKey)⟩
  | .enrolledFlag enrolled => some ⟨.enrolledFlag, enrolled⟩
  | .bootEpoch epoch => some ⟨.bootEpoch, epochOf epoch⟩
  | .knownMasterMac mac => some ⟨.knownMasterMac, macOf mac⟩
  | .clearKnownMasterMac => some ⟨.knownMasterMac, macOf broadcastMac⟩
  | .knownMasterMacSecondary mac => some ⟨.knownMasterMacSecondary, macOf mac⟩
  | .clearKnownMasterMacSecondary => some ⟨.knownMasterMacSecondary, macOf broadcastMac⟩
  | .txPowerPreset preset => some ⟨.txPowerPreset, presetOf preset⟩
  | .nodeId id => some ⟨.nodeId, unlessErased id⟩
  | .clearAll => none
  | .clearRange _ _ => none

/-- The field a call is for, also when it is refused. -/
def fieldOf : SaveCall → Option EepromField
  | .masterFlag _ => some .masterFlag
  | .devFlag _ => some .devFlag
  | .meshKey _ => some .meshKey
  | .peerList _ _ | .clearPeerList => some .peerList
  | .adapterType _ => some .adapterType
  | .rebootCount _ => some .rebootCount
  | .rebootReason _ => some .rebootReason
  | .keypair _ _ => some .keypair
  | .enrolledFlag _ => some .enrolledFlag
  | .bootEpoch _ => some .bootEpoch
  | .knownMasterMac _ | .clearKnownMasterMac => some .knownMasterMac
  | .knownMasterMacSecondary _ | .clearKnownMasterMacSecondary => some .knownMasterMacSecondary
  | .txPowerPreset _ => some .txPowerPreset
  | .nodeId _ => some .nodeId
  | .clearAll | .clearRange _ _ => none

/-- A save with a result writes the field of that result. -/
theorem fieldOf_of_resultOf {c : SaveCall} {r : Σ k : EepromField, k.Value}
    (h : resultOf c = some r) : fieldOf c = some r.1 := by
  cases c with
  | meshKey key =>
      simp only [resultOf, Option.dite_none_right_eq_some, Option.some.injEq] at h
      obtain ⟨-, rfl⟩ := h
      rfl
  | peerList peerRecords numPeers =>
      simp only [resultOf, Option.ite_none_left_eq_some, Option.some.injEq] at h
      obtain ⟨-, rfl⟩ := h
      rfl
  | clearAll => cases h
  | clearRange startAddr endAddr => cases h
  | _ =>
      rw [← Option.some.inj h]
      rfl

/-! ## Every call writes inside its field -/

/-- Bytes stored from an address on stay in their range. -/
theorem mem_consecutive {address : ℕ} {bytes : List UInt8} {w : ℕ × UInt8}
    (h : w ∈ consecutive address bytes) : address ≤ w.1 ∧ w.1 < address + bytes.length := by
  obtain ⟨hlo, hhi, -⟩ := mem_bytesAt h
  exact ⟨hlo, hhi⟩

/-- A keypair is stored in its 66 bytes.
SOURCE: EEPROM_Manager.cpp:421-436 -/
theorem mem_keypairWrites {privateKey publicKey : Key} {w : ℕ × UInt8}
    (h : w ∈ keypairWrites privateKey publicKey) :
    EepromAddresses.privateKey ≤ w.1 ∧ w.1 < EepromAddresses.privateKey + 66 := by
  simp only [keypairWrites, List.mem_append, List.mem_flatMap, List.mem_cons, List.not_mem_nil,
    or_false] at h
  simp only [EepromAddresses.privateKey, EepromAddresses.publicKey, EepromAddresses.keypairCrc]
    at h ⊢
  rcases h with ⟨i, -, rfl | rfl⟩ | rfl | rfl
  · have hi := i.isLt
    show 417 ≤ 417 + (i : ℕ) ∧ 417 + (i : ℕ) < 417 + 66
    omega
  · have hi := i.isLt
    show 417 ≤ 449 + (i : ℕ) ∧ 449 + (i : ℕ) < 417 + 66
    omega
  · show 417 ≤ 481 ∧ 481 < 417 + 66
    omega
  · show 417 ≤ 481 + 1 ∧ 481 + 1 < 417 + 66
    omega

/-- Every save stays in its own field. -/
theorem writesOf_inside {c : SaveCall} {w : ℕ × UInt8} (h : w ∈ writesOf c) :
    ∃ r, resultOf c = some r ∧ (field r.1).Owns w.1 := by
  cases c with
  | meshKey key =>
      simp only [writesOf] at h
      split at h
      · next hlength =>
        obtain ⟨hlo, hhi⟩ := mem_consecutive h
        rw [hlength] at hhi
        exact ⟨_, dif_pos hlength, hlo, hhi⟩
      · cases h
  | peerList peerRecords numPeers =>
      simp only [writesOf] at h
      split at h
      · cases h
      · next hfew =>
        refine ⟨_, if_neg hfew, ?_⟩
        rcases List.mem_append.mp h with h | h
        · obtain ⟨hlo, hhi⟩ := mem_consecutive h
          rw [List.length_replicate] at hhi
          exact ⟨hlo, hhi⟩
        · obtain ⟨hlo, hhi⟩ := mem_consecutive h
          rw [List.length_map, List.length_range] at hhi
          have hfits : numPeers * EepromSizes.peerRecordSize ≤ EepromSizes.peerListSize :=
            Nat.mul_le_mul_right _ (Nat.not_lt.mp hfew)
          exact ⟨hlo, hhi.trans_le (Nat.add_le_add_left hfits _)⟩
  | clearPeerList =>
      obtain ⟨hlo, hhi⟩ := mem_consecutive h
      rw [List.length_replicate] at hhi
      exact ⟨_, rfl, hlo, hhi⟩
  | keypair privateKey publicKey => exact ⟨_, rfl, mem_keypairWrites h⟩
  | bootEpoch epoch => exact ⟨_, rfl, mem_consecutive h⟩
  | knownMasterMac mac =>
      obtain ⟨hlo, hhi⟩ := mem_consecutive h
      rw [Vector.length_toList] at hhi
      exact ⟨_, rfl, hlo, hhi⟩
  | clearKnownMasterMac => exact ⟨_, rfl, mem_consecutive h⟩
  | knownMasterMacSecondary mac =>
      obtain ⟨hlo, hhi⟩ := mem_consecutive h
      rw [Vector.length_toList] at hhi
      exact ⟨_, rfl, hlo, hhi⟩
  | clearKnownMasterMacSecondary => exact ⟨_, rfl, mem_consecutive h⟩
  | clearAll => cases h
  | clearRange startAddr endAddr => cases h
  | _ =>
      rw [List.mem_singleton.mp h]
      exact ⟨_, rfl, Nat.le_refl _, Nat.lt_succ_self _⟩

/-- No two fields share a byte.
SOURCE: EEPROM_Manager.h:33-56 -/
theorem field_disjoint {j k : EepromField} (h : j ≠ k) (i : ℕ) (hj : (field j).Owns i) :
    ¬(field k).Owns i := by
  intro hk
  have hapart : (field j).address + (field j).size ≤ (field k).address ∨
      (field k).address + (field k).size ≤ (field j).address := by
    revert h
    clear hj hk
    cases j <;> cases k <;> decide
  obtain ⟨hjlo, hjhi⟩ := hj
  obtain ⟨hklo, hkhi⟩ := hk
  omega

/-- No field holds the schema version.
SOURCE: EEPROM_Manager.h:28, 49 -/
theorem not_owns_schemaVersion (k : EepromField) :
    ¬(field k).Owns EepromAddresses.schemaVersion := by
  rintro ⟨hlo, hhi⟩
  revert hlo hhi
  cases k <;> decide

/-! ## Every call is read back -/

section Lands

variable (image : ℕ → UInt8)

/-- After a save of peers the region holds the records and is erased behind them.
SOURCE: EEPROM_Manager.cpp:290-314 -/
theorem readVector_peerRegion (peerRecords : ℕ → UInt8) (numPeers : ℕ) :
    readVector (overwrite image
      (consecutive EepromAddresses.peerList (List.replicate EepromSizes.peerListSize 0xFF) ++
        consecutive EepromAddresses.peerList
          ((List.range (numPeers * EepromSizes.peerRecordSize)).map peerRecords)))
      EepromAddresses.peerList EepromSizes.peerListSize = peerRegion peerRecords numPeers := by
  apply Vector.ext
  intro i hi
  simp only [readVector, peerRegion, Vector.getElem_ofFn, overwrite, lastWrite_append,
    lastWrite_consecutive]
  by_cases hrecord : i < numPeers * EepromSizes.peerRecordSize
  · simp [hrecord]
  · simp [hrecord, hi]

/-- The two keys and the CRC lie apart. -/
theorem nodup_keypairWrites (privateKey publicKey : Key) :
    ((keypairWrites privateKey publicKey).map (·.1)).Nodup := by
  have haddresses : (keypairWrites privateKey publicKey).map (·.1) =
      ((List.finRange 32).flatMap fun i : Fin 32 =>
        [EepromAddresses.privateKey + i, EepromAddresses.publicKey + i]) ++
        [EepromAddresses.keypairCrc, EepromAddresses.keypairCrc + 1] := by
    simp [keypairWrites, List.map_flatMap]
  rw [haddresses]
  decide +kernel

/-- The private key is stored byte by byte.
SOURCE: EEPROM_Manager.cpp:421-436 -/
theorem lastWrite_privateKey (privateKey publicKey : Key) (i : Fin 32) :
    lastWrite (keypairWrites privateKey publicKey) (EepromAddresses.privateKey + i) =
      some (getElem privateKey i (key_lt i)) := by
  apply lastWrite_of_nodup (nodup_keypairWrites privateKey publicKey)
  simp only [keypairWrites, List.mem_append, List.mem_flatMap]
  exact .inl ⟨i, List.mem_finRange i, by simp⟩

/-- The public key is stored byte by byte.
SOURCE: EEPROM_Manager.cpp:421-436 -/
theorem lastWrite_publicKey (privateKey publicKey : Key) (i : Fin 32) :
    lastWrite (keypairWrites privateKey publicKey) (EepromAddresses.publicKey + i) =
      some (getElem publicKey i (key_lt i)) := by
  apply lastWrite_of_nodup (nodup_keypairWrites privateKey publicKey)
  simp only [keypairWrites, List.mem_append, List.mem_flatMap]
  exact .inl ⟨i, List.mem_finRange i, by simp⟩

/-- **A keypair that was saved passes its own check.**
SOURCE: EEPROM_Manager.cpp:401-436 -/
theorem keypairOf_overwrite (privateKey publicKey : Key) :
    keypairOf (overwrite image (keypairWrites privateKey publicKey)) =
      some (privateKey, publicKey) := by
  have hprivate : readVector (overwrite image (keypairWrites privateKey publicKey))
      EepromAddresses.privateKey 32 = privateKey := by
    apply Vector.ext
    intro i hi
    have hlast := lastWrite_privateKey privateKey publicKey ⟨i, hi⟩
    simp only at hlast
    simp [readVector, overwrite, hlast]
  have hpublic : readVector (overwrite image (keypairWrites privateKey publicKey))
      EepromAddresses.publicKey 32 = publicKey := by
    apply Vector.ext
    intro i hi
    have hlast := lastWrite_publicKey privateKey publicKey ⟨i, hi⟩
    simp only at hlast
    simp [readVector, overwrite, hlast]
  have hlow : overwrite image (keypairWrites privateKey publicKey) EepromAddresses.keypairCrc =
      (EepromManager.crc16 (privateKey.toList ++ publicKey.toList) &&& 0xFF).toUInt8 := by
    simp [overwrite, keypairWrites, lastWrite_append, lastWrite]
  have hhigh : overwrite image (keypairWrites privateKey publicKey)
      (EepromAddresses.keypairCrc + 1) =
        ((EepromManager.crc16 (privateKey.toList ++ publicKey.toList) >>> 8) &&& 0xFF).toUInt8 := by
    simp [overwrite, keypairWrites, lastWrite_append, lastWrite]
  have hcrc := crc_bytes (EepromManager.crc16 (privateKey.toList ++ publicKey.toList))
  simp only [keypairOf, hprivate, hpublic, hlow, hhigh, hcrc]
  exact if_neg fun h => h rfl

/-- The boot epoch is read back as the word it was, except for the erased one.
SOURCE: EEPROM_Manager.cpp:451-458 -/
theorem read_bootEpoch (epoch : UInt32) :
    (field .bootEpoch).read (overwrite image
      (consecutive EepromAddresses.bootEpoch (EepromManager.bytesOfWord epoch))) =
        epochOf epoch := by
  have hread := @Field.read_ofVector UInt8 UInt32 EepromAddresses.bootEpoch 4
    (fun b => epochOf (EepromManager.wordOfBytes b[0] b[1] b[2] b[3])) image
    ⟨(EepromManager.bytesOfWord epoch).toArray, rfl⟩
  have hword : EepromManager.wordOfBytes (epoch &&& 0xFF).toUInt8 ((epoch >>> 8) &&& 0xFF).toUInt8
      ((epoch >>> 16) &&& 0xFF).toUInt8 ((epoch >>> 24) &&& 0xFF).toUInt8 = epoch :=
    wordOfBytes_bytesOfWord epoch
  exact hread.trans (congrArg epochOf hword)

/-- **A saved value is what its field reads.** -/
theorem writesOf_lands {c : SaveCall} {r : Σ k : EepromField, k.Value} (h : resultOf c = some r) :
    (field r.1).read (overwrite image (writesOf c)) = r.2 := by
  cases c with
  | masterFlag isMaster =>
      cases h
      have hread := Field.read_ofCell EepromAddresses.masterFlag (· == (1 : UInt8)) image
        (if isMaster then 1 else 0)
      refine hread.trans ?_
      cases isMaster <;> rfl
  | devFlag isDev =>
      cases h
      have hread := Field.read_ofCell EepromAddresses.devFlag (· == (1 : UInt8)) image
        (if isDev then 1 else 0)
      refine hread.trans ?_
      cases isDev <;> rfl
  | meshKey key =>
      simp only [resultOf, Option.dite_none_right_eq_some, Option.some.injEq] at h
      obtain ⟨hlength, rfl⟩ := h
      rw [writesOf, if_pos hlength]
      have hsize : key.toArray.size = 16 := by simp [hlength]
      exact @Field.read_ofVector UInt8 _ EepromAddresses.meshKey 16 (fun key _ => (true, key)) image
        ⟨key.toArray, hsize⟩
  | peerList peerRecords numPeers =>
      simp only [resultOf, Option.ite_none_left_eq_some, Option.some.injEq] at h
      obtain ⟨hfew, rfl⟩ := h
      rw [writesOf, if_neg hfew]
      exact congrArg peersOf (readVector_peerRegion image peerRecords numPeers)
  | clearPeerList =>
      cases h
      have hread := Field.read_ofVector EepromAddresses.peerList peersOf image
        (Vector.replicate EepromSizes.peerListSize 0xFF)
      rw [Vector.toList_replicate] at hread
      exact hread
  | adapterType type => cases h; exact Field.read_ofCell EepromAddresses.adapterType _ image type
  | rebootCount count => cases h; exact Field.read_ofCell EepromAddresses.rebootCount _ image count
  | rebootReason reason =>
      cases h
      exact Field.read_ofCell EepromAddresses.rebootReason _ image reason
  | keypair privateKey publicKey =>
      simp only [resultOf, Option.some.injEq] at h
      rw [← h, writesOf]
      simp only [field, keypairOf_overwrite]
  | enrolledFlag enrolled =>
      cases h
      have hread := Field.read_ofCell EepromAddresses.enrolledFlag (· == (0x01 : UInt8)) image
        (if enrolled then 0x01 else 0xFF)
      refine hread.trans ?_
      cases enrolled <;> rfl
  | bootEpoch epoch => cases h; exact read_bootEpoch image epoch
  | knownMasterMac mac =>
      cases h
      exact Field.read_ofVector EepromAddresses.knownMasterMac _ image mac
  | clearKnownMasterMac =>
      cases h
      exact Field.read_ofVector EepromAddresses.knownMasterMac macOf image broadcastMac
  | knownMasterMacSecondary mac =>
      cases h
      exact Field.read_ofVector EepromAddresses.knownMasterMacSecondary _ image mac
  | clearKnownMasterMacSecondary =>
      cases h
      exact Field.read_ofVector EepromAddresses.knownMasterMacSecondary macOf image broadcastMac
  | txPowerPreset preset =>
      cases h
      exact Field.read_ofCell EepromAddresses.txPowerPreset _ image preset
  | nodeId id => cases h; exact Field.read_ofCell EepromAddresses.nodeId _ image id
  | clearAll => cases h
  | clearRange startAddr endAddr => cases h

end Lands

/-- The EEPROM as a store of fields. -/
def fieldStore : Store EepromField UInt8 EepromField.Value SaveCall where
  field := field
  writes := writesOf
  result := resultOf
  disjoint := field_disjoint
  inside := writesOf_inside
  lands := fun image h => writesOf_lands image h

/-- A call for another field spares the fields of a list. -/
theorem spares_of_fieldOf {c : SaveCall} {fields : List EepromField}
    (h : ∀ k, fieldOf c = some k → k ∉ fields) : ∀ k ∈ fields, fieldStore.Spares c k := by
  intro k hk r hresult heq
  rw [← heq] at hk
  exact h r.1 (fieldOf_of_resultOf hresult) hk

end EepromFields

end LatticeNodes.Analysis
