import LatticeNodes.Analysis.MigratedImage

/-!
# Schema migrations

What `EEPROM_Manager::init` keeps of a stored image, read off the byte-by-byte account of
`LatticeNodes.Analysis.MigratedImage`.  `init_preserves`: the keypair, the flags, the mesh key and
the peers survive a migration as far as their layout has them, and a second boot changes no byte.
`laterUnset_iff`: after a migration of the first layout, the fields it did not have are unset
exactly when the bytes that happened to lie there are.
-/

set_option autoImplicit false

namespace LatticeNodes.Analysis

open LatticeNodes.Program CachedMemory FieldStore

namespace SchemaMigration

open EepromFields

/-! ## Statement -/

/-- The two places of the keypair and the enrolled flag. -/
inductive Layout where
  | v1
  | current
  deriving DecidableEq

namespace Layout

/-- SOURCE: EEPROM_Manager.cpp:58 -/
def ofVersion (storedVersion : UInt8) : Layout := if storedVersion = 0 then .v1 else .current

def privateKey : Layout → ℕ
  | .v1 => EepromAddresses.v1PrivateKey
  | .current => EepromAddresses.privateKey

def publicKey : Layout → ℕ
  | .v1 => EepromAddresses.v1PublicKey
  | .current => EepromAddresses.publicKey

def keypairCrc : Layout → ℕ
  | .v1 => EepromAddresses.v1KeypairCrc
  | .current => EepromAddresses.keypairCrc

def enrolledFlag : Layout → ℕ
  | .v1 => EepromAddresses.v1EnrolledFlag
  | .current => EepromAddresses.enrolledFlag

/-- The keypair that an image in this layout holds: its keys, if the stored CRC matches them.
SOURCE: EEPROM_Manager.cpp:401-419 -/
def keypair (l : Layout) (image : ℕ → UInt8) : Option (Key × Key) :=
  let privateKey := readVector image l.privateKey 32
  let publicKey := readVector image l.publicKey 32
  let stored := (image l.keypairCrc).toUInt16 ||| ((image (l.keypairCrc + 1)).toUInt16 <<< 8)
  if stored = EepromManager.crc16 (privateKey.toList ++ publicKey.toList) then
    some (privateKey, publicKey)
  else none

/-- SOURCE: EEPROM_Manager.cpp:438-442 -/
def enrolled (l : Layout) (image : ℕ → UInt8) : Bool := image l.enrolledFlag == 0x01

/-- A byte of the peer region: the records of the first layout are given up.
SOURCE: EEPROM_Manager.cpp:92-95 -/
def peerByte (l : Layout) (image : ℕ → UInt8) (i : ℕ) : UInt8 :=
  match l with
  | .v1 => 0xFF
  | .current => image (EepromAddresses.peerList + i)

end Layout

/-- What a migration from the given layout keeps of an image. -/
structure Preserves (l : Layout) (image : ℕ → UInt8) (em : EepromManager) : Prop where
  version : em.read EepromAddresses.schemaVersion = EepromSizes.currentSchemaVersion
  privateKey : ∀ i < 32, em.read (EepromAddresses.privateKey + i) = image (l.privateKey + i)
  publicKey : ∀ i < 32, em.read (EepromAddresses.publicKey + i) = image (l.publicKey + i)
  keypairCrc : ∀ i < 2, em.read (EepromAddresses.keypairCrc + i) = image (l.keypairCrc + i)
  enrolledFlag : em.read EepromAddresses.enrolledFlag = image l.enrolledFlag
  loadKeypair : em.loadKeypair = l.keypair image
  loadEnrolledFlag : em.loadEnrolledFlag = l.enrolled image
  masterFlag : em.read EepromAddresses.masterFlag = image EepromAddresses.masterFlag
  devFlag : em.read EepromAddresses.devFlag = image EepromAddresses.devFlag
  adapterType : em.read EepromAddresses.adapterType = image EepromAddresses.adapterType
  meshKey : ∀ i < EepromSizes.meshKeySize,
    em.read (EepromAddresses.meshKey + i) = image (EepromAddresses.meshKey + i)
  peerList : ∀ i < EepromSizes.peerListSize,
    em.read (EepromAddresses.peerList + i) = l.peerByte image i

/-- What every boot leaves, and the next one does not touch. -/
structure Stable (em : EepromManager) : Prop where
  /-- RAM and flash hold the same bytes. -/
  synced : em.memory.cache = em.memory.backing
  rebootCount : em.read EepromAddresses.rebootCount ≤ 10
  rebootReason : em.read EepromAddresses.rebootReason ≠ 0
  again : (EepromManager.powerUp em.memory.backing).init.memory.cache = em.memory.cache ∧
    (EepromManager.powerUp em.memory.backing).init.memory.backing = em.memory.backing

/-! ## What a migration keeps -/

section Keeps

variable {image : ℕ → UInt8} {i : ℕ}

/-- The image in the current layout, before the fields added later are initialised. -/
def Layout.unpack : Layout → (ℕ → UInt8) → ℕ → UInt8
  | .v1, image => v1Image image
  | .current, image => image

/-- Outside the peer list, the watchdog bytes and the keypair nothing moves. -/
theorem v1Image_of_apart (hpeers : i < EepromAddresses.peerList ∨ EepromAddresses.bootEpoch ≤ i) :
    v1Image image i = image i := by
  have hapart : (¬(EepromAddresses.peerList ≤ i ∧ i < EepromAddresses.rebootReason) ∧
      i ≠ EepromAddresses.rebootReason) ∧ i ≠ EepromAddresses.rebootCount ∧
        ¬(EepromAddresses.privateKey ≤ i ∧ i < EepromAddresses.bootEpoch) := by
    simp only [EepromAddresses.peerList, EepromAddresses.bootEpoch] at hpeers
    simp only [EepromAddresses.peerList, EepromAddresses.rebootReason,
      EepromAddresses.rebootCount, EepromAddresses.privateKey, EepromAddresses.bootEpoch]
    omega
  rw [v1Image, if_neg hapart.1.1, if_neg hapart.1.2, if_neg hapart.2.1, if_neg hapart.2.2]

/-- Below the peer list every layout is alike. -/
theorem Layout.unpack_low (l : Layout) (hi : i < EepromAddresses.peerList) :
    l.unpack image i = image i := by
  cases l with
  | v1 => exact v1Image_of_apart (.inl hi)
  | current => rfl

/-- The peer list is where the layout has it. -/
theorem Layout.unpack_peerList (l : Layout) (hi : i < EepromSizes.peerListSize) :
    l.unpack image (EepromAddresses.peerList + i) = l.peerByte image i := by
  cases l with
  | v1 =>
      have hsize : EepromAddresses.peerList + EepromSizes.peerListSize =
        EepromAddresses.rebootReason := by decide
      exact if_pos ⟨Nat.le_add_right _ _, hsize ▸ Nat.add_lt_add_left hi _⟩
  | current => rfl

/-- The keypair, its CRC and the enrolled flag are 67 bytes in a row in both layouts. -/
theorem Layout.unpack_keypair (l : Layout) (hi : i < 67) :
    l.unpack image (EepromAddresses.privateKey + i) = image (l.privateKey + i) := by
  cases l with
  | v1 =>
      have hapart : (¬(EepromAddresses.peerList ≤ EepromAddresses.privateKey + i ∧
          EepromAddresses.privateKey + i < EepromAddresses.rebootReason) ∧
            EepromAddresses.privateKey + i ≠ EepromAddresses.rebootReason) ∧
              EepromAddresses.privateKey + i ≠ EepromAddresses.rebootCount ∧
                EepromAddresses.privateKey + i < EepromAddresses.bootEpoch := by
        simp only [EepromAddresses.peerList, EepromAddresses.rebootReason,
          EepromAddresses.rebootCount, EepromAddresses.privateKey, EepromAddresses.bootEpoch]
        omega
      have hsource : EepromAddresses.privateKey + i - v1Distance =
          EepromAddresses.v1PrivateKey + i := by
        simp only [v1Distance, EepromAddresses.privateKey, EepromAddresses.v1PrivateKey]
        omega
      rw [Layout.unpack, v1Image, if_neg hapart.1.1, if_neg hapart.1.2, if_neg hapart.2.1,
        if_pos ⟨Nat.le_add_right _ _, hapart.2.2⟩, hsource]
      rfl
  | current => rfl

/-- The migration of a known version: everything but the version and the secondary master. -/
theorem migratedImage_eq (hversion : image EepromAddresses.schemaVersion ∈ [0, 1, 2, 3, 0xFF])
    (hi : i < EepromAddresses.schemaVersion) :
    migratedImage image i =
      (Layout.ofVersion (image EepromAddresses.schemaVersion)).unpack image i := by
  have hne : i ≠ EepromAddresses.schemaVersion := Nat.ne_of_lt hi
  have hslot : ∀ image : ℕ → UInt8, secondaryImage image i = image i := by
    intro image
    apply if_neg
    simp only [EepromAddresses.schemaVersion] at hi
    simp only [EepromAddresses.knownMasterMacSecondary]
    omega
  have hwritten : ∀ image : ℕ → UInt8, versionImage image i = image i :=
    fun image => Function.update_of_ne hne _ _
  simp only [List.mem_cons, List.not_mem_nil, or_false] at hversion
  unfold migratedImage
  rcases hversion with h | h | h | h | h
  all_goals simp [h, Layout.ofVersion, Layout.unpack, EepromSizes.currentSchemaVersion, hslot,
    hwritten]

/-- Bytes that were moved together hold the same keypair. -/
theorem Layout.keypair_unpack (l : Layout) {image' : ℕ → UInt8}
    (h : ∀ i < 67, image' (EepromAddresses.privateKey + i) = image (l.privateKey + i)) :
    EepromField.keypairOf image' = l.keypair image := by
  have hpublic : EepromAddresses.publicKey = EepromAddresses.privateKey + 32 ∧
      l.publicKey = l.privateKey + 32 := by
    cases l <;> decide
  have hcrc : EepromAddresses.keypairCrc = EepromAddresses.privateKey + 64 ∧
      l.keypairCrc = l.privateKey + 64 := by
    cases l <;> decide
  have hprivateVector : readVector image' EepromAddresses.privateKey 32 =
      readVector image l.privateKey 32 :=
    readVector_moved fun i hi => h i (by omega)
  have hpublicVector : readVector image' EepromAddresses.publicKey 32 =
      readVector image l.publicKey 32 := by
    apply readVector_moved
    intro i hi
    rw [hpublic.1, hpublic.2, Nat.add_assoc, Nat.add_assoc]
    exact h (32 + i) (by omega)
  have hlow : image' EepromAddresses.keypairCrc = image l.keypairCrc := by
    rw [hcrc.1, hcrc.2]
    exact h 64 (by omega)
  have hhigh : image' (EepromAddresses.keypairCrc + 1) = image (l.keypairCrc + 1) := by
    rw [hcrc.1, hcrc.2, Nat.add_assoc, Nat.add_assoc]
    exact h 65 (by omega)
  simp only [EepromField.keypairOf, Layout.keypair, hprivateVector, hpublicVector, hlow, hhigh,
    ne_eq, ite_not]

end Keeps

/-! ## After a boot -/

section Boot

variable {flash : EepromImage}

/-- After `init()` the manager is initialised.
SOURCE: EEPROM_Manager.cpp:36-137 -/
theorem init_isInitialized (flash : EepromImage) :
    (EepromManager.powerUp flash).init.isInitialized = true :=
  (init_flags _).1

/-- What `init()` makes of a manager over any flash.
SOURCE: EEPROM_Manager.cpp:36-137 -/
theorem init_powerUp (flash : EepromImage) :
    InitializedFrom (EepromManager.powerUp flash) (EepromManager.powerUp flash).init :=
  init_initializedFrom (Memory.load_reliable flash) rfl

/-- On a reliable flash nothing is left to lose.
SOURCE: EEPROM_Manager.cpp:36-137 -/
theorem init_synced (flash : EepromImage) :
    (EepromManager.powerUp flash).init.memory.cache =
      (EepromManager.powerUp flash).init.memory.backing :=
  (init_powerUp flash).synced

/-- The schema is current.
SOURCE: EEPROM_Manager.cpp:36-137 -/
theorem init_version (flash : EepromImage) :
    (EepromManager.powerUp flash).init.read EepromAddresses.schemaVersion =
      EepromSizes.currentSchemaVersion :=
  (init_powerUp flash).version

/-- A byte below the version, the watchdog bytes apart. -/
theorem read_init_eq {i : ℕ}
    (hversion : EepromManager.readByte flash EepromAddresses.schemaVersion ∈
      ([0, 1, 2, 3, 0xFF] : List UInt8))
    (hi : i < EepromAddresses.schemaVersion)
    (hapart : i < EepromAddresses.rebootReason ∨ EepromAddresses.rebootCount < i) :
    (EepromManager.powerUp flash).init.read i =
      (Layout.ofVersion (EepromManager.readByte flash EepromAddresses.schemaVersion)).unpack
        (EepromManager.readByte flash) i := by
  have hne : i ≠ EepromAddresses.rebootReason ∧ i ≠ EepromAddresses.rebootCount := by
    simp only [EepromAddresses.rebootReason, EepromAddresses.rebootCount] at hapart ⊢
    omega
  rw [read_init, validatedImage, if_neg fun h => hne.1 h.1, if_neg fun h => hne.2 h.1,
    migratedImage_eq hversion hi]

/-- From a known version on everything else is preserved.
SOURCE: EEPROM_Manager.cpp:44-124 -/
theorem init_preserves_of_known
    (hversion : EepromManager.readByte flash EepromAddresses.schemaVersion ∈
      ([0, 1, 2, 3, 0xFF] : List UInt8)) :
    Preserves (Layout.ofVersion (EepromManager.readByte flash EepromAddresses.schemaVersion))
      (EepromManager.readByte flash) (EepromManager.powerUp flash).init := by
  generalize hl : Layout.ofVersion _ = l
  have hlow : ∀ i < EepromAddresses.peerList, (EepromManager.powerUp flash).init.read i =
      EepromManager.readByte flash i := by
    intro i hi
    rw [read_init_eq hversion (hi.trans (by decide)) (.inl (hi.trans (by decide))),
      Layout.unpack_low _ hi]
  have hkeypair : ∀ i < 67, (EepromManager.powerUp flash).init.read
      (EepromAddresses.privateKey + i) = EepromManager.readByte flash (l.privateKey + i) := by
    intro i hi
    have hbelow : EepromAddresses.privateKey + i < EepromAddresses.schemaVersion := by
      simp only [EepromAddresses.privateKey, EepromAddresses.schemaVersion]
      omega
    have habove : EepromAddresses.rebootCount < EepromAddresses.privateKey + i :=
      Nat.lt_add_right i (by decide)
    rw [read_init_eq hversion hbelow (.inr habove), hl, Layout.unpack_keypair l hi]
  have hpublic : EepromAddresses.publicKey = EepromAddresses.privateKey + 32 ∧
      l.publicKey = l.privateKey + 32 := by
    cases l <;> decide
  have hcrc : EepromAddresses.keypairCrc = EepromAddresses.privateKey + 64 ∧
      l.keypairCrc = l.privateKey + 64 := by
    cases l <;> decide
  have henrolled : EepromAddresses.enrolledFlag = EepromAddresses.privateKey + 66 ∧
      l.enrolledFlag = l.privateKey + 66 := by
    cases l <;> decide
  have hflag : (EepromManager.powerUp flash).init.read EepromAddresses.enrolledFlag =
      EepromManager.readByte flash l.enrolledFlag := by
    rw [henrolled.1, henrolled.2]
    exact hkeypair 66 (by omega)
  refine ⟨init_version flash, fun i hi => hkeypair i (by omega), fun i hi => ?_, fun i hi => ?_,
    hflag, ?_, ?_, hlow _ (by decide), hlow _ (by decide), hlow _ (by decide), fun i hi => ?_,
    fun i hi => ?_⟩
  · rw [hpublic.1, hpublic.2, Nat.add_assoc, Nat.add_assoc]
    exact hkeypair (32 + i) (by omega)
  · rw [hcrc.1, hcrc.2, Nat.add_assoc, Nat.add_assoc]
    exact hkeypair (64 + i) (by omega)
  · rw [loadKeypair_eq (init_isInitialized flash), l.keypair_unpack hkeypair]
  · rw [EepromManager.loadEnrolledFlag, init_isInitialized, Bool.true_and, hflag, Layout.enrolled]
  · apply hlow
    simp only [EepromSizes.meshKeySize] at hi
    simp only [EepromAddresses.meshKey, EepromAddresses.peerList]
    omega
  · have hsize : EepromAddresses.peerList + EepromSizes.peerListSize =
        EepromAddresses.rebootReason := by decide
    have hbelow : EepromAddresses.peerList + i < EepromAddresses.rebootReason :=
      hsize ▸ Nat.add_lt_add_left hi _
    rw [read_init_eq hversion (hbelow.trans (by decide)) (.inl hbelow), hl,
      Layout.unpack_peerList l hi]

/-- The reason is not zero.
SOURCE: EEPROM_Manager.cpp:126-133 -/
theorem validatedImage_reason (image : ℕ → UInt8) :
    validatedImage image EepromAddresses.rebootReason ≠ 0 := by
  have hne : EepromAddresses.rebootReason ≠ EepromAddresses.rebootCount := by decide
  by_cases hzero : image EepromAddresses.rebootReason = 0x00
  · rw [validatedImage, if_pos ⟨rfl, hzero⟩]
    decide
  · rw [validatedImage, if_neg fun h => hzero h.2, if_neg fun h => hne h.1]
    exact hzero

/-- The count is ten at most.
SOURCE: EEPROM_Manager.cpp:126-133 -/
theorem validatedImage_count (image : ℕ → UInt8) :
    validatedImage image EepromAddresses.rebootCount ≤ 10 := by
  have hne : EepromAddresses.rebootCount ≠ EepromAddresses.rebootReason := by decide
  rw [validatedImage, if_neg fun h => hne h.1]
  by_cases hmany : 10 < image EepromAddresses.rebootCount
  · rw [if_pos ⟨rfl, hmany⟩]
    decide
  · rw [if_neg fun h => hmany h.2]
    exact UInt8.not_lt.mp hmany

/-- Valid bytes are left alone. -/
theorem validatedImage_of_valid {image : ℕ → UInt8}
    (hreason : image EepromAddresses.rebootReason ≠ 0)
    (hcount : image EepromAddresses.rebootCount ≤ 10) : validatedImage image = image := by
  funext i
  rw [validatedImage, if_neg, if_neg]
  · rintro ⟨rfl, hmany⟩
    exact UInt8.not_lt.mpr hcount hmany
  · rintro ⟨rfl, hzero⟩
    exact hreason hzero

/-- A boot on a current image only validates it. -/
theorem read_init_again (flash : EepromImage) :
    (EepromManager.powerUp (EepromManager.powerUp flash).init.memory.backing).init.read =
      (EepromManager.powerUp flash).init.read := by
  have hread : EepromManager.readByte (EepromManager.powerUp flash).init.memory.backing =
      (EepromManager.powerUp flash).init.read := by
    funext i
    rw [← init_synced, EepromManager.read]
  rw [read_init, hread, migratedImage]
  simp only [init_version, if_true]
  rw [read_init]
  exact validatedImage_of_valid (validatedImage_reason _) (validatedImage_count _)

/-- Images with the same bytes are equal. -/
theorem image_ext {a b : EepromImage} (h : EepromManager.readByte a = EepromManager.readByte b) :
    a = b := by
  funext i
  have hbyte := congrFun h i
  simpa [EepromManager.readByte] using hbyte

/-- A second `init()` changes nothing. -/
theorem init_stable (flash : EepromImage) : Stable (EepromManager.powerUp flash).init := by
  have hagain := image_ext (read_init_again flash)
  refine ⟨init_synced flash, ?_, ?_, hagain, ?_⟩
  · rw [read_init]
    exact validatedImage_count _
  · rw [read_init]
    exact validatedImage_reason _
  · rw [← init_synced, hagain, init_synced]

end Boot

/-! ## Result -/

/-- **A migration keeps the node's identity, and a second boot changes nothing.**
SOURCE: EEPROM_Manager.cpp:35-137 -/
theorem init_preserves (flash : EepromImage) :
    (EepromManager.readByte flash EepromAddresses.schemaVersion ∈
        ([0, 1, 2, 3, 0xFF] : List UInt8) →
      Preserves (Layout.ofVersion (EepromManager.readByte flash EepromAddresses.schemaVersion))
        (EepromManager.readByte flash) (EepromManager.powerUp flash).init) ∧
      Stable (EepromManager.powerUp flash).init :=
  ⟨init_preserves_of_known, init_stable flash⟩

/-- A first layout on an otherwise erased chip, with a keypair of zeros. -/
def erasedV1 : EepromImage := fun i =>
  if (i : ℕ) = EepromAddresses.schemaVersion then 0
  else if EepromAddresses.v1PrivateKey ≤ (i : ℕ) ∧ (i : ℕ) < EepromAddresses.v1KeypairCrc then 0
  else 0xFF

/-- An erased EEPROM of the first schema. -/
theorem init_preserves_erasedV1 :
    Preserves .v1 (EepromManager.readByte erasedV1) (EepromManager.powerUp erasedV1).init := by
  have hversion : EepromManager.readByte erasedV1 EepromAddresses.schemaVersion = 0 := rfl
  have hkept := (init_preserves erasedV1).1 (by rw [hversion]; exact List.mem_cons_self)
  rw [hversion] at hkept
  exact hkept

/-! ## The fields added later

SOURCE: EEPROM_Manager.h:22-31 -/

/-- Every field that the first layout did not have reads as unset. -/
structure LaterUnset (em : EepromManager) : Prop where
  knownMasterMac : ∀ mac, (em.loadKnownMasterMac mac).1 = false
  knownMasterMacSecondary : ∀ mac, (em.loadKnownMasterMacSecondary mac).1 = false
  bootEpoch : em.loadBootEpoch = 0
  /-- The default preset. -/
  txPowerPreset : em.loadTxPowerPreset = 2
  nodeId : em.loadNodeId = 0

/-- The bytes that a first layout left at the later addresses, and that no migration handler
initialises, happen to be unset. -/
structure LeftoversUnset (flash : EepromImage) : Prop where
  knownMasterMac : ∀ i < 6, EepromManager.readByte flash (EepromAddresses.knownMasterMac + i) = 0xFF
  bootEpoch :
    (∀ i < 4, EepromManager.readByte flash (EepromAddresses.bootEpoch + i) = 0xFF) ∨
      ∀ i < 4, EepromManager.readByte flash (EepromAddresses.bootEpoch + i) = 0
  txPowerPreset : 2 ≤ EepromManager.readByte flash EepromAddresses.txPowerPreset
  nodeId : EepromManager.readByte flash EepromAddresses.nodeId = 0xFF ∨
    EepromManager.readByte flash EepromAddresses.nodeId = 0

/-! ### Values that read as unset -/

section Unset

/-- An epoch is unset when its bytes are erased or zero. -/
theorem epochOf_wordOfBytes_eq_zero_iff (b₀ b₁ b₂ b₃ : UInt8) :
    EepromField.epochOf (EepromManager.wordOfBytes b₀ b₁ b₂ b₃) = 0 ↔
      (b₀ = 0xFF ∧ b₁ = 0xFF ∧ b₂ = 0xFF ∧ b₃ = 0xFF) ∨
        (b₀ = 0 ∧ b₁ = 0 ∧ b₂ = 0 ∧ b₃ = 0) := by
  have hword := wordOfBytes_toNat b₀ b₁ b₂ b₃
  have h₀ := b₀.toNat_lt
  have h₁ := b₁.toNat_lt
  have h₂ := b₂.toNat_lt
  have h₃ := b₃.toNat_lt
  have hzero : (0xFFFFFFFF : UInt32) ≠ 0 := by decide
  rw [EepromField.epochOf]
  simp only [← UInt8.toNat_inj]
  by_cases herased : EepromManager.wordOfBytes b₀ b₁ b₂ b₃ = 0xFFFFFFFF
  · rw [if_pos herased]
    rw [← UInt32.toNat_inj, hword] at herased
    simp at herased ⊢
    omega
  · rw [if_neg herased]
    rw [← UInt32.toNat_inj, hword] at herased ⊢
    simp at herased ⊢
    omega

/-- A vector is constant when all its cells are. -/
theorem readVector_eq_replicate_iff (image : ℕ → UInt8) (address n : ℕ) (v : UInt8) :
    readVector image address n = Vector.replicate n v ↔ ∀ i < n, image (address + i) = v := by
  constructor
  · intro h i hi
    have hcell := congrArg (fun w : Vector UInt8 n => w[i]) h
    simpa [readVector] using hcell
  · intro h
    apply Vector.ext
    intro i hi
    simpa [readVector] using h i hi

/-- A transmit power is the default from 2 on.
SOURCE: EEPROM_Manager.cpp:537-544 -/
theorem presetOf_eq_default_iff (b : UInt8) : EepromField.presetOf b = 2 ↔ 2 ≤ b := by
  rw [EepromField.presetOf]
  split
  · next h =>
    simp only [true_iff]
    rcases h with h | rfl
    · exact UInt8.le_of_lt h
    · decide
  · next h =>
    rw [not_or, UInt8.not_lt] at h
    constructor
    · rintro rfl
      exact UInt8.le_refl _
    · exact fun hle => UInt8.le_antisymm h.1 hle

/-- A node ID is unset when its byte is erased or zero.
SOURCE: EEPROM_Manager.cpp:563-568 -/
theorem unlessErased_eq_zero_iff (b : UInt8) :
    EepromField.unlessErased b = 0 ↔ b = 0xFF ∨ b = 0 := by
  rw [EepromField.unlessErased]
  split
  · next h => simp [h]
  · next h => simp [h]

end Unset

/-! ### After the migration -/

section Later

variable {flash : EepromImage}

/-- The first schema is copied, its secondary slot cleared, its version written.
SOURCE: EEPROM_Manager.cpp:58-101 -/
theorem migratedImage_v1 {image : ℕ → UInt8} (hversion : image EepromAddresses.schemaVersion = 0) :
    migratedImage image = versionImage (secondaryImage (v1Image image)) := by
  have hcurrent : (0 : UInt8) ≠ EepromSizes.currentSchemaVersion := by decide
  have hblank : (0 : UInt8) ≠ 0xFF := by decide
  simp only [migratedImage, hversion, if_neg hcurrent, if_neg hblank, if_true]

/-- The validation writes nothing above the watchdog bytes. -/
theorem validatedImage_above {image : ℕ → UInt8} {i : ℕ} (hi : EepromAddresses.rebootCount < i) :
    validatedImage image i = image i := by
  have hreason : i ≠ EepromAddresses.rebootReason := by
    simp only [EepromAddresses.rebootCount] at hi
    simp only [EepromAddresses.rebootReason]
    omega
  rw [validatedImage, if_neg fun h => hreason h.1, if_neg fun h => hi.ne' h.1]

/-- No handler writes a later field but the secondary master.
SOURCE: EEPROM_Manager.cpp:52-112 -/
theorem read_init_leftover
    (hversion : EepromManager.readByte flash EepromAddresses.schemaVersion = 0) {i : ℕ}
    (hlo : EepromAddresses.bootEpoch ≤ i) (hhi : i < EepromAddresses.knownMasterMacSecondary)
    (hne : i ≠ EepromAddresses.schemaVersion) :
    (EepromManager.powerUp flash).init.read i = EepromManager.readByte flash i := by
  have habove : EepromAddresses.rebootCount < i :=
    Nat.lt_of_lt_of_le (by decide : EepromAddresses.rebootCount < EepromAddresses.bootEpoch) hlo
  have hslot : ¬(EepromAddresses.knownMasterMacSecondary ≤ i ∧
      i < EepromAddresses.knownMasterMacSecondary + 6) := by omega
  rw [read_init, validatedImage_above habove, migratedImage_v1 hversion, versionImage,
    Function.update_of_ne hne, secondaryImage, if_neg hslot, v1Image_of_apart (.inr hlo)]

/-- The secondary slot is erased.
SOURCE: EEPROM_Manager.cpp:58-101 -/
theorem read_init_secondary
    (hversion : EepromManager.readByte flash EepromAddresses.schemaVersion = 0) {i : ℕ}
    (hi : i < 6) :
    (EepromManager.powerUp flash).init.read (EepromAddresses.knownMasterMacSecondary + i) =
      0xFF := by
  have habove : EepromAddresses.rebootCount < EepromAddresses.knownMasterMacSecondary + i :=
    Nat.lt_add_right i (by decide)
  have hne : EepromAddresses.knownMasterMacSecondary + i ≠ EepromAddresses.schemaVersion := by
    simp only [EepromAddresses.knownMasterMacSecondary, EepromAddresses.schemaVersion]
    omega
  rw [read_init, validatedImage_above habove, migratedImage_v1 hversion, versionImage,
    Function.update_of_ne hne, secondaryImage,
    if_pos ⟨Nat.le_add_right _ _, Nat.add_lt_add_left hi _⟩]

/-- An address is loaded from its six bytes. -/
theorem loadMac_eq {em : EepromManager} (hinit : em.isInitialized = true) (address : ℕ)
    (mac : MacAddress) :
    em.loadMac address mac = EepromField.macOf (readVector em.read address 6) mac := by
  rw [EepromManager.loadMac, hinit]
  rfl

/-- An address is unset exactly when its six bytes are erased. -/
theorem macOf_unset_iff (image : ℕ → UInt8) (address : ℕ) (mac : MacAddress) :
    (EepromField.macOf (readVector image address 6) mac).1 = false ↔
      ∀ i < 6, image (address + i) = 0xFF := by
  rw [EepromField.macOf, bne_eq_false_iff_eq]
  exact readVector_eq_replicate_iff image address 6 0xFF

/-- The trusted master after the migration is whatever the chip held there. -/
theorem loadKnownMasterMac_leftover
    (hversion : EepromManager.readByte flash EepromAddresses.schemaVersion = 0)
    (mac : MacAddress) :
    (EepromManager.powerUp flash).init.loadKnownMasterMac mac = EepromField.macOf
      (readVector (EepromManager.readByte flash) EepromAddresses.knownMasterMac 6) mac := by
  rw [EepromManager.loadKnownMasterMac, loadMac_eq (init_isInitialized flash)]
  apply congrArg (EepromField.macOf · mac)
  apply readVector_congr
  intro i hlo hhi
  simp only [EepromAddresses.knownMasterMac] at hlo hhi
  apply read_init_leftover hversion
  · simp only [EepromAddresses.bootEpoch]
    omega
  · simp only [EepromAddresses.knownMasterMacSecondary]
    omega
  · simp only [EepromAddresses.schemaVersion]
    omega

/-- The known master is unset exactly when its six bytes were erased. -/
theorem loadKnownMasterMac_unset_iff
    (hversion : EepromManager.readByte flash EepromAddresses.schemaVersion = 0) :
    (∀ mac, ((EepromManager.powerUp flash).init.loadKnownMasterMac mac).1 = false) ↔
      ∀ i < 6, EepromManager.readByte flash (EepromAddresses.knownMasterMac + i) = 0xFF := by
  simp only [loadKnownMasterMac_leftover hversion, macOf_unset_iff, forall_const]

/-- The secondary master is unset always. -/
theorem loadKnownMasterMacSecondary_unset
    (hversion : EepromManager.readByte flash EepromAddresses.schemaVersion = 0)
    (mac : MacAddress) :
    ((EepromManager.powerUp flash).init.loadKnownMasterMacSecondary mac).1 = false := by
  rw [EepromManager.loadKnownMasterMacSecondary, loadMac_eq (init_isInitialized flash),
    macOf_unset_iff]
  exact fun i hi => read_init_secondary hversion hi

/-- The boot epoch is unset exactly when its bytes were erased or zero. -/
theorem loadBootEpoch_unset_iff
    (hversion : EepromManager.readByte flash EepromAddresses.schemaVersion = 0) :
    (EepromManager.powerUp flash).init.loadBootEpoch = 0 ↔
      (∀ i < 4, EepromManager.readByte flash (EepromAddresses.bootEpoch + i) = 0xFF) ∨
        ∀ i < 4, EepromManager.readByte flash (EepromAddresses.bootEpoch + i) = 0 := by
  have hsame : ∀ i < 4, (EepromManager.powerUp flash).init.read (EepromAddresses.bootEpoch + i) =
      EepromManager.readByte flash (EepromAddresses.bootEpoch + i) := by
    intro i hi
    simp only [EepromAddresses.bootEpoch]
    apply read_init_leftover hversion
    · simp only [EepromAddresses.bootEpoch]
      omega
    · simp only [EepromAddresses.knownMasterMacSecondary]
      omega
    · simp only [EepromAddresses.schemaVersion]
      omega
  have hfirst := hsame 0 (by omega)
  rw [Nat.add_zero] at hfirst
  have hload : (EepromManager.powerUp flash).init.loadBootEpoch = EepromField.epochOf
      (EepromManager.wordOfBytes (EepromManager.readByte flash EepromAddresses.bootEpoch)
        (EepromManager.readByte flash (EepromAddresses.bootEpoch + 1))
        (EepromManager.readByte flash (EepromAddresses.bootEpoch + 2))
        (EepromManager.readByte flash (EepromAddresses.bootEpoch + 3))) := by
    rw [EepromManager.loadBootEpoch, init_isInitialized, hfirst, hsame 1 (by omega),
      hsame 2 (by omega), hsame 3 (by omega)]
    rfl
  have hbytes : ∀ v : UInt8, (∀ i < 4, EepromManager.readByte flash
      (EepromAddresses.bootEpoch + i) = v) ↔
        EepromManager.readByte flash EepromAddresses.bootEpoch = v ∧
          EepromManager.readByte flash (EepromAddresses.bootEpoch + 1) = v ∧
            EepromManager.readByte flash (EepromAddresses.bootEpoch + 2) = v ∧
              EepromManager.readByte flash (EepromAddresses.bootEpoch + 3) = v := by
    intro v
    constructor
    · intro h
      exact ⟨h 0 (by omega), h 1 (by omega), h 2 (by omega), h 3 (by omega)⟩
    · rintro ⟨hzero, hone, htwo, hthree⟩ i hi
      obtain rfl | rfl | rfl | rfl : i = 0 ∨ i = 1 ∨ i = 2 ∨ i = 3 := by omega
      · exact hzero
      · exact hone
      · exact htwo
      · exact hthree
  rw [hload, epochOf_wordOfBytes_eq_zero_iff, hbytes, hbytes]

/-- The transmit power is the default exactly when its byte was 2 or more. -/
theorem loadTxPowerPreset_unset_iff
    (hversion : EepromManager.readByte flash EepromAddresses.schemaVersion = 0) :
    (EepromManager.powerUp flash).init.loadTxPowerPreset = 2 ↔
      2 ≤ EepromManager.readByte flash EepromAddresses.txPowerPreset := by
  rw [EepromManager.loadTxPowerPreset, init_isInitialized,
    read_init_leftover hversion (by decide) (by decide) (by decide)]
  exact presetOf_eq_default_iff _

/-- The node ID is unset exactly when its byte was erased or zero. -/
theorem loadNodeId_unset_iff
    (hversion : EepromManager.readByte flash EepromAddresses.schemaVersion = 0) :
    (EepromManager.powerUp flash).init.loadNodeId = 0 ↔
      EepromManager.readByte flash EepromAddresses.nodeId = 0xFF ∨
        EepromManager.readByte flash EepromAddresses.nodeId = 0 := by
  rw [← unlessErased_eq_zero_iff, EepromManager.loadNodeId, init_isInitialized,
    read_init_leftover hversion (by decide) (by decide) (by decide), EepromField.unlessErased]
  simp

end Later

/-- **When a migrated first layout has its later fields unset.**
SOURCE: EEPROM_Manager.cpp:52-112, 451-517, 536-568 -/
theorem laterUnset_iff (flash : EepromImage)
    (hversion : EepromManager.readByte flash EepromAddresses.schemaVersion = 0) :
    LaterUnset (EepromManager.powerUp flash).init ↔ LeftoversUnset flash := by
  constructor
  · rintro ⟨hmac, -, hepoch, hpreset, hid⟩
    exact ⟨(loadKnownMasterMac_unset_iff hversion).mp hmac,
      (loadBootEpoch_unset_iff hversion).mp hepoch,
      (loadTxPowerPreset_unset_iff hversion).mp hpreset,
      (loadNodeId_unset_iff hversion).mp hid⟩
  · rintro ⟨hmac, hepoch, hpreset, hid⟩
    exact ⟨(loadKnownMasterMac_unset_iff hversion).mpr hmac,
      loadKnownMasterMacSecondary_unset hversion,
      (loadBootEpoch_unset_iff hversion).mpr hepoch,
      (loadTxPowerPreset_unset_iff hversion).mpr hpreset,
      (loadNodeId_unset_iff hversion).mpr hid⟩

/-- On an erased first schema all later fields are unset. -/
theorem laterUnset_iff_erasedV1 : LaterUnset (EepromManager.powerUp erasedV1).init :=
  (laterUnset_iff erasedV1 rfl).mpr ⟨by decide, .inl (by decide), by decide, .inl (by decide)⟩

/-- A first layout whose upper half is zero gets an all-zero trusted master.
SOURCE: EEPROM_Manager.cpp:52-112, 469-483 -/
theorem not_laterUnset_zeroed :
    EepromManager.readByte (fun _ => 0) EepromAddresses.schemaVersion = 0 ∧
      (EepromManager.powerUp fun _ => 0).init.loadKnownMasterMac broadcastMac = (true, zeroMac) ∧
        ¬LaterUnset (EepromManager.powerUp fun _ => 0).init := by
  have hversion : EepromManager.readByte (fun _ => 0) EepromAddresses.schemaVersion = 0 := rfl
  have hmac := loadKnownMasterMac_leftover hversion broadcastMac
  have hzero : EepromField.macOf (readVector (EepromManager.readByte fun _ => 0)
      EepromAddresses.knownMasterMac 6) broadcastMac = (true, zeroMac) := rfl
  refine ⟨hversion, hmac.trans hzero, fun hunset => ?_⟩
  have hfalse := hunset.knownMasterMac broadcastMac
  rw [hmac, hzero] at hfalse
  cases hfalse

end SchemaMigration

end LatticeNodes.Analysis
