import LatticeNodes.Analysis.EepromInit
import LatticeNodes.Analysis.EepromStore

/-!
# The EEPROM image after `init()`

`read_init` gives every byte that a boot finds after `EEPROM_Manager::init`, as a function of the
512 bytes in flash: the migration for the stored schema version (`migratedImage`), then the
validation of the watchdog bytes (`validatedImage`).  A version 1 layout has its keypair and its
flag 320 addresses below the current ones, and the copy is complete before anything is wiped.
-/

set_option autoImplicit false

namespace LatticeNodes.Analysis

open LatticeNodes.Program CachedMemory FieldStore

namespace SchemaMigration

open EepromFields

/-! ## Images -/

/-- The distance between the two places of the keypair, its CRC and the enrolled flag.
SOURCE: EEPROM_Manager.h:46-49, 58-63 -/
def v1Distance : ℕ := EepromAddresses.privateKey - EepromAddresses.v1PrivateKey

/-- The first migration: watchdog bytes and keypair at their new addresses, an empty peer list.
SOURCE: EEPROM_Manager.cpp:58-101 -/
def v1Image (image : ℕ → UInt8) (i : ℕ) : UInt8 :=
  if EepromAddresses.peerList ≤ i ∧ i < EepromAddresses.rebootReason then 0xFF
  else if i = EepromAddresses.rebootReason then
    if image EepromAddresses.v1RebootReason = 0x00 then 0xFF
    else image EepromAddresses.v1RebootReason
  else if i = EepromAddresses.rebootCount then
    if 10 < image EepromAddresses.v1RebootCount then 0 else image EepromAddresses.v1RebootCount
  else if EepromAddresses.privateKey ≤ i ∧ i < EepromAddresses.bootEpoch then
    image (i - v1Distance)
  else image i

/-- The second migration: an unset secondary master.
SOURCE: EEPROM_Manager.cpp:102-109 -/
def secondaryImage (image : ℕ → UInt8) (i : ℕ) : UInt8 :=
  if EepromAddresses.knownMasterMacSecondary ≤ i ∧
      i < EepromAddresses.knownMasterMacSecondary + 6 then 0xFF
  else image i

def versionImage (image : ℕ → UInt8) : ℕ → UInt8 :=
  Function.update image EepromAddresses.schemaVersion EepromSizes.currentSchemaVersion

/-- The image after the migration handlers.
SOURCE: EEPROM_Manager.cpp:44-124 -/
def migratedImage (image : ℕ → UInt8) : ℕ → UInt8 :=
  let storedVersion := image EepromAddresses.schemaVersion
  if storedVersion = EepromSizes.currentSchemaVersion then image
  else if storedVersion = 0xFF then versionImage image
  else if storedVersion = 0 then versionImage (secondaryImage (v1Image image))
  else if storedVersion < EepromSizes.currentSchemaVersion then
    versionImage (secondaryImage image)
  else versionImage (EepromManager.readByte blankImage)

/-- The image after the validation.
SOURCE: EEPROM_Manager.cpp:126-132 -/
def validatedImage (image : ℕ → UInt8) (i : ℕ) : UInt8 :=
  if i = EepromAddresses.rebootReason ∧ image i = 0x00 then 0xFF
  else if i = EepromAddresses.rebootCount ∧ 10 < image i then 0
  else image i

/-! ## The first migration -/

section First

variable (em : EepromManager)

/-- The copies of the keypair.
SOURCE: EEPROM_Manager.cpp:74-79 -/
def keyCopies (image : ℕ → UInt8) : List (ℕ × UInt8) :=
  (List.range 32).flatMap fun i =>
    [(EepromAddresses.privateKey + i, image (EepromAddresses.v1PrivateKey + i)),
      (EepromAddresses.publicKey + i, image (EepromAddresses.v1PublicKey + i))]

/-- The copies of the CRC and the enrolled flag.
SOURCE: EEPROM_Manager.cpp:80-84 -/
def flagCopies (image : ℕ → UInt8) : List (ℕ × UInt8) :=
  [(EepromAddresses.keypairCrc, image EepromAddresses.v1KeypairCrc),
    (EepromAddresses.keypairCrc + 1, image (EepromAddresses.v1KeypairCrc + 1)),
    (EepromAddresses.enrolledFlag, image EepromAddresses.v1EnrolledFlag)]

/-- The keys are copied from their place in the first schema.
SOURCE: EEPROM_Manager.cpp:58-101 -/
theorem mem_keyCopies {image : ℕ → UInt8} {w : ℕ × UInt8} (h : w ∈ keyCopies image) :
    EepromAddresses.privateKey ≤ w.1 ∧ w.1 < EepromAddresses.keypairCrc ∧
      w.2 = image (w.1 - v1Distance) := by
  obtain ⟨i, hi, hw⟩ := List.mem_flatMap.mp h
  rw [List.mem_range] at hi
  simp only [List.mem_cons, List.not_mem_nil, or_false] at hw
  rcases hw with rfl | rfl
  · have hsource : EepromAddresses.privateKey + i - v1Distance =
        EepromAddresses.v1PrivateKey + i := by
      simp only [v1Distance, EepromAddresses.privateKey, EepromAddresses.v1PrivateKey]
      omega
    refine ⟨Nat.le_add_right _ _, ?_, congrArg image hsource.symm⟩
    simp only [EepromAddresses.privateKey, EepromAddresses.keypairCrc]
    omega
  · have hsource : EepromAddresses.publicKey + i - v1Distance =
        EepromAddresses.v1PublicKey + i := by
      simp only [v1Distance, EepromAddresses.privateKey, EepromAddresses.v1PrivateKey,
        EepromAddresses.publicKey, EepromAddresses.v1PublicKey]
      omega
    refine ⟨?_, ?_, congrArg image hsource.symm⟩
    · simp only [EepromAddresses.privateKey, EepromAddresses.publicKey]
      omega
    · simp only [EepromAddresses.publicKey, EepromAddresses.keypairCrc]
      omega

/-- Every byte of the keys is copied to.
SOURCE: EEPROM_Manager.cpp:58-101 -/
theorem keyCopies_named (image : ℕ → UInt8) {i : ℕ} (hlo : EepromAddresses.privateKey ≤ i)
    (hhi : i < EepromAddresses.keypairCrc) : ∃ w ∈ keyCopies image, w.1 = i := by
  simp only [EepromAddresses.privateKey] at hlo
  simp only [EepromAddresses.keypairCrc] at hhi
  by_cases hprivate : i < EepromAddresses.publicKey
  · simp only [EepromAddresses.publicKey] at hprivate
    have hindex : i - 417 ∈ List.range 32 := List.mem_range.mpr (by omega)
    refine ⟨_, List.mem_flatMap.mpr ⟨_, hindex, List.mem_cons_self⟩, ?_⟩
    simp only [EepromAddresses.privateKey]
    omega
  · simp only [EepromAddresses.publicKey] at hprivate
    have hindex : i - 449 ∈ List.range 32 := List.mem_range.mpr (by omega)
    refine ⟨_, List.mem_flatMap.mpr ⟨_, hindex, List.mem_cons_of_mem _ List.mem_cons_self⟩, ?_⟩
    simp only [EepromAddresses.publicKey]
    omega

/-- The checksum and the flags are copied from their place in the first schema.
SOURCE: EEPROM_Manager.cpp:58-101 -/
theorem mem_flagCopies {image : ℕ → UInt8} {w : ℕ × UInt8} (h : w ∈ flagCopies image) :
    EepromAddresses.keypairCrc ≤ w.1 ∧ w.1 < EepromAddresses.bootEpoch ∧
      w.2 = image (w.1 - v1Distance) := by
  simp only [flagCopies, List.mem_cons, List.not_mem_nil, or_false] at h
  have hbounds : ∀ a ∈ [EepromAddresses.keypairCrc, EepromAddresses.keypairCrc + 1,
      EepromAddresses.enrolledFlag], EepromAddresses.keypairCrc ≤ a ∧
        a < EepromAddresses.bootEpoch := by decide
  have hcrc : EepromAddresses.v1KeypairCrc = EepromAddresses.keypairCrc - v1Distance := by decide
  have hcrcHigh : EepromAddresses.v1KeypairCrc + 1 =
      EepromAddresses.keypairCrc + 1 - v1Distance := by decide
  have hflag : EepromAddresses.v1EnrolledFlag = EepromAddresses.enrolledFlag - v1Distance := by
    decide
  rcases h with rfl | rfl | rfl
  · obtain ⟨hlo, hhi⟩ := hbounds _ List.mem_cons_self
    exact ⟨hlo, hhi, congrArg image hcrc⟩
  · obtain ⟨hlo, hhi⟩ := hbounds _ (List.mem_cons_of_mem _ List.mem_cons_self)
    exact ⟨hlo, hhi, congrArg image hcrcHigh⟩
  · obtain ⟨hlo, hhi⟩ :=
      hbounds _ (List.mem_cons_of_mem _ (List.mem_cons_of_mem _ List.mem_cons_self))
    exact ⟨hlo, hhi, congrArg image hflag⟩

/-- Every byte of the checksum and the flags is copied to.
SOURCE: EEPROM_Manager.cpp:58-101 -/
theorem flagCopies_named (image : ℕ → UInt8) {i : ℕ} (hlo : EepromAddresses.keypairCrc ≤ i)
    (hhi : i < EepromAddresses.bootEpoch) : ∃ w ∈ flagCopies image, w.1 = i := by
  simp only [EepromAddresses.keypairCrc] at hlo
  simp only [EepromAddresses.bootEpoch] at hhi
  have hcases : i = 481 ∨ i = 482 ∨ i = 483 := by omega
  rcases hcases with rfl | rfl | rfl
  · exact ⟨_, List.mem_cons_self, rfl⟩
  · exact ⟨_, List.mem_cons_of_mem _ List.mem_cons_self, rfl⟩
  · exact ⟨_, List.mem_cons_of_mem _ (List.mem_cons_of_mem _ List.mem_cons_self), rfl⟩

/-- The copies, one list after the other, are one copy over the fixed distance. -/
theorem overwrite_copies (image : ℕ → UInt8) (i : ℕ) :
    overwrite (overwrite image (keyCopies image)) (flagCopies (overwrite image (keyCopies image)))
      i = if EepromAddresses.privateKey ≤ i ∧ i < EepromAddresses.bootEpoch then
        image (i - v1Distance) else image i := by
  have hkeys : ∀ j < EepromAddresses.privateKey, overwrite image (keyCopies image) j = image j := by
    intro j hj
    apply overwrite_of_notMem
    intro w hw heq
    have hlo := (mem_keyCopies hw).1
    omega
  have hsource : ∀ j, EepromAddresses.keypairCrc ≤ j → j < EepromAddresses.bootEpoch →
      overwrite image (keyCopies image) (j - v1Distance) = image (j - v1Distance) := by
    intro j hlo hhi
    apply hkeys
    simp only [EepromAddresses.bootEpoch] at hhi
    simp only [v1Distance, EepromAddresses.privateKey, EepromAddresses.v1PrivateKey]
    omega
  have hbounds : EepromAddresses.privateKey < EepromAddresses.keypairCrc ∧
      EepromAddresses.keypairCrc < EepromAddresses.bootEpoch := by decide
  by_cases hflag : EepromAddresses.keypairCrc ≤ i ∧ i < EepromAddresses.bootEpoch
  · rw [overwrite_of_values _ (fun j => overwrite image (keyCopies image) (j - v1Distance))
      (fun w hw => (mem_flagCopies hw).2.2) (flagCopies_named _ hflag.1 hflag.2),
      hsource i hflag.1 hflag.2, if_pos ⟨by omega, hflag.2⟩]
  · have hother : ∀ w ∈ flagCopies (overwrite image (keyCopies image)), w.1 ≠ i := by
      intro w hw heq
      obtain ⟨hlo, hhi, -⟩ := mem_flagCopies hw
      exact hflag ⟨heq ▸ hlo, heq ▸ hhi⟩
    rw [overwrite_of_notMem _ hother]
    by_cases hkey : EepromAddresses.privateKey ≤ i ∧ i < EepromAddresses.keypairCrc
    · rw [overwrite_of_values image (fun j => image (j - v1Distance))
        (fun w hw => (mem_keyCopies hw).2.2) (keyCopies_named _ hkey.1 hkey.2),
        if_pos ⟨hkey.1, by omega⟩]
    · have hoff : ¬(EepromAddresses.privateKey ≤ i ∧ i < EepromAddresses.bootEpoch) := by omega
      rw [if_neg hoff]
      apply overwrite_of_notMem
      intro w hw heq
      obtain ⟨hlo, hhi, -⟩ := mem_keyCopies hw
      exact hkey ⟨heq ▸ hlo, heq ▸ hhi⟩

/-- The copies of the watchdog bytes, repaired.
SOURCE: EEPROM_Manager.cpp:67-71 -/
def rebootCopies (image : ℕ → UInt8) : List (ℕ × UInt8) :=
  [(EepromAddresses.rebootReason, if image EepromAddresses.v1RebootReason = 0x00 then 0xFF
      else image EepromAddresses.v1RebootReason),
    (EepromAddresses.rebootCount, if 10 < image EepromAddresses.v1RebootCount then 0
      else image EepromAddresses.v1RebootCount)]

/-- The watchdog bytes move too, and a reason of zero is erased.
SOURCE: EEPROM_Manager.cpp:58-101 -/
theorem overwrite_rebootCopies (image : ℕ → UInt8) (i : ℕ) :
    overwrite image (rebootCopies image) i =
      if i = EepromAddresses.rebootReason then
        if image EepromAddresses.v1RebootReason = 0x00 then 0xFF
        else image EepromAddresses.v1RebootReason
      else if i = EepromAddresses.rebootCount then
        if 10 < image EepromAddresses.v1RebootCount then 0
        else image EepromAddresses.v1RebootCount
      else image i := by
  have hne : EepromAddresses.rebootReason ≠ EepromAddresses.rebootCount := by decide
  rw [rebootCopies, ← List.singleton_append, overwrite_append, overwrite_singleton,
    overwrite_singleton]
  by_cases hreason : i = EepromAddresses.rebootReason
  · rw [hreason, Function.update_of_ne hne, Function.update_self, if_pos rfl]
  · by_cases hcount : i = EepromAddresses.rebootCount
    · rw [hcount, Function.update_self, if_neg hne.symm, if_pos rfl]
    · rw [Function.update_of_ne hcount, Function.update_of_ne hreason, if_neg hreason,
        if_neg hcount]

/-- The watchdog bytes move inside the EEPROM. -/
theorem mem_rebootCopies {image : ℕ → UInt8} {w : ℕ × UInt8} (h : w ∈ rebootCopies image) :
    w.1 < EepromSizes.totalSize := by
  simp only [rebootCopies, List.mem_cons, List.not_mem_nil, or_false] at h
  rcases h with rfl | rfl
  · exact (by decide : EepromAddresses.rebootReason < EepromSizes.totalSize)
  · exact (by decide : EepromAddresses.rebootCount < EepromSizes.totalSize)

/-- Bytes set to `0xFF`. -/
theorem read_write_replicate {address n : ℕ} (h : address + n ≤ EepromSizes.totalSize) (i : ℕ) :
    (em.write (EepromManager.bytesAt address (List.replicate n 0xFF))).read i =
      if address ≤ i ∧ i < address + n then 0xFF else em.read i := by
  rw [read_write]
  · exact overwrite_replicate em.read address n 0xFF i
  · intro w hw
    have hhi := (mem_bytesAt hw).2.1
    rw [List.length_replicate] at hhi
    omega

/-- After the copies each byte is read from where it came. -/
theorem read_write_copies (i : ℕ) :
    ((em.write (keyCopies em.read)).write
      (flagCopies (em.write (keyCopies em.read)).read)).read i =
        if EepromAddresses.privateKey ≤ i ∧ i < EepromAddresses.bootEpoch then
          em.read (i - v1Distance) else em.read i := by
  have hkeys : ∀ w ∈ keyCopies em.read, w.1 < EepromSizes.totalSize := by
    intro w hw
    exact (mem_keyCopies hw).2.1.trans (by decide)
  rw [read_write, read_write em hkeys]
  · exact overwrite_copies em.read i
  · intro w hw
    exact (mem_flagCopies hw).2.1.trans (by decide)

/-- **The first migration, byte by byte.**
SOURCE: EEPROM_Manager.cpp:58-101 -/
theorem read_migrateV1 : em.migrateV1.read = v1Image em.read := by
  funext i
  have hstages : em.migrateV1 =
      ((((em.write (rebootCopies em.read)).write
        (keyCopies (em.write (rebootCopies em.read)).read)).write
          (flagCopies ((em.write (rebootCopies em.read)).write
            (keyCopies (em.write (rebootCopies em.read)).read)).read)).write
              (EepromManager.bytesAt 92 (List.replicate 72 0xFF))).write
                (EepromManager.bytesAt EepromAddresses.peerList
                  (List.replicate EepromSizes.peerListSize 0xFF)) := rfl
  rw [hstages, read_write_replicate _ (by decide), read_write_replicate _ (by decide),
    read_write_copies, read_write em fun w hw => mem_rebootCopies hw, overwrite_rebootCopies,
    overwrite_rebootCopies, v1Image]
  have hsize : EepromAddresses.peerList + EepromSizes.peerListSize =
      EepromAddresses.rebootReason := by decide
  rw [hsize]
  by_cases hpeers : EepromAddresses.peerList ≤ i ∧ i < EepromAddresses.rebootReason
  · rw [if_pos hpeers, if_pos hpeers]
  · have hwiped : ¬(92 ≤ i ∧ i < 92 + 72) := by
      simp only [EepromAddresses.peerList, EepromAddresses.rebootReason] at hpeers
      omega
    rw [if_neg hpeers, if_neg hpeers, if_neg hwiped]
    by_cases hkeys : EepromAddresses.privateKey ≤ i ∧ i < EepromAddresses.bootEpoch
    · have hapart : (i ≠ EepromAddresses.rebootReason ∧ i ≠ EepromAddresses.rebootCount) ∧
          i - v1Distance ≠ EepromAddresses.rebootReason ∧
            i - v1Distance ≠ EepromAddresses.rebootCount := by
        simp only [EepromAddresses.privateKey, EepromAddresses.bootEpoch] at hkeys
        simp only [v1Distance, EepromAddresses.privateKey, EepromAddresses.v1PrivateKey,
          EepromAddresses.rebootReason, EepromAddresses.rebootCount]
        omega
      rw [if_pos hkeys, if_neg hapart.1.1, if_neg hapart.1.2, if_neg hapart.2.1,
        if_neg hapart.2.2, if_pos hkeys]
    · rw [if_neg hkeys, if_neg hkeys]

end First

/-! ## The whole of `init()` -/

section Init

variable {em : EepromManager}

/-- Writing the version gives the image of the current schema. -/
theorem read_writeVersion (em : EepromManager) :
    (writeVersion em).read = versionImage em.read := by
  rw [writeVersion, read_committedSave]
  · exact overwrite_singleton _ _ _
  · intro w hw
    rw [List.mem_singleton.mp hw]
    exact (by decide : EepromAddresses.schemaVersion < EepromSizes.totalSize)

/-- Clearing the secondary slot gives the image with an unset slot. -/
theorem read_secondarySlot (em : EepromManager) :
    (em.write secondarySlot).read = secondaryImage em.read := by
  funext i
  exact read_write_replicate em (by decide) i

/-- A wipe gives the blank image. -/
theorem read_wiped (em : EepromManager) :
    (em.committedSave (EepromManager.bytesAt 0
      (List.replicate EepromSizes.totalSize 0xFF))).read = EepromManager.readByte blankImage := by
  funext i
  rw [EepromManager.read, committedSave_cache, clearAll_writes_blank]

/-- **The migration, byte by byte.**
SOURCE: EEPROM_Manager.cpp:44-124 -/
theorem read_migrate (hinit : em.isInitialized = true) :
    em.migrate.read = migratedImage em.read := by
  unfold migratedImage
  by_cases hcurrent : em.read EepromAddresses.schemaVersion = EepromSizes.currentSchemaVersion
  · rw [migrate_current hcurrent]
    exact (if_pos hcurrent).symm
  · simp only [if_neg hcurrent]
    by_cases hblank : em.read EepromAddresses.schemaVersion = 0xFF
    · rw [migrate_blank hblank, if_pos hblank, read_writeVersion]
    · rw [if_neg hblank]
      rcases version_cases em with h | (h | hless) | ⟨-, hnewer⟩
      · exact absurd h hcurrent
      · exact absurd h hblank
      · by_cases hzero : em.read EepromAddresses.schemaVersion = 0
        · obtain ⟨writes, hmigrate, -, hfirst⟩ := migrate_older (.inr hless)
          rw [hmigrate, hfirst hzero, if_pos hzero, read_writeVersion, read_secondarySlot,
            read_migrateV1]
        · have hatMost : em.read EepromAddresses.schemaVersion ≤ 2 := by
            rw [UInt8.lt_iff_toNat_lt] at hless
            rw [UInt8.le_iff_toNat_le]
            exact Nat.le_of_lt_succ hless
          have hsecond : em.migrate = writeVersion (em.write secondarySlot) := by
            unfold EepromManager.migrate
            simp only [if_neg hblank, if_pos hless, if_neg hzero, if_pos hatMost]
            rfl
          rw [hsecond, if_neg hzero, if_pos hless, read_writeVersion, read_secondarySlot]
      · have hzero : em.read EepromAddresses.schemaVersion ≠ 0 := by
          intro hzero
          rw [hzero] at hnewer
          exact absurd hnewer (by decide)
        rw [migrate_newer hinit hblank hnewer, if_neg hzero,
          if_neg (UInt8.not_lt.mpr (UInt8.le_of_lt hnewer)), read_writeVersion, read_wiped]

/-- A write that is made only under a condition. -/
theorem overwrite_ite (image : ℕ → UInt8) (p : Prop) [Decidable p] (address : ℕ) (v : UInt8)
    (i : ℕ) : overwrite image (if p then [(address, v)] else []) i =
      if i = address ∧ p then v else image i := by
  by_cases hp : p
  · rw [if_pos hp, overwrite_singleton]
    by_cases hi : i = address
    · rw [hi, Function.update_self, if_pos ⟨rfl, hp⟩]
    · rw [Function.update_of_ne hi, if_neg fun h => hi h.1]
  · rw [if_neg hp, if_neg fun h => hp h.2]
    rfl

/-- The validation writes inside the EEPROM. -/
theorem validationWrites_inRange (em : EepromManager) :
    ∀ w ∈ validationWrites em, w.1 < EepromSizes.totalSize := by
  have hreason : EepromAddresses.rebootReason < EepromSizes.totalSize := by decide
  have hcount : EepromAddresses.rebootCount < EepromSizes.totalSize := by decide
  intro w hw
  rcases List.mem_append.mp hw with hw | hw
  · split at hw
    · rw [List.mem_singleton.mp hw]
      exact hreason
    · cases hw
  · split at hw
    · rw [List.mem_singleton.mp hw]
      exact hcount
    · cases hw

/-- **The validation, byte by byte.**
SOURCE: EEPROM_Manager.cpp:126-132 -/
theorem read_validateRebootBytes (em : EepromManager) :
    em.validateRebootBytes.read = validatedImage em.read := by
  have hne : EepromAddresses.rebootReason ≠ EepromAddresses.rebootCount := by decide
  rw [validateRebootBytes_writes, read_committedSave em (validationWrites_inRange em),
    validationWrites, overwrite_append]
  funext i
  rw [overwrite_ite, overwrite_ite, validatedImage]
  by_cases hreason : i = EepromAddresses.rebootReason
  · simp [hreason, hne]
  · by_cases hcount : i = EepromAddresses.rebootCount
    · simp [hcount, hne.symm]
    · simp [hreason, hcount]

/-- **The image a boot works on.**
SOURCE: EEPROM_Manager.cpp:36-137 -/
theorem read_init (flash : EepromImage) :
    (EepromManager.powerUp flash).init.read =
      validatedImage (migratedImage (EepromManager.readByte flash)) := by
  have hinit : (EepromManager.powerUp flash).init = (EepromManager.migrate
      { EepromManager.powerUp flash with isInitialized := true }).validateRebootBytes := rfl
  rw [hinit, read_validateRebootBytes]
  exact congrArg validatedImage
    (@read_migrate { EepromManager.powerUp flash with isInitialized := true } rfl)

end Init

end SchemaMigration

end LatticeNodes.Analysis
