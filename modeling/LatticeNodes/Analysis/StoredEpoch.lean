import LatticeNodes.Analysis.EepromSaves
import LatticeNodes.Analysis.SchemaMigration
import LatticeNodes.Program.MeshInit

/-!
# The stored boot epoch

Where the epoch is between two boots: `Carries em epoch` says that RAM and flash both hold it, so
that a power loss keeps it, as do a commit (`carries_commit`), every save of another field
(`Carries.run`) and the migrations that wipe nothing.  Only `saveBootEpoch` moves it, in RAM and
flash at once (`Carries.saveBootEpoch`).

The flag of the development mode is carried along: a production node stays one.
-/

set_option autoImplicit false

namespace LatticeNodes.Analysis

open LatticeNodes.Program CachedMemory FieldStore

namespace BootEpochs

open EepromFields

/-- The image of a production node that holds the epoch, 0 when none was stored. -/
structure Reads (image : ℕ → UInt8) (epoch : UInt32) : Prop where
  bootEpoch : fieldStore.view image .bootEpoch = epoch
  devFlag : fieldStore.view image .devFlag = false

/-- RAM and flash hold the epoch, whatever else waits for a commit. -/
structure Carries (em : EepromManager) (epoch : UInt32) : Prop where
  reliable : em.memory.Reliable
  ram : Reads em.read epoch
  flash : Reads (EepromManager.readByte em.memory.backing) epoch

section Image

variable {image image' : ℕ → UInt8} {epoch : UInt32}

/-- The epoch is in its own four bytes and the development flag. -/
theorem Reads.congr (h : Reads image epoch)
    (hflag : image' EepromAddresses.devFlag = image EepromAddresses.devFlag)
    (hepoch : ∀ i, EepromAddresses.bootEpoch ≤ i → i < EepromAddresses.bootEpoch + 4 →
      image' i = image i) : Reads image' epoch where
  bootEpoch := ((field .bootEpoch).read_congr hepoch).trans h.bootEpoch
  devFlag := by
    refine ((field .devFlag).read_congr fun i hlo hhi => ?_).trans h.devFlag
    have hone : i < EepromAddresses.devFlag + 1 := hhi
    obtain rfl : i = EepromAddresses.devFlag := Nat.le_antisymm (Nat.le_of_lt_succ hone) hlo
    exact hflag

/-- The migrations know neither the epoch nor the flag.
SOURCE: EEPROM_Manager.cpp:44-124 -/
theorem Reads.migratedImage (h : Reads image epoch)
    (hversion : image EepromAddresses.schemaVersion ∈ ([0, 1, 2, 3, 0xFF] : List UInt8)) :
    Reads (SchemaMigration.migratedImage image) epoch := by
  have hkept : ∀ i < EepromAddresses.schemaVersion,
      i < EepromAddresses.peerList ∨ EepromAddresses.bootEpoch ≤ i →
        SchemaMigration.migratedImage image i = image i := by
    intro i hi hapart
    rw [SchemaMigration.migratedImage_eq hversion hi]
    generalize SchemaMigration.Layout.ofVersion _ = l
    cases l with
    | v1 => exact SchemaMigration.v1Image_of_apart hapart
    | current => rfl
  refine h.congr (hkept _ (by decide) (.inl (by decide))) fun i hlo hhi => ?_
  exact hkept i (hhi.trans (by decide)) (.inr hlo)

/-- SOURCE: EEPROM_Manager.cpp:126-132 -/
theorem Reads.validatedImage (h : Reads image epoch) :
    Reads (SchemaMigration.validatedImage image) epoch := by
  have hkept : ∀ i, i ≠ EepromAddresses.rebootReason → i ≠ EepromAddresses.rebootCount →
      SchemaMigration.validatedImage image i = image i := by
    intro i hreason hcount
    rw [SchemaMigration.validatedImage, if_neg fun h => hreason h.1, if_neg fun h => hcount h.1]
  have hbelow : EepromAddresses.rebootReason < EepromAddresses.bootEpoch ∧
      EepromAddresses.rebootCount < EepromAddresses.bootEpoch := by decide
  refine h.congr (hkept _ (by decide) (by decide)) fun i hlo _ => ?_
  exact hkept i (by omega) (by omega)

end Image

/-! ## Commits and power losses -/

section Carries

variable {em : EepromManager} {epoch : UInt32}

/-- **A commit that succeeds stores the epoch that RAM holds.** -/
theorem carries_commit (hreliable : em.memory.Reliable) (hram : Reads em.read epoch) :
    Carries em.commit epoch := by
  refine ⟨hreliable.commit, ?_, ?_⟩
  · show Reads (EepromManager.readByte em.memory.commit.cache) epoch
    rw [Memory.commit_cache]
    exact hram
  · rw [EepromManager.commit, hreliable.commit_backing]
    exact hram

/-- On a reliable flash a committed save carries what RAM reads. -/
theorem carries_committedSave (hreliable : em.memory.Reliable) {writes : List (ℕ × UInt8)}
    (hram : Reads (em.committedSave writes).read epoch) :
    Carries (em.committedSave writes) epoch := by
  refine carries_commit (hreliable.writeAll _) ?_
  have hcache : Reads (EepromManager.readByte (em.committedSave writes).memory.cache) epoch := hram
  rw [committedSave_cache] at hcache
  exact hcache

/-- A deferred save does not touch the flash. -/
theorem Carries.deferredSave (h : Carries em epoch) {writes : List (ℕ × UInt8)}
    (hram : Reads (em.deferredSave writes).read epoch) :
    Carries (em.deferredSave writes) epoch := by
  refine ⟨h.reliable.writeAll _, hram, ?_⟩
  rw [EepromManager.deferredSave, EepromManager.markDirty, EepromManager.write,
    Memory.writeAll_backing]
  exact h.flash

/-- A timed flush carries the epoch on.
SOURCE: EEPROM_Manager.cpp:169-178 -/
theorem Carries.flushIfDirty (h : Carries em epoch) (millis : UInt32) :
    Carries (em.flushIfDirty millis) epoch := by
  have hcommit := carries_commit h.reliable h.ram
  unfold EepromManager.flushIfDirty
  split
  · exact h
  · split
    · exact h
    · exact ⟨hcommit.reliable, hcommit.ram, hcommit.flash⟩

/-- A forced flush carries the epoch on.
SOURCE: EEPROM_Manager.cpp:180-186 -/
theorem Carries.forceFlush (h : Carries em epoch) (millis : UInt32) :
    Carries (em.forceFlush millis) epoch := by
  have hcommit := carries_commit h.reliable h.ram
  unfold EepromManager.forceFlush
  split
  · exact h
  · exact ⟨hcommit.reliable, hcommit.ram, hcommit.flash⟩

/-! ## Initialisation -/

/-- The stored schema version is above the known ones: `init()` wipes the EEPROM.
SOURCE: EEPROM_Manager.cpp:115-123 -/
def Wipes (em : EepromManager) : Prop :=
  em.read EepromAddresses.schemaVersion ≠ 0xFF ∧
    EepromSizes.currentSchemaVersion < em.read EepromAddresses.schemaVersion

instance (em : EepromManager) : Decidable (Wipes em) :=
  inferInstanceAs (Decidable (_ ∧ _))

/-- A version that is not wiped is known. -/
theorem known_of_not_wipes (h : ¬Wipes em) :
    em.read EepromAddresses.schemaVersion ∈ ([0, 1, 2, 3, 0xFF] : List UInt8) := by
  unfold Wipes at h
  generalize em.read EepromAddresses.schemaVersion = v at h ⊢
  have hcases : v = 0xFF ∨ v.toNat ≤ 3 := by
    by_cases hblank : v = 0xFF
    · exact .inl hblank
    · right
      have hle : ¬EepromSizes.currentSchemaVersion < v := fun hlt => h ⟨hblank, hlt⟩
      rw [UInt8.not_lt, UInt8.le_iff_toNat_le] at hle
      exact hle
  simp only [List.mem_cons, List.not_mem_nil, or_false, ← UInt8.toNat_inj]
  rcases hcases with rfl | hle
  · exact .inr (.inr (.inr (.inr rfl)))
  · have hzero : (0 : UInt8).toNat = 0 := rfl
    have hone : (1 : UInt8).toNat = 1 := rfl
    have htwo : (2 : UInt8).toNat = 2 := rfl
    have hthree : (3 : UInt8).toNat = 3 := rfl
    omega

/-- The manager when `EEPROM.begin` has succeeded.
SOURCE: EEPROM_Manager.cpp:36-43 -/
def begun (em : EepromManager) : EepromManager := { em with isInitialized := true }

/-- **A migration that wipes nothing keeps the epoch.** -/
theorem Carries.migrate (h : Carries em epoch) (hinit : em.isInitialized = true)
    (hwipes : ¬Wipes em) : Carries em.migrate epoch := by
  have hram : Reads em.migrate.read epoch := by
    rw [SchemaMigration.read_migrate hinit]
    exact h.ram.migratedImage (known_of_not_wipes hwipes)
  rcases version_cases em with hcurrent | holder | hnewer
  · rw [migrate_current hcurrent]
    exact h
  · obtain ⟨writes, hmigrate, -, -⟩ := migrate_older holder
    rw [hmigrate] at hram ⊢
    exact carries_committedSave (h.reliable.writeAll _) hram
  · exact absurd hnewer hwipes

/-- The validation carries it on.
SOURCE: EEPROM_Manager.cpp:126-133 -/
theorem Carries.validateRebootBytes (h : Carries em epoch) :
    Carries em.validateRebootBytes epoch := by
  have hram : Reads em.validateRebootBytes.read epoch := by
    rw [SchemaMigration.read_validateRebootBytes]
    exact h.ram.validatedImage
  rw [validateRebootBytes_writes] at hram ⊢
  exact carries_committedSave h.reliable hram

/-- A migration leaves a production node one.
SOURCE: EEPROM_Manager.cpp:44-124 -/
theorem production_migrate (hinit : em.isInitialized = true) (hdev : em.isDevMode = false)
    (hreliable : em.memory.Reliable) : Production em.migrate := by
  have hmigrated := migrate_migrated hinit hreliable
  exact ⟨hmigrated.isInitialized.trans hinit, hmigrated.isDevMode.trans hdev⟩

/-- The validation leaves a production node one.
SOURCE: EEPROM_Manager.cpp:126-133 -/
theorem production_validateRebootBytes (h : Production em) :
    Production em.validateRebootBytes := by
  rw [validateRebootBytes_writes]
  exact ⟨h.isInitialized, h.isDevMode⟩

/-! ## Saves -/

/-- The saves of the firmware but the one in `Mesh::init` (`Mesh.cpp:379`): it never sets the
development flag, and the wipes are left out. -/
def sparesEpoch : SaveCall → Bool
  | .devFlag _ | .bootEpoch _ | .clearAll | .clearRange _ _ => false
  | _ => true

/-- A call that spares the epoch is on a field. -/
theorem onField_of_sparesEpoch {c : SaveCall} (h : sparesEpoch c = true) : OnField c := by
  cases c with
  | clearAll => cases h
  | clearRange startAddr endAddr => cases h
  | _ => exact True.intro

/-- A call that spares the epoch spares its field and the development flag. -/
theorem spares_of_sparesEpoch {c : SaveCall} (h : sparesEpoch c = true) :
    fieldStore.Spares c .bootEpoch ∧ fieldStore.Spares c .devFlag := by
  have hspares : ∀ k ∈ [EepromField.bootEpoch, .devFlag], fieldStore.Spares c k := by
    apply spares_of_fieldOf
    intro k hfor hmem
    cases c with
    | devFlag isDev => cases h
    | bootEpoch epoch => cases h
    | clearAll => cases hfor
    | clearRange startAddr endAddr => cases hfor
    | _ =>
        cases hfor
        exact absurd hmem (by decide)
  exact ⟨hspares .bootEpoch (by simp), hspares .devFlag (by simp)⟩

/-- The writes of such a call leave the epoch. -/
theorem Reads.overwrite_of_spares {image : ℕ → UInt8} (h : Reads image epoch) {c : SaveCall}
    (hspares : sparesEpoch c = true) : Reads (overwrite image (writesOf c)) epoch := by
  obtain ⟨hepoch, hflag⟩ := spares_of_sparesEpoch hspares
  exact ⟨(fieldStore.view_overwrite_of_spares image hepoch).trans h.bootEpoch,
    (fieldStore.view_overwrite_of_spares image hflag).trans h.devFlag⟩

/-- A save keeps what its bytes in RAM keep. -/
theorem Carries.run_of_reads (h : Carries em epoch) {c : SaveCall} {epoch' : UInt32}
    (hcommits : epoch' = epoch ∨ commitsAtOnce c = true) (haccepts : Accepts em c)
    (hram : Reads (c.run em).read epoch') : Carries (c.run em) epoch' := by
  rw [run_of_accepts haccepts, store] at hram ⊢
  split at hram
  · exact carries_committedSave h.reliable hram
  · next hdeferred =>
    obtain rfl : epoch' = epoch := by
      rcases hcommits with heq | hcommits
      · exact heq
      · rw [hdeferred] at hcommits
        cases hcommits
    exact h.deferredSave hram

/-- **A save of another field keeps the epoch.** -/
theorem Carries.run (h : Carries em epoch) (hproduction : Production em) {c : SaveCall}
    (hspares : sparesEpoch c = true) : Carries (c.run em) epoch := by
  by_cases haccepts : Accepts em c
  · apply h.run_of_reads (.inl rfl) haccepts
    rw [run_read hproduction (onField_of_sparesEpoch hspares)]
    exact h.ram.overwrite_of_spares hspares
  · rw [run_of_not_accepts haccepts]
    exact h

/-- **The save of an epoch moves RAM and flash to it.**
SOURCE: EEPROM_Manager.cpp:458-466 -/
theorem Carries.saveBootEpoch (h : Carries em epoch) (hproduction : Production em)
    {epoch' : UInt32} (hset : epoch' ≠ 0xFFFFFFFF) : Carries (em.saveBootEpoch epoch') epoch' := by
  have haccepts : Accepts em (.bootEpoch epoch') :=
    And.intro hproduction.isInitialized hproduction.isDevMode
  refine @Carries.run_of_reads em epoch h (.bootEpoch epoch') epoch' (.inr rfl) haccepts ?_
  rw [@run_read em hproduction (.bootEpoch epoch') True.intro]
  constructor
  · have hlands := @fieldStore.lands (.bootEpoch epoch') ⟨.bootEpoch, EepromField.epochOf epoch'⟩
      em.read rfl
    have hepoch : EepromField.epochOf epoch' = epoch' := if_neg hset
    rw [hepoch] at hlands
    exact hlands
  · have hspares : fieldStore.Spares (.bootEpoch epoch') .devFlag := by
      intro r hr
      cases hr
      exact nofun
    exact (fieldStore.view_overwrite_of_spares em.read hspares).trans h.ram.devFlag

end Carries

end BootEpochs

end LatticeNodes.Analysis
