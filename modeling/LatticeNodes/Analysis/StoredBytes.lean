import LatticeNodes.Analysis.EepromSaves
import LatticeNodes.Analysis.StoredEpoch

/-!
# What the bytes of the EEPROM may be

`Holds allowed em` says that RAM and flash hold nothing but allowed bytes, whatever waits for a
commit and whichever commits the flash refuses.  Every operation of the manager keeps it when the
bytes it stores are allowed; a save of one field does when only other fields are restricted.
-/

set_option autoImplicit false

namespace LatticeNodes.Analysis

open LatticeNodes.Program CachedMemory FieldStore

namespace StoredBytes

open EepromFields
open BootEpochs (Wipes)

/-- Every byte of RAM and flash is allowed at its address. -/
def Holds (allowed : ℕ → UInt8 → Prop) (em : EepromManager) : Prop :=
  em.memory.Within fun (i : Fin EepromSizes.totalSize) b => allowed i b

section Saves

variable {allowed allowed' : ℕ → UInt8 → Prop} {em em' : EepromManager}
  {writes : List (ℕ × UInt8)}

/-- A bound on the bytes may be relaxed. -/
theorem Holds.mono (h : Holds allowed em) (hle : ∀ i b, allowed i b → allowed' i b) :
    Holds allowed' em :=
  Memory.Within.mono h fun i => hle i

/-- The bound speaks of the memory only. -/
theorem Holds.of_memory (h : Holds allowed em) (hmemory : em'.memory = em.memory) :
    Holds allowed em' := by
  rw [Holds, hmemory]
  exact h

/-- Every byte read is allowed. -/
theorem Holds.read (h : Holds allowed em) {i : ℕ} (hi : i < EepromSizes.totalSize) :
    allowed i (em.read i) := by
  rw [EepromManager.read, EepromManager.readByte, dif_pos hi]
  exact h.cache ⟨i, hi⟩

/-- Every byte in flash is allowed. -/
theorem Holds.flash (h : Holds allowed em) {i : ℕ} (hi : i < EepromSizes.totalSize) :
    allowed i (EepromManager.readByte em.memory.backing i) := by
  rw [EepromManager.readByte, dif_pos hi]
  exact h.backing ⟨i, hi⟩

/-- Where nothing waits for a commit, it is enough to look at RAM. -/
theorem holds_of_synced (hsynced : em.memory.Synced)
    (h : ∀ i < EepromSizes.totalSize, allowed i (em.read i)) : Holds allowed em := by
  have hcache : ∀ i : Fin EepromSizes.totalSize, allowed i (em.memory.cache i) := by
    intro i
    have hcell := h i i.isLt
    rw [EepromManager.read, EepromManager.readByte, dif_pos i.isLt] at hcell
    exact hcell
  refine ⟨hcache, fun i => ?_⟩
  rw [← hsynced]
  exact hcache i

/-- Writes of allowed bytes keep the bound. -/
theorem Holds.write (h : Holds allowed em) (hw : ∀ w ∈ writes, allowed w.1 w.2) :
    Holds allowed (em.write writes) :=
  Memory.Within.writeAll h fun w hmem => hw (w.1, w.2) (mem_inRange.mp hmem)

/-- A commit keeps the bound. -/
theorem Holds.commit (h : Holds allowed em) : Holds allowed em.commit :=
  Memory.Within.commit h

/-- A deferred save of allowed bytes keeps the bound. -/
theorem Holds.deferredSave (h : Holds allowed em) (hw : ∀ w ∈ writes, allowed w.1 w.2) :
    Holds allowed (em.deferredSave writes) :=
  (h.write hw).of_memory rfl

/-- A committed save of allowed bytes keeps the bound. -/
theorem Holds.committedSave (h : Holds allowed em) (hw : ∀ w ∈ writes, allowed w.1 w.2) :
    Holds allowed (em.committedSave writes) :=
  (h.write hw).commit

/-- A timed flush keeps the bound.
SOURCE: EEPROM_Manager.cpp:169-178 -/
theorem Holds.flushIfDirty (h : Holds allowed em) (millis : UInt32) :
    Holds allowed (em.flushIfDirty millis) := by
  unfold EepromManager.flushIfDirty
  split
  · exact h
  · split
    · exact h
    · exact h.commit.of_memory rfl

/-- A forced flush keeps the bound.
SOURCE: EEPROM_Manager.cpp:180-186 -/
theorem Holds.forceFlush (h : Holds allowed em) (millis : UInt32) :
    Holds allowed (em.forceFlush millis) := by
  unfold EepromManager.forceFlush
  split
  · exact h
  · exact h.commit.of_memory rfl

/-- A restart, which loads what is in flash, keeps the bound. -/
theorem Holds.reboot (h : Holds allowed em) : Holds allowed em.reboot :=
  Memory.Within.powerCycle h

/-- **A call keeps to what is allowed when its bytes are.** -/
theorem Holds.run (h : Holds allowed em) (c : SaveCall)
    (hw : ∀ w ∈ bytesOf c, allowed w.1 w.2) : Holds allowed (c.run em) := by
  by_cases haccepts : Accepts em c
  · rw [run_of_accepts haccepts, store]
    split
    · exact h.committedSave hw
    · exact h.deferredSave hw
  · rw [run_of_not_accepts haccepts]
    exact h

/-- What is allowed restricts the fields of a list only. -/
def OnlyOn (fields : List EepromField) (allowed : ℕ → UInt8 → Prop) : Prop :=
  ∀ i b, (∀ k ∈ fields, ¬(field k).Owns i) → allowed i b

/-- A save of another field. -/
theorem Holds.run_of_spares (h : Holds allowed em) {fields : List EepromField}
    (honly : OnlyOn fields allowed) {c : SaveCall} (hfield : OnField c)
    (hspares : ∀ k ∈ fields, fieldStore.Spares c k) : Holds allowed (c.run em) := by
  apply h.run
  intro w hw
  rw [bytesOf_eq_writesOf hfield] at hw
  obtain ⟨r, hresult, howns⟩ := writesOf_inside hw
  apply honly
  intro k hk
  exact field_disjoint (hspares k hk r hresult) _ howns

/-! ## Initialisation -/

/-- A committed save, judged by what RAM holds afterwards. -/
theorem holds_of_read
    (hflash : ∀ i : Fin EepromSizes.totalSize, allowed i (em.memory.backing i))
    (hread : ∀ i < EepromSizes.totalSize, allowed i ((em.committedSave writes).read i)) :
    Holds allowed (em.committedSave writes) := by
  have hwritten : Holds allowed (em.write writes) := by
    refine ⟨fun i => ?_, fun i => ?_⟩
    · have hcell := hread i i.isLt
      rw [EepromManager.read, committedSave_cache, EepromManager.readByte, dif_pos i.isLt] at hcell
      exact hcell
    · show allowed i ((em.memory.writeAll _).backing i)
      rw [Memory.writeAll_backing]
      exact hflash i
  exact hwritten.commit

/-- SOURCE: EEPROM_Manager.cpp:44-124 -/
theorem Holds.migrate (h : Holds allowed em) (hinit : em.isInitialized = true)
    (hwipes : Wipes em → ∀ i, allowed i 0xFF)
    (hread : ∀ i < EepromSizes.totalSize, allowed i (SchemaMigration.migratedImage em.read i)) :
    Holds allowed em.migrate := by
  rw [← SchemaMigration.read_migrate hinit] at hread
  rcases version_cases em with hcurrent | holder | hnewer
  · rw [migrate_current hcurrent]
    exact h
  · obtain ⟨writes, hmigrate, -, -⟩ := migrate_older holder
    rw [hmigrate] at hread ⊢
    refine holds_of_read (fun i => ?_) hread
    show allowed i ((em.memory.writeAll _).backing i)
    rw [Memory.writeAll_backing]
    exact h.backing i
  · rw [migrate_newer hinit hnewer.1 hnewer.2] at hread ⊢
    have hblank : Holds allowed (em.committedSave
        (EepromManager.bytesAt 0 (List.replicate EepromSizes.totalSize 0xFF))) := by
      apply h.committedSave
      intro w hw
      obtain ⟨-, -, hvalue⟩ := mem_bytesAt hw
      have hbyte : w.2 = 0xFF := List.eq_of_mem_replicate hvalue
      rw [hbyte]
      exact hwipes hnewer w.1
    exact holds_of_read hblank.backing hread

/-- SOURCE: EEPROM_Manager.cpp:126-133 -/
theorem Holds.validateRebootBytes (h : Holds allowed em)
    (hreason : ∀ b, allowed EepromAddresses.rebootReason b)
    (hcount : ∀ b, allowed EepromAddresses.rebootCount b) :
    Holds allowed em.validateRebootBytes := by
  rw [validateRebootBytes_writes]
  apply h.committedSave
  intro w hw
  rcases List.mem_append.mp hw with hw | hw
  · split at hw
    · rw [List.mem_singleton.mp hw]
      exact hreason _
    · cases hw
  · split at hw
    · rw [List.mem_singleton.mp hw]
      exact hcount _
    · cases hw

end Saves

end StoredBytes

end LatticeNodes.Analysis
