import LatticeNodes.Analysis.EepromCalls

/-!
# The two kinds of save

Every save of the EEPROM manager is skipped, deferred or committed (`Saved`), and none stores a
schema version of its own (`SchemaSafe`).  `Settled` is what all of them keep on an
initialised production node: while the dirty flag is down, flash holds what RAM holds.
-/

set_option autoImplicit false

namespace LatticeNodes.Analysis

open LatticeNodes.Program CachedMemory

/-! ## Writes that keep the schema -/

/-- The writes store no schema version but the blank one. -/
def SchemaSafe (writes : List (ℕ × UInt8)) : Prop :=
  ∀ w ∈ writes, w.1 = EepromAddresses.schemaVersion → w.2 = 0xFF

/-- A byte elsewhere is no schema version. -/
theorem schemaSafe_singleton {address : ℕ} {v : UInt8}
    (h : address ≠ EepromAddresses.schemaVersion) : SchemaSafe [(address, v)] := by
  intro w hw heq
  rw [List.mem_singleton.mp hw] at heq
  exact absurd heq h

/-- Erasing bytes writes no schema version but the erased one. -/
theorem schemaSafe_replicate (address n : ℕ) :
    SchemaSafe (EepromManager.bytesAt address (List.replicate n 0xFF)) := by
  intro w hw _
  exact List.eq_of_mem_replicate (mem_bytesAt hw).2.2

/-- No call stores a version.
SOURCE: EEPROM_Manager.cpp:188-596 -/
theorem schemaSafe_bytesOf (c : SaveCall) : SchemaSafe (EepromFields.bytesOf c) := by
  rcases EepromFields.bytesOf_cases c with heq | ⟨address, n, heq⟩
  · rw [heq]
    intro w hw haddress
    obtain ⟨r, -, howns⟩ := EepromFields.writesOf_inside hw
    rw [haddress] at howns
    exact absurd howns (EepromFields.not_owns_schemaVersion r.1)
  · rw [heq]
    exact schemaSafe_replicate address n

/-- Writes that are safe leave the schema current. -/
theorem SchemaSafe.currentSchema {em : EepromManager} {writes : List (ℕ × UInt8)}
    (hsafe : SchemaSafe writes) (h : CurrentSchema em.memory.cache) :
    CurrentSchema (em.write writes).memory.cache := by
  have hread : ∀ image : EepromImage, (bootBytes image).schemaVersion =
      image ⟨EepromAddresses.schemaVersion, by decide⟩ := by
    intro image
    simp only [bootBytes, EepromManager.readByte]
    exact dif_pos (by decide)
  rw [CurrentSchema, hread] at h ⊢
  rcases em.memory.writeAll_cache_cases ⟨EepromAddresses.schemaVersion, by decide⟩
    (EepromManager.inRange writes) with hkept | ⟨w, hw, haddress, hvalue⟩
  · rw [EepromManager.write, hkept]
    exact h
  · left
    refine hvalue.trans (hsafe _ (mem_inRange.mp hw) ?_)
    rw [haddress]

/-! ## What a save does -/

/-- A save is skipped, or writes and defers, or writes and commits. -/
inductive Saved (em : EepromManager) : EepromManager → Prop
  | skipped : Saved em em
  | deferred {writes : List (ℕ × UInt8)} (h : SchemaSafe writes) : Saved em (em.deferredSave writes)
  | committed {writes : List (ℕ × UInt8)} (h : SchemaSafe writes) :
      Saved em (em.committedSave writes)

/-- Every save is a deferred or a committed one, or nothing. -/
theorem saveCall_saved (em : EepromManager) (call : SaveCall) : Saved em (call.run em) := by
  by_cases haccepts : EepromFields.Accepts em call
  · rw [EepromFields.run_of_accepts haccepts, EepromFields.store]
    split
    · exact .committed (schemaSafe_bytesOf call)
    · exact .deferred (schemaSafe_bytesOf call)
  · rw [EepromFields.run_of_not_accepts haccepts]
    exact .skipped

/-! ## The invariant of a running production node -/

structure Settled (em : EepromManager) : Prop where
  reliable : em.memory.Reliable
  isInitialized : em.isInitialized = true
  isDevMode : em.isDevMode = false
  covers : Memory.Covers em.dirty em.memory
  cacheSchema : CurrentSchema em.memory.cache
  backingSchema : CurrentSchema em.memory.backing

/-- A deferred save raises the flag, which covers it. -/
theorem Settled.deferredSave {em : EepromManager} (h : Settled em) {writes : List (ℕ × UInt8)}
    (hsafe : SchemaSafe writes) : Settled (em.deferredSave writes) where
  reliable := h.reliable.writeAll _
  isInitialized := h.isInitialized
  isDevMode := h.isDevMode
  covers := Memory.covers_true _
  cacheSchema := hsafe.currentSchema h.cacheSchema
  backingSchema := by
    rw [EepromManager.deferredSave, EepromManager.markDirty, EepromManager.write,
      Memory.writeAll_backing]
    exact h.backingSchema

/-- A committed save leaves nothing for the flag to cover. -/
theorem Settled.committedSave {em : EepromManager} (h : Settled em) {writes : List (ℕ × UInt8)}
    (hsafe : SchemaSafe writes) : Settled (em.committedSave writes) where
  reliable := committedSave_reliable h.reliable writes
  isInitialized := h.isInitialized
  isDevMode := h.isDevMode
  covers := (committedSave_synced h.reliable writes).covers _
  cacheSchema := by
    rw [committedSave_cache]
    exact hsafe.currentSchema h.cacheSchema
  backingSchema := by
    rw [committedSave_backing h.reliable]
    exact hsafe.currentSchema h.cacheSchema

/-- Every save leaves a settled manager settled. -/
theorem Settled.saved {em em' : EepromManager} (h : Settled em) (hsaved : Saved em em') :
    Settled em' := by
  cases hsaved with
  | skipped => exact h
  | deferred hsafe => exact h.deferredSave hsafe
  | committed hsafe => exact h.committedSave hsafe

/-- The commit of a flush lowers the flag.
SOURCE: EEPROM_Manager.cpp:169-186 -/
theorem Settled.flush {em : EepromManager} (h : Settled em) (millis : UInt32) :
    Settled { em.commit with dirty := false, lastFlushMs := millis } where
  reliable := h.reliable.commit
  isInitialized := h.isInitialized
  isDevMode := h.isDevMode
  covers := h.reliable.commit_synced.covers _
  cacheSchema := by
    rw [EepromManager.commit, Memory.commit_cache]
    exact h.cacheSchema
  backingSchema := by
    rw [EepromManager.commit, h.reliable.commit_backing]
    exact h.cacheSchema

/-- A timed flush leaves a settled manager settled.
SOURCE: EEPROM_Manager.cpp:169-178 -/
theorem Settled.flushIfDirty {em : EepromManager} (h : Settled em) (millis : UInt32) :
    Settled (em.flushIfDirty millis) := by
  unfold EepromManager.flushIfDirty
  split
  · exact h
  · split
    · exact h
    · exact h.flush millis

/-- A forced flush leaves nothing pending.
SOURCE: EEPROM_Manager.cpp:180-186 -/
theorem Settled.forceFlush {em : EepromManager} (h : Settled em) (millis : UInt32) :
    Settled (em.forceFlush millis) ∧ (em.forceFlush millis).memory.Synced := by
  unfold EepromManager.forceFlush
  split
  · next hclean =>
    refine ⟨h, ?_⟩
    apply h.covers
    simpa using hclean
  · exact ⟨h.flush millis, h.reliable.commit_synced⟩

/-- The node after `init()` and the counting of the reset.
SOURCE: main.ino:81-111 -/
theorem settled_countReset {em : EepromManager} (hreliable : em.memory.Reliable)
    (reason : ResetReason) : Settled (Setup.countReset em.reboot reason) := by
  have hinit : InitializedFrom em.reboot em.reboot.init := init_initializedFrom hreliable rfl
  have hsettled : Settled em.reboot.init := by
    refine ⟨hinit.reliable, hinit.isInitialized, hinit.isDevMode, hinit.synced.covers _,
      .inr hinit.version, ?_⟩
    rw [← hinit.synced]
    exact .inr hinit.version
  have hreason := hsettled.saved (saveCall_saved em.reboot.init (.rebootReason reason.toByte))
  obtain ⟨count, heq⟩ := countReset_eq em.reboot reason
  rw [heq]
  exact hreason.saved (saveCall_saved _ (.rebootCount count))

/-- Storing the defaults leaves a settled manager settled.
SOURCE: main.ino:172-197 -/
theorem Settled.storeDefaults {em : EepromManager} (h : Settled em)
    (hload : em.loadDevFlag = false) (behind : ℕ → UInt8) :
    Settled (Setup.storeDefaults em behind) := by
  rcases storeDefaults_cases h.isInitialized h.isDevMode hload behind with heq | heq
  · rw [heq]
    exact h.saved (saveCall_saved em (.peerList _ Config.defaultPeers.length))
  · rw [heq]
    exact h

end LatticeNodes.Analysis
