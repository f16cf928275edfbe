import LatticeNodes.Analysis.EepromFields

/-!
# When a call stores its bytes, and when it commits them

Every save and clear is one list of bytes behind guards (`Accepts`): a call that its guards
refuse does nothing, the others write the list and either raise the dirty flag or commit at
once (`run_of_accepts`).
-/

set_option autoImplicit false

namespace LatticeNodes.Analysis

open LatticeNodes.Program CachedMemory

namespace EepromFields

/-- The guards of a call.
SOURCE: EEPROM_Manager.cpp:199-205, 252-262, 290-301, 328-331, 555-558, 571-588 -/
def Accepts (em : EepromManager) : SaveCall → Prop
  | .meshKey key =>
      key.length = EepromSizes.meshKeySize ∧ em.isInitialized = true ∧ em.isDevMode = false
  | .peerList _ numPeers =>
      numPeers ≤ Config.maxPeers ∧ em.isInitialized = true ∧ em.isDevMode = false
  | .clearRange startAddr endAddr =>
      (startAddr < EepromSizes.totalSize ∧ endAddr < EepromSizes.totalSize ∧
        startAddr ≤ endAddr) ∧ em.isInitialized = true
  | .clearPeerList => em.isInitialized = true
  | .nodeId _ => em.isInitialized = true
  | .clearAll => em.isInitialized = true
  | _ => em.isInitialized = true ∧ em.isDevMode = false

/-- Every save wants an initialised manager.
SOURCE: EEPROM_Manager.cpp:148-154 -/
theorem Accepts.isInitialized {em : EepromManager} {c : SaveCall} (h : Accepts em c) :
    em.isInitialized = true := by
  cases c with
  | meshKey key => exact h.2.1
  | peerList peerRecords numPeers => exact h.2.1
  | clearRange startAddr endAddr => exact h.2
  | clearPeerList => exact h
  | nodeId id => exact h
  | clearAll => exact h
  | _ => exact h.1

/-- The calls that commit without waiting for a flush.
SOURCE: EEPROM_Manager.cpp:421-436, 445-450, 460-502, 519-550, 571-596 -/
def commitsAtOnce : SaveCall → Bool
  | .keypair _ _ => true
  | .enrolledFlag _ => true
  | .bootEpoch _ => true
  | .knownMasterMac _ => true
  | .clearKnownMasterMac => true
  | .knownMasterMacSecondary _ => true
  | .clearKnownMasterMacSecondary => true
  | .txPowerPreset _ => true
  | .clearAll => true
  | .clearRange _ _ => true
  | _ => false

/-- The bytes of a call, the wipes included. -/
def bytesOf : SaveCall → List (ℕ × UInt8)
  | .clearAll => EepromManager.bytesAt 0 (List.replicate EepromSizes.totalSize 0xFF)
  | .clearRange startAddr endAddr =>
      EepromManager.bytesAt startAddr (List.replicate (endAddr + 1 - startAddr) 0xFF)
  | c => writesOf c

/-- A call stores the bytes of its field, or wipes. -/
theorem bytesOf_cases (c : SaveCall) : bytesOf c = writesOf c ∨
    ∃ address n, bytesOf c = EepromManager.bytesAt address (List.replicate n 0xFF) := by
  cases c with
  | clearAll => exact .inr ⟨0, EepromSizes.totalSize, rfl⟩
  | clearRange startAddr endAddr => exact .inr ⟨startAddr, endAddr + 1 - startAddr, rfl⟩
  | _ => exact .inl rfl

/-- The body of a call behind its guards. -/
def store (em : EepromManager) (c : SaveCall) : EepromManager :=
  match commitsAtOnce c with
  | true => em.committedSave (bytesOf c)
  | false => em.deferredSave (bytesOf c)

section Guards

variable {em : EepromManager} {save : EepromManager → EepromManager}

/-- A production node saves. -/
theorem unlessDevMode_open (hinit : em.isInitialized = true) (hdev : em.isDevMode = false) :
    em.unlessDevMode save = save em := by
  simp [EepromManager.unlessDevMode, hinit, hdev]

/-- A manager in development mode, or not initialised, skips the save. -/
theorem unlessDevMode_closed (h : ¬(em.isInitialized = true ∧ em.isDevMode = false)) :
    em.unlessDevMode save = em := by
  unfold EepromManager.unlessDevMode
  by_cases hinit : em.isInitialized = true
  · have hdev : em.isDevMode = true := by
      rw [← Bool.not_eq_false]
      exact fun hprod => h ⟨hinit, hprod⟩
    simp [hinit, hdev]
  · simp [hinit]

/-- An initialised manager saves, in development mode too. -/
theorem onceInitialized_open (hinit : em.isInitialized = true) :
    em.onceInitialized save = save em := by
  simp [EepromManager.onceInitialized, hinit]

/-- A manager that is not initialised skips the save. -/
theorem onceInitialized_closed (hinit : ¬em.isInitialized = true) :
    em.onceInitialized save = em := by
  simp [EepromManager.onceInitialized, hinit]

end Guards

/-- **An accepted call stores its bytes.**
SOURCE: EEPROM_Manager.cpp:188-596 -/
theorem run_of_accepts {em : EepromManager} {c : SaveCall} (h : Accepts em c) :
    c.run em = store em c := by
  cases c with
  | meshKey key =>
      obtain ⟨hlength, hinit, hdev⟩ := h
      have hwrites : writesOf (.meshKey key) =
          FieldStore.consecutive EepromAddresses.meshKey key := if_pos hlength
      rw [SaveCall.run, EepromManager.saveMeshKey, if_neg (not_not.mpr hlength),
        unlessDevMode_open hinit hdev]
      simp only [store, commitsAtOnce, bytesOf, hwrites]
      rfl
  | peerList peerRecords numPeers =>
      obtain ⟨hfits, hinit, hdev⟩ := h
      have hmany : ¬Config.maxPeers < numPeers := Nat.not_lt.mpr hfits
      rw [SaveCall.run, EepromManager.savePeerList, if_neg hmany, unlessDevMode_open hinit hdev]
      simp only [store, commitsAtOnce, bytesOf, writesOf, if_neg hmany]
      rfl
  | clearRange startAddr endAddr =>
      obtain ⟨hrange, hinit⟩ := h
      rw [SaveCall.run, EepromManager.clearRange, onceInitialized_open hinit, if_pos hrange]
      rfl
  | clearPeerList =>
      rw [SaveCall.run, EepromManager.clearPeerList, onceInitialized_open h]
      rfl
  | nodeId id =>
      rw [SaveCall.run, EepromManager.saveNodeId, onceInitialized_open h]
      rfl
  | clearAll =>
      rw [SaveCall.run, EepromManager.clearAll, onceInitialized_open h]
      rfl
  | _ =>
      simp only [SaveCall.run, EepromManager.saveMasterFlag, EepromManager.saveDevFlag,
        EepromManager.saveAdapterType, EepromManager.saveRebootCount,
        EepromManager.saveRebootReason, EepromManager.saveKeypair, EepromManager.saveEnrolledFlag,
        EepromManager.saveBootEpoch, EepromManager.saveKnownMasterMac,
        EepromManager.clearKnownMasterMac, EepromManager.saveKnownMasterMacSecondary,
        EepromManager.clearKnownMasterMacSecondary, EepromManager.saveTxPowerPreset,
        unlessDevMode_open h.1 h.2]
      rfl

/-- A call that is not accepted does nothing. -/
theorem run_of_not_accepts {em : EepromManager} {c : SaveCall} (h : ¬Accepts em c) :
    c.run em = em := by
  cases c with
  | meshKey key =>
      rw [SaveCall.run, EepromManager.saveMeshKey]
      split
      · rfl
      · next hlength =>
        exact unlessDevMode_closed fun hopen => h ⟨not_not.mp hlength, hopen⟩
  | peerList peerRecords numPeers =>
      rw [SaveCall.run, EepromManager.savePeerList]
      split
      · rfl
      · next hfits =>
        exact unlessDevMode_closed fun hopen => h ⟨Nat.not_lt.mp hfits, hopen⟩
  | clearRange startAddr endAddr =>
      rw [SaveCall.run, EepromManager.clearRange]
      by_cases hinit : em.isInitialized = true
      · rw [onceInitialized_open hinit, if_neg fun hrange => h ⟨hrange, hinit⟩]
      · exact onceInitialized_closed hinit
  | clearPeerList => rw [SaveCall.run, EepromManager.clearPeerList, onceInitialized_closed h]
  | nodeId id => rw [SaveCall.run, EepromManager.saveNodeId, onceInitialized_closed h]
  | clearAll => rw [SaveCall.run, EepromManager.clearAll, onceInitialized_closed h]
  | _ =>
      simp only [SaveCall.run, EepromManager.saveMasterFlag, EepromManager.saveDevFlag,
        EepromManager.saveAdapterType, EepromManager.saveRebootCount,
        EepromManager.saveRebootReason, EepromManager.saveKeypair, EepromManager.saveEnrolledFlag,
        EepromManager.saveBootEpoch, EepromManager.saveKnownMasterMac,
        EepromManager.clearKnownMasterMac, EepromManager.saveKnownMasterMacSecondary,
        EepromManager.clearKnownMasterMacSecondary, EepromManager.saveTxPowerPreset,
        unlessDevMode_closed h]

end EepromFields

end LatticeNodes.Analysis
