import LatticeNodes.Analysis.EepromCalls

/-!
# The manager as a store of fields

On an initialised production manager a call overwrites the bytes of its field and no others
(`run_read`), whether it commits or not, so that every run of saves and clears refines the
store that keeps one value for each field (`loads_refine`).
-/

set_option autoImplicit false

namespace LatticeNodes.Analysis

open LatticeNodes.Program CachedMemory FieldStore

namespace EepromFields

open EepromField

/-! ## Statement -/

/-- A manager after `init()` that is not in development mode. -/
structure Production (em : EepromManager) : Prop where
  isInitialized : em.isInitialized = true
  isDevMode : em.isDevMode = false

/-- The saves and clears of single fields: all calls but the two wipes.
SOURCE: EEPROM_Manager.h:100-170 -/
def OnField : SaveCall → Prop
  | .clearAll => False
  | .clearRange _ _ => False
  | _ => True

/-- What a save is given is what its load is to return, for every value but the unset one of
the field; a cleared field is unset. -/
inductive Saves : SaveCall → (k : EepromField) → k.Value → Prop
  | masterFlag (isMaster : Bool) : Saves (.masterFlag isMaster) .masterFlag isMaster
  | devFlag (isDev : Bool) : Saves (.devFlag isDev) .devFlag isDev
  | meshKey (key : Vector UInt8 16) : Saves (.meshKey key.toList) .meshKey fun _ => (true, key)
  | adapterType (type : UInt8) (hset : type ≠ 0xFF) :
      Saves (.adapterType type) .adapterType type
  | peerList (peerRecords : ℕ → UInt8) (numPeers : ℕ) (hfits : numPeers ≤ Config.maxPeers) :
      Saves (.peerList peerRecords numPeers) .peerList fun maxPeers =>
        if Config.maxPeers < maxPeers then none
        else some (((List.range (numPeers * EepromSizes.peerRecordSize)).map peerRecords ++
          List.replicate ((Config.maxPeers - numPeers) * EepromSizes.peerRecordSize) 0xFF).take
            (maxPeers * EepromSizes.peerRecordSize))
  | clearPeerList :
      Saves .clearPeerList .peerList fun maxPeers =>
        if Config.maxPeers < maxPeers then none
        else some (List.replicate (maxPeers * EepromSizes.peerRecordSize) 0xFF)
  | rebootReason (reason : UInt8) : Saves (.rebootReason reason) .rebootReason reason
  | rebootCount (count : UInt8) : Saves (.rebootCount count) .rebootCount count
  | keypair (privateKey publicKey : Key) :
      Saves (.keypair privateKey publicKey) .keypair (some (privateKey, publicKey))
  | enrolledFlag (enrolled : Bool) : Saves (.enrolledFlag enrolled) .enrolledFlag enrolled
  | bootEpoch (epoch : UInt32) (hset : epoch ≠ 0xFFFFFFFF) :
      Saves (.bootEpoch epoch) .bootEpoch epoch
  | knownMasterMac (mac : MacAddress) (hset : mac ≠ broadcastMac) :
      Saves (.knownMasterMac mac) .knownMasterMac fun _ => (true, mac)
  | clearKnownMasterMac :
      Saves .clearKnownMasterMac .knownMasterMac fun _ => (false, broadcastMac)
  | knownMasterMacSecondary (mac : MacAddress) (hset : mac ≠ broadcastMac) :
      Saves (.knownMasterMacSecondary mac) .knownMasterMacSecondary fun _ => (true, mac)
  | clearKnownMasterMacSecondary :
      Saves .clearKnownMasterMacSecondary .knownMasterMacSecondary fun _ => (false, broadcastMac)
  /-- An enumerator of `TxPowerPreset`. -/
  | txPowerPreset (preset : UInt8) (henum : preset ≤ 2) :
      Saves (.txPowerPreset preset) .txPowerPreset preset
  | nodeId (id : UInt8) (hset : id ≠ 0xFF) : Saves (.nodeId id) .nodeId id

/-- The manager after a sequence of calls. -/
def runCalls (em : EepromManager) (calls : List SaveCall) : EepromManager :=
  calls.foldl SaveCall.run em

/-! ## Writes -/

/-- The writes in range decide about a cell. -/
theorem lastWrite_inRange {address : ℕ} (h : address < EepromSizes.totalSize)
    (writes : List (ℕ × UInt8)) :
    lastWrite (EepromManager.inRange writes) ⟨address, h⟩ = lastWrite writes address := by
  induction writes with
  | nil => rfl
  | cons w writes ih =>
      by_cases hw : w.1 < EepromSizes.totalSize
      · have hcons : EepromManager.inRange (w :: writes) =
            (⟨w.1, hw⟩, w.2) :: EepromManager.inRange writes := by
          simp [EepromManager.inRange, hw]
        rw [hcons, lastWrite, lastWrite, ih]
        simp
      · have hcons : EepromManager.inRange (w :: writes) = EepromManager.inRange writes := by
          simp [EepromManager.inRange, hw]
        have hother : w.1 ≠ address := by
          rintro rfl
          exact hw h
        rw [hcons, lastWrite, ih]
        simp [hother]

/-- Writes in range are read back. -/
theorem read_write (em : EepromManager) {writes : List (ℕ × UInt8)}
    (h : ∀ w ∈ writes, w.1 < EepromSizes.totalSize) :
    (em.write writes).read = overwrite em.read writes := by
  funext address
  show EepromManager.readByte (em.memory.writeAll _).cache address = _
  by_cases haddress : address < EepromSizes.totalSize
  · rw [writeAll_cache, EepromManager.readByte, dif_pos haddress]
    show (lastWrite _ _).getD _ = (lastWrite writes address).getD (em.read address)
    rw [lastWrite_inRange haddress, EepromManager.read, EepromManager.readByte, dif_pos haddress]
  · have hnone : ∀ w ∈ writes, w.1 ≠ address := by
      rintro w hw rfl
      exact haddress (h w hw)
    rw [overwrite_of_notMem _ hnone, EepromManager.read, EepromManager.readByte,
      EepromManager.readByte, dif_neg haddress, dif_neg haddress]

/-- The writes of a deferred save are read back. -/
theorem read_deferredSave (em : EepromManager) {writes : List (ℕ × UInt8)}
    (h : ∀ w ∈ writes, w.1 < EepromSizes.totalSize) :
    (em.deferredSave writes).read = overwrite em.read writes :=
  read_write em h

/-- A commit changes nothing that is read, whether it succeeds or not. -/
theorem read_committedSave (em : EepromManager) {writes : List (ℕ × UInt8)}
    (h : ∀ w ∈ writes, w.1 < EepromSizes.totalSize) :
    (em.committedSave writes).read = overwrite em.read writes := by
  rw [← read_write em h]
  funext address
  rw [EepromManager.read, committedSave_cache, EepromManager.read]

/-- The fields are in the EEPROM. -/
theorem owns_lt {k : EepromField} {i : ℕ} (h : (field k).Owns i) : i < EepromSizes.totalSize := by
  have hfits : (field k).address + (field k).size ≤ EepromSizes.totalSize := by
    cases k <;> decide
  exact h.2.trans_le hfits

/-- The writes of every call are in the EEPROM. -/
theorem writesOf_inRange (c : SaveCall) : ∀ w ∈ writesOf c, w.1 < EepromSizes.totalSize := by
  intro w hw
  obtain ⟨r, -, howns⟩ := writesOf_inside hw
  exact owns_lt howns

/-! ## One call -/

section Call

variable {em : EepromManager}

/-- No call changes the manager's mode. -/
theorem run_mode (em : EepromManager) (c : SaveCall) :
    (c.run em).isInitialized = em.isInitialized ∧ (c.run em).isDevMode = em.isDevMode := by
  by_cases haccepts : Accepts em c
  · rw [run_of_accepts haccepts, store]
    split
    · exact ⟨rfl, rfl⟩
    · exact ⟨rfl, rfl⟩
  · rw [run_of_not_accepts haccepts]
    exact ⟨rfl, rfl⟩

/-- A production node stays one through its saves. -/
theorem Production.run (h : Production em) (c : SaveCall) : Production (c.run em) := by
  obtain ⟨hinit, hdev⟩ := run_mode em c
  exact ⟨hinit.trans h.isInitialized, hdev.trans h.isDevMode⟩

/-- A production manager refuses a call on a field only for its argument, and the argument then
has no bytes to store. -/
theorem writesOf_of_not_accepts (h : Production em) {c : SaveCall} (hfield : OnField c)
    (hrefused : ¬Accepts em c) : writesOf c = [] := by
  have hopen := And.intro h.isInitialized h.isDevMode
  cases c with
  | meshKey key => exact if_neg fun hlength => hrefused ⟨hlength, hopen⟩
  | peerList peerRecords numPeers =>
      by_cases hmany : Config.maxPeers < numPeers
      · exact if_pos hmany
      · exact absurd ⟨Nat.not_lt.mp hmany, hopen⟩ hrefused
  | clearPeerList => exact absurd hopen.1 hrefused
  | nodeId id => exact absurd hopen.1 hrefused
  | clearAll => cases hfield
  | clearRange startAddr endAddr => cases hfield
  | _ => exact absurd hopen hrefused

/-- A call on a field writes what the field is given. -/
theorem bytesOf_eq_writesOf {c : SaveCall} (hfield : OnField c) : bytesOf c = writesOf c := by
  cases c with
  | clearAll => cases hfield
  | clearRange startAddr endAddr => cases hfield
  | _ => rfl

/-- An accepted call on a field writes that field. -/
theorem run_read_of_accepts {c : SaveCall} (haccepts : Accepts em c) (hfield : OnField c) :
    (c.run em).read = overwrite em.read (writesOf c) := by
  rw [run_of_accepts haccepts, store, bytesOf_eq_writesOf hfield]
  split
  · exact read_committedSave em (writesOf_inRange c)
  · exact read_deferredSave em (writesOf_inRange c)

/-- **A call overwrites its field.**
SOURCE: EEPROM_Manager.cpp:188-568 -/
theorem run_read (h : Production em) {c : SaveCall} (hfield : OnField c) :
    (c.run em).read = overwrite em.read (writesOf c) := by
  by_cases haccepts : Accepts em c
  · exact run_read_of_accepts haccepts hfield
  · rw [run_of_not_accepts haccepts, writesOf_of_not_accepts h hfield haccepts]
    rfl

end Call

/-! ## Runs of calls -/

section Runs

variable {em : EepromManager}

/-- A production node stays one through a sequence of saves. -/
theorem Production.runCalls (h : Production em) (calls : List SaveCall) :
    Production (runCalls em calls) := by
  induction calls generalizing em with
  | nil => exact h
  | cons c calls ih => exact ih (h.run c)

/-- **The image follows the store of fields.** -/
theorem runCalls_read (h : Production em) {calls : List SaveCall}
    (hcalls : ∀ c ∈ calls, OnField c) :
    (runCalls em calls).read = fieldStore.run em.read calls := by
  induction calls generalizing em with
  | nil => rfl
  | cons c calls ih =>
      have hrest := ih (h.run c) fun c' hc' => hcalls c' (by simp [hc'])
      rw [run_read h (hcalls c (by simp))] at hrest
      exact hrest

/-- **The manager refines a store of fields**: after any calls each load returns what the store
holds. -/
theorem load_runCalls (h : Production em) {calls : List SaveCall}
    (hcalls : ∀ c ∈ calls, OnField c) (k : EepromField) :
    k.load (runCalls em calls) = fieldStore.view (fieldStore.run em.read calls) k := by
  rw [load_eq_read (h.runCalls calls).isInitialized, runCalls_read h hcalls]
  rfl

/-- The saved region is the records, and erased behind them.
SOURCE: EEPROM_Manager.cpp:290-314 -/
theorem toList_peerRegion (peerRecords : ℕ → UInt8) {numPeers : ℕ}
    (hfits : numPeers ≤ Config.maxPeers) :
    (peerRegion peerRecords numPeers).toList =
      (List.range (numPeers * EepromSizes.peerRecordSize)).map peerRecords ++
        List.replicate ((Config.maxPeers - numPeers) * EepromSizes.peerRecordSize) 0xFF := by
  have hsize : numPeers * EepromSizes.peerRecordSize +
      (Config.maxPeers - numPeers) * EepromSizes.peerRecordSize = EepromSizes.peerListSize := by
    rw [← Nat.add_mul, Nat.add_sub_of_le hfits]
    rfl
  apply List.ext_getElem
  · simp [hsize]
  · intro i hi hi'
    by_cases hrecord : i < numPeers * EepromSizes.peerRecordSize
    · simp [peerRegion, hrecord]
    · simp [peerRegion, hrecord, List.getElem_append]

/-- An erased region has erased first records. -/
theorem take_erased {maxPeers : ℕ} (hfits : ¬Config.maxPeers < maxPeers) :
    (Vector.replicate EepromSizes.peerListSize (0xFF : UInt8)).toList.take
        (maxPeers * EepromSizes.peerRecordSize) =
      List.replicate (maxPeers * EepromSizes.peerRecordSize) 0xFF := by
  have hle : maxPeers * EepromSizes.peerRecordSize ≤ EepromSizes.peerListSize :=
    Nat.mul_le_mul_right _ (Nat.not_lt.mp hfits)
  rw [Vector.toList_replicate, List.take_replicate, Nat.min_eq_left hle]

/-- What is saved is what the field's load returns. -/
theorem Saves.result {c : SaveCall} {k : EepromField} {v : k.Value} (h : Saves c k v) :
    resultOf c = some ⟨k, v⟩ := by
  cases h with
  | adapterType type hset => simp [resultOf, unlessErased, hset]
  | nodeId id hset => simp [resultOf, unlessErased, hset]
  | bootEpoch epoch hset => simp [resultOf, epochOf, hset]
  | txPowerPreset preset henum =>
      have hset : ¬(2 < preset ∨ preset = 0xFF) := by
        rintro (hlarge | rfl)
        · exact UInt8.not_lt.mpr henum hlarge
        · exact absurd henum (by decide)
      rw [resultOf, presetOf, if_neg hset]
  | knownMasterMac mac hset =>
      have hmac : macOf mac = fun _ => (true, mac) := by
        funext buffer
        simp [macOf, hset]
      rw [resultOf, hmac]
  | knownMasterMacSecondary mac hset =>
      have hmac : macOf mac = fun _ => (true, mac) := by
        funext buffer
        simp [macOf, hset]
      rw [resultOf, hmac]
  | clearKnownMasterMac => rfl
  | clearKnownMasterMacSecondary => rfl
  | meshKey key =>
      have hlength : key.toList.length = 16 := by simp
      rw [resultOf, dif_pos hlength]
      rfl
  | peerList peerRecords numPeers hfits =>
      have hpeers : peersOf (peerRegion peerRecords numPeers) = fun maxPeers =>
          if Config.maxPeers < maxPeers then none
          else some (((List.range (numPeers * EepromSizes.peerRecordSize)).map peerRecords ++
            List.replicate ((Config.maxPeers - numPeers) * EepromSizes.peerRecordSize) 0xFF).take
              (maxPeers * EepromSizes.peerRecordSize)) := by
        funext maxPeers
        rw [peersOf, toList_peerRegion peerRecords hfits]
      rw [resultOf, if_neg (Nat.not_lt.mpr hfits), hpeers]
  | clearPeerList =>
      have hpeers : peersOf (Vector.replicate EepromSizes.peerListSize 0xFF) = fun maxPeers =>
          if Config.maxPeers < maxPeers then none
          else some (List.replicate (maxPeers * EepromSizes.peerRecordSize) 0xFF) := by
        funext maxPeers
        rw [peersOf]
        by_cases hmany : Config.maxPeers < maxPeers
        · rw [if_pos hmany, if_pos hmany]
        · rw [if_neg hmany, if_neg hmany, take_erased hmany]
      rw [resultOf, hpeers]
  | _ => rfl

/-- The call is refused, or one on another field. -/
def Elsewhere (c : SaveCall) (k : EepromField) : Prop := fieldStore.Spares c k

/-- **The manager refines a store of independent fields.**  After any sequence of saves and
clears a load returns what the last save of its field stored, or what it returned at the start
when there was none, and no call changes the schema version or a byte outside its field.
SOURCE: EEPROM_Manager.cpp:188-568, EEPROM_Manager.h:12-74 -/
theorem loads_refine (h : Production em) (calls : List SaveCall)
    (hcalls : ∀ c ∈ calls, OnField c) :
    (∀ before c after k v, calls = before ++ c :: after → Saves c k v →
      (∀ c' ∈ after, Elsewhere c' k) → k.load (runCalls em calls) = v) ∧
    (∀ k, (∀ c ∈ calls, Elsewhere c k) → k.load (runCalls em calls) = k.load em) ∧
    (∀ before c after, calls = before ++ c :: after →
      (∀ address, (∀ k, (field k).Owns address → Elsewhere c k) →
        (runCalls em (before ++ [c])).read address = (runCalls em before).read address) ∧
      (runCalls em (before ++ [c])).read EepromAddresses.schemaVersion =
        (runCalls em before).read EepromAddresses.schemaVersion) := by
  refine ⟨?_, ?_, ?_⟩
  · rintro before c after k v rfl hsaves hlast
    rw [load_runCalls h hcalls]
    exact fieldStore.view_run_of_last em.read before hsaves.result hlast
  · intro k hspared
    rw [load_runCalls h hcalls, fieldStore.view_run_of_spares em.read hspared,
      load_eq_read h.isInitialized]
    rfl
  · rintro before c after rfl
    have hfield : OnField c := hcalls c (by simp)
    have hstep : runCalls em (before ++ [c]) = c.run (runCalls em before) := by
      rw [runCalls, List.foldl_append]
      rfl
    have hwrites := run_read (h.runCalls before) hfield
    have hkept : ∀ address, (∀ k, (field k).Owns address → Elsewhere c k) →
        (runCalls em (before ++ [c])).read address = (runCalls em before).read address := by
      intro address hother
      rw [hstep, hwrites]
      apply fieldStore.overwrite_of_outside
      intro r hresult howns
      exact hother r.1 howns r hresult rfl
    refine ⟨hkept, hkept _ fun k howns => ?_⟩
    exact absurd howns (not_owns_schemaVersion k)

end Runs

/-! ## A blank EEPROM -/

def blankManager : EepromManager :=
  { EepromManager.powerUp blankImage with isInitialized := true }

/-- A boot epoch outlasts a save of the role. -/
theorem loads_refine_blank :
    EepromField.bootEpoch.load (runCalls blankManager [.bootEpoch 7, .masterFlag true]) =
      (7 : UInt32) := by
  have hfields : ∀ c ∈ [SaveCall.bootEpoch 7, SaveCall.masterFlag true], OnField c := by
    simp [OnField]
  have hsaves : Saves (.bootEpoch 7) .bootEpoch 7 := .bootEpoch 7 (by decide)
  refine (loads_refine ⟨rfl, rfl⟩ _ hfields).1 [] _ _ .bootEpoch 7 rfl hsaves ?_
  intro c hc r hresult
  rw [List.mem_singleton.mp hc] at hresult
  cases hresult
  decide

end EepromFields

end LatticeNodes.Analysis
