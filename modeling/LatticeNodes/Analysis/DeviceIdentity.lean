import LatticeNodes.Analysis.BootEpochs
import LatticeNodes.Analysis.EnrollmentAgreement
import LatticeNodes.Analysis.StoredBytes

/-!
# A node keeps its identity

A production node that boots any number of times, as in `BootEpochs`: power is lost at any point of
a boot, an EEPROM of an older schema is migrated, and a running node goes on with everything else
but a wipe.  The server approves a node with its public key, so an approval is worth something only
as long as the node keeps that key and the flag that says it was approved.

`identity_kept`: once a boot has loaded or generated a keypair, flash, RAM and the mesh object hold
this one in every later boot, every enrollment request of all boots carries its public half, and a
node that is enrolled stays so.
-/

set_option autoImplicit false

namespace LatticeNodes.Analysis

open LatticeNodes.Program CachedMemory TransitionSystem

namespace DeviceIdentity

open BootEpochs
open EepromFields StoredBytes

/-! ## The system -/

/-- In a running node nothing stores a keypair, as the only such save is in `Mesh::init`, and
nothing takes the enrollment back.
SOURCE: Mesh.cpp:434-490, 1012-1033 -/
def sparesIdentity : Event → Bool
  | .save (.keypair _ _) | .save (.enrolledFlag false) => false
  | _ => true

def system (first : UInt32) : System State Event :=
  (BootEpochs.system first).restrict (fun _ => True) fun _ e => sparesIdentity e = true

/-- What makes a node the one that was approved. -/
structure Identity where
  keypair : Option (Key × Key)
  enrolled : Bool

/-- The identity an image holds, in the layout of its schema version. -/
def storedIdentity (image : ℕ → UInt8) : Identity :=
  let layout := SchemaMigration.Layout.ofVersion (image EepromAddresses.schemaVersion)
  ⟨layout.keypair image, layout.enrolled image⟩

/-- The identity in flash. -/
def flashIdentity (em : EepromManager) : Identity :=
  storedIdentity (EepromManager.readByte em.memory.backing)

/-- A keypair and an enrollment that are there stay. -/
structure Grows (before after : Identity) : Prop where
  keypair : ∀ keys, before.keypair = some keys → after.keypair = some keys
  enrolled : before.enrolled = true → after.enrolled = true

/-- The keypair the mesh object works with. -/
def meshKeypair (m : Mesh) : Key × Key := (m.devicePrivateKey, m.devicePublicKey)

/-- An enrollment request of the node itself.
SOURCE: Mesh.cpp:986-999 -/
def Request (msg : MeshMessage) : Prop :=
  msg.messageType = MeshMessageType.enrollment ∧ msg.hopCount = 0

instance (msg : MeshMessage) : Decidable (Request msg) :=
  inferInstanceAs (Decidable (_ ∧ _))

/-- The boot has loaded or generated its keypair. -/
def hasKeypair : Phase → Bool
  | .restored | .counted | .running => true
  | _ => false

/-! ## The bytes of the identity -/

/-- The identity that an image of the current schema holds. -/
def identityOf (image : ℕ → UInt8) : Identity :=
  ⟨EepromField.keypairOf image, image EepromAddresses.enrolledFlag == 0x01⟩

/-- The keypair, its CRC and the enrolled flag are 67 bytes in a row. -/
def InIdentity (i : ℕ) : Prop :=
  EepromAddresses.privateKey ≤ i ∧ i < EepromAddresses.privateKey + 67

/-- The bytes of an identity and of the unset development flag; everything else is free. -/
def Carried (image : ℕ → UInt8) (i : ℕ) (b : UInt8) : Prop :=
  ((field .devFlag).Owns i → b ≠ 1) ∧ (InIdentity i → b = image i)

def carriedFields : List EepromField := [.devFlag, .keypair, .enrolledFlag]

/-- A production manager whose RAM and flash both hold the identity. -/
structure Keeps (em : EepromManager) (identity : Identity) : Prop where
  settled : Settled em
  holds : ∃ image, identityOf image = identity ∧ Holds (Carried image) em

section Bytes

variable {em em' : EepromManager} {image image' : ℕ → UInt8} {identity : Identity}

/-- An identity that stays has grown. -/
theorem Grows.refl (identity : Identity) : Grows identity identity :=
  ⟨fun _ => id, id⟩

/-- An identity grows step by step. -/
theorem Grows.trans {a b c : Identity} (h : Grows a b) (h' : Grows b c) : Grows a c :=
  ⟨fun keys hkeys => h'.keypair keys (h.keypair keys hkeys),
    fun henrolled => h'.enrolled (h.enrolled henrolled)⟩

/-- The keypair of an image is the field's.
SOURCE: EEPROM_Manager.cpp:401-419 -/
theorem identityOf_keypair (image : ℕ → UInt8) :
    (identityOf image).keypair = EepromField.keypairOf image := by
  simp only [identityOf]

/-- The identity is the keypair and the enrolled flag. -/
theorem inIdentity_cases {i : ℕ} (h : InIdentity i) :
    (field .keypair).Owns i ∨ (field .enrolledFlag).Owns i := by
  obtain ⟨hlo, hhi⟩ := h
  rcases Nat.lt_or_ge i (EepromAddresses.privateKey + 66) with hlt | hge
  · exact .inl ⟨hlo, hlt⟩
  · exact .inr ⟨hge, hhi⟩

/-- The bytes of the identity are in its fields. -/
theorem carried_onlyOn : OnlyOn carriedFields (Carried image) := by
  intro i b hnone
  refine ⟨fun howns => absurd howns (hnone .devFlag (by simp [carriedFields])), fun hin => ?_⟩
  rcases inIdentity_cases hin with howns | howns
  · exact absurd howns (hnone .keypair (by simp [carriedFields]))
  · exact absurd howns (hnone .enrolledFlag (by simp [carriedFields]))

/-- The identity depends on its own bytes only. -/
theorem identityOf_congr (h : ∀ i, InIdentity i → image' i = image i) :
    identityOf image' = identityOf image := by
  have hkeypair : EepromField.keypairOf image' = EepromField.keypairOf image :=
    keypairOf_congr fun i hlo hhi => h i ⟨hlo, Nat.lt_succ_of_lt hhi⟩
  have henrolled := h EepromAddresses.enrolledFlag (by simp [InIdentity, EepromAddresses.privateKey,
    EepromAddresses.enrolledFlag])
  rw [identityOf, identityOf, hkeypair, henrolled]

/-- The bytes of the identity are in the EEPROM. -/
theorem inIdentity_lt {i : ℕ} (h : InIdentity i) : i < EepromSizes.totalSize :=
  h.2.trans (by decide)

/-- RAM and flash that carry the bytes carry the identity. -/
theorem identityOf_of_holds (h : Holds (Carried image) em) :
    identityOf em.read = identityOf image ∧
      identityOf (EepromManager.readByte em.memory.backing) = identityOf image :=
  ⟨identityOf_congr fun _ hin => (h.read (inIdentity_lt hin)).2 hin,
    identityOf_congr fun _ hin => (h.flash (inIdentity_lt hin)).2 hin⟩

/-- RAM has the identity. -/
theorem Keeps.read (h : Keeps em identity) : identityOf em.read = identity := by
  obtain ⟨image, rfl, hholds⟩ := h.holds
  exact (identityOf_of_holds hholds).1

/-- The keypair is loaded from the identity.
SOURCE: EEPROM_Manager.cpp:401-419 -/
theorem Keeps.loadKeypair (h : Keeps em identity) : em.loadKeypair = identity.keypair := by
  rw [← h.read, identityOf_keypair]
  exact loadKeypair_eq h.settled.isInitialized

/-- The enrolled flag is loaded from the identity.
SOURCE: EEPROM_Manager.cpp:438-442 -/
theorem Keeps.loadEnrolledFlag (h : Keeps em identity) :
    em.loadEnrolledFlag = identity.enrolled := by
  rw [← h.read, EepromManager.loadEnrolledFlag, h.settled.isInitialized, Bool.true_and]
  rfl

/-- The node is no development node.
SOURCE: EEPROM_Manager.cpp:213-221 -/
theorem Keeps.loadDevFlag (h : Keeps em identity) : em.loadDevFlag = false := by
  obtain ⟨image, -, hholds⟩ := h.holds
  have hbyte := (hholds.read (by decide : EepromAddresses.devFlag < EepromSizes.totalSize)).1
    ⟨Nat.le_refl _, by decide⟩
  rw [EepromManager.loadDevFlag, h.settled.isInitialized, Bool.true_and]
  exact beq_eq_false_iff_ne.mpr hbyte

/-- The bytes of an identity lie in a row in both layouts. -/
theorem identityOf_unpack (layout : SchemaMigration.Layout)
    (h : ∀ i < 67, image' (EepromAddresses.privateKey + i) = image (layout.privateKey + i)) :
    identityOf image' = ⟨layout.keypair image, layout.enrolled image⟩ := by
  have hflag : layout.enrolledFlag = layout.privateKey + 66 := by
    cases layout <;> rfl
  have henrolled : image' EepromAddresses.enrolledFlag = image layout.enrolledFlag := by
    rw [hflag]
    exact h 66 (by decide)
  rw [identityOf, layout.keypair_unpack h, henrolled]
  rfl

/-- In the current schema the identity is where the loads look for it. -/
theorem storedIdentity_of_current (hschema : image EepromAddresses.schemaVersion ≠ 0) :
    storedIdentity image = identityOf image := by
  have hlayout : SchemaMigration.Layout.ofVersion (image EepromAddresses.schemaVersion) =
      .current := if_neg hschema
  rw [storedIdentity, hlayout]
  exact (identityOf_unpack .current fun _ _ => rfl).symm

/-- The flash has the identity. -/
theorem Keeps.flash (h : Keeps em identity) : flashIdentity em = identity := by
  obtain ⟨image, rfl, hholds⟩ := h.holds
  rw [flashIdentity, storedIdentity_of_current, (identityOf_of_holds hholds).2]
  intro hzero
  rcases h.settled.backingSchema with hblank | hcurrent
  · have hversion : (0 : UInt8) = 0xFF := hzero.symm.trans hblank
    exact absurd hversion (by decide)
  · have hversion : (0 : UInt8) = EepromSizes.currentSchemaVersion := hzero.symm.trans hcurrent
    exact absurd hversion (by decide)

/-- The flash holds no development flag. -/
theorem Keeps.unset (h : Keeps em identity) :
    EepromManager.readByte em.memory.backing EepromAddresses.devFlag ≠ 1 := by
  obtain ⟨image, -, hholds⟩ := h.holds
  exact (hholds.flash (by decide : EepromAddresses.devFlag < EepromSizes.totalSize)).1
    ⟨Nat.le_refl _, by decide⟩

/-- A save of a field that is neither the development flag nor part of the identity. -/
theorem Keeps.run (h : Keeps em identity) {c : SaveCall} (hfield : OnField c)
    (hspares : ∀ k ∈ carriedFields, fieldStore.Spares c k) :
    Keeps (c.run em) identity := by
  obtain ⟨image, hvalue, hholds⟩ := h.holds
  exact ⟨h.settled.saved (saveCall_saved em c), image, hvalue,
    hholds.run_of_spares carried_onlyOn hfield hspares⟩

/-- **A save that commits puts the identity it leaves in RAM into flash.** -/
theorem Keeps.committed (h : Keeps em identity) {c : SaveCall} (hcommits : commitsAtOnce c = true)
    (haccepts : Accepts em c) (hfield : OnField c) (hflag : fieldStore.Spares c .devFlag) :
    Keeps (c.run em) (identityOf (FieldStore.overwrite em.read (writesOf c))) := by
  obtain ⟨image, -, hholds⟩ := h.holds
  have hread := run_read_of_accepts haccepts hfield
  have hsynced : (c.run em).memory.Synced := by
    rw [run_of_accepts haccepts, store, hcommits]
    exact committedSave_synced h.settled.reliable _
  refine ⟨h.settled.saved (saveCall_saved em c), _, rfl,
    holds_of_synced hsynced fun i hi => ⟨fun howns => ?_, fun _ => congrFun hread i⟩⟩
  have hbyte : FieldStore.overwrite em.read (writesOf c) i = em.read i :=
    fieldStore.overwrite_of_outside em.read fun r hresult hother =>
      field_disjoint (hflag r hresult) i hother howns
  rw [hread, hbyte]
  exact (hholds.read hi).1 howns

/-- **A keypair that is generated is in flash before anything is sent.**
SOURCE: EEPROM_Manager.cpp:421-436 -/
theorem Keeps.saveKeypair (h : Keeps em identity) (generated : Key × Key) :
    Keeps (em.saveKeypair generated.1 generated.2) { identity with keypair := some generated } := by
  have hflag : fieldStore.Spares (.keypair generated.1 generated.2) .devFlag := by
    intro r hr
    cases hr
    intro hfield
    cases hfield
  have hkeeps := @Keeps.committed em identity h (.keypair generated.1 generated.2) rfl
    ⟨h.settled.isInitialized, h.settled.isDevMode⟩ True.intro hflag
  have hother : ∀ w ∈ keypairWrites generated.1 generated.2,
      w.1 ≠ EepromAddresses.enrolledFlag := by
    intro w hw heq
    have hlt := (mem_keypairWrites hw).2
    rw [heq] at hlt
    exact absurd hlt (by decide)
  have hvalue : identityOf (FieldStore.overwrite em.read
      (keypairWrites generated.1 generated.2)) = { identity with keypair := some generated } := by
    rw [identityOf, keypairOf_overwrite, FieldStore.overwrite_of_notMem em.read hother, ← h.read]
    rfl
  rw [← hvalue]
  exact hkeeps

/-- SOURCE: EEPROM_Manager.cpp:444-449 -/
theorem Keeps.saveEnrolledFlag (h : Keeps em identity) :
    Keeps (em.saveEnrolledFlag true) { identity with enrolled := true } := by
  have hflag : fieldStore.Spares (.enrolledFlag true) .devFlag := by
    intro r hr
    cases hr
    intro hfield
    cases hfield
  have hkeeps := @Keeps.committed em identity h (.enrolledFlag true) rfl
    ⟨h.settled.isInitialized, h.settled.isDevMode⟩ True.intro hflag
  have hkeypair : EepromField.keypairOf (FieldStore.overwrite em.read
      [(EepromAddresses.enrolledFlag, 0x01)]) = EepromField.keypairOf em.read := by
    apply keypairOf_congr
    intro i _ hhi
    apply FieldStore.overwrite_of_notMem em.read
    intro w hw heq
    rw [List.mem_singleton.mp hw] at heq
    rw [← heq] at hhi
    exact absurd hhi (by decide)
  have hvalue : identityOf (FieldStore.overwrite em.read [(EepromAddresses.enrolledFlag, 0x01)]) =
      { identity with enrolled := true } := by
    have henrolled : (FieldStore.overwrite em.read [(EepromAddresses.enrolledFlag, (0x01 : UInt8))]
        EepromAddresses.enrolledFlag == 0x01) = true := by
      rw [FieldStore.overwrite_singleton, Function.update_self]
      rfl
    rw [identityOf, hkeypair, henrolled, ← h.read, identityOf_keypair]
  rw [← hvalue]
  exact hkeeps

/-- A timed flush keeps the identity.
SOURCE: EEPROM_Manager.cpp:169-178 -/
theorem Keeps.flushIfDirty (h : Keeps em identity) (millis : UInt32) :
    Keeps (em.flushIfDirty millis) identity := by
  obtain ⟨image, hvalue, hholds⟩ := h.holds
  exact ⟨h.settled.flushIfDirty millis, image, hvalue, hholds.flushIfDirty millis⟩

/-- A forced flush keeps the identity.
SOURCE: EEPROM_Manager.cpp:180-186 -/
theorem Keeps.forceFlush (h : Keeps em identity) (millis : UInt32) :
    Keeps (em.forceFlush millis) identity := by
  obtain ⟨image, hvalue, hholds⟩ := h.holds
  exact ⟨(h.settled.forceFlush millis).1, image, hvalue, hholds.forceFlush millis⟩

/-- The save touches the identity. -/
def touchesIdentity : SaveCall → Bool
  | .keypair _ _ | .enrolledFlag _ => true
  | _ => false

/-- A call that touches neither the epoch nor the identity spares its fields. -/
theorem spares_carriedFields {c : SaveCall} (hepoch : sparesEpoch c = true)
    (h : touchesIdentity c = false) :
    ∀ k ∈ carriedFields, fieldStore.Spares c k := by
  apply spares_of_fieldOf
  intro k hfor hmem
  cases c with
  | keypair privateKey publicKey => cases h
  | enrolledFlag enrolled => cases h
  | devFlag isDev => cases hepoch
  | clearAll => cases hfor
  | clearRange startAddr endAddr => cases hfor
  | _ =>
      cases hfor
      exact absurd hmem (by decide)

/-- A save of `setup()`. -/
theorem Keeps.save (h : Keeps em identity) {c : SaveCall} (hepoch : sparesEpoch c = true)
    (hidentity : touchesIdentity c = false) : Keeps (c.run em) identity :=
  h.run (onField_of_sparesEpoch hepoch) (spares_carriedFields hepoch hidentity)

/-- **A save of a running node leaves the identity, or enrolls the node.** -/
theorem Keeps.runningSave (h : Keeps em identity) {c : SaveCall} (hepoch : sparesEpoch c = true)
    (hspares : sparesIdentity (.save c) = true) :
    ∃ identity', Grows identity identity' ∧ Keeps (c.run em) identity' := by
  cases htouches : touchesIdentity c with
  | false => exact ⟨identity, .refl identity, h.save hepoch htouches⟩
  | true =>
      cases c with
      | keypair privateKey publicKey => cases hspares
      | enrolledFlag enrolled =>
          cases enrolled with
          | false => cases hspares
          | true =>
              exact ⟨{ identity with enrolled := true }, ⟨fun _ => id, fun _ => rfl⟩,
                h.saveEnrolledFlag⟩
      | _ => cases htouches

end Bytes

/-! ## The stages of a boot -/

section Boot

variable {em : EepromManager} {identity : Identity} {m : Mesh}

/-- **A migration moves the identity of an old layout to its place.**
SOURCE: EEPROM_Manager.cpp:36-124 -/
theorem keeps_migrate (hreliable : em.memory.Reliable) (hsynced : em.memory.Synced)
    (hdev : em.isDevMode = false) (hwipes : ¬Wipes em)
    (hidentity : flashIdentity em = identity) (hflag : em.read EepromAddresses.devFlag ≠ 1) :
    Keeps (begun em).migrate identity := by
  have hmigrated : Migrated (begun em) (begun em).migrate := migrate_migrated rfl hreliable
  have hafter : (begun em).migrate.memory.Synced := by
    rcases version_cases (begun em) with hcurrent | holder | hnewer
    · rw [migrate_current hcurrent]
      exact hsynced
    · obtain ⟨writes, hmigrate, -, -⟩ := migrate_older holder
      rw [hmigrate]
      exact committedSave_synced (Memory.Reliable.writeAll hreliable _) _
    · exact absurd hnewer hwipes
  have hread : (begun em).migrate.read = SchemaMigration.migratedImage em.read :=
    SchemaMigration.read_migrate rfl
  have hknown : em.read EepromAddresses.schemaVersion ∈ ([0, 1, 2, 3, 0xFF] : List UInt8) :=
    BootEpochs.known_of_not_wipes hwipes
  have hvalue : identityOf (begun em).migrate.read = identity := by
    have hflash : storedIdentity em.read = identity := by
      rw [← hidentity, flashIdentity, ← hsynced]
      rfl
    rw [← hflash, hread]
    apply identityOf_unpack
    intro i hi
    have hbelow : EepromAddresses.privateKey + i < EepromAddresses.schemaVersion := by
      simp only [EepromAddresses.privateKey, EepromAddresses.schemaVersion]
      omega
    rw [SchemaMigration.migratedImage_eq hknown hbelow, SchemaMigration.Layout.unpack_keypair _ hi]
  have hunset : (begun em).migrate.read EepromAddresses.devFlag ≠ 1 := by
    rw [hread, SchemaMigration.migratedImage_eq hknown (by decide),
      SchemaMigration.Layout.unpack_low _ (by decide)]
    exact hflag
  have hholds : Holds (Carried (begun em).migrate.read) (begun em).migrate := by
    refine holds_of_synced hafter fun i _ => ⟨fun howns => ?_, fun _ => rfl⟩
    obtain ⟨hlo, hhi⟩ := howns
    have hplace : i = EepromAddresses.devFlag :=
      Nat.le_antisymm (Nat.le_of_lt_succ hhi) hlo
    rw [hplace]
    exact hunset
  refine ⟨⟨hmigrated.reliable, hmigrated.isInitialized, hmigrated.isDevMode.trans hdev,
    hafter.covers _, .inr hmigrated.version, ?_⟩, _, hvalue, hholds⟩
  rw [← hafter]
  exact .inr hmigrated.version

/-- SOURCE: EEPROM_Manager.cpp:126-133 -/
theorem Keeps.validateRebootBytes (h : Keeps em identity) :
    Keeps em.validateRebootBytes identity := by
  obtain ⟨image, hvalue, hholds⟩ := h.holds
  have hapart : ∀ (k : EepromField) {i : ℕ}, k ∉ carriedFields →
      (field k).Owns i → ∀ b, Carried image i b := by
    intro k i hk howns b
    apply carried_onlyOn
    intro other hother
    have hne : k ≠ other := fun heq => hk (heq ▸ hother)
    exact field_disjoint hne i howns
  refine ⟨?_, image, hvalue, hholds.validateRebootBytes
    (hapart .rebootReason (by decide) ⟨Nat.le_refl _, by decide⟩)
    (hapart .rebootCount (by decide) ⟨Nat.le_refl _, by decide⟩)⟩
  obtain ⟨writes, havoids, heq⟩ := validateRebootBytes_eq em
  rw [heq]
  apply h.settled.committedSave
  intro w hw hversion
  exact absurd hversion (havoids w hw).2.2

/-- SOURCE: main.ino:97-110 -/
theorem Keeps.countReset (h : Keeps em identity) (reason : ResetReason) :
    Keeps (Setup.countReset em reason) identity := by
  have hinit : em.init = em := if_pos h.settled.isInitialized
  have hreason : Keeps (em.saveRebootReason reason.toByte) identity :=
    @Keeps.save em identity h (.rebootReason reason.toByte) rfl rfl
  obtain ⟨count, heq⟩ := countReset_eq em reason
  rw [heq, hinit]
  exact @Keeps.save _ identity hreason (.rebootCount count) rfl rfl

/-- SOURCE: main.ino:172-197 -/
theorem Keeps.storeDefaults (h : Keeps em identity) (behind : ℕ → UInt8) :
    Keeps (Setup.storeDefaults em behind) identity := by
  rcases storeDefaults_cases h.settled.isInitialized h.settled.isDevMode h.loadDevFlag behind
    with heq | heq
  · rw [heq]
    exact @Keeps.save em identity h
      (.peerList (Setup.defaultPeerList behind) Config.defaultPeers.length) rfl rfl
  · rw [heq]
    exact h

/-- Loading the mesh key, or storing the default one, keeps the identity.
SOURCE: Mesh.cpp:728-755 -/
theorem Keeps.loadMeshKeyFromEEPROM (h : Keeps em identity) (m : Mesh) :
    Keeps (m.loadMeshKeyFromEEPROM em).2 identity := by
  rcases loadMeshKeyFromEEPROM_cases m em with heq | heq
  · rw [heq]
    exact @Keeps.save em identity h (.meshKey Config.defaultMeshKey.toList) rfl rfl
  · rw [heq]
    exact h

/-- What a boot leaves: the stored keypair, or the one it generates when none is stored. -/
def booted (identity : Identity) (generated : Key × Key) : Identity :=
  { identity with keypair := some (identity.keypair.getD generated) }

/-- A boot generates a keypair only where there is none. -/
theorem grows_booted (identity : Identity) (generated : Key × Key) :
    Grows identity (booted identity generated) := by
  refine ⟨fun keys hkeys => ?_, id⟩
  rw [booted, hkeys]
  rfl

/-- **The stored keypair is taken; one is generated only when none is stored.**
SOURCE: Mesh.cpp:434-490 -/
theorem Keeps.loadOrGenerateKeypair (h : Keeps em identity) (m : Mesh) (generated : Key × Key) :
    Keeps (m.loadOrGenerateKeypair em generated).2 (booted identity generated) ∧
      (booted identity generated).keypair =
        some (meshKeypair (m.loadOrGenerateKeypair em generated).1) := by
  rw [Mesh.loadOrGenerateKeypair, h.loadKeypair, booted]
  cases hkeypair : identity.keypair with
  | none => exact ⟨h.saveKeypair generated, rfl⟩
  | some keys =>
      have hsame : ({ identity with keypair := some keys } : Identity) = identity := by
        rw [← hkeypair]
      refine ⟨?_, rfl⟩
      show Keeps em { identity with keypair := some keys }
      rw [hsame]
      exact h

/-- SOURCE: Mesh.cpp:371-376 -/
theorem Keeps.loadPersistentState (h : Keeps em identity) (m : Mesh) (generated : Key × Key) :
    Keeps (m.loadPersistentState em generated).2 (booted identity generated) ∧
      (booted identity generated).keypair =
        some (meshKeypair (m.loadPersistentState em generated).1) := by
  have hkeyed := h.loadMeshKeyFromEEPROM (m.loadPeersFromEEPROM em)
  unfold Mesh.loadPersistentState
  simp only
  generalize (m.loadPeersFromEEPROM em).loadMeshKeyFromEEPROM em = keyed at hkeyed ⊢
  obtain ⟨hkeeps, hkeys⟩ := hkeyed.loadOrGenerateKeypair keyed.1 generated
  generalize keyed.1.loadOrGenerateKeypair keyed.2 generated = paired at hkeeps hkeys ⊢
  obtain ⟨primary, hasPrimary, secondary, hasSecondary, hmasters⟩ :=
    loadMasters_frame paired.1 paired.2
  rw [hmasters]
  exact ⟨hkeeps, hkeys⟩

/-- SOURCE: Mesh.cpp:377-381 -/
theorem Keeps.countBoot (h : Keeps em identity) (m : Mesh) :
    Keeps (m.countBoot em).2 identity := by
  refine @Keeps.run em identity h (.bootEpoch (em.loadBootEpoch + 1)) True.intro ?_
  apply spares_of_fieldOf
  intro k hfor
  cases hfor
  decide

end Boot

/-! ## The mesh object -/

section Work

variable {m : Mesh}

/-- SOURCE: Mesh.cpp:383-406 -/
theorem setupEspNow_meshKeypair (m : Mesh) (tls : Mbedtls) (r : Mesh.InitEnv) :
    meshKeypair ((m.setupWiFi r).1.setupEspNow tls r.radio r.initError).2.1 = meshKeypair m := by
  obtain ⟨mac, registered, hset⟩ := setupEspNow_frame m tls r
  rw [hset]
  rfl

/-- **No work of a running node touches its keypair.** -/
theorem Task.run_meshKeypair (m : Mesh) (t : Task) : meshKeypair (t.run m).1 = meshKeypair m := by
  cases t with
  | handleEntry env entry =>
      have hsame := handleEntry_sameNode m env entry
      exact Prod.ext hsame.devicePrivateKey hsame.devicePublicKey
  | dispatchRelay env =>
      show meshKeypair (m.dispatchRelay env).1 = meshKeypair m
      rcases dispatchRelay_fst m env with heq | heq
      · rw [heq]
      · rw [heq]
        rfl
  | checkMasterTimeout env =>
      show meshKeypair (m.checkMasterTimeout env) = meshKeypair m
      rw [checkMasterTimeout_frame]
      rfl
  | drainPendingEnrollment =>
      show meshKeypair m.drainPendingEnrollment.1 = meshKeypair m
      rw [drainPendingEnrollment_frame]
      rfl
  | addPeer tls env mac =>
      show meshKeypair (m.addPeer tls env mac).1 = meshKeypair m
      rw [addPeer_frame]
      rfl
  | removePeer env mac =>
      show meshKeypair (m.removePeer env mac).1 = meshKeypair m
      rw [removePeer_frame]
      rfl
  | onDataRecvCallback srcMac len msg =>
      show meshKeypair (m.onDataRecvCallback srcMac len msg) = meshKeypair m
      rw [onDataRecvCallback_frame]
      rfl

/-- No call of the running node changes the keypair in the mesh object. -/
theorem Call.run_meshKeypair (m : Mesh) (env : Env) (c : MeshNetwork.Call) :
    meshKeypair (c.run m env).1 = meshKeypair m := by
  rw [MeshNetwork.Call.run_frame]
  rfl

/-- A request that a call builds carries the public key of the node; relay copies are no
requests of the node. -/
theorem Call.request_key {env : Env} {c : MeshNetwork.Call} {f : MacAddress × MeshMessage}
    (hf : f ∈ sentFrames (c.run m env).2) (hrequest : Request f.2) :
    f.2.enrollmentPublicKey = m.devicePublicKey := by
  have hframe := (MeshNetwork.Call.run_originates m env c).frames f hf
  rw [hframe] at hrequest ⊢
  exact (EnrollmentAgreement.call_of_enrollment hrequest.1).2.2

end Work

/-! ## The invariant -/

/-- The identity of the node so far; a running node works with its keypair. -/
structure Inv (s : State) (identity : Identity) : Prop where
  reliable : s.eeprom.memory.Reliable
  flash : flashIdentity s.eeprom = identity
  unset : EepromManager.readByte s.eeprom.memory.backing EepromAddresses.devFlag ≠ 1
  powered : s.phase = .powered → s.eeprom.memory.Synced ∧ s.eeprom.isDevMode = false
  keeps : s.phase ≠ .down → s.phase ≠ .powered → Keeps s.eeprom identity
  keypair : hasKeypair s.phase = true → identity.keypair = some (meshKeypair s.mesh)
  relays : s.phase ≠ .down → RelaysOnly s.mesh
  requests : ∀ f ∈ s.sent, Request f.msg →
    ∃ privateKey, identity.keypair = some (privateKey, f.msg.enrollmentPublicKey)

section Invariant

variable {first : UInt32} {s s' : State} {identity identity' : Identity}

/-- At power-up the identity is what the flash holds. -/
theorem inv_start (h : Start first s) : Inv s (flashIdentity s.eeprom) := by
  have hphase := h.down
  refine ⟨h.reliable, rfl, ?_, fun hup => ?_, fun hup => absurd hphase hup, fun hup => ?_,
    fun hup => absurd hphase hup, fun f hf => ?_⟩
  · exact beq_eq_false_iff_ne.mp h.flash.devFlag
  · rw [hphase] at hup
    cases hup
  · rw [hphase] at hup
    cases hup
  · rw [h.sent] at hf
    cases hf

/-- In a phase with a keypair the mesh object has it. -/
theorem Inv.keypair_of_phase (h : Inv s identity) {p : Phase} (hphase : s.phase = p)
    (hp : hasKeypair p = true) : identity.keypair = some (meshKeypair s.mesh) := by
  apply h.keypair
  rw [hphase]
  exact hp

/-- A power loss leaves flash and what was sent. -/
theorem Inv.powerLoss (h : Inv s identity) : Inv { s with phase := .down } identity where
  reliable := h.reliable
  flash := h.flash
  unset := h.unset
  powered := by
    intro hphase
    cases hphase
  keeps := fun hup => absurd rfl hup
  keypair := fun hhas => absurd hhas Bool.false_ne_true
  relays := fun hup => absurd rfl hup
  requests := h.requests

/-- A power cycle brings RAM back to the flash, which has the identity. -/
theorem Inv.powerOn (h : Inv s identity) :
    Inv ⟨s.eeprom.reboot, Mesh.new, .powered, s.boots + 1, s.sent⟩ identity where
  reliable := h.reliable
  flash := h.flash
  unset := h.unset
  powered := fun _ => ⟨rfl, rfl⟩
  keeps := fun _ hup => absurd rfl hup
  keypair := fun hhas => absurd hhas Bool.false_ne_true
  relays := by
    intro _ hpending
    cases hpending
  requests := h.requests

/-- A stage of the boot behind the migration, or a step of a running node. -/
theorem Inv.advance (h : Inv s identity) (hgrows : Grows identity identity')
    {em : EepromManager} {m : Mesh} {phase : Phase} (hkeeps : Keeps em identity')
    (hpowered : phase ≠ .powered)
    (hkeypair : hasKeypair phase = true → identity'.keypair = some (meshKeypair m))
    (hrelays : RelaysOnly m) :
    Inv { s with eeprom := em, mesh := m, phase := phase } identity' where
  reliable := hkeeps.settled.reliable
  flash := hkeeps.flash
  unset := hkeeps.unset
  powered := fun hphase => absurd hphase hpowered
  keeps := fun _ _ => hkeeps
  keypair := hkeypair
  relays := fun _ => hrelays
  requests := by
    intro f hf hrequest
    obtain ⟨privateKey, hkey⟩ := h.requests f hf hrequest
    exact ⟨privateKey, hgrows.keypair _ hkey⟩

/-- A migration that wipes nothing keeps it.
SOURCE: EEPROM_Manager.cpp:44-124 -/
theorem Inv.migrate (h : Inv s identity) (hphase : s.phase = .powered)
    (hwipes : ¬Wipes s.eeprom) :
    Inv { s with eeprom := (begun s.eeprom).migrate, phase := .migrated } identity := by
  obtain ⟨hsynced, hdev⟩ := h.powered hphase
  have hdown : s.phase ≠ .down := by
    rw [hphase]
    decide
  have hunset : s.eeprom.read EepromAddresses.devFlag ≠ 1 := by
    rw [EepromManager.read, hsynced]
    exact h.unset
  exact h.advance (.refl _) (keeps_migrate h.reliable hsynced hdev hwipes h.flash hunset)
    (by decide) (fun hhas => absurd hhas Bool.false_ne_true) (h.relays hdown)

/-- A stage that leaves the mesh object alone, before the keypair is loaded. -/
theorem Inv.eepromStage (h : Inv s identity) {p phase : Phase} (hphase : s.phase = p)
    (hp : p ≠ .down ∧ p ≠ .powered) {em : EepromManager}
    (hkeeps : Keeps s.eeprom identity → Keeps em identity) (hpowered : phase ≠ .powered)
    (hkeypair : hasKeypair phase = false) :
    Inv { s with eeprom := em, phase := phase } identity := by
  obtain ⟨hdown, hup⟩ := up_of_phase hphase hp.1 hp.2
  refine h.advance (.refl _) (hkeeps (h.keeps hdown hup)) hpowered (fun hhas => ?_)
    (h.relays hdown)
  rw [hkeypair] at hhas
  cases hhas

/-- **The first boot that comes so far chooses the keypair, every later one takes it.** -/
theorem Inv.loadPersistentState (h : Inv s identity) (hphase : s.phase = .configured)
    (generated : Key × Key) :
    Inv
      { s with
        eeprom := (s.mesh.loadPersistentState s.eeprom generated).2
        mesh := (s.mesh.loadPersistentState s.eeprom generated).1
        phase := .restored } (booted identity generated) := by
  obtain ⟨hdown, hpowered⟩ := up_of_phase hphase (by decide) (by decide)
  obtain ⟨hkeeps, hkeys⟩ := (h.keeps hdown hpowered).loadPersistentState s.mesh generated
  exact h.advance (grows_booted identity generated) hkeeps (by decide) (fun _ => hkeys)
    ((loadPersistentState_kept s.mesh s.eeprom generated).relaysOnly (h.relays hdown))

/-- Counting the boot writes elsewhere.
SOURCE: Mesh.cpp:377-381 -/
theorem Inv.countBoot (h : Inv s identity) (hphase : s.phase = .restored) :
    Inv
      { s with
        eeprom := (s.mesh.countBoot s.eeprom).2
        mesh := (s.mesh.countBoot s.eeprom).1
        phase := .counted } identity := by
  obtain ⟨hdown, hpowered⟩ := up_of_phase hphase (by decide) (by decide)
  have hkeypair := h.keypair_of_phase hphase rfl
  exact h.advance (.refl _) ((h.keeps hdown hpowered).countBoot s.mesh) (by decide)
    (fun _ => hkeypair) (h.relays hdown)

/-- Setting up the radio touches no keypair.
SOURCE: Mesh.cpp:408-415, 492-521 -/
theorem Inv.setupRadio (h : Inv s identity) (hphase : s.phase = .counted) (tls : Mbedtls)
    (r : Mesh.InitEnv) :
    Inv
      { s with
        mesh := ((s.mesh.setupWiFi r).1.setupEspNow tls r.radio r.initError).2.1.link
          s.eeprom.loadMasterFlag
        phase := .running } identity := by
  obtain ⟨hdown, hpowered⟩ := up_of_phase hphase (by decide) (by decide)
  have hkeypair := h.keypair_of_phase hphase rfl
  have hkept : BootKept s.mesh
      (((s.mesh.setupWiFi r).1.setupEspNow tls r.radio r.initError).2.1.link
        s.eeprom.loadMasterFlag) :=
    (setupEspNow_kept s.mesh tls r).trans ⟨rfl, rfl, rfl⟩
  refine h.advance (.refl _) (h.keeps hdown hpowered) (by decide) (fun _ => ?_)
    (hkept.relaysOnly (h.relays hdown))
  exact hkeypair.trans (congrArg some (setupEspNow_meshKeypair s.mesh tls r).symm)

/-- A step of a running node that leaves the mesh object alone. -/
theorem Inv.runningEeprom (h : Inv s identity) (hphase : s.phase = .running) {em : EepromManager}
    (hgrows : Grows identity identity') (hkeeps : Keeps em identity') :
    Inv { s with eeprom := em } identity' := by
  obtain ⟨hdown, hpowered⟩ := up_of_phase hphase (by decide) (by decide)
  exact h.advance hgrows hkeeps hpowered (fun hhas => hgrows.keypair _ (h.keypair hhas))
    (h.relays hdown)

/-- **What a running node sends is no request, or carries its public key.** -/
theorem Inv.sends (h : Inv s identity) (hphase : s.phase = .running)
    {result : Mesh × List Effect} (hkeypair : meshKeypair result.1 = meshKeypair s.mesh)
    (hrelays : RelaysOnly result.1)
    (hframes : ∀ f ∈ sentFrames result.2, Request f.2 →
      f.2.enrollmentPublicKey = s.mesh.devicePublicKey) :
    Inv (s.sends result) identity := by
  have hidentity := h.keypair_of_phase hphase rfl
  refine ⟨h.reliable, h.flash, h.unset, h.powered, h.keeps, fun _ => ?_, fun _ => hrelays,
    fun f hf hrequest => ?_⟩
  · exact hidentity.trans (congrArg some hkeypair.symm)
  · rcases List.mem_append.mp hf with hbefore | hnew
    · exact h.requests f hbefore hrequest
    · obtain ⟨g, hg, rfl⟩ := List.mem_map.mp hnew
      have hkey := hframes g hg hrequest
      refine ⟨s.mesh.devicePrivateKey, hidentity.trans ?_⟩
      rw [hkey]
      rfl

/-- A call of the running node sends requests with its public key only. -/
theorem Inv.call (h : Inv s identity) (hphase : s.phase = .running) (env : Env)
    (c : MeshNetwork.Call) : Inv (s.sends (c.run s.mesh env)) identity := by
  obtain ⟨hdown, -⟩ := up_of_phase hphase (by decide) (by decide)
  have horiginates := MeshNetwork.Call.run_originates s.mesh env c
  exact h.sends hphase (Call.run_meshKeypair s.mesh env c)
    ((h.relays hdown).kept horiginates.undisturbed.kept) fun f hf => Call.request_key hf

/-- Any other task of the running node keeps the identity. -/
theorem Inv.task (h : Inv s identity) (hphase : s.phase = .running) (t : Task) :
    Inv (s.sends (t.run s.mesh)) identity := by
  obtain ⟨hdown, -⟩ := up_of_phase hphase (by decide) (by decide)
  have hforwards := Task.run_forwards (h.relays hdown) t
  exact h.sends hphase (Task.run_meshKeypair s.mesh t) hforwards.relays
    fun f hf hrequest => absurd hrequest.2 (hforwards.frames f hf)

/-- **Every step keeps the identity there is.** -/
theorem Inv.step (h : Inv s identity) {e : Event} (hstep : BootEpochs.step s e = some s')
    (hspares : sparesIdentity e = true) :
    ∃ identity', Grows identity identity' ∧ Inv s' identity' := by
  cases e with
  | powerLoss =>
      cases hstep
      exact ⟨_, .refl _, h.powerLoss⟩
  | powerOn =>
      simp only [BootEpochs.step, Option.ite_none_right_eq_some, Option.some.injEq] at hstep
      obtain ⟨-, rfl⟩ := hstep
      exact ⟨_, .refl _, h.powerOn⟩
  | migrate =>
      simp only [BootEpochs.step, Option.ite_none_right_eq_some, Option.some.injEq] at hstep
      obtain ⟨⟨hphase, hwipes⟩, rfl⟩ := hstep
      exact ⟨_, .refl _, h.migrate hphase hwipes⟩
  | validateRebootBytes =>
      simp only [BootEpochs.step, Option.ite_none_right_eq_some, Option.some.injEq] at hstep
      obtain ⟨hphase, rfl⟩ := hstep
      exact ⟨_, .refl _, h.eepromStage hphase (by decide) Keeps.validateRebootBytes (by decide) rfl⟩
  | configure reason behind =>
      simp only [BootEpochs.step, Option.ite_none_right_eq_some, Option.some.injEq] at hstep
      obtain ⟨hphase, rfl⟩ := hstep
      exact ⟨_, .refl _, h.eepromStage hphase (by decide)
        (fun hkeeps => (hkeeps.countReset reason).storeDefaults behind) (by decide) rfl⟩
  | loadPersistentState generated =>
      simp only [BootEpochs.step, Option.ite_none_right_eq_some, Option.some.injEq] at hstep
      obtain ⟨hphase, rfl⟩ := hstep
      exact ⟨_, grows_booted _ _, h.loadPersistentState hphase generated⟩
  | countBoot =>
      simp only [BootEpochs.step, Option.ite_none_right_eq_some, Option.some.injEq] at hstep
      obtain ⟨hphase, rfl⟩ := hstep
      exact ⟨_, .refl _, h.countBoot hphase⟩
  | setupRadio tls r =>
      simp only [BootEpochs.step, State.radio, Option.ite_none_right_eq_some,
        Option.some.injEq] at hstep
      obtain ⟨hphase, -, rfl⟩ := hstep
      exact ⟨_, .refl _, h.setupRadio hphase tls r⟩
  | call env c =>
      simp only [BootEpochs.step, Option.ite_none_right_eq_some, Option.some.injEq] at hstep
      obtain ⟨hphase, rfl⟩ := hstep
      exact ⟨_, .refl _, h.call hphase env c⟩
  | task t =>
      simp only [BootEpochs.step, Option.ite_none_right_eq_some, Option.some.injEq] at hstep
      obtain ⟨hphase, rfl⟩ := hstep
      exact ⟨_, .refl _, h.task hphase t⟩
  | save c =>
      simp only [BootEpochs.step, Option.ite_none_right_eq_some, Option.some.injEq] at hstep
      obtain ⟨⟨hphase, hepoch⟩, rfl⟩ := hstep
      obtain ⟨hdown, hpowered⟩ := up_of_phase hphase (by decide) (by decide)
      obtain ⟨identity', hgrows, hkeeps⟩ := (h.keeps hdown hpowered).runningSave hepoch hspares
      exact ⟨identity', hgrows, h.runningEeprom hphase hgrows hkeeps⟩
  | flushIfDirty millis =>
      simp only [BootEpochs.step, Option.ite_none_right_eq_some, Option.some.injEq] at hstep
      obtain ⟨hphase, rfl⟩ := hstep
      obtain ⟨hdown, hpowered⟩ := up_of_phase hphase (by decide) (by decide)
      exact ⟨_, .refl _, h.runningEeprom hphase (.refl _)
        ((h.keeps hdown hpowered).flushIfDirty millis)⟩
  | forceFlush millis =>
      simp only [BootEpochs.step, Option.ite_none_right_eq_some, Option.some.injEq] at hstep
      obtain ⟨hphase, rfl⟩ := hstep
      obtain ⟨hdown, hpowered⟩ := up_of_phase hphase (by decide) (by decide)
      exact ⟨_, .refl _, h.runningEeprom hphase (.refl _)
        ((h.keeps hdown hpowered).forceFlush millis)⟩

/-- Every reachable device has an identity. -/
theorem inv_of_reachable (h : (system first).Reachable s) : ∃ identity, Inv s identity := by
  refine @System.Reachable.invariant _ _ (system first) (fun s => ∃ identity, Inv s identity)
    ?_ ?_ s h
  · rintro s ⟨hs, -⟩
    exact ⟨_, inv_start hs⟩
  · rintro s e s' ⟨identity, hinv⟩ hstep
    obtain ⟨hspares, hstep⟩ := System.restrict_step_eq_some_iff.mp hstep
    obtain ⟨identity', -, hinv'⟩ := hinv.step hstep hspares
    exact ⟨identity', hinv'⟩

/-- **A run keeps the identity it starts with.** -/
theorem Inv.runFrom (h : Inv s identity) {es : List Event}
    (hrun : (system first).runFrom s es = some s') :
    ∃ identity', Grows identity identity' ∧ Inv s' identity' := by
  refine (system first).runFrom_invariant
    (P := fun t => ∃ identity', Grows identity identity' ∧ Inv t identity')
    ?_ ⟨identity, .refl _, h⟩ hrun
  rintro t e t' ⟨identity', hgrows, hinv⟩ hstep
  obtain ⟨hspares, hstep⟩ := System.restrict_step_eq_some_iff.mp hstep
  obtain ⟨next, hnext, hinv'⟩ := hinv.step hstep hspares
  exact ⟨next, hgrows.trans hnext, hinv'⟩

end Invariant

/-! ## Result -/

/-- **A node keeps its identity.**  From the stage of a boot on that loads the keypair, RAM, flash
and the mesh object agree on it, and RAM and flash on the enrollment; every enrollment request of
all boots carries the public key of the keypair in flash; and no run replaces a keypair that is in
flash or takes an enrollment back.
SOURCE: Mesh.cpp:371-376, 434-490, 986-1033, EEPROM_Manager.cpp:36-133, 400-449 -/
theorem identity_kept {first : UInt32} {s : State} (h : (system first).Reachable s) :
    (hasKeypair s.phase = true → s.eeprom.loadKeypair = some (meshKeypair s.mesh) ∧
        flashIdentity s.eeprom = ⟨some (meshKeypair s.mesh), s.eeprom.loadEnrolledFlag⟩) ∧
      (∀ f ∈ s.sent, Request f.msg → ∃ privateKey,
        (flashIdentity s.eeprom).keypair = some (privateKey, f.msg.enrollmentPublicKey)) ∧
      ∀ es s', (system first).runFrom s es = some s' →
        Grows (flashIdentity s.eeprom) (flashIdentity s'.eeprom) := by
  obtain ⟨identity, hinv⟩ := inv_of_reachable h
  refine ⟨fun hhas => ?_, fun f hf hrequest => ?_, fun es s' hrun => ?_⟩
  · have hkeypair := hinv.keypair hhas
    have hup : s.phase ≠ .down ∧ s.phase ≠ .powered := by
      constructor
      · intro hphase
        rw [hphase] at hhas
        cases hhas
      · intro hphase
        rw [hphase] at hhas
        cases hhas
    have hkeeps := hinv.keeps hup.1 hup.2
    rw [hkeeps.loadKeypair, hinv.flash, hkeeps.loadEnrolledFlag, ← hkeypair]
    exact ⟨rfl, rfl⟩
  · rw [hinv.flash]
    exact hinv.requests f hf hrequest
  · obtain ⟨identity', hgrows, hinv'⟩ := hinv.runFrom hrun
    rw [hinv.flash, hinv'.flash]
    exact hgrows

/-! ## Two boots with different random numbers -/

/-- What a boot finds on which nothing fails; `generated` is what it would generate. -/
def plainBoot (generated : Key × Key) : Mesh.InitEnv := { plainInit with generated := generated }

/-- A boot wipes nothing. -/
theorem sparesIdentity_bootEvents {reason : ResetReason} {behind : ℕ → UInt8} {tls : Mbedtls}
    {r : Mesh.InitEnv} {e : Event} (he : e ∈ bootEvents reason behind tls r) :
    sparesIdentity e = true := by
  simp only [bootEvents, List.mem_cons, List.not_mem_nil, or_false] at he
  rcases he with rfl | rfl | rfl | rfl | rfl | rfl | rfl <;> rfl

/-- The node boots, asks to be enrolled, and loses its power. -/
theorem exists_requestBoot {first : UInt32} {s : State} (h : (system first).Reachable s)
    (hdown : s.phase = .down) (hwipes : ¬Wipes s.eeprom.reboot) (generated : Key × Key) :
    ∃ s' msg, (system first).Reachable s' ∧ s'.phase = .down ∧ ¬Wipes s'.eeprom.reboot ∧
      s'.sent = s.sent ++ [⟨s.boots + 1, msg⟩] ∧ s'.boots = s.boots + 1 ∧ Request msg := by
  have hboot := @runFrom_bootEvents first s hdown hwipes .powerOn (fun _ => 0) plainTls
    (plainBoot generated) _ _ rfl rfl rfl
  have hsame : (system first).runFrom s
        (bootEvents .powerOn (fun _ => 0) plainTls (plainBoot generated)) =
      (BootEpochs.system first).runFrom s
        (bootEvents .powerOn (fun _ => 0) plainTls (plainBoot generated)) :=
    System.restrict_runFrom (fun e he _ => sparesIdentity_bootEvents he) s
  rw [← hsame] at hboot
  have hbooted := h.runFrom hboot
  generalize Mesh.new.init _ plainTls (plainBoot generated) = result at hbooted
  generalize result.2.1.1.link _ = m at hbooted
  obtain ⟨identity, hinv⟩ := inv_of_reachable hbooted
  obtain ⟨hdown', hpowered⟩ := @up_of_phase ⟨result.2.1.2, m, .running, s.boots + 1, s.sent⟩
    .running rfl (by decide) (by decide)
  have hsettled := (hinv.keeps hdown' hpowered).settled
  have hsent : sentFrames ((MeshNetwork.Call.sendEnrollmentRequest).run m quietEnv).2 =
      [(broadcastMac, m.enrollmentRequest)] := rfl
  have hcalled : (system first).Reachable
      ((⟨result.2.1.2, m, .running, s.boots + 1, s.sent⟩ : State).sends
        ((MeshNetwork.Call.sendEnrollmentRequest).run m quietEnv)) :=
    @System.Reachable.step _ _ (system first) _ _ (.call quietEnv .sendEnrollmentRequest)
      hbooted rfl
  have hoff := @System.Reachable.step _ _ (system first) _ _ .powerLoss hcalled rfl
  refine ⟨_, m.enrollmentRequest, hoff, rfl, not_wipes_reboot hsettled, ?_, rfl, rfl, rfl⟩
  simp only [State.sends, hsent]
  rfl

/-- A keypair of equal bytes. -/
def plainKeypair (b : UInt8) : Key × Key := (Vector.replicate 32 b, Vector.replicate 32 b)

/-- Two boots that would generate different keypairs send the same public key. -/
theorem identity_kept_twoBoots :
    ∃ s, (system 0).Reachable s ∧ s.sent.map (·.boot) = [1, 2] ∧
      (∀ f ∈ s.sent, ∀ g ∈ s.sent, f.msg.enrollmentPublicKey = g.msg.enrollmentPublicKey) ∧
      ∀ f ∈ s.sent, ∃ privateKey,
        (flashIdentity s.eeprom).keypair = some (privateKey, f.msg.enrollmentPublicKey) := by
  have hblank : ¬Wipes blankNode.eeprom.reboot := by
    rintro ⟨hversion, -⟩
    exact hversion rfl
  obtain ⟨s₁, msg₁, h₁, hdown₁, hwipes₁, hsent₁, hboots₁, hrequest₁⟩ :=
    exists_requestBoot (.init ⟨init_blankNode, trivial⟩) rfl hblank (plainKeypair 1)
  obtain ⟨s₂, msg₂, h₂, -, -, hsent₂, -, hrequest₂⟩ :=
    exists_requestBoot h₁ hdown₁ hwipes₁ (plainKeypair 2)
  have hsent : s₂.sent = [⟨1, msg₁⟩, ⟨2, msg₂⟩] := by
    rw [hsent₂, hsent₁, hboots₁]
    rfl
  have hrequest : ∀ f ∈ s₂.sent, Request f.msg := by
    intro f hf
    rw [hsent] at hf
    simp only [List.mem_cons, List.not_mem_nil, or_false] at hf
    rcases hf with rfl | rfl
    · exact hrequest₁
    · exact hrequest₂
  obtain ⟨-, hkeys, -⟩ := identity_kept h₂
  refine ⟨s₂, h₂, ?_, fun f hf g hg => ?_, fun f hf => hkeys f hf (hrequest f hf)⟩
  · rw [hsent]
    rfl
  · obtain ⟨privateKey, hf'⟩ := hkeys f hf (hrequest f hf)
    obtain ⟨privateKey', hg'⟩ := hkeys g hg (hrequest g hg)
    exact (Prod.mk.inj (Option.some.inj (hf'.symm.trans hg'))).2

end DeviceIdentity

end LatticeNodes.Analysis
