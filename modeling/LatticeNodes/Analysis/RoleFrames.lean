import LatticeNodes.Analysis.DeviceOutcomes
import LatticeNodes.Analysis.EepromInit
import LatticeNodes.Analysis.EepromStore
import LatticeNodes.Analysis.EnrollmentGate
import LatticeNodes.Analysis.LoopPasses

/-!
# The role and the enrollment of a running node

No call of a running device but the one on its config button changes its role, and none takes the
enrollment back (`RoleKept`): the mesh keeps `isMaster`, and of the saves it asks for none clears
the enrolled flag.  So an open gate stays open.
-/

set_option autoImplicit false

namespace LatticeNodes.Analysis

open LatticeNodes.Program

/-! ## Saves -/

/-- An enrolled node stays enrolled, and the manager in its mode. -/
structure EnrolledKept (em em' : EepromManager) : Prop where
  isInitialized : em'.isInitialized = em.isInitialized
  isDevMode : em'.isDevMode = em.isDevMode
  enrolled : em.loadEnrolledFlag = true → em'.loadEnrolledFlag = true

/-- A manager keeps its own flag. -/
theorem EnrolledKept.refl (em : EepromManager) : EnrolledKept em em :=
  ⟨rfl, rfl, id⟩

/-- What two steps keep, they keep together. -/
theorem EnrolledKept.trans {em₁ em₂ em₃ : EepromManager} (h : EnrolledKept em₁ em₂)
    (h' : EnrolledKept em₂ em₃) : EnrolledKept em₁ em₃ where
  isInitialized := h'.isInitialized.trans h.isInitialized
  isDevMode := h'.isDevMode.trans h.isDevMode
  enrolled := fun henrolled => h'.enrolled (h.enrolled henrolled)

namespace EepromFields

/-- The bytes of a call leave the flag alone, unless it is the call that sets it. -/
theorem overwrite_enrolledFlag {c : SaveCall} (hc : c ≠ .enrolledFlag false) (image : ℕ → UInt8)
    (h : image EepromAddresses.enrolledFlag = 1) :
    FieldStore.overwrite image (writesOf c) EepromAddresses.enrolledFlag = 1 := by
  by_cases hset : c = .enrolledFlag true
  · rw [hset]
    rfl
  · rw [FieldStore.overwrite_of_notMem]
    · exact h
    · intro w hw haddress
      obtain ⟨⟨k, v⟩, hresult, howns⟩ := writesOf_inside hw
      have hfield : k = .enrolledFlag := by
        by_contra hother
        apply field_disjoint hother w.1 howns
        rw [haddress]
        exact ⟨Nat.le_refl _, by decide⟩
      subst hfield
      cases c with
      | enrolledFlag enrolled =>
          cases enrolled with
          | false => exact hc rfl
          | true => exact hset rfl
      | _ => simp [resultOf] at hresult

/-- **No call but the one that clears it takes the flag back.**
SOURCE: EEPROM_Manager.cpp:188-568 -/
theorem run_enrolledKept (em : EepromManager) {c : SaveCall} (hfield : OnField c)
    (hc : c ≠ .enrolledFlag false) : EnrolledKept em (c.run em) := by
  by_cases haccepts : Accepts em c
  · obtain ⟨hinit, hdev⟩ := run_mode em c
    refine ⟨hinit, hdev, fun henrolled => ?_⟩
    rw [EepromManager.loadEnrolledFlag, Bool.and_eq_true, beq_iff_eq] at henrolled ⊢
    rw [hinit, run_read_of_accepts haccepts hfield]
    exact ⟨henrolled.1, overwrite_enrolledFlag hc em.read henrolled.2⟩
  · rw [run_of_not_accepts haccepts]
    exact .refl em

end EepromFields

/-- A flush changes nothing that is read. -/
theorem flushIfDirty_enrolledKept (em : EepromManager) (millis : UInt32) :
    EnrolledKept em (em.flushIfDirty millis) := by
  unfold EepromManager.flushIfDirty
  split
  · exact .refl em
  · split
    · exact .refl em
    · refine ⟨rfl, rfl, fun henrolled => ?_⟩
      rw [EepromManager.loadEnrolledFlag, EepromManager.read] at henrolled ⊢
      show (em.isInitialized && EepromManager.readByte em.memory.commit.cache _ == 0x01) = true
      rw [CachedMemory.Memory.commit_cache]
      exact henrolled

/-! ## Calls of the device -/

/-- The role is as before, and so is the enrollment, or it is new. -/
structure RoleKept (d d' : Device) : Prop where
  isMaster : d'.mesh.isMaster = d.mesh.isMaster
  eeprom : EnrolledKept d.eeprom d'.eeprom

/-- A device keeps its own role. -/
theorem RoleKept.refl (d : Device) : RoleKept d d :=
  ⟨rfl, .refl _⟩

/-- What two steps keep, they keep together. -/
theorem RoleKept.trans {d₁ d₂ d₃ : Device} (h : RoleKept d₁ d₂) (h' : RoleKept d₂ d₃) :
    RoleKept d₁ d₃ :=
  ⟨h'.isMaster.trans h.isMaster, h.eeprom.trans h'.eeprom⟩

/-- When the call returns, it has kept the role. -/
def KeepsRole (d : Device) (outcome : Outcome) : Prop :=
  ∀ d', outcome = .ok d' → RoleKept d d'

section Calls

variable {d d₁ : Device} {outcome : Outcome}

/-- A function that returns such a device keeps the role. -/
theorem RoleKept.keeps (h : RoleKept d d₁) : KeepsRole d (.ok d₁) := by
  intro d' hok
  rw [← Except.ok.inj hok]
  exact h

/-- A restart changes no role before it. -/
theorem keepsRole_error (restart : Restart) : KeepsRole d (.error restart) := by
  intro d' hok
  cases hok

/-- A function may start from a device that kept it. -/
theorem RoleKept.then (h : RoleKept d d₁) (h' : KeepsRole d₁ outcome) : KeepsRole d outcome :=
  fun d' hok => h.trans (h' d' hok)

/-- Two functions that keep the role do so in a row. -/
theorem KeepsRole.bind {f : Device → Outcome} (h : KeepsRole d outcome)
    (hf : ∀ d', KeepsRole d' (f d')) : KeepsRole d (outcome.bind f) := by
  intro d' hok
  obtain ⟨d₂, hfirst, hrest⟩ := exists_of_bind_eq_ok hok
  exact (h d₂ hfirst).trans (hf d₂ d' hrest)

/-- A failure keeps the role. -/
theorem fail_keepsRole (f : Failure) : KeepsRole d (d.fail f) := by
  unfold Device.fail
  split
  · exact keepsRole_error _
  · exact (RoleKept.refl d).keeps

/-- Every save keeps the role but the one that takes the enrollment back. -/
theorem save_keepsRole {c : SaveCall} (hfield : EepromFields.OnField c)
    (hc : c ≠ .enrolledFlag false) : KeepsRole d (.ok { d with eeprom := c.run d.eeprom }) :=
  RoleKept.keeps ⟨rfl, EepromFields.run_enrolledKept d.eeprom hfield hc⟩

/-! ### Mesh calls -/

variable {callback : Device → MeshMessage → Outcome}

/-- An effect keeps the role, when the callback does. -/
theorem runEffect_keepsRole (hcallback : ∀ d msg, KeepsRole d (callback d msg)) {e : Effect}
    (he : e ≠ .saveEnrolledFlag false) : KeepsRole d (d.runEffect callback e) := by
  cases e with
  | espNowSend target msg => exact RoleKept.keeps ⟨rfl, .refl _⟩
  | externalRecvCallback msg => exact hcallback d msg
  | enrollmentRelay mac pubKey =>
      apply RoleKept.keeps
      unfold Device.relayEnrollmentToServer
      split
      · exact .refl d
      · exact ⟨rfl, .refl _⟩
  | saveKnownMasterMac mac =>
      exact save_keepsRole (c := .knownMasterMac mac) trivial (by simp)
  | saveKnownMasterMacSecondary mac =>
      exact save_keepsRole (c := .knownMasterMacSecondary mac) trivial (by simp)
  | saveEnrolledFlag enrolled =>
      refine save_keepsRole (c := .enrolledFlag enrolled) trivial ?_
      rintro heq
      exact he (by rw [SaveCall.enrolledFlag.inj heq])
  | savePeerList records numPeers =>
      exact save_keepsRole (c := .peerList (Device.pointerTo records) numPeers) trivial (by simp)
  | fail f => exact fail_keepsRole f

/-- Effects one after the other keep the role. -/
theorem runEffects_keepsRole (hcallback : ∀ d msg, KeepsRole d (callback d msg))
    {effects : List Effect} (h : ∀ e ∈ effects, e ≠ .saveEnrolledFlag false) :
    KeepsRole d (d.runEffects callback effects) := by
  induction effects generalizing d with
  | nil => exact (RoleKept.refl d).keeps
  | cons e es ih =>
      rw [runEffects_cons]
      apply (runEffect_keepsRole hcallback (h e List.mem_cons_self)).bind
      exact fun d' => ih fun e' he' => h e' (List.mem_cons_of_mem _ he')

/-- A member function that leaves the role alone. -/
theorem commitMesh_keepsRole (hcallback : ∀ d msg, KeepsRole d (callback d msg))
    {result : Mesh × List Effect} (hrole : result.1.isMaster = d.mesh.isMaster)
    (h : ∀ e ∈ result.2, e ≠ .saveEnrolledFlag false) :
    KeepsRole d (d.commitMesh callback result) := by
  have hinstalled : RoleKept d { d with mesh := result.1 } := ⟨hrole, .refl _⟩
  exact hinstalled.then (runEffects_keepsRole hcallback h)

/-- No callback does nothing. -/
theorem noCallback_keepsRole (d : Device) (msg : MeshMessage) :
    KeepsRole d (Device.noCallback d msg) :=
  (RoleKept.refl d).keeps

/-- The radio takes no enrollment back. -/
theorem ne_unenroll_of_radioOnly {e : Effect} (h : RadioOnly e) : e ≠ .saveEnrolledFlag false := by
  rintro rfl
  exact h

/-- A transmission changes no role.
SOURCE: Mesh.cpp:667-677 -/
theorem transmit_isMaster (m : Mesh) (env : Env) (type : AdapterTypes) (data : Payload) :
    (m.transmit env type data).1.isMaster = m.isMaster := by
  unfold Mesh.transmit
  split
  · rfl
  · rfl

/-- A transmission keeps the role of the device.
SOURCE: Mesh.cpp:667-677 -/
theorem transmit_keepsRole (env : Env) (type : AdapterTypes) (data : Payload) :
    KeepsRole d (d.transmit env type data) :=
  commitMesh_keepsRole noCallback_keepsRole (transmit_isMaster _ _ _ _) fun e he =>
    ne_unenroll_of_radioOnly (transmit_radioOnly _ _ _ _ e he)

/-- A broadcast of adapter data keeps the role.
SOURCE: Mesh.cpp:776-780 -/
theorem broadcastAdapterData_keepsRole (env : Env) (type : AdapterTypes) (data : Payload) :
    KeepsRole d (d.broadcastAdapterData env type data) :=
  commitMesh_keepsRole noCallback_keepsRole rfl fun e he =>
    ne_unenroll_of_radioOnly (broadcastAdapterData_radioOnly _ _ _ _ e he)

/-! ### Received messages -/

/-- A new node ID keeps the role.
SOURCE: Adapter.cpp:72-88 -/
theorem applyNodeIdSet_keepsRole (msg : MeshMessage) :
    KeepsRole d (.ok (d.applyNodeIdSet msg)) := by
  unfold Device.applyNodeIdSet
  split
  · exact save_keepsRole (c := .nodeId _) trivial (by simp)
  · exact (RoleKept.refl d).keeps

/-- A commanded adapter type restarts the device: the call does not return. -/
theorem baseOpcode_keepsRole (msg : MeshMessage) : KeepsRole d (d.baseOpcode msg) := by
  unfold Device.baseOpcode
  split
  · split
    · exact keepsRole_error _
    · exact (RoleKept.refl d).keeps
  · split
    · exact applyNodeIdSet_keepsRole msg
    · exact (RoleKept.refl d).keeps

/-- An adapter's send keeps the role.
SOURCE: Adapter.cpp:26-34 -/
theorem sendDataThroughMesh_keepsRole (env : Env) (adapter : Adapter) (type : AdapterTypes)
    (data : Payload) : KeepsRole d (d.sendDataThroughMesh env adapter type data) := by
  unfold Device.sendDataThroughMesh
  split
  · exact transmit_keepsRole env type data
  · exact fail_keepsRole _

/-- An opcode for a serial adapter keeps the role.
SOURCE: Serial_Adapter.cpp:153-177 -/
theorem serialOpcode_keepsRole (env : Env) (msg : MeshMessage) :
    KeepsRole d (d.serialOpcode env msg) := by
  unfold Device.serialOpcode
  split
  · exact (RoleKept.refl d).keeps
  · split
    · exact transmit_keepsRole env _ _
    · split
      · exact save_keepsRole (c := .txPowerPreset _) trivial (by simp)
      · exact (RoleKept.refl d).keeps

/-- Every adapter's own handler keeps the role. -/
theorem onMeshDataImpl_keepsRole (env : Env) (adapter : Adapter) (msg : MeshMessage) :
    KeepsRole d (d.onMeshDataImpl env adapter msg) := by
  unfold Device.onMeshDataImpl
  split
  · apply (serialOpcode_keepsRole env msg).bind
    intro d'
    split
    · exact fail_keepsRole _
    · exact RoleKept.keeps ⟨rfl, .refl _⟩
  · exact (RoleKept.refl d).keeps

/-- SOURCE: Adapter.cpp:26-138 -/
theorem onMeshData_keepsRole (env : DeviceEnv) (adapter : Adapter) (msg : MeshMessage) :
    KeepsRole d (d.onMeshData env adapter msg) := by
  unfold Device.onMeshData
  split
  · apply (baseOpcode_keepsRole msg).bind
    intro d'
    split
    · exact (RoleKept.refl d').keeps
    · exact onMeshDataImpl_keepsRole _ _ _
  · split
    · unfold Device.ledCommand
      simp only
      split
      · exact sendDataThroughMesh_keepsRole _ _ _ _
      · exact (RoleKept.refl d).keeps
    · split
      · exact (RoleKept.refl d).keeps
      · exact onMeshDataImpl_keepsRole _ _ _

/-- The receive callback keeps the role.
SOURCE: main.ino:73-79 -/
theorem dataRecvCallback_keepsRole (env : DeviceEnv) (d : Device) (msg : MeshMessage) :
    KeepsRole d (d.dataRecvCallback env msg) := by
  unfold Device.dataRecvCallback
  split
  · exact (RoleKept.refl d).keeps
  · exact onMeshData_keepsRole env _ msg

/-- SOURCE: Mesh.cpp:563-604 -/
theorem handleEntry_keepsRole (env : DeviceEnv) (entry : RecvQueueEntry) :
    KeepsRole d (d.handleEntry env entry) := by
  apply commitMesh_keepsRole (dataRecvCallback_keepsRole env)
  · exact (handleEntry_sameNode d.mesh env.handler entry).isMaster
  · exact handleEntry_effects_of d.mesh env.handler entry (fun _ => ne_unenroll_of_radioOnly)
      (by simp) (by simp) (by simp) (by simp)

/-! ### Serial frames -/

/-- A frame passed on from the server keeps the role. -/
theorem forwardFrame_keepsRole (env : Env) (adapter : Adapter) (msg : MeshMessage) :
    KeepsRole d (d.forwardFrame env adapter msg) := by
  unfold Device.forwardFrame
  split
  · split
    · exact transmit_keepsRole env _ _
    · exact fail_keepsRole _
  · split
    · exact broadcastAdapterData_keepsRole env _ _
    · exact (RoleKept.refl d).keeps

/-- A transmit power from the server keeps the role.
SOURCE: Serial_Adapter.cpp:473-500 -/
theorem serialTxPowerSet_keepsRole (env : Env) (msg : MeshMessage) :
    KeepsRole d (d.serialTxPowerSet env msg) := by
  have hsaved : RoleKept d { d with eeprom := d.eeprom.saveTxPowerPreset msg.data[1] } :=
    ⟨rfl, @EepromFields.run_enrolledKept d.eeprom (.txPowerPreset msg.data[1]) trivial (by simp)⟩
  unfold Device.serialTxPowerSet
  split
  · exact (RoleKept.refl d).keeps
  · simp only
    split
    · exact hsaved.then (broadcastAdapterData_keepsRole env _ _)
    · exact hsaved.keeps

/-- Every control command of the server keeps the role.
SOURCE: Serial_Adapter.cpp:428-521 -/
theorem serialControl_keepsRole (env : Env) (msg : MeshMessage) :
    KeepsRole d (d.serialControl env msg) := by
  unfold Device.serialControl
  split
  · exact (RoleKept.refl d).keeps
  · split
    · exact transmit_keepsRole env _ _
    · split
      · split
        · exact keepsRole_error _
        · exact (RoleKept.refl d).keeps
      · split
        · exact serialTxPowerSet_keepsRole env msg
        · split
          · exact applyNodeIdSet_keepsRole msg
          · exact (RoleKept.refl d).keeps

/-- SOURCE: Serial_Adapter.cpp:325-524 -/
theorem handleCompleteFrame_keepsRole (tls : Mbedtls) (env : Env) (adapter : Adapter)
    (bytes : List UInt8) : KeepsRole d (d.handleCompleteFrame tls env adapter bytes) := by
  unfold Device.handleCompleteFrame
  split
  · exact fail_keepsRole _
  · split
    · split
      · exact (RoleKept.refl d).keeps
      · apply commitMesh_keepsRole noCallback_keepsRole
        · rw [enrollPeer_frame]
        · intro e he
          rw [enrollPeer_eq] at he
          split at he
          · cases he
          · rcases List.mem_cons.mp he with rfl | he
            · simp
            · rcases List.mem_append.mp he with he | he
              · exact ne_unenroll_of_radioOnly (registerPeerWithEspNow_radioOnly e he)
              · exact ne_unenroll_of_radioOnly (espNowBroadcast_radioOnly _ e he)
    · exact (forwardFrame_keepsRole env adapter _).bind fun d' => serialControl_keepsRole env _

end Calls

/-! ## The sketch -/

section Sketches

variable {s s' : Sketch}

/-- A function that comes back has kept the role. -/
theorem resume_roleKept {d : Device} {outcome : Outcome} (h : KeepsRole d outcome)
    (hok : s.resume outcome = .ok s') : RoleKept d s'.device := by
  obtain ⟨d', houtcome, rfl⟩ := resume_eq_ok hok
  exact h d' houtcome

/-- The timed work of a pass changes no role.
SOURCE: Mesh.cpp:1095-1111 -/
theorem timedWork_isMaster (m : Mesh) (env : Env) : (m.timedWork env).1.isMaster = m.isMaster := by
  have hdrained : m.drainPendingEnrollment.1.isMaster = m.isMaster := by
    rw [drainPendingEnrollment_frame]
  have hrelayed : (m.drainPendingEnrollment.1.dispatchRelay env).1.isMaster = m.isMaster := by
    rcases dispatchRelay_fst m.drainPendingEnrollment.1 env with heq | heq
    · rw [heq]
      exact hdrained
    · rw [heq]
      exact hdrained
  unfold Mesh.timedWork
  simp only
  split
  · rw [broadcastMasterBeacon_frame]
    exact hrelayed
  · exact hrelayed

/-- The timed work of a pass takes no enrollment back.
SOURCE: Mesh.cpp:1095-1111 -/
theorem timedWork_ne_unenroll (m : Mesh) (env : Env) :
    ∀ e ∈ (m.timedWork env).2, e ≠ .saveEnrolledFlag false := by
  have hbeacon : ∀ m : Mesh, ∀ e ∈ (if m.isMaster then m.broadcastMasterBeacon env else (m, [])).2,
      e ≠ .saveEnrolledFlag false := by
    intro m e he
    split at he
    · unfold Mesh.broadcastMasterBeacon at he
      split at he
      · cases he
      · exact ne_unenroll_of_radioOnly (espNowBroadcast_radioOnly _ e he)
    · cases he
  intro e he
  rcases List.mem_append.mp he with he | he
  · rcases List.mem_append.mp he with he | he
    · unfold Mesh.drainPendingEnrollment at he
      split at he
      · cases he
      · simp only at he
        split at he
        · rw [List.mem_singleton.mp he]
          simp
        · cases he
    · unfold Mesh.dispatchRelay at he
      split at he
      · exact ne_unenroll_of_radioOnly (transmitCore_radioOnly _ _ _ _ _ _ e he)
      · cases he
  · exact hbeacon _ e he

/-- **The work between the looks keeps the role.**
SOURCE: Mesh.cpp:544-604, 1091-1111 -/
theorem Work.run_roleKept {w : Work} (h : w.run s = .ok s') : RoleKept s.device s'.device := by
  cases w with
  | receive srcMac len msg =>
      cases h
      refine ⟨?_, .refl _⟩
      show (s.device.mesh.onDataRecvCallback srcMac len msg).isMaster = _
      rw [onDataRecvCallback_frame]
  | motion =>
      cases h
      exact .refl _
  | drain env =>
      simp only [Work.run] at h
      split at h
      · cases h
        exact .refl _
      · have hdequeued : RoleKept s.device { s.device with mesh :=
            { s.device.mesh with recvQueue :=
              { s.device.mesh.recvQueue with tail := s.device.mesh.recvQueue.tail + 1 } } } :=
          ⟨rfl, .refl _⟩
        exact resume_roleKept (hdequeued.then (handleEntry_keepsRole env _)) h
  | timedWork millis env =>
      have hflushed : RoleKept s.device
          { s.device with eeprom := s.device.eeprom.flushIfDirty millis } :=
        ⟨rfl, flushIfDirty_enrolledKept _ millis⟩
      refine resume_roleKept (hflushed.then ?_) h
      exact commitMesh_keepsRole noCallback_keepsRole (timedWork_isMaster _ _)
        (timedWork_ne_unenroll _ _)

/-! ### The adapters -/

/-- A call that an adapter carries on with leaves the device of its outcome. -/
theorem serialResume_roleKept {d : Device} {n n' : SerialNode} {outcome : Outcome}
    (h : KeepsRole d outcome) (hok : n.resume outcome = .ok n') : RoleKept d n'.device := by
  obtain ⟨d', houtcome, rfl⟩ := exists_of_map_eq_ok hok
  exact h d' houtcome

/-- A PIR node that goes on has kept the role. -/
theorem pirResume_roleKept {d : Device} {n n' : PirNode} {outcome : Outcome}
    (h : KeepsRole d outcome) (hok : n.resume outcome = .ok n') : RoleKept d n'.device := by
  obtain ⟨d', houtcome, rfl⟩ := exists_of_map_eq_ok hok
  exact h d' houtcome

/-- A serial node that has read a byte has kept the role.
SOURCE: Serial_Adapter.cpp:325-524 -/
theorem readByte_roleKept {tls : Mbedtls} {adapter : Adapter} {n n' : SerialNode} {env : Env}
    {byteIn : UInt8} (h : n.readByte tls adapter env byteIn = .ok n') :
    RoleKept n.device n'.device := by
  unfold SerialNode.readByte at h
  simp only at h
  split at h
  · cases h
    exact .refl _
  · exact serialResume_roleKept (fail_keepsRole _) h
  · exact serialResume_roleKept (fail_keepsRole _) h
  · exact serialResume_roleKept (handleCompleteFrame_keepsRole _ _ _ _) h

/-- A serial node that has read many bytes has kept the role. -/
theorem readBytes_roleKept {tls : Mbedtls} {adapter : Adapter} {n n' : SerialNode} {env : ℕ → Env}
    {bytes : List UInt8} (h : n.readBytes tls adapter env bytes = .ok n') :
    RoleKept n.device n'.device := by
  induction bytes generalizing n env with
  | nil =>
      cases h
      exact .refl _
  | cons byteIn bytes ih =>
      obtain ⟨n₁, hfirst, hrest⟩ := exists_of_bind_eq_ok h
      exact (readByte_roleKept hfirst).trans (ih hrest)

/-- SOURCE: Serial_Adapter.cpp:75-141 -/
theorem serialLoop_roleKept {tls : Mbedtls} {adapter : Adapter} {n n' : SerialNode} {env : Env}
    {later : ℕ → Env} {bytes : List UInt8} (h : n.loop tls adapter env later bytes = .ok n') :
    RoleKept n.device n'.device := by
  obtain ⟨n₁, hreport, hrest⟩ := exists_of_bind_eq_ok h
  refine RoleKept.trans ?_ (readBytes_roleKept hrest)
  unfold SerialNode.reportHealth at hreport
  simp only at hreport
  split at hreport
  · exact serialResume_roleKept (transmit_keepsRole _ _ _) hreport
  · cases hreport
    exact .refl _

/-- A PIR node has kept the role after a health report.
SOURCE: PIR_Adapter.cpp:104-121 -/
theorem sendNodeHealth_roleKept {adapter : Adapter} {n n' : PirNode} {r : PirEnv}
    (h : n.sendNodeHealth adapter r = .ok n') : RoleKept n.device n'.device := by
  unfold PirNode.sendNodeHealth at h
  split at h
  · exact pirResume_roleKept (sendDataThroughMesh_keepsRole _ _ _ _) h
  · cases h
    exact .refl _

/-- A PIR node has kept the role after a motion report.
SOURCE: PIR_Adapter.cpp:68-79 -/
theorem sendMotion_roleKept {adapter : Adapter} {n n' : PirNode} {env : Env}
    (h : n.sendMotion adapter env = .ok n') : RoleKept n.device n'.device := by
  unfold PirNode.sendMotion at h
  split at h
  · exact pirResume_roleKept (sendDataThroughMesh_keepsRole _ _ _ _) h
  · cases h
    exact .refl _

/-- A PIR node has kept the role when it is armed again.
SOURCE: PIR_Adapter.cpp:90-102 -/
theorem rearm_roleKept {adapter : Adapter} {n n' : PirNode} {r : PirEnv}
    (h : n.rearm adapter r = .ok n') : RoleKept n.device n'.device := by
  unfold PirNode.rearm at h
  simp only at h
  split at h
  · split at h
    · have hsent := sendNodeHealth_roleKept h
      exact hsent
    · exact pirResume_roleKept (fail_keepsRole _) h
  · exact sendNodeHealth_roleKept h

/-- SOURCE: PIR_Adapter.cpp:84-122 -/
theorem pirLoop_roleKept {adapter : Adapter} {n n' : PirNode} {r : PirEnv}
    (h : n.loop adapter r = .ok n') : RoleKept n.device n'.device := by
  unfold PirNode.loop at h
  split at h
  · cases h
    exact .refl _
  · obtain ⟨n₁, hmotion, hrearm⟩ := exists_of_bind_eq_ok h
    exact (sendMotion_roleKept hmotion).trans (rearm_roleKept hrearm)

/-- SOURCE: main.ino:310, 359-362 -/
theorem beforeButtons_roleKept {tls : Mbedtls} {r : Sketch.LoopEnv}
    (h : beforeButtons tls s r = .ok s') : RoleKept s.device s'.device := by
  have hchecked : RoleKept s.device (timeoutChecked s r).device :=
    ⟨checkMasterTimeout_isMaster _ _, .refl _⟩
  refine hchecked.trans ?_
  unfold beforeButtons Sketch.adapterLoop at h
  split at h
  · cases h
    exact .refl _
  · split at h
    · obtain ⟨node, hnode, rfl⟩ := exists_of_map_eq_ok h
      exact serialLoop_roleKept hnode
    · split at h
      · obtain ⟨node, hnode, rfl⟩ := exists_of_map_eq_ok h
        exact pirLoop_roleKept hnode
      · cases h
        exact .refl _

/-- SOURCE: main.ino:348-357 -/
theorem requestEnrollment_roleKept {r : Sketch.LoopEnv}
    (h : (timeoutChecked s r).requestEnrollment r = .ok s') : RoleKept s.device s'.device := by
  have hchecked : RoleKept s.device (timeoutChecked s r).device :=
    ⟨checkMasterTimeout_isMaster _ _, .refl _⟩
  refine hchecked.trans ?_
  unfold Sketch.requestEnrollment at h
  split at h
  · refine resume_roleKept ?_ h
    exact commitMesh_keepsRole noCallback_keepsRole rfl fun e he =>
      ne_unenroll_of_radioOnly (espNowBroadcast_radioOnly _ e he)
  · cases h
    exact .refl _

/-- **An open gate stays open.** -/
theorem RoleKept.gateOpen (h : RoleKept s.device s'.device) (hopen : gateOpen s = true) :
    Analysis.gateOpen s' = true := by
  rw [Analysis.gateOpen, Bool.or_eq_true] at hopen ⊢
  rcases hopen with henrolled | hmaster
  · exact .inl (h.eeprom.enrolled henrolled)
  · exact .inr (h.isMaster.trans hmaster)

end Sketches

/-! ## The boot -/

/-- Storing the defaults leaves the manager initialised.
SOURCE: main.ino:172-197 -/
theorem storeDefaults_isInitialized {em : EepromManager} (hinit : em.isInitialized = true)
    (behind : ℕ → UInt8) : (Setup.storeDefaults em behind).isInitialized = true := by
  have hset : ∀ isDevMode, (em.setDevMode isDevMode).isInitialized = true := fun _ => hinit
  unfold Setup.storeDefaults
  simp only
  cases Config.devMode || em.loadDevFlag with
  | true => exact hset true
  | false =>
      have hpeers : ∀ em : EepromManager, em.isInitialized = true →
          (if (true && !em.hasPeers) = true then em.savePeerList (Setup.defaultPeerList behind)
            Config.defaultPeers.length else em).isInitialized = true := by
        intro em hem
        split
        · exact (savePeerList_sameBoot em _ _).isInitialized.trans hem
        · exact hem
      have hdone := hpeers _ (hset false)
      simp only [Bool.not_false, if_true]
      rw [initializeDefaultsIfUnset_eq hdone]
      exact hdone

/-- `Mesh::init` saves a key and the boot's epoch.
SOURCE: Mesh.cpp:371-406 -/
theorem init_enrolledKept (em : EepromManager) (m : Mesh) (tls : Mbedtls) (r : Mesh.InitEnv) :
    EnrolledKept em (m.init em tls r).2.1.2 := by
  have hkey : ∀ em', EnrolledKept em em' →
      EnrolledKept em (em'.saveMeshKey Config.defaultMeshKey.toList) :=
    fun em' hem => hem.trans (@EepromFields.run_enrolledKept em'
      (.meshKey Config.defaultMeshKey.toList) trivial (by simp))
  have hpair : ∀ em', EnrolledKept em em' →
      EnrolledKept em (em'.saveKeypair r.generated.1 r.generated.2) :=
    fun em' hem => hem.trans (@EepromFields.run_enrolledKept em'
      (.keypair r.generated.1 r.generated.2) trivial (by simp))
  have hcounted : ∀ (m : Mesh) (em : EepromManager), EnrolledKept em (m.countBoot em).2 :=
    fun m em => @EepromFields.run_enrolledKept em (.bootEpoch (em.loadBootEpoch + 1)) trivial
      (by simp)
  exact (BootEpochs.loadPersistentState_keeps hkey hpair (.refl em) m).trans
    (hcounted (m.loadPersistentState em r.generated).1 _)

/-- **`setup()` returns over an initialised manager.**
SOURCE: main.ino:97-282 -/
theorem setup_initialized {tls : Mbedtls} {d : Device} {r : Sketch.BootEnv} {sketch : Sketch}
    (h : Sketch.setup tls d r = .ready sketch) :
    ∃ d' adapter, sketch = Sketch.started d' adapter ∧ d'.eeprom.isInitialized = true := by
  unfold Sketch.setup at h
  simp only at h
  split at h
  · cases h
  · cases h
  · cases h
  · next adapter em hcreated =>
    have hreset : (Setup.countReset d.eeprom.reboot r.reason).isInitialized = true :=
      (countReset_sameBoot _ _).isInitialized.trans (init_flags _).1
    have hem : em.isInitialized = true := by
      rw [(untilAdapter_created hcreated).1]
      exact storeDefaults_isInitialized hreset r.behind
    rw [Sketch.startMesh] at h
    simp only [Device.commitMesh] at h
    split at h
    · cases h
    · next d' hrun =>
      split at h
      · cases h
        refine ⟨d', adapter, rfl, ?_⟩
        have hfails := EnrollmentGate.init_onlyFails em tls r.radio
        have hkept := runEffects_keepsRole noCallback_keepsRole (fun e he => ?_) d' hrun
        · exact hkept.eeprom.isInitialized.trans
            ((init_enrolledKept em Mesh.new tls r.radio).isInitialized.trans hem)
        · obtain ⟨f, rfl⟩ := hfails e he
          simp
      · cases h

end LatticeNodes.Analysis
