import LatticeNodes.Analysis.AdapterAnswers
import LatticeNodes.Program.Sketch

/-!
# The enrollment gate

The runs of a node that is no master: interrupts at any time, the passes of its main loop cut into
the rounds of the drain, the timed work and what is behind the mesh, losses of power and boots.
The gate of the loop keeps the adapter of an unenrolled node from running, but the receive queue
is drained ahead of it.

`silent_until_enrolled_iff` says exactly which runs are free of adapter data of the node's own
before its enrolled flag is set: those in which no health request that is drained by then is
answered.
-/

set_option autoImplicit false

namespace LatticeNodes.Analysis

open LatticeNodes.Program TransitionSystem

namespace EnrollmentGate

/-! ## The system -/

/-- How far a pass of the loop has come. -/
inductive Phase where
  | down
  | draining
  | behindMesh
  deriving DecidableEq

/-- `enrolled` is whether the flag has been set by now, at the boot or since; `early` are the
node's own adapter data from before that. -/
structure State where
  sketch : Sketch
  phase : Phase
  enrolled : Bool
  early : List MeshMessage

inductive Event where
  | powerLoss
  | boot (r : Sketch.BootEnv)
  /-- The interrupt of a received frame. -/
  | receive (srcMac : MacAddress) (len : ℕ) (msg : MeshMessage)
  /-- The interrupt of the motion sensor. -/
  | motion
  | drain (env : DeviceEnv)
  | timedWork (millis : UInt32) (env : Env)
  | afterMesh (r : Sketch.LoopEnv)

def State.mesh (s : State) : Mesh := s.sketch.device.mesh

/-- The entry the drain takes next. -/
def State.nextEntry (s : State) : RecvQueueEntry :=
  s.mesh.recvQueue.slots[s.mesh.recvQueue.tail]

/-- Log what was sent ahead of the flag. -/
def State.note (s : State) (sketch : Sketch) (phase : Phase) : State where
  sketch := sketch
  phase := phase
  enrolled := s.enrolled || sketch.device.isEnrolled
  early := if s.enrolled then s.early else s.early ++ ownFrames s.sketch.device sketch.device

/-- After a restart the device is down. -/
def State.conclude (s : State) (phase : Phase) : Except Restart Sketch → State
  | .ok sketch => s.note sketch phase
  | .error r => s.note { s.sketch with device := r.device } .down

/-- A boot as a master is not part of a run. -/
def State.boot (s : State) (tls : Mbedtls) (r : Sketch.BootEnv) : Option State :=
  match Sketch.setup tls s.sketch.device r with
  | .stopped d => some { s with sketch := { s.sketch with device := d } }
  | .ready sketch =>
      if sketch.device.mesh.isMaster then none
      else some ⟨sketch, .draining, sketch.device.isEnrolled,
        s.early ++ (sketch.device.sent.map Prod.snd).filter fun msg =>
          OwnData sketch.device.mesh.deviceMacAddress msg⟩

/-- SOURCE: main.ino:298-434, Mesh.cpp:544-604, 1091-1111 -/
def step (tls : Mbedtls) (s : State) : Event → Option State
  | .powerLoss => some { s with phase := .down }
  | .boot r => if s.phase = .down then s.boot tls r else none
  | .receive srcMac len msg =>
      if s.phase = .down then none
      else
        let d := { s.sketch.device with mesh := s.mesh.onDataRecvCallback srcMac len msg }
        some { s with sketch := { s.sketch with device := d } }
  | .motion =>
      if s.phase = .down then none
      else some { s with sketch := { s.sketch with pir := s.sketch.pir.detectMotion } }
  | .drain env =>
      if s.phase = .draining ∧ s.mesh.recvQueue.tail ≠ s.mesh.recvQueue.head then
        some (s.conclude .draining (s.sketch.drainEntry env))
      else none
  | .timedWork millis env =>
      if s.phase = .draining ∧ s.mesh.recvQueue.tail = s.mesh.recvQueue.head then
        some (s.conclude .behindMesh (s.sketch.timedWork millis env))
      else none
  | .afterMesh r =>
      if s.phase = .behindMesh then some (s.conclude .draining (s.sketch.afterMesh tls r))
      else none

/-- A node that is no master, as `setup()` leaves it. -/
structure Start (s : State) : Prop where
  phase : s.phase = .draining
  isMaster : s.mesh.isMaster = false
  adapter : ∃ adapter, s.sketch.device.adapter = some adapter ∧ FactoryBuilt adapter
  noRelay : s.mesh.relayPending = false
  enrolled : s.enrolled = s.sketch.device.isEnrolled
  early : s.early = []

def system (tls : Mbedtls) : System State Event where
  Init := Start
  step := step tls

/-! ## Statement -/

/-- The step drains no health request that is answered ahead of the flag. -/
def Silent (s : State) : Event → Prop
  | .drain env => s.enrolled = false → ¬Answered s.sketch.device env s.nextEntry
  | _ => True

/-! ## The invariant -/

structure Inv (s : State) : Prop where
  runs : s.phase ≠ .down → s.enrolled = false → NodeRuns s.sketch.device
  unset : s.phase ≠ .down → s.enrolled = false → s.sketch.device.isEnrolled = false

/-- A node that was never up has sent nothing. -/
theorem Start.inv {s : State} (h : Start s) : Inv s := by
  have hnone : s.sketch.device.mesh.relayPending = false := h.noRelay
  refine ⟨fun _ _ => ⟨h.isMaster, h.adapter, fun hpending => ?_⟩, fun _ hunset => ?_⟩
  · rw [hnone] at hpending
    cases hpending
  · rw [← h.enrolled]
    exact hunset

section Steps

variable {s : State}

/-- The flag has been set: nothing more is promised. -/
theorem inv_of_enrolled (h : s.enrolled = true) : Inv s := by
  constructor
  · intro _ hunset
    rw [h] at hunset
    cases hunset
  · intro _ hunset
    rw [h] at hunset
    cases hunset

/-- A node that is off has the invariant. -/
theorem inv_of_down (h : s.phase = .down) : Inv s :=
  ⟨fun hphase => absurd h hphase, fun hphase => absurd h hphase⟩

/-- What an enrolled node sends is not early. -/
theorem note_early_of_enrolled (h : s.enrolled = true) (sketch : Sketch) (phase : Phase) :
    (s.note sketch phase).early = s.early := by
  rw [State.note, if_pos h]

/-- What a node sends before its enrollment is early. -/
theorem note_early_of_unset (h : s.enrolled = false) (sketch : Sketch) (phase : Phase) :
    (s.note sketch phase).early = s.early ++ ownFrames s.sketch.device sketch.device := by
  rw [State.note, if_neg (by simp [h])]

/-- A step that leaves a running node keeps the invariant. -/
theorem inv_note {sketch : Sketch} {phase : Phase}
    (h : s.enrolled = false → NodeRuns sketch.device) : Inv (s.note sketch phase) := by
  refine ⟨fun _ hunset => ?_, fun _ hunset => ?_⟩
  · exact h (Bool.or_eq_false_iff.mp hunset).1
  · exact (Bool.or_eq_false_iff.mp hunset).2

/-- The device of a result, restarted or not. -/
def sketchAfter : Except Restart Sketch → Device
  | .ok sketch => sketch.device
  | .error r => r.device

/-- The sketch goes on with the device that the function left. -/
theorem sketchAfter_resume (sketch : Sketch) (outcome : Outcome) :
    sketchAfter (sketch.resume outcome) = deviceAfter outcome := by
  cases outcome with
  | ok d => rfl
  | error r => rfl

/-- A piece of work that ends in a running node keeps the invariant. -/
theorem inv_conclude {phase : Phase} {result : Except Restart Sketch}
    (h : s.enrolled = false → NodeRuns (sketchAfter result)) : Inv (s.conclude phase result) := by
  cases result with
  | ok sketch => exact inv_note h
  | error r => exact inv_of_down rfl

/-- What a piece of work sends before the enrollment is early. -/
theorem conclude_early_of_unset (h : s.enrolled = false) (phase : Phase)
    (result : Except Restart Sketch) : (s.conclude phase result).early =
      s.early ++ ownFrames s.sketch.device (sketchAfter result) := by
  cases result with
  | ok sketch => exact note_early_of_unset h sketch phase
  | error r => exact note_early_of_unset h _ _

/-- After the enrollment nothing is early any more. -/
theorem conclude_of_enrolled (h : s.enrolled = true) (phase : Phase)
    (result : Except Restart Sketch) :
    (s.conclude phase result).early = s.early ∧ (s.conclude phase result).enrolled = true := by
  cases result with
  | ok sketch =>
      exact ⟨note_early_of_enrolled h sketch phase, by simp [State.conclude, State.note, h]⟩
  | error r => exact ⟨note_early_of_enrolled h _ _, by simp [State.conclude, State.note, h]⟩

end Steps

/-! ## Parts of a pass -/

section Parts

variable {d : Device}

/-- A part of the pass that sends none of the node's own adapter data. -/
structure Quietly (d d' : Device) : Prop where
  runs : NodeRuns d'
  own : ownFrames d d' = []

/-- Work whose frames are all of others is quiet. -/
theorem quietly_of_sends {d₁ d' : Device} (h : NodeRuns d₁) (hsent : d₁.sent = d.sent)
    {P : MacAddress × MeshMessage → Prop} (hsends : Sends d₁ d' P)
    (hp : ∀ f, P f → ¬OwnData d.mesh.deviceMacAddress f.2) : Quietly d d' := by
  refine ⟨h.sends hsends, ownFrames_eq_nil ?_⟩
  rw [← hsent]
  exact (hsends.mono hp).sent

/-- The device when the entry is taken from the queue. -/
def dequeued (d : Device) : Device :=
  { d with mesh :=
    { d.mesh with recvQueue := { d.mesh.recvQueue with tail := d.mesh.recvQueue.tail + 1 } } }

/-- What decides whether a request is answered does not depend on the queue. -/
theorem answered_dequeued (env : DeviceEnv) (entry : RecvQueueEntry) :
    Answered (dequeued d) env entry ↔ Answered d env entry := by
  have hgate : ((dequeued d).mesh.passGate entry.msg).isSome =
      (d.mesh.passGate entry.msg).isSome := by
    unfold Mesh.passGate
    split
    · rfl
    · split
      · show Option.isSome (if (d.mesh.isReplay entry.msg).1 = true then none else _) =
          Option.isSome (if (d.mesh.isReplay entry.msg).1 = true then none else _)
        split
        · rfl
        · rfl
      · rfl
  have hroute : ReachesMaster ((dequeued d).mesh.updatePeerLastSeen env.handler entry.srcMac)
      env.callback ↔
        ReachesMaster (d.mesh.updatePeerLastSeen env.handler entry.srcMac) env.callback := by
    unfold Mesh.updatePeerLastSeen
    show ReachesMaster (if entry.srcMac = d.mesh.deviceMacAddress then _ else _) _ ↔ _
    split
    · exact Iff.rfl
    · exact Iff.rfl
  rw [Answered, Answered, hgate, hroute]
  exact Iff.rfl

/-- A node that has taken a frame off its queue is running. -/
theorem NodeRuns.dequeued (h : NodeRuns d) : NodeRuns (dequeued d) :=
  ⟨h.isMaster, h.adapter, h.relays⟩

/-- Handing a request over changes no role.
SOURCE: Mesh.cpp:1082-1089 -/
theorem drainPendingEnrollment_isMaster (m : Mesh) :
    m.drainPendingEnrollment.1.isMaster = m.isMaster := by
  rw [drainPendingEnrollment_frame]

/-- The relay timer changes no role.
SOURCE: Mesh.cpp:1099-1105 -/
theorem dispatchRelay_isMaster (m : Mesh) (env : Env) :
    (m.dispatchRelay env).1.isMaster = m.isMaster := by
  rcases dispatchRelay_fst m env with heq | heq
  · rw [heq]
  · rw [heq]

/-- The timed work of a node that is no master is the pending request and the deferred relay.
SOURCE: Mesh.cpp:1095-1111 -/
theorem timedWork_of_node {m : Mesh} (hnode : m.isMaster = false) (env : Env) :
    m.timedWork env = ((m.drainPendingEnrollment.1.dispatchRelay env).1,
      m.drainPendingEnrollment.2 ++ (m.drainPendingEnrollment.1.dispatchRelay env).2) := by
  have hrole : (m.drainPendingEnrollment.1.dispatchRelay env).1.isMaster = false := by
    rw [dispatchRelay_isMaster, drainPendingEnrollment_isMaster, hnode]
  simp only [Mesh.timedWork, hrole, Bool.false_eq_true, if_false, List.append_nil]

/-- Handing a request over calls no adapter.
SOURCE: Mesh.cpp:1082-1089 -/
theorem drainPendingEnrollment_noCallback (m : Mesh) (msg : MeshMessage) :
    Effect.externalRecvCallback msg ∉ m.drainPendingEnrollment.2 := by
  unfold Mesh.drainPendingEnrollment
  split
  · exact List.not_mem_nil
  · simp only
    split
    · simp
    · exact List.not_mem_nil

/-- The relay timer uses the radio only.
SOURCE: Mesh.cpp:1099-1105 -/
theorem dispatchRelay_radioOnly (m : Mesh) (env : Env) : AllRadioOnly (m.dispatchRelay env).2 := by
  unfold Mesh.dispatchRelay
  split
  · exact transmitCore_radioOnly _ _ _ _ _ _
  · exact allRadioOnly_nil

/-- The timed work of a node that is no master sends the deferred relay at most.
SOURCE: Mesh.cpp:1091-1111 -/
theorem timedWork_quietly (h : NodeRuns d) (millis : UInt32) (env : Env) :
    Quietly d (deviceAfter (({ d with eeprom := d.eeprom.flushIfDirty millis }).commitMesh
      Device.noCallback (d.mesh.timedWork env))) := by
  have hdrained := BootEpochs.Task.run_forwards h.relays .drainPendingEnrollment
  have hrelayed := BootEpochs.dispatchRelay_forwards hdrained.relays env
  rw [timedWork_of_node h.isMaster]
  have hruns : NodeRuns { d with
      eeprom := d.eeprom.flushIfDirty millis
      mesh := (d.mesh.drainPendingEnrollment.1.dispatchRelay env).1 } := by
    refine ⟨?_, h.adapter, hrelayed.relays⟩
    exact (dispatchRelay_isMaster _ env).trans
      ((drainPendingEnrollment_isMaster d.mesh).trans h.isMaster)
  have hnone : ∀ msg, Effect.externalRecvCallback msg ∉
      d.mesh.drainPendingEnrollment.2 ++ (d.mesh.drainPendingEnrollment.1.dispatchRelay env).2 := by
    intro msg hmsg
    rcases List.mem_append.mp hmsg with hmsg | hmsg
    · exact drainPendingEnrollment_noCallback d.mesh msg hmsg
    · exact dispatchRelay_radioOnly _ env _ hmsg
  refine quietly_of_sends hruns rfl (runEffects_sends _ hnone) fun f hf => ?_
  rw [sentFrames_append] at hf
  apply not_ownData_of_relayed
  rcases List.mem_append.mp hf with hf | hf
  · exact hdrained.frames f hf
  · exact hrelayed.frames f hf

/-- The timeout touches neither the role nor the pending relay.
SOURCE: Mesh.cpp:801-815 -/
theorem checkMasterTimeout_kept (m : Mesh) (env : Env) :
    (m.checkMasterTimeout env).isMaster = m.isMaster ∧ RelayKept m (m.checkMasterTimeout env) := by
  rw [checkMasterTimeout_frame]
  exact ⟨rfl, rfl, rfl, rfl, fun h => ⟨h, rfl⟩⟩

/-- **Behind the mesh, an unenrolled node sends enrollment requests at most.**
SOURCE: main.ino:344-357 -/
theorem afterMesh_quietly {sketch : Sketch} (h : NodeRuns sketch.device)
    (hunset : sketch.device.isEnrolled = false) (tls : Mbedtls) (r : Sketch.LoopEnv) :
    Quietly sketch.device (sketchAfter (sketch.afterMesh tls r)) := by
  obtain ⟨hrole, hkept⟩ := checkMasterTimeout_kept sketch.device.mesh r.timeout
  have hruns : NodeRuns { sketch.device with
      mesh := sketch.device.mesh.checkMasterTimeout r.timeout } :=
    ⟨hrole.trans h.isMaster, h.adapter, h.relays.kept hkept⟩
  have hgate : (!sketch.device.isEnrolled &&
      !(sketch.device.mesh.checkMasterTimeout r.timeout).isMaster) = true := by
    rw [hunset, hrole, h.isMaster]
    rfl
  have hreturns : sketch.afterMesh tls r = ({ sketch with device := { sketch.device with
      mesh := sketch.device.mesh.checkMasterTimeout r.timeout } }).requestEnrollment r :=
    if_pos hgate
  rw [hreturns, Sketch.requestEnrollment]
  split
  · rw [sketchAfter_resume]
    refine quietly_of_sends hruns rfl (runEffects_sends _ fun msg hmsg => ?_) fun f hf => ?_
    · exact espNowBroadcast_radioOnly _ _ hmsg
    · have hother : MeshMessageType.enrollment ≠ MeshMessageType.adapterData := by decide
      rw [espNowBroadcast_frames hf]
      exact fun hown => hother hown.1
  · exact ⟨hruns, ownFrames_eq_nil (Sends.nothing rfl rfl rfl).sent⟩

end Parts

/-! ## Boots -/

section Boot

/-- `Mesh::init` leaves the deferred relay alone, and sends no frame.
SOURCE: Mesh.cpp:371-406 -/
theorem init_relaysOnly (em : EepromManager) (tls : Mbedtls) (r : Mesh.InitEnv) :
    BootEpochs.RelaysOnly (Mesh.new.init em tls r).2.1.1 := by
  have hrestored := BootEpochs.loadPersistentState_kept Mesh.new em r.generated
  have hcounted : BootEpochs.RelaysOnly
      ((Mesh.new.loadPersistentState em r.generated).1.countBoot
        (Mesh.new.loadPersistentState em r.generated).2).1 :=
    hrestored.relaysOnly fun hpending => Bool.noConfusion hpending
  exact (BootEpochs.setupEspNow_kept _ tls r).relaysOnly hcounted

/-- Every effect is an error. -/
def OnlyFails (effects : List Effect) : Prop := ∀ e ∈ effects, ∃ f, e = .fail f

/-- No effects fail at most. -/
theorem OnlyFails.nil : OnlyFails [] := by
  intro e he
  cases he

/-- A failure fails at most. -/
theorem OnlyFails.single (f : Failure) : OnlyFails [.fail f] := by
  intro e he
  exact ⟨f, List.mem_singleton.mp he⟩

/-- Two such lists do together. -/
theorem OnlyFails.append {xs ys : List Effect} (hx : OnlyFails xs) (hy : OnlyFails ys) :
    OnlyFails (xs ++ ys) := by
  intro e he
  rcases List.mem_append.mp he with he | he
  · exact hx e he
  · exact hy e he

/-- A list that fails at most sends nothing. -/
theorem OnlyFails.silent {effects : List Effect} (h : OnlyFails effects) :
    sentFrames effects = [] := by
  refine List.eq_nil_iff_forall_not_mem.mpr fun f hf => ?_
  obtain ⟨failure, heq⟩ := h _ (mem_sentFrames.mp hf)
  cases heq

/-- A list that fails at most calls nobody. -/
theorem OnlyFails.noCallback {effects : List Effect} (h : OnlyFails effects) (msg : MeshMessage) :
    Effect.externalRecvCallback msg ∉ effects := by
  intro hmsg
  obtain ⟨failure, heq⟩ := h _ hmsg
  cases heq

/-- Registering peers with the radio fails at most.
SOURCE: Mesh.cpp:514-516 -/
theorem registerPeers_onlyFails (tls : Mbedtls) (env : Env) (m : Mesh) (peers : List PeerInfo) :
    OnlyFails (Mesh.registerPeers tls env m peers).2 := by
  induction peers generalizing m with
  | nil => exact .nil
  | cons p peers ih =>
      have hfirst : OnlyFails (m.registerPeerWithEspNow tls env p.mac p.publicKey).2 := by
        unfold Mesh.registerPeerWithEspNow
        split
        · exact .nil
        · split
          · exact .nil
          · exact .single _
      exact hfirst.append (ih _)

/-- The effects of `Mesh::init` are errors.
SOURCE: Mesh.cpp:191-202, 383-406, 492-521 -/
theorem init_onlyFails (em : EepromManager) (tls : Mbedtls) (r : Mesh.InitEnv) :
    OnlyFails (Mesh.new.init em tls r).2.2 := by
  have hwifi : ∀ m : Mesh, OnlyFails (m.setupWiFi r).2 := by
    intro m
    unfold Mesh.setupWiFi
    cases r.macError with
    | none =>
        cases r.channelError with
        | none => exact .nil
        | some err => exact .single _
    | some macErr =>
        cases r.channelError with
        | none => exact .single _
        | some err => exact (OnlyFails.single _).append (.single _)
  have hespNow : ∀ m : Mesh, OnlyFails (m.setupEspNow tls r.radio r.initError).2.2 := by
    intro m
    unfold Mesh.setupEspNow
    split
    · exact .single _
    · exact registerPeers_onlyFails tls r.radio _ _
  exact (hwifi _).append (hespNow _)

/-- The adapter of a boot comes from the factory.
SOURCE: main.ino:200-210 -/
theorem createBootAdapter_ok {em : EepromManager} {adapter : Adapter}
    (h : Setup.createBootAdapter em = .ok adapter) :
    FactoryBuilt { adapter with transmitFnSet := true } := by
  unfold Setup.createBootAdapter at h
  split at h
  · exact ⟨_, _, adapter, h, rfl⟩
  · exact ⟨_, _, adapter, h, rfl⟩

/-- What `setup()` returns with. -/
structure Booted (sketch : Sketch) : Prop where
  adapter : ∃ adapter, sketch.device.adapter = some adapter ∧ FactoryBuilt adapter
  relays : BootEpochs.RelaysOnly sketch.device.mesh
  sent : sketch.device.sent = []

/-- A boot that comes to an end leaves a running node.
SOURCE: main.ino:212-296 -/
theorem startMesh_ready {tls : Mbedtls} {d : Device} {adapter : Adapter} {r : Sketch.BootEnv}
    {sketch : Sketch} (h : Sketch.startMesh tls d adapter r = .ready sketch)
    (hadapter : FactoryBuilt { adapter with transmitFnSet := true }) (hsent : d.sent = []) :
    Booted sketch := by
  have hfails := init_onlyFails d.eeprom tls r.radio
  have hsends := @runEffects_sends Device.noCallback
    { d with
      eeprom := (Mesh.new.init d.eeprom tls r.radio).2.1.2
      factoryDevMode := d.eeprom.isDevMode
      mesh := (Mesh.new.init d.eeprom tls r.radio).2.1.1 } _ hfails.noCallback
  rw [Sketch.startMesh] at h
  simp only [Device.commitMesh] at h
  split at h
  · cases h
  · next d' hrun =>
    rw [hrun] at hsends
    split at h
    · cases h
      obtain ⟨frames, hframes, hmem⟩ := hsends.sent
      have hnone : frames = [] := by
        refine List.eq_nil_iff_forall_not_mem.mpr fun f hf => ?_
        have hf' := hmem f hf
        rw [hfails.silent] at hf'
        cases hf'
      have hrelays : BootEpochs.RelaysOnly d'.mesh :=
        (init_relaysOnly d.eeprom tls r.radio).kept hsends.relay
      refine ⟨⟨_, rfl, hadapter⟩, hrelays, ?_⟩
      show d'.sent = []
      rw [show d'.sent = d.sent ++ frames from hframes, hsent, hnone]
      rfl
    · cases h

/-- **A boot builds the adapter with the factory and sends nothing.**
SOURCE: main.ino:81-296 -/
theorem setup_ready {tls : Mbedtls} {d : Device} {r : Sketch.BootEnv} {sketch : Sketch}
    (h : Sketch.setup tls d r = .ready sketch) : Booted sketch := by
  unfold Sketch.setup at h
  simp only at h
  split at h
  · cases h
  · cases h
  · cases h
  · next adapter em hcreated =>
    have hadapter := createBootAdapter_ok (untilAdapter_created hcreated).2.symm
    exact startMesh_ready h hadapter rfl

end Boot

/-! ## Steps -/

section Run

variable {tls : Mbedtls} {s s' : State}

/-- What a step has to show: the invariant, and when the log stays empty. -/
structure Good (s : State) (e : Event) (s' : State) : Prop where
  inv : Inv s'
  early : s'.early = [] ↔ s.early = [] ∧ Silent s e

/-- A step that sends nothing. -/
theorem good_of_kept {e : Event} (hinv : Inv s') (hearly : s'.early = s.early)
    (hsilent : Silent s e) : Good s e s' := by
  refine ⟨hinv, ?_⟩
  rw [hearly]
  exact ⟨fun h => ⟨h, hsilent⟩, And.left⟩

/-- Parts of a pass that log what they send. -/
theorem good_conclude (hinv : Inv s) (hup : s.phase ≠ .down) {e : Event} {phase : Phase}
    {result : Except Restart Sketch}
    (hruns : s.enrolled = false → NodeRuns s.sketch.device → NodeRuns (sketchAfter result))
    (hown : s.enrolled = false → NodeRuns s.sketch.device →
      (ownFrames s.sketch.device (sketchAfter result) = [] ↔ Silent s e))
    (hlater : s.enrolled = true → Silent s e) : Good s e (s.conclude phase result) := by
  cases hset : s.enrolled with
  | true =>
      obtain ⟨hearly, hkept⟩ := conclude_of_enrolled hset phase result
      exact good_of_kept (inv_of_enrolled hkept) hearly (hlater hset)
  | false =>
      have hnode := hinv.runs hup hset
      refine ⟨inv_conclude fun _ => hruns hset hnode, ?_⟩
      rw [conclude_early_of_unset hset, List.append_eq_nil_iff, hown hset hnode]

/-- A part that sends none of the node's own adapter data. -/
theorem good_quietly (hinv : Inv s) (hup : s.phase ≠ .down) {e : Event} {phase : Phase}
    {result : Except Restart Sketch} (hsilent : Silent s e)
    (hquietly : s.enrolled = false → NodeRuns s.sketch.device →
      Quietly s.sketch.device (sketchAfter result)) : Good s e (s.conclude phase result) :=
  good_conclude hinv hup (fun hset hnode => (hquietly hset hnode).runs)
    (fun hset hnode => iff_of_true (hquietly hset hnode).own hsilent) fun _ => hsilent

/-- Draining one frame is good: it answers a health request at most. -/
theorem good_drain (hinv : Inv s) (hup : s.phase ≠ .down) (env : DeviceEnv) :
    Good s (.drain env) (s.conclude .draining (s.sketch.drainEntry env)) := by
  have hafter : sketchAfter (s.sketch.drainEntry env) =
      deviceAfter ((dequeued s.sketch.device).handleEntry env s.nextEntry) :=
    sketchAfter_resume _ _
  refine good_conclude hinv hup (fun _ hnode => ?_) (fun hset hnode => ?_) fun hset hunset => ?_
  · rw [hafter]
    exact handleEntry_runs (NodeRuns.dequeued hnode) env s.nextEntry
  · rw [hafter]
    have hiff := handleEntry_own_iff (NodeRuns.dequeued hnode) env s.nextEntry
    rw [answered_dequeued] at hiff
    exact hiff.trans ⟨fun h _ => h, fun h => h hset⟩
  · rw [hset] at hunset
    cases hunset

/-- A frame that comes in touches neither the role nor the pending relay.
SOURCE: Mesh.cpp:544-561 -/
theorem onDataRecvCallback_kept (m : Mesh) (srcMac : MacAddress) (len : ℕ) (msg : MeshMessage) :
    (m.onDataRecvCallback srcMac len msg).isMaster = m.isMaster ∧
      RelayKept m (m.onDataRecvCallback srcMac len msg) := by
  rw [onDataRecvCallback_frame]
  exact ⟨rfl, rfl, rfl, rfl, fun h => ⟨h, rfl⟩⟩

/-- A boot is good: it sends nothing but a master's beacon. -/
theorem good_boot {r : Sketch.BootEnv} (hdown : s.phase = .down)
    (hstep : s.boot tls r = some s') : Good s (.boot r) s' := by
  unfold State.boot at hstep
  split at hstep
  · cases hstep
    exact good_of_kept (inv_of_down hdown) rfl trivial
  · next sketch hready =>
    obtain ⟨hadapter, hrelays, hsent⟩ := setup_ready hready
    simp only [Option.ite_none_left_eq_some, Option.some.injEq] at hstep
    obtain ⟨hnode, rfl⟩ := hstep
    refine good_of_kept ⟨fun _ _ => ⟨by simpa using hnode, hadapter, hrelays⟩, fun _ h => h⟩ ?_
      trivial
    simp only [hsent, List.map_nil, List.filter_nil, List.append_nil]

/-- **A step keeps the log empty exactly if it is silent.** -/
theorem step_good {e : Event} (hinv : Inv s) (hstep : step tls s e = some s') : Good s e s' := by
  cases e with
  | powerLoss =>
      cases hstep
      exact good_of_kept (inv_of_down rfl) rfl trivial
  | boot r =>
      simp only [step, Option.ite_none_right_eq_some] at hstep
      exact good_boot hstep.1 hstep.2
  | receive srcMac len msg =>
      simp only [step, Option.ite_none_left_eq_some, Option.some.injEq] at hstep
      obtain ⟨hup, rfl⟩ := hstep
      obtain ⟨hrole, hkept⟩ := onDataRecvCallback_kept s.mesh srcMac len msg
      refine good_of_kept ⟨fun _ hunset => ?_, hinv.unset⟩ rfl trivial
      obtain ⟨hnode, hadapter, hrelays⟩ := hinv.runs hup hunset
      exact ⟨hrole.trans hnode, hadapter, hrelays.kept hkept⟩
  | motion =>
      simp only [step, Option.ite_none_left_eq_some, Option.some.injEq] at hstep
      obtain ⟨-, rfl⟩ := hstep
      exact good_of_kept ⟨hinv.runs, hinv.unset⟩ rfl trivial
  | drain env =>
      simp only [step, Option.ite_none_right_eq_some, Option.some.injEq] at hstep
      obtain ⟨⟨hphase, -⟩, rfl⟩ := hstep
      exact good_drain hinv (by simp [hphase]) env
  | timedWork millis env =>
      simp only [step, Option.ite_none_right_eq_some, Option.some.injEq] at hstep
      obtain ⟨⟨hphase, -⟩, rfl⟩ := hstep
      refine good_quietly hinv (by simp [hphase]) trivial fun _ hnode => ?_
      rw [Sketch.timedWork, sketchAfter_resume]
      exact timedWork_quietly hnode millis env
  | afterMesh r =>
      simp only [step, Option.ite_none_right_eq_some, Option.some.injEq] at hstep
      obtain ⟨hphase, rfl⟩ := hstep
      refine good_quietly hinv (by simp [hphase]) trivial fun hset hnode => ?_
      exact afterMesh_quietly hnode (hinv.unset (by simp [hphase]) hset) tls r

end Run

/-! ## Result -/

/-- **Before its enrolled flag is set, a node that is no master sends adapter data of its own
exactly in the runs in which a serial node drains a health request by then that it can answer.**
SOURCE: main.ino:298-362, Serial_Adapter.cpp:24-57, 143-158 -/
theorem silent_until_enrolled_iff {tls : Mbedtls} {s s' : State} {events : List Event}
    (h : Start s) (hrun : (system tls).runFrom s events = some s') :
    s'.early = [] ↔ ∀ before e after t, events = before ++ e :: after →
      (system tls).runFrom s before = some t → Silent t e := by
  have hkeep : ∀ s e s', Inv s → (system tls).step s e = some s' → Inv s' :=
    fun s e s' hinv hstep => (step_good hinv hstep).inv
  have hexact : ∀ s e s', Inv s → (system tls).step s e = some s' →
      (s'.early = [] ↔ s.early = [] ∧ Silent s e) :=
    fun s e s' hinv hstep => (step_good hinv hstep).early
  rw [(system tls).runFrom_holds_iff hkeep hexact h.inv hrun]
  exact ⟨And.right, fun hall => ⟨h.early, hall⟩⟩

/-! ## A health request ahead of the approval -/

def masterMac : MacAddress := Vector.replicate 6 1

def nodeMac : MacAddress := Vector.replicate 6 2

/-- A serial node on its first boot, with the master among its peers. -/
def newNode : State where
  sketch := Sketch.started
    { mesh := { Mesh.new with
        deviceMacAddress := nodeMac
        peers := PeerTable.empty.appendPeer ⟨masterMac, zeroKey, 0⟩ }
      eeprom := { EepromManager.powerUp blankImage with isInitialized := true }
      adapter := none
      factoryDevMode := false
      wifiMac := nodeMac
      serialOut := []
      sent := [] }
    ⟨AdapterFactory.serialAdapterDefaultPin, AdapterTypes.serialAdapter, false⟩
  phase := .draining
  enrolled := false
  early := []

/-- A new node is a start. -/
theorem start_newNode : Start newNode where
  phase := rfl
  isMaster := rfl
  adapter :=
    ⟨_, rfl, AdapterTypes.serialAdapter, AdapterFactory.serialAdapterDefaultPin, _, rfl, rfl⟩
  noRelay := rfl
  enrolled := rfl
  early := rfl

/-- A message of the master, straight from it. -/
def fromMaster (type : MeshMessageType) (seqNum : UInt16) : MeshMessage :=
  { MeshMessage.zero with
    protoVersion := Config.protoVersion
    messageType := type
    originMacAddress := masterMac
    lastHopMacAddress := masterMac
    targetMacAddress := broadcastMac
    epochNum := 1
    seqNum := seqNum }

/-- A beacon is received and drained. -/
def beaconEvents : List Event :=
  [.receive masterMac Mesh.meshMessageSize (fromMaster MeshMessageType.masterBeacon 1),
    .drain quietDeviceEnv]

/-- And after it a health request for every node. -/
def requestEvents : List Event :=
  beaconEvents ++
    [.receive masterMac Mesh.meshMessageSize
        { fromMaster MeshMessageType.adapterData 2 with
          dataType := AdapterTypes.serialAdapter
          data := zeroPayload.set 0 Opcode.healthReq byte0_lt },
      .drain quietDeviceEnv]

/-- The beacon alone makes nobody answer. -/
theorem silent_until_enrolled_beacon :
    ∃ s', (system plainTls).runFrom newNode beaconEvents = some s' ∧
      (s'.early = [] ↔ ∀ before e after t, beaconEvents = before ++ e :: after →
        (system plainTls).runFrom newNode before = some t → Silent t e) := by
  have hrun : ∃ s', (system plainTls).runFrom newNode beaconEvents = some s' :=
    ⟨_, rfl⟩
  obtain ⟨s', hs'⟩ := hrun
  exact ⟨s', hs', silent_until_enrolled_iff start_newNode hs'⟩

/-- The health request is answered by a node whose flag is not set.
SOURCE: main.ino:307-357, Serial_Adapter.cpp:155-158 -/
theorem not_silent_until_enrolled :
    Start newNode ∧ ∃ s', (system plainTls).runFrom newNode requestEvents = some s' ∧
      s'.enrolled = false ∧ s'.early.length = 1 := by
  refine ⟨start_newNode, _, rfl, ?_, ?_⟩
  · rfl
  · rfl

end EnrollmentGate

end LatticeNodes.Analysis
