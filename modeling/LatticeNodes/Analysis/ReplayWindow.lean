import LatticeNodes.Analysis.DataStages
import LatticeNodes.Analysis.ReceiveQueue
import LatticeNodes.Analysis.ReplayGate
import LatticeNodes.Library.TransitionSystem

/-!
# How far replay protection reaches

A node within one boot, with the log of what it has drained.  The replay cache holds the last
16 frames it was asked about and let through (`cache_of_reachable`), so a frame is blocked
as long as the copy that was let through is among them; a copy that was blocked does not renew
the entry, and a frame that carries no protocol version or no epoch is never looked up.
`repeated_blocked_iff` puts this together for two identical frames in a row.
-/

set_option autoImplicit false

namespace LatticeNodes.Analysis

open LatticeNodes.Program TransitionSystem BoundedFifo

namespace ReplayWindow

/-! ## The system -/

/-- A drained entry, with the node as it was before and the readings of the step. -/
structure Drain where
  before : Mesh
  env : Env
  entry : RecvQueueEntry

namespace Drain

def msg (d : Drain) : MeshMessage := d.entry.msg

def effects (d : Drain) : List Effect := (d.before.handleEntry d.env d.entry).2

/-- The message was handed to the receive callback. -/
def Delivered (d : Drain) : Prop := Effect.externalRecvCallback d.msg ∈ d.effects

/-- Some frame went out. -/
def Relayed (d : Drain) : Prop := sentFrames d.effects ≠ []

/-- The message passed the two checks before dispatch. -/
def passed (d : Drain) : Bool := (d.before.passGate d.msg).isSome

/-- The node neither delivers nor relays the message in any case. -/
def Idle (d : Drain) : Prop :=
  ¬Delivers d.before d.msg ∧
    ¬RelaysData (d.before.updatePeerLastSeen d.env d.entry.srcMac) d.env d.msg

end Drain

/-- The node and what it has drained, newest first. -/
structure State where
  mesh : Mesh
  log : List Drain

inductive Event where
  | drain (env : Env) (entry : RecvQueueEntry)
  /-- Any other work of the node: nothing else touches the replay cache. -/
  | other (m' : Mesh)

def step (s : State) : Event → Option State
  | .drain env entry =>
      some ⟨(s.mesh.handleEntry env entry).1, ⟨s.mesh, env, entry⟩ :: s.log⟩
  | .other m' =>
      if m'.replayCache = s.mesh.replayCache then some { s with mesh := m' } else none

/-- `Mesh::init` has cleared the replay cache.
SOURCE: Mesh.cpp:381 -/
structure Start (s : State) : Prop where
  replayCache : s.mesh.replayCache = zeroReplayCache
  log : s.log = []

def system : System State Event where
  Init := Start
  step := step

/-- The drain loop is a run of such events.
SOURCE: Mesh.cpp:563-604 -/
theorem drainEntries_run (s : State) (env : ℕ → Env) (n : ℕ) :
    ∃ es s', system.runFrom s es = some s' ∧ s'.mesh = (s.mesh.drainEntries env n).1 := by
  induction n generalizing s env with
  | zero => exact ⟨[], s, rfl, rfl⟩
  | succ n ih =>
      by_cases hempty : s.mesh.recvQueue.tail = s.mesh.recvQueue.head
      · rw [drainEntries_of_empty hempty]
        exact ⟨[], s, rfl, rfl⟩
      · have htaken : system.step s (.other (taken s.mesh)) = some ⟨taken s.mesh, s.log⟩ :=
          if_pos rfl
        obtain ⟨es, s', hrun, hmesh⟩ :=
          ih ⟨((taken s.mesh).handleEntry (env 0) (current s.mesh)).1,
            ⟨taken s.mesh, env 0, current s.mesh⟩ :: s.log⟩ fun i => env (i + 1)
        refine ⟨.other (taken s.mesh) :: .drain (env 0) (current s.mesh) :: es, s', ?_, ?_⟩
        · rw [System.runFrom_cons, htaken, Option.bind_some, System.runFrom_cons]
          exact hrun
        · rw [hmesh, drainEntries_succ hempty]

/-! ## The cache -/

/-- The frames the cache was asked about and let through, newest first. -/
def recordedKeys (log : List Drain) : List ReplayEntry :=
  (log.filter fun d => Mesh.replayChecked d.msg && d.passed).map fun d => Mesh.replayEntry d.msg

/-- The keys recorded in two logs. -/
theorem recordedKeys_append (xs ys : List Drain) :
    recordedKeys (xs ++ ys) = recordedKeys xs ++ recordedKeys ys := by
  simp [recordedKeys]

/-- A checked frame that passed is recorded. -/
theorem recordedKeys_cons_of_recorded {d : Drain} (hchecked : Mesh.replayChecked d.msg = true)
    (hpassed : d.passed = true) (log : List Drain) :
    recordedKeys (d :: log) = Mesh.replayEntry d.msg :: recordedKeys log := by
  simp [recordedKeys, hchecked, hpassed]

/-- A frame that was not checked, or was dropped, is not recorded. -/
theorem recordedKeys_cons_of_not {d : Drain}
    (h : ¬(Mesh.replayChecked d.msg = true ∧ d.passed = true)) (log : List Drain) :
    recordedKeys (d :: log) = recordedKeys log := by
  rw [recordedKeys, List.filter_cons_of_neg (by simpa using h)]
  rfl

/-- The gate records what it was asked about and lets through.
SOURCE: Mesh.cpp:524-537, 576-582 -/
theorem Drain.replayCache (d : Drain) :
    (d.before.handleEntry d.env d.entry).1.replayCache =
      if Mesh.replayChecked d.msg = true ∧ d.passed = true then
        d.before.replayCache.record (Mesh.replayEntry d.msg)
      else d.before.replayCache := by
  rw [handleEntry_replayCache]
  cases hchecked : Mesh.replayChecked d.msg with
  | true =>
      obtain ⟨hpassed, hcache⟩ := @passGate_checked d.before d.msg hchecked
      rw [show d.entry.msg = d.msg from rfl, hcache, Drain.passed, hpassed]
      by_cases hmem : Mesh.replayEntry d.msg ∈ d.before.replayCache.slots
      · simp [Ring.check_of_mem hmem]
      · simp [Ring.check_of_notMem hmem]
  | false =>
      have hcache := (@passGate_unchecked d.before d.msg hchecked).2
      rw [show d.entry.msg = d.msg from rfl, hcache]
      simp

/-- The cache is what the recorded frames make of the zeroed one. -/
def Recorded (s : State) : Prop :=
  s.mesh.replayCache = zeroReplayCache.recordAll (recordedKeys s.log)

/-- A drained frame keeps cache and log together. -/
theorem Recorded.drain {s : State} (h : Recorded s) (env : Env) (entry : RecvQueueEntry) :
    Recorded ⟨(s.mesh.handleEntry env entry).1, ⟨s.mesh, env, entry⟩ :: s.log⟩ := by
  have hcache := Drain.replayCache ⟨s.mesh, env, entry⟩
  unfold Recorded at h ⊢
  simp only at hcache ⊢
  rw [hcache]
  split
  · next hrecorded =>
    rw [recordedKeys_cons_of_recorded hrecorded.1 hrecorded.2, Ring.recordAll_cons, ← h]
  · next hnot =>
    rw [recordedKeys_cons_of_not hnot, h]

/-- Cache and log agree in every reachable state. -/
theorem recorded_of_reachable {s : State} (h : system.Reachable s) : Recorded s := by
  refine h.invariant ?_ ?_
  · intro s hs
    rw [Recorded, hs.replayCache, hs.log]
    rfl
  · intro s e s' hs hstep
    cases e with
    | drain env entry =>
        cases hstep
        exact hs.drain env entry
    | other m' =>
        change step s (.other m') = some s' at hstep
        simp only [ReplayWindow.step, Option.ite_none_right_eq_some, Option.some.injEq] at hstep
        obtain ⟨hkept, rfl⟩ := hstep
        exact hkept.trans hs

/-- **The cache finds a frame exactly among the last 16 recorded.**
SOURCE: Mesh.cpp:524-537 -/
theorem mem_cache_iff {s : State} (h : Recorded s) {msg : MeshMessage}
    (hchecked : Mesh.replayChecked msg = true) :
    Mesh.replayEntry msg ∈ s.mesh.replayCache.slots ↔
      Mesh.replayEntry msg ∈ (recordedKeys s.log).take replayCacheSize := by
  have hepoch : 0 < msg.epochNum := by
    rw [Mesh.replayChecked, Bool.and_eq_true, decide_eq_true_eq] at hchecked
    exact hchecked.2
  rw [h, Ring.mem_recordAll zeroReplayCache_blank (replayEntry_ne_blank hepoch)]

/-- Every drain of the log met the cache that the drains before it had left. -/
def Logged (s : State) : Prop :=
  ∀ later d earlier, s.log = later ++ d :: earlier → Recorded ⟨d.before, earlier⟩

/-- The log tells what became of every frame. -/
theorem logged_of_reachable {s : State} (h : system.Reachable s) : Logged s := by
  refine h.invariant_of_reachable ?_ ?_
  · intro s hs later d earlier hlog
    rw [hs.log] at hlog
    exact absurd hlog.symm (by simp)
  · intro s e s' hreach hs hstep
    cases e with
    | drain env entry =>
        cases hstep
        intro later d earlier hlog
        cases later with
        | nil =>
            obtain ⟨rfl, rfl⟩ := List.cons.inj hlog
            exact recorded_of_reachable hreach
        | cons d' later =>
            rw [List.cons_append] at hlog
            exact hs later d earlier (List.cons.inj hlog).2
    | other m' =>
        change step s (.other m') = some s' at hstep
        simp only [ReplayWindow.step, Option.ite_none_right_eq_some, Option.some.injEq] at hstep
        obtain ⟨-, rfl⟩ := hstep
        exact hs

/-! ## Result -/

/-- A frame the version check admits is stopped at the gate exactly when it is looked up and
found. -/
theorem Drain.passed_eq_false_iff {d : Drain}
    (hversion : d.msg.protoVersion = 0 ∨ d.msg.protoVersion = Config.protoVersion) :
    d.passed = false ↔ Mesh.replayChecked d.msg = true ∧
      Mesh.replayEntry d.msg ∈ d.before.replayCache.slots := by
  unfold Drain.passed
  cases hchecked : Mesh.replayChecked d.msg with
  | true =>
      rw [(passGate_checked hchecked).1, Bool.not_eq_false', Ring.check_fst_iff]
      simp
  | false =>
      rw [(@passGate_unchecked d.before d.msg hchecked).1 hversion]
      simp

/-- Adapter data stay without effect when they are stopped at the gate or the node is idle
about them.
SOURCE: Mesh.cpp:563-604, 923-980 -/
theorem Drain.quiet_iff {d : Drain} (htype : d.msg.messageType = MeshMessageType.adapterData) :
    ¬d.Delivered ∧ ¬d.Relayed ↔ d.passed = false ∨ d.Idle := by
  have hdelivered : d.Delivered ↔ d.passed = true ∧ Delivers d.before d.msg :=
    handleEntry_delivers_iff htype
  have hrelayed : d.Relayed ↔ d.passed = true ∧
      RelaysData (d.before.updatePeerLastSeen d.env d.entry.srcMac) d.env d.msg :=
    handleEntry_relays_iff htype
  rw [hdelivered, hrelayed, Drain.Idle]
  cases d.passed with
  | true => simp
  | false => simp

/-- There are no more keys than frames. -/
theorem length_recordedKeys_le (log : List Drain) : (recordedKeys log).length ≤ log.length := by
  rw [recordedKeys, List.length_map]
  exact List.length_filter_le _ _

/-- **A repeated frame is neither delivered nor relayed exactly when it is looked up, and the
copy before it was let through or one that was is still among the last 16 recorded; or when
the node is idle about it anyway.**
SOURCE: Mesh.cpp:524-537, 563-604, 923-980 -/
theorem repeated_blocked_iff {s : State} (h : system.Reachable s) {later mid earlier : List Drain}
    {d₁ d₂ : Drain} (hlog : s.log = later ++ d₂ :: (mid ++ d₁ :: earlier))
    (hsame : d₂.msg = d₁.msg) (htype : d₁.msg.messageType = MeshMessageType.adapterData)
    (hversion : d₁.msg.protoVersion = 0 ∨ d₁.msg.protoVersion = Config.protoVersion)
    (hwindow : mid.length < replayCacheSize) :
    ¬d₂.Delivered ∧ ¬d₂.Relayed ↔
      Mesh.replayChecked d₁.msg = true ∧ (d₁.passed = true ∨
        Mesh.replayEntry d₁.msg ∈ (recordedKeys (mid ++ earlier)).take replayCacheSize) ∨
      d₂.Idle := by
  have hlogged := logged_of_reachable h later d₂ _ hlog
  have hversion₂ := hversion
  have htype₂ := htype
  rw [← hsame] at hversion₂ htype₂
  rw [Drain.quiet_iff htype₂, Drain.passed_eq_false_iff hversion₂, hsame]
  apply or_congr_left
  apply and_congr_right
  intro hchecked
  have hcache : Mesh.replayEntry d₁.msg ∈ d₂.before.replayCache.slots ↔
      Mesh.replayEntry d₁.msg ∈ (recordedKeys (mid ++ d₁ :: earlier)).take replayCacheSize :=
    mem_cache_iff hlogged hchecked
  rw [hcache, recordedKeys_append]
  by_cases hpassed : d₁.passed = true
  · rw [recordedKeys_cons_of_recorded hchecked hpassed]
    refine ⟨fun _ => .inl hpassed, fun _ => ?_⟩
    have hfew := (length_recordedKeys_le mid).trans_lt hwindow
    rw [List.take_append, List.mem_append]
    right
    rw [List.take_cons (by omega)]
    exact List.mem_cons_self
  · rw [recordedKeys_cons_of_not (fun hrecorded => hpassed hrecorded.2), ← recordedKeys_append]
    simp [hpassed]

/-! ## The same frame twice -/

/-- A master with a receive callback, just booted. -/
def node : State where
  mesh :=
    { Mesh.new with
      deviceMacAddress := Vector.replicate 6 1
      isMaster := true
      externalRecvCallback := true }
  log := []

/-- The node is a start. -/
theorem start_node : Start node :=
  ⟨rfl, rfl⟩

/-- Data for the master, with the given protocol version. -/
def frame (version : UInt8) : RecvQueueEntry where
  srcMac := Vector.replicate 6 2
  msg :=
    { MeshMessage.zero with
      protoVersion := version
      messageType := MeshMessageType.adapterData
      dataType := AdapterTypes.pirAdapter
      originMacAddress := Vector.replicate 6 2
      targetMacAddress := Vector.replicate 6 1
      epochNum := 1
      seqNum := 42 }

def twice (version : UInt8) : List Event :=
  [.drain quietEnv (frame version), .drain quietEnv (frame version)]

/-- One frame twice, in either version. -/
theorem twice_run (version : UInt8) :
    ∃ s d₁ d₂, system.runFrom node (twice version) = some s ∧ s.log = [d₂, d₁] ∧
      d₂.msg = d₁.msg ∧ d₁.msg = (frame version).msg ∧
      d₂ = ⟨(node.mesh.handleEntry quietEnv (frame version)).1, quietEnv, frame version⟩ :=
  ⟨_, _, _, rfl, rfl, rfl, rfl, rfl⟩

/-- The second copy of a checked frame is blocked. -/
theorem repeated_blocked_twice :
    ∃ s d₁ d₂, system.Reachable s ∧ s.log = [d₂, d₁] ∧ d₂.msg = d₁.msg ∧
      (¬d₂.Delivered ∧ ¬d₂.Relayed ↔
        Mesh.replayChecked d₁.msg = true ∧ (d₁.passed = true ∨
          Mesh.replayEntry d₁.msg ∈ (recordedKeys ([] ++ [])).take replayCacheSize) ∨
        d₂.Idle) := by
  obtain ⟨s, d₁, d₂, hrun, hlog, hsame, hmsg, -⟩ := twice_run Config.protoVersion
  have hreach := System.Reachable.runFrom (.init start_node) hrun
  have hlog' : s.log = [] ++ d₂ :: ([] ++ d₁ :: []) := hlog
  refine ⟨s, d₁, d₂, hreach, hlog, hsame, repeated_blocked_iff hreach hlog' hsame ?_ ?_ ?_⟩
  · rw [hmsg]
    rfl
  · rw [hmsg]
    exact .inr rfl
  · exact Nat.zero_lt_succ _

/-- Without a protocol version the frame is delivered both times.
SOURCE: Mesh.cpp:570-582 -/
theorem not_blocked_unversioned :
    ∃ s d₁ d₂, system.Reachable s ∧ s.log = [d₂, d₁] ∧ d₂.msg = d₁.msg ∧
      d₁.msg.messageType = MeshMessageType.adapterData ∧ d₁.msg.protoVersion = 0 ∧
      d₂.Delivered := by
  obtain ⟨s, d₁, d₂, hrun, hlog, hsame, hmsg, hsecond⟩ := twice_run 0
  have hreach := System.Reachable.runFrom (.init start_node) hrun
  refine ⟨s, d₁, d₂, hreach, hlog, hsame, ?_, ?_, ?_⟩
  · rw [hmsg]
    rfl
  · rw [hmsg]
    rfl
  · rw [hsecond]
    apply (handleEntry_delivers_iff rfl).mpr
    exact ⟨rfl, by decide⟩

end ReplayWindow

end LatticeNodes.Analysis
