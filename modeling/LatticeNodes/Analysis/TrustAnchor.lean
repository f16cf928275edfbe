import LatticeNodes.Analysis.MeshFrames
import LatticeNodes.Library.TransitionSystem
import LatticeNodes.Library.WrappingClock

/-!
# The trust anchor

One node within a boot: it drains received messages and checks for a silent master, and reads
a clock that wraps every 49.7 days.  `TrustMove` lists what a received message can do to the
trusted masters; `Fresh` relates `lastMasterBeaconReceivedMs` to real time, across the resets
of `checkMasterTimeout`.  `trust_anchor_safe` follows: in every run the primary is replaced
only by a stranger's beacon after a real silence, and the secondary is set once.

A stored secondary counts as trusted only in dual-master mode.
-/

set_option autoImplicit false

namespace LatticeNodes.Analysis

open LatticeNodes.Program TransitionSystem WrappingClock

namespace TrustAnchor

/-! ## The trusted masters -/

structure Trust where
  knownMasterMac : MacAddress
  hasMasterMac : Bool
  knownMasterMacSecondary : MacAddress
  hasMasterMacSecondary : Bool
  dualMasterMode : Bool
  deriving DecidableEq

def trustOf (m : Mesh) : Trust :=
  ⟨m.knownMasterMac, m.hasMasterMac, m.knownMasterMacSecondary, m.hasMasterMacSecondary,
    m.dualMasterMode⟩

/-- The address is that of a trusted master.
SOURCE: Mesh.cpp:839-841 -/
def Trust.Trusts (t : Trust) (mac : MacAddress) : Prop :=
  t.hasMasterMac = true ∧ mac = t.knownMasterMac ∨
    t.dualMasterMode = true ∧ t.hasMasterMacSecondary = true ∧ mac = t.knownMasterMacSecondary

/-- A beacon the node accepts, after the gate.
SOURCE: Mesh.cpp:831-870 -/
def accepts (m : Mesh) (env : Env) (entry : RecvQueueEntry) : Bool :=
  match received m env entry with
  | none => false
  | some m' =>
      entry.msg.messageType == MeshMessageType.masterBeacon && m'.acceptsBeacon env entry.msg

/-- What a received message does to trust and freshness. -/
inductive TrustMove (m : Mesh) (env : Env) (entry : RecvQueueEntry) : Mesh → Prop
  /-- Nothing. -/
  | kept {m' : Mesh} (hrefused : accepts m env entry = false) (htrust : trustOf m' = trustOf m)
      (hlast : m'.lastMasterBeaconReceivedMs = m.lastMasterBeaconReceivedMs) :
      TrustMove m env entry m'
  /-- A `JOIN_ACK` names the first master. -/
  | joinAck {m' : Mesh} (hrefused : accepts m env entry = false) (hno : m.hasMasterMac = false)
      (htrust : trustOf m' =
        { trustOf m with knownMasterMac := entry.msg.originMacAddress, hasMasterMac := true })
      (hlast : m'.lastMasterBeaconReceivedMs = m.lastMasterBeaconReceivedMs) :
      TrustMove m env entry m'
  /-- A beacon passes one of the trust steps. -/
  | beacon {m' m₁ m₂ : Mesh} {effects : List Effect} (haccepted : accepts m env entry = true)
      (hbefore : trustOf m₁ = trustOf m)
      (hlastBefore : m₁.lastMasterBeaconReceivedMs = m.lastMasterBeaconReceivedMs)
      (hstep : TrustStep m₁ env entry.msg m₂ effects) (htrust : trustOf m' = trustOf m₂)
      (hlast : m'.lastMasterBeaconReceivedMs = env.millisLate) :
      TrustMove m env entry m'

/-! ## Received messages -/

/-- The stages after the trust check leave trust alone and note the time.
SOURCE: Mesh.cpp:871-888 -/
theorem afterTrust_trust (m : Mesh) (env : Env) (msg : MeshMessage) :
    trustOf (afterTrust m env msg) = trustOf m ∧
      (afterTrust m env msg).lastMasterBeaconReceivedMs = env.millisLate := by
  by_cases hskip : m.isMaster = true ∨ m.isNewer msg = false
  · rw [afterTrust_of_not_relayed hskip]
    exact ⟨rfl, rfl⟩
  · obtain ⟨hnode, hnew⟩ := not_or.mp hskip
    obtain ⟨time, heq⟩ := afterTrust_of_relayed (by simpa using hnode) (by simpa using hnew)
    rw [heq]
    exact ⟨rfl, rfl⟩

/-- An approval teaches a node without a master who its master is.
SOURCE: Mesh.cpp:1012-1033 -/
theorem processJoinAck_trust (m : Mesh) (env : Env) (msg : MeshMessage) :
    (m.processJoinAck env msg).1 = m ∨ m.hasMasterMac = false ∧
      (m.processJoinAck env msg).1 =
        { m with knownMasterMac := msg.originMacAddress, hasMasterMac := true } := by
  unfold Mesh.processJoinAck
  split
  · exact .inl rfl
  · split
    · exact .inl rfl
    · split
      · next hno => exact .inr ⟨by simpa using hno, rfl⟩
      · exact .inl rfl

/-- **A received message moves trust in one of three ways.**
SOURCE: Mesh.cpp:563-604 -/
theorem handleEntry_trustMove (m : Mesh) (env : Env) (entry : RecvQueueEntry) :
    TrustMove m env entry (m.handleEntry env entry).1 := by
  cases hreceived : received m env entry with
  | none =>
      rw [handleEntry_of_dropped hreceived]
      exact .kept (by rw [accepts, hreceived]) rfl rfl
  | some m₁ =>
      have hframe := received_frame hreceived
      have htrust₁ : trustOf m₁ = trustOf m := by rw [hframe]; rfl
      have hlast₁ : m₁.lastMasterBeaconReceivedMs = m.lastMasterBeaconReceivedMs := by rw [hframe]
      rw [handleEntry_of_received hreceived]
      by_cases hbeacon : entry.msg.messageType = MeshMessageType.masterBeacon
      · rw [dispatch_masterBeacon m₁ env hbeacon]
        rcases processMasterBeacon_inv m₁ env entry.msg with
          ⟨hrejected, heq⟩ | ⟨m₂, trusted, haccepted, -, hstep, heq⟩
        · rw [heq]
          refine .kept ?_ htrust₁ hlast₁
          rw [accepts, hreceived]
          simp only [hrejected, Bool.and_false]
        · rw [heq]
          obtain ⟨htrust, hlast⟩ := afterTrust_trust m₂ env entry.msg
          refine .beacon ?_ htrust₁ hlast₁ hstep htrust hlast
          rw [accepts, hreceived]
          simp only [hbeacon, haccepted, beq_self_eq_true, Bool.and_self]
      · have hrefused : accepts m env entry = false := by
          rw [accepts, hreceived]
          simp only [beq_eq_false_iff_ne.mpr hbeacon, Bool.false_and]
        have hkept : ∀ m', trustOf m' = trustOf m₁ →
            m'.lastMasterBeaconReceivedMs = m₁.lastMasterBeaconReceivedMs →
              TrustMove m env entry m' :=
          fun m' ht hl => .kept hrefused (ht.trans htrust₁) (hl.trans hlast₁)
        unfold Mesh.dispatch
        split
        · unfold Mesh.processEnrollmentRequest
          split
          · exact hkept m₁ rfl rfl
          · exact hkept _ rfl rfl
        · split
          · rcases processJoinAck_trust m₁ env entry.msg with heq | ⟨hno, heq⟩
            · rw [heq]
              exact hkept m₁ rfl rfl
            · rw [heq]
              have hno' : m.hasMasterMac = false := by
                rw [hframe] at hno
                exact hno
              refine .joinAck hrefused hno' ?_ hlast₁
              rw [← htrust₁]
              rfl
          · split
            · rw [processAdapterData_fst]
              exact hkept m₁ rfl rfl
            · exact hkept m₁ rfl rfl

/-! ## The system -/

/-- The node, real time since boot, and when a beacon was last accepted. -/
structure State where
  mesh : Mesh
  clock : ℕ
  lastAccepted : Option ℕ

inductive Event where
  /-- A received message is drained; the handler reads the clock at the start and, for an
  accepted beacon, once more after the LED blink. -/
  | receive (start finish : ℕ) (env : Env) (entry : RecvQueueEntry)
  | checkTimeout (time : ℕ) (env : Env)
  | dispatchRelay (time : ℕ) (env : Env)
  | drainEnrollment

/-- The readings of a call between two times. -/
def envAt (start finish : ℕ) (env : Env) : Env :=
  { env with millis := reading start, millisLate := reading finish }

def step (s : State) : Event → Option State
  | .receive start finish env entry =>
      if s.clock ≤ start ∧ start ≤ finish then
        some {
          mesh := (s.mesh.handleEntry (envAt start finish env) entry).1
          clock := finish
          lastAccepted :=
            if accepts s.mesh (envAt start finish env) entry then some finish else s.lastAccepted }
      else none
  | .checkTimeout time env =>
      if s.clock ≤ time then
        some { s with mesh := s.mesh.checkMasterTimeout (envAt time time env), clock := time }
      else none
  | .dispatchRelay time env =>
      if s.clock ≤ time then
        some { s with mesh := (s.mesh.dispatchRelay (envAt time time env)).1, clock := time }
      else none
  | .drainEnrollment => some { s with mesh := s.mesh.drainPendingEnrollment.1 }

/-- No beacon was accepted in this boot yet; a secondary is set only beside a different
primary. -/
structure Start (s : State) : Prop where
  unheard : s.mesh.lastMasterBeaconReceivedMs = 0
  lastAccepted : s.lastAccepted = none
  secondary : s.mesh.hasMasterMacSecondary = true →
    s.mesh.hasMasterMac = true ∧ s.mesh.knownMasterMac ≠ s.mesh.knownMasterMacSecondary

def system : System State Event where
  Init := Start
  step := step

/-! ## Statement -/

/-- The event is a stranger's beacon after the real silence that makes the masters stale. -/
def StaleStranger (s : State) (e : Event) : Prop :=
  ∃ start finish env entry, e = .receive start finish env entry ∧
    entry.msg.messageType = MeshMessageType.masterBeacon ∧
    ¬(trustOf s.mesh).Trusts entry.msg.originMacAddress ∧
    ¬(s.mesh.dualMasterMode = true ∧ s.mesh.hasMasterMacSecondary = false) ∧
    Config.staleMasterThresholdMs.toNat ≤ start ∧
    ∀ time, s.lastAccepted = some time → time + Config.staleMasterThresholdMs.toNat ≤ start

/-- A known primary stays known, and is replaced only by a stale stranger. -/
def KeepsPrimary (s : State) (e : Event) (s' : State) : Prop :=
  s.mesh.hasMasterMac = true → s'.mesh.hasMasterMac = true ∧
    (s'.mesh.knownMasterMac ≠ s.mesh.knownMasterMac → StaleStranger s e)

/-- The secondary is set at most once, and in dual-master mode only. -/
def KeepsSecondary (s s' : State) : Prop :=
  s'.mesh.hasMasterMacSecondary = s.mesh.hasMasterMacSecondary ∧
      s'.mesh.knownMasterMacSecondary = s.mesh.knownMasterMacSecondary ∨
    s.mesh.dualMasterMode = true ∧ s.mesh.hasMasterMacSecondary = false ∧
      s'.mesh.hasMasterMacSecondary = true

/-- Two trusted masters are different ones. -/
def Distinct (s : State) : Prop :=
  s.mesh.hasMasterMac = true → s.mesh.dualMasterMode = true →
    s.mesh.hasMasterMacSecondary = true →
      s.mesh.knownMasterMac ≠ s.mesh.knownMasterMacSecondary

/-- The beacon is rejected as coming from an unexpected address.
SOURCE: Mesh.cpp:859-862 -/
def Rejects (m : Mesh) (env : Env) (msg : MeshMessage) : Prop :=
  msg.hopCount < Config.maxHops ∧ m.admitBeacon env msg = none

/-- A rejected beacon leaves every device as it was. -/
def RejectsSilently (m : Mesh) : Prop :=
  ∀ env msg, Rejects m env msg → ∀ (d : Device) (callback : Device → MeshMessage → Outcome),
    d.mesh = m → d.commitMesh callback (d.mesh.processMasterBeacon env msg) = .ok d

/-! ## The invariant -/

/-- What `lastMasterBeaconReceivedMs` says about real time: it is the reading of the last
acceptance, or zero because there was none, or zero since the masters went stale. -/
inductive Fresh (s : State) : Prop
  | unheard (hlast : s.mesh.lastMasterBeaconReceivedMs = 0) (hnone : s.lastAccepted = none)
  | heard {time : ℕ} (haccepted : s.lastAccepted = some time) (hpast : time ≤ s.clock)
      (hlast : s.mesh.lastMasterBeaconReceivedMs = reading time)
  | silent {time : ℕ} (haccepted : s.lastAccepted = some time)
      (hlast : s.mesh.lastMasterBeaconReceivedMs = 0)
      (hstale : time + Config.staleMasterThresholdMs.toNat ≤ s.clock)

/-- A test that finds the masters stale is right about real time. -/
theorem Fresh.stale {s : State} (h : Fresh s) {start : ℕ} (hnow : s.clock ≤ start)
    (hstale : ¬reading start - s.mesh.lastMasterBeaconReceivedMs <
      Config.staleMasterThresholdMs) :
    Config.staleMasterThresholdMs.toNat ≤ start ∧
      ∀ time, s.lastAccepted = some time → time + Config.staleMasterThresholdMs.toNat ≤ start := by
  cases h with
  | unheard hlast hnone =>
      rw [hlast, ← reading_zero] at hstale
      have hboot := le_of_not_lt (Nat.zero_le start) hstale
      refine ⟨by omega, fun time htime => ?_⟩
      rw [hnone] at htime
      cases htime
  | @heard accepted haccepted hpast hlast =>
      rw [hlast] at hstale
      have hsince := le_of_not_lt (hpast.trans hnow) hstale
      refine ⟨by omega, fun time htime => ?_⟩
      obtain rfl : accepted = time := Option.some.inj (haccepted.symm.trans htime)
      exact hsince
  | @silent accepted haccepted hlast hstale' =>
      refine ⟨by omega, fun time htime => ?_⟩
      obtain rfl : accepted = time := Option.some.inj (haccepted.symm.trans htime)
      omega

structure Invariant (s : State) : Prop where
  fresh : Fresh s
  secondary : s.mesh.hasMasterMacSecondary = true → s.mesh.hasMasterMac = true
  distinct : Distinct s

/-- What one step must show. -/
structure Safe (s : State) (e : Event) (s' : State) : Prop where
  invariant : Invariant s'
  primary : KeepsPrimary s e s'
  secondary : KeepsSecondary s s'

/-- Trust is five members of the mesh object. -/
theorem trustOf_eq_iff {m m' : Mesh} : trustOf m' = trustOf m ↔
    m'.knownMasterMac = m.knownMasterMac ∧ m'.hasMasterMac = m.hasMasterMac ∧
      m'.knownMasterMacSecondary = m.knownMasterMacSecondary ∧
      m'.hasMasterMacSecondary = m.hasMasterMacSecondary ∧
      m'.dualMasterMode = m.dualMasterMode := by
  simp only [trustOf, Trust.mk.injEq]

/-- A step that leaves trust and freshness alone is safe. -/
theorem Invariant.kept {s s' : State} (h : Invariant s) (e : Event)
    (htrust : trustOf s'.mesh = trustOf s.mesh) (hfresh : Fresh s') : Safe s e s' := by
  obtain ⟨hprimary, hhas, hsecondary, hhasSecondary, hdual⟩ := trustOf_eq_iff.mp htrust
  refine ⟨⟨hfresh, ?_, ?_⟩, ?_, .inl ⟨hhasSecondary, hsecondary⟩⟩
  · rw [hhasSecondary, hhas]
    exact h.secondary
  · rw [Distinct, hhas, hdual, hhasSecondary, hprimary, hsecondary]
    exact h.distinct
  · intro hknown
    exact ⟨hhas.trans hknown, fun hchanged => absurd hprimary hchanged⟩

/-- The first master is learned: there was no secondary yet. -/
theorem Invariant.learned {s s' : State} (h : Invariant s) (e : Event)
    (hno : s.mesh.hasMasterMac = false) {mac : MacAddress}
    (htrust : trustOf s'.mesh =
      { trustOf s.mesh with knownMasterMac := mac, hasMasterMac := true })
    (hfresh : Fresh s') : Safe s e s' := by
  simp only [trustOf, Trust.mk.injEq] at htrust
  obtain ⟨-, hhas, hsecondary, hhasSecondary, -⟩ := htrust
  have hnoSecondary : s'.mesh.hasMasterMacSecondary ≠ true := by
    intro hset
    have hknown := h.secondary (hhasSecondary.symm.trans hset)
    rw [hno] at hknown
    cases hknown
  refine ⟨⟨hfresh, fun _ => hhas, ?_⟩, ?_, .inl ⟨hhasSecondary, hsecondary⟩⟩
  · intro _ _ hset
    exact absurd hset hnoSecondary
  · intro hknown
    rw [hno] at hknown
    cases hknown

/-- Time passes; freshness keeps its meaning. -/
theorem Fresh.advance {s s' : State} (h : Fresh s)
    (hlast : s'.mesh.lastMasterBeaconReceivedMs = s.mesh.lastMasterBeaconReceivedMs)
    (haccepted : s'.lastAccepted = s.lastAccepted) (hclock : s.clock ≤ s'.clock) : Fresh s' := by
  cases h with
  | unheard hzero hnone => exact .unheard (hlast.trans hzero) (haccepted.trans hnone)
  | heard htime hpast hreading =>
      exact .heard (haccepted.trans htime) (hpast.trans hclock) (hlast.trans hreading)
  | silent htime hzero hstale =>
      exact .silent (haccepted.trans htime) (hlast.trans hzero) (hstale.trans hclock)

/-! ## One step -/

/-- A received message: the three moves of trust.
SOURCE: Mesh.cpp:563-604 -/
theorem Invariant.receive {s : State} (h : Invariant s) {start finish : ℕ}
    (hnow : s.clock ≤ start) (hle : start ≤ finish) (env : Env) (entry : RecvQueueEntry) :
    Safe s (.receive start finish env entry)
      { mesh := (s.mesh.handleEntry (envAt start finish env) entry).1
        clock := finish
        lastAccepted :=
          if accepts s.mesh (envAt start finish env) entry then some finish
          else s.lastAccepted } := by
  have hclock := hnow.trans hle
  have hmove := handleEntry_trustMove s.mesh (envAt start finish env) entry
  generalize (s.mesh.handleEntry (envAt start finish env) entry).1 = m' at hmove ⊢
  cases hmove with
  | kept hrefused htrust hlast =>
      rw [hrefused, if_neg Bool.false_ne_true]
      exact h.kept _ htrust (h.fresh.advance hlast rfl hclock)
  | joinAck hrefused hno htrust hlast =>
      rw [hrefused, if_neg Bool.false_ne_true]
      exact h.learned _ hno htrust (h.fresh.advance hlast rfl hclock)
  | @beacon m₁ m₂ effects haccepted hbefore hlastBefore hstep htrust hlast =>
      rw [haccepted, if_pos rfl]
      have hbeacon : entry.msg.messageType = MeshMessageType.masterBeacon := by
        unfold accepts at haccepted
        split at haccepted
        · cases haccepted
        · exact beq_iff_eq.mp (Bool.and_eq_true_iff.mp haccepted).1
      have hfresh : Fresh ⟨m', finish, some finish⟩ := .heard rfl le_rfl hlast
      obtain ⟨hprimary₁, hhas₁, hsecondary₁, hhasSecondary₁, hdual₁⟩ := trustOf_eq_iff.mp hbefore
      cases hstep with
      | learnPrimary hno =>
          rw [hhas₁] at hno
          have hlearned : trustOf m' = { trustOf s.mesh with
              knownMasterMac := entry.msg.originMacAddress, hasMasterMac := true } := by
            rw [htrust, ← hbefore]
            rfl
          exact h.learned _ hno hlearned hfresh
      | trusted _ _ => exact h.kept _ (htrust.trans hbefore) hfresh
      | learnSecondary hhas hprimary hdual hfree =>
          obtain ⟨hprimary', hhas', hsecondary', hhasSecondary', -⟩ := trustOf_eq_iff.mp htrust
          refine ⟨⟨hfresh, fun _ => hhas'.trans hhas, fun _ _ _ => ?_⟩, fun _ => ?_,
            .inr ⟨hdual₁.symm.trans hdual, hhasSecondary₁.symm.trans hfree, hhasSecondary'⟩⟩
          · rw [hprimary', hsecondary']
            exact hprimary.symm
          · exact ⟨hhas'.trans hhas, fun hchanged => absurd (hprimary'.trans hprimary₁) hchanged⟩
      | hotswap hhas hprimary hsecondary hstale =>
          obtain ⟨hprimary', hhas', hsecondary', hhasSecondary', hdual'⟩ := trustOf_eq_iff.mp htrust
          rw [hlastBefore] at hstale
          rw [hhas₁] at hhas
          rw [hprimary₁] at hprimary
          rw [hdual₁, hhasSecondary₁, hsecondary₁] at hsecondary
          obtain ⟨hboot, hsince⟩ := h.fresh.stale hnow hstale
          refine ⟨⟨hfresh, fun _ => hhas'.trans (hhas₁.trans hhas), fun _ hdual _ => ?_⟩,
            fun _ => ?_, .inl ⟨hhasSecondary'.trans hhasSecondary₁, hsecondary'.trans hsecondary₁⟩⟩
          · rw [hprimary', hsecondary']
            have hother := (hsecondary ((hdual'.trans hdual₁).symm.trans hdual)).2
            rw [hsecondary₁]
            exact hother
          · refine ⟨hhas'.trans (hhas₁.trans hhas), fun _ => ?_⟩
            refine ⟨start, finish, env, entry, rfl, hbeacon, ?_, ?_, hboot, hsince⟩
            · rintro (⟨-, heq⟩ | ⟨hdual, -, heq⟩)
              · exact hprimary heq
              · exact (hsecondary hdual).2 heq
            · rintro ⟨hdual, hfree⟩
              rw [(hsecondary hdual).1] at hfree
              cases hfree

/-- The timeout forgets the route, after a real silence.
SOURCE: Mesh.cpp:801-815 -/
theorem Invariant.checkTimeout {s : State} (h : Invariant s) {time : ℕ} (hnow : s.clock ≤ time)
    (env : Env) : Safe s (.checkTimeout time env)
      { s with mesh := s.mesh.checkMasterTimeout (envAt time time env), clock := time } := by
  unfold Mesh.checkMasterTimeout
  split
  · exact h.kept _ rfl (h.fresh.advance rfl rfl hnow)
  · split
    · exact h.kept _ rfl (h.fresh.advance rfl rfl hnow)
    · split
      · next hsilent =>
        refine h.kept _ rfl ?_
        cases h.fresh with
        | unheard _ hnone => exact .unheard rfl hnone
        | @heard accepted haccepted hpast hlast =>
            rw [hlast] at hsilent
            have hlong := lt_of_lt (hpast.trans hnow) hsilent
            exact .silent haccepted rfl hlong.le
        | silent haccepted _ hstale => exact .silent haccepted rfl (hstale.trans hnow)
      · exact h.kept _ rfl (h.fresh.advance rfl rfl hnow)

/-- One case for each event. -/
theorem Invariant.step {s s' : State} {e : Event} (h : Invariant s) (hstep : step s e = some s') :
    Safe s e s' := by
  cases e with
  | receive start finish env entry =>
      simp only [TrustAnchor.step, Option.ite_none_right_eq_some, Option.some.injEq] at hstep
      obtain ⟨⟨hnow, hle⟩, rfl⟩ := hstep
      exact h.receive hnow hle env entry
  | checkTimeout time env =>
      simp only [TrustAnchor.step, Option.ite_none_right_eq_some, Option.some.injEq] at hstep
      obtain ⟨hnow, rfl⟩ := hstep
      exact h.checkTimeout hnow env
  | dispatchRelay time env =>
      simp only [TrustAnchor.step, Option.ite_none_right_eq_some, Option.some.injEq] at hstep
      obtain ⟨hnow, rfl⟩ := hstep
      rcases dispatchRelay_fst s.mesh (envAt time time env) with heq | heq
      · rw [heq]
        exact h.kept _ rfl (h.fresh.advance rfl rfl hnow)
      · rw [heq]
        exact h.kept _ rfl (h.fresh.advance rfl rfl hnow)
  | drainEnrollment =>
      cases hstep
      unfold Mesh.drainPendingEnrollment
      split
      · exact h.kept _ rfl (h.fresh.advance rfl rfl le_rfl)
      · exact h.kept _ rfl (h.fresh.advance rfl rfl le_rfl)

/-- The invariant holds in every reachable state. -/
theorem invariant_of_reachable {s : State} (h : system.Reachable s) : Invariant s := by
  refine h.invariant ?_ fun s e s' hs hstep => (hs.step hstep).invariant
  intro s hs
  refine ⟨.unheard hs.unheard hs.lastAccepted, fun hset => (hs.secondary hset).1, ?_⟩
  intro _ _ hset
  exact (hs.secondary hset).2

/-- **A beacon of an unknown origin is refused without a trace.**
SOURCE: Mesh.cpp:831-870 -/
theorem rejectsSilently (m : Mesh) : RejectsSilently m := by
  rintro env msg ⟨hhop, hnone⟩ d callback rfl
  have hrejected : d.mesh.processMasterBeacon env msg = (d.mesh, []) := by
    unfold Mesh.processMasterBeacon
    rw [if_neg (UInt8.not_le.mpr hhop), hnone]
  rw [hrejected]
  rfl

/-! ## Result -/

/-- **The trust anchor is safe.**
SOURCE: Mesh.cpp:801-815, 831-897, 1012-1033 -/
theorem trust_anchor_safe {s : State} (h : system.Reachable s) :
    (∀ e s', step s e = some s' → KeepsPrimary s e s' ∧ KeepsSecondary s s') ∧
      Distinct s ∧ RejectsSilently s.mesh := by
  have hinv := invariant_of_reachable h
  refine ⟨fun e s' hstep => ?_, hinv.distinct, rejectsSilently s.mesh⟩
  have hsafe := hinv.step hstep
  exact ⟨hsafe.primary, hsafe.secondary⟩

/-! ## A forgotten secondary -/

def primaryMac : MacAddress := Vector.replicate 6 1
def secondaryMac : MacAddress := Vector.replicate 6 2

/-- Dual-master mode was switched off after both masters were learned. -/
def forgottenSecondary : State where
  mesh :=
    { Mesh.new with
      knownMasterMac := primaryMac
      hasMasterMac := true
      knownMasterMacSecondary := secondaryMac
      hasMasterMacSecondary := true }
  clock := 0
  lastAccepted := none

def secondaryBeacon : RecvQueueEntry where
  srcMac := secondaryMac
  msg :=
    { MeshMessage.zero with
      protoVersion := Config.protoVersion
      messageType := MeshMessageType.masterBeacon
      originMacAddress := secondaryMac
      targetMacAddress := broadcastMac
      lastHopMacAddress := secondaryMac
      epochNum := 1
      seqNum := 1 }

/-- The node that forgot its secondary is a start. -/
theorem start_forgottenSecondary : Start forgottenSecondary where
  unheard := rfl
  lastAccepted := rfl
  secondary := by
    intro _
    refine ⟨rfl, ?_⟩
    exact (by decide : primaryMac ≠ secondaryMac)

/-- The secondary's beacon is taken for that of a stranger, nine seconds after boot. -/
theorem swap_run :
    ∃ s, system.runFrom forgottenSecondary [.receive 9000 9000 quietEnv secondaryBeacon] = some s ∧
      s.mesh.knownMasterMac = secondaryMac ∧ s.mesh.knownMasterMacSecondary = secondaryMac ∧
      s.mesh.hasMasterMac = true ∧ s.mesh.hasMasterMacSecondary = true ∧
      s.lastAccepted = some 9000 :=
  ⟨_, rfl, rfl, rfl, rfl, rfl, rfl⟩

/-- The run that swaps the two masters is covered. -/
theorem trust_anchor_safe_swap :
    ∃ s, system.Reachable s ∧ s.lastAccepted = some 9000 ∧
      (∀ e s', step s e = some s' → KeepsPrimary s e s' ∧ KeepsSecondary s s') ∧
      Distinct s ∧ RejectsSilently s.mesh := by
  obtain ⟨s, hrun, -, -, -, -, hlast⟩ := swap_run
  have hreach := System.Reachable.runFrom (.init start_forgottenSecondary) hrun
  exact ⟨s, hreach, hlast, trust_anchor_safe hreach⟩

/-- Outside dual-master mode the stored secondary can become the primary as well: the two
stored addresses are then equal.
SOURCE: Mesh.cpp:840-841, 855-869 -/
theorem not_distinct_swap :
    ∃ s, system.Reachable s ∧ s.mesh.hasMasterMac = true ∧ s.mesh.hasMasterMacSecondary = true ∧
      s.mesh.knownMasterMac = s.mesh.knownMasterMacSecondary := by
  obtain ⟨s, hrun, hprimary, hsecondary, hhas, hhasSecondary, -⟩ := swap_run
  have hreach := System.Reachable.runFrom (.init start_forgottenSecondary) hrun
  exact ⟨s, hreach, hhas, hhasSecondary, hprimary.trans hsecondary.symm⟩

end TrustAnchor

end LatticeNodes.Analysis
