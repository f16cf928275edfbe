import LatticeNodes.Analysis.BestRoute
import LatticeNodes.Analysis.TrustAnchor

/-!
# Two masters and one route

A node in dual-master mode that hears beacons of its two trusted masters at any distances and in
any order.  It accepts all of them within the hop limit (`Dual.accepts_iff`).  The route record has
room for one master, and a beacon of the other one always replaces it, however far it has come
(`processMasterBeacon_route`).  So the node routes to the nearer of two live masters only as long
as no beacon of the farther one is accepted after one of the nearer: `nearest_iff`.
-/

set_option autoImplicit false

namespace LatticeNodes.Analysis

open LatticeNodes.Program TransitionSystem

namespace NearerMaster

open TrustAnchor BestRoute

/-! ## The system -/

/-- An accepted beacon, when it was accepted, and the route after it. -/
structure Heard where
  time : ℕ
  beacon : MeshMessage
  route : MasterInfo

/-- The node, real time since boot, and the beacons it accepted, newest first. -/
structure State where
  mesh : Mesh
  clock : ℕ
  heard : List Heard

/-- A node that is no master, in dual-master mode, with the trusted masters `A` and `B`. -/
def Dual (A B : MacAddress) (m : Mesh) : Prop :=
  m.isMaster = false ∧ trustOf m = ⟨A, true, B, true, true⟩

instance (A B : MacAddress) (m : Mesh) : Decidable (Dual A B m) :=
  inferInstanceAs (Decidable (_ ∧ _))

inductive Event where
  /-- A beacon of one of the two masters. -/
  | beacon (start finish : ℕ) (env : Env) (msg : MeshMessage)
  | checkTimeout (time : ℕ) (env : Env)
  /-- Any other work of the node: nothing else writes the route. -/
  | other (m' : Mesh)

def step (A B : MacAddress) (s : State) : Event → Option State
  | .beacon start finish env msg =>
      if s.clock ≤ start ∧ start ≤ finish ∧
          (msg.originMacAddress = A ∨ msg.originMacAddress = B) then
        let m := (s.mesh.processMasterBeacon (envAt start finish env) msg).1
        some {
          mesh := m
          clock := finish
          heard :=
            if s.mesh.acceptsBeacon (envAt start finish env) msg then
              ⟨finish, msg, m.currentMaster⟩ :: s.heard
            else s.heard }
      else none
  | .checkTimeout time env =>
      if s.clock ≤ time then
        some { s with mesh := s.mesh.checkMasterTimeout (envAt time time env), clock := time }
      else none
  | .other m' =>
      if m'.currentMaster = s.mesh.currentMaster ∧ Dual A B m' then some { s with mesh := m' }
      else none

/-- The route may be anything; no beacon has been accepted yet. -/
structure Start (A B : MacAddress) (s : State) : Prop where
  distinct : A ≠ B
  dual : Dual A B s.mesh
  heard : s.heard = []

def system (A B : MacAddress) : System State Event where
  Init := Start A B
  step := step A B

/-! ## Statement -/

/-- The most recent beacon of a master. -/
def latest (mac : MacAddress) (heard : List Heard) : Option Heard :=
  heard.find? fun e => e.beacon.originMacAddress = mac

/-- The beacon was accepted within the last `STALE_MASTER_THRESHOLD_MS`. -/
def Fresh (now : ℕ) (e : Heard) : Prop :=
  now ≤ e.time + Config.staleMasterThresholdMs.toNat

/-- After the last of the beacons, if both masters are fresh, the node routes to one whose most
recent beacon has come no more hops than that of the other. -/
def Nearest (A B : MacAddress) : List Heard → Prop
  | [] => True
  | e :: earlier => ∀ a b, latest A (e :: earlier) = some a → latest B (e :: earlier) = some b →
      Fresh e.time a → Fresh e.time b →
        e.route.mac = A ∧ a.beacon.hopCount ≤ b.beacon.hopCount ∨
          e.route.mac = B ∧ b.beacon.hopCount ≤ a.beacon.hopCount

/-- The master that did not send the beacon. -/
def otherOf (A B : MacAddress) (e : Heard) : MacAddress :=
  if e.beacon.originMacAddress = A then B else A

/-- The last of the beacons has come no more hops than the most recent one of the other master, if
that one is fresh. -/
def NotFarther (A B : MacAddress) : List Heard → Prop
  | [] => True
  | e :: earlier => ∀ o, latest (otherOf A B e) earlier = some o → Fresh e.time o →
      e.beacon.hopCount ≤ o.beacon.hopCount

/-! ## One beacon -/

section Beacon

variable {A B : MacAddress} {m : Mesh} {env : Env} {msg : MeshMessage}

/-- A node with two masters trusts both. -/
theorem Dual.trusts (h : Dual A B m)
    (horigin : msg.originMacAddress = A ∨ msg.originMacAddress = B) : ¬FromUnknown m msg := by
  obtain ⟨-, htrust⟩ := h
  simp only [trustOf, Trust.mk.injEq] at htrust
  obtain ⟨rfl, -, rfl, hsecondary, hmode⟩ := htrust
  rintro ⟨-, hprimary, hother⟩
  rcases horigin with heq | heq
  · exact hprimary heq
  · exact hother ⟨hmode, hsecondary, heq⟩

/-- Of the two masters every beacon is accepted that has not come too far.
SOURCE: Mesh.cpp:831-870 -/
theorem Dual.accepts_iff (h : Dual A B m)
    (horigin : msg.originMacAddress = A ∨ msg.originMacAddress = B) :
    m.acceptsBeacon env msg = true ↔ msg.hopCount < Config.maxHops := by
  have hadmits : (m.admitBeacon env msg).isSome = true := by
    rw [Option.isSome_iff_ne_none]
    exact fun hnone => h.trusts horigin (admitBeacon_eq_none_iff.mp hnone).1
  rw [Mesh.acceptsBeacon, hadmits, Bool.and_true, Bool.not_eq_true', decide_eq_false_iff_not,
    UInt8.not_le]

/-- A beacon of a trusted master does not change whom the node trusts. -/
theorem Dual.processMasterBeacon (h : Dual A B m)
    (horigin : msg.originMacAddress = A ∨ msg.originMacAddress = B) :
    Dual A B (m.processMasterBeacon env msg).1 := by
  refine ⟨(processMasterBeacon_sameNode m env msg).isMaster.trans h.1, ?_⟩
  have hknown := h.trusts horigin
  have htrust := h.2
  simp only [trustOf, Trust.mk.injEq] at htrust
  rcases processMasterBeacon_inv m env msg with ⟨-, heq⟩ | ⟨m', trusted, -, -, hstep, heq⟩
  · rw [heq]
    exact h.2
  · rw [heq]
    refine ((afterTrust_trust m' env msg).1).trans (Eq.trans ?_ h.2)
    cases hstep with
    | learnPrimary hno =>
        rw [htrust.2.1] at hno
        cases hno
    | learnSecondary hhas hprimary hdual hfree =>
        rw [htrust.2.2.2.1] at hfree
        cases hfree
    | hotswap hhas hprimary hsecondary hstale =>
        refine absurd ⟨hhas, hprimary, ?_⟩ hknown
        rintro ⟨hdual, -, heq⟩
        exact (hsecondary hdual).2 heq
    | trusted hhas hfrom => rfl

/-- The timeout forgets neither.
SOURCE: Mesh.cpp:801-815 -/
theorem Dual.checkMasterTimeout (h : Dual A B m) (env : Env) :
    Dual A B (m.checkMasterTimeout env) := by
  rw [checkMasterTimeout_frame]
  exact h

end Beacon

/-! ## Runs -/

section Runs

variable {A B : MacAddress} {s : State}

/-- The node keeps its trust, and every accepted beacon took the route to its origin. -/
structure Invariant (A B : MacAddress) (s : State) : Prop where
  distinct : A ≠ B
  dual : Dual A B s.mesh
  origin : ∀ e ∈ s.heard, e.beacon.originMacAddress = A ∨ e.beacon.originMacAddress = B
  route : ∀ e ∈ s.heard, e.route.mac = e.beacon.originMacAddress

/-- A beacon of either master is accepted, and keeps the invariant. -/
theorem Invariant.beacon (h : Invariant A B s) {start finish : ℕ} {env : Env} {msg : MeshMessage}
    (horigin : msg.originMacAddress = A ∨ msg.originMacAddress = B) {s' : State}
    (hs' : s' = {
      mesh := (s.mesh.processMasterBeacon (envAt start finish env) msg).1
      clock := finish
      heard :=
        if s.mesh.acceptsBeacon (envAt start finish env) msg then
          ⟨finish, msg,
            (s.mesh.processMasterBeacon (envAt start finish env) msg).1.currentMaster⟩ :: s.heard
        else s.heard }) : Invariant A B s' := by
  subst hs'
  refine ⟨h.distinct, h.dual.processMasterBeacon horigin, ?_, ?_⟩
  · intro e he
    simp only at he
    split at he
    · rcases List.mem_cons.mp he with rfl | he
      · exact horigin
      · exact h.origin e he
    · exact h.origin e he
  · intro e he
    simp only at he
    split at he
    · next haccepted =>
      rcases List.mem_cons.mp he with rfl | he
      · exact processMasterBeacon_route haccepted
      · exact h.route e he
    · exact h.route e he

/-- The invariant holds in every reachable state. -/
theorem invariant_of_reachable (h : (system A B).Reachable s) : Invariant A B s := by
  refine h.invariant ?_ ?_
  · intro s hs
    refine ⟨hs.distinct, hs.dual, ?_, ?_⟩
    · rw [hs.heard]
      exact fun e he => absurd he List.not_mem_nil
    · rw [hs.heard]
      exact fun e he => absurd he List.not_mem_nil
  · intro s e s' hs hstep
    cases e with
    | beacon start finish env msg =>
        change step A B s (.beacon start finish env msg) = some s' at hstep
        simp only [NearerMaster.step, Option.ite_none_right_eq_some, Option.some.injEq] at hstep
        obtain ⟨⟨-, -, horigin⟩, rfl⟩ := hstep
        exact hs.beacon horigin rfl
    | checkTimeout time env =>
        change step A B s (.checkTimeout time env) = some s' at hstep
        simp only [NearerMaster.step, Option.ite_none_right_eq_some, Option.some.injEq] at hstep
        obtain ⟨-, rfl⟩ := hstep
        exact ⟨hs.distinct, hs.dual.checkMasterTimeout _, hs.origin, hs.route⟩
    | other m' =>
        change step A B s (.other m') = some s' at hstep
        simp only [NearerMaster.step, Option.ite_none_right_eq_some, Option.some.injEq] at hstep
        obtain ⟨⟨-, hdual⟩, rfl⟩ := hstep
        exact ⟨hs.distinct, hdual, hs.origin, hs.route⟩

/-- The last beacon of a master is its latest. -/
theorem latest_cons_self {mac : MacAddress} {e : Heard} (h : e.beacon.originMacAddress = mac)
    (earlier : List Heard) : latest mac (e :: earlier) = some e := by
  rw [latest, List.find?_cons_of_pos]
  exact decide_eq_true h

/-- Other beacons leave the latest one. -/
theorem latest_cons_other {mac : MacAddress} {e : Heard} (h : e.beacon.originMacAddress ≠ mac)
    (earlier : List Heard) : latest mac (e :: earlier) = latest mac earlier := by
  rw [latest, List.find?_cons_of_neg, latest]
  simpa using h

/-- A beacon is fresh when it comes. -/
theorem fresh_self (e : Heard) : Fresh e.time e :=
  Nat.le_add_right _ _

/-- **After one beacon the nearer master is chosen exactly when the beacon is not from farther.** -/
theorem nearest_cons_iff (hne : A ≠ B) {e : Heard}
    (horigin : e.beacon.originMacAddress = A ∨ e.beacon.originMacAddress = B)
    (hroute : e.route.mac = e.beacon.originMacAddress) (earlier : List Heard) :
    Nearest A B (e :: earlier) ↔ NotFarther A B (e :: earlier) := by
  rcases horigin with hA | hB
  · have hother : otherOf A B e = B := if_pos hA
    have hB : e.beacon.originMacAddress ≠ B := by
      rw [hA]
      exact hne
    rw [Nearest, NotFarther, hother, latest_cons_self hA, latest_cons_other hB]
    constructor
    · intro hnearest o ho hfresh
      rcases hnearest e o rfl ho (fresh_self e) hfresh with ⟨-, hle⟩ | ⟨hwrong, -⟩
      · exact hle
      · rw [hroute] at hwrong
        exact absurd hwrong hB
    · intro hbeacon a b ha hb _ hfresh
      cases ha
      exact .inl ⟨hroute.trans hA, hbeacon b hb hfresh⟩
  · have hA : e.beacon.originMacAddress ≠ A := by
      rw [hB]
      exact hne.symm
    have hother : otherOf A B e = A := if_neg hA
    rw [Nearest, NotFarther, hother, latest_cons_self hB, latest_cons_other hA]
    constructor
    · intro hnearest o ho hfresh
      rcases hnearest o e ho rfl hfresh (fresh_self e) with ⟨hwrong, -⟩ | ⟨-, hle⟩
      · rw [hroute] at hwrong
        exact absurd hwrong hA
      · exact hle
    · intro hbeacon a b ha hb hfresh _
      cases hb
      exact .inr ⟨hroute.trans hB, hbeacon a ha hfresh⟩

/-- After a beacon that is the last of a log. -/
theorem Invariant.nearest_iff_notFarther (h : Invariant A B s) {later log : List Heard}
    (heq : s.heard = later ++ log) : Nearest A B log ↔ NotFarther A B log := by
  cases log with
  | nil => exact Iff.rfl
  | cons e earlier =>
      have hmem : e ∈ s.heard := by
        rw [heq]
        exact List.mem_append_right later List.mem_cons_self
      exact nearest_cons_iff h.distinct (h.origin e hmem) (h.route e hmem) earlier

/-! ## Result -/

/-- **A node routes to the nearer master exactly as long as no accepted beacon has come farther
than the other master's fresh one.**  The logs are those after each of the beacons accepted.
SOURCE: Mesh.cpp:831-897 -/
theorem nearest_iff (h : (system A B).Reachable s) :
    (∀ later log, s.heard = later ++ log → Nearest A B log) ↔
      ∀ later log, s.heard = later ++ log → NotFarther A B log := by
  have hinv := invariant_of_reachable h
  refine forall₂_congr fun later log => ?_
  exact forall_congr' fun heq => hinv.nearest_iff_notFarther heq

end Runs

/-! ## Two masters -/

def near : MacAddress := Vector.replicate 6 1

def far : MacAddress := Vector.replicate 6 2

def beaconFrom (origin : MacAddress) (hopCount : UInt8) : MeshMessage :=
  { MeshMessage.zero with
    messageType := MeshMessageType.masterBeacon
    originMacAddress := origin
    lastHopMacAddress := origin
    hopCount := hopCount }

def dualNode : State where
  mesh :=
    { Mesh.new with
      dualMasterMode := true
      hasMasterMac := true
      knownMasterMac := near
      hasMasterMacSecondary := true
      knownMasterMacSecondary := far }
  clock := 0
  heard := []

/-- The node with two masters is a start. -/
theorem start_dualNode : Start near far dualNode where
  distinct := by decide
  dual := by decide
  heard := rfl

/-- A beacon of the far master, and a second later one of the near master. -/
def farThenNear : List Event :=
  [.beacon 1000 1000 quietEnv (beaconFrom far 3), .beacon 2000 2000 quietEnv (beaconFrom near 1)]

/-- First the far master's beacon, then the near one's: the condition holds. -/
theorem nearest_iff_farThenNear :
    ∃ s, (system near far).Reachable s ∧ s.heard.length = 2 ∧
      ((∀ later log, s.heard = later ++ log → Nearest near far log) ↔
        ∀ later log, s.heard = later ++ log → NotFarther near far log) := by
  obtain ⟨s, hrun, hheard⟩ : ∃ s, (system near far).runFrom dualNode farThenNear = some s ∧
      s.heard.length = 2 := ⟨_, rfl, rfl⟩
  have hreach := (System.Reachable.init start_dualNode).runFrom hrun
  exact ⟨s, hreach, hheard, nearest_iff hreach⟩

/-- A beacon of the near master over one hop, and a second later one of the far master over
three. -/
def nearThenFar : List Event :=
  [.beacon 1000 1000 quietEnv (beaconFrom near 1), .beacon 2000 2000 quietEnv (beaconFrom far 3)]

/-- The route goes to the far master.
SOURCE: Mesh.cpp:890-897 -/
theorem not_nearest_nearThenFar :
    ∃ s, (system near far).Reachable s ∧ s.mesh.currentMaster.mac = far ∧
      ¬∀ later log, s.heard = later ++ log → Nearest near far log := by
  obtain ⟨s, hrun, hroute, e, earlier, a, hheard, hmac, hlast, ha, hfreshA, hhops⟩ :
      ∃ s, (system near far).runFrom dualNode nearThenFar = some s ∧
        s.mesh.currentMaster.mac = far ∧ ∃ e earlier a, s.heard = e :: earlier ∧
          e.route.mac = far ∧ latest far (e :: earlier) = some e ∧
          latest near (e :: earlier) = some a ∧ Fresh e.time a ∧
          a.beacon.hopCount < e.beacon.hopCount :=
    ⟨_, rfl, rfl, _, _, _, rfl, rfl, rfl, rfl, by unfold Fresh; decide, by decide⟩
  refine ⟨s, (System.Reachable.init start_dualNode).runFrom hrun, hroute, fun hnearest => ?_⟩
  rcases hnearest [] (e :: earlier) hheard a e ha hlast hfreshA (fresh_self e) with
    ⟨hwrong, -⟩ | ⟨-, hle⟩
  · rw [hmac] at hwrong
    exact absurd hwrong (by decide)
  · exact absurd hle (UInt8.not_le.mpr hhops)

end NearerMaster

end LatticeNodes.Analysis
