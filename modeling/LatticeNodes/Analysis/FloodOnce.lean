import LatticeNodes.Analysis.MeshNetwork
import LatticeNodes.Analysis.ReplayGate
import LatticeNodes.Program.Eeprom

/-!
# How often a node floods a message

A node floods a message each time a copy of it passes the gate and reaches the send loop of
`relayDownlink`.  What passes the gate is up to the replay cache, which is asked about
messages with a protocol version and an epoch only.  `DrainLog` reads a node's drained entries
as the questions its cache was asked; `flooded_once_iff` says which messages are flooded at most
once.
-/

set_option autoImplicit false

namespace LatticeNodes.Analysis

open LatticeNodes.Program TransitionSystem BoundedFifo

namespace MeshNetwork

/-! ## Statement -/

section Statement

variable {n : ℕ}

/-- How often node `v` ran the send loop for message `origin`. -/
def floods (s : State n) (v : Fin n) (origin : ℕ) : ℕ :=
  (s.drained v).countP fun d => d.origin = origin ∧ d.passed = true ∧ d.relayable = true

/-- How many copies of message `origin` node `v` has drained that lead to the send loop if
they pass the gate. -/
def offers (s : State n) (v : Fin n) (origin : ℕ) : ℕ :=
  (s.drained v).countP fun d => d.origin = origin ∧ d.relayable = true

/-- The messages the replay cache was asked about. -/
def checkedKeys (log : List Drained) : List ReplayEntry :=
  (log.filter fun d => Mesh.replayChecked d.msg).map fun d => Mesh.replayEntry d.msg

/-- Between two copies of the message, fewer others than the cache has slots are checked. -/
def InWindow (s : State n) (v : Fin n) (origin : ℕ) : Prop :=
  ∀ later d₂ mid d₁ earlier, s.drained v = later ++ d₂ :: (mid ++ d₁ :: earlier) →
    d₂.origin = origin → d₁.origin = origin →
      ((checkedKeys mid).toFinset.erase (Mesh.replayEntry d₁.msg)).card < replayCacheSize

end Statement

/-! ## Copies -/

/-- Copies of one message have one key and one version, and are checked alike. -/
theorem SameContent.fields {a b : MeshMessage} (h : a.SameContent b) :
    Mesh.replayEntry a = Mesh.replayEntry b ∧ Mesh.replayChecked a = Mesh.replayChecked b ∧
      a.protoVersion = b.protoVersion := by
  rw [← show _ = b from h]
  exact ⟨rfl, rfl, rfl⟩

/-- Two of the counted entries, in the order of the list. -/
theorem exists_two_of_countP {α : Type*} {p : α → Bool} {l : List α} (h : 2 ≤ l.countP p) :
    ∃ later x mid y earlier, l = later ++ x :: (mid ++ y :: earlier) ∧ p x = true ∧ p y = true := by
  induction l with
  | nil => simp at h
  | cons a l ih =>
      by_cases ha : p a = true
      · rw [List.countP_cons_of_pos ha] at h
        obtain ⟨y, hy, hpy⟩ := List.countP_pos_iff.mp (show 0 < l.countP p by omega)
        obtain ⟨mid, earlier, rfl⟩ := List.append_of_mem hy
        exact ⟨[], a, mid, y, earlier, rfl, ha, hpy⟩
      · rw [List.countP_cons_of_neg ha] at h
        obtain ⟨later, x, mid, y, earlier, rfl, hx, hy⟩ := ih h
        exact ⟨a :: later, x, mid, y, earlier, rfl, hx, hy⟩

/-! ## The invariant -/

/-- The question a drained entry was to the replay cache, and the answer. -/
def asked (d : Drained) : Option (ReplayEntry × Bool) :=
  if Mesh.replayChecked d.msg then some (Mesh.replayEntry d.msg, d.passed) else none

/-- What the drained entries of a node say. -/
structure DrainLog {n : ℕ} (built : List (Built n)) (log : List Drained)
    (cache : Ring ReplayEntry replayCacheSize) : Prop where
  /-- The checked ones are the questions the cache was asked. -/
  cache : ∃ r, Ring.Log r (log.filterMap asked) cache
  /-- The others passed the gate. -/
  unchecked : ∀ d ∈ log, Mesh.replayChecked d.msg = false →
    d.msg.protoVersion = 0 ∨ d.msg.protoVersion = Config.protoVersion → d.passed = true
  /-- All are copies of what was built. -/
  content : ∀ d ∈ log, ∃ b, built[d.origin]? = some b ∧ d.msg.SameContent b.frame

section Runs

variable {n : ℕ} {built : List (Built n)} {log : List Drained}
  {cache : Ring ReplayEntry replayCacheSize}

/-- More messages that are built leave the log as it is. -/
theorem DrainLog.extend (h : DrainLog built log cache) {built' : List (Built n)}
    (hextends : built <+: built') : DrainLog built' log cache := by
  refine ⟨h.cache, h.unchecked, fun d hd => ?_⟩
  obtain ⟨b, hb, hsame⟩ := h.content d hd
  obtain ⟨more, rfl⟩ := hextends
  obtain ⟨hlt, -⟩ := List.getElem?_eq_some_iff.mp hb
  exact ⟨b, (List.getElem?_append_left hlt).trans hb, hsame⟩

/-- One more entry passes the gate or not. -/
theorem DrainLog.cons {m : Mesh} (h : DrainLog built log m.replayCache) {origin : ℕ}
    {msg : MeshMessage} (relayable : Bool)
    (hcontent : ∃ b, built[origin]? = some b ∧ msg.SameContent b.frame) :
    DrainLog built (⟨origin, msg, (m.passGate msg).isSome, relayable⟩ :: log)
      ((m.passGate msg).getD m).replayCache := by
  refine ⟨?_, ?_, ?_⟩
  · obtain ⟨r, hr⟩ := h.cache
    refine ⟨r, ?_⟩
    cases hchecked : Mesh.replayChecked msg with
    | true =>
        obtain ⟨hpassed, hcache⟩ := @passGate_checked m msg hchecked
        have hasked : asked ⟨origin, msg, (m.passGate msg).isSome, relayable⟩ =
            some (Mesh.replayEntry msg, (m.passGate msg).isSome) := if_pos hchecked
        rw [List.filterMap_cons_some hasked, hpassed, hcache]
        exact .ask _ hr
    | false =>
        have hasked : asked ⟨origin, msg, (m.passGate msg).isSome, relayable⟩ = none :=
          if_neg (by simp [hchecked])
        rw [List.filterMap_cons_none hasked, (passGate_unchecked hchecked).2]
        exact hr
  · intro d hd
    rcases List.mem_cons.mp hd with rfl | hd
    · exact fun hchecked => (passGate_unchecked hchecked).1
    · exact h.unchecked d hd
  · intro d hd
    rcases List.mem_cons.mp hd with rfl | hd
    · exact hcontent
    · exact h.content d hd

/-- Every node's log is in order. -/
def Logged (s : State n) : Prop :=
  ∀ v, DrainLog s.built (s.drained v) (s.mesh v).replayCache

variable {s : State n}

/-- A step that drains nothing. -/
theorem Logged.install (h : Logged s) {v : Fin n} {s' : State n} {m' : Mesh}
    (hmesh : s'.mesh = Function.update s.mesh v m') (hdrained : s'.drained = s.drained)
    (hcache : m'.replayCache = (s.mesh v).replayCache) (hbuilt : s.built <+: s'.built) :
    Logged s' := by
  intro w
  rw [hdrained]
  have hsame : (s'.mesh w).replayCache = (s.mesh w).replayCache := by
    rw [hmesh]
    by_cases hw : w = v
    · rw [hw, Function.update_self, hcache]
    · rw [Function.update_of_ne hw]
  rw [hsame]
  exact (h w).extend hbuilt

/-- A drained frame.
SOURCE: Mesh.cpp:563-604 -/
theorem Logged.drain (h : Logged s) (hfaithful : Faithful s) (v : Fin n) (env : Env)
    {f : Flight n} (hf : f ∈ s.flights) : Logged (s.drain v env f) := by
  intro w
  unfold State.drain
  by_cases hw : w = v
  · subst hw
    simp only [Function.update_self]
    rw [handleEntry_replayCache]
    exact (h w).cons _ (hfaithful.flights f hf).content
  · simp only [Function.update_of_ne hw]
    exact h w

/-- The log of every node is right in every reachable state. -/
theorem logged_of_reachable (h : (system n).Reachable s) : Logged s := by
  refine h.invariant_of_reachable ?_ ?_
  · intro s hs v
    rw [hs.drained v]
    refine ⟨⟨_, .start⟩, ?_, ?_⟩
    · intro d hd
      cases hd
    · intro d hd
      cases hd
  · intro s e s' hreach hs hstep
    cases e with
    | call v env c =>
        cases hstep
        exact hs.install rfl rfl (c.run_originates (s.mesh v) env).undisturbed.replayCache
          (List.prefix_append _ _)
    | deliver v i env =>
        obtain ⟨f, hf, hdrain⟩ := Option.bind_eq_some_iff.mp hstep
        simp only [Option.ite_none_right_eq_some, Option.some.injEq] at hdrain
        obtain ⟨-, rfl⟩ := hdrain
        exact hs.drain (faithful_of_reachable hreach) v env (List.mem_of_getElem? hf)
    | dispatch v env =>
        cases hstep
        have hcache : ((s.mesh v).dispatchRelay env).1.replayCache = (s.mesh v).replayCache := by
          rcases dispatchRelay_fst (s.mesh v) env with heq | heq
          · rw [heq]
          · rw [heq]
        exact hs.install rfl rfl hcache (List.prefix_refl _)
    | work v m' =>
        change step s (.work v m') = some s' at hstep
        simp only [MeshNetwork.step, Option.ite_none_right_eq_some, Option.some.injEq] at hstep
        obtain ⟨hwork, rfl⟩ := hstep
        exact hs.install rfl rfl hwork.replayCache (List.prefix_refl _)

/-! ## Result -/

/-- The checks asked of the cache are the checked keys of the log. -/
theorem map_fst_filterMap_asked (log : List Drained) :
    (log.filterMap asked).map Prod.fst = checkedKeys log := by
  induction log with
  | nil => rfl
  | cons d log ih =>
      cases hchecked : Mesh.replayChecked d.msg with
      | true =>
          have hasked : asked d = some (Mesh.replayEntry d.msg, d.passed) := if_pos hchecked
          have hkeys : checkedKeys (d :: log) = Mesh.replayEntry d.msg :: checkedKeys log := by
            simp only [checkedKeys, List.filter_cons, hchecked, if_true, List.map_cons]
          rw [List.filterMap_cons_some hasked, List.map_cons, ih, hkeys]
      | false =>
          have hasked : asked d = none := if_neg (by simp [hchecked])
          have hkeys : checkedKeys (d :: log) = checkedKeys log := by
            simp only [checkedKeys, List.filter_cons, hchecked, Bool.false_eq_true, if_false]
          rw [List.filterMap_cons_none hasked, ih, hkeys]

/-- A checked message is flooded at most once.
SOURCE: Mesh.cpp:524-537, 576-582 -/
theorem floods_le_one_of_checked (h : (system n).Reachable s) {v : Fin n} {origin : ℕ}
    {b : Built n} (hb : s.built[origin]? = some b) (hwindow : InWindow s v origin)
    (hchecked : Mesh.replayChecked b.frame = true) : floods s v origin ≤ 1 := by
  by_contra htwice
  obtain ⟨later, d₂, mid, d₁, earlier, hlog, h₂, h₁⟩ := exists_two_of_countP (by
    rw [floods] at htwice
    exact Nat.lt_of_not_le htwice)
  simp only [decide_eq_true_eq] at h₂ h₁
  have hlogged := logged_of_reachable h v
  have hasked : ∀ d ∈ s.drained v, d.origin = origin → d.passed = true →
      asked d = some (Mesh.replayEntry b.frame, true) := by
    intro d hd horigin hpassed
    obtain ⟨b', hb', hsame⟩ := hlogged.content d hd
    obtain rfl : b = b' := by
      rw [horigin, hb] at hb'
      exact Option.some.inj hb'
    obtain ⟨hkey, hcheck, -⟩ := SameContent.fields hsame
    rw [asked, hcheck, if_pos hchecked, hkey, hpassed]
  have hmem₂ : d₂ ∈ s.drained v := by
    rw [hlog]
    simp
  have hmem₁ : d₁ ∈ s.drained v := by
    rw [hlog]
    simp
  have hkey₁ : Mesh.replayEntry d₁.msg = Mesh.replayEntry b.frame := by
    obtain ⟨b', hb', hsame⟩ := hlogged.content d₁ hmem₁
    obtain rfl : b = b' := by
      rw [h₁.1, hb] at hb'
      exact Option.some.inj hb'
    exact (SameContent.fields hsame).1
  obtain ⟨r, hr⟩ := hlogged.cache
  rw [hlog, List.filterMap_append, List.filterMap_cons_some (hasked d₂ hmem₂ h₂.1 h₂.2.1),
    List.filterMap_append, List.filterMap_cons_some (hasked d₁ hmem₁ h₁.1 h₁.2.1)] at hr
  have hmany := hr.between
  have hfew := hwindow later d₂ mid d₁ earlier hlog h₂.1 h₁.1
  rw [map_fst_filterMap_asked] at hmany
  rw [hkey₁] at hfew
  omega

/-- An unchecked message is flooded each time it is offered. -/
theorem floods_eq_offers_of_unchecked (h : (system n).Reachable s) (v : Fin n) {origin : ℕ}
    {b : Built n} (hb : s.built[origin]? = some b)
    (hchecked : Mesh.replayChecked b.frame = false) : floods s v origin = offers s v origin := by
  have hlogged := logged_of_reachable h v
  obtain ⟨m, -, hframe⟩ := (faithful_of_reachable h).built b (List.mem_of_getElem? hb)
  apply List.countP_congr
  intro d hd
  simp only [decide_eq_true_eq]
  refine ⟨fun hflooded => ⟨hflooded.1, hflooded.2.2⟩, fun hoffered => ⟨hoffered.1, ?_, hoffered.2⟩⟩
  obtain ⟨b', hb', hsame⟩ := hlogged.content d hd
  obtain rfl : b = b' := by
    rw [hoffered.1, hb] at hb'
    exact Option.some.inj hb'
  obtain ⟨-, hcheck, hversion⟩ := SameContent.fields hsame
  apply hlogged.unchecked d hd (hcheck.trans hchecked)
  rw [hversion, hframe]
  exact (b.call.frame_origin m).2.2.2

/-- A node floods a message at most as often as it drains it. -/
theorem floods_le_offers (s : State n) (v : Fin n) (origin : ℕ) :
    floods s v origin ≤ offers s v origin := by
  apply List.countP_mono_left
  intro d _ hd
  simp only [decide_eq_true_eq] at hd ⊢
  exact ⟨hd.1, hd.2.2⟩

/-- **A message is flooded at most once exactly when the replay cache is asked about it, or
when it is offered at most once anyway.**
SOURCE: Mesh.cpp:563-604, 969-980, 1012-1017 -/
theorem flooded_once_iff (h : (system n).Reachable s) {v : Fin n} {origin : ℕ} {b : Built n}
    (hb : s.built[origin]? = some b) (hwindow : InWindow s v origin) :
    floods s v origin ≤ 1 ↔
      Mesh.replayChecked b.frame = true ∨ offers s v origin ≤ 1 := by
  constructor
  · intro honce
    cases hchecked : Mesh.replayChecked b.frame with
    | true => exact .inl rfl
    | false =>
        rw [floods_eq_offers_of_unchecked h v hb hchecked] at honce
        exact .inr honce
  · rintro (hchecked | honce)
    · exact floods_le_one_of_checked h hb hwindow hchecked
    · exact (floods_le_offers s v origin).trans honce

end Runs

/-! ## Which messages are checked -/

/-- The acknowledgement carries neither a protocol version nor an epoch.
SOURCE: Mesh.cpp:1061-1069 -/
theorem not_replayChecked_joinAck (m : Mesh) (mac : MacAddress) (publicKey : Key) :
    Mesh.replayChecked (m.joinAck mac publicKey) = false :=
  rfl

/-- Broadcast data of a node that has counted its boot are checked.
SOURCE: Mesh.cpp:351-369, 776-779 -/
theorem replayChecked_broadcastFrame {m : Mesh} (h : 0 < m.bootEpoch) (type : AdapterTypes)
    (data : Payload) : Mesh.replayChecked (broadcastFrame m type data) = true := by
  have hepoch : (broadcastFrame m type data).epochNum = m.bootEpoch := rfl
  rw [Mesh.replayChecked, hepoch, decide_eq_true h]
  rfl

/-- The boot epoch that `Mesh::init` counts up to is never zero.
SOURCE: Mesh.cpp:378, EEPROM_Manager.cpp:451-458 -/
theorem loadBootEpoch_succ_pos (em : EepromManager) : 0 < em.loadBootEpoch + 1 := by
  have hload : em.loadBootEpoch ≠ 0xFFFFFFFF := by
    unfold EepromManager.loadBootEpoch
    simp only
    split
    · exact (by decide : (0 : UInt32) ≠ 0xFFFFFFFF)
    · split
      · exact (by decide : (0 : UInt32) ≠ 0xFFFFFFFF)
      · next hset => exact hset
  rw [UInt32.lt_iff_toNat_lt, UInt32.toNat_add]
  rw [Ne, ← UInt32.toNat_inj] at hload
  have hbound := em.loadBootEpoch.toNat_lt
  have hone : (1 : UInt32).toNat = 1 := rfl
  have hzero : (0 : UInt32).toNat = 0 := rfl
  have hmax : (0xFFFFFFFF : UInt32).toNat = 2 ^ 32 - 1 := rfl
  omega

/-! ## An acknowledgement between two nodes -/

/-- Node 1 drains the acknowledgement twice, from the master and as the master's relay of
its own relay. -/
theorem ack_run :
    ∃ s b d₁ d₂, (system 2).runFrom pairState ackEvents = some s ∧ s.built[0]? = some b ∧
      b.frame.messageType = MeshMessageType.joinAck ∧ s.drained 1 = [d₂, d₁] ∧
      floods s 1 0 = 2 :=
  ⟨_, _, _, _, rfl, rfl, rfl, rfl, rfl⟩

/-- Two copies in a row are inside the window. -/
theorem inWindow_of_two {n : ℕ} {s : State n} {v : Fin n} {origin : ℕ} {d₁ d₂ : Drained}
    (h : s.drained v = [d₂, d₁]) : InWindow s v origin := by
  intro later e₂ mid e₁ earlier hlog _ _
  have hlength := congrArg List.length (h.symm.trans hlog)
  simp only [List.length_cons, List.length_nil, List.length_append] at hlength
  have hmid : mid = [] := List.eq_nil_of_length_eq_zero (by omega)
  rw [hmid]
  exact Nat.zero_lt_succ _

/-- The acknowledgement is not checked, and may be flooded again. -/
theorem flooded_once_ack :
    ∃ s b, (system 2).Reachable s ∧ s.built[0]? = some b ∧
      (floods s 1 0 ≤ 1 ↔ Mesh.replayChecked b.frame = true ∨ offers s 1 0 ≤ 1) := by
  obtain ⟨s, b, d₁, d₂, hrun, hb, -, hlog, -⟩ := ack_run
  have hreach := System.Reachable.runFrom (.init start_pairState) hrun
  exact ⟨s, b, hreach, hb, flooded_once_iff hreach hb (inWindow_of_two hlog)⟩

/-- The acknowledgement of one enrollment is flooded twice by the same node, which drained
nothing else.
SOURCE: Mesh.cpp:1012-1017, 1061-1073 -/
theorem not_flooded_once_ack :
    ∃ s b, (system 2).Reachable s ∧ s.built[0]? = some b ∧
      b.frame.messageType = MeshMessageType.joinAck ∧ InWindow s 1 0 ∧ ¬floods s 1 0 ≤ 1 := by
  obtain ⟨s, b, d₁, d₂, hrun, hb, htype, hlog, hfloods⟩ := ack_run
  have hreach := System.Reachable.runFrom (.init start_pairState) hrun
  refine ⟨s, b, hreach, hb, htype, inWindow_of_two hlog, ?_⟩
  omega

end MeshNetwork

end LatticeNodes.Analysis
