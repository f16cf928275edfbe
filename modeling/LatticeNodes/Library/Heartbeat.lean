import Mathlib.Data.List.Chain
import LatticeNodes.Library.TransitionSystem
import LatticeNodes.Library.WrappingClock

/-!
# Heartbeats over a clock that wraps

The two ends of a heartbeat, each with 32-bit readings of a wrapping clock.  A `Pulse` beats when
its period has passed at one of its calls; a `Detector` takes its source for dead when a check
finds the last beat too old.  As long as the calls do not come further apart than the clock can
tell, the pulse keeps its pace (`Pulse.paced_of_reachable`) and the detector is exact
(`Detector.alive_iff`).

A `Link` puts the two together: beats travel for a bounded time and may be missed, and the last
beat heard is never older than one period and one break between two calls for each beat missed
since, and once more, and the travel time (`Link.Inv.recent_of_timely`).
-/

set_option autoImplicit false

namespace Heartbeat

open TransitionSystem WrappingClock

/-! ## Differences that fit -/

/-- A difference of readings is the time between them as long as the clock can tell it. -/
theorem toNat_elapsed_of_lt {t₀ t : ℕ} (h : t₀ ≤ t) (hnear : t < t₀ + UInt32.size) :
    (reading t - reading t₀).toNat = t - t₀ := by
  rw [toNat_elapsed h]
  exact Nat.mod_eq_of_lt (by omega)

/-- Near the earlier reading, the difference of two readings is below a bound exactly when the time
passed is. -/
theorem elapsed_lt_iff {t₀ t : ℕ} {d : UInt32} (h : t₀ ≤ t) (hnear : t < t₀ + UInt32.size) :
    reading t - reading t₀ < d ↔ t < t₀ + d.toNat := by
  rw [UInt32.lt_iff_toNat_lt, toNat_elapsed_of_lt h hnear]
  omega

/-- Near the earlier reading, the difference of two readings is above a bound exactly when the time
passed is. -/
theorem lt_elapsed_iff {t₀ t : ℕ} {d : UInt32} (h : t₀ ≤ t) (hnear : t < t₀ + UInt32.size) :
    d < reading t - reading t₀ ↔ t₀ + d.toNat < t := by
  rw [UInt32.lt_iff_toNat_lt, toNat_elapsed_of_lt h hnear]
  omega

/-! ## The source -/

/-- When the source beat last and was called last, and all its beats, newest first. -/
structure Pulse where
  fired : ℕ
  called : ℕ
  beats : List ℕ

namespace Pulse

/-- The period has passed at a time, by the readings. -/
def due (period : UInt32) (fired t : ℕ) : Bool :=
  !decide (reading t - reading fired < period)

def call (period : UInt32) (p : Pulse) (t : ℕ) : Pulse :=
  if due period p.fired t then ⟨t, t, t :: p.beats⟩ else { p with called := t }

/-- A call beats when it is due. -/
theorem call_fired (period : UInt32) (p : Pulse) (t : ℕ) :
    (p.call period t).fired = if due period p.fired t then t else p.fired := by
  unfold Pulse.call
  split
  · rfl
  · rfl

/-- Calls at most `gap` apart. -/
def system (period : UInt32) (gap : ℕ) : System Pulse ℕ where
  Init p := p.called = p.fired ∧ p.beats = [p.fired]
  step p t := if p.called ≤ t ∧ t ≤ p.called + gap then some (p.call period t) else none

/-- One beat comes at least a period after the one before, and less than a period and a gap. -/
def Paced (period gap : ℕ) (beats : List ℕ) : Prop :=
  beats.IsChain fun later earlier => earlier + period ≤ later ∧ later < earlier + period + gap

structure Inv (period gap : ℕ) (p : Pulse) : Prop where
  past : p.fired ≤ p.called
  near : p.called < p.fired + period
  last : p.beats.head? = some p.fired
  paced : Paced period gap p.beats

section Steps

variable {period : UInt32} {gap : ℕ} {p p' : Pulse} {t : ℕ}

/-- At a call that comes in time, the readings tell whether the period has passed. -/
theorem due_iff (hfits : period.toNat + gap ≤ UInt32.size) {fired called : ℕ}
    (hpast : fired ≤ called) (hnear : called < fired + period.toNat) (hlo : called ≤ t)
    (hhi : t ≤ called + gap) : due period fired t = true ↔ fired + period.toNat ≤ t := by
  rw [due, Bool.not_eq_true', decide_eq_false_iff_not,
    elapsed_lt_iff (by omega) (by omega), Nat.not_lt]

/-- A call in time keeps the pace: a beat that is due is no later than the gap. -/
theorem Inv.call (hperiod : 0 < period) (hfits : period.toNat + gap ≤ UInt32.size)
    (h : Inv period.toNat gap p) (hlo : p.called ≤ t) (hhi : t ≤ p.called + gap) :
    Inv period.toNat gap (p.call period t) := by
  have hpositive : 0 < period.toNat := UInt32.lt_iff_toNat_lt.mp hperiod
  have hpast := h.past
  have hnear := h.near
  have hdue := due_iff hfits hpast hnear hlo hhi
  unfold Pulse.call
  by_cases hpassed : p.fired + period.toNat ≤ t
  · rw [if_pos (hdue.mpr hpassed)]
    have hnext : t < t + period.toNat := by omega
    refine ⟨le_rfl, hnext, rfl, List.isChain_cons.mpr ⟨fun b hb => ?_, h.paced⟩⟩
    rw [h.last, Option.mem_some_iff] at hb
    omega
  · rw [if_neg (fun hyes => hpassed (hdue.mp hyes))]
    have hnext : t < p.fired + period.toNat := by omega
    exact ⟨hpast.trans hlo, hnext, h.last, h.paced⟩

/-- **A timer over a wrapping clock keeps its pace.** -/
theorem paced_of_reachable (hperiod : 0 < period) (hfits : period.toNat + gap ≤ UInt32.size)
    (h : (system period gap).Reachable p) : Inv period.toNat gap p := by
  refine h.invariant ?_ ?_
  · rintro p ⟨hcalled, hbeats⟩
    have hpositive : 0 < period.toNat := UInt32.lt_iff_toNat_lt.mp hperiod
    refine ⟨hcalled.ge, by omega, by rw [hbeats]; rfl, ?_⟩
    rw [Paced, hbeats]
    exact List.isChain_singleton _
  · intro p t p' hp hstep
    simp only [system, Option.ite_none_right_eq_some, Option.some.injEq] at hstep
    obtain ⟨⟨hlo, hhi⟩, rfl⟩ := hstep
    exact hp.call hperiod hfits hlo hhi

end Steps

end Pulse

/-! ## The observer -/

/-- When a beat was heard last, whether the source is held to be alive, and the last check. -/
structure Detector where
  heard : Option ℕ
  alive : Bool
  checked : ℕ

namespace Detector

inductive Event where
  | hear (t : ℕ)
  | check (t : ℕ)

/-- No beat was heard after a time. -/
def Until (d : Detector) (t : ℕ) : Prop :=
  d.checked ≤ t ∧ ∀ h ∈ d.heard, h ≤ t

instance (d : Detector) (t : ℕ) : Decidable (d.Until t) :=
  inferInstanceAs (Decidable (_ ∧ _))

/-- The last beat is too old, by the readings. -/
def expired (threshold : UInt32) (d : Detector) (t : ℕ) : Bool :=
  d.heard.any fun h => decide (threshold < reading t - reading h)

/-- Checks at most `gap` apart. -/
def step (threshold : UInt32) (gap : ℕ) (d : Detector) : Event → Option Detector
  | .hear t => if d.Until t then some { d with heard := some t, alive := true } else none
  | .check t =>
      if d.Until t ∧ t ≤ d.checked + gap then
        some { d with alive := d.alive && !d.expired threshold t, checked := t }
      else none

def system (threshold : UInt32) (gap : ℕ) : System Detector Event where
  Init d := d.heard = none ∧ d.alive = false
  step := step threshold gap

section Enabled

variable {threshold : UInt32} {gap : ℕ} {d : Detector} {t : ℕ}

/-- A heartbeat is always taken. -/
theorem step_hear (h : d.Until t) :
    (system threshold gap).step d (.hear t) = some { d with heard := some t, alive := true } :=
  if_pos h

/-- A check is taken while the gap lasts. -/
theorem step_check (h : d.Until t) (hgap : t ≤ d.checked + gap) :
    (system threshold gap).step d (.check t) =
      some { d with alive := d.alive && !d.expired threshold t, checked := t } :=
  if_pos ⟨h, hgap⟩

end Enabled

/-- The source is alive exactly when it was not silent for longer than the threshold. -/
def Exact (threshold : ℕ) (d : Detector) : Prop :=
  d.alive = true ↔ ∃ h ∈ d.heard, d.checked ≤ h + threshold

section Steps

variable {threshold : UInt32} {gap : ℕ} {d : Detector}

/-- A check in time suspects exactly the ends that have been silent for too long. -/
theorem Exact.check (hfits : threshold.toNat + gap < UInt32.size) (h : Exact threshold.toNat d)
    {t : ℕ} (huntil : d.Until t) (hgap : t ≤ d.checked + gap) :
    Exact threshold.toNat { d with alive := d.alive && !d.expired threshold t, checked := t } := by
  obtain ⟨hlo, hheard⟩ := huntil
  rw [Exact] at h ⊢
  cases hlast : d.heard with
  | none =>
      have hdead : d.alive = false := by
        rw [hlast] at h
        simpa using h
      simp [hdead]
  | some beat =>
      have hbeat : beat ≤ t := hheard beat hlast
      have hexpired : d.expired threshold t = decide (threshold < reading t - reading beat) := by
        rw [expired, hlast, Option.any_some]
      rw [hlast] at h
      simp only [Option.mem_some_iff, exists_eq_left'] at h ⊢
      rw [Bool.and_eq_true, h, hexpired, Bool.not_eq_true', decide_eq_false_iff_not]
      constructor
      · rintro ⟨hfresh, hnot⟩
        rw [lt_elapsed_iff hbeat (by omega)] at hnot
        omega
      · intro hfresh
        rw [lt_elapsed_iff hbeat (by omega)]
        omega

/-- **The detector is exact**: it neither gives up a source that was heard in time nor holds on
to one that was not. -/
theorem alive_iff (hfits : threshold.toNat + gap < UInt32.size)
    (h : (system threshold gap).Reachable d) : Exact threshold.toNat d := by
  refine h.invariant ?_ ?_
  · rintro d ⟨hnone, hdead⟩
    simp [Exact, hnone, hdead]
  · intro d e d' hd hstep
    cases e with
    | hear t =>
        simp only [system, step, Option.ite_none_right_eq_some, Option.some.injEq] at hstep
        obtain ⟨⟨hchecked, -⟩, rfl⟩ := hstep
        simp only [Exact, Option.mem_some_iff, exists_eq_left', true_iff]
        omega
    | check t =>
        simp only [system, step, Option.ite_none_right_eq_some, Option.some.injEq] at hstep
        obtain ⟨⟨huntil, hgap⟩, rfl⟩ := hstep
        exact hd.check hfits huntil hgap

end Steps

end Detector

/-! ## Both ends -/

/-- The source and the beats on their way, oldest first; the last beat heard, the time, and how
many beats were missed since one was heard. -/
structure Link where
  fired : ℕ
  called : ℕ
  air : List ℕ
  heard : ℕ
  now : ℕ
  missed : ℕ

namespace Link

inductive Event where
  | call (t : ℕ)
  /-- The oldest beat on its way is heard. -/
  | arrive (t : ℕ)
  /-- The oldest beat on its way is missed. -/
  | miss (t : ℕ)
  /-- Another beat is heard, of whatever source. -/
  | hear (t : ℕ)
  | pass (t : ℕ)

/-- Time has not passed a call of the source that is due, nor a beat that has to arrive. -/
def Timely (gap latency : ℕ) (l : Link) (t : ℕ) : Prop :=
  l.now ≤ t ∧ t ≤ l.called + gap ∧ ∀ b ∈ l.air, t ≤ b + latency

instance (gap latency : ℕ) (l : Link) (t : ℕ) : Decidable (Timely gap latency l t) :=
  inferInstanceAs (Decidable (_ ∧ _))

def step (period : UInt32) (gap latency : ℕ) (l : Link) : Event → Option Link
  | .call t =>
      if Timely gap latency l t then
        if Pulse.due period l.fired t then
          some { l with fired := t, called := t, air := l.air ++ [t], now := t }
        else some { l with called := t, now := t }
      else none
  | .arrive t =>
      match l.air with
      | [] => none
      | _ :: air =>
          if Timely gap latency l t then
            some { l with air := air, heard := t, now := t, missed := 0 }
          else none
  | .miss t =>
      match l.air with
      | [] => none
      | _ :: air =>
          if Timely gap latency l t then
            some { l with air := air, now := t, missed := l.missed + 1 }
          else none
  | .hear t =>
      if Timely gap latency l t then some { l with heard := t, now := t, missed := 0 } else none
  | .pass t => if Timely gap latency l t then some { l with now := t } else none

/-- A beat was heard since the source beat last. -/
structure Start (period : UInt32) (l : Link) : Prop where
  past : l.fired ≤ l.called
  near : l.called < l.fired + period.toNat
  air : l.air = []
  heard : l.fired ≤ l.heard
  called : l.called ≤ l.now
  now : l.heard = l.now
  missed : l.missed = 0

def system (period : UInt32) (gap latency : ℕ) : System Link Event where
  Init := Start period
  step := step period gap latency

section Enabled

variable {period : UInt32} {gap latency : ℕ} {l : Link} {t : ℕ}

/-- A call of the pulse in time is a step of the link; a beat starts on its way. -/
theorem step_call (h : Timely gap latency l t) :
    (system period gap latency).step l (.call t) = some { l with
      fired := if Pulse.due period l.fired t then t else l.fired
      called := t
      air := if Pulse.due period l.fired t then l.air ++ [t] else l.air
      now := t } := by
  show Link.step period gap latency l (.call t) = _
  simp only [Link.step, if_pos h]
  split
  · rfl
  · rfl

/-- The oldest beat arrives in time. -/
theorem step_arrive (h : Timely gap latency l t) {b : ℕ} {air : List ℕ} (hair : l.air = b :: air) :
    (system period gap latency).step l (.arrive t) =
      some { l with air := air, heard := t, now := t, missed := 0 } := by
  show Link.step period gap latency l (.arrive t) = _
  simp only [Link.step, hair, if_pos h]

/-- The oldest beat may be missed. -/
theorem step_miss (h : Timely gap latency l t) {b : ℕ} {air : List ℕ} (hair : l.air = b :: air) :
    (system period gap latency).step l (.miss t) =
      some { l with air := air, now := t, missed := l.missed + 1 } := by
  show Link.step period gap latency l (.miss t) = _
  simp only [Link.step, hair, if_pos h]

/-- Something else of the other end may be heard at any time. -/
theorem step_hear (h : Timely gap latency l t) :
    (system period gap latency).step l (.hear t) =
      some { l with heard := t, now := t, missed := 0 } :=
  if_pos h

/-- Time may pass. -/
theorem step_pass (h : Timely gap latency l t) :
    (system period gap latency).step l (.pass t) = some { l with now := t } :=
  if_pos h

end Enabled

/-- No two beats in a row are further apart than `reach`, from the last one that was heard to the
last one that was sent. -/
def Covered (reach fired : ℕ) : ℕ → List ℕ → Prop
  | last, [] => fired ≤ last
  | last, b :: air => b < last + reach ∧ Covered reach fired b air

section Covered

variable {reach fired last last' : ℕ} {air : List ℕ}

/-- What was heard later covers as much. -/
theorem Covered.mono (h : Covered reach fired last air) (hle : last ≤ last') :
    Covered reach fired last' air := by
  cases air with
  | nil => exact le_trans h hle
  | cons b air => exact ⟨Nat.lt_of_lt_of_le h.1 (Nat.add_le_add_right hle reach), h.2⟩

/-- A further beat. -/
theorem Covered.concat (h : Covered reach fired last air) {t : ℕ} (ht : t < fired + reach) :
    Covered reach t last (air ++ [t]) := by
  induction air generalizing last with
  | nil =>
      have hlast : fired ≤ last := h
      exact ⟨by omega, le_refl t⟩
  | cons b air ih => exact ⟨h.1, ih h.2⟩

end Covered

structure Inv (period gap : ℕ) (l : Link) : Prop where
  past : l.fired ≤ l.called
  near : l.called < l.fired + period
  present : l.called ≤ l.now
  air : ∀ b ∈ l.air, b ≤ l.now
  heard : l.heard ≤ l.now
  covered : Covered (period + gap) l.fired (l.heard + l.missed * (period + gap)) l.air

section Steps

variable {period : UInt32} {gap latency : ℕ} {l : Link} {t : ℕ}

/-- **The last beat heard is never old**: one period and one break for each beat missed since, once
more for the one that is due, and the travel time. -/
theorem Inv.recent_of_timely (h : Inv period.toNat gap l) (ht : Timely gap latency l t) :
    t < l.heard + (l.missed + 1) * (period.toNat + gap) + latency := by
  obtain ⟨-, hcalled, hair⟩ := ht
  have hnear := h.near
  have hcovered := h.covered
  rw [Nat.add_one_mul]
  cases hlist : l.air with
  | nil =>
      rw [hlist] at hcovered
      have hfired : l.fired ≤ l.heard + l.missed * (period.toNat + gap) := hcovered
      omega
  | cons b air =>
      rw [hlist] at hcovered hair
      have hfirst : b < l.heard + l.missed * (period.toNat + gap) + (period.toNat + gap) :=
        hcovered.1
      have harrives := hair b List.mem_cons_self
      omega

/-- A call of the source. -/
theorem Inv.call (hfits : period.toNat + gap ≤ UInt32.size) (hperiod : 0 < period)
    (h : Inv period.toNat gap l) (ht : Timely gap latency l t) :
    Inv period.toNat gap
      (if Pulse.due period l.fired t then
        { l with fired := t, called := t, air := l.air ++ [t], now := t }
      else { l with called := t, now := t }) := by
  have hpositive : 0 < period.toNat := UInt32.lt_iff_toNat_lt.mp hperiod
  obtain ⟨hnow, hcalled, -⟩ := ht
  have hpast := h.past
  have hnear := h.near
  have hlo := h.present.trans hnow
  have hdue := Pulse.due_iff hfits hpast hnear hlo hcalled
  have hair : ∀ b ∈ l.air, b ≤ t := fun b hb => (h.air b hb).trans hnow
  have hheard := h.heard.trans hnow
  by_cases hpassed : l.fired + period.toNat ≤ t
  · have hnext : t < t + period.toNat := by omega
    have hreach : t < l.fired + (period.toNat + gap) := by omega
    rw [if_pos (hdue.mpr hpassed)]
    refine ⟨le_rfl, hnext, le_rfl, fun b hb => ?_, hheard, h.covered.concat hreach⟩
    rcases List.mem_append.mp hb with hb | hb
    · exact hair b hb
    · exact (List.mem_singleton.mp hb).le
  · have hnext : t < l.fired + period.toNat := by omega
    rw [if_neg (fun hyes => hpassed (hdue.mp hyes))]
    exact ⟨hpast.trans hlo, hnext, le_rfl, hair, hheard, h.covered⟩

/-- Time passes. -/
theorem Inv.pass (h : Inv period.toNat gap l) (hnow : l.now ≤ t) :
    Inv period.toNat gap { l with now := t } :=
  ⟨h.past, h.near, h.present.trans hnow, fun b hb => (h.air b hb).trans hnow,
    h.heard.trans hnow, h.covered⟩

/-- A beat is heard from somewhere: nothing that is on its way was sent later. -/
theorem Inv.hear (h : Inv period.toNat gap l) (hnow : l.now ≤ t) (hpositive : 0 < period.toNat) :
    Inv period.toNat gap { l with heard := t, now := t, missed := 0 } := by
  refine ⟨h.past, h.near, h.present.trans hnow, fun b hb => (h.air b hb).trans hnow, le_rfl, ?_⟩
  have hcovered := h.covered
  show Covered (period.toNat + gap) l.fired (t + 0 * (period.toNat + gap)) l.air
  rw [Nat.zero_mul, Nat.add_zero]
  cases hlist : l.air with
  | nil => exact h.past.trans (h.present.trans hnow)
  | cons b air =>
      rw [hlist] at hcovered
      have hsent : b ≤ t := (h.air b (by rw [hlist]; exact List.mem_cons_self)).trans hnow
      have hfirst : b < t + (period.toNat + gap) := by omega
      exact ⟨hfirst, hcovered.2⟩

/-- The oldest beat on its way is heard. -/
theorem Inv.arrive (h : Inv period.toNat gap l) (hnow : l.now ≤ t) (hpositive : 0 < period.toNat)
    {b : ℕ} {air : List ℕ} (hair : l.air = b :: air) :
    Inv period.toNat gap { l with air := air, heard := t, now := t, missed := 0 } := by
  obtain ⟨hpast, hnear, hpresent, hbeats, hheard, hcovered⟩ := h.hear hnow hpositive
  have hsent : b ≤ l.now := h.air b (by rw [hair]; exact List.mem_cons_self)
  simp only [hair] at hbeats hcovered
  have hle : b ≤ t + 0 * (period.toNat + gap) := by
    rw [Nat.zero_mul, Nat.add_zero]
    exact hsent.trans hnow
  exact ⟨hpast, hnear, hpresent, fun c hc => hbeats c (List.mem_cons_of_mem b hc), hheard,
    hcovered.2.mono hle⟩

/-- The oldest beat on its way is missed. -/
theorem Inv.miss (h : Inv period.toNat gap l) (hnow : l.now ≤ t) {b : ℕ} {air : List ℕ}
    (hair : l.air = b :: air) :
    Inv period.toNat gap { l with air := air, now := t, missed := l.missed + 1 } := by
  obtain ⟨hpast, hnear, hpresent, hbeats, hheard, hcovered⟩ := h.pass hnow
  simp only [hair] at hbeats hcovered
  have hfirst : b < l.heard + l.missed * (period.toNat + gap) + (period.toNat + gap) := hcovered.1
  have hle : b ≤ l.heard + (l.missed + 1) * (period.toNat + gap) := by
    rw [Nat.add_one_mul]
    omega
  exact ⟨hpast, hnear, hpresent, fun c hc => hbeats c (List.mem_cons_of_mem b hc), hheard,
    hcovered.2.mono hle⟩

/-- Every step of the link, one case for each event, keeps the invariant. -/
theorem Inv.step (hfits : period.toNat + gap ≤ UInt32.size) (hperiod : 0 < period)
    (h : Inv period.toNat gap l) {e : Event} {l' : Link}
    (hstep : step period gap latency l e = some l') : Inv period.toNat gap l' := by
  have hpositive : 0 < period.toNat := UInt32.lt_iff_toNat_lt.mp hperiod
  cases e with
  | call t =>
      simp only [Link.step] at hstep
      split at hstep
      · next ht =>
        have hcalled := h.call hfits hperiod ht
        split at hstep
        · next hdue =>
          rw [if_pos hdue] at hcalled
          exact Option.some.inj hstep ▸ hcalled
        · next hdue =>
          rw [if_neg hdue] at hcalled
          exact Option.some.inj hstep ▸ hcalled
      · simp at hstep
  | arrive t =>
      simp only [Link.step] at hstep
      split at hstep
      · simp at hstep
      · next b air hair =>
        simp only [Option.ite_none_right_eq_some, Option.some.injEq] at hstep
        obtain ⟨ht, rfl⟩ := hstep
        exact h.arrive ht.1 hpositive hair
  | miss t =>
      simp only [Link.step] at hstep
      split at hstep
      · simp at hstep
      · next b air hair =>
        simp only [Option.ite_none_right_eq_some, Option.some.injEq] at hstep
        obtain ⟨ht, rfl⟩ := hstep
        exact h.miss ht.1 hair
  | hear t =>
      simp only [Link.step, Option.ite_none_right_eq_some, Option.some.injEq] at hstep
      obtain ⟨ht, rfl⟩ := hstep
      exact h.hear ht.1 hpositive
  | pass t =>
      simp only [Link.step, Option.ite_none_right_eq_some, Option.some.injEq] at hstep
      obtain ⟨ht, rfl⟩ := hstep
      exact h.pass ht.1

/-- A link starts with a beat just heard and nothing on its way. -/
theorem Start.inv (h : Start period l) : Inv period.toNat gap l := by
  refine ⟨h.past, h.near, h.called, ?_, h.now.le, ?_⟩
  · rw [h.air]
    exact fun b hb => absurd hb List.not_mem_nil
  · rw [h.air, h.missed, Nat.zero_mul, Nat.add_zero]
    exact h.heard

/-- So every reachable link has it. -/
theorem inv_of_reachable (hfits : period.toNat + gap ≤ UInt32.size) (hperiod : 0 < period)
    (h : (system period gap latency).Reachable l) : Inv period.toNat gap l := by
  refine h.invariant ?_ ?_
  · exact fun l hl => Start.inv hl
  · exact fun l e l' hl hstep => hl.step hfits hperiod hstep

end Steps

end Link

end Heartbeat
