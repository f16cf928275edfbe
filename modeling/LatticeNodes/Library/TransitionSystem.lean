import Mathlib.Data.List.Basic
import Mathlib.Logic.Basic

/-!
# Executable transition systems

A system is a guarded step function: `step s e` is `some s'` when event `e` is enabled in
state `s`.  `Reachable` collects the states of all runs from the initial ones, `runFrom`
replays one event list, and `Reachable.invariant` is the induction every safety result
of a development goes through.
-/

set_option autoImplicit false

namespace TransitionSystem

/-- A set of initial states and a guarded step function. -/
structure System (σ ε : Type*) where
  Init : σ → Prop
  step : σ → ε → Option σ

namespace System

variable {σ ε : Type*} (sys : System σ ε)

/-- Replay a list of events; `none` when one of them is not enabled. -/
def runFrom (s : σ) : List ε → Option σ
  | [] => some s
  | e :: es => (sys.step s e).bind fun s' => runFrom s' es

/-- The states that some run from an initial state ends in. -/
inductive Reachable : σ → Prop
  | init {s : σ} : sys.Init s → Reachable s
  | step {s s' : σ} {e : ε} : Reachable s → sys.step s e = some s' → Reachable s'

/-- A run without events stays where it is. -/
@[simp] theorem runFrom_nil (s : σ) : sys.runFrom s [] = some s := rfl

/-- A run makes its first step and runs on. -/
@[simp] theorem runFrom_cons (s : σ) (e : ε) (es : List ε) :
    sys.runFrom s (e :: es) = (sys.step s e).bind fun s' => sys.runFrom s' es := rfl

/-- A replay of two lists is a replay of the first and then of the second. -/
theorem runFrom_append (s : σ) (es es' : List ε) :
    sys.runFrom s (es ++ es') = (sys.runFrom s es).bind fun s' => sys.runFrom s' es' := by
  induction es generalizing s with
  | nil => rfl
  | cons e es ih =>
      rw [List.cons_append, runFrom_cons, runFrom_cons, Option.bind_assoc]
      congr 1
      funext s'
      exact ih s'

/-- The step rule: what one step preserves, every run preserves. -/
theorem runFrom_invariant {P : σ → Prop}
    (hstep : ∀ s e s', P s → sys.step s e = some s' → P s')
    {s s' : σ} {es : List ε} (hs : P s) (h : sys.runFrom s es = some s') : P s' := by
  induction es generalizing s with
  | nil =>
      cases h
      exact hs
  | cons e es ih =>
      obtain ⟨s₁, hs₁, h₁⟩ := Option.bind_eq_some_iff.mp h
      exact ih (hstep s e s₁ hs hs₁) h₁

/-- The exact-condition rule: when a step keeps `P` exactly if it satisfies `Q`, a run keeps `P`
exactly if all of its steps satisfy `Q`. -/
theorem runFrom_holds_iff {P I : σ → Prop} {Q : σ → ε → Prop}
    (hkeep : ∀ s e s', I s → sys.step s e = some s' → I s')
    (hiff : ∀ s e s', I s → sys.step s e = some s' → (P s' ↔ P s ∧ Q s e))
    {s s' : σ} {es : List ε} (hs : I s) (h : sys.runFrom s es = some s') :
    P s' ↔ P s ∧ ∀ before e after t, es = before ++ e :: after →
      sys.runFrom s before = some t → Q t e := by
  induction es generalizing s with
  | nil =>
      cases h
      refine ⟨fun hp => ⟨hp, fun before e after t heq => ?_⟩, And.left⟩
      simp at heq
  | cons e es ih =>
      obtain ⟨s₁, hstep, hrest⟩ := Option.bind_eq_some_iff.mp h
      rw [ih (hkeep s e s₁ hs hstep) hrest, hiff s e s₁ hs hstep, and_assoc]
      refine and_congr_right fun _ => ⟨?_, fun hall => ⟨?_, ?_⟩⟩
      · rintro ⟨hfirst, hlater⟩ before e' after t heq hbefore
        cases before with
        | nil =>
            obtain ⟨rfl, -⟩ := List.cons.inj heq
            cases hbefore
            exact hfirst
        | cons e'' before =>
            obtain ⟨rfl, htail⟩ := List.cons.inj heq
            rw [runFrom_cons, hstep] at hbefore
            exact hlater before e' after t htail hbefore
      · exact hall [] e es s rfl rfl
      · intro before e' after t heq hbefore
        refine hall (e :: before) e' after t ?_ ?_
        · rw [heq, List.cons_append]
        · rw [runFrom_cons, hstep]
          exact hbefore

/-- A predicate that holds initially and is preserved by every step holds of every
reachable state. -/
theorem Reachable.invariant {sys : System σ ε} {P : σ → Prop}
    (hinit : ∀ s, sys.Init s → P s)
    (hstep : ∀ s e s', P s → sys.step s e = some s' → P s')
    {s : σ} (h : sys.Reachable s) : P s := by
  induction h with
  | init hs => exact hinit _ hs
  | step _ hse ih => exact hstep _ _ _ ih hse

/-- The step rule that may also use that the state before the step is reachable. -/
theorem Reachable.invariant_of_reachable {sys : System σ ε} {P : σ → Prop}
    (hinit : ∀ s, sys.Init s → P s)
    (hstep : ∀ s e s', sys.Reachable s → P s → sys.step s e = some s' → P s')
    {s : σ} (h : sys.Reachable s) : P s := by
  induction h with
  | init hs => exact hinit _ hs
  | step hr hse ih => exact hstep _ _ _ hr ih hse

/-- A replay never leaves the reachable states. -/
theorem Reachable.runFrom {sys : System σ ε} {s s' : σ} {es : List ε}
    (hs : sys.Reachable s) (h : sys.runFrom s es = some s') : sys.Reachable s' :=
  sys.runFrom_invariant (fun _ _ _ hr hstep => Reachable.step hr hstep) hs h

/-- The simulation rule: when every step of a system is a step of another one on the images, or
leaves the image alone, the images of reachable states are reachable. -/
theorem Reachable.simulate {sys : System σ ε} {τ δ : Type*} {abs : System τ δ} (f : σ → τ)
    (hinit : ∀ s, sys.Init s → abs.Init (f s))
    (hstep : ∀ s e s', sys.step s e = some s' →
      f s' = f s ∨ ∃ d, abs.step (f s) d = some (f s'))
    {s : σ} (h : sys.Reachable s) : abs.Reachable (f s) := by
  induction h with
  | init hs => exact .init (hinit _ hs)
  | step _ hse ih =>
      rcases hstep _ _ _ hse with hsame | ⟨d, hd⟩
      · rw [hsame]
        exact ih
      · exact .step ih hd

/-- The simulation rule that may also use that the state before the step is reachable. -/
theorem Reachable.simulate_of_reachable {sys : System σ ε} {τ δ : Type*} {abs : System τ δ}
    (f : σ → τ) (hinit : ∀ s, sys.Init s → abs.Init (f s))
    (hstep : ∀ s e s', sys.Reachable s → sys.step s e = some s' →
      f s' = f s ∨ ∃ d, abs.step (f s) d = some (f s'))
    {s : σ} (h : sys.Reachable s) : abs.Reachable (f s) := by
  induction h with
  | init hs => exact .init (hinit _ hs)
  | step hr hse ih =>
      rcases hstep _ _ _ hr hse with hsame | ⟨d, hd⟩
      · rw [hsame]
        exact ih
      · exact .step ih hd

/-- The system with fewer initial states and steps. -/
def restrict (init : σ → Prop) (allowed : σ → ε → Prop) [∀ s e, Decidable (allowed s e)] :
    System σ ε where
  Init s := sys.Init s ∧ init s
  step s e := if allowed s e then sys.step s e else none

section Restrict

variable {sys} {init : σ → Prop} {allowed : σ → ε → Prop} [∀ s e, Decidable (allowed s e)]

/-- A restricted system makes the steps that are allowed. -/
theorem restrict_step_eq_some_iff {s s' : σ} {e : ε} :
    (sys.restrict init allowed).step s e = some s' ↔ allowed s e ∧ sys.step s e = some s' := by
  simp only [restrict, Option.ite_none_right_eq_some]

/-- A run all of whose events are allowed in any state is one of the system with fewer steps. -/
theorem restrict_runFrom {es : List ε} (h : ∀ e ∈ es, ∀ s, allowed s e) (s : σ) :
    (sys.restrict init allowed).runFrom s es = sys.runFrom s es := by
  induction es generalizing s with
  | nil => rfl
  | cons e es ih =>
      have hstep : (sys.restrict init allowed).step s e = sys.step s e :=
        if_pos (h e List.mem_cons_self s)
      rw [runFrom_cons, runFrom_cons, hstep]
      congr 1
      funext s'
      exact ih (fun e' he' => h e' (List.mem_cons_of_mem _ he')) s'

end Restrict

end System

/-! ## Steps that are always enabled -/

section Foldl

variable {σ ε : Type*} {step : σ → ε → σ} {P I : σ → Prop} {Q : σ → ε → Prop}

/-- A run visits the state it starts in and the states its rest visits. -/
theorem foldl_visits_cons {s : σ} {e : ε} {es : List ε} :
    (∀ before after, e :: es = before ++ after → P (before.foldl step s)) ↔
      P s ∧ ∀ before after, es = before ++ after → P (before.foldl step (step s e)) := by
  constructor
  · intro h
    refine ⟨h [] (e :: es) rfl, fun before after heq => h (e :: before) after ?_⟩
    rw [heq]
    rfl
  · rintro ⟨hs, hrest⟩ before after heq
    cases before with
    | nil => exact hs
    | cons e' before =>
        obtain ⟨rfl, htail⟩ := List.cons.inj heq
        exact hrest before after htail

/-- A run takes its first step and the steps of its rest. -/
theorem foldl_steps_cons {s : σ} {e : ε} {es : List ε} :
    (∀ before e' after, e :: es = before ++ e' :: after → Q (before.foldl step s) e') ↔
      Q s e ∧ ∀ before e' after, es = before ++ e' :: after →
        Q (before.foldl step (step s e)) e' := by
  constructor
  · intro h
    refine ⟨h [] e es rfl, fun before e' after heq => h (e :: before) e' after ?_⟩
    rw [heq]
    rfl
  · rintro ⟨hs, hrest⟩ before e' after heq
    cases before with
    | nil =>
        obtain ⟨rfl, -⟩ := List.cons.inj heq
        exact hs
    | cons e'' before =>
        obtain ⟨rfl, htail⟩ := List.cons.inj heq
        exact hrest before e' after htail

/-- The run rule: what the steps that satisfy `Q` keep holds all along a run of such steps. -/
theorem foldl_visits_of_steps (hstep : ∀ s e, P s → Q s e → P (step s e)) {s : σ} (hs : P s)
    {es : List ε} (h : ∀ before e after, es = before ++ e :: after → Q (before.foldl step s) e) :
    ∀ before after, es = before ++ after → P (before.foldl step s) := by
  induction es generalizing s with
  | nil =>
      intro before after heq
      obtain ⟨rfl, -⟩ := List.append_eq_nil_iff.mp heq.symm
      exact hs
  | cons e es ih =>
      obtain ⟨hfirst, hrest⟩ := foldl_steps_cons.mp h
      exact foldl_visits_cons.mpr ⟨hs, ih (hstep s e hs hfirst) hrest⟩

/-- The exact-condition rule: when the steps that satisfy `Q` keep the invariant and all others
break `P`, then `P` holds all along a run exactly when every step satisfies `Q`. -/
theorem foldl_holds_iff (hholds : ∀ s, I s → P s) (hkeep : ∀ s e, I s → Q s e → I (step s e))
    (hbreak : ∀ s e, I s → ¬Q s e → ¬P (step s e)) {s : σ} (hs : I s) (es : List ε) :
    (∀ before after, es = before ++ after → P (before.foldl step s)) ↔
      ∀ before e after, es = before ++ e :: after → Q (before.foldl step s) e := by
  induction es generalizing s with
  | nil =>
      constructor
      · intro _ before e after heq
        simp at heq
      · intro _ before after heq
        obtain ⟨rfl, -⟩ := List.append_eq_nil_iff.mp heq.symm
        exact hholds s hs
  | cons e es ih =>
      rw [foldl_visits_cons, foldl_steps_cons]
      by_cases hq : Q s e
      · simp only [hholds s hs, hq, true_and]
        exact ih (hkeep s e hs hq)
      · constructor
        · rintro ⟨-, hrest⟩
          exact absurd (hrest [] es rfl) (hbreak s e hs hq)
        · rintro ⟨hstep, -⟩
          exact absurd hstep hq

end Foldl

end TransitionSystem
