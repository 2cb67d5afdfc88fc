import Mathlib.Logic.Relation

/-! Properties that steps keep, and the states a machine reaches by the steps it is allowed. -/

namespace Klura

variable {σ ε : Type}

/-- Every step leads from a state with the property to a state with the property. -/
def Keeps (step : σ → σ → Prop) (property : σ → Prop) : Prop :=
  ∀ ⦃before after⦄, step before after → property before → property after

/-- A property that one step keeps is kept by any number of them. -/
theorem Keeps.many {step : σ → σ → Prop} {property : σ → Prop} (keeps : Keeps step property)
    {before after : σ} (run : Relation.ReflTransGen step before after)
    (holds : property before) : property after := by
  -- The induction follows the run, so the property is carried from its start to its end.
  induction run with
  | refl => exact holds
  | tail _ last ih => exact keeps last ih

/-- A machine whose steps are driven by events. -/
structure Machine (σ ε : Type) where
  /-- The states it may be in before its first step. -/
  starts : σ → Prop
  /-- The states an event may lead to. -/
  step : σ → ε → σ → Prop

namespace Machine

variable {machine : Machine σ ε}

/-- The states a machine reaches when each event comes in a state that allows it. -/
inductive Reaches (machine : Machine σ ε) (allowed : σ → ε → Prop) : σ → Prop where
  | start {state : σ} (starts : machine.starts state) : Reaches machine allowed state
  | next {state after : σ} {event : ε} (reached : Reaches machine allowed state)
      (allows : allowed state event) (steps : machine.step state event after) :
      Reaches machine allowed after

/-- What every start has and every allowed step keeps, every reached state has. -/
theorem Reaches.invariant {allowed : σ → ε → Prop} {property : σ → Prop}
    (starts : ∀ state, machine.starts state → property state)
    (steps : ∀ state event after, allowed state event → machine.step state event after →
      property state → property after)
    {state : σ} (reached : machine.Reaches allowed state) : property state := by
  -- The induction follows the way the state was reached.
  induction reached with
  | start first => exact starts _ first
  | next _ allows step ih => exact steps _ _ _ allows step ih

variable {allowed : σ → ε → Prop} {state : σ}

theorem Reaches.mono {allowed' : σ → ε → Prop}
    (weaker : ∀ state event, allowed state event → allowed' state event)
    (reached : machine.Reaches allowed state) : machine.Reaches allowed' state := by
  induction reached with
  | start first => exact .start first
  | next _ allows step ih => exact .next ih (weaker _ _ allows) step

/-- The runs of a machine from a state, each event of which comes in a state that allows it. -/
inductive Run (machine : Machine σ ε) (allowed : σ → ε → Prop) : σ → List ε → σ → Prop where
  | none {state : σ} : Run machine allowed state [] state
  | cons {state next after : σ} {event : ε} {events : List ε} (allows : allowed state event)
      (steps : machine.step state event next) (rest : Run machine allowed next events after) :
      Run machine allowed state (event :: events) after

/-- What a list of events makes of a state, when each of them can happen. -/
def runSteps (step : σ → ε → Option σ) : σ → List ε → Option σ
  | state, [] => some state
  | state, event :: events => (step state event).bind fun next => runSteps step next events

variable {step : σ → ε → Option σ} {events : List ε} {after : σ}

/-- What events lead to that any state allows is reached. -/
theorem reaches_of_runSteps
    (steps : ∀ state event after, step state event = some after → machine.step state event after)
    (run : runSteps step state events = some after)
    (reached : machine.Reaches (fun _ _ => True) state) :
    machine.Reaches (fun _ _ => True) after := by
  -- The induction follows the events, each of which is one more step.
  induction events generalizing state with
  | nil =>
    simp only [runSteps, Option.some.injEq] at run
    exact run ▸ reached
  | cons event rest ih =>
    simp only [runSteps, Option.bind_eq_some_iff] at run
    obtain ⟨next, stepped, later⟩ := run
    exact ih later (.next reached trivial (steps _ _ _ stepped))

/-- What each event of a kind keeps, a run of such events keeps. -/
theorem Run.keeps (kind : ε → Prop) (property : σ → Prop)
    (steps : ∀ state event after, allowed state event → kind event → machine.step state event after → property state → property after)
    (run : machine.Run allowed state events after) (kinds : ∀ event ∈ events, kind event)
    (holds : property state) : property after := by
  -- The induction follows the run, whose first event is one of its events.
  induction run with
  | none => exact holds
  | cons allows step _ ih =>
    have next := steps _ _ _ allows (kinds _ List.mem_cons_self) step holds
    exact ih (fun event member => kinds event (List.mem_cons_of_mem _ member)) next

/-- The machine that remembers every step it has taken, newest first. -/
def remembering (machine : Machine σ ε) : Machine (σ × List (σ × ε × σ)) ε where
  starts state := machine.starts state.1 ∧ state.2 = []
  step before event after :=
    machine.step before.1 event after.1 ∧ after.2 = (before.1, event, after.1) :: before.2

/-- What a remembering machine reaches, the machine reaches. -/
theorem Reaches.forget {state : σ × List (σ × ε × σ)}
    (reached : machine.remembering.Reaches (fun _ _ => True) state) :
    machine.Reaches (fun _ _ => True) state.1 := by
  induction reached with
  | start first => exact .start first.1
  | @next before after event _ _ step ih =>
    have steps : machine.step before.1 event after.1 := step.1
    exact .next ih trivial steps

/-- What a machine reaches, it reaches with some memory. -/
theorem Reaches.remember (reached : machine.Reaches (fun _ _ => True) state) :
    ∃ history, machine.remembering.Reaches (fun _ _ => True) (state, history) := by
  induction reached with
  | start first => exact ⟨[], .start ⟨first, rfl⟩⟩
  | @next before after event _ _ step ih =>
    obtain ⟨history, remembered⟩ := ih
    have steps : machine.remembering.step (before, history) event
        (after, (before, event, after) :: history) := ⟨step, rfl⟩
    exact ⟨_, .next remembered trivial steps⟩

/-- The states that a list of events passes, up to one that cannot happen. -/
def statesOf (step : σ → ε → Option σ) : σ → List ε → List σ
  | state, [] => [state]
  | state, event :: events =>
    state :: ((step state event).map fun next => statesOf step next events).getD []

/-- Whether each event of a list, when it happens, comes in a state that allows it. -/
def Allows (step : σ → ε → Option σ) (allowed : σ → ε → Prop) : σ → List ε → Prop
  | _, [] => True
  | state, event :: events =>
    ∀ next, step state event = some next → allowed state event ∧ Allows step allowed next events

theorem mem_statesOf_self (step : σ → ε → Option σ) (state : σ) (events : List ε) :
    state ∈ statesOf step state events := by
  cases events <;> simp [statesOf]

/-- The state that a list of events leads to is one that it passes. -/
theorem mem_statesOf_of_runSteps (run : runSteps step state events = some after) :
    after ∈ statesOf step state events := by
  induction events generalizing state with
  | nil =>
    simp only [runSteps, Option.some.injEq] at run
    simp [statesOf, run]
  | cons event rest ih =>
    obtain ⟨next, stepped, later⟩ := Option.bind_eq_some_iff.mp run
    exact List.mem_cons_of_mem _ (by simpa [stepped] using ih later)

/-- Where an allowed event keeps an invariant, and an event that is not allowed breaks a property
that the invariant implies, a run has the property throughout just when all its events are
allowed. -/
theorem statesOf_iff {invariant property : σ → Prop}
    (implied : ∀ state, invariant state → property state)
    (keeps : ∀ state event next, invariant state → step state event = some next → allowed state event → invariant next)
    (breaks : ∀ state event next, invariant state → step state event = some next → property next → allowed state event)
    (holds : invariant state) (events : List ε) :
    (∀ passed ∈ statesOf step state events, property passed) ↔
      Allows step allowed state events := by
  -- The induction follows the events, from any state with the invariant.
  induction events generalizing state with
  | nil => simpa [statesOf, Allows] using implied state holds
  | cons event rest ih =>
    simp only [statesOf, Allows, List.mem_cons, forall_eq_or_imp, implied state holds, true_and]
    cases stepped : step state event with
    | none => simp
    | some next =>
      simp only [Option.map_some, Option.getD_some, Option.some.injEq, forall_eq']
      constructor
      · intro all
        -- The state after the event has the property, so the event was allowed.
        have allows := breaks _ _ _ holds stepped (all _ (mem_statesOf_self _ _ _))
        exact ⟨allows, (ih (keeps _ _ _ holds stepped allows)).mp all⟩
      · rintro ⟨allows, later⟩
        exact (ih (keeps _ _ _ holds stepped allows)).mpr later

end Machine

end Klura
