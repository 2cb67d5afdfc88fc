import Klura.Library.Machine
import Klura.Moves.Execution

/-! The machine of an executing run: the executions it may begin with and the steps they take. -/

namespace Klura

variable {env : RunEnvironment}

/-- An execution that a start or a resume has begun. -/
def Begins (env : RunEnvironment) (execution : ExecutionV1) : Prop :=
  (∃ roots aborted clock linkSucceeds,
    startDetached env roots aborted clock linkSucceeds = .ok execution) ∨
  ∃ disk aborted clock linkSucceeds, resume env disk aborted clock linkSucceeds = .ok execution

/-- The machine whose steps are what happens to an executing run. -/
def executionMachine (env : RunEnvironment) : Machine ExecutionV1 RunEventV1 where
  starts := Begins env
  step execution event after := execution.step env event = some after

theorem afterFrontier_closed (flow : Except RunError FrontierFlowV1 × World)
    (ended : (ExecutionV1.afterFrontier flow).outcome ≠ none) :
    (ExecutionV1.afterFrontier flow).batch = [] := by
  obtain ⟨outcome, world⟩ := flow
  cases outcome with
  | error error => rfl
  | ok flow =>
    cases flow with
    | result result => rfl
    | batch chains => exact absurd rfl ended

theorem Begins.turn {execution : ExecutionV1} (begins : Begins env execution) :
    ∃ flow, execution = ExecutionV1.afterFrontier flow := by
  rcases begins with ⟨roots, aborted, clock, linkSucceeds, starts⟩ |
    ⟨disk, aborted, clock, linkSucceeds, resumes⟩
  · unfold startDetached at starts
    dsimp only at starts
    split at starts
    · cases starts
    · exact ⟨_, (Except.ok.inj starts).symm⟩
  · unfold resume at resumes
    cases plans : planResume env disk with
    | error error => rw [plans] at resumes; cases resumes
    | ok plan =>
      rw [plans] at resumes
      exact ⟨_, (Except.ok.inj resumes).symm⟩

/-- The point at which a started or a resumed run begins its elementary moves. -/
def Origin (env : RunEnvironment) (point : RunPointV1) : Prop :=
  (∃ roots clock linkSucceeds, point = ⟨creationWorld env roots clock linkSucceeds, [],
    .creating (initialNodesFrom env 0 roots) (initialNodesFrom env 0 roots) []⟩) ∨
  ∃ disk plan clock linkSucceeds, planResume env disk = .ok plan ∧
    point = ⟨plan.world env clock linkSucceeds, [],
      .reopening plan.recovered plan.replayNodes⟩

theorem Begins.moves {permits : TurnPermissionV1} {execution : ExecutionV1}
    (begins : Begins env execution) :
    ∃ origin, Origin env origin ∧ RunMoves env permits origin execution.point := by
  rcases begins with ⟨roots, aborted, clock, linkSucceeds, starts⟩ |
    ⟨disk, aborted, clock, linkSucceeds, resumes⟩
  · exact ⟨_, .inl ⟨roots, clock, linkSucceeds, rfl⟩, startDetached_moves starts⟩
  · obtain ⟨plan, plans, moves⟩ := resume_moves resumes
    exact ⟨_, .inr ⟨disk, plan, clock, linkSucceeds, plans, rfl⟩, moves⟩

theorem run_reaches {started execution : ExecutionV1} {events : List RunEventV1}
    (ran : started.run env events = some execution)
    (reached : (executionMachine env).Reaches (fun _ _ => True) started) :
    (executionMachine env).Reaches (fun _ _ => True) execution := by
  induction events generalizing started with
  | nil => cases ran; exact reached
  | cons event rest ih =>
    simp only [ExecutionV1.run, Option.bind_eq_some_iff] at ran
    obtain ⟨next, steps, ran⟩ := ran
    exact ih ran (.next reached trivial steps)

end Klura
