import Mathlib.Logic.Relation
import Mathlib.Order.Defs.Unbundled

/-! Fallible programs that keep the state they reached, and rules for the ends of their runs. -/

namespace Klura

/-- A program over a state that may fail, and that keeps the state it reached when it does. -/
abbrev Program (σ ε α : Type) : Type := EStateM ε σ α

namespace Program

variable {σ ε α β : Type}

/-- A run from a state returns into the first condition or fails into the second. -/
def wp (program : Program σ ε α) (returns : α → σ → Prop) (fails : ε → σ → Prop) (state : σ) :
    Prop :=
  match program state with
  | .ok value final => returns value final
  | .error error final => fails error final

variable {returns : α → σ → Prop} {fails : ε → σ → Prop} {state : σ}

@[simp] theorem wp_pure (value : α) :
    wp (pure value : Program σ ε α) returns fails state ↔ returns value state := Iff.rfl

@[simp] theorem wp_throw (error : ε) :
    wp (throw error : Program σ ε α) returns fails state ↔ fails error state := Iff.rfl

@[simp] theorem wp_get {returns : σ → σ → Prop} :
    wp (get : Program σ ε σ) returns fails state ↔ returns state state := Iff.rfl

@[simp] theorem wp_set {returns : PUnit → σ → Prop} (next : σ) :
    wp (set next : Program σ ε PUnit) returns fails state ↔ returns ⟨⟩ next := Iff.rfl

@[simp] theorem wp_modify {returns : PUnit → σ → Prop} (update : σ → σ) :
    wp (modify update : Program σ ε PUnit) returns fails state ↔ returns ⟨⟩ (update state) :=
  Iff.rfl

/-- A sequence runs its second part from where its first part returned. -/
@[simp] theorem wp_bind {returns : β → σ → Prop} (first : Program σ ε α)
    (second : α → Program σ ε β) :
    wp (first >>= second) returns fails state ↔
      wp first (fun value => wp (second value) returns fails) fails state := by
  -- The sequence is decided by how its first part ends.
  show (match EStateM.bind first second state with
    | .ok value final => returns value final | .error error final => fails error final) ↔ _
  unfold wp EStateM.bind
  cases first state <;> rfl

/-- A mapped result is the result of the program it maps. -/
@[simp] theorem wp_map {returns : β → σ → Prop} (convert : α → β) (program : Program σ ε α) :
    wp (convert <$> program) returns fails state ↔
      wp program (fun value => returns (convert value)) fails state := by
  show (match EStateM.map convert program state with
    | .ok value final => returns value final | .error error final => fails error final) ↔ _
  unfold wp EStateM.map
  cases program state <;> rfl

/-- A handler runs from where the failure left the state. -/
@[simp] theorem wp_tryCatch (body : Program σ ε α) (handler : ε → Program σ ε α) :
    wp (tryCatch body handler) returns fails state ↔
      wp body returns (fun error => wp (handler error) returns fails) state := by
  -- No state is restored on the way into the handler.
  show (match EStateM.tryCatch body handler state with
    | .ok value final => returns value final | .error error final => fails error final) ↔ _
  unfold wp EStateM.tryCatch
  cases body state <;> rfl

/-- A finalizer runs after either end, which it keeps unless it fails itself. -/
@[simp] theorem wp_tryFinally (body : Program σ ε α) (finalizer : Program σ ε β) :
    wp (tryFinally body finalizer) returns fails state ↔
      wp body (fun value => wp finalizer (fun _ => returns value) fails)
        (fun error => wp finalizer (fun _ => fails error) fails) state := by
  show wp (Prod.fst <$> tryFinally' body fun _ => finalizer) returns fails state ↔ _
  unfold wp
  simp only [Functor.map, EStateM.map, tryFinally']
  -- The end of the body is known before the finalizer runs.
  cases body state with
  | ok value next => cases ended : finalizer next <;> simp [ended]
  | error error next => cases ended : finalizer next <;> simp [ended]

@[simp] theorem wp_ite (test : Prop) [Decidable test] (first second : Program σ ε α) :
    wp (if test then first else second) returns fails state ↔
      if test then wp first returns fails state else wp second returns fails state := by
  split <;> rfl

variable {program : Program σ ε α}

theorem wp_of_ok {final : σ} {value : α} (ran : program state = .ok value final) :
    wp program returns fails state ↔ returns value final := by
  unfold wp
  rw [ran]

theorem wp_of_error {final : σ} {error : ε} (ran : program state = .error error final) :
    wp program returns fails state ↔ fails error final := by
  unfold wp
  rw [ran]

variable {returns' : α → σ → Prop} {fails' : ε → σ → Prop}

/-- Weaker end conditions hold whenever stronger ones do. -/
theorem wp_mono (run : wp program returns fails state)
    (onReturn : ∀ value final, returns value final → returns' value final)
    (onFailure : ∀ error final, fails error final → fails' error final) :
    wp program returns' fails' state := by
  unfold wp at run ⊢
  cases ended : program state with
  | ok value final => rw [ended] at run; exact onReturn value final run
  | error error final => rw [ended] at run; exact onFailure error final run

/-- Two facts about the ends of one run hold of them together. -/
theorem wp_and (left : wp program returns fails state) (right : wp program returns' fails' state) :
    wp program (fun value final => returns value final ∧ returns' value final)
      (fun error final => fails error final ∧ fails' error final) state := by
  unfold wp at left right ⊢
  cases ended : program state with
  | ok value final => rw [ended] at left right; exact ⟨left, right⟩
  | error error final => rw [ended] at left right; exact ⟨left, right⟩

/-- What is known of the end of a run is known of the run itself. -/
theorem wp_ran (run : wp program returns fails state) :
    wp program (fun value final => returns value final ∧ program state = .ok value final)
      (fun error final => fails error final ∧ program state = .error error final) state := by
  unfold wp at run ⊢
  cases ended : program state with
  | ok value final => rw [ended] at run; exact ⟨run, rfl⟩
  | error error final => rw [ended] at run; exact ⟨run, rfl⟩

/-- Every run of the program ends in a state related to the one it started in. -/
def Moves (relation : σ → σ → Prop) (program : Program σ ε α) : Prop :=
  ∀ state, wp program (fun _ => relation state) (fun _ => relation state) state

variable {relation : σ → σ → Prop}

theorem Moves.after [IsTrans σ relation] (moves : Moves relation program) {start : σ}
    (reached : relation start state) :
    wp program (fun _ => relation start) (fun _ => relation start) state :=
  wp_mono (moves state) (fun _ _ step => IsTrans.trans _ _ _ reached step)
    (fun _ _ step => IsTrans.trans _ _ _ reached step)

theorem Moves.pure [Std.Refl relation] (value : α) :
    Moves relation (pure value : Program σ ε α) := fun state => refl_of relation state

theorem Moves.throw [Std.Refl relation] (error : ε) :
    Moves relation (throw error : Program σ ε α) := fun state => refl_of relation state

theorem Moves.modify {update : σ → σ} (step : ∀ state, relation state (update state)) :
    Moves relation (modify update : Program σ ε PUnit) := step

variable {first : Program σ ε α}

/-- A sequence moves inside a transitive relation when both parts do. -/
theorem Moves.bind [IsTrans σ relation] {second : α → Program σ ε β} (head : Moves relation first)
    (tail : ∀ value, Moves relation (second value)) :
    Moves relation (first >>= second) := by
  intro state
  rw [wp_bind]
  exact wp_mono (head state) (fun value _ reached => (tail value).after reached)
    (fun _ _ reached => reached)

/-- A program that first reads the state moves as its continuation does from that state. -/
theorem Moves.read {continuation : σ → Program σ ε α}
    (tail : ∀ state, wp (continuation state) (fun _ => relation state)
      (fun _ => relation state) state) :
    Moves relation (get >>= continuation) := by
  intro state
  rw [wp_bind, wp_get]
  exact tail state

/-- A handled program moves inside a transitive relation when its body and handler do. -/
theorem Moves.tryCatch [IsTrans σ relation] {body : Program σ ε α}
    {handler : ε → Program σ ε α} (inside : Moves relation body)
    (handled : ∀ error, Moves relation (handler error)) :
    Moves relation (tryCatch body handler) := by
  intro state
  rw [wp_tryCatch]
  exact wp_mono (inside state) (fun _ _ reached => reached)
    (fun error _ reached => (handled error).after reached)

theorem Moves.ite {test : Prop} [Decidable test] {second : Program σ ε α}
    (left : Moves relation first) (right : Moves relation second) :
    Moves relation (if test then first else second) := by
  split
  · exact left
  · exact right

end Program

end Klura
