import Mathlib.Logic.Basic
import Mathlib.Tactic.TypeStar

/-! Programs as trees of the operations they perform, and contracts on the runs of such trees. -/

namespace Klura

/-- The operations that programs may perform, with the answers that each of them has. -/
structure Interface where
  Op : Type
  Answer : Op → Type

/-- A program: it returns, fails, or performs an operation and goes on with its answer. -/
inductive Interaction (I : Interface) (ε α : Type) where
  | returns (value : α)
  | fails (error : ε)
  | performs (op : I.Op) (next : I.Answer op → Interaction I ε α)

namespace Interaction

variable {I : Interface} {ε α β γ σ : Type}

/-- A program that performs one operation and returns its answer. -/
def perform (op : I.Op) : Interaction I ε (I.Answer op) := .performs op .returns

/-- A sequence: the second program goes on with what the first returns. -/
def andThen (second : α → Interaction I ε β) : Interaction I ε α → Interaction I ε β
  | .returns value => second value
  | .fails error => .fails error
  | .performs op next => .performs op fun answer => (next answer).andThen second

/-- A program whose failures are handled. -/
def handling (handler : ε → Interaction I ε α) : Interaction I ε α → Interaction I ε α
  | .returns value => .returns value
  | .fails error => handler error
  | .performs op next => .performs op fun answer => (next answer).handling handler

/-- A program with another one run after either of its ends. -/
def finishing (finalizer : Option α → Interaction I ε β) :
    Interaction I ε α → Interaction I ε (α × β)
  | .returns value => (finalizer (some value)).andThen fun last => .returns (value, last)
  | .fails error => (finalizer none).andThen fun _ => .fails error
  | .performs op next => .performs op fun answer => (next answer).finishing finalizer

instance : Monad (Interaction I ε) where
  pure := .returns
  bind first second := first.andThen second

instance : MonadExceptOf ε (Interaction I ε) where
  throw := .fails
  tryCatch body handler := body.handling handler

instance : MonadFinally (Interaction I ε) where
  tryFinally' body finalizer := body.finishing finalizer

/-- A result that is returned, or its error thrown. -/
def ofExcept : Except ε α → Interaction I ε α
  | .ok value => .returns value
  | .error error => .fails error

/-- A program that is run only where a test holds. -/
def whenever (test : Prop) [Decidable test] (program : Interaction I ε Unit) :
    Interaction I ε Unit :=
  if test then program else .returns ()

/-- A program that is run only where a test holds, with a value for where it does not. -/
def orElse (test : Prop) [Decidable test] (program : Interaction I ε α) (otherwise : α) :
    Interaction I ε α :=
  if test then program else .returns otherwise

/-- An operation with the answer it had. -/
structure Event (I : Interface) where
  op : I.Op
  answer : I.Answer op

/-- A run: what it performed, how it ended, and the world it left. -/
structure Ran (I : Interface) (ε α σ : Type) where
  events : List (Event I)
  outcome : Except ε α
  world : σ

/-- The run of a program in a world that answers its operations. -/
def run (handle : σ → (op : I.Op) → I.Answer op × σ) : Interaction I ε α → σ → Ran I ε α σ
  | .returns value, world => { events := [], outcome := .ok value, world }
  | .fails error, world => { events := [], outcome := .error error, world }
  | .performs op next, world =>
    let handled := handle world op
    let rest := (next handled.1).run handle handled.2
    { rest with events := { op, answer := handled.1 } :: rest.events }

end Interaction

/-- A contract on runs: what is relied on of the answers, and what is guaranteed of the operations,
where a ghost follows the run. -/
structure Contract (I : Interface) (γ : Type) where
  rely : γ → (op : I.Op) → I.Answer op → Prop
  guard : γ → I.Op → Prop
  after : γ → (op : I.Op) → I.Answer op → γ

namespace Contract

open Interaction

variable {I : Interface} {γ : Type} (contract : Contract I γ)

/-- Every answer of a run is one that the contract relies on. -/
def Relied : γ → List (Event I) → Prop
  | _, [] => True
  | ghost, event :: rest =>
    contract.rely ghost event.op event.answer ∧
      Relied (contract.after ghost event.op event.answer) rest

/-- Every operation of a run is one that the contract allows. -/
def Guarded : γ → List (Event I) → Prop
  | _, [] => True
  | ghost, event :: rest =>
    contract.guard ghost event.op ∧ Guarded (contract.after ghost event.op event.answer) rest

/-- The ghost behind a run. -/
def ghostAfter : γ → List (Event I) → γ
  | ghost, [] => ghost
  | ghost, event :: rest => ghostAfter (contract.after ghost event.op event.answer) rest

end Contract

namespace Interaction

variable {I : Interface} {ε α β γ σ : Type} {contract : Contract I γ}

/-- On every path with answers that the contract relies on, the program keeps to it and ends in one
of the two conditions. -/
def Keeps (contract : Contract I γ) :
    Interaction I ε α → (α → γ → Prop) → (ε → γ → Prop) → γ → Prop
  | .returns value, onReturn, _, ghost => onReturn value ghost
  | .fails error, _, onFailure, ghost => onFailure error ghost
  | .performs op next, onReturn, onFailure, ghost =>
    contract.guard ghost op ∧ ∀ answer, contract.rely ghost op answer →
      (next answer).Keeps contract onReturn onFailure (contract.after ghost op answer)

attribute [local simp] andThen handling finishing Keeps Interaction.run

variable {onReturn : α → γ → Prop} {onFailure : ε → γ → Prop} {ghost : γ}

@[simp] theorem keeps_pure (value : α) :
    (pure value : Interaction I ε α).Keeps contract onReturn onFailure ghost ↔
      onReturn value ghost := Iff.rfl

@[simp] theorem keeps_throw (error : ε) :
    (throw error : Interaction I ε α).Keeps contract onReturn onFailure ghost ↔
      onFailure error ghost := Iff.rfl

theorem keeps_ofExcept (result : Except ε α) :
    (ofExcept result : Interaction I ε α).Keeps contract onReturn onFailure ghost ↔
      match result with
      | .ok value => onReturn value ghost
      | .error error => onFailure error ghost := by
  cases result <;> rfl

@[simp] theorem keeps_perform {op : I.Op} {onReturn : I.Answer op → γ → Prop} :
    (perform op : Interaction I ε (I.Answer op)).Keeps contract onReturn onFailure ghost ↔
      contract.guard ghost op ∧ ∀ answer, contract.rely ghost op answer →
        onReturn answer (contract.after ghost op answer) := Iff.rfl

/-- A sequence keeps the contract through both of its parts. -/
@[simp] theorem keeps_bind {onReturn : β → γ → Prop} (first : Interaction I ε α)
    (second : α → Interaction I ε β) :
    (first >>= second).Keeps contract onReturn onFailure ghost ↔
      first.Keeps contract (fun value => (second value).Keeps contract onReturn onFailure)
        onFailure ghost := by
  show (first.andThen second).Keeps contract onReturn onFailure ghost ↔ _
  -- The induction follows the tree of the first part.
  induction first generalizing ghost with
  | returns value => rfl
  | fails error => rfl
  | performs op next ih => simp only [andThen, Keeps, ih]

@[simp] theorem keeps_map {onReturn : β → γ → Prop} (convert : α → β)
    (program : Interaction I ε α) :
    (convert <$> program).Keeps contract onReturn onFailure ghost ↔
      program.Keeps contract (fun value => onReturn (convert value)) onFailure ghost :=
  keeps_bind program fun value => pure (convert value)

/-- A handler goes on from where the failure happened. -/
@[simp] theorem keeps_tryCatch (body : Interaction I ε α) (handler : ε → Interaction I ε α) :
    (tryCatch body handler).Keeps contract onReturn onFailure ghost ↔
      body.Keeps contract onReturn
        (fun error => (handler error).Keeps contract onReturn onFailure) ghost := by
  show (body.handling handler).Keeps contract onReturn onFailure ghost ↔ _
  induction body generalizing ghost with
  | returns value => rfl
  | fails error => rfl
  | performs op next ih => simp only [handling, Keeps, ih]

/-- A finalizer runs after either end, which it keeps unless it fails itself. -/
@[simp] theorem keeps_tryFinally (body : Interaction I ε α) (finalizer : Interaction I ε β) :
    (tryFinally body finalizer).Keeps contract onReturn onFailure ghost ↔
      body.Keeps contract
        (fun value => finalizer.Keeps contract (fun _ => onReturn value) onFailure)
        (fun error => finalizer.Keeps contract (fun _ => onFailure error) onFailure) ghost := by
  show (Prod.fst <$> body.finishing fun _ => finalizer).Keeps contract onReturn onFailure ghost ↔ _
  rw [keeps_map]
  induction body generalizing ghost with
  | returns value => exact keeps_bind finalizer fun last => pure (value, last)
  | fails error => exact keeps_bind finalizer fun _ => throw error
  | performs op next ih => simp only [finishing, Keeps, ih]

variable {program : Interaction I ε α}

/-- Weaker end conditions hold whenever stronger ones do. -/
theorem Keeps.mono {onReturn' : α → γ → Prop} {onFailure' : ε → γ → Prop}
    (kept : program.Keeps contract onReturn onFailure ghost)
    (returned : ∀ value ghost, onReturn value ghost → onReturn' value ghost)
    (failed : ∀ error ghost, onFailure error ghost → onFailure' error ghost) :
    program.Keeps contract onReturn' onFailure' ghost := by
  induction program generalizing ghost with
  | returns value => exact returned value ghost kept
  | fails error => exact failed error ghost kept
  | performs op next ih =>
    exact ⟨kept.1, fun answer relied => ih answer (kept.2 answer relied)⟩

/-- A program that keeps a contract guarantees what the contract does in each of its runs whose
answers are relied on. -/
theorem Keeps.run {program : Interaction I ε α}
    (kept : program.Keeps contract onReturn onFailure ghost)
    (handle : σ → (op : I.Op) → I.Answer op × σ) (world : σ)
    (relied : contract.Relied ghost (program.run handle world).events) :
    contract.Guarded ghost (program.run handle world).events ∧
      match (program.run handle world).outcome with
      | .ok value => onReturn value (contract.ghostAfter ghost (program.run handle world).events)
      | .error error =>
        onFailure error (contract.ghostAfter ghost (program.run handle world).events) := by
  -- The ghost moves on with each event of the run, and so does the tree.
  induction program generalizing ghost world with
  | returns value => exact ⟨trivial, kept⟩
  | fails error => exact ⟨trivial, kept⟩
  | performs op next ih =>
    have rest := ih _ (kept.2 _ relied.1) (handle world op).2 relied.2
    exact ⟨⟨kept.1, rest.1⟩, rest.2⟩

/-- Where the allowed operations are answered alike in related worlds and keep them related, a
program that keeps the contract runs alike in them. -/
theorem Keeps.agrees (kept : program.Keeps contract onReturn onFailure ghost)
    (handle : σ → (op : I.Op) → I.Answer op × σ) {related : σ → σ → Prop}
    (alike : ∀ ghost op left right, contract.guard ghost op → related left right → (handle left op).1 = (handle right op).1 ∧ related (handle left op).2 (handle right op).2)
    {left right : σ} (start : related left right)
    (relied : contract.Relied ghost (program.run handle left).events) :
    (program.run handle right).events = (program.run handle left).events ∧
      (program.run handle right).outcome = (program.run handle left).outcome ∧
      related (program.run handle left).world (program.run handle right).world := by
  induction program generalizing ghost left right with
  | returns value => exact ⟨rfl, rfl, start⟩
  | fails error => exact ⟨rfl, rfl, start⟩
  | performs op next ih =>
    obtain ⟨same, next_related⟩ := alike ghost op left right kept.1 start
    have rest := ih _ (kept.2 _ relied.1) next_related relied.2
    simp only [Interaction.run]
    rw [← same]
    exact ⟨by rw [rest.1], rest.2.1, rest.2.2⟩

/-- What the allowed operations leave of the world is left by every run of a program that keeps the
contract. -/
theorem Keeps.frame (kept : program.Keeps contract onReturn onFailure ghost)
    (handle : σ → (op : I.Op) → I.Answer op × σ) {leaves : σ → Prop}
    (each : ∀ ghost op world, contract.guard ghost op → leaves world → leaves (handle world op).2)
    {world : σ} (start : leaves world)
    (relied : contract.Relied ghost (program.run handle world).events) :
    leaves (program.run handle world).world := by
  induction program generalizing ghost world with
  | returns value => exact start
  | fails error => exact start
  | performs op next ih => exact ih _ (kept.2 _ relied.1) (each ghost op world kept.1 start) relied.2

end Interaction

/-- A run whose operations are all answered as a contract relies on is relied on. -/
theorem Interaction.relied_of_answers {I : Interface} {ε α γ σ : Type} {contract : Contract I γ}
    {handle : σ → (op : I.Op) → I.Answer op × σ}
    (answers : ∀ ghost world op, contract.rely ghost op (handle world op).1)
    (program : Interaction I ε α) (ghost : γ) (world : σ) :
    contract.Relied ghost (program.run handle world).events := by
  induction program generalizing ghost world with
  | returns value => trivial
  | fails error => trivial
  | performs op next ih => exact ⟨answers ghost world op, ih _ _ _⟩

/-- Whether a run is guarded is decided operation by operation. -/
instance Contract.decidableGuarded {I : Interface} {γ : Type} (contract : Contract I γ)
    [∀ ghost op, Decidable (contract.guard ghost op)] :
    ∀ (ghost : γ) (events : List (Interaction.Event I)), Decidable (contract.Guarded ghost events)
  | _, [] => .isTrue trivial
  | ghost, event :: rest =>
    have := decidableGuarded contract (contract.after ghost event.op event.answer) rest
    inferInstanceAs (Decidable (contract.guard ghost event.op ∧
      contract.Guarded (contract.after ghost event.op event.answer) rest))

/-- Every operation of a guarded run is allowed somewhere. -/
theorem Contract.Guarded.of_mem {I : Interface} {γ : Type} {contract : Contract I γ} {ghost : γ}
    {events : List (Interaction.Event I)} (guarded : contract.Guarded ghost events)
    {event : Interaction.Event I}
    (member : event ∈ events) : ∃ ghost, contract.guard ghost event.op := by
  induction events generalizing ghost with
  | nil => nomatch member
  | cons first rest ih =>
    rcases List.mem_cons.mp member with rfl | later
    · exact ⟨ghost, guarded.1⟩
    · exact ih guarded.2 later

/-- The contract allows an operation where the ghost stands, and no answer moves the ghost. -/
def Contract.Allows {I : Interface} {γ : Type} (contract : Contract I γ) (ghost : γ) (op : I.Op) :
    Prop :=
  contract.guard ghost op ∧
    ∀ answer, contract.rely ghost op answer → contract.after ghost op answer = ghost

namespace Interaction

variable {I : Interface} {ε α β γ : Type} {contract : Contract I γ} {ghost : γ}

/-- A program keeps the contract, leaves the ghost where it stands, and fails with certain errors
only. -/
def Stays (contract : Contract I γ) (ghost : γ) (errors : ε → Prop) (program : Interaction I ε α) :
    Prop :=
  program.Keeps contract (fun _ after => after = ghost)
    (fun error after => after = ghost ∧ errors error) ghost

variable {errors : ε → Prop}

theorem Stays.pure (value : α) :
    Stays contract ghost errors (pure value : Interaction I ε α) := rfl

theorem Stays.throw {error : ε} (expected : errors error) :
    Stays contract ghost errors (throw error : Interaction I ε α) := ⟨rfl, expected⟩

theorem Stays.ofExcept {result : Except ε α}
    (expected : ∀ error, result = .error error → errors error) :
    Stays contract ghost errors (ofExcept result : Interaction I ε α) := by
  cases result with
  | ok value => rfl
  | error error => exact ⟨rfl, expected error rfl⟩

theorem Stays.perform {op : I.Op} (allowed : contract.Allows ghost op) :
    Stays contract ghost errors (perform op : Interaction I ε (I.Answer op)) := allowed

/-- What a program that stays is followed by starts where it started. -/
theorem Stays.keeps {program : Interaction I ε α} {onReturn : α → γ → Prop}
    {onFailure : ε → γ → Prop} (stays : Stays contract ghost errors program)
    (returned : ∀ value, onReturn value ghost)
    (failed : ∀ error, errors error → onFailure error ghost) :
    program.Keeps contract onReturn onFailure ghost :=
  stays.mono (fun value _ same => same ▸ returned value)
    (fun error _ same => same.1 ▸ failed error same.2)

theorem Stays.weaken {program : Interaction I ε α} {expected : ε → Prop}
    (stays : Stays contract ghost errors program) (more : ∀ error, errors error → expected error) :
    Stays contract ghost expected program :=
  stays.keeps (fun _ => rfl) fun error found => ⟨rfl, more error found⟩

variable {first : Interaction I ε α} {second : α → Interaction I ε β}

theorem Stays.bind (head : Stays contract ghost errors first)
    (tail : ∀ value, Stays contract ghost errors (second value)) :
    Stays contract ghost errors (first >>= second) := by
  unfold Stays
  rw [keeps_bind]
  exact head.keeps tail fun error expected => ⟨rfl, expected⟩

/-- What follows an operation need only stay behind the answers that are relied on. -/
theorem Stays.performing {op : I.Op} {second : I.Answer op → Interaction I ε β}
    (allowed : contract.Allows ghost op)
    (tail : ∀ answer, contract.rely ghost op answer →
      Stays contract ghost errors (second answer)) :
    Stays contract ghost errors (Interaction.perform op >>= second) := by
  unfold Stays
  rw [keeps_bind, keeps_perform]
  refine ⟨allowed.1, fun answer relied => ?_⟩
  rw [allowed.2 answer relied]
  exact tail answer relied

/-- A handled program stays when its body and its handler do. -/
theorem Stays.tryCatch {body : Interaction I ε α} {handler : ε → Interaction I ε α}
    {caught : ε → Prop} (inside : Stays contract ghost caught body)
    (handled : ∀ error, caught error → Stays contract ghost errors (handler error)) :
    Stays contract ghost errors (tryCatch body handler) := by
  unfold Stays
  rw [keeps_tryCatch]
  exact inside.keeps (fun _ => rfl) handled

/-- A program with a finalizer stays when both do. -/
theorem Stays.tryFinally {body : Interaction I ε α} {finalizer : Interaction I ε β}
    (inside : Stays contract ghost errors body) (last : Stays contract ghost errors finalizer) :
    Stays contract ghost errors (tryFinally body finalizer) := by
  unfold Stays
  rw [keeps_tryFinally]
  refine inside.keeps (fun _ => last) fun error expected => ?_
  exact last.keeps (fun _ => ⟨rfl, expected⟩) fun later found => ⟨rfl, found⟩

/-- A branch stays when the side that its test selects does. -/
theorem Stays.ite {test : Prop} [Decidable test] {second : Interaction I ε α}
    (left : test → Stays contract ghost errors first)
    (right : ¬test → Stays contract ghost errors second) :
    Stays contract ghost errors (if test then first else second) := by
  split
  · next holds => exact left holds
  · next fails => exact right fails

theorem Stays.whenever {test : Prop} [Decidable test] {program : Interaction I ε Unit}
    (inside : test → Stays contract ghost errors program) :
    Stays contract ghost errors (whenever test program) :=
  .ite inside fun _ => .pure ()

theorem Stays.orElse {test : Prop} [Decidable test] {program : Interaction I ε α} {otherwise : α}
    (inside : test → Stays contract ghost errors program) :
    Stays contract ghost errors (orElse test program otherwise) :=
  .ite inside fun _ => .pure otherwise

theorem Stays.pureBind {value : α} (tail : Stays contract ghost errors (second value)) :
    Stays contract ghost errors ((Pure.pure value : Interaction I ε α) >>= second) := tail

end Interaction

end Klura
