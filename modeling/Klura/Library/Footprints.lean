import Klura.Library.Interaction

/-! Operations that read and write a store only under keys of their own, and the runs that they make
up. -/

namespace Klura

open Interaction

variable {I : Interface} {Key Value : Type}

/-- How operations are answered: by what happened before in the run and the values that an operation
reads, with new values for what it writes. -/
abbrev Behaviour (I : Interface) (Key Value : Type) : Type :=
  List (Event I) → (op : I.Op) → (Key → Option Value) → I.Answer op × (Key → Value)

/-- What a run has come to: what happened in it, and the store. -/
structure Footprint (I : Interface) (Key Value : Type) where
  events : List (Event I)
  store : Key → Value

section

variable [DecidableEq Key] (reads writes : I.Op → List Key) (behaviour : Behaviour I Key Value)

/-- The values that an operation reads; nothing of the others is seen. -/
def seenBy (op : I.Op) (store : Key → Value) (key : Key) : Option Value :=
  if key ∈ reads op then some (store key) else none

/-- An operation is answered, and the values that it writes are replaced. -/
def answerWithin (before : Footprint I Key Value) (op : I.Op) :
    I.Answer op × Footprint I Key Value :=
  let answered := behaviour before.events op (seenBy reads op before.store)
  (answered.1, {
    events := before.events ++ [{ op, answer := answered.1 }]
    store := fun key => if key ∈ writes op then answered.2 key else before.store key })

/-- Two runs that went alike, with stores that agree on shared keys. -/
def Footprint.Agrees (shared : Key → Prop) (left right : Footprint I Key Value) : Prop :=
  left.events = right.events ∧ ∀ key, shared key → left.store key = right.store key

variable {shared : Key → Prop}

/-- An operation that reads shared keys only is answered alike where the stores agree on these, and
leaves the stores so. -/
theorem answerWithin_agrees {op : I.Op} (within : ∀ key ∈ reads op, shared key)
    {left right : Footprint I Key Value} (agrees : left.Agrees shared right) :
    (answerWithin reads writes behaviour left op).1 =
        (answerWithin reads writes behaviour right op).1 ∧
      (answerWithin reads writes behaviour left op).2.Agrees shared
        (answerWithin reads writes behaviour right op).2 := by
  obtain ⟨events, stores⟩ := agrees
  have seen : seenBy reads op left.store = seenBy reads op right.store := by
    funext key
    unfold seenBy
    split
    · next touched => rw [stores key (within key touched)]
    · rfl
  unfold answerWithin Footprint.Agrees
  rw [seen, events]
  refine ⟨rfl, rfl, fun key member => ?_⟩
  dsimp only
  split
  · rfl
  · exact stores key member

theorem answerWithin_leaves {op : I.Op} {key : Key} (untouched : key ∉ writes op)
    (before : Footprint I Key Value) :
    (answerWithin reads writes behaviour before op).2.store key = before.store key :=
  if_neg untouched

variable {ε α γ : Type} {contract : Contract I γ} {program : Interaction I ε α}
  {onReturn : α → γ → Prop} {onFailure : ε → γ → Prop} {ghost : γ}

/-- A run of a program on a store. -/
def runOn (program : Interaction I ε α) (store : Key → Value) :
    Ran I ε α (Footprint I Key Value) :=
  program.run (answerWithin reads writes behaviour) { events := [], store }

/-- A program whose operations read shared keys only runs alike on stores that agree on these, and
leaves them so. -/
theorem runOn_agrees (kept : program.Keeps contract onReturn onFailure ghost)
    (within : ∀ ghost op, contract.guard ghost op → ∀ key ∈ reads op, shared key)
    {left right : Key → Value} (agree : ∀ key, shared key → left key = right key)
    (relied : contract.Relied ghost (runOn reads writes behaviour program left).events) :
    (runOn reads writes behaviour program right).events =
        (runOn reads writes behaviour program left).events ∧
      (runOn reads writes behaviour program right).outcome =
        (runOn reads writes behaviour program left).outcome ∧
      ∀ key, shared key → (runOn reads writes behaviour program left).world.store key =
        (runOn reads writes behaviour program right).world.store key := by
  have start : Footprint.Agrees (I := I) shared ⟨[], left⟩ ⟨[], right⟩ := ⟨rfl, agree⟩
  have alike := kept.agrees (answerWithin reads writes behaviour)
    (fun ghost op left right allowed related =>
      answerWithin_agrees reads writes behaviour (within ghost op allowed) related) start relied
  exact ⟨alike.1, alike.2.1, alike.2.2.2⟩

/-- A program leaves what none of its operations writes. -/
theorem runOn_leaves {key : Key} (kept : program.Keeps contract onReturn onFailure ghost)
    (outside : ∀ ghost op, contract.guard ghost op → key ∉ writes op) {store : Key → Value}
    (relied : contract.Relied ghost (runOn reads writes behaviour program store).events) :
    (runOn reads writes behaviour program store).world.store key = store key := by
  have each (ghost : γ) (op : I.Op) (world : Footprint I Key Value)
      (allowed : contract.guard ghost op) (left : world.store key = store key) :
      (answerWithin reads writes behaviour world op).2.store key = store key := by
    rw [answerWithin_leaves reads writes behaviour (outside ghost op allowed) world]
    exact left
  exact kept.frame (answerWithin reads writes behaviour) each rfl relied

end

end Klura
