/-! What is known of a value that a sequence of checks let pass. -/

namespace Klura

variable {ε α β : Type}

/-- A check that passes does so with a value that has the property. -/
def Passes (check : Except ε α) (property : α → Prop) : Prop :=
  ∀ value, check = .ok value → property value

namespace Passes

variable {property : α → Prop}

theorem ok {value : α} (holds : property value) :
    Passes (.ok value : Except ε α) property := by
  rintro _ ⟨⟩
  exact holds

theorem error (failure : ε) :
    Passes (.error failure : Except ε α) property := nofun

/-- A sequence of checks passes with what its last one passes with. -/
theorem bind {property : β → Prop} (middle : α → Prop) {first : Except ε α}
    {second : α → Except ε β} (head : Passes first middle)
    (tail : ∀ value, middle value → Passes (second value) property) :
    Passes (first >>= second) property := by
  intro value passes
  cases ran : first with
  | error failure => rw [ran] at passes; cases passes
  | ok between => rw [ran] at passes; exact tail between (head between ran) value passes

theorem next {property : β → Prop} {first : Except ε α} {second : α → Except ε β}
    (tail : ∀ value, first = .ok value → Passes (second value) property) :
    Passes (first >>= second) property :=
  bind (fun value => first = .ok value) (fun _ passes => passes) tail

/-- A branch passes with what the side its test selects passes with. -/
theorem ite {test : Prop} [Decidable test] {left right : Except ε α}
    (onTrue : test → Passes left property) (onFalse : ¬test → Passes right property) :
    Passes (if test then left else right) property := by
  by_cases selected : test
  · rw [if_pos selected]
    exact onTrue selected
  · rw [if_neg selected]
    exact onFalse selected

theorem mono {weaker : α → Prop} {check : Except ε α} (passes : Passes check property)
    (implies : ∀ value, property value → weaker value) : Passes check weaker :=
  fun value ran => implies value (passes value ran)

theorem mapError {ε' : Type} {check : Except ε α} (convert : ε → ε')
    (passes : Passes check property) : Passes (check.mapError convert) property := by
  intro value ran
  cases inner : check with
  | error failure => rw [inner] at ran; cases ran
  | ok between => rw [inner] at ran; cases ran; exact passes value inner

end Passes

/-- A sequence of checks passes exactly when each of its checks passes. -/
theorem bind_ok {first : Except ε α} {second : α → Except ε β} {value : β} :
    (first >>= second) = .ok value ↔
      ∃ between, first = .ok between ∧ second between = .ok value := by
  cases first with
  | error failure =>
    constructor
    · nofun
    · nofun
  | ok between =>
    constructor
    · exact fun passes => ⟨between, rfl, passes⟩
    · rintro ⟨_, ⟨⟩, passes⟩
      exact passes

theorem ok_bind (value : α) (second : α → Except ε β) :
    (Except.ok value >>= second) = second value := rfl

theorem mapError_error {ε' : Type} (convert : ε → ε') (failure : ε) :
    (Except.error failure : Except ε α).mapError convert = .error (convert failure) := rfl

theorem ok_mapError {ε' : Type} (convert : ε → ε') (value : α) :
    (Except.ok value : Except ε α).mapError convert = .ok value := rfl

variable {check : Except ε α}

/-- A check under another error class passes exactly when the check does. -/
theorem mapError_ok {ε' : Type} {convert : ε → ε'} {value : α} :
    check.mapError convert = .ok value ↔ check = .ok value := by
  cases check with
  | error failure =>
    constructor
    · nofun
    · nofun
  | ok between => rw [ok_mapError, Except.ok.injEq, Except.ok.injEq]

theorem map_ok {convert : α → β} {value : β} :
    check.map convert = .ok value ↔ ∃ between, check = .ok between ∧ convert between = value := by
  cases check with
  | error failure => simp [Except.map]
  | ok between => simp [Except.map]

/-- Whether a check passes with a value that a test accepts. -/
def passesTest (check : Except ε α) (test : α → Bool) : Bool :=
  match check with
  | .ok value => test value
  | .error _ => false

theorem passesTest_spec {test : α → Bool} (passes : passesTest check test = true) :
    ∃ value, check = .ok value ∧ test value = true := by
  cases ran : check with
  | error failure => rw [ran] at passes; cases passes
  | ok value => rw [ran] at passes; exact ⟨value, rfl, passes⟩

theorem passesTest_accepts {test : α → Bool} (passes : passesTest check test = true) :
    Passes check fun value => test value = true := by
  intro value ran
  rw [ran] at passes
  exact passes

/-- Whether a check fails with this error. -/
def failsWith [DecidableEq ε] (check : Except ε α) (failure : ε) : Bool :=
  match check with
  | .ok _ => false
  | .error raised => decide (raised = failure)

theorem failsWith_spec [DecidableEq ε] {failure : ε} (fails : failsWith check failure = true) :
    check = .error failure := by
  cases ran : check with
  | ok value => rw [ran] at fails; cases fails
  | error raised => rw [ran] at fails; rw [of_decide_eq_true fails]

end Klura
