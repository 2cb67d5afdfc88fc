import Klura.Library.Machine
import Klura.Run.AttemptOrder

/-! Whatever is asked of the order of a batch, it grants the turns one at a time and in order. -/

namespace Klura

/-- What is asked of the order of a batch. -/
inductive TurnEventV1 where
  | allocate
  | wait (ordinal : Nat)
  | release (ordinal : Nat)
  | abort (reason : RunError)

/-- An order, the ordinals that have asked for their turn, and those whose turn has been released. -/
structure TurnRunV1 where
  order : AttemptOrderV1
  asked : List Nat
  released : List Nat

namespace TurnRunV1

/-- Whether an ordinal has been granted its turn. -/
def Granted (run : TurnRunV1) (ordinal : Nat) : Prop :=
  (ordinal, TurnSettlement.resolved) ∈ run.order.settled

/-- Whether an ordinal has a turn that it has yet to release. -/
def Holds (run : TurnRunV1) (ordinal : Nat) : Prop :=
  run.Granted ordinal ∧ ordinal ∉ run.released

/-- What an event makes of an order; a call that throws changes nothing. -/
def step (run : TurnRunV1) : TurnEventV1 → TurnRunV1
  | .allocate => { run with order := run.order.allocate }
  | .wait ordinal =>
    match run.order.waitForTurn ordinal with
    | .ok order => { run with order, asked := ordinal :: run.asked }
    | .error _ => run
  | .release ordinal =>
    match run.order.releaseTurn ordinal with
    | .ok order => { run with order, released := ordinal :: run.released }
    | .error _ => run
  | .abort reason => { run with order := run.order.abort reason }

/-- An ordinal waits at most once, and only its holder releases it. -/
def Disciplined (run : TurnRunV1) : TurnEventV1 → Prop
  | .wait ordinal => ordinal ∉ run.asked
  | .release ordinal => run.Holds ordinal
  | .allocate | .abort _ => True

end TurnRunV1

open TurnRunV1

/-- The machine of an order, from its creation. -/
def turnMachine : Machine TurnRunV1 TurnEventV1 where
  starts run := run = ⟨.initial, [], []⟩
  step before event after := after = before.step event

/-- What counters, waiters and settlements have to do with one another. -/
structure TurnsHold (run : TurnRunV1) : Prop where
  released : ∀ ordinal, ordinal ∈ run.released ↔ ordinal < run.order.nextCommit
  held : ∀ ordinal < run.order.nextCommit, run.Granted ordinal
  granted : ∀ ordinal, run.Granted ordinal → ordinal ≤ run.order.nextCommit
  allocated : ∀ ordinal, run.Granted ordinal → ordinal < run.order.nextAllocated
  asked : ∀ ordinal, ordinal ∈ run.asked ↔
    ordinal ∈ run.order.waiters ∨ ordinal ∈ run.order.settled.map Prod.fst
  distinct : (run.order.waiters ++ run.order.settled.map Prod.fst).Nodup
  waiting : ∀ ordinal ∈ run.order.waiters,
    run.order.nextCommit < ordinal ∧ ordinal < run.order.nextAllocated
  aborted : run.order.abortReason ≠ none → run.order.waiters = []
  rejected : ∀ ordinal reason, (ordinal, TurnSettlement.rejected reason) ∈ run.order.settled →
    run.order.abortReason = some reason

theorem turnsHold_initial : TurnsHold ⟨.initial, [], []⟩ := by
  constructor <;> simp [AttemptOrderV1.initial, Granted]

namespace TurnsHold

variable {run : TurnRunV1} {ordinal : Nat}

theorem asked_of_granted (hold : TurnsHold run) (granted : run.Granted ordinal) :
    ordinal ∈ run.asked :=
  (hold.asked ordinal).mpr (.inr (List.mem_map_of_mem granted))

theorem holder (hold : TurnsHold run) (holds : run.Holds ordinal) :
    ordinal = run.order.nextCommit := by
  have reached := hold.granted ordinal holds.1
  have unreleased := mt (hold.released ordinal).mpr holds.2
  omega

theorem fresh (hold : TurnsHold run) (first : ordinal ∉ run.asked) :
    ordinal ∉ run.order.waiters ∧ ordinal ∉ run.order.settled.map Prod.fst :=
  not_or.mp (mt (hold.asked ordinal).mpr first)

/-- An ordinal that asks may be settled at once: granted in its turn, or rejected by an abort. -/
theorem settle (hold : TurnsHold run) (first : ordinal ∉ run.asked) {settlement : TurnSettlement}
    (resolves : settlement = .resolved →
      ordinal = run.order.nextCommit ∧ ordinal < run.order.nextAllocated)
    (rejects : ∀ reason, settlement = .rejected reason → run.order.abortReason = some reason) :
    TurnsHold { run with
      order := { run.order with settled := (ordinal, settlement) :: run.order.settled }
      asked := ordinal :: run.asked } where
  released := hold.released
  held earlier passed := List.mem_cons_of_mem _ (hold.held earlier passed)
  granted other granted := by
    rcases List.mem_cons.mp granted with same | old
    · cases same
      exact Nat.le_of_eq (resolves rfl).1
    · exact hold.granted other old
  allocated other granted := by
    rcases List.mem_cons.mp granted with same | old
    · cases same
      exact (resolves rfl).2
    · exact hold.allocated other old
  asked other := by
    simp only [List.mem_cons, List.map_cons, hold.asked other]
    exact or_left_comm
  distinct := by
    rw [List.map_cons, List.perm_middle.nodup_iff, List.nodup_cons, List.mem_append, not_or]
    exact ⟨hold.fresh first, hold.distinct⟩
  waiting := hold.waiting
  aborted := hold.aborted
  rejected other reason rejected := by
    rcases List.mem_cons.mp rejected with same | old
    · cases same
      exact rejects reason rfl
    · exact hold.rejected other reason old

/-- An ordinal that asks for the first time is granted its turn, waits for it, or is rejected. -/
theorem wait (hold : TurnsHold run) (first : ordinal ∉ run.asked) :
    TurnsHold (run.step (.wait ordinal)) := by
  have later : ¬ ordinal < run.order.nextCommit := fun passed =>
    first (hold.asked_of_granted (hold.held ordinal passed))
  dsimp only [step]
  cases waits : run.order.waitForTurn ordinal with
  | error thrown => exact hold
  | ok order =>
    have allocated : ordinal < run.order.nextAllocated := by
      by_contra unallocated
      rw [AttemptOrderV1.waitForTurn, if_pos (by omega)] at waits
      nomatch waits
    rw [AttemptOrderV1.waitForTurn, if_neg (by omega)] at waits
    cases reason : run.order.abortReason with
    | some reason' =>
      rw [reason] at waits
      obtain rfl := Except.ok.inj waits
      rw [← reason]
      dsimp only
      refine hold.settle first nofun fun other same => ?_
      rw [← TurnSettlement.rejected.inj same, reason]
    | none =>
      rw [reason] at waits
      dsimp only at waits
      split_ifs at waits with turn
      · obtain rfl := Except.ok.inj waits
        rw [← reason]
        exact hold.settle first (fun _ => ⟨turn, allocated⟩) nofun
      · obtain rfl := Except.ok.inj waits
        rw [← reason]
        dsimp only
        exact { hold with
          asked := fun other => by
            simp only [List.mem_cons, hold.asked other, or_assoc]
          distinct := by
            rw [List.cons_append, List.nodup_cons, List.mem_append, not_or]
            exact ⟨hold.fresh first, hold.distinct⟩
          waiting := fun other waits => by
            rcases List.mem_cons.mp waits with rfl | old
            · exact ⟨Nat.lt_of_le_of_ne (Nat.le_of_not_lt later) (Ne.symm turn), allocated⟩
            · exact hold.waiting other old
          aborted := fun aborts => absurd reason aborts }

/-- The holder releases the current turn, which wakes the next ordinal when that waits. -/
theorem release (hold : TurnsHold run) (holds : run.Holds ordinal) :
    (∃ order, run.order.releaseTurn ordinal = .ok order) ∧
      TurnsHold (run.step (.release ordinal)) := by
  have current := hold.holder holds
  have allocated := hold.allocated ordinal holds.1
  have released (other : Nat) :
      other ∈ ordinal :: run.released ↔ other < run.order.nextCommit + 1 := by
    rw [List.mem_cons, hold.released other]
    omega
  have held (other : Nat) (passed : other < run.order.nextCommit + 1) : run.Granted other := by
    rcases Nat.lt_succ_iff_lt_or_eq.mp passed with old | same
    · exact hold.held other old
    · rw [same, ← current]
      exact holds.1
  dsimp only [step]
  unfold AttemptOrderV1.releaseTurn
  rw [if_neg (by omega), if_neg (by omega)]
  dsimp only
  by_cases wakes : run.order.abortReason.isNone ∧ run.order.nextCommit + 1 ∈ run.order.waiters
  · rw [if_pos wakes]
    have listed := List.nodup_append'.mp hold.distinct
    refine ⟨⟨_, rfl⟩, released, fun other passed => List.mem_cons_of_mem _ (held other passed),
      ?_, ?_, ?_, ?_, ?_, ?_, ?_⟩
    · intro other granted
      rcases List.mem_cons.mp granted with same | old
      · cases same
        exact Nat.le_refl _
      · exact Nat.le_succ_of_le (hold.granted other old)
    · intro other granted
      rcases List.mem_cons.mp granted with same | old
      · cases same
        exact (hold.waiting _ wakes.2).2
      · exact hold.allocated other old
    · intro other
      by_cases same : other = run.order.nextCommit + 1
      · simp [same, (hold.asked _).mpr (.inl wakes.2)]
      · simp [hold.asked other, same]
    · rw [List.map_cons, List.perm_middle.nodup_iff, List.nodup_cons, List.mem_append, not_or]
      refine ⟨⟨by simp, listed.2.2 wakes.2⟩, ?_⟩
      exact hold.distinct.sublist (List.filter_sublist.append_right _)
    · intro other waits
      obtain ⟨waits, differs⟩ := List.mem_filter.mp waits
      have before := hold.waiting other waits
      have differs := of_decide_eq_true differs
      exact ⟨by dsimp only; omega, before.2⟩
    · intro aborts
      exact absurd (Option.isNone_iff_eq_none.mp wakes.1) aborts
    · intro other reason rejected
      rcases List.mem_cons.mp rejected with same | old
      · nomatch same
      · exact hold.rejected other reason old
  · rw [if_neg wakes]
    refine ⟨⟨_, rfl⟩, { hold with
      released
      held
      granted := fun other granted => Nat.le_succ_of_le (hold.granted other granted)
      waiting := fun other waits => ?_ }⟩
    -- The next ordinal does not wait, unless the order is aborted and nobody does.
    have before := hold.waiting other waits
    have differs : other ≠ run.order.nextCommit + 1 := by
      rintro rfl
      cases reason : run.order.abortReason with
      | none => exact wakes ⟨by rw [reason]; rfl, waits⟩
      | some reason' =>
        rw [hold.aborted (by rw [reason]; nofun)] at waits
        nomatch waits
    exact ⟨by dsimp only; omega, before.2⟩

theorem abort (hold : TurnsHold run) (reason : RunError) :
    TurnsHold (run.step (.abort reason)) := by
  dsimp only [step]
  unfold AttemptOrderV1.abort
  cases before : run.order.abortReason with
  | some earlier => exact hold
  | none =>
    have old {ordinal : Nat} {settlement : TurnSettlement} (resolved : settlement = .resolved)
        (settled : (ordinal, settlement) ∈ run.order.waiters.map
          (fun ordinal => (ordinal, TurnSettlement.rejected reason)) ++ run.order.settled) :
        (ordinal, settlement) ∈ run.order.settled := by
      subst resolved
      simpa using settled
    exact {
      released := hold.released
      held := fun other passed => List.mem_append_right _ (hold.held other passed)
      granted := fun other granted => hold.granted other (old rfl granted)
      allocated := fun other granted => hold.allocated other (old rfl granted)
      asked := fun other => by simp [hold.asked other, Function.comp_def]
      distinct := by simpa [Function.comp_def] using hold.distinct
      waiting := nofun
      aborted := fun _ => rfl
      rejected := fun other earlier rejected => by
        rcases List.mem_append.mp rejected with now | earlier'
        · obtain ⟨_, -, same⟩ := List.mem_map.mp now
          cases same
          rfl
        · have aborted := hold.rejected other earlier earlier'
          rw [before] at aborted
          nomatch aborted }

theorem next (hold : TurnsHold run) {event : TurnEventV1} (disciplined : run.Disciplined event) :
    TurnsHold (run.step event) := by
  cases event with
  | allocate =>
    exact { hold with
      allocated := fun other granted => Nat.lt_succ_of_lt (hold.allocated other granted)
      waiting := fun other waits =>
        ⟨(hold.waiting other waits).1, Nat.lt_succ_of_lt (hold.waiting other waits).2⟩ }
  | wait ordinal => exact hold.wait disciplined
  | release ordinal => exact (hold.release disciplined).2
  | abort reason => exact hold.abort reason

end TurnsHold

/-- What is promised of an order: turns are granted one at a time and in order, and an abort grants
none and rejects all who wait. -/
structure TurnsGranted (run : TurnRunV1) : Prop where
  inOrder : ∀ ordinal, run.Granted ordinal → ∀ earlier < ordinal, earlier ∈ run.released
  alone : ∀ left right, run.Holds left → run.Holds right → left = right
  once : (run.order.settled.map Prod.fst).Nodup
  releases : ∀ ordinal, run.Holds ordinal → ∃ order, run.order.releaseTurn ordinal = .ok order
  -- An ordinal whose predecessors have all been released has its turn, whichever came first.
  served : run.order.abortReason = none → ∀ ordinal ∈ run.asked,
    (∀ earlier < ordinal, earlier ∈ run.released) → run.Granted ordinal
  ends : run.order.abortReason ≠ none → ∀ event, run.Disciplined event →
    ∀ ordinal, (run.step event).Granted ordinal → run.Granted ordinal
  rejected : ∀ reason ∈ run.order.abortReason, ∀ ordinal ∈ run.asked,
    run.Granted ordinal ∨ (ordinal, TurnSettlement.rejected reason) ∈ run.order.settled

theorem TurnsHold.ends {run : TurnRunV1} (hold : TurnsHold run)
    (aborted : run.order.abortReason ≠ none) {event : TurnEventV1}
    (disciplined : run.Disciplined event) {ordinal : Nat}
    (granted : (run.step event).Granted ordinal) : run.Granted ordinal := by
  obtain ⟨reason, aborts⟩ := Option.ne_none_iff_exists'.mp aborted
  cases event with
  | allocate => exact granted
  | abort later => simpa [Granted, step, AttemptOrderV1.abort, aborts] using granted
  | wait other =>
    dsimp only [step] at granted
    unfold AttemptOrderV1.waitForTurn at granted
    split_ifs at granted <;> simpa [Granted, aborts] using granted
  | release other =>
    have current := hold.holder disciplined
    have allocated := hold.allocated other disciplined.1
    dsimp only [step] at granted
    rw [AttemptOrderV1.releaseTurn, if_neg (by omega), if_neg (by omega)] at granted
    simpa [Granted, aborts] using granted

/-- Two ordinals of which the second waits before the first releases, and then an abort. -/
def twoTurns : List TurnEventV1 :=
  [.allocate, .allocate, .wait 1, .wait 0, .release 0, .abort (.attemptOrder "stopped")]

end Klura
