import Klura.Library.Machine
import Klura.Moves.Execution
import Klura.Run.Listing

/-! The commit turns of a dispatch batch: which chain waits for which, and that none waits forever. -/

namespace Klura

variable {env : RunEnvironment} {entry : BatchEntryV1} {permits : TurnPermissionV1}

/-- Where a chain stands in the order of its batch. -/
inductive TurnStatusV1 where
  | idle
  | working (ordinal : Nat)
  | parked (ordinal : Nat)
  | owning (ordinal : Nat)

/-- The ordinal of a chain that has still to release its turn. -/
def TurnStatusV1.ordinal : TurnStatusV1 → Option Nat
  | .idle => none
  | .working ordinal | .parked ordinal | .owning ordinal => some ordinal

/-- The status of a chain, given what it is when it does not own its turn. -/
def TaskChainV1.turnStatus (chain : TaskChainV1) (unowned : Nat → TurnStatusV1) : TurnStatusV1 :=
  match chain.chainOrdinal with
  | none => .idle
  | some ordinal => if chain.ownsCommitTurn then .owning ordinal else unowned ordinal

namespace StageV1

/-- The status of a chain at a stage. One that leaves without its turn has nothing to release. -/
def turnStatus : StageV1 → TurnStatusV1
  | .opening | .ended _ => .idle
  | .claiming chain _ => chain.turnStatus .parked
  | .leaving chain _ => chain.turnStatus fun _ => .idle
  | .attempting chain | .intended chain | .calling chain | .received chain _ | .observed chain _
  | .buffering chain _ _ | .spooled chain _ _ _ _ | .asking chain _ | .erring chain _
  | .turned chain _ | .committing chain _ _ _ | .outputting chain _ _ _ _ _
  | .sinking chain _ _ _ _ _ | .releasing chain _ _ _ _ _ | .advancing chain _
  | .progressing chain _ _ => chain.turnStatus .working

/-- What a chain's ordinal and its ownership have to do with its stage. -/
def Seated : StageV1 → Prop
  | .opening | .ended _ => True
  | .attempting chain | .intended chain => chain.chainOrdinal.isSome = chain.ownsCommitTurn
  | .calling chain | .received chain _ | .observed chain _ | .buffering chain _ _
  | .spooled chain _ _ _ _ | .asking chain _ | .erring chain _ | .claiming chain _ =>
    chain.chainOrdinal.isSome = true
  | .turned chain _ | .committing chain _ _ _ | .outputting chain _ _ _ _ _
  | .sinking chain _ _ _ _ _ | .releasing chain _ _ _ _ _ | .advancing chain _ =>
    chain.chainOrdinal.isSome = true ∧ chain.ownsCommitTurn = true
  | .progressing chain next _ => chain.chainOrdinal.isSome = true ∧ chain.ownsCommitTurn = true ∧
    next.chainOrdinal = chain.chainOrdinal ∧ next.ownsCommitTurn = true
  | .leaving chain _ => chain.ownsCommitTurn = true → chain.chainOrdinal.isSome = true

/-- Whether a chain has sent its first call, after which it keeps its ordinal. -/
def Placed : StageV1 → Prop
  | .opening => False
  | .attempting chain | .intended chain => chain.chainOrdinal.isSome = true
  | _ => True

end StageV1

/-! What holds between an order and the chains of its batch. -/

/-- Some chain with an ordinal has still to release its turn. -/
def Unfinished (statuses : List TurnStatusV1) (ordinal : Nat) : Prop :=
  ∃ status ∈ statuses, status.ordinal = some ordinal

/-- The chains of an order that was not aborted. -/
structure TurnsInOrder (order : AttemptOrderV1) (statuses : List TurnStatusV1) : Prop where
  bounded : order.nextCommit ≤ order.nextAllocated
  fresh : ∀ ordinal, order.nextAllocated ≤ ordinal →
    ordinal ∉ order.waiters ∧ order.settled.lookup ordinal = none
  allocated : ∀ ordinal, Unfinished statuses ordinal →
    order.nextCommit ≤ ordinal ∧ ordinal < order.nextAllocated
  distinct : (statuses.filterMap TurnStatusV1.ordinal).Nodup
  owning : ∀ ordinal, .owning ordinal ∈ statuses → ordinal = order.nextCommit
  working : ∀ ordinal, .working ordinal ∈ statuses →
    ordinal ∉ order.waiters ∧ order.settled.lookup ordinal = none
  /-- A parked chain has its turn, or it waits for one that nothing before it has lost. -/
  parked : ∀ ordinal, .parked ordinal ∈ statuses →
    (ordinal = order.nextCommit ∧ order.settled.lookup ordinal = some .resolved) ∨
      (order.settled.lookup ordinal = none ∧ ordinal ∈ order.waiters ∧
        order.nextCommit < ordinal ∧
          ∀ earlier, order.nextCommit ≤ earlier → earlier < ordinal → Unfinished statuses earlier)

/-- What an order keeps between itself and its chains. -/
structure TurnsKept (order : AttemptOrderV1) (statuses : List TurnStatusV1) : Prop where
  inOrder : order.abortReason = none → TurnsInOrder order statuses
  aborted : order.abortReason ≠ none → ∀ ordinal, .parked ordinal ∈ statuses →
    order.settled.lookup ordinal ≠ none

theorem unfinished_cons {status : TurnStatusV1} {others : List TurnStatusV1} {ordinal : Nat} :
    Unfinished (status :: others) ordinal ↔
      status.ordinal = some ordinal ∨ Unfinished others ordinal := by
  unfold Unfinished
  simp only [List.mem_cons, exists_eq_or_imp]

variable {statuses : List TurnStatusV1}

theorem mem_ordinals {ordinal : Nat} :
    ordinal ∈ statuses.filterMap TurnStatusV1.ordinal ↔ Unfinished statuses ordinal := by
  simp only [List.mem_filterMap, Unfinished]

theorem TurnsKept.perm {order : AttemptOrderV1} {others : List TurnStatusV1}
    (same : statuses.Perm others) (kept : TurnsKept order statuses) : TurnsKept order others := by
  have unfinished (ordinal : Nat) : Unfinished others ordinal ↔ Unfinished statuses ordinal := by
    unfold Unfinished
    simp only [same.mem_iff]
  refine ⟨fun open_ => ?_, fun closed ordinal member => ?_⟩
  · have turns := kept.inOrder open_
    refine ⟨turns.bounded, turns.fresh, ?_, (same.filterMap _).nodup_iff.mp turns.distinct,
      ?_, ?_, ?_⟩
    · intro ordinal member
      exact turns.allocated ordinal ((unfinished ordinal).mp member)
    · intro ordinal member
      exact turns.owning ordinal (same.mem_iff.mpr member)
    · intro ordinal member
      exact turns.working ordinal (same.mem_iff.mpr member)
    · intro ordinal member
      simp only [unfinished]
      exact turns.parked ordinal (same.mem_iff.mpr member)
  · exact kept.aborted closed ordinal (same.mem_iff.mpr member)

/-! What each operation of an order does to what is kept. -/

section Order

variable {order next : AttemptOrderV1} {others : List TurnStatusV1} {ordinal : Nat}

theorem TurnsKept.closed {status after : TurnStatusV1} (closed : order.abortReason ≠ none)
    (unparked : ∀ ordinal, after ≠ .parked ordinal) (kept : TurnsKept order (status :: others)) :
    TurnsKept order (after :: others) := by
  refine ⟨fun open_ => absurd open_ closed, fun _ ordinal member => ?_⟩
  rcases List.mem_cons.mp member with same | member
  · exact absurd same.symm (unparked ordinal)
  · exact kept.aborted closed ordinal (List.mem_cons_of_mem _ member)

/-- A chain with nothing to release may be left out. -/
theorem TurnsKept.idle : TurnsKept order (.idle :: others) ↔ TurnsKept order others := by
  have unfinished (ordinal : Nat) : Unfinished (.idle :: others) ordinal ↔
      Unfinished others ordinal := by
    rw [unfinished_cons]
    simp [TurnStatusV1.ordinal]
  have owning (ordinal : Nat) : .owning ordinal ∈ TurnStatusV1.idle :: others ↔
      .owning ordinal ∈ others := by simp
  have working (ordinal : Nat) : .working ordinal ∈ TurnStatusV1.idle :: others ↔
      .working ordinal ∈ others := by simp
  have parked (ordinal : Nat) : .parked ordinal ∈ TurnStatusV1.idle :: others ↔
      .parked ordinal ∈ others := by simp
  constructor
  · intro kept
    refine ⟨fun open_ => ?_, fun closed ordinal member => ?_⟩
    · have turns := kept.inOrder open_
      exact {
        bounded := turns.bounded
        fresh := turns.fresh
        allocated := fun ordinal member => turns.allocated ordinal ((unfinished ordinal).mpr member)
        distinct := turns.distinct
        owning := fun ordinal member => turns.owning ordinal ((owning ordinal).mpr member)
        working := fun ordinal member => turns.working ordinal ((working ordinal).mpr member)
        parked := fun ordinal member => by
          simp only [← unfinished]
          exact turns.parked ordinal ((parked ordinal).mpr member) }
    · exact kept.aborted closed ordinal ((parked ordinal).mpr member)
  · intro kept
    refine ⟨fun open_ => ?_, fun closed ordinal member => ?_⟩
    · have turns := kept.inOrder open_
      exact {
        bounded := turns.bounded
        fresh := turns.fresh
        allocated := fun ordinal member => turns.allocated ordinal ((unfinished ordinal).mp member)
        distinct := turns.distinct
        owning := fun ordinal member => turns.owning ordinal ((owning ordinal).mp member)
        working := fun ordinal member => turns.working ordinal ((working ordinal).mp member)
        parked := fun ordinal member => by
          simp only [unfinished]
          exact turns.parked ordinal ((parked ordinal).mp member) }
    · exact kept.aborted closed ordinal ((parked ordinal).mp member)

/-- A chain that has sent its first call works under the next ordinal. -/
theorem TurnsKept.allocate (kept : TurnsKept order (.idle :: others)) :
    TurnsKept order.allocate (.working order.nextAllocated :: others) := by
  have kept := TurnsKept.idle.mp kept
  refine ⟨fun open_ => ?_, fun closed ordinal member => ?_⟩
  · have turns := kept.inOrder open_
    have bounded := turns.bounded
    have unused : ¬Unfinished others order.nextAllocated := by
      intro member
      have := turns.allocated _ member
      omega
    exact {
      bounded := by show order.nextCommit ≤ order.nextAllocated + 1; omega
      fresh := fun ordinal above => turns.fresh ordinal (Nat.le_of_succ_le above)
      allocated := fun ordinal member => by
        show order.nextCommit ≤ ordinal ∧ ordinal < order.nextAllocated + 1
        rcases unfinished_cons.mp member with same | member
        · have same : order.nextAllocated = ordinal := Option.some.inj same
          omega
        · have := turns.allocated ordinal member
          omega
      distinct := List.nodup_cons.mpr ⟨fun member => unused (mem_ordinals.mp member),
        turns.distinct⟩
      owning := fun ordinal member => turns.owning ordinal (by simpa using member)
      working := fun ordinal member => by
        rcases List.mem_cons.mp member with same | member
        · cases same
          exact turns.fresh _ (Nat.le_refl _)
        · exact turns.working ordinal member
      parked := fun ordinal member => by
        have member : .parked ordinal ∈ others := by simpa using member
        rcases turns.parked ordinal member with ready | ⟨unsettled, waits, above, before⟩
        · exact .inl ready
        · refine .inr ⟨unsettled, waits, above, fun earlier after under => ?_⟩
          exact unfinished_cons.mpr (.inr (before earlier after under)) }
  · have member : .parked ordinal ∈ others := by simpa using member
    exact kept.aborted closed ordinal member

variable {other : Nat}

theorem lookup_settled {settled : List (Nat × TurnSettlement)} {settlement : TurnSettlement}
    (different : other ≠ ordinal) :
    ((ordinal, settlement) :: settled).lookup other = settled.lookup other := by
  rw [List.lookup_cons, beq_false_of_ne different]

variable {status : TurnStatusV1}

theorem TurnsInOrder.apart (turns : TurnsInOrder order (status :: others))
    (held : status.ordinal = some ordinal) (member : Unfinished others other) :
    other ≠ ordinal := by
  rintro rfl
  have distinct := turns.distinct
  rw [List.filterMap_cons_some held, List.nodup_cons] at distinct
  exact distinct.1 (mem_ordinals.mpr member)

theorem TurnsInOrder.distinct_tail (turns : TurnsInOrder order (status :: others)) :
    (others.filterMap TurnStatusV1.ordinal).Nodup := by
  have distinct := turns.distinct
  cases held : status.ordinal with
  | none => rwa [List.filterMap_cons_none held] at distinct
  | some ordinal =>
    rw [List.filterMap_cons_some held, List.nodup_cons] at distinct
    exact distinct.2

theorem TurnsInOrder.parked_apart (turns : TurnsInOrder order (status :: others))
    (held : status.ordinal = some ordinal) (member : .parked other ∈ others) : other ≠ ordinal :=
  turns.apart held ⟨_, member, rfl⟩

/-- A chain that asks for its turn gets it, waits for it, or finds the order aborted. -/
theorem TurnsKept.ask (kept : TurnsKept order (.working ordinal :: others))
    (before : order.abortReason = none → ∀ earlier, order.nextCommit ≤ earlier →
      earlier < ordinal → Unfinished others earlier)
    (waits : order.waitForTurn ordinal = .ok next) :
    TurnsKept next (.parked ordinal :: others) := by
  unfold AttemptOrderV1.waitForTurn at waits
  split at waits
  · cases waits
  · cases reason : order.abortReason with
    | some reason =>
      -- An aborted order rejects the turn at once.
      rw [reason] at waits
      cases waits
      refine ⟨fun open_ => ?_, fun _ other member => ?_⟩
      · cases open_
      by_cases same : other = ordinal
      · subst same
        simp
      · rw [lookup_settled same]
        have parked : .parked other ∈ others := by simpa [same] using member
        exact kept.aborted (by rw [reason]; exact Option.some_ne_none _) other
          (List.mem_cons_of_mem _ parked)
    | none =>
      have turns := kept.inOrder reason
      have before := before reason
      have unwaited := turns.working ordinal List.mem_cons_self
      have allocated := turns.allocated ordinal (unfinished_cons.mpr (.inl rfl))
      have unfinished (other : Nat) : Unfinished (.parked ordinal :: others) other ↔
          Unfinished (.working ordinal :: others) other := by
        rw [unfinished_cons, unfinished_cons]
        rfl
      rw [reason] at waits
      dsimp only at waits
      split at waits
      · -- It is the chain's turn.
        rename_i current
        cases waits
        refine ⟨fun _ => ?_, fun closed => absurd rfl closed⟩
        exact {
          bounded := turns.bounded
          fresh := fun other above => by
            have above : order.nextAllocated ≤ other := above
            have different : other ≠ ordinal := by omega
            rw [lookup_settled different]
            exact turns.fresh other above
          allocated := fun other member => turns.allocated other ((unfinished other).mp member)
          distinct := turns.distinct
          owning := fun other member => by
            have member : .owning other ∈ others := by simpa using member
            exact turns.owning other (List.mem_cons_of_mem _ member)
          working := fun other member => by
            have member : .working other ∈ others := by simpa using member
            rw [lookup_settled (turns.apart rfl ⟨_, member, rfl⟩)]
            exact turns.working other (List.mem_cons_of_mem _ member)
          parked := fun other member => by
            rcases List.mem_cons.mp member with same | member
            · cases same
              exact .inl ⟨current, by simp⟩
            · have different := turns.parked_apart rfl member
              rw [lookup_settled different]
              simp only [unfinished]
              exact turns.parked other (List.mem_cons_of_mem _ member) }
      · rename_i later
        split at waits
        · cases waits
        · -- The chain waits behind others, none of which has lost its turn.
          cases waits
          refine ⟨fun _ => ?_, fun closed => absurd rfl closed⟩
          exact {
            bounded := turns.bounded
            fresh := fun other above => by
              have above : order.nextAllocated ≤ other := above
              refine ⟨?_, (turns.fresh other above).2⟩
              rw [List.mem_cons, not_or]
              exact ⟨by omega, (turns.fresh other above).1⟩
            allocated := fun other member => turns.allocated other ((unfinished other).mp member)
            distinct := turns.distinct
            owning := fun other member => by
              have member : .owning other ∈ others := by simpa using member
              exact turns.owning other (List.mem_cons_of_mem _ member)
            working := fun other member => by
              have member : .working other ∈ others := by simpa using member
              have different : other ≠ ordinal := turns.apart rfl ⟨_, member, rfl⟩
              have untouched := turns.working other (List.mem_cons_of_mem _ member)
              refine ⟨?_, untouched.2⟩
              rw [List.mem_cons, not_or]
              exact ⟨different, untouched.1⟩
            parked := fun other member => by
              simp only [unfinished]
              rcases List.mem_cons.mp member with same | member
              · cases same
                refine .inr ⟨unwaited.2, List.mem_cons_self, by omega, fun earlier after under => ?_⟩
                exact unfinished_cons.mpr (.inr (before earlier after under))
              · rcases turns.parked other (List.mem_cons_of_mem _ member) with ready | waiting
                · exact .inl ready
                · exact .inr ⟨waiting.1, List.mem_cons_of_mem _ waiting.2.1, waiting.2.2⟩ }

/-- An order that is aborted rejects every chain that waits. -/
theorem TurnsKept.abort {after : TurnStatusV1} (reason : RunError)
    (unparked : ∀ ordinal, after ≠ .parked ordinal) (kept : TurnsKept order (status :: others)) :
    TurnsKept (order.abort reason) (after :: others) := by
  unfold AttemptOrderV1.abort
  cases open_ : order.abortReason with
  | some earlier => exact kept.closed (by rw [open_]; exact Option.some_ne_none _) unparked
  | none =>
    refine ⟨nofun, fun _ ordinal member => ?_⟩
    have turns := kept.inOrder open_
    have member : .parked ordinal ∈ others := by
      rcases List.mem_cons.mp member with same | member
      · exact absurd same.symm (unparked ordinal)
      · exact member
    dsimp only
    rw [List.lookup_append]
    rcases turns.parked ordinal (List.mem_cons_of_mem _ member) with ⟨_, ready⟩ | ⟨_, waits, _⟩
    · -- A turn that was granted before stays granted, or is settled anew.
      rw [ready]
      cases (order.waiters.map fun ordinal => (ordinal, TurnSettlement.rejected reason)).lookup
        ordinal <;> simp
    · have rejected : (order.waiters.map fun ordinal =>
          (ordinal, TurnSettlement.rejected reason)).lookup ordinal ≠ none := by
        intro missing
        rw [List.lookup_eq_none_iff] at missing
        have different := missing (ordinal, .rejected reason)
          (List.mem_map.mpr ⟨ordinal, waits, rfl⟩)
        simp at different
      cases found : (order.waiters.map fun ordinal =>
          (ordinal, TurnSettlement.rejected reason)).lookup ordinal with
      | none => exact absurd found rejected
      | some settlement => simp

/-- A parked chain whose turn was granted owns it. -/
theorem TurnsKept.grant (kept : TurnsKept order (.parked ordinal :: others))
    (granted : order.settled.lookup ordinal = some .resolved) :
    TurnsKept order (.owning ordinal :: others) := by
  have unfinished (other : Nat) : Unfinished (.owning ordinal :: others) other ↔
      Unfinished (.parked ordinal :: others) other := by
    rw [unfinished_cons, unfinished_cons]
    rfl
  refine ⟨fun open_ => ?_, fun closed other member => ?_⟩
  · have turns := kept.inOrder open_
    exact {
      bounded := turns.bounded
      fresh := turns.fresh
      allocated := fun other member => turns.allocated other ((unfinished other).mp member)
      distinct := turns.distinct
      owning := fun other member => by
        rcases List.mem_cons.mp member with same | member
        · cases same
          rcases turns.parked ordinal List.mem_cons_self with ready | waiting
          · exact ready.1
          · rw [waiting.1] at granted
            cases granted
        · exact turns.owning other (List.mem_cons_of_mem _ member)
      working := fun other member => by
        have member : .working other ∈ others := by simpa using member
        exact turns.working other (List.mem_cons_of_mem _ member)
      parked := fun other member => by
        have member : .parked other ∈ others := by simpa using member
        simp only [unfinished]
        exact turns.parked other (List.mem_cons_of_mem _ member) }
  · have member : .parked other ∈ others := by simpa using member
    exact kept.aborted closed other (List.mem_cons_of_mem _ member)

theorem TurnsKept.leaveEarly (kept : TurnsKept order (.working ordinal :: others))
    (behind : order.abortReason = none → ∀ other, .parked other ∈ others →
      order.settled.lookup other = none → other < ordinal) :
    TurnsKept order (.idle :: others) := by
  refine TurnsKept.idle.mpr ⟨fun open_ => ?_, fun closed other member => ?_⟩
  · have turns := kept.inOrder open_
    exact {
      bounded := turns.bounded
      fresh := turns.fresh
      allocated := fun other member => turns.allocated other (unfinished_cons.mpr (.inr member))
      distinct := turns.distinct_tail
      owning := fun other member => turns.owning other (List.mem_cons_of_mem _ member)
      working := fun other member => turns.working other (List.mem_cons_of_mem _ member)
      parked := fun other member => by
        rcases turns.parked other (List.mem_cons_of_mem _ member) with ready | waiting
        · exact .inl ready
        · obtain ⟨unsettled, waits, above, before⟩ := waiting
          refine .inr ⟨unsettled, waits, above, fun earlier after under => ?_⟩
          have front := behind open_ other member unsettled
          rcases unfinished_cons.mp (before earlier after under) with same | found
          · -- The chain that left has a larger ordinal than everyone who waits.
            have same : ordinal = earlier := Option.some.inj same
            omega
          · exact found }
  · exact kept.aborted closed other (List.mem_cons_of_mem _ member)

/-- The chain whose turn it is releases it, and wakes the chain behind it. -/
theorem TurnsKept.release (kept : TurnsKept order (.owning ordinal :: others))
    (releases : order.releaseTurn ordinal = .ok next) : TurnsKept next (.idle :: others) := by
  refine TurnsKept.idle.mpr ?_
  unfold AttemptOrderV1.releaseTurn at releases
  split at releases
  · cases releases
  · rename_i inside
    split at releases
    · cases releases
    · rename_i current
      have current : ordinal = order.nextCommit := not_not.mp current
      dsimp only at releases
      split at releases
      · rename_i wakes
        obtain ⟨open_, waits⟩ := wakes
        have open_ : order.abortReason = none := Option.isNone_iff_eq_none.mp open_
        have turns := kept.inOrder open_
        have bounded := turns.bounded
        cases releases
        refine ⟨fun _ => ?_, fun closed => absurd open_ closed⟩
        have later (other : Nat) (member : Unfinished others other) :
            order.nextCommit + 1 ≤ other ∧ other < order.nextAllocated := by
          have := turns.allocated other (unfinished_cons.mpr (.inr member))
          have := turns.apart rfl member
          omega
        exact {
          bounded := by show order.nextCommit + 1 ≤ order.nextAllocated; omega
          fresh := fun other above => by
            have above : order.nextAllocated ≤ other := above
            have untouched := turns.fresh other above
            have different : other ≠ order.nextCommit + 1 := by
              rintro rfl
              exact untouched.1 waits
            rw [lookup_settled different]
            exact ⟨fun member => untouched.1 (List.mem_of_mem_filter member), untouched.2⟩
          allocated := later
          distinct := turns.distinct_tail
          owning := fun other member => by
            have owned := turns.owning other (List.mem_cons_of_mem _ member)
            have := later other ⟨_, member, rfl⟩
            omega
          working := fun other member => by
            have untouched := turns.working other (List.mem_cons_of_mem _ member)
            have different : other ≠ order.nextCommit + 1 := by
              rintro rfl
              exact untouched.1 waits
            rw [lookup_settled different]
            exact ⟨fun member => untouched.1 (List.mem_of_mem_filter member), untouched.2⟩
          parked := fun other member => by
            have reached := later other ⟨_, member, rfl⟩
            rcases turns.parked other (List.mem_cons_of_mem _ member) with ready | waiting
            · have := ready.1
              omega
            · obtain ⟨unsettled, waiter, above, before⟩ := waiting
              by_cases woken : other = order.nextCommit + 1
              · -- The chain behind the one that leaves has its turn now.
                subst woken
                exact .inl ⟨rfl, List.lookup_cons_self⟩
              · rw [lookup_settled woken]
                refine .inr ⟨unsettled, ?_, ?_, fun earlier after under => ?_⟩
                · exact List.mem_filter.mpr ⟨waiter, decide_eq_true woken⟩
                · show order.nextCommit + 1 < other
                  omega
                · have after : order.nextCommit + 1 ≤ earlier := after
                  rcases unfinished_cons.mp (before earlier (by omega) under) with same | found
                  · have same : ordinal = earlier := Option.some.inj same
                    omega
                  · exact found }
      · rename_i sleeps
        cases releases
        refine ⟨fun open_ => ?_, fun closed other member => ?_⟩
        · have open_ : order.abortReason = none := open_
          have unawaited : order.nextCommit + 1 ∉ order.waiters :=
            fun waits => sleeps ⟨by rw [open_]; rfl, waits⟩
          have turns := kept.inOrder open_
          have bounded := turns.bounded
          have later (other : Nat) (member : Unfinished others other) :
              order.nextCommit + 1 ≤ other ∧ other < order.nextAllocated := by
            have := turns.allocated other (unfinished_cons.mpr (.inr member))
            have := turns.apart rfl member
            omega
          exact {
            bounded := by show order.nextCommit + 1 ≤ order.nextAllocated; omega
            fresh := turns.fresh
            allocated := later
            distinct := turns.distinct_tail
            owning := fun other member => by
              have owned := turns.owning other (List.mem_cons_of_mem _ member)
              have := later other ⟨_, member, rfl⟩
              omega
            working := fun other member => turns.working other (List.mem_cons_of_mem _ member)
            parked := fun other member => by
              have reached := later other ⟨_, member, rfl⟩
              rcases turns.parked other (List.mem_cons_of_mem _ member) with ready | waiting
              · have := ready.1
                omega
              · obtain ⟨unsettled, waiter, above, before⟩ := waiting
                have different : other ≠ order.nextCommit + 1 := by
                  rintro rfl
                  exact unawaited waiter
                refine .inr ⟨unsettled, waiter, ?_, fun earlier after under => ?_⟩
                · show order.nextCommit + 1 < other
                  omega
                · have after : order.nextCommit + 1 ≤ earlier := after
                  rcases unfinished_cons.mp (before earlier (by omega) under) with same | found
                  · have same : ordinal = earlier := Option.some.inj same
                    omega
                  · exact found }
        · exact kept.aborted closed other (List.mem_cons_of_mem _ member)

end Order

/-! What a chain without a turn may not find in an order that was not aborted. -/

section Refusal

variable {order : AttemptOrderV1} {others : List TurnStatusV1} {chain : TaskChainV1}

theorem TurnsInOrder.unrefused (turns : TurnsInOrder order (chain.turnStatus .working :: others))
    (open_ : order.abortReason = none) (seated : chain.chainOrdinal.isSome = true) :
    order.refusal chain = none := by
  obtain ⟨ordinal, held⟩ := Option.isSome_iff_exists.mp seated
  unfold AttemptOrderV1.refusal
  by_cases owns : chain.ownsCommitTurn = true
  · rw [if_pos owns]
  · have status : chain.turnStatus .working = .working ordinal := by
      unfold TaskChainV1.turnStatus
      rw [held]
      exact if_neg owns
    rw [status] at turns
    have allocated := turns.allocated ordinal (unfinished_cons.mpr (.inl rfl))
    have unwaited := turns.working ordinal List.mem_cons_self
    rw [if_neg owns, held]
    dsimp only
    unfold AttemptOrderV1.waitForTurn
    rw [if_neg (by omega), open_]
    dsimp only
    split
    · rename_i error refused
      split at refused
      · cases refused
      · rw [if_neg unwaited.1] at refused
        cases refused
    · rfl

theorem TurnsInOrder.unrejected (turns : TurnsInOrder order (chain.turnStatus .parked :: others))
    (error : RunError) : order.turnOf chain ≠ some (.rejected error) := by
  unfold AttemptOrderV1.turnOf
  by_cases owns : chain.ownsCommitTurn = true
  · rw [if_pos owns]
    nofun
  · rw [if_neg owns]
    cases held : chain.chainOrdinal with
    | none => nofun
    | some ordinal =>
      have status : chain.turnStatus .parked = .parked ordinal := by
        unfold TaskChainV1.turnStatus
        rw [held]
        exact if_neg owns
      rw [status] at turns
      show order.settled.lookup ordinal ≠ some (.rejected error)
      rcases turns.parked ordinal List.mem_cons_self with ready | waiting
      · rw [ready.2]
        nofun
      · rw [waiting.1]
        nofun

end Refusal

/-! What the moves of one chain keep, beside the other chains of its batch. -/

/-- No chain waits behind this ordinal, unless the order was aborted. -/
def MayLeave (order : AttemptOrderV1) (others : List TurnStatusV1) (ordinal : Nat) : Prop :=
  order.abortReason = none → ∀ other, .parked other ∈ others →
    order.settled.lookup other = none → other < ordinal

/-- No turn before this ordinal has been lost, unless the order was aborted. -/
def MayAsk (order : AttemptOrderV1) (others : List TurnStatusV1) (ordinal : Nat) : Prop :=
  order.abortReason = none → ∀ earlier, order.nextCommit ≤ earlier → earlier < ordinal →
    Unfinished others earlier

/-- What holds of one chain and the order of its batch at every stage. -/
structure ChainTurns (permits : TurnPermissionV1) (others : List TurnStatusV1)
    (point : ChainPoint) : Prop where
  seated : point.2.Seated
  kept : TurnsKept point.1.attemptOrder (point.2.turnStatus :: others)
  placed : permits.early ∨ permits.asks → point.2.Placed
  leaves : permits.early → ∀ ordinal, point.2.turnStatus = .working ordinal →
    MayLeave point.1.attemptOrder others ordinal
  asks : permits.asks → ∀ ordinal, point.2.turnStatus = .working ordinal →
    MayAsk point.1.attemptOrder others ordinal

variable {others : List TurnStatusV1} {world next : World} {stage after : StageV1}

theorem ChainTurns.same (turns : ChainTurns permits others (world, stage))
    (order : next.attemptOrder = world.attemptOrder) (status : after.turnStatus = stage.turnStatus)
    (seated : after.Seated) (placed : stage.Placed → after.Placed) :
    ChainTurns permits others (next, after) where
  seated := seated
  kept := by
    show TurnsKept next.attemptOrder (after.turnStatus :: others)
    rw [order, status]
    exact turns.kept
  placed := fun permitted => placed (turns.placed permitted)
  leaves := fun permitted ordinal works => by
    show MayLeave next.attemptOrder others ordinal
    rw [order]
    exact turns.leaves permitted ordinal (status.symm.trans works)
  asks := fun permitted ordinal works => by
    show MayAsk next.attemptOrder others ordinal
    rw [order]
    exact turns.asks permitted ordinal (status.symm.trans works)

theorem ChainTurns.settled (turns : ChainTurns permits others (world, stage))
    (kept : TurnsKept next.attemptOrder (after.turnStatus :: others)) (seated : after.Seated)
    (placed : stage.Placed → after.Placed)
    (unworking : ∀ ordinal, after.turnStatus = .working ordinal →
      next.attemptOrder.abortReason ≠ none) :
    ChainTurns permits others (next, after) where
  seated := seated
  kept := kept
  placed := fun permitted => placed (turns.placed permitted)
  leaves := fun _ ordinal works open_ => absurd open_ (unworking ordinal works)
  asks := fun _ ordinal works open_ => absurd open_ (unworking ordinal works)

variable {event : JournalEventV1}

theorem Recorded.order (recorded : Recorded env event world next) :
    next.attemptOrder = world.attemptOrder := by
  obtain ⟨_, frame, _, rfl⟩ := recorded
  rfl

theorem RecordedEmergency.order (recorded : RecordedEmergency env event world next) :
    next.attemptOrder = world.attemptOrder := by
  obtain ⟨frame, _, rfl⟩ := recorded
  rfl

theorem Quiet.order (quiet : Quiet world next) : next.attemptOrder = world.attemptOrder := by
  obtain ⟨_, _, _, _, _, rfl⟩ := quiet
  rfl

variable {unowned : Nat → TurnStatusV1}

theorem TaskChainV1.turnStatus_owning {chain : TaskChainV1} {ordinal : Nat}
    (held : chain.chainOrdinal = some ordinal) (owns : chain.ownsCommitTurn = true) :
    chain.turnStatus unowned = .owning ordinal := by
  unfold TaskChainV1.turnStatus
  rw [held]
  exact if_pos owns

theorem TaskChainV1.turnStatus_unowned {chain : TaskChainV1} {ordinal : Nat}
    (held : chain.chainOrdinal = some ordinal) (owns : ¬chain.ownsCommitTurn = true) :
    chain.turnStatus unowned = unowned ordinal := by
  unfold TaskChainV1.turnStatus
  rw [held]
  exact if_neg owns

theorem TaskChainV1.turnStatus_same {chain : TaskChainV1} {one other : Nat → TurnStatusV1}
    (owns : chain.chainOrdinal.isSome = true → chain.ownsCommitTurn = true) :
    chain.turnStatus one = chain.turnStatus other := by
  unfold TaskChainV1.turnStatus
  cases held : chain.chainOrdinal with
  | none => rfl
  | some ordinal =>
    have owns : chain.ownsCommitTurn = true := owns (by rw [held]; rfl)
    simp only [owns, if_true]

theorem TaskChainV1.turnStatus_unparked (chain : TaskChainV1) (ordinal : Nat) :
    chain.turnStatus .working ≠ .parked ordinal := by
  unfold TaskChainV1.turnStatus
  cases held : chain.chainOrdinal with
  | none => simp
  | some other => by_cases owns : chain.ownsCommitTurn = true <;> simp [owns]

theorem leaving_status (chain : TaskChainV1) (outcome : ChainOutcomeV1) (ordinal : Nat) :
    (StageV1.leaving chain outcome).turnStatus ≠ .working ordinal ∧
      (StageV1.leaving chain outcome).turnStatus ≠ .parked ordinal := by
  unfold StageV1.turnStatus TaskChainV1.turnStatus
  cases held : chain.chainOrdinal with
  | none => simp [held]
  | some other => by_cases owns : chain.ownsCommitTurn = true <;> simp [held, owns]

variable {outcome : ChainOutcomeV1}

theorem ChainTurns.leave (turns : ChainTurns permits others (world, stage))
    {chain left : TaskChainV1} (order : next.attemptOrder = world.attemptOrder)
    (status : stage.turnStatus = chain.turnStatus .working)
    (owns : chain.chainOrdinal.isSome = chain.ownsCommitTurn)
    (ordinal : left.chainOrdinal = chain.chainOrdinal)
    (turn : left.ownsCommitTurn = chain.ownsCommitTurn) :
    ChainTurns permits others (next, .leaving left outcome) := by
  refine turns.same order ?_ ?_ fun _ => trivial
  · rw [status]
    show left.turnStatus (fun _ => .idle) = _
    unfold TaskChainV1.turnStatus
    rw [ordinal, turn]
    exact TaskChainV1.turnStatus_same fun held => owns ▸ held
  · intro owned
    rw [turn] at owned
    rw [ordinal, owns, owned]

theorem ChainTurns.drop (turns : ChainTurns permits others (world, stage)) {chain : TaskChainV1}
    (order : next.attemptOrder = world.attemptOrder)
    (closed : world.attemptOrder.abortReason ≠ none) (held : chain.chainOrdinal.isSome = true) :
    ChainTurns permits others (next, .leaving chain outcome) := by
  refine turns.settled ?_ (fun _ => held) (fun _ => trivial)
    fun ordinal works => absurd works (leaving_status chain outcome ordinal).1
  rw [order]
  exact turns.kept.closed closed fun ordinal => (leaving_status chain outcome ordinal).2

theorem inAttempt_status {chain : TaskChainV1} (inside : stage.inAttempt = some chain)
    (seated : stage.Seated) : stage.turnStatus = chain.turnStatus .working ∧
      chain.chainOrdinal.isSome = true ∧ stage.Placed := by
  cases stage with
  | asking other continuation =>
    cases continuation <;> first | cases inside; exact ⟨rfl, seated, trivial⟩ | cases inside
  | turned other continuation =>
    cases continuation <;> first | cases inside; exact ⟨rfl, seated.1, trivial⟩ | cases inside
  | calling | received | observed | buffering | spooled =>
    cases inside
    exact ⟨rfl, seated, trivial⟩
  | committing | outputting | sinking | releasing | advancing | progressing =>
    cases inside
    exact ⟨rfl, seated.1, trivial⟩
  | _ => cases inside

/-- A call that is on its way has an ordinal, the next one of its batch if it is the first. -/
theorem ChainTurns.place {chain : TaskChainV1}
    (turns : ChainTurns permits others (world, .intended chain)) :
    ChainTurns permits others (world.placed env chain, .calling (chain.placed env world)) := by
  have seated : chain.chainOrdinal.isSome = chain.ownsCommitTurn := turns.seated
  cases held : chain.chainOrdinal with
  | some ordinal =>
    have owns : chain.ownsCommitTurn = true := by rw [← seated, held]; rfl
    refine turns.same ?_ ?_ rfl fun _ => trivial
    · show (if chain.chainOrdinal.isNone then _ else _) = _
      rw [held]
      rfl
    · show (chain.placed env world).turnStatus .working = chain.turnStatus .working
      rw [TaskChainV1.turnStatus_owning held owns]
      refine TaskChainV1.turnStatus_owning ?_ owns
      show some (chain.chainOrdinal.getD _) = _
      rw [held]
      rfl
  | none =>
    have owns : ¬chain.ownsCommitTurn = true := by rw [← seated, held]; nofun
    have order : (world.placed env chain).attemptOrder = world.attemptOrder.allocate := by
      show (if chain.chainOrdinal.isNone then _ else _) = _
      rw [held]
      rfl
    have before : (StageV1.intended chain).turnStatus = .idle := by
      show chain.turnStatus .working = .idle
      unfold TaskChainV1.turnStatus
      rw [held]
    have status : (StageV1.calling (chain.placed env world)).turnStatus =
        .working world.attemptOrder.nextAllocated := by
      show (chain.placed env world).turnStatus .working = _
      refine TaskChainV1.turnStatus_unowned ?_ owns
      show some (chain.chainOrdinal.getD _) = _
      rw [held]
      rfl
    -- A chain that has sent no call yet neither leaves early nor asks in this step.
    have unplaced (permitted : permits.early ∨ permits.asks) : False := by
      have placed : chain.chainOrdinal.isSome = true := turns.placed permitted
      rw [held] at placed
      cases placed
    have kept := turns.kept
    dsimp only at kept
    rw [before] at kept
    refine ⟨rfl, ?_, fun _ => trivial, fun permitted => absurd (.inl permitted) unplaced,
      fun permitted => absurd (.inr permitted) unplaced⟩
    rw [order, status]
    exact kept.allocate

variable {continuation : ClaimContinuationV1}

/-- A chain that asks for its turn waits for it, unless it has it already. -/
theorem ChainTurns.ask {chain : TaskChainV1}
    (turns : ChainTurns permits others (world, .asking chain continuation))
    (allowed : chain.ownsCommitTurn = false → permits.asks)
    (grants : world.attemptOrder.refusal chain = none) :
    ChainTurns permits others
      ({ world with attemptOrder := world.attemptOrder.asked chain },
        .claiming chain continuation) := by
  have seated : chain.chainOrdinal.isSome = true := turns.seated
  obtain ⟨ordinal, held⟩ := Option.isSome_iff_exists.mp seated
  by_cases owns : chain.ownsCommitTurn = true
  · refine turns.same ?_ ?_ seated fun _ => trivial
    · show world.attemptOrder.asked chain = world.attemptOrder
      unfold AttemptOrderV1.asked
      exact if_pos owns
    · show chain.turnStatus .parked = chain.turnStatus .working
      exact TaskChainV1.turnStatus_same fun _ => owns
  · have permitted := allowed (Bool.eq_false_of_not_eq_true owns)
    have works : (StageV1.asking chain continuation).turnStatus = .working ordinal :=
      TaskChainV1.turnStatus_unowned held owns
    have parks : (StageV1.claiming chain continuation).turnStatus = .parked ordinal :=
      TaskChainV1.turnStatus_unowned held owns
    have kept := turns.kept
    dsimp only at kept
    rw [works] at kept
    cases waits : world.attemptOrder.waitForTurn ordinal with
    | error error =>
      unfold AttemptOrderV1.refusal at grants
      rw [if_neg owns, held] at grants
      dsimp only at grants
      rw [waits] at grants
      cases grants
    | ok order =>
      have order_ : world.attemptOrder.asked chain = order := by
        unfold AttemptOrderV1.asked
        rw [if_neg owns, held]
        dsimp only
        rw [waits]
      refine turns.settled ?_ seated (fun _ => trivial) fun other same => ?_
      · rw [parks]
        show TurnsKept (world.attemptOrder.asked chain) _
        rw [order_]
        exact kept.ask (turns.asks permitted ordinal works) waits
      · rw [parks] at same
        cases same

theorem ChainTurns.grant {chain owner : TaskChainV1}
    (turns : ChainTurns permits others (world, .claiming chain continuation))
    (order : next.attemptOrder = world.attemptOrder)
    (ordinal : owner.chainOrdinal = chain.chainOrdinal) (owned : owner.ownsCommitTurn = true)
    (resolved : world.attemptOrder.turnOf chain = some .resolved) :
    ChainTurns permits others (next, .turned owner continuation) := by
  have seated : chain.chainOrdinal.isSome = true := turns.seated
  obtain ⟨number, held⟩ := Option.isSome_iff_exists.mp seated
  have status : (StageV1.turned owner continuation).turnStatus = .owning number :=
    TaskChainV1.turnStatus_owning (ordinal.trans held) owned
  refine turns.settled ?_ ⟨by rw [ordinal, held]; rfl, owned⟩ (fun _ => trivial) fun other same => ?_
  · have kept := turns.kept
    dsimp only at kept
    rw [order, status]
    by_cases owns : chain.ownsCommitTurn = true
    · have owning : (StageV1.claiming chain continuation).turnStatus = .owning number :=
        TaskChainV1.turnStatus_owning held owns
      rw [owning] at kept
      exact kept
    · have parked : (StageV1.claiming chain continuation).turnStatus = .parked number :=
        TaskChainV1.turnStatus_unowned held owns
      rw [parked] at kept
      unfold AttemptOrderV1.turnOf at resolved
      rw [if_neg owns, held] at resolved
      exact kept.grant resolved
  · rw [status] at same
    cases same

/-- A chain that has left its batch has released its turn, or never had one. -/
theorem ChainTurns.release {chain : TaskChainV1} {outcome ended : ChainOutcomeV1}
    {order : AttemptOrderV1} (turns : ChainTurns permits others (world, .leaving chain outcome))
    (changed : next.attemptOrder = order)
    (releases : world.attemptOrder.released chain = .ok order) :
    ChainTurns permits others (next, .ended ended) := by
  refine turns.settled ?_ trivial (fun _ => trivial) nofun
  have kept := turns.kept
  dsimp only at kept
  rw [changed]
  show TurnsKept order (.idle :: others)
  unfold AttemptOrderV1.released at releases
  by_cases owns : chain.ownsCommitTurn = true
  · have seated : chain.chainOrdinal.isSome = true := turns.seated owns
    obtain ⟨ordinal, held⟩ := Option.isSome_iff_exists.mp seated
    have status : (StageV1.leaving chain outcome).turnStatus = .owning ordinal :=
      TaskChainV1.turnStatus_owning held owns
    rw [held, owns] at releases
    rw [status] at kept
    exact kept.release releases
  · have same : world.attemptOrder = order := by
      rw [Bool.eq_false_of_not_eq_true owns] at releases
      split at releases
      · rename_i impossible
        cases impossible
      · exact Except.ok.inj releases
    have status : (StageV1.leaving chain outcome).turnStatus = .idle := by
      show chain.turnStatus (fun _ => .idle) = .idle
      unfold TaskChainV1.turnStatus
      cases chain.chainOrdinal with
      | none => rfl
      | some ordinal => exact if_neg owns
    rw [status, same] at kept
    exact kept

theorem ChainTurns.strand {chain : TaskChainV1} {ended : ChainOutcomeV1} {error : RunError}
    (turns : ChainTurns permits others (world, .leaving chain outcome))
    (order : next.attemptOrder = world.attemptOrder)
    (holds : world.attemptOrder.released chain = .error error) :
    ChainTurns permits others (next, .ended ended) := by
  refine turns.settled ?_ trivial (fun _ => trivial) nofun
  have kept := turns.kept
  dsimp only at kept
  rw [order]
  show TurnsKept world.attemptOrder (.idle :: others)
  unfold AttemptOrderV1.released at holds
  split at holds
  · rename_i ordinal held owns
    have status : (StageV1.leaving chain outcome).turnStatus = .owning ordinal :=
      TaskChainV1.turnStatus_owning held owns
    rw [status] at kept
    refine kept.closed (fun open_ => ?_) nofun
    -- The owner has the current ordinal, and it was allocated.
    have inOrder := kept.inOrder open_
    have current := inOrder.owning ordinal List.mem_cons_self
    have allocated := inOrder.allocated ordinal (unfinished_cons.mpr (.inl rfl))
    unfold AttemptOrderV1.releaseTurn at holds
    rw [if_neg (by omega), if_neg (not_not.mpr current)] at holds
    dsimp only at holds
    split at holds
    · cases holds
    · cases holds
  · cases holds

theorem ChainTurns.early {chain : TaskChainV1} {outcome : ChainOutcomeV1}
    (turns : ChainTurns permits others (world, stage)) (allowed : permits.early)
    (order : next.attemptOrder = world.attemptOrder) (leaves : stage.leavesEarly = some chain) :
    ChainTurns permits others (next, .leaving chain.gaveBack outcome) := by
  have early : chain.ownsCommitTurn ≠ true ∧ chain.chainOrdinal.isSome = true ∧
      stage.turnStatus = chain.turnStatus .working := by
    have seated := turns.seated
    cases stage with
    | received other result | observed other result =>
      dsimp only [StageV1.leavesEarly] at leaves
      split at leaves
      · cases leaves
      · rename_i owns
        cases leaves
        exact ⟨owns, seated, rfl⟩
    | _ => cases leaves
  obtain ⟨owns, seated, status⟩ := early
  obtain ⟨ordinal, held⟩ := Option.isSome_iff_exists.mp seated
  have works : stage.turnStatus = .working ordinal :=
    status.trans (TaskChainV1.turnStatus_unowned held owns)
  have idles : (StageV1.leaving chain.gaveBack outcome).turnStatus = .idle := by
    show chain.turnStatus (fun _ => .idle) = .idle
    exact TaskChainV1.turnStatus_unowned held owns
  have kept := turns.kept
  dsimp only at kept
  rw [works] at kept
  refine turns.settled ?_ (fun owned => absurd owned owns) (fun _ => trivial)
    fun other same => absurd same (leaving_status _ _ other).1
  rw [order, idles]
  exact kept.leaveEarly (turns.leaves allowed ordinal works)

/-- An error that is raised while another is handled ends a chain that has its turn, or whose order
was aborted. -/
theorem ChainTurns.raise {chain : TaskChainV1} {error : RunError}
    (turns : ChainTurns permits others (world, stage)) (inside : stage.afterError = some chain)
    (order : next.attemptOrder = world.attemptOrder)
    (refusal : ∀ continuation, stage = .asking chain continuation → world.attemptOrder.refusal chain = some error)
    (rejection : ∀ continuation, stage = .claiming chain continuation → world.attemptOrder.turnOf chain = some (.rejected error)) :
    ChainTurns permits others (next, .leaving chain.gaveBack outcome) := by
  have kept := turns.kept
  have seated := turns.seated
  cases stage with
  | asking other continuation =>
    cases continuation <;> cases inside
    have closed : world.attemptOrder.abortReason ≠ none := by
      intro open_
      have refused := refusal _ rfl
      rw [(kept.inOrder open_).unrefused open_ seated] at refused
      cases refused
    exact turns.drop order closed seated
  | claiming other continuation =>
    cases continuation <;> cases inside
    have closed : world.attemptOrder.abortReason ≠ none := fun open_ =>
      (kept.inOrder open_).unrejected error (rejection _ rfl)
    exact turns.drop order closed seated
  | turned other continuation =>
    cases continuation <;> cases inside
    exact turns.leave order rfl (seated.1.trans seated.2.symm) rfl rfl
  | _ => cases inside

theorem mayGiveUp_status {chain : TaskChainV1} (may : stage.mayGiveUp = some chain)
    (seated : stage.Seated) : stage.turnStatus = chain.turnStatus .working ∧
      chain.chainOrdinal.isSome = chain.ownsCommitTurn := by
  cases stage with
  | attempting | intended =>
    cases may
    exact ⟨rfl, seated⟩
  | received | observed =>
    dsimp only [StageV1.mayGiveUp] at may
    split at may
    · rename_i owns
      cases may
      exact ⟨rfl, Eq.trans seated owns.symm⟩
    · cases may
  | turned | advancing =>
    cases may
    exact ⟨rfl, seated.1.trans seated.2.symm⟩
  | progressing =>
    cases may
    obtain ⟨held, owns, ordinal, turn⟩ := seated
    refine ⟨?_, by rw [ordinal, held, turn]⟩
    show TaskChainV1.turnStatus _ _ = TaskChainV1.turnStatus _ _
    unfold TaskChainV1.turnStatus
    rw [ordinal, owns, turn]
  | _ => cases may

theorem mayExplain_givesUp {chain : TaskChainV1} (may : stage.mayExplain = some chain) :
    stage.mayGiveUp = some chain := by
  cases stage with
  | turned other continuation => cases continuation <;> first | exact may | cases may
  | advancing => exact may
  | _ => cases may

/-- Every move of a chain keeps its turn in the order of its batch. -/
theorem chainTurns_kept (others : List TurnStatusV1) :
    Keeps (ChainMove env entry permits) (ChainTurns permits others) := by
  intro before next moves turns
  cases moves with
  | quiet quiet => exact turns.same quiet.order rfl turns.seated id
  | opened => exact turns.same rfl rfl rfl False.elim
  | reopened => exact turns.same rfl rfl rfl False.elim
  | unopened => exact turns.same rfl rfl nofun False.elim
  | limitless recorded => exact turns.same recorded.order rfl nofun False.elim
  | intended may recorded => exact turns.same recorded.order rfl turns.seated id
  | unintended => exact turns.leave rfl rfl turns.seated rfl rfl
  | placed => exact turns.place
  | answered => exact turns.same rfl rfl turns.seated id
  | observed recorded => exact turns.same recorded.order rfl turns.seated id
  | refused => exact turns.same rfl rfl turns.seated id
  | accepted => exact turns.same rfl rfl turns.seated id
  | repeated => exact turns.same rfl rfl turns.seated id
  | spooled => exact turns.same rfl rfl turns.seated id
  | buffered recorded => exact turns.same recorded.order rfl turns.seated id
  | filled => exact turns.same rfl rfl turns.seated id
  | erred inside =>
    obtain ⟨status, held, _⟩ := inAttempt_status inside turns.seated
    exact turns.same rfl status.symm held fun _ => trivial
  | rejected live rejection =>
    -- Only an aborted order rejects a turn.
    have closed : ∀ open_, False := fun open_ =>
      (turns.kept.inOrder open_).unrejected _ rejection
    exact turns.settled (turns.kept.closed closed (TaskChainV1.turnStatus_unparked _)) turns.seated
      (fun _ => trivial) fun _ _ => closed
  | classified => exact turns.same rfl rfl turns.seated id
  | aborted =>
    refine turns.settled (turns.kept.abort _ fun ordinal => (leaving_status _ _ ordinal).2)
      (fun _ => turns.seated) (fun _ => trivial) fun ordinal works =>
        absurd works (leaving_status _ _ ordinal).1
  | raised inside refusal rejection => exact turns.raise inside rfl refusal rejection
  | asked allowed grants => exact turns.ask allowed grants
  | granted allowed resolved => exact turns.grant rfl rfl rfl resolved
  | completed recorded => exact turns.same recorded.order rfl turns.seated id
  | duplicated known recorded => exact turns.same recorded.order rfl turns.seated id
  | committed fresh room capacity recorded =>
    exact turns.same recorded.order rfl turns.seated id
  | charged => exact turns.same rfl rfl turns.seated id
  | written => exact turns.same rfl rfl turns.seated id
  | sunk holds recorded => exact turns.same recorded.order rfl turns.seated id
  | released => exact turns.same rfl rfl turns.seated id
  | cut => exact turns.leave rfl rfl (turns.seated.1.trans turns.seated.2.symm) rfl rfl
  | emitted => exact turns.same rfl rfl turns.seated id
  | finished => exact turns.leave rfl rfl (turns.seated.1.trans turns.seated.2.symm) rfl rfl
  | exhausted => exact turns.leave rfl rfl (turns.seated.1.trans turns.seated.2.symm) rfl rfl
  | continued =>
    exact turns.same rfl rfl ⟨turns.seated.1, turns.seated.2, rfl, turns.seated.2⟩ id
  | progressed recorded =>
    obtain ⟨held, owns, ordinal, turn⟩ := turns.seated
    refine turns.same recorded.order ?_ ?_ fun _ => ?_
    · show TaskChainV1.turnStatus _ _ = TaskChainV1.turnStatus _ _
      unfold TaskChainV1.turnStatus
      rw [ordinal, owns, turn]
    · show Option.isSome _ = _
      rw [ordinal, held, turn]
    · show Option.isSome _ = true
      rw [ordinal, held]
  | gaveUp may =>
    obtain ⟨status, owns⟩ := mayGiveUp_status may turns.seated
    exact turns.leave rfl status owns rfl rfl
  | unspooled => exact turns.leave rfl rfl (turns.seated.1.trans turns.seated.2.symm) rfl rfl
  | leftEarly allowed leaves => exact turns.early allowed rfl leaves
  | explained may recorded =>
    obtain ⟨status, owns⟩ := mayGiveUp_status (mayExplain_givesUp may) turns.seated
    exact turns.leave recorded.order status owns rfl rfl
  | left releases => exact turns.release rfl releases
  | stranded holds =>
    refine turns.strand ?_ holds
    unfold World.left
    split <;> rfl

end Klura
