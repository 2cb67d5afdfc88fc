import Klura.Scheduler.Machine

/-! What the operations on one origin's queue do to its workloads and their turns. -/

namespace Klura

namespace OriginEntryV1

/-- The order in which the workloads have their turns. -/
def service (entry : OriginEntryV1) : List String :=
  rotation entry.workloadOrder entry.nextWorkloadIndex

/-- The workloads are those with a queue, each has a request, and the cursor is on one of them. -/
structure Shape (entry : OriginEntryV1) : Prop where
  keys : OrderedMap.keys entry.queues = entry.workloadOrder
  distinct : entry.workloadOrder.Nodup
  requested : ∀ queue ∈ entry.queues, queue.2 ≠ []
  named : ∀ queue ∈ entry.queues, ∀ queued ∈ queue.2, queued.workloadId = queue.1
  nameable : "" ∉ entry.workloadOrder
  cursor : entry.nextWorkloadIndex ≤ entry.workloadOrder.length - 1

/-- The identities of the requests that wait. -/
def queuedIds (entry : OriginEntryV1) : List Nat :=
  entry.queuedAdmissions.map (·.id)

theorem queuedAdmissions_eq (entry : OriginEntryV1) :
    entry.queuedAdmissions = (List.map Prod.snd entry.queues).flatten := by
  simp [queuedAdmissions, List.flatMap_def]

theorem queuedCount_eq (entry : OriginEntryV1) :
    entry.queuedCount = entry.queuedAdmissions.length := by
  simp [queuedCount, queuedAdmissions, List.length_flatMap]

namespace Shape

variable {entry : OriginEntryV1}

theorem waiting (shape : entry.Shape) : entry.waiting = entry.workloadOrder := by
  rw [← shape.keys, OriginEntryV1.waiting, OrderedMap.keys, List.filter_eq_self.mpr]
  intro queue member
  simpa using shape.requested queue member

theorem queue_of_queued (shape : entry.Shape) {queued : QueuedAdmissionV1}
    (waits : queued ∈ entry.queuedAdmissions) :
    ∃ queue, entry.queues.get? queued.workloadId = some queue ∧ queued ∈ queue := by
  obtain ⟨queue, member, held⟩ := List.mem_flatMap.mp waits
  have name := shape.named queue member queued held
  refine ⟨queue.2, ?_, held⟩
  rw [name]
  exact OrderedMap.get?_of_mem (by rw [shape.keys]; exact shape.distinct) member

variable {workloadId : String} {queue : List QueuedAdmissionV1}

theorem mem_order (shape : entry.Shape) (found : entry.queues.get? workloadId = some queue) :
    workloadId ∈ entry.workloadOrder := by
  rw [← shape.keys, ← OrderedMap.get?_isSome_iff, found]
  rfl

theorem queuedCount_eq_zero_iff (shape : entry.Shape) :
    entry.queuedCount = 0 ↔ entry.workloadOrder = [] := by
  rw [queuedCount_eq, List.length_eq_zero_iff, ← shape.keys, OrderedMap.keys, List.map_eq_nil_iff]
  constructor
  · intro none
    cases queues : entry.queues with
    | nil => rfl
    | cons queue rest =>
      have first : queue ∈ entry.queues := by simp [queues]
      obtain ⟨queued, held⟩ := List.exists_mem_of_ne_nil _ (shape.requested queue first)
      have waits : queued ∈ entry.queuedAdmissions := List.mem_flatMap.mpr ⟨queue, first, held⟩
      simp [none] at waits
  · intro none
    simp [queuedAdmissions, none]

theorem cursor_lt (shape : entry.Shape) (some : entry.workloadOrder ≠ []) :
    entry.nextWorkloadIndex < entry.workloadOrder.length := by
  have cursor := shape.cursor
  have positive := List.length_pos_of_ne_nil some
  omega

theorem set (shape : entry.Shape) (present : workloadId ∈ entry.workloadOrder)
    (requested : queue ≠ []) (named : ∀ queued ∈ queue, queued.workloadId = workloadId) :
    Shape { entry with queues := entry.queues.set workloadId queue } where
  keys := by
    rw [← shape.keys] at present
    simpa [OrderedMap.keys_set_of_mem queue present] using shape.keys
  distinct := shape.distinct
  requested changed member := by
    rcases OrderedMap.mem_of_mem_set member with same | old
    · rw [same]
      exact requested
    · exact shape.requested changed old
  named changed member := by
    rcases OrderedMap.mem_of_mem_set member with same | old
    · rw [same]
      exact named
    · exact shape.named changed old
  nameable := shape.nameable
  cursor := shape.cursor

theorem join (shape : entry.Shape) {queued : QueuedAdmissionV1} (named : queued.workloadId ≠ "")
    (fresh : queued.workloadId ∉ entry.workloadOrder) :
    Shape { entry with
      queues := entry.queues.set queued.workloadId [queued]
      workloadOrder := entry.workloadOrder ++ [queued.workloadId] } where
  keys := by
    have absent : queued.workloadId ∉ OrderedMap.keys entry.queues := by rwa [shape.keys]
    have keys := shape.keys
    simp only [OrderedMap.keys] at keys
    simp [OrderedMap.set_of_not_mem _ absent, OrderedMap.keys, keys]
  distinct := by
    rw [List.nodup_append]
    refine ⟨shape.distinct, by simp, fun left member right same differs => fresh ?_⟩
    rw [List.mem_singleton] at same
    rwa [differs, same] at member
  requested changed member := by
    rcases OrderedMap.mem_of_mem_set member with same | old
    · simp [same]
    · exact shape.requested changed old
  named changed member := by
    rcases OrderedMap.mem_of_mem_set member with same | old
    · simp [same]
    · exact shape.named changed old
  nameable := by simpa using ⟨shape.nameable, named⟩
  cursor := by
    have cursor := shape.cursor
    simp only [List.length_append, List.length_singleton]
    omega

end Shape

variable {workloadId : String}

/-- Removing a workload that has a turn: its queue goes, and the others keep their turns. -/
theorem removeWorkload_spec {entry : OriginEntryV1} (distinct : entry.workloadOrder.Nodup)
    (cursor : entry.nextWorkloadIndex ≤ entry.workloadOrder.length - 1)
    (present : workloadId ∈ entry.workloadOrder) :
    ∃ next, entry.removeWorkload workloadId =
        { entry with
          queues := entry.queues.delete workloadId
          workloadOrder := entry.workloadOrder.erase workloadId
          nextWorkloadIndex := next } ∧
      next ≤ (entry.workloadOrder.erase workloadId).length - 1 ∧
      rotation (entry.workloadOrder.erase workloadId) next =
        entry.service.erase workloadId := by
  have within : entry.nextWorkloadIndex ≤ entry.workloadOrder.length := by omega
  have erased := rotation_erase distinct within present
  have length := List.length_erase_of_mem present
  have positive := List.length_pos_of_mem present
  have is : entry.removeWorkload workloadId =
      { entry with
        queues := entry.queues.delete workloadId
        workloadOrder := entry.workloadOrder.erase workloadId
        nextWorkloadIndex :=
          if (entry.workloadOrder.erase workloadId).length = 0 ∨
              (entry.workloadOrder.erase workloadId).length ≤
                cursorWithout entry.workloadOrder entry.nextWorkloadIndex workloadId then 0
          else cursorWithout entry.workloadOrder entry.nextWorkloadIndex workloadId } := by
    by_cases empty : (entry.workloadOrder.erase workloadId).length = 0
    · simp only [removeWorkload, if_pos present, if_pos empty, if_pos (Or.inl empty)]
    · simp only [removeWorkload, if_pos present, empty, false_or]
      rfl
  refine ⟨_, is, ?_, ?_⟩
  · by_cases ended : (entry.workloadOrder.erase workloadId).length = 0 ∨
        (entry.workloadOrder.erase workloadId).length ≤
          cursorWithout entry.workloadOrder entry.nextWorkloadIndex workloadId
    · rw [if_pos ended]
      omega
    · rw [if_neg ended]
      omega
  · by_cases ended : (entry.workloadOrder.erase workloadId).length = 0 ∨
        (entry.workloadOrder.erase workloadId).length ≤
          cursorWithout entry.workloadOrder entry.nextWorkloadIndex workloadId
    · -- A cursor that has come to the end starts over.
      have last : cursorWithout entry.workloadOrder entry.nextWorkloadIndex workloadId =
          (entry.workloadOrder.erase workloadId).length := by
        unfold cursorWithout at ended ⊢
        split at ended <;> split <;> omega
      rw [if_pos ended, rotation_zero, service, ← erased, last, rotation_length]
    · rw [if_neg ended, service, ← erased]

theorem Shape.removeWorkload {entry : OriginEntryV1} (shape : entry.Shape)
    (present : workloadId ∈ entry.workloadOrder) : (entry.removeWorkload workloadId).Shape := by
  obtain ⟨next, is, cursor, _⟩ := removeWorkload_spec shape.distinct shape.cursor present
  rw [is]
  exact
    { keys := by
        have keys := OrderedMap.keys_delete entry.queues workloadId
        rw [shape.keys] at keys
        exact keys
      distinct := shape.distinct.erase _
      requested := fun queue member => shape.requested queue (OrderedMap.mem_of_mem_delete member)
      named := fun queue member => shape.named queue (OrderedMap.mem_of_mem_delete member)
      nameable := fun member => shape.nameable (List.mem_of_mem_erase member)
      cursor := cursor }

variable {queued : QueuedAdmissionV1}

theorem removeQueued_cases {entry : OriginEntryV1} (shape : entry.Shape)
    (waits : queued ∈ entry.queuedAdmissions) :
    (∃ queue, entry.queues.get? queued.workloadId = some queue ∧ queued ∈ queue ∧
      queue.erase queued ≠ [] ∧ entry.removeQueued queued =
        { entry with queues := entry.queues.set queued.workloadId (queue.erase queued) }) ∨
    entry.queues.get? queued.workloadId = some [queued] ∧
      entry.removeQueued queued = entry.removeWorkload queued.workloadId := by
  obtain ⟨queue, found, held⟩ := shape.queue_of_queued waits
  by_cases last : queue.erase queued = []
  · right
    have only : queue = [queued] := by
      have length := List.length_erase_of_mem held
      have positive := List.length_pos_of_mem held
      rw [last, List.length_nil] at length
      obtain ⟨one, rfl⟩ := List.length_eq_one_iff.mp (by omega : queue.length = 1)
      rw [List.mem_singleton] at held
      rw [held]
    subst only
    refine ⟨found, ?_⟩
    -- The empty queue that the removal leaves goes with its workload.
    simp [removeQueued, found, removeWorkload]
  · left
    refine ⟨queue, found, held, last, ?_⟩
    have requests : ¬ (queue.erase queued).length = 0 := by
      rwa [List.length_eq_zero_iff]
    simp only [removeQueued, found, held, if_true, requests, if_false]

theorem queuedAdmissions_removeQueued {entry : OriginEntryV1} (shape : entry.Shape)
    (waits : queued ∈ entry.queuedAdmissions) :
    List.Perm entry.queuedAdmissions (queued :: (entry.removeQueued queued).queuedAdmissions) := by
  rcases removeQueued_cases shape waits with ⟨queue, found, held, _, is⟩ | ⟨found, is⟩
  · rw [is, queuedAdmissions_eq, queuedAdmissions_eq]
    have before := (OrderedMap.values_perm_of_get? found).flatten
    have after := (OrderedMap.values_perm_set entry.queues queued.workloadId
      (queue.erase queued)).flatten
    simp only [List.flatten_cons] at before after
    refine before.trans (((List.perm_cons_erase held).append_right _).trans ?_)
    rw [List.cons_append]
    exact after.symm.cons _
  · obtain ⟨next, removed, _⟩ :=
      removeWorkload_spec shape.distinct shape.cursor (shape.mem_order found)
    rw [is, removed, queuedAdmissions_eq, queuedAdmissions_eq]
    have before := (OrderedMap.values_perm_of_get? found).flatten
    simpa only [List.flatten_cons, List.singleton_append] using before

theorem Shape.removeQueued {entry : OriginEntryV1} (shape : entry.Shape)
    (waits : queued ∈ entry.queuedAdmissions) :
    (entry.removeQueued queued).Shape := by
  rcases removeQueued_cases shape waits with ⟨queue, found, _, requested, is⟩ | ⟨found, is⟩
  · rw [is]
    apply shape.set (shape.mem_order found) requested
    intro other member
    have stands := OrderedMap.mem_of_get? found
    exact shape.named _ stands other (List.mem_of_mem_erase member)
  · rw [is]
    exact shape.removeWorkload (shape.mem_order found)

theorem service_removeQueued {entry : OriginEntryV1} (shape : entry.Shape)
    (waits : queued ∈ entry.queuedAdmissions) :
    (entry.removeQueued queued).service = entry.service ∨
      (entry.removeQueued queued).service = entry.service.erase queued.workloadId := by
  rcases removeQueued_cases shape waits with ⟨queue, found, _, _, is⟩ | ⟨found, is⟩
  · exact .inl (by rw [is]; rfl)
  · obtain ⟨next, removed, _, turns⟩ :=
      removeWorkload_spec shape.distinct shape.cursor (shape.mem_order found)
    exact .inr (by rw [is, removed]; exact turns)

theorem enqueue_cases {entry : OriginEntryV1} (shape : entry.Shape) (queued : QueuedAdmissionV1) :
    (∃ queue, entry.queues.get? queued.workloadId = some queue ∧
      entry.enqueue queued =
        { entry with queues := entry.queues.set queued.workloadId (queue ++ [queued]) }) ∨
    queued.workloadId ∉ entry.workloadOrder ∧
      entry.enqueue queued =
        { entry with
          queues := entry.queues.set queued.workloadId [queued]
          workloadOrder := entry.workloadOrder ++ [queued.workloadId] } := by
  cases found : entry.queues.get? queued.workloadId with
  | some queue => exact .inl ⟨queue, rfl, by simp [enqueue, found]⟩
  | none =>
    have absent := OrderedMap.get?_eq_none_iff.mp found
    rw [shape.keys] at absent
    exact .inr ⟨absent, by simp [enqueue, found]⟩

theorem queuedAdmissions_enqueue {entry : OriginEntryV1} (shape : entry.Shape)
    (queued : QueuedAdmissionV1) :
    List.Perm (entry.enqueue queued).queuedAdmissions (queued :: entry.queuedAdmissions) := by
  rcases enqueue_cases shape queued with ⟨queue, found, is⟩ | ⟨absent, is⟩
  · rw [is, queuedAdmissions_eq, queuedAdmissions_eq]
    have before := (OrderedMap.values_perm_of_get? found).flatten
    have after := (OrderedMap.values_perm_set entry.queues queued.workloadId
      (queue ++ [queued])).flatten
    simp only [List.flatten_cons, List.append_assoc] at before after
    refine after.trans (List.Perm.trans ?_ (before.symm.cons queued))
    exact List.perm_middle
  · rw [is, queuedAdmissions_eq, queuedAdmissions_eq]
    have absent' : queued.workloadId ∉ OrderedMap.keys entry.queues := by rwa [shape.keys]
    have after := (OrderedMap.values_perm_set entry.queues queued.workloadId [queued]).flatten
    rwa [OrderedMap.delete_of_not_mem absent', List.flatten_cons, List.singleton_append] at after

theorem Shape.enqueue {entry : OriginEntryV1} (shape : entry.Shape) (named : queued.workloadId ≠ "") :
    (entry.enqueue queued).Shape := by
  rcases enqueue_cases shape queued with ⟨queue, found, is⟩ | ⟨absent, is⟩
  · rw [is]
    refine shape.set (shape.mem_order found) (by simp) fun other member => ?_
    rcases List.mem_append.mp member with old | new
    · exact shape.named _ (OrderedMap.mem_of_get? found) other old
    · rw [List.mem_singleton.mp new]
  · rw [is]
    exact shape.join named absent

/-- The request whose turn it is: the first of the queue of the first workload in turn. -/
theorem dequeueRoundRobin_spec {entry : OriginEntryV1} (shape : entry.Shape)
    (some' : entry.workloadOrder ≠ []) (fuel : Nat) :
    ∃ queued rest after, dequeueRoundRobin (fuel + 1) entry = (some queued, after) ∧
      entry.service = queued.workloadId :: rest ∧
      List.Perm entry.queuedAdmissions (queued :: after.queuedAdmissions) ∧ after.Shape ∧
      (after.service = rest ++ [queued.workloadId] ∨ after.service = rest) ∧
      after = { entry with
        queues := after.queues
        workloadOrder := after.workloadOrder
        nextWorkloadIndex := after.nextWorkloadIndex } := by
  have within := shape.cursor_lt some'
  have index : entry.nextWorkloadIndex % entry.workloadOrder.length = entry.nextWorkloadIndex :=
    Nat.mod_eq_of_lt within
  obtain ⟨rest, first, turned⟩ := rotation_next within
  have present : entry.workloadOrder[entry.nextWorkloadIndex] ∈ entry.workloadOrder :=
    List.getElem_mem within
  have nameable : entry.workloadOrder[entry.nextWorkloadIndex] ≠ "" := by
    intro nameless
    exact shape.nameable (nameless ▸ present)
  have queueOf : (entry.queues.get? entry.workloadOrder[entry.nextWorkloadIndex]).isSome := by
    rw [OrderedMap.get?_isSome_iff, shape.keys]
    exact present
  obtain ⟨queue, found⟩ := Option.isSome_iff_exists.mp queueOf
  have stands := OrderedMap.mem_of_get? found
  obtain ⟨queued, later, rfl⟩ := List.exists_cons_of_ne_nil (shape.requested _ stands)
  have name : queued.workloadId = entry.workloadOrder[entry.nextWorkloadIndex] :=
    shape.named _ stands queued (by simp)
  have before := (OrderedMap.values_perm_of_get? found).flatten
  have moved : (entry.nextWorkloadIndex + 1) % entry.workloadOrder.length ≤
      entry.workloadOrder.length - 1 := by
    have := Nat.mod_lt (entry.nextWorkloadIndex + 1) (by omega : 0 < entry.workloadOrder.length)
    omega
  have turning : Shape { entry with
      nextWorkloadIndex := (entry.nextWorkloadIndex + 1) % entry.workloadOrder.length } :=
    { shape with cursor := moved }
  simp only [List.flatten_cons] at before
  by_cases last : later = []
  · -- The last request of a workload takes it off the turns.
    subst last
    obtain ⟨next, removed, _, turns⟩ := removeWorkload_spec turning.distinct turning.cursor present
    refine ⟨queued, rest, _, ?_, ?_, ?_, turning.removeWorkload present, .inr ?_, ?_⟩
    · simp [dequeueRoundRobin, index, List.getElem?_eq_getElem within, nameable, found,
        removeWorkload]
    · rw [service, first, name]
    · rw [removed, queuedAdmissions_eq, queuedAdmissions_eq]
      simpa only [List.singleton_append] using before
    · rw [removed]
      have absent : entry.workloadOrder[entry.nextWorkloadIndex] ∉ rest := by
        have once := nodup_rotation shape.distinct entry.nextWorkloadIndex
        rw [first, List.nodup_cons] at once
        exact once.1
      have whole : rotation entry.workloadOrder
          ((entry.nextWorkloadIndex + 1) % entry.workloadOrder.length) =
            rest ++ [entry.workloadOrder[entry.nextWorkloadIndex]] := turned
      refine turns.trans ?_
      rw [service, whole, List.erase_append_right _ absent, List.erase_cons_head, List.append_nil]
    · rw [removed]
  · refine ⟨queued, rest, _, ?_, ?_, ?_, turning.set present last ?_, .inl ?_, rfl⟩
    · simp [dequeueRoundRobin, index, List.getElem?_eq_getElem within, nameable, found, last]
    · rw [service, first, name]
    · rw [queuedAdmissions_eq, queuedAdmissions_eq]
      have after := (OrderedMap.values_perm_set entry.queues
        entry.workloadOrder[entry.nextWorkloadIndex] later).flatten
      refine before.trans ?_
      rw [List.cons_append]
      exact after.symm.cons _
    · intro other member
      exact shape.named _ stands other (List.mem_cons_of_mem _ member)
    · rw [name]
      exact turned

/-- The delay until the next admission, once the queue was served. -/
def nextAdmissionDelay (entry : OriginEntryV1) (waitMs : ℚ) : ℚ :=
  max 0 (max (entry.nextAdmissionAt - waitMs)
    (if 1 ≤ entry.tokens then 0
      else ⌈(1 - entry.tokens) * 1000 / entry.policy.requestsPerSecond⌉))

theorem scheduleNextAdmission_eq (entry : OriginEntryV1) (clock : DrainClockV1) :
    entry.scheduleNextAdmission clock =
      if entry.queuedCount = 0 ∨ clock.circuitMs < entry.circuitOpenUntil ∨
          entry.nextAdmissionDelay clock.waitMs = 0 then entry
      else { entry with timer := true } := by
  by_cases idle : entry.queuedCount = 0 ∨ clock.circuitMs < entry.circuitOpenUntil
  · rw [scheduleNextAdmission, if_pos idle, if_pos (by tauto)]
  · rw [scheduleNextAdmission, if_neg idle]
    by_cases now : entry.nextAdmissionDelay clock.waitMs = 0
    · rw [@if_pos (_ ∨ _) _ (.inr (.inr now))]
      exact if_pos now
    · rw [@if_neg (_ ∨ _) _ (by tauto)]
      exact if_neg now

theorem recordCompletion_eq (entry : OriginEntryV1) (completion : SchedulerCompletionV1)
    (nowMs : ℚ) : ∃ failures openUntil, entry.recordCompletion completion nowMs =
      { entry with transientFailures := failures, circuitOpenUntil := openUntil } := by
  cases completion with
  | success => exact ⟨_, _, rfl⟩
  | neutral => exact ⟨_, _, rfl⟩
  | transientFailure =>
    simp only [recordCompletion]
    split <;> exact ⟨_, _, rfl⟩

theorem drain_cases (entry : OriginEntryV1) (aborted : List Nat) (clock : DrainClockV1) :
    ∃ ready, ready = (entry.refill clock.nowMs).dropCancelled aborted ∧
      (ready.queuedCount = 0 ∧ entry.drain aborted clock = ready ∨
        ready.queuedCount ≠ 0 ∧ clock.nowMs < ready.circuitOpenUntil ∧
          entry.drain aborted clock = ready.rejectQueuedForOpenCircuit ∨
        ready.queuedCount ≠ 0 ∧ ready.circuitOpenUntil ≤ clock.nowMs ∧
          entry.drain aborted clock =
            (admitQueued clock.nowMs aborted ready.queuedCount ready).scheduleNextAdmission
              clock) := by
  refine ⟨_, rfl, ?_⟩
  by_cases empty : ((entry.refill clock.nowMs).dropCancelled aborted).queuedCount = 0
  · exact .inl ⟨empty, by simp only [drain, if_pos empty]⟩
  · by_cases circuit : clock.nowMs <
        ((entry.refill clock.nowMs).dropCancelled aborted).circuitOpenUntil
    · exact .inr (.inl ⟨empty, circuit, by simp only [drain, if_neg empty, if_pos circuit]⟩)
    · exact .inr (.inr ⟨empty, not_lt.mp circuit,
        by simp only [drain, if_neg empty, if_neg circuit]⟩)

end OriginEntryV1

end Klura
