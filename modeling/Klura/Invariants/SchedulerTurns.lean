import Klura.Invariants.AdmissionRate

/-! Every request is settled once, nobody who gave up is served, and workloads take turns. -/

namespace Klura

/-- The workloads that wait after a moment. -/
def OriginMomentV1.waiting : OriginMomentV1 → List String
  | .queued waiting => waiting
  | .rejected _ _ waiting => waiting
  | .admitted _ waiting => waiting

/-- The request that a moment settles. -/
def OriginMomentV1.settles : OriginMomentV1 → Option Nat
  | .queued _ => none
  | .rejected id _ _ => some id
  | .admitted admission _ => some admission.id

/-- Whether one workload has waited, unserved, ever since another one's last admission. -/
def owes : List OriginMomentV1 → String → String → Bool
  | [], _, _ => false
  | .admitted admission waiting :: older, served, waits =>
    if admission.workloadId = served then waits != served && waiting.contains waits
    else admission.workloadId != waits && waiting.contains waits && owes older served waits
  | .queued waiting :: older, served, waits => waiting.contains waits && owes older served waits
  | .rejected _ _ waiting :: older, served, waits =>
    waiting.contains waits && owes older served waits

/-- Between two admissions of one workload, every other one that waits all along is admitted. -/
def TurnsFair (history : List OriginMomentV1) : Prop :=
  ∀ newer second waitingSecond middle first waitingFirst older,
    history = newer ++ .admitted second waitingSecond ::
      (middle ++ .admitted first waitingFirst :: older) →
    second.workloadId = first.workloadId →
    (∀ admission waiting, .admitted admission waiting ∈ middle →
      admission.workloadId ≠ first.workloadId) →
    ∀ other, other ≠ first.workloadId → other ∈ waitingFirst →
      (∀ moment ∈ middle, other ∈ moment.waiting) →
        ∃ admission waiting, .admitted admission waiting ∈ middle ∧ admission.workloadId = other

/-- Every request is settled at most once, and none is admitted whose caller gave it up. -/
structure SettledOnce (history : List OriginMomentV1) : Prop where
  once : (history.filterMap (·.settles)).Nodup
  wanted : ∀ admission waiting, .admitted admission waiting ∈ history →
    admission.cancelled = false

theorem owes_through {middle older : List OriginMomentV1} {first : AdmissionV1}
    {waitingFirst : List String} {other : String} (differs : other ≠ first.workloadId)
    (waited : other ∈ waitingFirst) (through : ∀ moment ∈ middle, other ∈ moment.waiting)
    (others : ∀ admission waiting, .admitted admission waiting ∈ middle →
      admission.workloadId ≠ first.workloadId ∧ admission.workloadId ≠ other) :
    owes (middle ++ .admitted first waitingFirst :: older) first.workloadId other = true := by
  induction middle with
  | nil => simp [owes, differs, waited]
  | cons moment middle ih =>
    have later := ih (fun between member => through between (List.mem_cons_of_mem _ member))
      (fun admission waiting member => others admission waiting (List.mem_cons_of_mem _ member))
    have waits : other ∈ moment.waiting := through moment (by simp)
    cases moment with
    | queued waiting =>
      simp only [OriginMomentV1.waiting] at waits
      simp [owes, later, waits]
    | rejected id reason waiting =>
      simp only [OriginMomentV1.waiting] at waits
      simp [owes, later, waits]
    | admitted admission waiting =>
      simp only [OriginMomentV1.waiting] at waits
      obtain ⟨notFirst, notOther⟩ := others admission waiting (by simp)
      simp [owes, later, waits, notFirst, notOther]

variable {history : List OriginMomentV1}

theorem ne_of_owes {served waits : String} (owed : owes history served waits = true) :
    waits ≠ served := by
  induction history with
  | nil => simp [owes] at owed
  | cons moment older ih =>
    cases moment with
    | queued waiting =>
      simp only [owes, Bool.and_eq_true] at owed
      exact ih owed.2
    | rejected id reason waiting =>
      simp only [owes, Bool.and_eq_true] at owed
      exact ih owed.2
    | admitted admission waiting =>
      by_cases same : admission.workloadId = served
      · simp only [owes, same, if_true, Bool.and_eq_true, bne_iff_ne] at owed
        exact owed.1
      · simp only [owes, same, if_false, Bool.and_eq_true] at owed
        exact ih owed.2

theorem turnsFair_of_unowed
    (unowed : ∀ newer admission waiting older, history = newer ++ .admitted admission waiting :: older → ∀ other, owes older admission.workloadId other = false) :
    TurnsFair history := by
  intro newer second waitingSecond middle first waitingFirst older split same consecutive other
    differs waited through
  by_contra unserved
  push Not at unserved
  have owed := @owes_through middle older first waitingFirst other differs waited through
    fun admission waiting member =>
      ⟨consecutive admission waiting member, unserved admission waiting member⟩
  have none := unowed newer second waitingSecond _ split other
  rw [same, owed] at none
  cases none

namespace OriginEntryV1

/-- What the turns depend on is the same. -/
structure QueueSame (before after : OriginEntryV1) : Prop where
  queues : after.queues = before.queues
  workloadOrder : after.workloadOrder = before.workloadOrder
  nextWorkloadIndex : after.nextWorkloadIndex = before.nextWorkloadIndex
  history : after.history = before.history

/-- The requests that wait and those that were settled. -/
def ids (entry : OriginEntryV1) : List Nat :=
  entry.queuedIds ++ entry.history.filterMap (·.settles)

/-- What the state of an origin says about the turns to come, all its requests known so far. -/
structure TurnsKeep (entry : OriginEntryV1) (nextId : Nat) : Prop where
  shape : entry.Shape
  ids : entry.ids.Nodup
  known : ∀ id ∈ entry.ids, id < nextId
  wanted : ∀ admission waiting, .admitted admission waiting ∈ entry.history →
    admission.cancelled = false
  /-- Who is owed a turn has it before whoever owes it. -/
  ahead : ∀ served waits, owes entry.history served waits = true →
    Ahead entry.service waits served
  unowed : ∀ newer admission waiting older,
    entry.history = newer ++ .admitted admission waiting :: older →
      ∀ other, owes older admission.workloadId other = false

namespace TurnsKeep

variable {entry : OriginEntryV1} {nextId : Nat}

variable {after : OriginEntryV1}

theorem same (keeps : entry.TurnsKeep nextId) (queue : QueueSame entry after) :
    after.TurnsKeep nextId := by
  obtain ⟨queues, workloadOrder, nextWorkloadIndex, history⟩ := queue
  obtain ⟨shape, ids, known, wanted, ahead, unowed⟩ := keeps
  have admissions : after.queuedAdmissions = entry.queuedAdmissions := by
    rw [queuedAdmissions, queues]
    rfl
  have sameIds : after.ids = entry.ids := by
    rw [OriginEntryV1.ids, queuedIds, admissions, history]
    rfl
  refine ⟨?_, ?_, ?_, ?_, ?_, ?_⟩
  · exact
      { keys := by rw [queues, workloadOrder]; exact shape.keys
        distinct := by rw [workloadOrder]; exact shape.distinct
        requested := by rw [queues]; exact shape.requested
        named := by rw [queues]; exact shape.named
        nameable := by rw [workloadOrder]; exact shape.nameable
        cursor := by rw [workloadOrder, nextWorkloadIndex]; exact shape.cursor }
  · rw [sameIds]
    exact ids
  · rw [sameIds]
    exact known
  · rw [history]
    exact wanted
  · rw [history, service, workloadOrder, nextWorkloadIndex]
    exact ahead
  · rw [history]
    exact unowed

theorem distinct (keeps : entry.TurnsKeep nextId) : entry.queuedAdmissions.Nodup :=
  List.Nodup.of_map _ (List.nodup_append.mp keeps.ids).1

theorem later {lastId : Nat} (keeps : entry.TurnsKeep nextId) (more : nextId ≤ lastId) :
    entry.TurnsKeep lastId where
  shape := keeps.shape
  ids := keeps.ids
  known id member := lt_of_lt_of_le (keeps.known id member) more
  wanted := keeps.wanted
  ahead := keeps.ahead
  unowed := keeps.unowed

theorem newEntry (policy : OriginSchedulerTrafficPolicyV1)
    (recovered : Option PersistedOriginStateV1) (nowMs : ℚ) :
    (OriginSchedulerV1.newEntry policy recovered nowMs).TurnsKeep nextId where
  shape := by constructor <;> simp [OriginSchedulerV1.newEntry, OrderedMap.keys]
  ids := by simp [OriginSchedulerV1.newEntry, OriginEntryV1.ids, queuedIds, queuedAdmissions]
  known := by simp [OriginSchedulerV1.newEntry, OriginEntryV1.ids, queuedIds, queuedAdmissions]
  wanted := by simp [OriginSchedulerV1.newEntry]
  ahead := by simp [OriginSchedulerV1.newEntry, owes]
  unowed := by simp [OriginSchedulerV1.newEntry]

/-- A moment that admits nobody leaves those owed that wait after it. -/
theorem noted {before : OriginEntryV1} {moment : List String → OriginMomentV1} {lastId : Nat}
    (keeps : before.TurnsKeep lastId) (shape : after.Shape)
    (history : after.history = before.history)
    (quiet : ∀ waiting older served waits, owes (moment waiting :: older) served waits = true → waits ∈ waiting ∧ owes older served waits = true)
    (notAdmitted : ∀ waiting admission others, moment waiting ≠ .admitted admission others)
    (ids : (after.note moment).ids.Nodup) (known : ∀ id ∈ (after.note moment).ids, id < nextId)
    (ahead : ∀ served waits, owes before.history served waits = true → waits ∈ after.workloadOrder → Ahead after.service waits served) :
    (after.note moment).TurnsKeep nextId where
  shape :=
    { keys := shape.keys
      distinct := shape.distinct
      requested := shape.requested
      named := shape.named
      nameable := shape.nameable
      cursor := shape.cursor }
  ids := ids
  known := known
  wanted admission waiting member := by
    simp only [note, history, List.mem_cons] at member
    rcases member with same | old
    · exact absurd same.symm (notAdmitted _ _ _)
    · exact keeps.wanted admission waiting old
  ahead served waits owed := by
    simp only [note, history] at owed
    obtain ⟨still, before'⟩ := quiet _ _ _ _ owed
    rw [shape.waiting] at still
    exact ahead served waits before' still
  unowed newer admission waiting older split := by
    simp only [note, history] at split
    cases newer with
    | nil =>
      simp only [List.nil_append, List.cons.injEq] at split
      exact absurd split.1 (notAdmitted _ _ _)
    | cons first newer =>
      simp only [List.cons_append, List.cons.injEq] at split
      exact keeps.unowed newer admission waiting older split.2

/-- A request joins its queue, and no workload that is owed a turn loses its place. -/
theorem enqueued {queued : QueuedAdmissionV1} (keeps : entry.TurnsKeep queued.id)
    (named : queued.workloadId ≠ "")
    (turn : queued.workloadId ∉ entry.workloadOrder →
      ∀ waits ∈ entry.workloadOrder.take entry.nextWorkloadIndex,
        owes entry.history queued.workloadId waits = false) :
    ((entry.enqueue queued).note .queued).TurnsKeep (queued.id + 1) := by
  have shape := keeps.shape.enqueue named
  have history : (entry.enqueue queued).history = entry.history := by
    rcases enqueue_cases keeps.shape queued with ⟨queue, _, is⟩ | ⟨_, is⟩ <;> rw [is]
  have more : List.Perm ((entry.enqueue queued).note .queued).ids (queued.id :: entry.ids) := by
    have waits := (queuedAdmissions_enqueue keeps.shape queued).map (·.id)
    simp only [OriginEntryV1.ids, note, history, OriginMomentV1.settles, List.filterMap_cons]
    exact waits.append_right _
  have fresh : queued.id ∉ entry.ids := fun member => Nat.lt_irrefl _ (keeps.known _ member)
  apply keeps.noted shape history
  · intro waiting older served waits owed
    simpa [owes] using owed
  · intro waiting admission others same
    cases same
  · exact more.nodup_iff.mpr (List.nodup_cons.mpr ⟨fresh, keeps.ids⟩)
  · intro id member
    rcases List.mem_cons.mp (more.mem_iff.mp member) with rfl | old
    · exact Nat.lt_succ_self _
    · exact Nat.lt_succ_of_lt (keeps.known id old)
  · intro served waits owed _
    have before := keeps.ahead served waits owed
    rcases enqueue_cases keeps.shape queued with ⟨queue, _, is⟩ | ⟨absent, is⟩
    · rw [is]
      exact before
    · rw [is, service]
      have within : entry.nextWorkloadIndex ≤ entry.workloadOrder.length := by
        have cursor := keeps.shape.cursor
        omega
      simp only
      rw [rotation_join within]
      by_cases mine : served = queued.workloadId
      · -- The joining workload comes before those that the cursor has passed.
        subst mine
        have behind : waits ∈ entry.workloadOrder.drop entry.nextWorkloadIndex := by
          have member := before.mem
          rw [service, rotation, List.mem_append] at member
          refine member.resolve_right fun passed => ?_
          rw [turn absent waits passed] at owed
          cases owed
        have apart : queued.workloadId ∉
            entry.workloadOrder.drop entry.nextWorkloadIndex :=
          fun member => absent (List.mem_of_mem_drop member)
        exact Ahead.of_mem behind apart _
      · exact before.insert mine

/-- A waiting request is turned away. -/
theorem rejected {reason : SchedulerRejectionV1} {queued : QueuedAdmissionV1}
    (keeps : entry.TurnsKeep nextId) (waits : queued ∈ entry.queuedAdmissions) :
    (entry.rejectQueued reason queued).TurnsKeep nextId := by
  have shape := keeps.shape.removeQueued waits
  have turns := service_removeQueued keeps.shape waits
  have history : (entry.removeQueued queued).history = entry.history := by
    rcases removeQueued_cases keeps.shape waits with ⟨queue, found, _, _, is⟩ | ⟨found, is⟩
    · rw [is]
    · obtain ⟨next, removed, _⟩ := removeWorkload_spec keeps.shape.distinct keeps.shape.cursor
        (keeps.shape.mem_order found)
      rw [is, removed]
  have moved : List.Perm (entry.rejectQueued reason queued).ids entry.ids := by
    have ids := ((queuedAdmissions_removeQueued keeps.shape waits).map (·.id)).append_right
      (entry.history.filterMap (·.settles))
    simp only [OriginEntryV1.ids, rejectQueued, note, history, OriginMomentV1.settles,
      List.filterMap_cons]
    exact List.perm_middle.trans ids.symm
  refine keeps.noted shape history ?_ ?_ (moved.nodup_iff.mpr keeps.ids)
    (fun id member => keeps.known id (moved.mem_iff.mp member)) ?_
  · intro waiting older served waits owed
    simpa [owes] using owed
  · intro waiting admission others same
    cases same
  · intro served other owed still
    have before := keeps.ahead served other owed
    rcases turns with same | erased
    · rw [same]
      exact before
    · rw [erased]
      apply before.erase
      intro gone
      have member : other ∈ (entry.removeQueued queued).service := by
        rw [service, mem_rotation]
        exact still
      rw [erased, gone] at member
      have once := nodup_rotation keeps.shape.distinct entry.nextWorkloadIndex
      exact (List.Nodup.not_mem_erase once) member

theorem rejectedAll {reason : SchedulerRejectionV1} {gone : List QueuedAdmissionV1}
    (keeps : entry.TurnsKeep nextId) (distinct : gone.Nodup)
    (wait : ∀ queued ∈ gone, queued ∈ entry.queuedAdmissions) :
    (gone.foldl (rejectQueued · reason) entry).TurnsKeep nextId ∧
      List.Perm entry.queuedAdmissions
        (gone ++ (gone.foldl (rejectQueued · reason) entry).queuedAdmissions) := by
  induction gone generalizing entry with
  | nil => exact ⟨keeps, List.Perm.refl _⟩
  | cons first rest ih =>
    have waits := wait first (by simp)
    obtain ⟨apart, distinct⟩ := List.nodup_cons.mp distinct
    have removed := queuedAdmissions_removeQueued keeps.shape waits
    have others : ∀ queued ∈ rest,
        queued ∈ (entry.rejectQueued reason first).queuedAdmissions := by
      intro queued member
      have before := removed.mem_iff.mp (wait queued (List.mem_cons_of_mem _ member))
      rcases List.mem_cons.mp before with same | later
      · exact absurd (same ▸ member) apart
      · exact later
    obtain ⟨kept, perm⟩ := ih (keeps.rejected waits) distinct others
    refine ⟨kept, removed.trans ?_⟩
    exact perm.cons first

/-- A permit is given to the request whose turn it is. -/
theorem granted {after : OriginEntryV1} {queued : QueuedAdmissionV1} {aborted : List Nat}
    {nowMs : ℚ} {rest : List String} (keeps : entry.TurnsKeep nextId) (shape : after.Shape)
    (history : after.history = entry.history)
    (first : entry.service = queued.workloadId :: rest)
    (perm : List.Perm entry.queuedAdmissions (queued :: after.queuedAdmissions))
    (turned : after.service = rest ++ [queued.workloadId] ∨ after.service = rest)
    (wanted : queued.aborted aborted = false) :
    (after.grantPermit queued nowMs aborted).TurnsKeep nextId := by
  have apart : queued.workloadId ∉ rest := by
    have once := nodup_rotation keeps.shape.distinct entry.nextWorkloadIndex
    rw [← service, first, List.nodup_cons] at once
    exact once.1
  have moved : ∃ more, after.service = rest ++ more := by
    rcases turned with more | none
    · exact ⟨_, more⟩
    · exact ⟨[], by rw [none, List.append_nil]⟩
  obtain ⟨more, turns⟩ := moved
  have waiting : (after.grantPermit queued nowMs aborted).history =
      .admitted
        { id := queued.id
          workloadId := queued.workloadId
          atMs := nowMs
          policy := after.policy
          unreleased := after.permits.length + 1
          circuitOpenUntil := after.circuitOpenUntil
          cancelled := queued.aborted aborted } after.workloadOrder :: entry.history := by
    rw [← history, ← shape.waiting]
    rfl
  have unowed : ∀ other, owes entry.history queued.workloadId other = false := by
    intro other
    cases owed : owes entry.history queued.workloadId other with
    | false => rfl
    | true =>
      -- Who is owed a turn would have it before the one whose turn it is.
      have before := keeps.ahead _ _ owed
      rw [first] at before
      exact absurd before.eq_head (ne_of_owes owed)
  have settled : List.Perm (after.grantPermit queued nowMs aborted).ids entry.ids := by
    have ids := (perm.map (·.id)).append_right (entry.history.filterMap (·.settles))
    simp only [OriginEntryV1.ids, waiting, OriginMomentV1.settles, List.filterMap_cons]
    exact List.perm_middle.trans ids.symm
  refine ⟨?_, settled.nodup_iff.mpr keeps.ids,
    fun id member => keeps.known id (settled.mem_iff.mp member), ?_, ?_, ?_⟩
  · exact
      { keys := shape.keys
        distinct := shape.distinct
        requested := shape.requested
        named := shape.named
        nameable := shape.nameable
        cursor := shape.cursor }
  · rw [waiting]
    intro admission others member
    rcases List.mem_cons.mp member with same | old
    · cases same
      exact wanted
    · exact keeps.wanted admission others old
  · rw [waiting]
    intro served waits owed
    have stays : (after.grantPermit queued nowMs aborted).service = rest ++ more := turns
    rw [stays]
    by_cases mine : queued.workloadId = served
    · -- Everybody who still waits comes before the workload that has just been served.
      simp only [owes, mine, if_true, Bool.and_eq_true, bne_iff_ne, List.contains_iff_mem] at owed
      have member : waits ∈ after.service := by
        rw [service, mem_rotation]
        exact owed.2
      have inRest : waits ∈ rest := by
        rcases turned with is | is
        · rw [is, List.mem_append, List.mem_singleton, mine] at member
          exact member.resolve_right owed.1
        · rwa [is] at member
      rw [← mine]
      exact Ahead.of_mem inRest apart more
    · simp only [owes, mine, if_false, Bool.and_eq_true, bne_iff_ne] at owed
      have before := keeps.ahead served waits owed.2
      rw [first] at before
      exact before.tail (Ne.symm owed.1.1) more
  · rw [waiting]
    intro newer admission others older split
    cases newer with
    | nil =>
      simp only [List.nil_append, List.cons.injEq, OriginMomentV1.admitted.injEq] at split
      obtain ⟨⟨rfl, _⟩, rfl⟩ := split
      exact unowed
    | cons head newer =>
      simp only [List.cons_append, List.cons.injEq] at split
      exact keeps.unowed newer admission others older split.2

/-- Serving the queue keeps the turns, and ends when nobody may be admitted any more. -/
theorem admitQueued {nowMs : ℚ} {aborted : List Nat} {fuel : Nat} (keeps : entry.TurnsKeep nextId)
    (wanted : ∀ queued ∈ entry.queuedAdmissions, queued.aborted aborted = false)
    (enough : entry.queuedCount ≤ fuel) :
    (OriginEntryV1.admitQueued nowMs aborted fuel entry).TurnsKeep nextId ∧
      ¬ (OriginEntryV1.admitQueued nowMs aborted fuel entry).Admits nowMs := by
  induction fuel generalizing entry with
  | zero =>
    refine ⟨keeps, fun admits => ?_⟩
    have some' : 0 < entry.queuedCount := admits.1
    omega
  | succ fuel ih =>
    by_cases admits : entry.Admits nowMs
    · have some' : entry.workloadOrder ≠ [] := by
        intro none
        have empty := keeps.shape.queuedCount_eq_zero_iff.mpr none
        have positive := admits.1
        omega
      obtain ⟨queued, rest, after, taken, first, perm, shape, turned, is⟩ :=
        dequeueRoundRobin_spec keeps.shape some' entry.workloadOrder.length
      simp only [OriginEntryV1.admitQueued, if_pos admits, taken]
      have history : after.history = entry.history := by rw [is]
      have mine : queued.aborted aborted = false := wanted queued (perm.mem_iff.mpr (by simp))
      apply ih (keeps.granted shape history first perm turned mine)
      · intro other member
        exact wanted other (perm.mem_iff.mpr (List.mem_cons_of_mem _ member))
      · have fewer := perm.length_eq
        rw [List.length_cons, ← queuedCount_eq, ← queuedCount_eq] at fewer
        have same : (after.grantPermit queued nowMs aborted).queuedCount = after.queuedCount := rfl
        omega
    · simp only [OriginEntryV1.admitQueued, if_neg admits]
      exact ⟨keeps, admits⟩

theorem dropCancelled {aborted : List Nat} (keeps : entry.TurnsKeep nextId) :
    (entry.dropCancelled aborted).TurnsKeep nextId ∧
      ∀ queued ∈ (entry.dropCancelled aborted).queuedAdmissions,
        queued.aborted aborted = false := by
  have gone := @rejectedAll entry nextId .cancelled (entry.queuedAdmissions.filter (·.aborted aborted))
    keeps (keeps.distinct.filter _) fun queued member => (List.mem_filter.mp member).1
  refine ⟨gone.1, fun queued member => ?_⟩
  have once := gone.2.nodup_iff.mp keeps.distinct
  have before := gone.2.mem_iff.mpr (List.mem_append_right _ member)
  cases wanted : queued.aborted aborted with
  | false => rfl
  | true =>
    -- A cancelled request is among those that were turned away, and so not among the others.
    have dropped : queued ∈ entry.queuedAdmissions.filter (·.aborted aborted) :=
      List.mem_filter.mpr ⟨before, wanted⟩
    exact absurd rfl ((List.nodup_append.mp once).2.2 _ dropped _ member)

theorem rejectQueuedForOpenCircuit (keeps : entry.TurnsKeep nextId) :
    entry.rejectQueuedForOpenCircuit.TurnsKeep nextId ∧
      entry.rejectQueuedForOpenCircuit.queuedCount = 0 := by
  have gone := @rejectedAll entry nextId .originCircuitOpen entry.queuedAdmissions keeps keeps.distinct
    fun queued member => member
  refine ⟨gone.1, ?_⟩
  have fewer := gone.2.length_eq
  rw [List.length_append] at fewer
  rw [queuedCount_eq]
  simp only [OriginEntryV1.rejectQueuedForOpenCircuit]
  omega

end TurnsKeep

/-- The entry once a drain has given out every permit that it may. -/
def served (entry : OriginEntryV1) (aborted : List Nat) (clock : DrainClockV1) : OriginEntryV1 :=
  admitQueued clock.nowMs aborted ((entry.refill clock.nowMs).dropCancelled aborted).queuedCount
    ((entry.refill clock.nowMs).dropCancelled aborted)

/-- A drain that leaves a request to wait for the delay alone can still set a timer for it. -/
def DelayOutlasts (entry : OriginEntryV1) (aborted : List Nat) (clock : DrainClockV1) : Prop :=
  entry.circuitOpenUntil ≤ clock.nowMs → (entry.served aborted clock).queuedCount ≠ 0 →
    ((entry.served aborted clock).active : ℚ) <
        (entry.served aborted clock).policy.maxConcurrency →
      1 ≤ (entry.served aborted clock).tokens →
        (entry.served aborted clock).timer = true ∨
          clock.waitMs < (entry.served aborted clock).nextAdmissionAt

instance (entry : OriginEntryV1) (aborted : List Nat) (clock : DrainClockV1) :
    Decidable (entry.DelayOutlasts aborted clock) :=
  inferInstanceAs (Decidable (_ → _ → _ → _ → _))

/-- Whoever waits does so for a permit that is out or for a timer that is set. -/
def Awake (entry : OriginEntryV1) : Prop :=
  entry.queuedCount = 0 ∨ entry.policy.maxConcurrency ≤ entry.active ∨ entry.timer = true

theorem served_circuit (entry : OriginEntryV1) (aborted : List Nat) (clock : DrainClockV1) :
    (entry.served aborted clock).circuitOpenUntil = entry.circuitOpenUntil := by
  have loop : ∀ fuel (before : OriginEntryV1),
      (admitQueued clock.nowMs aborted fuel before).circuitOpenUntil =
        before.circuitOpenUntil := by
    intro fuel
    induction fuel with
    | zero => exact fun before => rfl
    | succ fuel ih =>
      intro before
      by_cases admits : before.Admits clock.nowMs
      · have rate := dequeueRoundRobin_rate (before.workloadOrder.length + 1) before
        cases taken : dequeueRoundRobin (before.workloadOrder.length + 1) before with
        | mk queued after =>
          rw [taken] at rate
          cases queued with
          | none =>
            simp only [admitQueued, if_pos admits, taken]
            exact rate.circuitOpenUntil
          | some queued =>
            simp only [admitQueued, if_pos admits, taken]
            exact (ih _).trans rate.circuitOpenUntil
      · simp only [admitQueued, if_neg admits]
  exact (loop _ _).trans (rejectAll_rate _ _ _).circuitOpenUntil

/-- A drain keeps the turns, and leaves everybody awake where the delay outlasts its readings. -/
theorem TurnsKeep.drain {entry : OriginEntryV1} {nextId : Nat} {aborted : List Nat}
    {clock : DrainClockV1} (keeps : entry.TurnsKeep nextId) :
    (entry.drain aborted clock).TurnsKeep nextId ∧
      (∀ lastMs, clock.Follows lastMs → entry.DelayOutlasts aborted clock →
        (entry.drain aborted clock).Awake) := by
  have refilled : (entry.refill clock.nowMs).TurnsKeep nextId := keeps.same (by constructor <;> rfl)
  obtain ⟨ready, is, cases'⟩ := drain_cases entry aborted clock
  have dropped := @dropCancelled _ _ aborted refilled
  rw [← is] at dropped
  rcases cases' with ⟨empty, drained⟩ | ⟨_, _, drained⟩ | ⟨_, closed, drained⟩
  · rw [drained]
    exact ⟨dropped.1, fun _ _ _ => .inl empty⟩
  · rw [drained]
    have none := dropped.1.rejectQueuedForOpenCircuit
    exact ⟨none.1, fun _ _ _ => .inl none.2⟩
  · have loop :
        (OriginEntryV1.admitQueued clock.nowMs aborted ready.queuedCount ready).TurnsKeep nextId ∧
        ¬ (OriginEntryV1.admitQueued clock.nowMs aborted ready.queuedCount ready).Admits
          clock.nowMs :=
      dropped.1.admitQueued dropped.2 (le_refl _)
    obtain ⟨kept, ended⟩ := loop
    have serves : OriginEntryV1.admitQueued clock.nowMs aborted ready.queuedCount ready =
        entry.served aborted clock := by
      rw [is]
      rfl
    rw [serves] at kept ended
    have circuit : entry.circuitOpenUntil = ready.circuitOpenUntil := by
      rw [is]
      exact (rejectAll_rate .cancelled _ (entry.refill clock.nowMs)).circuitOpenUntil.symm
    rw [drained, serves, scheduleNextAdmission_eq]
    refine ⟨?_, fun lastMs follows outlasts => ?_⟩
    · split
      · exact kept
      · exact kept.same (by constructor <;> rfl)
    · have within : ¬ clock.circuitMs < (entry.served aborted clock).circuitOpenUntil := by
        rw [served_circuit, circuit]
        exact not_lt.mpr (closed.trans follows.2.1)
      by_cases empty : (entry.served aborted clock).queuedCount = 0
      · rw [if_pos (.inl empty)]
        exact .inl empty
      · by_cases full : (entry.served aborted clock).policy.maxConcurrency ≤
            (entry.served aborted clock).active
        · split
          · exact .inr (.inl full)
          · exact .inr (.inl full)
        · have fits := not_le.mp full
          by_cases still : (entry.served aborted clock).nextAdmissionDelay clock.waitMs = 0
          · -- Nothing to wait for: the loop stopped on the delay, which had not passed then.
            rw [if_pos (.inr (.inr still))]
            have noDelay := still
            unfold nextAdmissionDelay at noDelay
            have token : 1 ≤ (entry.served aborted clock).tokens := by
              by_contra few
              rw [if_neg few] at noDelay
              have missing : 0 < (1 - (entry.served aborted clock).tokens) * 1000 /
                  (entry.served aborted clock).policy.requestsPerSecond := by
                apply div_pos _ (entry.served aborted clock).policy.rateRange.1
                linarith
              have least := Int.ceil_pos.mpr missing
              have positive : (0 : ℚ) < ⌈(1 - (entry.served aborted clock).tokens) * 1000 /
                  (entry.served aborted clock).policy.requestsPerSecond⌉ := by
                exact_mod_cast least
              have bound := (le_max_right _ _).trans ((le_max_right _ _).trans noDelay.le)
              exact absurd positive (not_lt.mpr bound)
            rcases outlasts (circuit.trans_le closed) empty fits token with armed | waits
            · exact .inr (.inr armed)
            · have bound := (le_max_left _ _).trans ((le_max_right _ _).trans noDelay.le)
              linarith
          · rw [@if_neg (_ ∨ _) _ (by tauto)]
            exact .inr (.inr rfl)

end OriginEntryV1

/-- Writes succeed where somebody would wait for the release, delays outlast the readings of their
drain, and who joins behind the cursor owes no turn to a workload before it. -/
def ServesInTurn (scheduler : OriginSchedulerV1) : SchedulerEventV1 → Prop
  | .acquire policy signal workloadId entryMs clock =>
    ∀ entry known workload, scheduler.getEntry policy entryMs = .ok (entry, known) →
      parseWorkloadId workloadId = .ok workload →
        signal.any (· ∈ scheduler.aborted) = true ∨
          ((entry.enqueue ⟨scheduler.nextId, signal, workload⟩).note .queued).DelayOutlasts
            scheduler.aborted clock ∧
          (workload ∉ entry.workloadOrder →
            ∀ waits ∈ entry.workloadOrder.take entry.nextWorkloadIndex,
              owes entry.history workload waits = false)
  | .release origin id completion write completedMs _ clock =>
    ∀ entry, scheduler.entries.get? origin = some entry → id ∈ entry.permits →
      if scheduler.statePath = true ∧ write ≠ .succeeds then
        entry.queuedCount = 0 ∨ entry.timer = true ∨
          entry.policy.maxConcurrency ≤ ((entry.active - 1 : ℕ) : ℚ)
      else
        ((entry.free id).recordCompletion completion completedMs).DelayOutlasts
          scheduler.aborted clock
  | .timer origin clock =>
    ∀ entry, scheduler.entries.get? origin = some entry → entry.timer = true →
      { entry with timer := false }.DelayOutlasts scheduler.aborted clock
  | _ => True

open OriginEntryV1

/-- What every event keeps of an origin's turns. -/
structure OriginEntryV1.TurnsInForce (scheduler : OriginSchedulerV1) (entry : OriginEntryV1) :
    Prop where
  turns : entry.TurnsKeep scheduler.nextId
  awake : entry.Awake

theorem parseWorkloadId_named {workloadId : Option String} {workload : String}
    (named : parseWorkloadId workloadId = .ok workload) : workload ≠ "" := by
  cases workloadId with
  | none =>
    cases named
    decide
  | some value =>
    simp only [parseWorkloadId] at named
    split at named
    · cases named
    · rename_i fits
      cases named
      exact fun empty => fits (.inl empty)

theorem OriginEntryV1.rejectQueued_timer {entry : OriginEntryV1} {reason : SchedulerRejectionV1}
    (shape : entry.Shape) {queued : QueuedAdmissionV1}
    (waits : queued ∈ entry.queuedAdmissions) :
    (entry.rejectQueued reason queued).timer = entry.timer := by
  have removed : (entry.removeQueued queued).timer = entry.timer := by
    rcases removeQueued_cases shape waits with ⟨queue, _, _, _, is⟩ | ⟨found, is⟩
    · rw [is]
    · obtain ⟨next, removed, _⟩ :=
        removeWorkload_spec shape.distinct shape.cursor (shape.mem_order found)
      rw [is, removed]
  exact removed

theorem OriginEntryV1.completed_queue (entry : OriginEntryV1) (id : Nat)
    (completion : SchedulerCompletionV1) (nowMs : ℚ) :
    QueueSame entry ((entry.free id).recordCompletion completion nowMs) := by
  obtain ⟨failures, openUntil, is⟩ := recordCompletion_eq (entry.free id) completion nowMs
  rw [is]
  constructor <;> rfl

theorem OriginEntryV1.TurnsKeep.serve {entry : OriginEntryV1} {queued : QueuedAdmissionV1}
    {aborted : List Nat} {clock : DrainClockV1} {lastMs : ℚ} (keeps : entry.TurnsKeep queued.id)
    (named : queued.workloadId ≠ "") (follows : clock.Follows lastMs)
    (outlasts : ((entry.enqueue queued).note .queued).DelayOutlasts aborted clock)
    (turn : queued.workloadId ∉ entry.workloadOrder →
      ∀ waits ∈ entry.workloadOrder.take entry.nextWorkloadIndex,
        owes entry.history queued.workloadId waits = false) :
    (entry.serve queued aborted clock).TurnsKeep (queued.id + 1) ∧
      (entry.serve queued aborted clock).Awake := by
  have drained := @TurnsKeep.drain _ _ aborted clock (keeps.enqueued named turn)
  exact ⟨drained.1, drained.2 lastMs follows outlasts⟩

/-- While every event serves in turn, the turns of every origin stay in force. -/
theorem originScheduler_turns {scheduler : OriginSchedulerV1}
    (reached : originScheduler.Reaches ServesInTurn scheduler) {origin : String}
    {entry : OriginEntryV1} (has : scheduler.entries.get? origin = some entry) :
    TurnsInForce scheduler entry := by
  refine originScheduler_invariant ?_ ?_ reached has
  · intro before after entry kept inForce
    exact ⟨inForce.turns.later kept.ids, inForce.awake⟩
  · intro before after event origin old entry serves kept move has known
    cases move with
    | @meets policy signal workloadId workload entryMs clock named starts follows ends counted
        wanted =>
      obtain ⟨_, met⟩ : ∃ keeping, before.getEntry policy entryMs =
          .ok (OriginSchedulerV1.newEntry policy (before.recovered.get? policy.origin) entryMs,
            keeping) := by
        simp only [OriginSchedulerV1.getEntry, has]
        exact ⟨_, rfl⟩
      obtain ⟨outlasts, turn⟩ := (serves _ _ workload met named).resolve_left wanted
      have fresh := @TurnsKeep.newEntry before.nextId policy
        (before.recovered.get? policy.origin) entryMs
      have served := @TurnsKeep.serve _ ⟨before.nextId, signal, workload⟩ _ _ _ fresh
        (parseWorkloadId_named named) follows outlasts turn
      exact ⟨counted ▸ served.1, served.2⟩
    | @joins policy merged signal workloadId workload entryMs clock entry named starts follows ends
        counted wanted merges =>
      obtain ⟨_, met⟩ : ∃ keeping, before.getEntry policy entryMs =
          .ok (entry.under merged, keeping) := by
        simp only [OriginSchedulerV1.getEntry, has, merges, bind, Except.bind]
        exact ⟨_, rfl⟩
      obtain ⟨outlasts, turn⟩ := (serves _ _ workload met named).resolve_left wanted
      have under : (entry.under merged).TurnsKeep before.nextId :=
        (known _ rfl).turns.same (by constructor <;> rfl)
      have served := @TurnsKeep.serve _ ⟨before.nextId, signal, workload⟩ _ _ _ under
        (parseWorkloadId_named named) follows outlasts turn
      exact ⟨counted ▸ served.1, served.2⟩
    | @throws _ id completion _ completedMs _ _ entry held starts writes =>
      obtain ⟨turns, _⟩ := known _ rfl
      have served := serves entry has held
      rw [if_pos writes] at served
      refine ⟨(turns.same (entry.completed_queue id completion completedMs)).later kept.ids, ?_⟩
      obtain ⟨failures, openUntil, is⟩ := recordCompletion_eq (entry.free id) completion completedMs
      rw [is]
      -- The release that threw leaves the queue as it was, with one permit fewer.
      rcases served with none | armed | full
      · exact .inl none
      · exact .inr (.inr armed)
      · exact .inr (.inl full)
    | @releases _ id completion _ completedMs _ clock entry held starts ordered follows ends
        returns =>
      obtain ⟨turns, _⟩ := known _ rfl
      have outlasts := serves entry has held
      rw [if_neg returns] at outlasts
      have drained := @TurnsKeep.drain _ _ before.aborted clock
        (turns.same (entry.completed_queue id completion completedMs))
      exact ⟨drained.1.later kept.ids, drained.2 _ follows outlasts⟩
    | @leaves _ queued entry waits gone =>
      obtain ⟨turns, awake⟩ := known _ rfl
      have rate := rejectQueued_rate entry .cancelled queued
      refine ⟨(turns.rejected waits).later kept.ids, ?_⟩
      rcases awake with none | full | armed
      · rw [queuedCount_eq, List.length_eq_zero_iff] at none
        simp [none] at waits
      · right
        left
        rw [rate.policy, rate.active]
        exact full
      · right
        right
        rw [rejectQueued_timer turns.shape waits]
        exact armed
    | @wakes _ clock entry armed follows ends =>
      obtain ⟨turns, _⟩ := known _ rfl
      have queue : QueueSame entry { entry with timer := false } := by constructor <;> rfl
      have drained := @TurnsKeep.drain _ _ before.aborted clock (turns.same queue)
      exact ⟨drained.1.later kept.ids, drained.2 _ follows (serves entry has armed)⟩

/-- What a scheduler owes its callers at one origin. -/
structure ServesCallers (entry : OriginEntryV1) : Prop where
  /-- A request waits for permits that are out or for a timer that is set. -/
  awake : entry.queuedCount = 0 ∨ entry.policy.maxConcurrency ≤ entry.permits.length ∨
    entry.timer = true
  settled : SettledOnce entry.history
  fair : TurnsFair entry.history

/-- A request of one workload under one concurrent request, at a time. -/
def asks (workloadId : String) (atMs : ℚ) : SchedulerEventV1 :=
  .acquire (localPolicy 1 one_inRange) none (some workloadId) atMs ⟨atMs, atMs, atMs⟩

/-- The release of a permit at a time, with a write that goes this way. -/
def gives (id : Nat) (write : PersistWriteV1) (atMs : ℚ) : SchedulerEventV1 :=
  .release "https://example.com" id .success write atMs atMs ⟨atMs, atMs, atMs⟩

/-- A release whose write fails while another request waits. -/
def forgottenRequest : List SchedulerEventV1 :=
  [asks "a" 0, asks "b" 0, gives 0 .failsBeforeRename 1000]

/-- A workload that leaves and joins again behind the cursor, before one that waits all along. -/
def passedOver : List SchedulerEventV1 :=
  [asks "x" 0, asks "a" 0, asks "a" 0, asks "b" 0, asks "c" 0, gives 0 .succeeds 1000,
    gives 1 .succeeds 2000, asks "b" 2000, gives 3 .succeeds 3000, gives 4 .succeeds 4000]

/-- Whether anybody waits at an origin, the permits that are out, and whether a timer is set. -/
def waitsFor (scheduler : OriginSchedulerV1) : Option (Nat × Nat × Bool × ℚ) :=
  (scheduler.entries.get? "https://example.com").map fun entry =>
    (entry.queuedCount, entry.permits.length, entry.timer, entry.policy.maxConcurrency)

/-- Who is admitted at a moment, if anybody, and who waits then. -/
def turnOf : OriginMomentV1 → Option String × List String
  | .admitted admission waiting => (some admission.workloadId, waiting)
  | moment => (none, moment.waiting)

/-- The turns at an origin, newest first. -/
def turnsTaken (scheduler : OriginSchedulerV1) : Option (List (Option String × List String)) :=
  (scheduler.entries.get? "https://example.com").map fun entry => entry.history.map turnOf

theorem admitted_of_turnOf {moment : OriginMomentV1} {workloadId : String} {waiting : List String}
    (turn : turnOf moment = (some workloadId, waiting)) :
    ∃ admission, moment = .admitted admission waiting ∧ admission.workloadId = workloadId := by
  cases moment with
  | queued waiting => simp [turnOf] at turn
  | rejected id reason waiting => simp [turnOf] at turn
  | admitted admission others =>
    simp only [turnOf, Prod.mk.injEq, Option.some.injEq] at turn
    exact ⟨admission, by rw [turn.2], turn.1⟩

end Klura
