import Klura.Browser.BoundaryMachine

/-! Every handler answers what the browser paused once, unless the browser dropped it. -/

namespace Klura

/-- Whether a handler at a stage has told the browser what to do. -/
def HandlerStageV1.answered : HandlerStageV1 → Bool
  | .acquiring _ | .granted _ _ | .queued _ | .reading _ _ _ | .bodyRead _ _ => false
  | .continuing _ | .answering | .fulfilling _ | .redirecting _ => true

/-- Whether a handler at a stage waits for the browser to take a response. -/
def HandlerStageV1.isFulfilling : HandlerStageV1 → Bool
  | .fulfilling _ => true
  | _ => false

/-- The permit of the admission that a handler at a stage is about. -/
def HandlerStageV1.own : HandlerStageV1 → Option Nat
  | .continuing permit | .redirecting permit => some permit
  | .queued admission | .reading admission _ _ | .bodyRead admission _ | .fulfilling admission =>
    some admission.permit
  | .acquiring _ | .granted _ _ | .answering => none

/-- The handler that an event belongs to. -/
def BrowserEventV1.actor : BrowserEventV1 → Option Nat
  | .acquired id | .acquireFailed id _ _ | .resumed id | .bodyOpened id | .bodyReplied id _
  | .commandDone id | .commandRejected id => some id
  | _ => none

/-- Whether a handler at a stage is reading a body. -/
def HandlerStageV1.isReading : HandlerStageV1 → Bool
  | .reading _ _ _ => true
  | _ => false

/-- The handlers that have answered, latest first. -/
def BrowserHandlersV1.told (handlers : BrowserHandlersV1) : List Nat := handlers.answers.map Prod.fst

/-- The identities of the suspended handlers. -/
def BrowserHandlersV1.ids (handlers : BrowserHandlersV1) : List Nat :=
  handlers.suspended.map (·.1.id)

/-- Each handler has answered once when its stage says so, and is counted while it is pending. -/
structure HandlersHold (handlers : BrowserHandlersV1) : Prop where
  distinct : handlers.ids.Nodup
  known : ∀ id ∈ handlers.ids, id < handlers.nextHandler
  once : handlers.told.Nodup
  toldKnown : ∀ id ∈ handlers.told, id < handlers.nextHandler
  answered : ∀ entry ∈ handlers.suspended, entry.2.answered = true ↔ entry.1.id ∈ handlers.told
  ended : ∀ id < handlers.nextHandler,
    id ∈ handlers.ids ∨ id ∈ handlers.told ∨ id ∈ handlers.dropped
  pending : handlers.pendingAdmissions = handlers.suspended.countP (·.1.counted)
  reads : ∀ entry ∈ handlers.suspended, entry.2.isReading = true →
    handlers.responseBodyQueue.head? = some entry.1.id

/-- The same of the suspended handlers while another one runs, which may have answered. -/
structure Running (handlers : BrowserHandlersV1) (handler : PausedHandlerV1) (answered : Bool) :
    Prop where
  distinct : (handler.id :: handlers.ids).Nodup
  known : ∀ id ∈ handler.id :: handlers.ids, id < handlers.nextHandler
  once : handlers.told.Nodup
  toldKnown : ∀ id ∈ handlers.told, id < handlers.nextHandler
  told : answered = true ↔ handler.id ∈ handlers.told
  answered : ∀ entry ∈ handlers.suspended, entry.2.answered = true ↔ entry.1.id ∈ handlers.told
  ended : ∀ id < handlers.nextHandler,
    id ∈ handler.id :: handlers.ids ∨ id ∈ handlers.told ∨ id ∈ handlers.dropped
  pending : handlers.pendingAdmissions =
    handlers.suspended.countP (·.1.counted) + if handler.counted then 1 else 0
  reads : ∀ entry ∈ handlers.suspended, entry.2.isReading = true →
    handlers.responseBodyQueue.head? = some entry.1.id

variable {id : Nat}

variable {suspended others : List (PausedHandlerV1 × HandlerStageV1)}
  {entry : PausedHandlerV1 × HandlerStageV1}

theorem takeHandler_perm (taken : BrowserHandlersV1.takeHandler id suspended = some (entry, others)) :
    entry.1.id = id ∧ suspended.Perm (entry :: others) := by
  induction suspended generalizing others with
  | nil => simp [BrowserHandlersV1.takeHandler] at taken
  | cons first rest ih =>
    by_cases same : first.1.id = id
    · simp only [BrowserHandlersV1.takeHandler, same, if_true, Option.some.injEq,
        Prod.mk.injEq] at taken
      obtain ⟨rfl, rfl⟩ := taken
      exact ⟨same, List.Perm.refl _⟩
    · simp only [BrowserHandlersV1.takeHandler, same, if_false, Option.map_eq_some_iff] at taken
      obtain ⟨⟨found, remaining⟩, later, equal⟩ := taken
      simp only [Prod.mk.injEq] at equal
      obtain ⟨rfl, rfl⟩ := equal
      obtain ⟨named, permuted⟩ := ih later
      exact ⟨named, (permuted.cons first).trans (List.Perm.swap _ _ _)⟩

theorem takeHandler_mem (taken : BrowserHandlersV1.takeHandler id suspended = some (entry, others)) :
    entry ∈ suspended ∧ entry.1.id = id := by
  obtain ⟨named, permuted⟩ := takeHandler_perm taken
  exact ⟨permuted.mem_iff.mpr List.mem_cons_self, named⟩

/-- The boundary while a handler runs that was suspended. -/
def BrowserBoundaryV1.without (boundary : BrowserBoundaryV1)
    (others : List (PausedHandlerV1 × HandlerStageV1)) : BrowserBoundaryV1 :=
  { boundary with handlers := { boundary.handlers with suspended := others } }

/-- What a handler that was suspended makes of the boundary when an event lets it go on. -/
inductive HandlerRun (urls : UrlClassV1) (handler : PausedHandlerV1) (rest : BrowserBoundaryV1) :
    BrowserEventV1 → HandlerStageV1 → BrowserBoundaryV1 → Prop where
  | acquired (id : Nat) (judged : JudgedBrowserRequestV1) :
      HandlerRun urls handler rest (.acquired id) (.acquiring judged) (rest.acquired handler judged)
  | acquireFailed (id : Nat) (cancelled : Bool) (message : Units)
      (judged : JudgedBrowserRequestV1) :
      HandlerRun urls handler rest (.acquireFailed id cancelled message) (.acquiring judged)
        (handleAcquireFailure handler cancelled message rest)
  | admitted (id : Nat) (judged : JudgedBrowserRequestV1) (permit : Nat) :
      HandlerRun urls handler rest (.resumed id) (.granted judged permit)
        (admitBrowserRequest urls handler judged permit rest)
  | answered (id : Nat) (admission : AdmittedBrowserRequestV1) (outcome : BodyOutcomeV1) :
      HandlerRun urls handler rest (.resumed id) (.bodyRead admission outcome)
        (answerBody handler admission outcome rest)
  | opened (id : Nat) (admission : AdmittedBrowserRequestV1)
      (turn : rest.handlers.responseBodyQueue.head? = some handler.id) :
      HandlerRun urls handler rest (.bodyOpened id) (.queued admission)
        (beginBody handler admission rest)
  | replied (id : Nat) (replies : List StreamReplyV1) (admission : AdmittedBrowserRequestV1)
      (limit remaining : Int) (outcome : BodyOutcomeV1)
      (read : readPausedResponseBody limit replies = some outcome) :
      HandlerRun urls handler rest (.bodyReplied id replies) (.reading admission limit remaining)
        (endBody urls handler admission limit remaining outcome rest)
  | finished (id : Nat) (stage : HandlerStageV1) (told : stage.answered = true)
      (other : stage.isFulfilling = false) :
      HandlerRun urls handler rest (.commandDone id) stage (rest.finished handler)
  | fulfilled (id : Nat) (admission : AdmittedBrowserRequestV1) :
      HandlerRun urls handler rest (.commandDone id) (.fulfilling admission)
        (settleFulfilled handler admission rest)
  | undone (id : Nat) :
      HandlerRun urls handler rest (.commandRejected id) .answering
        { rest with handlers := (rest.handlers.drop handler).finish handler }
  | dropped (id : Nat) (stage : HandlerStageV1) (permit : Nat) (own : stage.own = some permit)
      (told : stage.answered = true) :
      HandlerRun urls handler rest (.commandRejected id) stage (releaseDropped handler rest)

/-- What the users of the boundary do to its scopes. -/
inductive ScopeMove (scopes : BrowserScopesV1) : BrowserScopesV1 → Prop where
  | same : ScopeMove scopes scopes
  | beginRuntimeRequest : ScopeMove scopes scopes.beginRuntimeRequest
  | endRuntimeRequest (scope : Nat) : ScopeMove scopes (scopes.endRuntimeRequest scope)
  | beginAction (expect : BrowserActionExpectationV1) : ScopeMove scopes (scopes.beginAction expect)
  | finishAction (scope : Nat) (expect : BrowserActionExpectationV1) :
      ScopeMove scopes (scopes.finishAction scope expect)
  | abortAction (scope : Nat) : ScopeMove scopes (scopes.abortAction scope)
  | beginPageScript (expect : BrowserActionExpectationV1) (limits : BrowserRequestBodyPolicyV1)
      (origin : Units) : ScopeMove scopes (scopes.beginPageScript expect limits origin)
  | endPageScript (scope : Nat) : ScopeMove scopes (scopes.endPageScript scope)

/-- What a step does, by who takes it. -/
inductive StepCase (urls : UrlClassV1) (boundary : BrowserBoundaryV1) :
    BrowserEventV1 → BrowserBoundaryV1 → Prop where
  | paused (paused : BrowserFetchPausedV1) (opened : boundary.closed = false) :
      StepCase urls boundary (.requestPaused paused) (boundary.handleFetchPaused urls paused)
  | malformed : StepCase urls boundary .malformedPaused boundary.malformedPaused
  | handler {event : BrowserEventV1} {id : Nat} {handler : PausedHandlerV1}
      {stage : HandlerStageV1} {others : List (PausedHandlerV1 × HandlerStageV1)}
      {after : BrowserBoundaryV1} (actor : event.actor = some id)
      (taken : BrowserHandlersV1.takeHandler id boundary.handlers.suspended =
        some ((handler, stage), others))
      (runs : HandlerRun urls handler (boundary.without others) event stage after) :
      StepCase urls boundary event after
  | loadingEnded (networkId : Units) : StepCase urls boundary (.loadingEnded networkId)
      { boundary with
        traffic := boundary.traffic.releaseAll fun admission =>
          admission.networkId == some networkId }
  | scopes {event : BrowserEventV1} {scopes : BrowserScopesV1} (actor : event.actor = none)
      (moves : ScopeMove boundary.scopes scopes) :
      StepCase urls boundary event { boundary with scopes }
  | waits (maximumInFlight quietMs : Nat) :
      StepCase urls boundary (.waitForQuiet maximumInFlight quietMs)
        (boundary.waitForQuiet maximumInFlight quietMs)
  | unwaits {event : BrowserEventV1} (actor : event.actor = none) (id : Nat) :
      StepCase urls boundary event (boundary.withoutWaiter id)
  | transition (capability : BrowserNetworkCapabilityV1) (options : BrowserBoundaryOptionsV1) :
      StepCase urls boundary (.transition capability options)
        (boundary.transition capability options)
  | close : StepCase urls boundary .close boundary.close

variable {boundary after : BrowserBoundaryV1}

theorem withHandler_some
    {go : PausedHandlerV1 → HandlerStageV1 → BrowserBoundaryV1 → Option BrowserBoundaryV1}
    (goes : boundary.withHandler id go = some after) : ∃ handler stage others,
      BrowserHandlersV1.takeHandler id boundary.handlers.suspended =
        some ((handler, stage), others) ∧
      go handler stage (boundary.without others) = some after := by
  simp only [BrowserBoundaryV1.withHandler] at goes
  split at goes
  · cases goes
  · next handler stage others taken => exact ⟨handler, stage, others, taken, goes⟩

variable {scopes : BrowserScopesV1}

theorem whenHealthy_move (moves : ScopeMove boundary.scopes scopes) :
    ∃ moved, ScopeMove boundary.scopes moved ∧
      boundary.whenHealthy scopes = { boundary with scopes := moved } := by
  unfold BrowserBoundaryV1.whenHealthy
  split_ifs
  · exact ⟨boundary.scopes, .same, rfl⟩
  · exact ⟨scopes, moves, rfl⟩

variable {urls : UrlClassV1}

theorem resumed_cases (steps : boundary.step urls (.resumed id) = some after) :
    StepCase urls boundary (.resumed id) after := by
  delta BrowserBoundaryV1.step at steps
  dsimp only at steps
  obtain ⟨handler, stage, others, taken, goes⟩ := withHandler_some steps
  cases stage with
  | granted judged permit =>
    obtain rfl := Option.some.inj goes
    exact .handler rfl taken (.admitted id judged permit)
  | bodyRead admission outcome =>
    obtain rfl := Option.some.inj goes
    exact .handler rfl taken (.answered id admission outcome)
  | _ => simp at goes

theorem acquired_cases (steps : boundary.step urls (.acquired id) = some after) :
    StepCase urls boundary (.acquired id) after := by
  delta BrowserBoundaryV1.step at steps
  dsimp only at steps
  obtain ⟨handler, stage, others, taken, goes⟩ := withHandler_some steps
  cases stage with
  | acquiring judged =>
    obtain rfl := Option.some.inj goes
    exact .handler rfl taken (.acquired id judged)
  | _ => simp at goes

theorem acquireFailed_cases {cancelled : Bool} {message : Units}
    (steps : boundary.step urls (.acquireFailed id cancelled message) = some after) :
    StepCase urls boundary (.acquireFailed id cancelled message) after := by
  delta BrowserBoundaryV1.step at steps
  dsimp only at steps
  obtain ⟨handler, stage, others, taken, goes⟩ := withHandler_some steps
  cases stage with
  | acquiring judged =>
    obtain rfl := Option.some.inj goes
    exact .handler rfl taken (.acquireFailed id cancelled message judged)
  | _ => simp at goes

theorem bodyOpened_cases (steps : boundary.step urls (.bodyOpened id) = some after) :
    StepCase urls boundary (.bodyOpened id) after := by
  delta BrowserBoundaryV1.step at steps
  dsimp only at steps
  obtain ⟨handler, stage, others, taken, goes⟩ := withHandler_some steps
  cases stage with
  | queued admission =>
    simp only at goes
    split_ifs at goes with turn
    obtain rfl := Option.some.inj goes
    exact .handler rfl taken (.opened id admission turn)
  | _ => simp at goes

theorem bodyReplied_cases {replies : List StreamReplyV1}
    (steps : boundary.step urls (.bodyReplied id replies) = some after) :
    StepCase urls boundary (.bodyReplied id replies) after := by
  delta BrowserBoundaryV1.step at steps
  dsimp only at steps
  obtain ⟨handler, stage, others, taken, goes⟩ := withHandler_some steps
  cases stage with
  | reading admission limit remaining =>
    simp only [Option.map_eq_some_iff] at goes
    obtain ⟨outcome, read, rfl⟩ := goes
    exact .handler rfl taken (.replied id replies admission limit remaining outcome read)
  | _ => simp at goes

theorem commandDone_cases (steps : boundary.step urls (.commandDone id) = some after) :
    StepCase urls boundary (.commandDone id) after := by
  delta BrowserBoundaryV1.step at steps
  dsimp only at steps
  obtain ⟨handler, stage, others, taken, goes⟩ := withHandler_some steps
  cases stage with
  | fulfilling admission =>
    obtain rfl := Option.some.inj goes
    exact .handler rfl taken (.fulfilled id admission)
  | continuing permit =>
    obtain rfl := Option.some.inj goes
    exact .handler rfl taken (.finished id _ rfl rfl)
  | answering =>
    obtain rfl := Option.some.inj goes
    exact .handler rfl taken (.finished id _ rfl rfl)
  | redirecting permit =>
    obtain rfl := Option.some.inj goes
    exact .handler rfl taken (.finished id _ rfl rfl)
  | _ => simp at goes

theorem commandRejected_cases (steps : boundary.step urls (.commandRejected id) = some after) :
    StepCase urls boundary (.commandRejected id) after := by
  delta BrowserBoundaryV1.step at steps
  dsimp only at steps
  obtain ⟨handler, stage, others, taken, goes⟩ := withHandler_some steps
  cases stage with
  | answering =>
    obtain rfl := Option.some.inj goes
    exact .handler rfl taken (.undone id)
  | continuing permit =>
    obtain rfl := Option.some.inj goes
    exact .handler rfl taken (.dropped id _ permit rfl rfl)
  | fulfilling admission =>
    obtain rfl := Option.some.inj goes
    exact .handler rfl taken (.dropped id _ admission.permit rfl rfl)
  | redirecting permit =>
    obtain rfl := Option.some.inj goes
    exact .handler rfl taken (.dropped id _ permit rfl rfl)
  | _ => simp at goes

variable {event : BrowserEventV1}

theorem whenHealthy_cases (actor : event.actor = none) (moves : ScopeMove boundary.scopes scopes) :
    StepCase urls boundary event (boundary.whenHealthy scopes) := by
  obtain ⟨moved, made, same⟩ := whenHealthy_move moves
  rw [same]
  exact .scopes actor made

/-- Every step is one of the cases. -/
theorem browserStep_cases (steps : boundary.step urls event = some after) :
    StepCase urls boundary event after := by
  cases event with
  | acquired id => exact acquired_cases steps
  | acquireFailed id cancelled message => exact acquireFailed_cases steps
  | resumed id => exact resumed_cases steps
  | bodyOpened id => exact bodyOpened_cases steps
  | bodyReplied id replies => exact bodyReplied_cases steps
  | commandDone id => exact commandDone_cases steps
  | commandRejected id => exact commandRejected_cases steps
  | requestPaused paused =>
    simp only [BrowserBoundaryV1.step] at steps
    split_ifs at steps with closed
    obtain rfl := Option.some.inj steps
    exact .paused paused (by simpa using closed)
  | malformedPaused =>
    simp only [BrowserBoundaryV1.step] at steps
    split_ifs at steps
    obtain rfl := Option.some.inj steps
    exact .malformed
  | loadingEnded networkId =>
    simp only [BrowserBoundaryV1.step] at steps
    split_ifs at steps
    obtain rfl := Option.some.inj steps
    exact .loadingEnded networkId
  | quietElapsed id =>
    simp only [BrowserBoundaryV1.step] at steps
    split_ifs at steps
    obtain rfl := Option.some.inj steps
    exact .unwaits rfl id
  | beginRuntimeRequest =>
    obtain rfl := Option.some.inj steps
    exact .scopes rfl .beginRuntimeRequest
  | endRuntimeRequest scope =>
    obtain rfl := Option.some.inj steps
    exact .scopes rfl (.endRuntimeRequest scope)
  | beginAction expect =>
    obtain rfl := Option.some.inj steps
    exact .scopes rfl (.beginAction expect)
  | finishAction scope expect =>
    obtain rfl := Option.some.inj steps
    exact whenHealthy_cases rfl (.finishAction scope expect)
  | abortAction scope =>
    obtain rfl := Option.some.inj steps
    exact .scopes rfl (.abortAction scope)
  | beginPageScript expect limits origin =>
    obtain rfl := Option.some.inj steps
    exact .scopes rfl (.beginPageScript expect limits origin)
  | finishPageScript scope =>
    obtain rfl := Option.some.inj steps
    exact whenHealthy_cases rfl (.endPageScript scope)
  | abortPageScript scope =>
    obtain rfl := Option.some.inj steps
    exact .scopes rfl (.endPageScript scope)
  | waitForQuiet maximumInFlight quietMs =>
    obtain rfl := Option.some.inj steps
    exact .waits maximumInFlight quietMs
  | quietAborted id =>
    obtain rfl := Option.some.inj steps
    exact .unwaits rfl id
  | transition capability options =>
    obtain rfl := Option.some.inj steps
    exact .transition capability options
  | close =>
    obtain rfl := Option.some.inj steps
    exact .close

namespace HandlersHold

variable {handlers : BrowserHandlersV1}

/-- A suspended handler that goes on runs while the others stay suspended. -/
theorem take (hold : HandlersHold handlers) {id : Nat}
    {entry : PausedHandlerV1 × HandlerStageV1}
    {others : List (PausedHandlerV1 × HandlerStageV1)}
    (taken : BrowserHandlersV1.takeHandler id handlers.suspended = some (entry, others)) :
    Running { handlers with suspended := others } entry.1 entry.2.answered := by
  obtain ⟨_, permuted⟩ := takeHandler_perm taken
  have ids : handlers.ids.Perm (entry.1.id :: others.map (·.1.id)) := by
    simpa [BrowserHandlersV1.ids] using permuted.map (·.1.id)
  have inside : ∀ other ∈ others, other ∈ handlers.suspended := by
    intro other member
    exact permuted.mem_iff.mpr (List.mem_cons_of_mem _ member)
  have first : entry ∈ handlers.suspended := permuted.mem_iff.mpr List.mem_cons_self
  exact {
    distinct := ids.nodup_iff.mp hold.distinct
    known := fun other member => hold.known other (ids.mem_iff.mpr member)
    once := hold.once
    toldKnown := hold.toldKnown
    told := hold.answered entry first
    answered := fun other member => hold.answered other (inside other member)
    ended := by
      intro other below
      rcases hold.ended other below with suspended | rest
      · exact .inl (ids.mem_iff.mp suspended)
      · exact .inr rest
    pending := by
      have counts := permuted.countP_eq (·.1.counted)
      have pending := hold.pending
      rw [List.countP_cons] at counts
      simp only
      split at counts <;> simp_all
    reads := fun other member => hold.reads other (inside other member) }

/-- A handler that has just been started has told nothing. -/
theorem start (hold : HandlersHold handlers) (handler : PausedHandlerV1)
    (next : handler.id = handlers.nextHandler) :
    Running { handlers with
      nextHandler := handler.id + 1
      pendingAdmissions := handlers.pendingAdmissions + if handler.counted then 1 else 0 }
      handler false := by
  have fresh : handler.id ∉ handlers.ids := fun member => by
    have below := hold.known _ member
    omega
  have silent : handler.id ∉ handlers.told := fun member => by
    have below := hold.toldKnown _ member
    omega
  exact {
    distinct := List.nodup_cons.mpr ⟨fresh, hold.distinct⟩
    known := by
      intro id member
      rcases List.mem_cons.mp member with rfl | old
      · exact Nat.lt_succ_self _
      · have below := hold.known id old
        simp only
        omega
    once := hold.once
    toldKnown := by
      intro id member
      have below := hold.toldKnown id member
      simp only
      omega
    told := by simpa [BrowserHandlersV1.told] using silent
    answered := hold.answered
    ended := by
      intro id below
      by_cases same : id = handler.id
      · exact .inl (by simp [same])
      · simp only at below
        rcases hold.ended id (by omega) with suspended | rest
        · exact .inl (List.mem_cons_of_mem _ suspended)
        · exact .inr rest
    pending := by
      have pending := hold.pending
      simp only
      omega
    reads := hold.reads }

end HandlersHold

namespace Running

variable {handlers : BrowserHandlersV1} {handler : PausedHandlerV1} {answered : Bool}

variable {stage : HandlerStageV1}

theorem park (running : Running handlers handler answered) (agrees : stage.answered = answered)
    (turn : stage.isReading = true → handlers.responseBodyQueue.head? = some handler.id) :
    HandlersHold (handlers.park handler stage) where
  distinct := running.distinct
  known := running.known
  once := running.once
  toldKnown := running.toldKnown
  answered := by
    intro entry member
    rcases List.mem_cons.mp member with rfl | old
    · rw [agrees]
      exact running.told
    · exact running.answered entry old
  ended := running.ended
  pending := by
    have pending := running.pending
    simp only [BrowserHandlersV1.park, List.countP_cons]
    split at pending <;> simp_all
  reads := by
    intro entry member reading
    rcases List.mem_cons.mp member with rfl | old
    · exact turn reading
    · exact running.reads entry old reading

/-- The handler tells the browser something, once. -/
theorem send (running : Running handlers handler false) (answer : BrowserAnswerV1)
    (agrees : stage.answered = true) (other : stage.isReading = false) :
    HandlersHold (handlers.send handler answer stage) := by
  have silent : handler.id ∉ handlers.told := fun member => by
    simpa using running.told.mpr member
  -- What was told changes for this handler alone, whose identity no other has.
  have answers : Running { handlers with answers := (handler.id, answer) :: handlers.answers }
      handler true := {
    distinct := running.distinct
    known := running.known
    once := List.nodup_cons.mpr ⟨silent, running.once⟩
    toldKnown := by
      intro id member
      rcases List.mem_cons.mp member with rfl | old
      · exact running.known _ List.mem_cons_self
      · exact running.toldKnown id old
    told := by simp [BrowserHandlersV1.told]
    answered := by
      intro entry member
      have differs : entry.1.id ≠ handler.id := by
        intro same
        have listed : entry.1.id ∈ handlers.ids := List.mem_map_of_mem member
        exact (List.nodup_cons.mp running.distinct).1 (same ▸ listed)
      rw [running.answered entry member]
      simp [BrowserHandlersV1.told, differs]
    ended := by
      intro id below
      rcases running.ended id below with suspended | told | dropped
      · exact .inl suspended
      · exact .inr (.inl (List.mem_cons_of_mem _ told))
      · exact .inr (.inr dropped)
    pending := running.pending
    reads := running.reads }
  exact answers.park agrees (by simp [other])

theorem leave (running : Running handlers handler answered)
    (gone : handler.id ∈ handlers.told ∨ handler.id ∈ handlers.dropped) :
    HandlersHold (handlers.finish handler) := by
  have rest : HandlersHold { handlers with
      pendingAdmissions := handlers.suspended.countP (·.1.counted) } := {
    distinct := (List.nodup_cons.mp running.distinct).2
    known := fun id member => running.known id (List.mem_cons_of_mem _ member)
    once := running.once
    toldKnown := running.toldKnown
    answered := running.answered
    ended := by
      intro id below
      rcases running.ended id below with suspended | others
      · rcases List.mem_cons.mp suspended with rfl | listed
        · exact .inr gone
        · exact .inl listed
      · exact .inr others
    pending := rfl
    reads := running.reads }
  have pending := running.pending
  -- The count falls by one just when the handler was counted.
  have finished : handlers.finish handler = { handlers with
      pendingAdmissions := handlers.suspended.countP (·.1.counted) } := by
    cases counted : handler.counted with
    | true => simp [BrowserHandlersV1.finish, counted, pending]
    | false =>
      simp only [counted, Bool.false_eq_true, if_false, Int.add_zero] at pending
      simp [BrowserHandlersV1.finish, counted, ← pending]
  rw [finished]
  exact rest

theorem finish (running : Running handlers handler true) :
    HandlersHold (handlers.finish handler) :=
  running.leave (.inl (running.told.mp rfl))

theorem drop (running : Running handlers handler answered) :
    HandlersHold ((handlers.drop handler).finish handler) := by
  have dropped : Running (handlers.drop handler) handler answered :=
    { running with
      ended := by
        intro id below
        rcases running.ended id below with suspended | told | before
        · exact .inl suspended
        · exact .inr (.inl told)
        · exact .inr (.inr (List.mem_cons_of_mem _ before)) }
  exact dropped.leave (.inr List.mem_cons_self)

theorem enqueue (running : Running handlers handler answered) (id : Nat) :
    Running { handlers with responseBodyQueue := handlers.responseBodyQueue ++ [id] } handler
      answered :=
  { running with
    reads := by
      intro entry member reading
      have turn := running.reads entry member reading
      simp only
      cases queue : handlers.responseBodyQueue with
      | nil => simp [queue] at turn
      | cons first rest => simpa [queue] using turn }

theorem alone (running : Running handlers handler answered)
    (turn : handlers.responseBodyQueue.head? = some handler.id) :
    ∀ entry ∈ handlers.suspended, entry.2.isReading = false := by
  intro entry member
  by_contra reading
  have same := running.reads entry member (by simpa using reading)
  rw [turn, Option.some.injEq] at same
  have listed : entry.1.id ∈ handlers.ids := List.mem_map_of_mem member
  exact (List.nodup_cons.mp running.distinct).1 (same ▸ listed)

theorem dequeue (running : Running handlers handler answered)
    (turn : handlers.responseBodyQueue.head? = some handler.id) :
    Running { handlers with responseBodyQueue := handlers.responseBodyQueue.tail } handler
      answered :=
  { running with
    reads := by
      intro entry member reading
      have idle := running.alone turn entry member
      simp [idle] at reading }

end Running

/-! Every step keeps what the handlers have. -/

@[simp] theorem followRedirectHop_handlers (paused : BrowserFetchPausedV1)
    (boundary : BrowserBoundaryV1) :
    (followRedirectHop paused boundary).1.handlers = boundary.handlers := by
  cases redirected : paused.redirectedFrom with
  | none => simp [followRedirectHop, redirected]
  | some requestId =>
    cases found : OrderedMap.get? boundary.traffic.admitted requestId with
    | none => simp [followRedirectHop, redirected, found]
    | some admission =>
      simp only [followRedirectHop, redirected, found]
      split_ifs <;> rfl

theorem handleBrowserRequestStage_hold (urls : UrlClassV1) {handler : PausedHandlerV1}
    (running : Running boundary.handlers handler false) :
    HandlersHold (handleBrowserRequestStage urls handler boundary).handlers := by
  have followed := followRedirectHop_handlers handler.paused { boundary with
    traffic := supersedeEarlierAttempts handler.paused boundary.traffic }
  simp only [handleBrowserRequestStage]
  split
  · next next error redirected =>
    rw [redirected] at followed
    have same : next.handlers = boundary.handlers := followed
    rw [← same] at running
    exact running.send _ rfl rfl
  · next next redirected =>
    rw [redirected] at followed
    have same : next.handlers = boundary.handlers := followed
    rw [← same] at running
    split
    · exact running.send _ rfl rfl
    · exact running.send _ rfl rfl
    · exact running.park rfl nofun

theorem handleResponseStage_hold (urls : UrlClassV1) {handler : PausedHandlerV1} (status : Nat)
    (running : Running boundary.handlers handler false) :
    HandlersHold (handleResponseStage urls handler status boundary).handlers := by
  simp only [handleResponseStage]
  split
  · exact running.send _ rfl rfl
  · next admission found =>
    split_ifs
    · simp only [continueRedirect]
      split_ifs
      · exact running.send _ rfl rfl
      · exact running.send _ rfl rfl
    · have queued : HandlersHold ({ boundary.handlers with
          responseBodyQueue := boundary.handlers.responseBodyQueue ++ [handler.id] }.park handler
            (.queued admission)) := (running.enqueue handler.id).park rfl nofun
      exact queued

theorem handleFetchPaused_hold (urls : UrlClassV1) (paused : BrowserFetchPausedV1)
    (hold : HandlersHold boundary.handlers) :
    HandlersHold (boundary.handleFetchPaused urls paused).handlers := by
  have uncounted : Running { boundary.handlers with
      nextHandler := boundary.handlers.nextHandler + 1 }
      { id := boundary.handlers.nextHandler, paused, counted := false } false := by
    simpa using hold.start { id := boundary.handlers.nextHandler, paused, counted := false } rfl
  have counted : Running { boundary.handlers with
      nextHandler := boundary.handlers.nextHandler + 1
      pendingAdmissions := boundary.handlers.pendingAdmissions + 1 }
      { id := boundary.handlers.nextHandler, paused, counted := true } false := by
    simpa using hold.start { id := boundary.handlers.nextHandler, paused, counted := true } rfl
  simp only [BrowserBoundaryV1.handleFetchPaused]
  split
  · exact uncounted.send _ rfl rfl
  · exact uncounted.send _ rfl rfl
  · exact handleBrowserRequestStage_hold urls counted
  · exact handleResponseStage_hold urls _ uncounted

theorem HandlerRun.hold {handler : PausedHandlerV1} {rest : BrowserBoundaryV1}
    {stage : HandlerStageV1} (runs : HandlerRun urls handler rest event stage after)
    (turn : stage.isReading = true → rest.handlers.responseBodyQueue.head? = some handler.id)
    (running : Running rest.handlers handler stage.answered) : HandlersHold after.handlers := by
  cases runs with
  | acquired id judged => exact running.park rfl nofun
  | acquireFailed id cancelled message judged => exact running.send _ rfl rfl
  | admitted id judged permit =>
    simp only [admitBrowserRequest]
    split_ifs
    · exact running.send _ rfl rfl
    · split
      · exact running.send _ rfl rfl
      · exact running.send _ rfl rfl
  | answered id admission outcome =>
    cases outcome with
    | body bytes => exact running.send _ rfl rfl
    | failed error => exact running.send _ rfl rfl
    | dropped => exact running.drop
  | opened id admission first => exact running.park rfl fun _ => first
  | replied id replies admission limit remaining outcome read =>
    exact (running.dequeue (turn rfl)).park rfl nofun
  | finished id _ told other =>
    rw [told] at running
    exact running.finish
  | fulfilled id admission => exact running.finish
  | undone id => exact running.drop
  | dropped id _ permit own told => exact running.drop

theorem step_hold (steps : boundary.step urls event = some after)
    (hold : HandlersHold boundary.handlers) : HandlersHold after.handlers := by
  cases browserStep_cases steps with
  | paused paused opened => exact handleFetchPaused_hold urls paused hold
  | handler actor taken runs =>
    obtain ⟨member, _⟩ := takeHandler_mem taken
    exact runs.hold (fun reading => hold.reads _ member reading) (hold.take taken)
  | waits maximumInFlight quietMs =>
    simp only [BrowserBoundaryV1.waitForQuiet]
    split_ifs <;> exact hold
  | transition capability options =>
    simp only [BrowserBoundaryV1.transition]
    split <;> exact hold
  | _ => exact hold

theorem installed_hold (starts : (browserMachine urls).starts boundary) :
    HandlersHold boundary.handlers := by
  obtain ⟨capability, options, mainFrameId, installed⟩ := starts
  simp only [installBrowserNetworkBoundary] at installed
  split at installed
  · cases installed
  · cases installed
    exact {
      distinct := List.nodup_nil
      known := by simp [BrowserHandlersV1.ids]
      once := List.nodup_nil
      toldKnown := by simp [BrowserHandlersV1.told]
      answered := by simp
      ended := by simp
      pending := rfl
      reads := by simp }

theorem reached_hold {allowed : BrowserBoundaryV1 → BrowserEventV1 → Prop}
    (reached : (browserMachine urls).Reaches allowed boundary) :
    HandlersHold boundary.handlers :=
  @Machine.Reaches.invariant _ _ (browserMachine urls) allowed
    (fun boundary => HandlersHold boundary.handlers) (fun _ starts => installed_hold starts)
    (fun _ _ _ _ steps hold => step_hold steps hold) _ reached

end Klura
