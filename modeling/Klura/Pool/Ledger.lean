import Klura.Pool.Pool

/-! Where browser contexts are held, and how the moves of the pool keep track of them. -/

namespace Klura

namespace OrderedMap

variable {κ ν : Type} [DecidableEq κ]

theorem get?_set (map : OrderedMap κ ν) (key : κ) (value : ν) :
    get? (set map key value) = Function.update (get? map) key (some value) := by
  funext other
  by_cases same : other = key
  · rw [same, get?_set_self, Function.update_self]
  · rw [get?_set_of_ne map value same, Function.update_of_ne same]

theorem get?_delete {map : OrderedMap κ ν} (distinct : map.keys.Nodup) (key : κ) :
    get? (delete map key) = Function.update (get? map) key none := by
  funext other
  by_cases same : other = key
  · rw [same, Function.update_self, get?_eq_none_iff, keys_delete]
    exact distinct.not_mem_erase
  · rw [get?_delete_of_ne map same, Function.update_of_ne same]

end OrderedMap

namespace Pool

/-- Where a browser context is held: by the driver for a session, as the lease of a slot, or as the
lease that a call is about to give back. -/
inductive Place where
  | session (session : SessionId)
  | slot (slot : SlotId)
  | call (call : CallId)
  deriving DecidableEq

/-- The session that a call works on. -/
def Call.session : Call → Option SessionId
  | .evicting _ | .creating _ | .abandoning .. | .probingShared .. => none
  | .resetting _ session _ | .probingWarm _ session _ _ | .releasing _ session _
  | .closing session => some session

/-- The slot that a call has claimed. -/
def Call.slot : Call → Option SlotId
  | .evicting _ | .creating _ | .abandoning .. | .probingShared .. | .closing _ => none
  | .resetting slot _ _ | .probingWarm slot _ _ _ | .releasing slot _ _ => some slot

/-- The session that is on record for the slot that a call has claimed. -/
def Call.owner : Call → Option SessionId
  | .probingWarm _ session _ _ | .releasing _ session _ => some session
  | _ => none

/-- The lease that a call holds. -/
def Call.lease : Call → Option ContextId
  | .releasing _ _ lease => lease
  | _ => none

/-- The key that a call has asked for a slot with. -/
def Call.key : Call → Option WarmKey
  | .probingWarm _ _ platform identity => some (warmKey platform identity)
  | _ => none

/-- What the calls that are under way have of something. -/
def work {α : Type} (part : Call → Option α) (calls : CallId → Option Call) (call : CallId) :
    Option α :=
  (calls call).bind part

theorem work_update {α : Type} (part : Call → Option α) (calls : CallId → Option Call)
    (call : CallId) (state : Option Call) :
    work part (Function.update calls call state) =
      Function.update (work part calls) call (state.bind part) := by
  funext other
  unfold work
  by_cases same : other = call
  · rw [same, Function.update_self, Function.update_self]
  · rw [Function.update_of_ne same, Function.update_of_ne same]

/-- Whether a context has been created and not been handed to the driver to be destroyed. -/
def live (createdFor : ContextId → Option (Option WarmKey)) (handed : ContextId → Bool)
    (context : ContextId) : Bool :=
  (createdFor context).isSome && !handed context

theorem live_handed (createdFor : ContextId → Option (Option WarmKey)) (handed : ContextId → Bool)
    (context : ContextId) : live createdFor (Function.update handed context true) =
      Function.update (live createdFor handed) context false := by
  funext other
  unfold live
  by_cases same : other = context
  · rw [same, Function.update_self, Function.update_self, Bool.not_true, Bool.and_false]
  · rw [Function.update_of_ne same, Function.update_of_ne same]

variable {context : ContextId}

theorem live_created (createdFor : ContextId → Option (Option WarmKey)) {handed : ContextId → Bool}
    (unhanded : handed context = false) (key : Option WarmKey) :
    live (Function.update createdFor context (some key)) handed =
      Function.update (live createdFor handed) context true := by
  funext other
  unfold live
  by_cases same : other = context
  · rw [same, Function.update_self, Function.update_self, unhanded]
    rfl
  · rw [Function.update_of_ne same, Function.update_of_ne same]

/-- Where everything is: the place of each context, the call that works on a session, the call that
has claimed a slot, and the slot that a registered session owns. -/
structure Ledger where
  place : ContextId → Option Place
  worker : SessionId → Option CallId
  claimant : SlotId → Option CallId
  owns : SessionId → Option SlotId

/-- A pool that a ledger is right about. -/
structure Sound (config : PoolOptions) (pool : Pool) (ledger : Ledger) : Prop where
  bound : ∀ session context,
    ledger.place context = some (.session session) ↔ pool.bound session = some context
  leased : ∀ slot context, ledger.place context = some (.slot slot) ↔
    OrderedMap.get? pool.warm (pool.entries slot).key = some slot ∧
      (pool.entries slot).lease = some context
  called : ∀ call context,
    ledger.place context = some (.call call) ↔ work Call.lease pool.calls call = some context
  live : ∀ context, live pool.createdFor pool.handed context = (ledger.place context).isSome
  worker : ∀ session call,
    ledger.worker session = some call ↔ work Call.session pool.calls call = some session
  claimant : ∀ slot call,
    ledger.claimant slot = some call ↔ work Call.slot pool.calls call = some slot
  -- A session with a context is registered, or else a call works on it.
  kept : ∀ session, pool.bound session ≠ none →
    pool.sessions session = (ledger.worker session).isNone
  hidden : ∀ session, ledger.worker session ≠ none → pool.sessions session = false
  parted : ∀ call session, work Call.session pool.calls call = some session →
    work Call.lease pool.calls call ≠ none → pool.bound session = none
  working : ∀ call, work Call.session pool.calls call = none →
    work Call.lease pool.calls call = none ∧ work Call.slot pool.calls call = none
  loaded : ∀ call, work Call.lease pool.calls call ≠ none →
    work Call.slot pool.calls call ≠ none
  recorded : ∀ call owner, work Call.owner pool.calls call = some owner →
    work Call.session pool.calls call = some owner
  -- A slot is in use as long as it has no lease, and nothing but its user changes it.
  distinct : pool.warm.keys.Nodup
  keyed : ∀ key slot, OrderedMap.get? pool.warm key = some slot →
    (pool.entries slot).key = key ∧ key.platform ≠ "" ∧ config.warmEnabled = true
  idle : ∀ slot, OrderedMap.get? pool.warm (pool.entries slot).key = some slot →
    (pool.entries slot).inUse = (pool.entries slot).lease.isNone
  used : ∀ slot, OrderedMap.get? pool.warm (pool.entries slot).key = some slot →
    (pool.entries slot).sessionId ≠ none → (pool.entries slot).inUse = true
  claimed : ∀ call slot, work Call.slot pool.calls call = some slot →
    OrderedMap.get? pool.warm (pool.entries slot).key = some slot ∧
      (pool.entries slot).inUse = true ∧
      (pool.entries slot).sessionId = work Call.owner pool.calls call
  asked : ∀ call slot key, work Call.slot pool.calls call = some slot →
    work Call.key pool.calls call = some key → (pool.entries slot).key = key
  owned : ∀ session slot, ledger.owns session = some slot → config.warmEnabled = true ∧
    pool.sessions session = true ∧
    OrderedMap.get? pool.warm (pool.entries slot).key = some slot ∧
    (pool.entries slot).sessionId = some session ∧
    (pool.objects session).key = some (pool.entries slot).key
  -- A borrowed session is shared, or else it owns a slot.
  lent : ∀ session, pool.sessions session = true → (pool.objects session).borrowed = true →
    pool.isShared session = true ∨ ledger.owns session ≠ none
  -- A context serves the key that it was created for.
  served : ∀ session context, pool.bound session = some context →
    pool.createdFor context = some (pool.objects session).key
  stocked : ∀ slot context, ledger.place context = some (.slot slot) →
    pool.createdFor context = some (some (pool.entries slot).key)
  carried : ∀ call slot context, ledger.place context = some (.call call) →
    ledger.claimant slot = some call →
    pool.createdFor context = some (some (pool.entries slot).key)
  matched : ∀ call slot session, ledger.claimant slot = some call →
    ledger.worker session = some call →
    (pool.objects session).key = some (pool.entries slot).key
  freshSession : ∀ session, pool.next ≤ session.number → pool.sessions session = false ∧
    pool.bound session = none ∧ ledger.worker session = none
  freshCall : ∀ call, pool.next ≤ call.number → pool.calls call = none
  freshContext : ∀ context, pool.next ≤ context.number →
    pool.createdFor context = none ∧ pool.handed context = false
  freshSlot : ∀ key slot, OrderedMap.get? pool.warm key = some slot → slot.number < pool.next

variable {config : PoolOptions} {pool : Pool} {ledger : Ledger}

/-- A pool stays sound when none of what the ledger is about changes. -/
theorem Sound.frame (sound : pool.Sound config ledger) {after : Pool}
    (bound : after.bound = pool.bound) (sessions : after.sessions = pool.sessions)
    (entries : after.entries = pool.entries) (warm : after.warm = pool.warm)
    (createdFor : after.createdFor = pool.createdFor) (handed : after.handed = pool.handed)
    (works : ∀ {α : Type} (part : Call → Option α), (∀ opts, part (.evicting opts) = none) →
      (∀ opts, part (.creating opts) = none) → (∀ p i, part (.abandoning p i) = none) →
      (∀ p i b s n, part (.probingShared p i b s n) = none) →
      work part after.calls = work part pool.calls)
    (keys : ∀ session, pool.sessions session = true ∨ ledger.worker session ≠ none →
      (after.objects session).key = (pool.objects session).key)
    (later : pool.next ≤ after.next)
    (calls : ∀ call, after.next ≤ call.number → after.calls call = none)
    (lent : ∀ session, pool.sessions session = true → (after.objects session).borrowed = true →
      after.isShared session = true ∨ ledger.owns session ≠ none) :
    after.Sound config ledger := by
  have workLease := works Call.lease (fun _ => rfl) (fun _ => rfl) (fun _ _ => rfl)
    fun _ _ _ _ _ => rfl
  have workSession := works Call.session (fun _ => rfl) (fun _ => rfl) (fun _ _ => rfl)
    fun _ _ _ _ _ => rfl
  have workSlot := works Call.slot (fun _ => rfl) (fun _ => rfl) (fun _ _ => rfl)
    fun _ _ _ _ _ => rfl
  have workKey := works Call.key (fun _ => rfl) (fun _ => rfl) (fun _ _ => rfl)
    fun _ _ _ _ _ => rfl
  have workOwner := works Call.owner (fun _ => rfl) (fun _ => rfl) (fun _ _ => rfl)
    fun _ _ _ _ _ => rfl
  constructor <;> try
    simp only [bound, sessions, entries, warm, createdFor, handed, workLease, workSession, workSlot,
      workOwner, workKey]
  case lent => exact lent
  case freshCall => exact calls
  case freshSession => exact fun session least => sound.freshSession session (by omega)
  case freshContext => exact fun context least => sound.freshContext context (by omega)
  case freshSlot => exact fun key slot there => Nat.lt_of_lt_of_le (sound.freshSlot key slot there) later
  case owned =>
    intro session slot own
    have owned := sound.owned session slot own
    rw [keys session (.inl owned.2.1)]
    exact owned
  case served =>
    intro session context holds
    have inside := sound.kept session (by rw [holds]; nofun)
    rw [keys session (by cases worked : ledger.worker session <;> simp_all)]
    exact sound.served session context holds
  case matched =>
    intro call slot session claims works
    rw [keys session (.inr (by rw [works]; nofun))]
    exact sound.matched call slot session claims works
  all_goals first
    | exact sound.bound | exact sound.leased | exact sound.called | exact sound.live
    | exact sound.worker | exact sound.claimant | exact sound.kept | exact sound.hidden
    | exact sound.parted | exact sound.working | exact sound.loaded | exact sound.recorded
    | exact sound.distinct | exact sound.keyed | exact sound.idle | exact sound.used
    | exact sound.claimed | exact sound.asked | exact sound.stocked | exact sound.carried

variable {call : CallId} {slot : SlotId}

theorem Sound.alone (sound : pool.Sound config ledger) {other : CallId}
    (claims : work Call.slot pool.calls call = some slot)
    (other_ : work Call.slot pool.calls other = some slot) : other = call := by
  have first := (sound.claimant slot call).mpr claims
  have second := (sound.claimant slot other).mpr other_
  rw [first] at second
  exact (Option.some.inj second).symm

theorem Sound.unworked (sound : pool.Sound config ledger) (other : CallId) :
    work Call.session pool.calls other ≠ some ⟨pool.next⟩ := by
  intro working
  have fresh := (sound.freshSession ⟨pool.next⟩ (Nat.le_refl _)).2.2
  rw [(sound.worker _ _).mpr working] at fresh
  nomatch fresh

theorem Sound.unowned (sound : pool.Sound config ledger) : ledger.owns ⟨pool.next⟩ = none := by
  cases own : ledger.owns ⟨pool.next⟩ with
  | none => rfl
  | some slot =>
    have registered := (sound.owned _ _ own).2.1
    rw [(sound.freshSession ⟨pool.next⟩ (Nat.le_refl _)).1] at registered
    nomatch registered

theorem Sound.discard (sound : pool.Sound config ledger)
    (there : OrderedMap.get? pool.warm (pool.entries slot).key = some slot)
    (lease : (pool.entries slot).lease = some context) (entry : WarmEntry)
    (same : entry.key = (pool.entries slot).key) :
    ∃ place, (((pool.setEntry slot entry).dropSlot entry.key).destroyLease context).Sound config
      { ledger with place } := by
  have stored := sound.idle slot there
  have placed := (sound.leased slot context).mpr ⟨there, lease⟩
  rw [lease] at stored
  refine ⟨Function.update ledger.place context none, ?_⟩
  cases id sound
  constructor <;>
    simp only [setEntry, dropSlot, destroyLease, live_handed, OrderedMap.get?_delete sound.distinct, same]
      <;> try assumption
  case distinct => exact OrderedMap.keys_delete_nodup sound.distinct _
  all_goals grind -ring -linarith -order -ac only [= Function.update_apply, = Option.isNone_some,
    = Option.isNone_none, = Option.isSome_some, = Option.isSome_none]

theorem Sound.evict (sound : pool.Sound config ledger) {key : WarmKey}
    (there : OrderedMap.get? pool.warm key = some slot) (unused : (pool.entries slot).inUse = false) :
    ∃ place, (pool.evict key slot).Sound config { ledger with place } := by
  have named := (sound.keyed key slot there).1
  have stored := sound.idle slot (named ▸ there)
  unfold Pool.evict
  cases lease : (pool.entries slot).lease with
  | none =>
    rw [unused, lease] at stored
    nomatch stored
  | some context =>
    have discarded := sound.discard (named ▸ there) lease (pool.entries slot) rfl
    rw [named] at discarded
    have same : pool.setEntry slot (pool.entries slot) = pool := by
      rw [setEntry, Function.update_eq_self]
    rw [same] at discarded
    exact discarded

variable {entry : WarmEntry}

/-- A new session takes over the context of an idle slot, for a call that waits. -/
theorem Sound.takeOver (sound : pool.Sound config ledger) {session : Session} {state : Call}
    (there : OrderedMap.get? pool.warm (pool.entries slot).key = some slot)
    (lease : (pool.entries slot).lease = some context) (same : entry.key = (pool.entries slot).key)
    (unleased : entry.lease = none) (inUse : entry.inUse = true)
    (owner : entry.sessionId = state.owner) (works : state.session = some ⟨pool.next⟩)
    (claims : state.slot = some slot) (flat : state.lease = none)
    (own : state.owner = none ∨ state.owner = some ⟨pool.next⟩)
    (key : session.key = some (pool.entries slot).key)
    (sought : state.key = none ∨ state.key = some (pool.entries slot).key)
    (quiet : pool.calls call = none) (old : call.number < pool.next) :
    ∃ ledger, ({ pool.setEntry slot entry with
      objects := Function.update pool.objects ⟨pool.next⟩ session
      bound := Function.update pool.bound ⟨pool.next⟩ (some context)
      next := pool.next + 1 }.await call state).Sound config ledger := by
  have unworked := sound.unworked
  have stored := sound.idle slot there
  have placed := (sound.leased slot context).mpr ⟨there, lease⟩
  have unbound := sound.freshSession ⟨pool.next⟩ (Nat.le_refl _)
  have made := sound.stocked slot context placed
  have none_ : work Call.session pool.calls call = none ∧ work Call.slot pool.calls call = none ∧
      work Call.lease pool.calls call = none := by simp [work, quiet]
  rw [lease] at stored
  refine ⟨{
    place := Function.update ledger.place context (some (.session ⟨pool.next⟩))
    worker := Function.update ledger.worker ⟨pool.next⟩ (some call)
    claimant := Function.update ledger.claimant slot (some call)
    owns := ledger.owns }, ?_⟩
  cases id sound
  constructor <;> simp only [setEntry, await, work_update, Option.bind_some, works, claims, flat]
    <;> try assumption
  case lent =>
    intro other registered borrowed
    have differs : other ≠ ⟨pool.next⟩ := by
      rintro rfl
      rw [unbound.1] at registered
      nomatch registered
    rw [Function.update_of_ne differs] at borrowed
    have old := sound.lent other registered borrowed
    unfold isShared at old ⊢
    simpa only [Function.update_of_ne differs] using old
  all_goals grind -ring -linarith -order -ac only [= Function.update_apply, = Option.isNone_some,
    = Option.isNone_none, = Option.isSome_some, = Option.isSome_none]

variable {session : SessionId}

theorem Sound.unclaimed (sound : pool.Sound config ledger)
    (registered : pool.sessions session = true)
    (owner : (pool.entries slot).sessionId = some session) (call : CallId) :
    work Call.slot pool.calls call ≠ some slot := by
  intro claims
  -- The owner on record would be a session that the call works on, which is not registered.
  have recorded := (sound.claimed call slot claims).2.2
  rw [owner] at recorded
  have works := sound.recorded call session recorded.symm
  have hidden := sound.hidden session (by rw [(sound.worker _ _).mpr works]; nofun)
  rw [registered] at hidden
  nomatch hidden

/-- A call that works on a session and has claimed a slot does so alone, the session is out of the
registry, and no session owns the slot. -/
theorem Sound.atWork (sound : pool.Sound config ledger) {state : Call}
    (waits : pool.calls call = some state) (works : state.session = some session)
    (claims : state.slot = some slot) :
    work Call.session pool.calls call = some session ∧ work Call.slot pool.calls call = some slot ∧
      ledger.worker session = some call ∧ ledger.claimant slot = some call ∧
      (OrderedMap.get? pool.warm (pool.entries slot).key = some slot ∧
        (pool.entries slot).inUse = true ∧
        (pool.entries slot).sessionId = work Call.owner pool.calls call) ∧
      pool.sessions session = false ∧ call.number < pool.next ∧
      (∀ other, ledger.owns other ≠ some slot) ∧
      ∀ other, work Call.slot pool.calls other = some slot → other = call := by
  have working : work Call.session pool.calls call = some session := by simp [work, waits, works]
  have claiming : work Call.slot pool.calls call = some slot := by simp [work, waits, claims]
  have workerIs := (sound.worker session call).mpr working
  have mine := sound.claimed call slot claiming
  refine ⟨working, claiming, workerIs, (sound.claimant slot call).mpr claiming, mine,
    sound.hidden session (by rw [workerIs]; nofun), ?_, fun other owns => ?_,
    fun _ => sound.alone claiming⟩
  · by_contra fresh
    rw [sound.freshCall call (Nat.le_of_not_lt fresh)] at waits
    nomatch waits
  · -- The owner would be on record, and so the session that the call works on.
    obtain ⟨-, registered, -, owner, -⟩ := sound.owned other slot owns
    exact absurd claiming (sound.unclaimed registered owner call)

/-- The session that a call has bound to its slot is registered. -/
theorem Sound.commit (sound : pool.Sound config ledger) {call : CallId} {state : Call}
    {slot : SlotId} {session : SessionId} {entry : WarmEntry} {object : Session}
    (waits : pool.calls call = some state) (works : state.session = some session)
    (claims : state.slot = some slot) (flat : state.lease = none)
    (same : entry.key = (pool.entries slot).key) (lease : entry.lease = (pool.entries slot).lease)
    (inUse : entry.inUse = (pool.entries slot).inUse) (owner : entry.sessionId = some session)
    (key : object.key = (pool.objects session).key) :
    ∃ ledger, ({ ((pool.setEntry slot entry).register session).finish call with
      objects := Function.update pool.objects session object }).Sound config ledger := by
  obtain ⟨working, claiming, workerIs, claimantIs, mine, out, old, unowned, alone⟩ :=
    sound.atWork waits works claims
  have unleased : work Call.lease pool.calls call = none := by simp [work, waits, flat]
  have serves := sound.matched call slot session claimantIs workerIs
  have enabled := (sound.keyed _ slot mine.1).2.2
  refine ⟨{
    place := ledger.place
    worker := Function.update ledger.worker session none
    claimant := Function.update ledger.claimant slot none
    owns := Function.update ledger.owns session (some slot) }, ?_⟩
  cases id sound
  constructor <;> simp only [setEntry, register, finish, work_update, Option.bind_none]
    <;> try assumption
  case lent =>
    intro other registered borrowed
    by_cases same : other = session
    · right
      rw [same, Function.update_self]
      nofun
    · rw [Function.update_of_ne same] at registered borrowed
      have old := sound.lent other registered borrowed
      unfold isShared at old ⊢
      simpa only [Function.update_of_ne same] using old
  all_goals grind -ring -linarith -order -ac only [= Function.update_apply, = Option.isNone_some,
    = Option.isNone_none, = Option.isSome_some, = Option.isSome_none]

/-- The slot of a call is dropped, and its session's context is handed to the driver. -/
theorem Sound.giveUp (sound : pool.Sound config ledger) {call : CallId} {state : Call}
    {slot : SlotId} {session : SessionId} {entry : WarmEntry} {later : Option Call}
    (waits : pool.calls call = some state) (works : state.session = some session)
    (claims : state.slot = some slot) (flat : state.lease = none)
    (same : entry.key = (pool.entries slot).key)
    (rests : later.bind Call.session = none ∧ later.bind Call.slot = none ∧
      later.bind Call.owner = none ∧ later.bind Call.lease = none) :
    ∃ ledger, ({ ((pool.setEntry slot entry).dropSlot entry.key).destroySession session with
      calls := Function.update pool.calls call later }).Sound config ledger := by
  obtain ⟨working, claiming, workerIs, claimantIs, mine, out, old, unowned, alone⟩ :=
    sound.atWork waits works claims
  have unleased : work Call.lease pool.calls call = none := by simp [work, waits, flat]
  obtain ⟨restSession, restSlot, restOwner, restLease⟩ := rests
  cases holds : pool.bound session with
  | none =>
    refine ⟨{
      place := ledger.place
      worker := Function.update ledger.worker session none
      claimant := Function.update ledger.claimant slot none
      owns := ledger.owns }, ?_⟩
    have undone : ((pool.setEntry slot entry).dropSlot entry.key).destroySession session =
        (pool.setEntry slot entry).dropSlot entry.key := by
      unfold destroySession
      rw [show ((pool.setEntry slot entry).dropSlot entry.key).bound session = none from holds]
    rw [undone]
    cases id sound
    constructor <;> simp only [setEntry, dropSlot, work_update, OrderedMap.get?_delete sound.distinct, same,
      restSession, restSlot, restOwner, restLease] <;> try assumption
    case distinct => exact OrderedMap.keys_delete_nodup sound.distinct _
    all_goals grind -ring -linarith -order -ac only [= Function.update_apply, = Option.isNone_some,
      = Option.isNone_none, = Option.isSome_some, = Option.isSome_none]
  | some context =>
    have placed := (sound.bound session context).mpr holds
    refine ⟨{
      place := Function.update ledger.place context none
      worker := Function.update ledger.worker session none
      claimant := Function.update ledger.claimant slot none
      owns := ledger.owns }, ?_⟩
    have destroyed : ((pool.setEntry slot entry).dropSlot entry.key).destroySession session =
        { ((pool.setEntry slot entry).dropSlot entry.key).destroyLease context with
          bound := Function.update pool.bound session none } := by
      unfold destroySession
      rw [show ((pool.setEntry slot entry).dropSlot entry.key).bound session = some context from holds]
      rfl
    rw [destroyed]
    cases id sound
    constructor <;> simp only [setEntry, dropSlot, destroyLease, work_update, live_handed,
      OrderedMap.get?_delete sound.distinct, same, restSession, restSlot, restOwner, restLease]
        <;> try assumption
    case distinct => exact OrderedMap.keys_delete_nodup sound.distinct _
    all_goals grind -ring -linarith -order -ac only [= Function.update_apply, = Option.isNone_some,
      = Option.isNone_none, = Option.isSome_some, = Option.isSome_none]

theorem Sound.restash (sound : pool.Sound config ledger) {call : CallId} {state : Call}
    {slot : SlotId} {session : SessionId} {context : ContextId} {entry : WarmEntry}
    {later : Option Call} (waits : pool.calls call = some state)
    (works : state.session = some session) (claims : state.slot = some slot)
    (flat : state.lease = none) (holds : pool.bound session = some context)
    (same : entry.key = (pool.entries slot).key) (lease : entry.lease = some context)
    (inUse : entry.inUse = false) (owner : entry.sessionId = none)
    (rests : later.bind Call.session = none ∧ later.bind Call.slot = none ∧
      later.bind Call.owner = none ∧ later.bind Call.lease = none) :
    ∃ ledger, ({ pool.setEntry slot entry with
      bound := Function.update pool.bound session none
      calls := Function.update pool.calls call later }).Sound config ledger := by
  obtain ⟨working, claiming, workerIs, claimantIs, mine, out, old, unowned, alone⟩ :=
    sound.atWork waits works claims
  have unleased : work Call.lease pool.calls call = none := by simp [work, waits, flat]
  have empty := sound.idle slot mine.1
  have placed := (sound.bound session context).mpr holds
  have serves := sound.matched call slot session claimantIs workerIs
  have made := sound.served session context holds
  obtain ⟨restSession, restSlot, restOwner, restLease⟩ := rests
  refine ⟨{
    place := Function.update ledger.place context (some (.slot slot))
    worker := Function.update ledger.worker session none
    claimant := Function.update ledger.claimant slot none
    owns := ledger.owns }, ?_⟩
  cases id sound
  constructor <;> simp only [setEntry, work_update, restSession, restSlot, restOwner, restLease]
    <;> try assumption
  all_goals grind -ring -linarith -order -ac only [= Function.update_apply, = Option.isNone_some,
    = Option.isNone_none, = Option.isSome_some, = Option.isSome_none]

theorem Sound.create (sound : pool.Sound config ledger) (session : Session)
    (free : session.borrowed = false) :
    ∃ place, ({ pool with
      objects := Function.update pool.objects ⟨pool.next⟩ session
      bound := Function.update pool.bound ⟨pool.next⟩ (some ⟨pool.next⟩)
      createdFor := Function.update pool.createdFor ⟨pool.next⟩ (some session.key)
      next := pool.next + 1 }.register ⟨pool.next⟩).Sound config { ledger with place } := by
  have unowned := sound.unowned
  have unworked := sound.unworked
  have unbound := sound.freshSession ⟨pool.next⟩ (Nat.le_refl _)
  have unmade := sound.freshContext ⟨pool.next⟩ (Nat.le_refl _)
  have unplaced : ledger.place ⟨pool.next⟩ = none := by
    have dead := sound.live ⟨pool.next⟩
    unfold Pool.live at dead
    rw [unmade.1] at dead
    simpa using dead.symm
  refine ⟨Function.update ledger.place ⟨pool.next⟩ (some (.session ⟨pool.next⟩)), ?_⟩
  cases id sound
  constructor <;> simp only [register, live_created _ unmade.2] <;> try assumption
  case lent =>
    intro other registered borrowed
    by_cases same : other = ⟨pool.next⟩
    · rw [same, Function.update_self, free] at borrowed
      nomatch borrowed
    · rw [Function.update_of_ne same] at registered borrowed
      have old := sound.lent other registered borrowed
      unfold isShared at old ⊢
      simpa only [Function.update_of_ne same] using old
  all_goals grind -ring -linarith -order -ac only [= Function.update_apply, = Option.isNone_some,
    = Option.isNone_none, = Option.isSome_some, = Option.isSome_none]

/-- A session that is registered is given a slot where there was none. -/
theorem Sound.addSlot (sound : pool.Sound config ledger) {session : SessionId} {key : WarmKey}
    {entry : WarmEntry} (enabled : config.warmEnabled = true) (named : key.platform ≠ "")
    (registered : pool.sessions session = true)
    (serves : (pool.objects session).key = some key)
    (absent : OrderedMap.get? pool.warm key = none) (same : entry.key = key)
    (lease : entry.lease = none) (inUse : entry.inUse = true)
    (owner : entry.sessionId = some session) :
    ∃ owns, ({ pool.setEntry ⟨pool.next⟩ entry with
      warm := OrderedMap.set pool.warm key ⟨pool.next⟩
      next := pool.next + 1 }).Sound config { ledger with owns } := by
  refine ⟨Function.update ledger.owns session (some ⟨pool.next⟩), ?_⟩
  cases id sound
  constructor <;> simp only [setEntry, OrderedMap.get?_set] <;> try assumption
  case distinct =>
    have fresh : key ∉ pool.warm.keys := OrderedMap.get?_eq_none_iff.mp absent
    rw [OrderedMap.set_of_not_mem _ fresh, OrderedMap.keys, List.map_append]
    rw [List.nodup_append]
    refine ⟨sound.distinct, by simp, fun first member last end_ same => ?_⟩
    rw [same, List.mem_singleton.mp end_] at member
    exact fresh member
  case lent =>
    intro other there borrowed
    rcases sound.lent other there borrowed with shared | owns
    · exact .inl shared
    · right
      by_cases same : other = session
      · rw [same, Function.update_self]
        rintro ⟨⟩
      · rw [Function.update_of_ne same]
        exact owns
  all_goals grind -ring -linarith -order -ac only [= Function.update_apply, = Option.isNone_some,
    = Option.isNone_none, = Option.isSome_some, = Option.isSome_none]

/-- A borrowed session that owns a slot is dropped, and the call holds its context meanwhile. -/
theorem Sound.release (sound : pool.Sound config ledger) {call : CallId} {session : SessionId}
    {slot : SlotId} {object : Session} (registered : pool.sessions session = true)
    (there : OrderedMap.get? pool.warm (pool.entries slot).key = some slot)
    (owner : (pool.entries slot).sessionId = some session)
    (serves : (pool.objects session).key = some (pool.entries slot).key)
    (key : object.key = (pool.objects session).key) (quiet : pool.calls call = none)
    (old : call.number < pool.next) (detaches : Bool) :
    ∃ ledger, ({ ((pool.detachLeaseSafe session detaches).1.unregister session).await call
      (.releasing slot session (pool.detachLeaseSafe session detaches).2) with
        objects := Function.update pool.objects session object }).Sound config ledger := by
  have unclaimed := sound.unclaimed registered owner
  have inUse := sound.used slot there (by rw [owner]; nofun)
  have unworked : ledger.worker session = none := by
    cases works : ledger.worker session with
    | none => rfl
    | some other =>
      have out := sound.hidden session (by rw [works]; nofun)
      rw [registered] at out
      nomatch out
  have silent : work Call.session pool.calls call = none ∧ work Call.slot pool.calls call = none ∧
      work Call.lease pool.calls call = none := by simp [work, quiet]
  have lent' : ∀ other, Function.update pool.sessions session false other = true →
      (Function.update pool.objects session object other).borrowed = true →
      ({ pool with objects := Function.update pool.objects session object }).isShared other = true ∨
        Function.update ledger.owns session none other ≠ none := by
    intro other there borrowed
    by_cases same : other = session
    · rw [same, Function.update_self] at there
      nomatch there
    · rw [Function.update_of_ne same] at there borrowed
      rw [Function.update_of_ne same]
      have old := sound.lent other there borrowed
      unfold isShared at old ⊢
      simpa only [Function.update_of_ne same] using old
  by_cases detached : detaches = true ∧ pool.bound session ≠ none
  · obtain ⟨context, holds⟩ := Option.ne_none_iff_exists'.mp detached.2
    have made := sound.served session context holds
    have placed := (sound.bound session context).mpr holds
    refine ⟨{
      place := Function.update ledger.place context (some (.call call))
      worker := Function.update ledger.worker session (some call)
      claimant := Function.update ledger.claimant slot (some call)
      owns := Function.update ledger.owns session none }, ?_⟩
    unfold detachLeaseSafe
    rw [if_pos detached.1, holds]
    cases id sound
    constructor <;> simp only [unregister, await, work_update, Option.bind_some, Call.session,
      Call.slot, Call.owner, Call.lease, Call.key] <;> try assumption
    all_goals grind -ring -linarith -order -ac only [= Function.update_apply, = Option.isNone_some,
      = Option.isNone_none, = Option.isSome_some, = Option.isSome_none]
  · refine ⟨{
      place := ledger.place
      worker := Function.update ledger.worker session (some call)
      claimant := Function.update ledger.claimant slot (some call)
      owns := Function.update ledger.owns session none }, ?_⟩
    have kept_ : pool.detachLeaseSafe session detaches = (pool, none) := by
      unfold detachLeaseSafe
      by_cases able : detaches = true
      · have unbound : pool.bound session = none := by
          by_contra holds
          exact detached ⟨able, holds⟩
        rw [if_pos able, unbound, ← unbound, Function.update_eq_self]
      · rw [if_neg able]
    rw [kept_]
    cases id sound
    constructor <;> simp only [unregister, await, work_update, Option.bind_some, Call.session,
      Call.slot, Call.owner, Call.lease, Call.key] <;> try assumption
    all_goals grind -ring -linarith -order -ac only [= Function.update_apply, = Option.isNone_some,
      = Option.isNone_none, = Option.isSome_some, = Option.isSome_none]

/-- The context of a session that is dropped goes back to the slot that the session owns. -/
theorem Sound.stash (sound : pool.Sound config ledger) (registered : pool.sessions session = true)
    (there : OrderedMap.get? pool.warm (pool.entries slot).key = some slot)
    (owner : (pool.entries slot).sessionId = some session)
    (serves : (pool.objects session).key = some (pool.entries slot).key)
    (holds : pool.bound session = some context) (same : entry.key = (pool.entries slot).key)
    (lease : entry.lease = some context) (inUse : entry.inUse = false)
    (cleared : entry.sessionId = none) :
    ∃ ledger, ({ (pool.setEntry slot entry).unregister session with
      bound := Function.update pool.bound session none }).Sound config ledger := by
  have unclaimed := sound.unclaimed registered owner
  have busy := sound.used slot there (by rw [owner]; nofun)
  have empty := sound.idle slot there
  have made := sound.served session context holds
  have placed := (sound.bound session context).mpr holds
  refine ⟨{
    place := Function.update ledger.place context (some (.slot slot))
    worker := ledger.worker
    claimant := ledger.claimant
    owns := Function.update ledger.owns session none }, ?_⟩
  cases id sound
  constructor <;> simp only [setEntry, unregister] <;> try assumption
  case lent =>
    intro other there borrowed
    by_cases same : other = session
    · rw [same, Function.update_self] at there
      nomatch there
    · rw [Function.update_of_ne same] at there
      rw [Function.update_of_ne same]
      exact sound.lent other there borrowed
  all_goals grind -ring -linarith -order -ac only [= Function.update_apply, = Option.isNone_some,
    = Option.isNone_none, = Option.isSome_some, = Option.isSome_none]

theorem Sound.forget (sound : pool.Sound config ledger) (registered : pool.sessions session = true)
    (there : OrderedMap.get? pool.warm (pool.entries slot).key = some slot)
    (owner : (pool.entries slot).sessionId = some session)
    (free : (pool.objects session).borrowed = false) :
    ∃ owns, (pool.dropSlot (pool.entries slot).key).Sound config { ledger with owns } := by
  have unclaimed := sound.unclaimed registered owner
  have busy := sound.used slot there (by rw [owner]; nofun)
  have empty := sound.idle slot there
  refine ⟨Function.update ledger.owns session none, ?_⟩
  cases id sound
  constructor <;> simp only [dropSlot, OrderedMap.get?_delete sound.distinct] <;> try assumption
  case distinct => exact OrderedMap.keys_delete_nodup sound.distinct _
  case lent =>
    intro other there borrowed
    have differs : other ≠ session := by
      rintro rfl
      rw [free] at borrowed
      nomatch borrowed
    rw [Function.update_of_ne differs]
    exact sound.lent other there borrowed
  all_goals grind -ring -linarith -order -ac only [= Function.update_apply, = Option.isNone_some,
    = Option.isNone_none, = Option.isSome_some, = Option.isSome_none]

/-- A session is dropped, and a call goes on to end it. -/
theorem Sound.close (sound : pool.Sound config ledger) (registered : pool.sessions session = true)
    (quiet : pool.calls call = none) (old : call.number < pool.next) :
    ∃ ledger, ((pool.unregister session).await call (.closing session)).Sound config ledger := by
  have unworked : ledger.worker session = none := by
    cases works : ledger.worker session with
    | none => rfl
    | some other =>
      have out := sound.hidden session (by rw [works]; nofun)
      rw [registered] at out
      nomatch out
  have silent : work Call.session pool.calls call = none ∧ work Call.slot pool.calls call = none ∧
      work Call.lease pool.calls call = none := by simp [work, quiet]
  have young : session.number < pool.next := by
    by_contra fresh
    rw [(sound.freshSession session (Nat.le_of_not_lt fresh)).1] at registered
    nomatch registered
  refine ⟨{
    place := ledger.place
    worker := Function.update ledger.worker session (some call)
    claimant := ledger.claimant
    owns := Function.update ledger.owns session none }, ?_⟩
  cases id sound
  constructor <;> simp only [unregister, await, work_update, Option.bind_some, Call.session,
    Call.slot, Call.owner, Call.lease, Call.key] <;> try assumption
  case lent =>
    intro other there borrowed
    by_cases same : other = session
    · rw [same, Function.update_self] at there
      nomatch there
    · rw [Function.update_of_ne same] at there
      rw [Function.update_of_ne same]
      exact sound.lent other there borrowed
  all_goals grind -ring -linarith -order -ac only [= Function.update_apply, = Option.isNone_some,
    = Option.isNone_none, = Option.isSome_some, = Option.isSome_none]

theorem Sound.giveBack (sound : pool.Sound config ledger)
    (waits : pool.calls call = some (.releasing slot session (some context)))
    (same : entry.key = (pool.entries slot).key) (lease : entry.lease = some context)
    (inUse : entry.inUse = false) (owner : entry.sessionId = none) :
    ∃ ledger, ((pool.setEntry slot entry).finish call).Sound config ledger := by
  obtain ⟨working, claiming, workerIs, claimantIs, mine, out, old, unowned, alone⟩ :=
    sound.atWork waits rfl rfl
  have holding : work Call.lease pool.calls call = some context := by simp [work, waits, Call.lease]
  have empty := sound.idle slot mine.1
  have placed := (sound.called call context).mpr holding
  have made := sound.carried call slot context placed claimantIs
  have unbound := sound.parted call session working (by rw [holding]; nofun)
  refine ⟨{
    place := Function.update ledger.place context (some (.slot slot))
    worker := Function.update ledger.worker session none
    claimant := Function.update ledger.claimant slot none
    owns := ledger.owns }, ?_⟩
  cases id sound
  constructor <;> simp only [setEntry, finish, work_update, Option.bind_none] <;> try assumption
  all_goals grind -ring -linarith -order -ac only [= Function.update_apply, = Option.isNone_some,
    = Option.isNone_none, = Option.isSome_some, = Option.isSome_none]

/-- The context of a session that has been dropped is handed to the driver. -/
theorem Sound.end_ (sound : pool.Sound config ledger)
    (waits : pool.calls call = some (.closing session)) :
    ∃ ledger, ((pool.destroySession session).finish call).Sound config ledger := by
  have works : work Call.session pool.calls call = some session := by
    simp [work, waits, Call.session]
  have unclaiming : work Call.slot pool.calls call = none := by simp [work, waits, Call.slot]
  have unleased : work Call.lease pool.calls call = none := by simp [work, waits, Call.lease]
  have workerIs := (sound.worker session call).mpr works
  have out := sound.hidden session (by rw [workerIs]; nofun)
  cases holds : pool.bound session with
  | none =>
    refine ⟨{
      place := ledger.place
      worker := Function.update ledger.worker session none
      claimant := ledger.claimant
      owns := ledger.owns }, ?_⟩
    unfold destroySession
    rw [holds]
    cases id sound
    constructor <;> simp only [finish, work_update, Option.bind_none] <;> try assumption
    all_goals grind -ring -linarith -order -ac only [= Function.update_apply, = Option.isNone_some,
      = Option.isNone_none, = Option.isSome_some, = Option.isSome_none]
  | some context =>
    have placed := (sound.bound session context).mpr holds
    refine ⟨{
      place := Function.update ledger.place context none
      worker := Function.update ledger.worker session none
      claimant := ledger.claimant
      owns := ledger.owns }, ?_⟩
    unfold destroySession
    rw [holds]
    cases id sound
    constructor <;> simp only [destroyLease, finish, work_update, live_handed, Option.bind_none]
      <;> try assumption
    all_goals grind -ring -linarith -order -ac only [= Function.update_apply, = Option.isNone_some,
      = Option.isNone_none, = Option.isSome_some, = Option.isSome_none]

end Pool

end Klura
