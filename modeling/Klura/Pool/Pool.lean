import Klura.Library.OrderedMap
import Klura.Library.Machine
import Mathlib.Logic.Function.Basic

/-! The pool of browser sessions: warm slots, shared sessions, and the calls that are under way. -/

namespace Klura

namespace Pool

/-- The id of a session. -/
structure SessionId where
  number : Nat
  deriving DecidableEq

/-- A browser context, which the driver holds for a session or for a lease. -/
structure ContextId where
  number : Nat
  deriving DecidableEq

/-- A call that is under way. -/
structure CallId where
  number : Nat
  deriving DecidableEq

/-- The record of a warm slot. -/
structure SlotId where
  number : Nat
  deriving DecidableEq

/-- The identity of a session that is given none. -/
def DEFAULT_IDENTITY : String := "default"

/-- A text, unless it is empty. -/
def present (text : Option String) : Option String := text.filter (· ≠ "")

/-- The key of a warm slot, the text of which joins the two by a separator that neither contains. -/
structure WarmKey where
  platform : String
  identity : String
  deriving DecidableEq

/-- The key of a platform and an identity. -/
def warmKey (platform : String) (identity : Option String) : WarmKey where
  platform
  identity := (present identity).getD DEFAULT_IDENTITY

/-- The settings that a browser context is created with. -/
structure DeviceFingerprint where
  userAgent : Option String
  viewport : Option (Nat × Nat)
  hasTouch : Bool
  isMobile : Bool
  deriving DecidableEq

/-- What a session is asked for with. -/
structure SessionOptions where
  platform : Option String
  identity : Option String
  freshContext : Bool
  device : DeviceFingerprint

/-- A session. -/
structure Session where
  platform : Option String
  identity : Option String
  borrowed : Bool

/-- The key of the slot that a session may own. -/
def Session.key (session : Session) : Option WarmKey :=
  session.platform.map fun platform => warmKey platform session.identity

/-- The key that the options ask for. -/
def SessionOptions.key (opts : SessionOptions) : Option WarmKey :=
  (present opts.platform).map fun platform => warmKey platform opts.identity

/-- A warm slot. -/
structure WarmEntry where
  platform : String
  identity : String
  lease : Option ContextId
  sessionId : Option SessionId
  deviceFingerprint : DeviceFingerprint
  lastUsedAt : Nat
  inUse : Bool

/-- The key of a slot. -/
def WarmEntry.key (entry : WarmEntry) : WarmKey := warmKey entry.platform entry.identity

/-- The sessions that are shared for a platform, each with the moment it was added. -/
structure Bucket where
  serial : Nat
  members : List (Nat × SessionId)

/-- A call that waits for the driver, for a probe or for the hooks of a session. -/
inductive Call where
  /-- A new session waits for the stale context to be destroyed. -/
  | evicting (opts : SessionOptions)
  /-- A new session waits for the driver to create it. -/
  | creating (opts : SessionOptions)
  /-- A session that has taken over a slot's context waits for it to be reset. -/
  | resetting (slot : SlotId) (session : SessionId) (opts : SessionOptions)
  /-- A checkout waits for the probe of the session that has taken over a slot's context. -/
  | probingWarm (slot : SlotId) (session : SessionId) (platform : String) (identity : Option String)
  /-- A checkout waits for a context that cannot be detached to be destroyed. -/
  | abandoning (platform : String) (identity : Option String)
  /-- A checkout waits for the probe of a shared session. -/
  | probingShared (platform : String) (identity : Option String) (serial stamp : Nat)
    (session : SessionId)
  /-- The release of a borrowed session waits for its hooks. -/
  | releasing (slot : SlotId) (session : SessionId) (lease : Option ContextId)
  /-- The end of a session waits for its hooks. -/
  | closing (session : SessionId)

/-- The settings of the pool. -/
structure PoolOptions where
  warmEnabled : Bool
  warmMax : Nat
  warmTtlMs : Nat

end Pool

open Pool

/-- The pool, what the driver holds for its sessions, and the calls that are under way. -/
structure Pool where
  objects : SessionId → Session
  sessions : SessionId → Bool
  entries : SlotId → WarmEntry
  warm : OrderedMap WarmKey SlotId
  shared : String → Option Bucket
  calls : CallId → Option Call
  bound : SessionId → Option ContextId
  createdFor : ContextId → Option (Option WarmKey)
  handed : ContextId → Bool
  next : Nat

namespace Pool

/-- What a call returns. -/
inductive Reply where
  | created (session : SessionId)
  | checkedOut (platform : String) (identity : Option String) (session : SessionId)
  deriving DecidableEq

/-! What the calls do between two waits. -/

/-- Lets a call wait. -/
def await (pool : Pool) (call : CallId) (state : Call) : Pool :=
  { pool with calls := Function.update pool.calls call (some state) }

/-- Ends a call. -/
def finish (pool : Pool) (call : CallId) : Pool :=
  { pool with calls := Function.update pool.calls call none }

/-- Changes the record of a slot. -/
def setEntry (pool : Pool) (slot : SlotId) (entry : WarmEntry) : Pool :=
  { pool with entries := Function.update pool.entries slot entry }

/-- Takes a slot out of the pool. -/
def dropSlot (pool : Pool) (key : WarmKey) : Pool :=
  { pool with warm := OrderedMap.delete pool.warm key }

/-- Hands a context to the driver to be destroyed. -/
def destroyLease (pool : Pool) (lease : ContextId) : Pool :=
  { pool with handed := Function.update pool.handed lease true }

/-- Hands the context of a session to the driver to be destroyed. -/
def destroySession (pool : Pool) (session : SessionId) : Pool :=
  match pool.bound session with
  | none => pool
  | some context =>
    { pool.destroyLease context with bound := Function.update pool.bound session none }

/-- Detaches the context of a session, when the driver can. -/
def detachLeaseSafe (pool : Pool) (session : SessionId) (detaches : Bool) :
    Pool × Option ContextId :=
  if detaches then
    ({ pool with bound := Function.update pool.bound session none }, pool.bound session)
  else (pool, none)

/-- Registers a session. -/
def register (pool : Pool) (session : SessionId) : Pool :=
  { pool with sessions := Function.update pool.sessions session true }

/-- Drops the id of a session. -/
def unregister (pool : Pool) (session : SessionId) : Pool :=
  { pool with sessions := Function.update pool.sessions session false }

/-- Marks a session as borrowed, or as not borrowed. -/
def setBorrowed (pool : Pool) (session : SessionId) (borrowed : Bool) : Pool :=
  { pool with
    objects := Function.update pool.objects session { pool.objects session with borrowed } }

/-- A session without anything in it. -/
def mintSession (platform identity : Option String) : Session where
  platform := present platform
  identity := present identity
  borrowed := false

/-- Evicts a slot that is not in use. -/
def evict (pool : Pool) (key : WarmKey) (slot : SlotId) : Pool :=
  match (pool.entries slot).lease with
  | none => pool.dropSlot key
  | some lease => (pool.destroyLease lease).dropSlot key

/-- The slot that has been idle for longest. -/
def oldestIdle (pool : Pool) : Option (WarmKey × SlotId) :=
  pool.warm.foldl
    (fun oldest entry =>
      if (pool.entries entry.2).inUse then oldest
      else match oldest with
        | none => some entry
        | some found =>
          if (pool.entries entry.2).lastUsedAt < (pool.entries found.2).lastUsedAt then some entry
          else oldest)
    none

/-- Evicts idle slots until there is room for one, or no slot is idle. -/
def evictLoop (config : PoolOptions) : Nat → Pool → Pool
  | 0, pool => pool
  | rounds + 1, pool =>
    if pool.warm.length < config.warmMax then pool
    else match pool.oldestIdle with
      | none => pool
      | some (key, slot) => evictLoop config rounds (pool.evict key slot)

/-- Makes room for a slot where the number of slots is limited. -/
def evictIfNeeded (config : PoolOptions) (pool : Pool) : Pool :=
  -- Every round but the last one takes a slot away.
  if config.warmMax = 0 then pool else evictLoop config (pool.warm.length + 1) pool

/-- Evicts the slots that have been idle for too long. -/
def sweep (config : PoolOptions) (now : Nat) (pool : Pool) : Pool :=
  if !config.warmEnabled then pool
  else pool.warm.foldl
    (fun pool entry =>
      if (pool.entries entry.2).inUse then pool
      else if config.warmTtlMs < now - (pool.entries entry.2).lastUsedAt then
        pool.evict entry.1 entry.2
      else pool)
    pool

/-- The slot that a session owns, with its key. -/
def ownSlot (config : PoolOptions) (pool : Pool) (session : SessionId) :
    Option (WarmKey × SlotId) :=
  if !config.warmEnabled then none
  else match (pool.objects session).key with
    | none => none
    | some key =>
      match OrderedMap.get? pool.warm key with
      | none => none
      | some slot =>
        if (pool.entries slot).sessionId = some session then some (key, slot) else none

/-- Whether a session is shared for its platform. -/
def isShared (pool : Pool) (session : SessionId) : Bool :=
  match (pool.objects session).platform.bind pool.shared with
  | none => false
  | some bucket => decide (session ∈ bucket.members.map Prod.snd)

/-- The bucket without a session, when others are left. -/
def Bucket.without (bucket : Bucket) (session : SessionId) : Option Bucket :=
  let members := bucket.members.filter fun member => decide (member.2 ≠ session)
  if members = [] then none else some { bucket with members }

/-- Takes a session out of those that are shared for a platform. -/
def unshare (pool : Pool) (session : SessionId) (platform : String) : Pool :=
  { pool with
    shared := Function.update pool.shared platform
      ((pool.shared platform).bind fun bucket => bucket.without session) }

/-- Takes a session back from those that it has been shared with. -/
def unshareOwn (pool : Pool) (session : SessionId) : Pool :=
  match (pool.objects session).platform with
  | none => pool
  | some platform => pool.unshare session platform

/-! The calls. -/

/-- Takes over a slot's context for a new session, or gives the context up. -/
def reuseWarm (pool : Pool) (now : Nat) (call : CallId) (slot : SlotId) (lease : ContextId)
    (opts : SessionOptions) (attaches : Bool) : Pool :=
  let entry := pool.entries slot
  if opts.device ≠ entry.deviceFingerprint then
    ((pool.dropSlot entry.key).destroyLease lease).await call (.evicting opts)
  else
    -- The slot is claimed before anything is waited for.
    let pool := pool.setEntry slot
      { entry with lease := none, sessionId := none, inUse := true, lastUsedAt := now }
    if attaches then
      let session : SessionId := ⟨pool.next⟩
      { pool with
        objects := Function.update pool.objects session (mintSession opts.platform opts.identity)
        bound := Function.update pool.bound session (some lease)
        next := pool.next + 1 }.await call (.resetting slot session opts)
    else ((pool.dropSlot entry.key).destroyLease lease).await call (.evicting opts)

/-- The idle slot that a new session can take over, with its context. -/
def reusable (config : PoolOptions) (pool : Pool) (opts : SessionOptions) :
    Option (SlotId × ContextId) :=
  if opts.freshContext || !config.warmEnabled then none
  else match opts.key.bind (OrderedMap.get? pool.warm) with
    | none => none
    | some slot =>
      let entry := pool.entries slot
      if entry.inUse then none else entry.lease.map fun lease => (slot, lease)

/-- A session is asked for. -/
def createSession (config : PoolOptions) (pool : Pool) (now : Nat) (opts : SessionOptions)
    (attaches : Bool) : Pool :=
  let call : CallId := ⟨pool.next⟩
  let started := { pool with next := pool.next + 1 }
  match reusable config pool opts with
  | some (slot, lease) => reuseWarm started now call slot lease opts attaches
  | none => started.await call (.creating opts)

/-- The driver has created a session. -/
def created (config : PoolOptions) (pool : Pool) (now : Nat) (opts : SessionOptions) : Pool :=
  let session : SessionId := ⟨pool.next⟩
  let context : ContextId := ⟨pool.next⟩
  let registered := { pool with
    objects := Function.update pool.objects session (mintSession opts.platform opts.identity)
    bound := Function.update pool.bound session (some context)
    createdFor := Function.update pool.createdFor context (some opts.key)
    next := pool.next + 1 }.register session
  match present opts.platform with
  | none => registered
  | some platform =>
    let key := warmKey platform opts.identity
    if opts.freshContext || !config.warmEnabled || (OrderedMap.get? pool.warm key).isSome then
      registered
    else
      let roomy := evictIfNeeded config registered
      let slot : SlotId := ⟨roomy.next⟩
      { roomy.setEntry slot {
          platform
          identity := (present opts.identity).getD DEFAULT_IDENTITY
          lease := none
          sessionId := some session
          deviceFingerprint := opts.device
          lastUsedAt := now
          inUse := true } with
        warm := OrderedMap.set roomy.warm key slot
        next := roomy.next + 1 }

/-- The next shared session that a checkout probes. -/
def nextShared (pool : Pool) (call : CallId) (platform : String) (identity : Option String)
    (serial least : Nat) : Pool :=
  match pool.shared platform with
  | none => pool.finish call
  | some bucket =>
    if bucket.serial ≠ serial then pool.finish call
    else match bucket.members.find? fun member => decide (least ≤ member.1) with
      | none => pool.finish call
      | some (stamp, session) =>
        pool.await call (.probingShared platform identity serial stamp session)

/-- A checkout turns to the shared sessions. -/
def startShared (pool : Pool) (call : CallId) (platform : String) (identity : Option String) :
    Pool :=
  match pool.shared platform with
  | none => pool.finish call
  | some bucket => pool.nextShared call platform identity bucket.serial 0

/-- A session whose page is ready is asked for. -/
def tryCheckoutReadySession (config : PoolOptions) (pool : Pool) (now : Nat) (platform : String)
    (identity : Option String) (attaches : Bool) : Pool :=
  let call : CallId := ⟨pool.next⟩
  let started := { pool with next := pool.next + 1 }
  let key := warmKey platform identity
  match (OrderedMap.get? pool.warm key).bind fun slot =>
      (pool.entries slot).lease.map fun lease => (slot, lease) with
  | none => started.startShared call platform identity
  | some (slot, lease) =>
    let entry := pool.entries slot
    if !config.warmEnabled || entry.inUse || !attaches then started.startShared call platform identity
    else
      -- The slot is claimed before the probe is waited for.
      let session : SessionId := ⟨started.next⟩
      { started.setEntry slot
          { entry with lease := none, sessionId := some session, inUse := true, lastUsedAt := now } with
        objects := Function.update pool.objects session (mintSession (some platform) identity)
        bound := Function.update pool.bound session (some lease)
        next := started.next + 1 }.await call (.probingWarm slot session platform identity)

/-- A probe of the session that has taken over a slot's context has failed. -/
def notReady (pool : Pool) (now : Nat) (call : CallId) (slot : SlotId) (session : SessionId)
    (platform : String) (identity : Option String) (detaches : Bool) : Pool :=
  let (detached, lease) := pool.detachLeaseSafe session detaches
  let restored := detached.setEntry slot
    { pool.entries slot with sessionId := none, inUse := false, lastUsedAt := now, lease }
  match lease with
  | some _ => restored.startShared call platform identity
  | none =>
    ((restored.dropSlot (warmKey platform identity)).destroySession session).await call
      (.abandoning platform identity)

/-- A session is ended by its owner or released by its borrower: the call does not say which. -/
def endDrive (config : PoolOptions) (pool : Pool) (now : Nat) (session : SessionId)
    (detaches : Bool) : Pool :=
  let call : CallId := ⟨pool.next⟩
  let started := { pool with next := pool.next + 1 }
  if !pool.sessions session then started
  else if (pool.objects session).borrowed then
    let released := started.setBorrowed session false
    if pool.isShared session then released
    else match ownSlot config pool session with
      | some (_, slot) =>
        let (detached, lease) := released.detachLeaseSafe session detaches
        (detached.unregister session).await call (.releasing slot session lease)
      | none => released.unregister session
  else
    let unshared := started.unshareOwn session
    match ownSlot config pool session with
    | none => (unshared.unregister session).await call (.closing session)
    | some (key, slot) =>
      let (detached, lease) := unshared.detachLeaseSafe session detaches
      match lease with
      | some _ =>
        (detached.setEntry slot { pool.entries slot with
          lease, sessionId := none, inUse := false, lastUsedAt := now }).unregister session
      | none =>
        ((detached.dropSlot key).unregister session).await call (.closing session)

/-- The hooks of a borrowed session have run. -/
def released (pool : Pool) (now : Nat) (slot : SlotId) (session : SessionId)
    (lease : Option ContextId) : Pool :=
  match lease with
  | some _ => pool.setEntry slot { pool.entries slot with
      lease, sessionId := none, inUse := false, lastUsedAt := now }
  | none =>
    match (pool.objects session).key with
    | none => pool.destroySession session
    | some key => (pool.dropSlot key).destroySession session

/-- A call goes on with what it has waited for, which has come about or failed. -/
def resume (config : PoolOptions) (pool : Pool) (now : Nat) (call : CallId) (succeeds detaches : Bool) :
    Pool × Option Reply :=
  match pool.calls call with
  | none => (pool, none)
  | some (.evicting opts) => (pool.await call (.creating opts), none)
  | some (.creating opts) =>
    if succeeds then ((pool.created config now opts).finish call, some (.created ⟨pool.next⟩))
    else (pool.finish call, none)
  | some (.resetting slot session opts) =>
    let entry := pool.entries slot
    if succeeds then
      (((pool.setEntry slot { entry with sessionId := some session, lastUsedAt := now }).register
        session).finish call, some (.created session))
    else (((pool.dropSlot entry.key).destroySession session).await call (.evicting opts), none)
  | some (.probingWarm slot session platform identity) =>
    if succeeds then
      (((pool.setBorrowed session true).register session).finish call,
        some (.checkedOut platform identity session))
    else (pool.notReady now call slot session platform identity detaches, none)
  | some (.abandoning platform identity) => (pool.startShared call platform identity, none)
  | some (.probingShared platform identity serial stamp session) =>
    if succeeds then
      ((pool.setBorrowed session true).finish call, some (.checkedOut platform identity session))
    else (pool.nextShared call platform identity serial (stamp + 1), none)
  | some (.releasing slot session lease) => ((pool.released now slot session lease).finish call, none)
  | some (.closing session) => ((pool.destroySession session).finish call, none)

/-- A session is shared for a platform. -/
def registerSharedSession (pool : Pool) (session : SessionId) (platform : String) : Pool :=
  let bucket := (pool.shared platform).getD ⟨pool.next, []⟩
  if session ∈ bucket.members.map Prod.snd then pool
  else { pool with
    shared := Function.update pool.shared platform
      (some { bucket with members := bucket.members ++ [(pool.next, session)] })
    next := pool.next + 1 }

/-- Who ends a session. -/
inductive Caller where
  | owner
  | borrower
  deriving DecidableEq

/-- What happens to the pool, and how the driver fares with it. -/
inductive Event where
  | createSession (opts : SessionOptions) (attaches : Bool)
  | tryCheckoutReadySession (platform : String) (identity : Option String) (attaches : Bool)
  | endDrive (caller : Caller) (session : SessionId) (detaches : Bool)
  | resume (call : CallId) (succeeds detaches : Bool)
  | sweep
  | registerSharedSession (session : SessionId) (platform : String)
  | dispose (session : SessionId) (platform : String)

/-- What an event at a time makes of the pool, and what is returned with it. -/
def step (config : PoolOptions) (pool : Pool) (now : Nat) : Event → Pool × Option Reply
  | .createSession opts attaches => (pool.createSession config now opts attaches, none)
  | .tryCheckoutReadySession platform identity attaches =>
    (pool.tryCheckoutReadySession config now platform identity attaches, none)
  | .endDrive _ session detaches => (pool.endDrive config now session detaches, none)
  | .resume call succeeds detaches => pool.resume config now call succeeds detaches
  | .sweep => (pool.sweep config now, none)
  | .registerSharedSession session platform => (pool.registerSharedSession session platform, none)
  | .dispose session platform => (pool.unshare session platform, none)

/-- A pool that nothing has happened to. -/
def empty : Pool where
  objects _ := ⟨none, none, false⟩
  sessions _ := false
  entries _ := ⟨"", "", none, none, ⟨none, none, false, false⟩, 0, false⟩
  warm := []
  shared _ := none
  calls _ := none
  bound _ := none
  createdFor _ := none
  handed _ := false
  next := 0

end Pool

end Klura
