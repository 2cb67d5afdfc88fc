import Klura.Library.NestedMap
import Klura.Library.Machine
import Mathlib.Data.Rat.Floor

/-! The cache of evaluated prerequisites, and the timers that refresh what it holds. -/

namespace Klura

namespace JsEval

/-- What brought a value into the cache. -/
inductive Origin where
  /-- An execution that evaluated the prerequisite itself. -/
  | execution
  /-- A refresh, with the moment it was started. -/
  | refresh (startedAt : Nat)
  deriving DecidableEq

/-- A value of the cache; its origin is the record's of the model only. -/
structure JsEvalCacheEntry where
  value : String
  expiresAt : Option ℚ
  mintedAt : ℚ
  origin : Origin
  deriving DecidableEq

/-- What a refresh is scheduled with; what it evaluates shows in how its calls end. -/
structure ScheduleOpts where
  platform : String
  bindsTo : String
  intervalMs : ℚ
  jitterMs : ℚ
  deriving DecidableEq

/-- What identifies a timer of the event loop. -/
structure TimerHandle where
  number : Nat
  deriving DecidableEq

/-- The timer of a scheduled refresh. -/
structure TimerEntry where
  handle : TimerHandle
  opts : ScheduleOpts
  deriving DecidableEq

/-- The cache and the timers, by platform and by what the prerequisite binds to. -/
structure JsEvalCacheImpl where
  cache : NestedMap String String JsEvalCacheEntry
  timers : NestedMap String String TimerEntry

namespace JsEvalCacheImpl

/-- The entry of a prerequisite. -/
def get (impl : JsEvalCacheImpl) (platform bindsTo : String) : Option JsEvalCacheEntry :=
  impl.cache.get? platform bindsTo

/-- Stores a value. -/
def set (impl : JsEvalCacheImpl) (platform bindsTo value : String) (expiresAt : Option ℚ) (now : ℚ)
    (origin : Origin) : JsEvalCacheImpl :=
  { impl with cache := impl.cache.put platform bindsTo ⟨value, expiresAt, now, origin⟩ }

end JsEvalCacheImpl

/-- How far the random offset of a delay may be from zero. -/
def jitterSpan (jitterMs : ℚ) : Int := max 1 ⌊jitterMs⌋

/-- The delay of a timer, for the offset that was drawn. -/
def jitteredDelay (intervalMs jitterMs : ℚ) (offset : Int) : ℚ :=
  if jitterMs ≤ 0 then intervalMs
  else max 1 (intervalMs + (max (-jitterSpan jitterMs) (min offset (jitterSpan jitterMs)) : Int))

/-- A timer that the event loop has yet to fire. -/
structure Armed where
  handle : TimerHandle
  opts : ScheduleOpts
  delayMs : ℚ
  deriving DecidableEq

/-- A tick that waits for its refresh, told by the timer that started it. -/
structure Tick where
  handle : TimerHandle
  opts : ScheduleOpts
  startedAt : Nat
  deriving DecidableEq

/-- What was cancelled. -/
inductive Cancelled where
  | prereq (platform bindsTo : String)
  | wholePlatform (platform : String)
  | everything
  deriving DecidableEq

/-- Whether a cancellation is one of a prerequisite's. -/
def Cancelled.covers : Cancelled → String → String → Bool
  | .prereq platform bindsTo, platform', bindsTo' => platform = platform' ∧ bindsTo = bindsTo'
  | .wholePlatform platform, platform', _ => platform = platform'
  | .everything, _, _ => true

/-- The cache, the event loop around it, and what happened so far: the number of events, and the
moment of each cancellation. -/
structure World where
  impl : JsEvalCacheImpl
  armed : List Armed
  inFlight : List Tick
  nextHandle : Nat
  moment : Nat
  cancels : List (Nat × Cancelled)

/-- What happens to the cache: a call of one of its functions, a timer that fires, or the end of a
refresh; with the time it happens at and the offset that is drawn, where these count. -/
inductive Event where
  | set (platform bindsTo value : String) (expiresAt : Option ℚ) (now : ℚ)
  | schedule (opts : ScheduleOpts) (offset : Int)
  | cancel (platform : String) (bindsTo : Option String)
  | shutdown
  | fires (handle : TimerHandle)
  | refreshed (handle : TimerHandle) (value : String) (now : ℚ) (offset : Int)
  | refreshFailed (handle : TimerHandle) (offset : Int)

namespace World

/-- A cache that nothing has happened to. -/
def start : World := ⟨⟨∅, ∅⟩, [], [], 0, 0, []⟩

/-- The handle that the next timer gets. -/
def newHandle (world : World) : TimerHandle := ⟨world.nextHandle⟩

/-- Arms a timer for the next tick of a refresh, and enters it under its prerequisite. -/
def arm (world : World) (opts : ScheduleOpts) (entryOpts : ScheduleOpts) (offset : Int) : World :=
  { world with
    impl := { world.impl with
      timers := world.impl.timers.put opts.platform opts.bindsTo ⟨world.newHandle, entryOpts⟩ }
    armed := ⟨world.newHandle, opts, jitteredDelay opts.intervalMs opts.jitterMs offset⟩ :: world.armed
    nextHandle := world.nextHandle + 1 }

/-- Schedules a refresh, unless the prerequisite has one. -/
def schedule (world : World) (opts : ScheduleOpts) (offset : Int) : World :=
  match world.impl.timers.get? opts.platform opts.bindsTo with
  | some _ => world
  | none => world.arm opts opts offset

/-- Clears the timers of some entries. -/
def clearTimeouts (armed : List Armed) (entries : List TimerEntry) : List Armed :=
  armed.filter fun timer => !(entries.map TimerEntry.handle).contains timer.handle

/-- Cancels the refreshes of a platform, or of one prerequisite of it, and drops what they cached. -/
def cancel (world : World) (platform : String) : Option String → World
  | none =>
    { world with
      impl := ⟨world.impl.cache.erase platform, world.impl.timers.erase platform⟩
      armed := clearTimeouts world.armed (world.impl.timers.valuesOf platform)
      cancels := (world.moment, .wholePlatform platform) :: world.cancels }
  | some bindsTo =>
    { world with
      impl := ⟨world.impl.cache.drop platform bindsTo, world.impl.timers.drop platform bindsTo⟩
      armed := clearTimeouts world.armed (world.impl.timers.get? platform bindsTo).toList
      cancels := (world.moment, .prereq platform bindsTo) :: world.cancels }

/-- Cancels every refresh. -/
def shutdown (world : World) : World :=
  { world with
    impl := ⟨∅, ∅⟩
    armed := clearTimeouts world.armed world.impl.timers.values
    cancels := (world.moment, .everything) :: world.cancels }

/-- Fires a timer, which starts a refresh. -/
def fire (world : World) (timer : Armed) : World :=
  { world with
    armed := world.armed.filter (·.handle ≠ timer.handle)
    inFlight := ⟨timer.handle, timer.opts, world.moment⟩ :: world.inFlight }

/-- Stores what a refresh returned, if it returned something. -/
def store (world : World) (tick : Tick) : Option (String × ℚ) → World
  | none => world
  | some (value, now) =>
    let expiresAt := if tick.opts.intervalMs > 0 then some (now + tick.opts.intervalMs) else none
    { world with
      impl := world.impl.set tick.opts.platform tick.opts.bindsTo value expiresAt now
        (.refresh tick.startedAt) }

/-- Arms the timer again where the prerequisite is scheduled, whichever schedule that is. -/
def rearm (world : World) (tick : Tick) (offset : Int) : World :=
  match world.impl.timers.get? tick.opts.platform tick.opts.bindsTo with
  | none => world
  | some stillActive => world.arm tick.opts stillActive.opts offset

/-- Takes a tick whose refresh has ended from those that wait. -/
def land (world : World) (tick : Tick) : World :=
  { world with inFlight := world.inFlight.filter (·.handle ≠ tick.handle) }

/-- Goes on with a tick once its refresh has ended. -/
def resume (world : World) (tick : Tick) (outcome : Option (String × ℚ)) (offset : Int) : World :=
  ((world.land tick).store tick outcome).rearm tick offset

/-- The tick that a timer started and that still waits for its refresh. -/
def tickOf (world : World) (handle : TimerHandle) : Option Tick :=
  world.inFlight.find? (·.handle = handle)

/-- What an event makes of the cache and the event loop, if it can happen. -/
def react (world : World) : Event → Option World
  | .set platform bindsTo value expiresAt now =>
    some { world with impl := world.impl.set platform bindsTo value expiresAt now .execution }
  | .schedule opts offset => some (world.schedule opts offset)
  | .cancel platform bindsTo => some (world.cancel platform bindsTo)
  | .shutdown => some world.shutdown
  | .fires handle => (world.armed.find? (·.handle = handle)).map world.fire
  | .refreshed handle value now offset =>
    (world.tickOf handle).map fun tick => world.resume tick (some (value, now)) offset
  | .refreshFailed handle offset =>
    (world.tickOf handle).map fun tick => world.resume tick none offset

/-- One event, which is one more of those that have happened. -/
def step (world : World) (event : Event) : Option World :=
  (world.react event).map fun next => { next with moment := world.moment + 1 }

end World

end JsEval

end Klura
