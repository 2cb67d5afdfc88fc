import Klura.Cache.Prerequisites

/-! A prerequisite is satisfied from a cache with its own value when each place has one question. -/

namespace Klura

/-- What a prerequisite asks in a scope: its definition, with its templates resolved. -/
abbrev PrereqQuestion : Type := PrerequisiteV1 × List (Option (Option Units))

variable (resolver : TemplateResolver) (owner : PrereqSlotV1 → PrereqQuestion)

/-- Whether a prerequisite asks the one question of the place that its value is cached in. -/
def AsksOwn (platform : Units) (prereq : PrerequisiteV1) (scope : PrereqScopeV1) : Prop :=
  owner (prereq.slot platform) = (prereq, prereq.resolved resolver scope)

/-- Whether an event shares no place between questions: what is looked up or kept asks the question
of its place; a token is kept for some time, under a name that nothing was bound to before. -/
def PrereqEventV1.SharesNothing : PrereqEventV1 → Prop
  | .jsEval platform prereq scope forceFresh _ =>
    (forceFresh || prereq.hasArgsTemplate) = true ∨ AsksOwn resolver owner platform prereq scope
  | .scan platform prereq scope => AsksOwn resolver owner platform prereq scope
  | .browser platform prereq scope _ => AsksOwn resolver owner platform prereq scope ∧
      prereq.ttl ≠ .seconds 0 ∧ OrderedMap.get? scope.tokens prereq.name = none
  | .extracted platform prereq scope _ => AsksOwn resolver owner platform prereq scope ∧
      prereq.ttl ≠ .seconds 0
  | .refreshes _ _ | .cancels _ => True

/-- The prerequisite of an event, and the scope that its templates are resolved in. -/
def PrereqEventV1.asked : PrereqEventV1 → Option (PrerequisiteV1 × PrereqScopeV1)
  | .jsEval _ prereq scope _ _ | .scan _ prereq scope | .browser _ prereq scope _
  | .extracted _ prereq scope _ => some (prereq, scope)
  | .refreshes _ _ | .cancels _ => none

/-- Whether a minted value has not passed its declared expiry at a time. -/
def MintedV1.Unexpired (now : Int) (minted : MintedV1) : Prop :=
  match minted.prereq.kind with
  | .jsEval => ∀ interval, minted.prereq.refreshInterval = some interval →
      now < minted.mintedAt + interval
  | _ => ∀ ttl, minted.prereq.tokenTtl = some ttl → now - minted.mintedAt < ttl * 1000

/-- The place that a minted value is cached in. -/
def MintedV1.slot (minted : MintedV1) : PrereqSlotV1 := minted.prereq.slot minted.platform

/-- What the caches hold was minted for the question of its place. -/
structure PrereqCachesV1.Traced (caches : PrereqCachesV1) : Prop where
  /-- Every minted value answers the question of its place. -/
  owned : ∀ minted ∈ caches.minted,
    AsksOwn resolver owner minted.platform minted.prereq minted.scope
  scheduled : ∀ schedule ∈ caches.scheduled, schedule.prereq.kind = .jsEval ∧
    AsksOwn resolver owner schedule.platform schedule.prereq schedule.scope
  evaluated : ∀ platform key entry, ((platform, key), entry) ∈ caches.jsEvalCache →
    ∃ minted ∈ caches.minted, minted.slot = .jsEval platform key ∧ minted.prereq.kind = .jsEval ∧
      minted.value = entry.value ∧
      entry.expiresAt = minted.prereq.refreshInterval.map fun interval =>
        minted.mintedAt + interval
  tokens : ∀ key entry, (key, entry) ∈ caches.tokenCache →
    ∃ minted ∈ caches.minted, minted.slot = .token key ∧ minted.prereq.kind ≠ .jsEval ∧
      minted.value = entry.value ∧ minted.mintedAt = entry.obtainedAt ∧
      minted.prereq.tokenTtl = some entry.ttl ∧ entry.ttl ≠ 0

variable {resolver owner} {caches : PrereqCachesV1} {now : Int} {platform : Units}
  {prereq : PrerequisiteV1} {scope : PrereqScopeV1} {value : Units}

theorem slot_jsEval (kind : prereq.kind = .jsEval) :
    prereq.slot platform = .jsEval platform (jsEvalCacheKey prereq.bindsTo prereq.expression) := by
  simp [PrerequisiteV1.slot, kind]

theorem slot_token (kind : prereq.kind ≠ .jsEval) :
    prereq.slot platform = .token (tokenKey platform prereq.name) := by
  unfold PrerequisiteV1.slot
  cases given : prereq.kind with
  | jsEval => exact absurd given kind
  | browser => rfl
  | fetchExtract => rfl
  | pageExtract => rfl

theorem tokenTtl_ne_zero {ttl : Int} (declared : prereq.tokenTtl = some ttl)
    (lasting : prereq.ttl ≠ .seconds 0) : ttl ≠ 0 := by
  unfold PrerequisiteV1.tokenTtl at declared
  cases given : prereq.ttl with
  | absent =>
    rw [given] at declared
    cases declared
    decide
  | null =>
    rw [given] at declared
    cases declared
  | seconds count =>
    rw [given] at declared lasting
    cases declared
    exact fun zero => lasting (by rw [zero])

namespace PrereqCachesV1.Traced

theorem writeJsEvalCache (traced : caches.Traced resolver owner) (kind : prereq.kind = .jsEval)
    (own : AsksOwn resolver owner platform prereq scope) :
    (caches.writeJsEvalCache now platform prereq scope value).Traced resolver owner := by
  constructor
  · intro minted member
    rcases List.mem_cons.mp member with rfl | earlier
    · exact own
    · exact traced.owned minted earlier
  · exact traced.scheduled
  · intro platform' key entry member
    rcases OrderedMap.mem_of_mem_set member with same | earlier
    · obtain ⟨places, rfl⟩ := Prod.mk.inj same
      obtain ⟨rfl, rfl⟩ := Prod.mk.inj places
      exact ⟨_, List.mem_cons_self, slot_jsEval kind, kind, rfl, rfl⟩
    · obtain ⟨minted, inside, found⟩ := traced.evaluated platform' key entry earlier
      exact ⟨minted, List.mem_cons_of_mem _ inside, found⟩
  · intro key entry member
    obtain ⟨minted, inside, found⟩ := traced.tokens key entry member
    exact ⟨minted, List.mem_cons_of_mem _ inside, found⟩

theorem schedulePrereqRefresh (traced : caches.Traced resolver owner)
    (kind : prereq.kind = .jsEval) (own : AsksOwn resolver owner platform prereq scope) :
    (caches.schedulePrereqRefresh platform prereq scope).Traced resolver owner := by
  simp only [PrereqCachesV1.schedulePrereqRefresh]
  split
  · exact traced
  · refine ⟨traced.owned, ?_, traced.evaluated, traced.tokens⟩
    intro schedule member
    rcases List.mem_cons.mp member with rfl | earlier
    · exact ⟨kind, own⟩
    · exact traced.scheduled schedule earlier

theorem setToken (traced : caches.Traced resolver owner) (kind : prereq.kind ≠ .jsEval)
    (own : AsksOwn resolver owner platform prereq scope) (lasting : prereq.ttl ≠ .seconds 0) :
    (caches.setToken now platform prereq scope value true).Traced resolver owner := by
  unfold PrereqCachesV1.setToken
  split
  · exact traced
  · next ttl declared =>
    constructor
    · intro minted member
      rcases List.mem_cons.mp member with rfl | earlier
      · exact own
      · exact traced.owned minted earlier
    · exact traced.scheduled
    · intro platform' key entry member
      obtain ⟨minted, inside, found⟩ := traced.evaluated platform' key entry member
      exact ⟨minted, List.mem_cons_of_mem _ inside, found⟩
    · intro key entry member
      rcases OrderedMap.mem_of_mem_set member with same | earlier
      · obtain ⟨rfl, rfl⟩ := Prod.mk.inj same
        exact ⟨_, List.mem_cons_self, slot_token kind, kind, rfl, rfl, declared,
          tokenTtl_ne_zero declared lasting⟩
      · obtain ⟨minted, inside, found⟩ := traced.tokens key entry earlier
        exact ⟨minted, List.mem_cons_of_mem _ inside, found⟩

end PrereqCachesV1.Traced

theorem runBrowserSteps_bound {steps : List PrereqStepV1} {answers : List (Option (Option Units))}
    {tokens : OrderedMap Units JsValue} {bound : List Units} {name : Units} {held : JsValue}
    (ran : runBrowserSteps resolver steps scope answers = some (tokens, bound))
    (fresh : OrderedMap.get? scope.tokens name = none)
    (found : OrderedMap.get? tokens name = some held) : name ∈ bound := by
  -- The induction follows the steps; a step that binds another name leaves this one unbound.
  induction steps generalizing scope answers bound with
  | nil =>
    simp only [runBrowserSteps, Option.some.injEq, Prod.mk.injEq] at ran
    obtain ⟨rfl, -⟩ := ran
    rw [fresh] at found
    cases found
  | cons step steps ih =>
    cases answers with
    | nil => cases ran
    | cons answer answers =>
      simp only [runBrowserSteps] at ran
      split at ran
      · split at ran
        · next unit rest _ _ _ _ _ =>
          obtain ⟨⟨tokens', bound'⟩, later, same⟩ := Option.map_eq_some_iff.mp ran
          obtain ⟨rfl, rfl⟩ := Prod.mk.inj same
          by_cases named : name = unit :: rest
          · simp [named]
          · apply List.mem_cons_of_mem
            refine ih later ?_
            rw [OrderedMap.get?_set_of_ne _ _ named]
            exact fresh
        · exact ih ran fresh
      · cases ran

/-- An event that shares no place keeps the caches traced. -/
theorem apply_traced {event : PrereqEventV1} (traced : caches.Traced resolver owner)
    (proper : event.Proper caches) (shares : event.SharesNothing resolver owner) :
    (caches.apply resolver now event).2.Traced resolver owner := by
  cases event with
  | jsEval platform prereq scope forceFresh page =>
    simp only [PrereqCachesV1.apply, PrereqCachesV1.runJsEvalBrowserPrereq]
    split
    · exact traced
    · split
      · split <;> exact traced
      · next cached =>
        have own := shares.resolve_left cached
        split
        · exact traced
        · split
          · exact traced
          · exact (traced.writeJsEvalCache proper own).schedulePrereqRefresh proper own
  | scan platform prereq scope =>
    simp only [PrereqCachesV1.apply, PrereqCachesV1.scanBrowserPrereq]
    split
    · exact traced
    · exact traced
    · refine ⟨traced.owned, traced.scheduled, traced.evaluated, ?_⟩
      intro key entry member
      exact traced.tokens key entry (OrderedMap.mem_of_mem_delete member)
  | browser platform prereq scope answers =>
    obtain ⟨own, lasting, fresh⟩ := shares
    have kind : prereq.kind ≠ .jsEval := by
      rw [show prereq.kind = .browser from proper]
      decide
    simp only [PrereqCachesV1.apply, PrereqCachesV1.runBrowserPrereq]
    split
    · exact traced
    · next tokens bound ran =>
      split
      · next found =>
        rw [decide_eq_true (runBrowserSteps_bound ran fresh found)]
        exact traced.setToken kind own lasting
      · exact traced
  | extracted platform prereq scope value =>
    obtain ⟨own, lasting⟩ := shares
    have kind : prereq.kind ≠ .jsEval := by
      rcases proper with fetched | fetched
      · rw [fetched]
        decide
      · rw [fetched]
        decide
    simp only [PrereqCachesV1.apply, PrereqCachesV1.storeExtracted]
    split
    · exact traced.setToken kind own lasting
    · exact traced
  | refreshes schedule value =>
    obtain ⟨kind, own⟩ := traced.scheduled schedule proper
    exact traced.writeJsEvalCache kind own
  | cancels platform =>
    refine ⟨traced.owned, traced.scheduled, ?_, traced.tokens⟩
    intro platform' key entry member
    exact traced.evaluated platform' key entry (List.mem_filter.mp member).1

theorem reached_traced
    (reached : (prereqMachine resolver).Reaches
      (fun _ event => event.2.SharesNothing resolver owner) caches) :
    caches.Traced resolver owner := by
  have starts : ∀ state, (prereqMachine resolver).starts state → state.Traced resolver owner := by
    intro state first
    rw [show state = .empty from first]
    constructor
    · intro minted member
      exact absurd member List.not_mem_nil
    · intro schedule member
      exact absurd member List.not_mem_nil
    · intro platform key entry member
      exact absurd member List.not_mem_nil
    · intro key entry member
      exact absurd member List.not_mem_nil
  have steps : ∀ before (event : Int × PrereqEventV1) after,
      event.2.SharesNothing resolver owner → (prereqMachine resolver).step before event after →
      before.Traced resolver owner → after.Traced resolver owner := by
    intro before event after shares step traced
    rw [step.2]
    exact apply_traced traced step.1 shares
  exact reached.invariant starts steps

/-- A resolution of one placeholder, the page that a call asks for. -/
def pageResolver : TemplateResolver where
  url template scope :=
    if template = ascii "{{page}}" then
      match OrderedMap.get? scope.args (ascii "page") with
      | some (.string page) => some page
      | _ => none
    else some template
  text template _ := some (some template)

/-- A nonce that the page of the call is evaluated for. -/
def noncePrereq : PrerequisiteV1 where
  kind := .jsEval
  name := ascii "nonce"
  binds := none
  url := some (ascii "{{page}}")
  frame := none
  expression := some (ascii "window.nonce")
  hasArgsTemplate := false
  refresh := none
  steps := []
  ttl := .absent
  others := .null

/-- The scope of a call that asks for a page. -/
def pageScope (page : String) : PrereqScopeV1 :=
  { tokens := [], args := [(ascii "page", .string (ascii page))], omitted := [] }

/-- A call that evaluates the nonce of a page. -/
def nonceEvent (page : String) : PrereqEventV1 :=
  .jsEval (ascii "acme") noncePrereq (pageScope page) false (some (ascii page))

/-- The caches after the nonce of a page was evaluated. -/
def cachesAfterNonce (page : String) : PrereqCachesV1 :=
  (PrereqCachesV1.empty.apply pageResolver 0 (nonceEvent page)).2

end Klura
