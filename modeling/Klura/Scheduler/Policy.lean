import Mathlib.Data.Rat.Floor
import Mathlib.Algebra.Order.Field.Rat

/-! The traffic policies of one origin, and how several of them become one. -/

namespace Klura

/-- When an origin's circuit opens, and for how long. -/
structure CircuitBreakerPolicyV1 where
  transientFailureThreshold : ℚ
  transientWindowMs : ℚ
  cooldownMs : ℚ
  thresholdRange : 1 ≤ transientFailureThreshold ∧ transientFailureThreshold ≤ 10
  windowRange : 1000 ≤ transientWindowMs ∧ transientWindowMs ≤ 300000
  cooldownRange : 1000 ≤ cooldownMs ∧ cooldownMs ≤ 900000
  deriving DecidableEq

/-- The traffic policy of one origin, its numbers in the ranges that its declarations keep. -/
structure OriginSchedulerTrafficPolicyV1 where
  origin : String
  maxConcurrency : ℚ
  requestsPerSecond : ℚ
  burst : ℚ
  minDelayMs : ℚ
  maxRedirectHops : ℚ
  circuitBreaker : CircuitBreakerPolicyV1
  concurrencyRange : 1 ≤ maxConcurrency ∧ maxConcurrency ≤ 4
  rateRange : 0 < requestsPerSecond ∧ requestsPerSecond ≤ 5
  burstRange : 1 ≤ burst ∧ burst ≤ 4
  delayRange : 0 ≤ minDelayMs ∧ minDelayMs ≤ 60000
  deriving DecidableEq

theorem min_range {low left right high : ℚ} (leftRange : low ≤ left ∧ left ≤ high)
    (rightRange : low ≤ right ∧ right ≤ high) : low ≤ min left right ∧ min left right ≤ high :=
  ⟨le_min leftRange.1 rightRange.1, (min_le_left _ _).trans leftRange.2⟩

theorem max_range {low left right high : ℚ} (leftRange : low ≤ left ∧ left ≤ high)
    (rightRange : low ≤ right ∧ right ≤ high) : low ≤ max left right ∧ max left right ≤ high :=
  ⟨leftRange.1.trans (le_max_left _ _), max_le leftRange.2 rightRange.2⟩

/-- The policy that keeps both of two policies for one origin. -/
def mergeConservatively (left right : OriginSchedulerTrafficPolicyV1) :
    Except String OriginSchedulerTrafficPolicyV1 :=
  if left.origin ≠ right.origin then .error "cannot merge different origins"
  else .ok
    { origin := left.origin
      maxConcurrency := min left.maxConcurrency right.maxConcurrency
      requestsPerSecond := min left.requestsPerSecond right.requestsPerSecond
      burst := min left.burst right.burst
      minDelayMs := max left.minDelayMs right.minDelayMs
      maxRedirectHops := min left.maxRedirectHops right.maxRedirectHops
      circuitBreaker :=
        { transientFailureThreshold :=
            min left.circuitBreaker.transientFailureThreshold
              right.circuitBreaker.transientFailureThreshold
          transientWindowMs :=
            max left.circuitBreaker.transientWindowMs right.circuitBreaker.transientWindowMs
          cooldownMs := max left.circuitBreaker.cooldownMs right.circuitBreaker.cooldownMs
          thresholdRange :=
            min_range left.circuitBreaker.thresholdRange right.circuitBreaker.thresholdRange
          windowRange := max_range left.circuitBreaker.windowRange right.circuitBreaker.windowRange
          cooldownRange :=
            max_range left.circuitBreaker.cooldownRange right.circuitBreaker.cooldownRange }
      concurrencyRange := min_range left.concurrencyRange right.concurrencyRange
      rateRange := ⟨lt_min left.rateRange.1 right.rateRange.1,
        (min_le_left _ _).trans left.rateRange.2⟩
      burstRange := min_range left.burstRange right.burstRange
      delayRange := max_range left.delayRange right.delayRange }

namespace OriginSchedulerTrafficPolicyV1

/-- Whether one policy lets no more through than another. -/
structure WithinRate (policy other : OriginSchedulerTrafficPolicyV1) : Prop where
  requestsPerSecond : policy.requestsPerSecond ≤ other.requestsPerSecond
  burst : policy.burst ≤ other.burst

theorem WithinRate.refl (policy : OriginSchedulerTrafficPolicyV1) : policy.WithinRate policy :=
  ⟨le_refl _, le_refl _⟩

theorem WithinRate.trans {first second third : OriginSchedulerTrafficPolicyV1}
    (inner : first.WithinRate second) (outer : second.WithinRate third) : first.WithinRate third :=
  ⟨inner.requestsPerSecond.trans outer.requestsPerSecond, inner.burst.trans outer.burst⟩

theorem mergeConservatively_within {left right merged : OriginSchedulerTrafficPolicyV1}
    (ran : mergeConservatively left right = .ok merged) : merged.WithinRate left := by
  unfold mergeConservatively at ran
  split at ran
  · cases ran
  · cases ran
    exact ⟨min_le_left _ _, min_le_left _ _⟩

end OriginSchedulerTrafficPolicyV1

end Klura
