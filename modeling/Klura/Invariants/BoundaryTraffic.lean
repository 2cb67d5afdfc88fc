import Klura.Browser.BoundaryMachine
import Mathlib.Data.List.Range

/-! What the ways to admit and to settle a request do to the permits and to the count in flight. -/

namespace Klura

/-- The permits that were released, latest first. -/
def BrowserTrafficV1.releasedPermits (traffic : BrowserTrafficV1) : List Nat :=
  traffic.released.map Prod.fst

/-- The permits of the admitted requests. -/
def BrowserTrafficV1.admittedPermits (traffic : BrowserTrafficV1) : List Nat :=
  (traffic.admitted.map Prod.snd).map (·.permit)

/-- Every permit is released, held by an admitted request, or granted and not yet used. -/
structure Accounted (traffic : BrowserTrafficV1) (held : List Nat) : Prop where
  counted : traffic.activeRequests = traffic.admitted.length
  distinct : (OrderedMap.keys traffic.admitted).Nodup
  keyed : ∀ entry ∈ traffic.admitted, entry.2.requestId = entry.1
  permits : (traffic.releasedPermits ++ traffic.admittedPermits ++ held).Perm
    (List.range traffic.nextPermit)
  timers : ∀ waiter ∈ traffic.quietWaiters, waiter.timer = true →
    traffic.activeRequests ≤ waiter.maximumInFlight

/-- A request that is no longer admitted has given its permit back, and none is taken twice. -/
structure Balanced (before after : BrowserTrafficV1) : Prop where
  settled : ∀ entry ∈ before.admitted,
    entry ∈ after.admitted ∨ entry.2.permit ∈ after.releasedPermits
  released : before.releasedPermits ⊆ after.releasedPermits

/-- A change of the traffic that keeps every permit accounted for. -/
def Advances (before : BrowserTrafficV1) (held : List Nat) (after : BrowserTrafficV1)
    (held' : List Nat) : Prop :=
  Accounted before held → Accounted after held' ∧ Balanced before after

namespace Accounted

variable {traffic : BrowserTrafficV1} {held : List Nat}

theorem perm {held' : List Nat} (accounted : Accounted traffic held) (same : held.Perm held') :
    Accounted traffic held' :=
  { accounted with permits := (same.symm.append_left _).trans accounted.permits }

theorem nodup (accounted : Accounted traffic held) :
    (traffic.releasedPermits ++ traffic.admittedPermits ++ held).Nodup :=
  accounted.permits.nodup_iff.mpr List.nodup_range

theorem get?_of_mem (accounted : Accounted traffic held) {entry : Units × AdmittedBrowserRequestV1}
    (member : entry ∈ traffic.admitted) :
    OrderedMap.get? traffic.admitted entry.1 = some entry.2 :=
  OrderedMap.get?_of_mem accounted.distinct member

end Accounted

theorem Balanced.refl (traffic : BrowserTrafficV1) : Balanced traffic traffic :=
  ⟨fun _ member => .inl member, fun _ member => member⟩

theorem Balanced.trans {first second third : BrowserTrafficV1} (left : Balanced first second)
    (right : Balanced second third) : Balanced first third where
  settled entry member := by
    rcases left.settled entry member with kept | given
    · exact right.settled entry kept
    · exact .inr (right.released given)
  released := fun _ member => right.released (left.released member)

namespace Advances

variable {traffic : BrowserTrafficV1} {held : List Nat}

theorem refl (traffic : BrowserTrafficV1) (held : List Nat) : Advances traffic held traffic held :=
  fun accounted => ⟨accounted, Balanced.refl traffic⟩

theorem trans {second third : BrowserTrafficV1} {held' held'' : List Nat}
    (left : Advances traffic held second held') (right : Advances second held' third held'') :
    Advances traffic held third held'' := by
  intro accounted
  obtain ⟨next, first⟩ := left accounted
  obtain ⟨last, second⟩ := right next
  exact ⟨last, first.trans second⟩

variable {requestId : Units} {entry : AdmittedBrowserRequestV1}

/-- The traffic with the entry of an id settled: its permit is the one that is released. -/
theorem remove (outcome : SchedulerCompletionV1)
    (found : OrderedMap.get? traffic.admitted requestId = some entry) :
    Advances traffic held
      { traffic.releasePermit entry.permit outcome with
        admitted := OrderedMap.delete traffic.admitted requestId
        activeRequests := traffic.activeRequests - 1 }.notifyActivity held := by
  intro accounted
  have values := OrderedMap.values_perm_of_get? found
  have member : requestId ∈ OrderedMap.keys traffic.admitted :=
    OrderedMap.get?_isSome_iff.mp (by simp [found])
  -- One entry leaves the map, so its size follows the count.
  have size : traffic.admitted.length =
      (OrderedMap.delete traffic.admitted requestId).length + 1 := by
    have lengths := values.length_eq
    simpa using lengths
  refine ⟨⟨?_, ?_, ?_, ?_, ?_⟩, ⟨?_, ?_⟩⟩
  · have counted := accounted.counted
    simp only [BrowserTrafficV1.notifyActivity, BrowserTrafficV1.releasePermit]
    omega
  · exact OrderedMap.keys_delete_nodup accounted.distinct requestId
  · intro other kept
    exact accounted.keyed other (OrderedMap.mem_of_mem_delete kept)
  · -- The permit moves from the admitted ones to the released ones.
    have moved := values.map (·.permit)
    have permits := accounted.permits
    simp only [BrowserTrafficV1.releasedPermits, BrowserTrafficV1.admittedPermits,
      BrowserTrafficV1.notifyActivity, BrowserTrafficV1.releasePermit, List.map_cons,
      List.cons_append, List.append_assoc] at permits moved ⊢
    refine List.Perm.trans ?_ permits
    refine List.perm_middle.symm.trans (List.Perm.append_left _ ?_)
    exact (moved.append_right held).symm
  · intro waiter waiting running
    simp only [BrowserTrafficV1.notifyActivity, BrowserTrafficV1.releasePermit,
      List.mem_map] at waiting running ⊢
    obtain ⟨old, _, rfl⟩ := waiting
    simpa using running
  · intro other member
    by_cases same : other.1 = requestId
    · -- The entry of the id is the one whose permit was released.
      have this := accounted.get?_of_mem member
      rw [same, found] at this
      cases this
      exact .inr (by
        simp [BrowserTrafficV1.releasedPermits, BrowserTrafficV1.notifyActivity,
          BrowserTrafficV1.releasePermit])
    · have kept : OrderedMap.get? (OrderedMap.delete traffic.admitted requestId) other.1 =
          some other.2 := by
        rw [OrderedMap.get?_delete_of_ne _ same]
        exact accounted.get?_of_mem member
      exact .inl (OrderedMap.mem_of_get? kept)
  · intro permit given
    simp only [BrowserTrafficV1.releasedPermits, BrowserTrafficV1.notifyActivity,
      BrowserTrafficV1.releasePermit, List.map_cons, List.mem_cons]
    exact .inr given

theorem releaseVanishedRequest (traffic : BrowserTrafficV1) (held : List Nat)
    (requestId : Units) :
    Advances traffic held (traffic.releaseVanishedRequest requestId) held := by
  cases found : OrderedMap.get? traffic.admitted requestId with
  | none => simpa [BrowserTrafficV1.releaseVanishedRequest, found] using refl traffic held
  | some entry =>
    simpa [BrowserTrafficV1.releaseVanishedRequest, found] using remove .neutral found

theorem settleAdmission {admission : AdmittedBrowserRequestV1} (outcome : SchedulerCompletionV1)
    (found : OrderedMap.get? traffic.admitted requestId = some entry)
    (own : entry.permit = admission.permit) :
    Advances traffic held (traffic.settleAdmission requestId admission outcome) held := by
  have removed : Advances traffic held
      { traffic.releasePermit entry.permit outcome with
        admitted := OrderedMap.delete traffic.admitted requestId
        activeRequests := traffic.activeRequests - 1 }.notifyActivity held := remove outcome found
  rw [own] at removed
  exact removed

theorem releaseAll (traffic : BrowserTrafficV1) (held : List Nat)
    (kind : AdmittedBrowserRequestV1 → Bool) :
    Advances traffic held (traffic.releaseAll kind) held := by
  unfold BrowserTrafficV1.releaseAll
  -- The induction follows the entries that were found before the first was settled.
  generalize (traffic.admitted.filter fun entry => kind entry.2) = entries
  induction entries generalizing traffic with
  | nil => exact refl traffic held
  | cons entry rest ih =>
    exact (releaseVanishedRequest traffic held entry.2.requestId).trans (ih _)

theorem releasePermit (traffic : BrowserTrafficV1) (held : List Nat) (permit : Nat)
    (outcome : SchedulerCompletionV1) :
    Advances traffic (permit :: held) (traffic.releasePermit permit outcome) held := by
  intro accounted
  have permits := accounted.permits
  simp only [BrowserTrafficV1.releasedPermits, BrowserTrafficV1.admittedPermits,
    List.append_assoc] at permits
  refine ⟨{ accounted with permits := ?_ }, ⟨fun _ member => .inl member, ?_⟩⟩
  · simp only [BrowserTrafficV1.releasedPermits, BrowserTrafficV1.admittedPermits,
      BrowserTrafficV1.releasePermit, List.map_cons, List.cons_append, List.append_assoc]
    refine List.Perm.trans ?_ permits
    exact List.perm_middle.symm.trans (List.Perm.append_left _ List.perm_middle.symm)
  · intro other given
    exact List.mem_cons_of_mem _ given

/-- A request that is admitted under an id that no admitted request has. -/
theorem register (traffic : BrowserTrafficV1) (held : List Nat)
    (admission : AdmittedBrowserRequestV1)
    (fresh : OrderedMap.get? traffic.admitted admission.requestId = none) :
    Advances traffic (admission.permit :: held) (traffic.register admission) held := by
  intro accounted
  have absent := OrderedMap.get?_eq_none_iff.mp fresh
  have added := OrderedMap.set_of_not_mem admission absent
  have counted := accounted.counted
  refine ⟨⟨?_, ?_, ?_, ?_, ?_⟩, ⟨?_, ?_⟩⟩
  · simp only [BrowserTrafficV1.register, BrowserTrafficV1.notifyActivity, added,
      List.length_append, List.length_cons, List.length_nil]
    omega
  · simp only [BrowserTrafficV1.register, BrowserTrafficV1.notifyActivity, added,
      OrderedMap.keys, List.map_append, List.map_cons, List.map_nil]
    exact List.Nodup.append accounted.distinct (List.nodup_singleton _)
      (List.disjoint_singleton.mpr absent)
  · intro entry member
    simp only [BrowserTrafficV1.register, BrowserTrafficV1.notifyActivity, added,
      List.mem_append, List.mem_singleton] at member
    rcases member with old | rfl
    · exact accounted.keyed entry old
    · rfl
  · -- The permit moves from the held ones to the admitted ones.
    have permits := accounted.permits
    simp only [BrowserTrafficV1.releasedPermits, BrowserTrafficV1.admittedPermits,
      BrowserTrafficV1.register, BrowserTrafficV1.notifyActivity, added, List.map_append,
      List.map_cons, List.map_nil, List.append_assoc, List.singleton_append] at permits ⊢
    exact permits
  · intro waiter waiting running
    simp only [BrowserTrafficV1.register, BrowserTrafficV1.notifyActivity,
      List.mem_map] at waiting running ⊢
    obtain ⟨old, _, rfl⟩ := waiting
    simpa using running
  · intro entry member
    refine .inl ?_
    simp only [BrowserTrafficV1.register, BrowserTrafficV1.notifyActivity, added]
    exact List.mem_append_left _ member
  · intro permit given
    exact given

theorem grant (traffic : BrowserTrafficV1) (held : List Nat) :
    Advances traffic held { traffic with nextPermit := traffic.nextPermit + 1 }
      (traffic.nextPermit :: held) := by
  intro accounted
  refine ⟨{ accounted with permits := ?_ }, ⟨fun _ member => .inl member, fun _ given => given⟩⟩
  -- The new permit is the last of a longer range.
  have permits := accounted.permits
  simp only [BrowserTrafficV1.releasedPermits, BrowserTrafficV1.admittedPermits,
    List.append_assoc, List.range_succ] at permits ⊢
  have moved := permits.append_right [traffic.nextPermit]
  refine List.Perm.trans ?_ moved
  simp only [List.append_assoc]
  refine List.Perm.append_left _ (List.Perm.append_left _ ?_)
  exact (List.perm_append_singleton _ _).symm

theorem rejectQuietWaiters (traffic : BrowserTrafficV1) (held : List Nat) :
    Advances traffic held traffic.rejectQuietWaiters held := by
  intro accounted
  exact ⟨{ accounted with timers := by simp [BrowserTrafficV1.rejectQuietWaiters] },
    ⟨fun _ member => .inl member, fun _ given => given⟩⟩

end Advances

end Klura
