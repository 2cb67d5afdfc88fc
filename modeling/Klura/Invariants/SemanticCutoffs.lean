import Klura.Contracts.SemanticStop
import Klura.Library.Check
import Klura.Run.Listing
import Mathlib.Data.List.Induction

/-! A semantic cutoff is exact until it is reached, and nothing is committed after it. -/

namespace Klura

namespace SemanticStopTrackerV1

variable {id : StableContractIdV1} {value : Int}

theorem lookup_setPrevious {previous : List (StableContractIdV1 × Int)} (other : StableContractIdV1) :
    (setPrevious previous id value).lookup other =
      if other = id then some value else previous.lookup other := by
  unfold setPrevious
  by_cases same : other = id
  · rw [same, if_pos rfl, List.lookup_cons_self]
  · rw [if_neg same, List.lookup_cons]
    have differs : (other == id) = false := beq_eq_false_iff_ne.mpr same
    rw [differs]
    -- The entries that are left out are those of the stop.
    induction previous with
    | nil => rfl
    | cons entry rest ih =>
      by_cases own : entry.1 = id
      · have unlike : (other == entry.1) = false := beq_eq_false_iff_ne.mpr (own ▸ same)
        rw [List.filter_cons_of_neg (by simp [own]), List.lookup_cons, unlike]
        exact ih
      · rw [List.filter_cons_of_pos (by simp [own]), List.lookup_cons, List.lookup_cons]
        cases other == entry.1
        · exact ih
        · rfl

variable {item : JsonValueV1} {stops : List (SemanticStopV1 × Int)}
  {previous : List (StableContractIdV1 × Int)}

theorem observeWith_lookup (absent : id ∉ stops.map fun entry => entry.1.id) :
    (observeWith item stops previous).2.lookup id = previous.lookup id := by
  induction stops generalizing previous with
  | nil => rfl
  | cons entry rest ih =>
    obtain ⟨stop, bound⟩ := entry
    simp only [List.map_cons, List.mem_cons, not_or] at absent
    rw [observeWith]
    split
    · rfl
    · split
      · rfl
      · split
        · rw [lookup_setPrevious, if_neg absent.1]
        · rw [ih absent.2, lookup_setPrevious, if_neg absent.1]

variable {stop : SemanticStopV1} {bound : Int}

/-- An item that reaches no stop is in the scope of each, and after the last one in its order. -/
theorem observeWith_none (distinct : (stops.map fun entry => entry.1.id).Nodup)
    (passes : (observeWith item stops previous).1 = .ok none) (member : (stop, bound) ∈ stops) :
    ∃ value, itemValue stop item = .ok value ∧
      isInSemanticScope value bound stop.order stop.inclusive = true ∧
      (∀ last, previous.lookup stop.id = some last → breaksOrder stop.order value last = false) ∧
      (observeWith item stops previous).2.lookup stop.id = some value := by
  induction stops generalizing previous with
  | nil => nomatch member
  | cons entry rest ih =>
    obtain ⟨first, firstBound⟩ := entry
    rw [List.map_cons, List.nodup_cons] at distinct
    rw [observeWith] at passes ⊢
    cases read : itemValue first item with
    | error error =>
      rw [read] at passes
      nomatch passes
    | ok current =>
      rw [read] at passes
      dsimp only at passes ⊢
      split at passes
      · nomatch passes
      rename_i follows
      split at passes
      · nomatch passes
      rename_i inside
      rw [if_neg follows, if_neg inside]
      rcases List.mem_cons.mp member with own | later
      · cases own
        refine ⟨current, read, by simpa using inside, fun last seen => ?_, ?_⟩
        · rw [seen] at follows
          simpa using follows
        · -- The stops behind it have other ids.
          rw [observeWith_lookup distinct.1, lookup_setPrevious, if_pos rfl]
      · obtain ⟨value, read, within, order, recorded⟩ := ih distinct.2 passes later
        refine ⟨value, read, within, fun last seen => order last ?_, recorded⟩
        have differs : stop.id ≠ first.id := fun same =>
          distinct.1 (same ▸ List.mem_map_of_mem later)
        rw [lookup_setPrevious, if_neg differs, seen]

/-- A stop that has been reached: the last value it has seen is out of its scope. -/
def Reached (stops : List (SemanticStopV1 × Int)) (previous : List (StableContractIdV1 × Int)) :
    Prop :=
  ∃ stop bound last, (stop, bound) ∈ stops ∧ previous.lookup stop.id = some last ∧
    isInSemanticScope last bound stop.order stop.inclusive = false

variable {order : SemanticOrderV1}

theorem outside_of_follows {inclusive : Bool} {last : Int}
    (outside : isInSemanticScope last bound order inclusive = false)
    (follows : breaksOrder order value last = false) :
    isInSemanticScope value bound order inclusive = false := by
  cases order <;> cases inclusive <;>
    simp only [isInSemanticScope, breaksOrder, if_true, Bool.false_eq_true, if_false,
      decide_eq_false_iff_not] at outside follows ⊢ <;> omega

/-- Once a stop has been reached, no item passes, and the stop stays reached. -/
theorem observeWith_reached (distinct : (stops.map fun entry => entry.1.id).Nodup)
    (reached : Reached stops previous) : (observeWith item stops previous).1 ≠ .ok none ∧
      Reached stops (observeWith item stops previous).2 := by
  obtain ⟨stop, bound, last, member, seen, outside⟩ := reached
  -- The stops before the one that has been reached may end the look, and change nothing of it.
  have found : (observeWith item stops previous).1 ≠ .ok none ∧ ∃ last,
      (observeWith item stops previous).2.lookup stop.id = some last ∧
        isInSemanticScope last bound stop.order stop.inclusive = false := by
    induction stops generalizing previous with
    | nil => nomatch member
    | cons entry rest ih =>
      obtain ⟨first, firstBound⟩ := entry
      rw [List.map_cons, List.nodup_cons] at distinct
      rw [observeWith]
      cases read : itemValue first item with
      | error error => exact ⟨nofun, last, seen, outside⟩
      | ok current =>
        dsimp only
        by_cases breaks : ((previous.lookup first.id).map
            (breaksOrder first.order current)).getD false = true
        · rw [if_pos breaks]
          exact ⟨nofun, last, seen, outside⟩
        rw [if_neg breaks]
        rcases List.mem_cons.mp member with own | later
        · cases own
          -- A value that follows one out of scope is out of scope itself.
          rw [seen] at breaks
          have follows : breaksOrder stop.order current last = false := by simpa using breaks
          have beyond := outside_of_follows outside follows
          rw [if_pos (by rw [beyond]; rfl)]
          exact ⟨nofun, current, by rw [lookup_setPrevious, if_pos rfl], beyond⟩
        · have differs : stop.id ≠ first.id := fun same =>
            distinct.1 (same ▸ List.mem_map_of_mem later)
          have kept : (setPrevious previous first.id current).lookup stop.id = some last := by
            rw [lookup_setPrevious, if_neg differs, seen]
          split
          · exact ⟨nofun, last, kept, outside⟩
          · exact ih distinct.2 later kept
  obtain ⟨stops_, last, seen, outside⟩ := found
  exact ⟨stops_, stop, bound, last, member, seen, outside⟩

theorem observeWith_some (stopped : (observeWith item stops previous).1 = .ok (some id)) :
    Reached stops (observeWith item stops previous).2 := by
  induction stops generalizing previous with
  | nil => nomatch stopped
  | cons entry rest ih =>
    obtain ⟨stop, bound⟩ := entry
    rw [observeWith] at stopped ⊢
    cases read : itemValue stop item with
    | error error =>
      rw [read] at stopped
      nomatch stopped
    | ok current =>
      rw [read] at stopped
      dsimp only at stopped ⊢
      split at stopped
      · nomatch stopped
      rename_i follows
      rw [if_neg follows]
      split at stopped
      · rename_i outside
        rw [if_pos outside]
        refine ⟨stop, bound, current, List.mem_cons_self, ?_, by simpa using outside⟩
        rw [lookup_setPrevious, if_pos rfl]
      · rename_i inside
        rw [if_neg inside]
        obtain ⟨other, bound, last, member, seen⟩ := ih stopped
        exact ⟨other, bound, last, List.mem_cons_of_mem _ member, seen⟩

/-! What one look after another leaves. -/

/-- The outcomes of looking at items one after another, and the tracker after them. -/
def observeEach (tracker : SemanticStopTrackerV1) : List JsonValueV1 →
    List (Except RunError (Option StableContractIdV1)) × SemanticStopTrackerV1
  | [] => ([], tracker)
  | item :: rest =>
    let outcome := tracker.observe item
    let later := observeEach outcome.2 rest
    (outcome.1 :: later.1, later.2)

theorem observeEach_active (tracker : SemanticStopTrackerV1) (items : List JsonValueV1) :
    (tracker.observeEach items).2.active = tracker.active := by
  induction items generalizing tracker with
  | nil => rfl
  | cons item rest ih => exact ih (tracker.observe item).2

theorem observeEach_append (tracker : SemanticStopTrackerV1) (items later : List JsonValueV1) :
    tracker.observeEach (items ++ later) =
      ((tracker.observeEach items).1 ++ ((tracker.observeEach items).2.observeEach later).1,
        ((tracker.observeEach items).2.observeEach later).2) := by
  induction items generalizing tracker with
  | nil => rfl
  | cons item rest ih =>
    rw [List.cons_append, observeEach, ih]
    rfl

/-- Items that a stop has let pass: all in its scope, each after the ones before it in its order,
and none of them after the last value that has been seen. -/
structure Exact (stop : SemanticStopV1) (bound : Int) (items : List JsonValueV1)
    (last : Option Int) : Prop where
  inside : ∀ item ∈ items, ∃ value, itemValue stop item = .ok value ∧
    isInSemanticScope value bound stop.order stop.inclusive = true
  ordered : items.Pairwise fun earlier later => ∀ before after,
    itemValue stop earlier = .ok before → itemValue stop later = .ok after →
      breaksOrder stop.order after before = false
  latest : ∀ item ∈ items, ∃ value final, itemValue stop item = .ok value ∧ last = some final ∧
    breaksOrder stop.order final value = false

theorem follows_trans {first second third : Int} (follows : breaksOrder order second first = false)
    (later : breaksOrder order third second = false) : breaksOrder order third first = false := by
  cases order <;> simp only [breaksOrder, decide_eq_false_iff_not] at follows later ⊢ <;> omega

variable {items : List JsonValueV1}

/-- One more item that a stop lets pass. -/
theorem Exact.more {last : Option Int} (exact_ : Exact stop bound items last)
    (read : itemValue stop item = .ok value)
    (within : isInSemanticScope value bound stop.order stop.inclusive = true)
    (follows : ∀ final, last = some final → breaksOrder stop.order value final = false) :
    Exact stop bound (items ++ [item]) (some value) := by
  -- The new value follows the last one, so it follows all that came before.
  have after : ∀ earlier ∈ items, ∃ before, itemValue stop earlier = .ok before ∧
      breaksOrder stop.order value before = false := by
    intro earlier member
    obtain ⟨before, final, read, seen, order⟩ := exact_.latest earlier member
    exact ⟨before, read, follows_trans order (follows final seen)⟩
  constructor
  · intro other member
    rcases List.mem_append.mp member with earlier | own
    · exact exact_.inside other earlier
    · rw [List.mem_singleton.mp own]
      exact ⟨value, read, within⟩
  · rw [List.pairwise_append]
    refine ⟨exact_.ordered, List.pairwise_singleton _ _, fun earlier member own last before later
      readBefore readLater => ?_⟩
    rw [List.mem_singleton.mp last, read] at readLater
    cases readLater
    obtain ⟨value', read', order⟩ := after earlier member
    rw [readBefore] at read'
    cases read'
    exact order
  · intro other member
    rcases List.mem_append.mp member with earlier | own
    · obtain ⟨before, readBefore, order⟩ := after other earlier
      exact ⟨before, value, readBefore, rfl, order⟩
    · rw [List.mem_singleton.mp own]
      refine ⟨value, value, read, rfl, ?_⟩
      cases stop.order <;> simp [breaksOrder]

variable {tracker : SemanticStopTrackerV1}

theorem observeEach_exact (items : List JsonValueV1)
    (distinct : (tracker.active.map fun entry => entry.1.id).Nodup)
    (passes : ∀ outcome ∈ (tracker.observeEach items).1, outcome = .ok none)
    (member : (stop, bound) ∈ tracker.active) :
    Exact stop bound items ((tracker.observeEach items).2.previous.lookup stop.id) := by
  -- The induction takes the last item off, which is looked at with what the others have left.
  induction items using List.reverseRecOn with
  | nil => exact ⟨nofun, List.Pairwise.nil, nofun⟩
  | append_singleton items item ih =>
    rw [observeEach_append] at passes ⊢
    have earlier := ih fun outcome inside => passes outcome (List.mem_append_left _ inside)
    have last := passes ((tracker.observeEach items).2.observe item).1
      (List.mem_append_right _ List.mem_cons_self)
    have active := observeEach_active tracker items
    obtain ⟨value, read, within, follows, recorded⟩ := observeWith_none (by rw [active]; exact distinct)
      last (by rw [active]; exact member)
    have more := earlier.more read within follows
    rw [← recorded] at more
    exact more

/-- Whether a tracker has reached a stop. -/
def HasReached (tracker : SemanticStopTrackerV1) : Prop := Reached tracker.active tracker.previous

theorem observeEach_reached (items : List JsonValueV1)
    (distinct : (tracker.active.map fun entry => entry.1.id).Nodup) (reached : tracker.HasReached) :
    (∀ outcome ∈ (tracker.observeEach items).1, outcome ≠ .ok none) ∧
      (tracker.observeEach items).2.HasReached := by
  induction items generalizing tracker with
  | nil => exact ⟨nofun, reached⟩
  | cons item rest ih =>
    obtain ⟨stops, stays⟩ := @observeWith_reached item _ _ distinct reached
    obtain ⟨later, kept⟩ := @ih (tracker.observe item).2 distinct stays
    refine ⟨fun outcome member => ?_, kept⟩
    rcases List.mem_cons.mp member with rfl | behind
    · exact stops
    · exact later outcome behind

/-! Where the looks begin, and what they let be committed. -/

theorem resolveSemanticStops_sublist {args : JsonValueV1} {stops : List SemanticStopV1}
    {active : List (SemanticStopV1 × Int)} (resolved : resolveSemanticStops args stops = .ok active) :
    (active.map Prod.fst).Sublist stops := by
  induction stops generalizing active with
  | nil =>
    cases resolved
    exact .slnil
  | cons stop rest ih =>
    rw [resolveSemanticStops] at resolved
    obtain ⟨bound, -, resolved⟩ := bind_ok.mp resolved
    obtain ⟨later, found, resolved⟩ := bind_ok.mp resolved
    cases bound with
    | none =>
      cases resolved
      exact (ih found).cons stop
    | some bound =>
      cases resolved
      exact (ih found).cons_cons stop

theorem observeAll_ok {after : SemanticStopTrackerV1}
    (accepted : tracker.observeAll items = .ok after) :
    (∀ outcome ∈ (tracker.observeEach items).1, outcome = .ok none) ∧
      (tracker.observeEach items).2 = after := by
  induction items generalizing tracker with
  | nil =>
    cases accepted
    exact ⟨nofun, rfl⟩
  | cons item rest ih =>
    rw [observeAll] at accepted
    split at accepted
    · nomatch accepted
    · rename_i passes
      obtain ⟨later, same⟩ := ih accepted
      refine ⟨fun outcome member => ?_, same⟩
      rcases List.mem_cons.mp member with rfl | behind
      · exact passes
      · exact later outcome behind
    · nomatch accepted

/-- A tracker that has reached a stop lets nothing of a page be committed: the looks may still tell
where they end, and everything else stays as it was. -/
theorem commitBufferedRunItems_reached (env : RunEnvironment) (hasFanout : Bool)
    (buffered : List BufferedRunItemV1) (world : World)
    (distinct : (world.semanticStops.active.map fun entry => entry.1.id).Nodup)
    (reached : world.semanticStops.HasReached) :
    Program.wp (commitBufferedRunItems env hasFanout buffered)
      (fun emission next => emission.items = [] ∧ emission.retainedItemBytes = 0 ∧
        (buffered ≠ [] → emission.semanticStopId ≠ none) ∧
        next = { world with semanticStops := next.semanticStops })
      (fun _ next => next = { world with semanticStops := next.semanticStops }) world := by
  cases buffered with
  | nil => exact ⟨rfl, rfl, fun some_ => absurd rfl some_, rfl⟩
  | cons item rest =>
    have stops := (@observeWith_reached item.item _ _ distinct reached).1
    unfold commitBufferedRunItems observeItem
    rw [Program.wp_bind, Program.wp_bind, Program.wp_get, Program.wp_bind, Program.wp_set]
    cases outcome : (world.semanticStops.observe item.item).1 with
    | error error => rfl
    | ok found =>
      cases found with
      | none => exact absurd outcome stops
      | some id => exact ⟨rfl, rfl, fun _ => nofun, rfl⟩

/-- The tracker of a run whose stops have different ids is exact until it reaches a stop, and from
then on no look passes and no page commits anything. -/
theorem cutoff_exact_absorbing (env : RunEnvironment) (priorItems : List JsonValueV1)
    (tracker : SemanticStopTrackerV1)
    (distinct : (env.collection.semanticStops.map fun stop => stop.id).Nodup)
    (started : start env priorItems = .ok tracker) (items : List JsonValueV1) :
    ((∀ outcome ∈ (tracker.observeEach items).1, outcome = .ok none) →
      ∀ stop bound, (stop, bound) ∈ tracker.active →
        (∀ item ∈ priorItems ++ items, ∃ value, itemValue stop item = .ok value ∧
          isInSemanticScope value bound stop.order stop.inclusive = true) ∧
        (priorItems ++ items).Pairwise fun earlier later => ∀ before after,
          itemValue stop earlier = .ok before → itemValue stop later = .ok after →
            breaksOrder stop.order after before = false) ∧
    ∀ before item after id, items = before ++ item :: after →
      ((tracker.observeEach before).2.observe item).1 = .ok (some id) →
        (∀ outcome ∈ ((tracker.observeEach (before ++ [item])).2.observeEach after).1,
          outcome ≠ .ok none) ∧
        ∀ hasFanout buffered world, world.semanticStops = (tracker.observeEach items).2 →
          Program.wp (commitBufferedRunItems env hasFanout buffered)
            (fun emission next => emission.items = [] ∧ emission.retainedItemBytes = 0 ∧
              (buffered ≠ [] → emission.semanticStopId ≠ none) ∧
              next = { world with semanticStops := next.semanticStops })
            (fun _ next => next = { world with semanticStops := next.semanticStops }) world := by
  obtain ⟨active, resolved, accepted⟩ := bind_ok.mp started
  obtain ⟨prior, same⟩ := observeAll_ok accepted
  have sublist := resolveSemanticStops_sublist resolved
  have ids : (active.map fun entry => entry.1.id).Nodup := by
    have chosen : (active.map fun entry => entry.1.id) =
        (active.map Prod.fst).map fun stop => stop.id := by
      rw [List.map_map]
      rfl
    rw [chosen]
    exact (sublist.map _).nodup distinct
  have kept : tracker.active = active := by
    rw [← same]
    exact observeEach_active _ priorItems
  constructor
  · intro passes stop bound member
    -- The items that were committed before are looked at by the same tracker.
    have whole : ∀ outcome ∈ (observeEach { previous := [], active } (priorItems ++ items)).1,
        outcome = .ok none := by
      rw [observeEach_append, same]
      intro outcome inside
      rcases List.mem_append.mp inside with earlier | later
      · exact prior outcome earlier
      · exact passes outcome later
    have exact_ := observeEach_exact (priorItems ++ items) ids whole (kept ▸ member)
    exact ⟨exact_.inside, exact_.ordered⟩
  · rintro before item after id rfl stopped
    have still (items : List JsonValueV1) :
        ((tracker.observeEach items).2.active.map fun entry => entry.1.id).Nodup := by
      rw [observeEach_active, kept]
      exact ids
    have reached : (tracker.observeEach (before ++ [item])).2.HasReached := by
      rw [observeEach_append]
      exact observeWith_some stopped
    obtain ⟨later, stays⟩ := observeEach_reached after (still (before ++ [item])) reached
    refine ⟨later, fun hasFanout buffered world holds => ?_⟩
    have rest : (tracker.observeEach (before ++ item :: after)).2 =
        ((tracker.observeEach (before ++ [item])).2.observeEach after).2 := by
      have split : before ++ item :: after = (before ++ [item]) ++ after := by simp
      rw [split, observeEach_append]
    apply commitBufferedRunItems_reached
    · rw [holds]
      exact still _
    · rw [holds, rest]
      exact stays

/-- A cutoff for items that are numbers. -/
def numberedStop : SemanticStopV1 :=
  dateCutoff listTaskId (fun input => input.member "until") (fun item => .ok item) .integer
    .ascending true

/-- A listing that is cut off after the item that its caller names. -/
def numberedListing : RunEnvironment :=
  { onePageListing with
    args := .object [("until", natValue 5)]
    collection := { onePageListing.collection with semanticStops := [numberedStop] } }

/-- The tracker of a numbered listing lets items pass up to the bound, and none after it. -/
theorem numbered_cutoff :
    (∀ item ∈ [natValue 3, natValue 5], ∃ value, itemValue numberedStop item = .ok value ∧
      isInSemanticScope value 5 .ascending true = true) ∧
    ∀ outcome ∈ ((observeEach { previous := [], active := [(numberedStop, 5)] }
      ([natValue 3] ++ [natValue 7])).2.observeEach [natValue 8, natValue 4]).1,
        outcome ≠ .ok none := by
  have cutoff := fun items => cutoff_exact_absorbing numberedListing []
    { previous := [], active := [(numberedStop, 5)] } (by decide) rfl items
  refine ⟨((cutoff [natValue 3, natValue 5]).1 ?_ numberedStop 5 List.mem_cons_self).1,
    ((cutoff [natValue 3, natValue 7, natValue 8, natValue 4]).2 [natValue 3] (natValue 7) _
      listTaskId rfl ?_).1⟩
  · intro outcome member
    have passes : (observeEach { previous := [], active := [(numberedStop, 5)] }
      [natValue 3, natValue 5]).1 = [.ok none, .ok none] := rfl
    rw [passes] at member
    simp only [List.mem_cons, List.not_mem_nil, or_false, or_self] at member
    exact member
  · rfl

end SemanticStopTrackerV1

end Klura
