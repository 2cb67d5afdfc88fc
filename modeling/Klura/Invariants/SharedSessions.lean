import Klura.Invariants.PoolContexts
import Klura.Moves.PoolReplies
import Mathlib.Data.List.Induction

/-! Borrowers of a shared session do not end it, and its owner does. -/

namespace Klura

namespace Pool

variable {config : PoolOptions} {pool : Pool} {session : SessionId}

/-- What has been returned to whom: the sessions that their owners have, how often each session is
borrowed, and the sessions that their owners have ended. -/
structure Loans where
  owned : SessionId → Bool
  borrows : SessionId → Nat
  ended : SessionId → Bool

/-- Takes note of an event and of what it has returned. -/
def Loans.note (loans : Loans) : Event → Option Reply → Loans
  | .endDrive .owner session _, _ =>
    { loans with ended := Function.update loans.ended session true }
  | .endDrive .borrower session _, _ =>
    { loans with borrows := Function.update loans.borrows session (loans.borrows session - 1) }
  | _, some (.created session) =>
    { loans with owned := Function.update loans.owned session true }
  | _, some (.checkedOut _ _ session) =>
    { loans with borrows := Function.update loans.borrows session (loans.borrows session + 1) }
  | _, none => loans

/-- The pool as a machine that takes note of what it returns. -/
def lending (config : PoolOptions) : Machine (Pool × Loans) (Nat × Event) where
  starts state := state = (empty, ⟨fun _ => false, fun _ => 0, fun _ => false⟩)
  step before event after := after = ((before.1.step config event.1 event.2).1,
    before.2.note event.2 (before.1.step config event.1 event.2).2)

/-- Whether an event is one of its session's owner, who ends it once, or of one who has borrowed
it. -/
def Loans.Matches (loans : Loans) : Event → Prop
  | .endDrive .owner session _ => loans.owned session = true ∧ loans.ended session = false
  | .endDrive .borrower session _ => 0 < loans.borrows session
  | .registerSharedSession session _ => loans.owned session = true
  | .dispose session _ => loans.owned session = true
  | _ => True

instance (loans : Loans) (event : Event) : Decidable (loans.Matches event) :=
  match event with
  | .endDrive .owner session _ =>
    inferInstanceAs (Decidable (loans.owned session = true ∧ loans.ended session = false))
  | .endDrive .borrower session _ => inferInstanceAs (Decidable (0 < loans.borrows session))
  | .registerSharedSession session _ => inferInstanceAs (Decidable (loans.owned session = true))
  | .dispose session _ => inferInstanceAs (Decidable (loans.owned session = true))
  | .createSession .. | .tryCheckoutReadySession .. | .resume .. | .sweep => isTrue trivial

/-- Whether an event lends a shared session to one borrower at a time, as the session that has been
asked for, and keeps it shared until it is given back. -/
def LendsOnce (pool : Pool) : Event → Prop
  | .resume call succeeds _ =>
    match pool.calls call with
    | some (.probingShared platform identity _ _ session) => succeeds = true →
      (pool.objects session).key = some (warmKey platform identity) ∧
        (pool.sessions session = true →
          pool.isShared session = true ∧ (pool.objects session).borrowed = false)
    | _ => True
  | .dispose session _ => pool.sessions session = true → (pool.objects session).borrowed = false
  | _ => True

variable {event : Event}

theorem LendsOnce.lends (once : pool.LendsOnce event) : pool.Lends event := by
  cases event with
  | resume call succeeds detaches =>
    cases waits : pool.calls call with
    | none => simp only [Lends, waits]
    | some state =>
      cases state with
      | probingShared platform identity serial stamp session =>
        simp only [LendsOnce, waits] at once
        simp only [Lends, waits]
        exact fun passes registered => ((once passes).2 registered).1
      | _ => simp only [Lends, waits]
  | dispose other platform => exact once
  | _ => trivial

/-- A session that its owner has: it is alive until the owner ends it, and then until all who have
borrowed it have given it back. -/
structure Kept (pool : Pool) (loans : Loans) (session : SessionId) : Prop where
  old : session.number < pool.next
  issued : ∀ call, work Call.minted pool.calls call ≠ some session
  alive : loans.ended session = false → pool.sessions session = true
  bound : pool.sessions session = true → pool.bound session ≠ none
  lent : pool.sessions session = true → loans.borrows session =
    (pool.objects session).borrowed.toNat + (loans.ended session).toNat
  shared : pool.sessions session = true → (pool.objects session).borrowed = true →
    pool.isShared session = true

/-- The sessions are as the loans say. -/
structure Tracked (config : PoolOptions) (pool : Pool) (loans : Loans) : Prop where
  sound : ∃ ledger, pool.Sound config ledger
  offered : ∀ session, pool.Offered session → loans.owned session = true
  probed : ∀ call session, work Call.probes pool.calls call = some session →
    loans.owned session = true
  -- Nobody has borrowed a session that has yet to be handed out.
  unknown : ∀ session, pool.next ≤ session.number ∨
    (∃ call, work Call.minted pool.calls call = some session) →
      loans.borrows session = 0 ∧ loans.ended session = false
  minted : ∀ call session, work Call.minted pool.calls call = some session →
    (pool.objects session).borrowed = false ∧ pool.bound session ≠ none
  kept : ∀ session, loans.owned session = true → pool.Kept loans session

variable {loans : Loans}

theorem Call.session_of_minted {state : Call} (mints : state.minted = some session) :
    state.session = some session := by
  cases state <;> first | exact mints | nomatch mints

variable {call : CallId}

theorem work_minted {calls : CallId → Option Call}
    (mints : work Call.minted calls call = some session) :
    work Call.session calls call = some session := by
  obtain ⟨state, waits, mints⟩ := Option.bind_eq_some_iff.mp mints
  exact Option.bind_eq_some_iff.mpr ⟨state, waits, state.session_of_minted mints⟩

theorem Kept.known (kept : pool.Kept loans session) : ¬(pool.next ≤ session.number ∨
    ∃ call, work Call.minted pool.calls call = some session) := by
  rintro (fresh | ⟨call, mints⟩)
  · exact Nat.not_le.mpr kept.old fresh
  · exact kept.issued call mints

theorem Sound.mints_alone {ledger : Ledger} (sound : pool.Sound config ledger) {other : CallId}
    (mints : work Call.minted pool.calls call = some session)
    (also : work Call.session pool.calls other = some session) : other = call := by
  have first := (sound.worker session call).mpr (work_minted mints)
  have second := (sound.worker session other).mpr also
  rw [first] at second
  exact (Option.some.inj second).symm

variable {reply : Option Reply}

theorem Loans.note_other (foreign : ¬event.about session)
    (unlent : ∀ platform identity, reply ≠ some (.checkedOut platform identity session)) :
    (loans.note event reply).ended session = loans.ended session ∧
      (loans.note event reply).borrows session = loans.borrows session := by
  unfold note
  split
  · exact ⟨Function.update_of_ne (fun same => foreign same.symm) _ _, rfl⟩
  · exact ⟨rfl, Function.update_of_ne (fun same => foreign same.symm) _ _⟩
  · exact ⟨rfl, rfl⟩
  · rename_i other _ _ _
    refine ⟨rfl, Function.update_of_ne ?_ _ _⟩
    rintro rfl
    exact unlent _ _ rfl
  · exact ⟨rfl, rfl⟩

theorem Loans.note_owned (owned : (loans.note event reply).owned session = true) :
    loans.owned session = true ∨ reply = some (.created session) := by
  unfold note at owned
  split at owned
  · exact .inl owned
  · exact .inl owned
  · rename_i other _ _
    by_cases same : session = other
    · subst same
      exact .inr rfl
    · dsimp only at owned
      rw [Function.update_of_ne same] at owned
      exact .inl owned
  · exact .inl owned
  · exact .inl owned

theorem Loans.note_owns (event : Event) (reply : Option Reply)
    (owned : loans.owned session = true) : (loans.note event reply).owned session = true := by
  unfold note
  split
  · exact owned
  · exact owned
  · rename_i other _ _
    by_cases same : session = other
    · rw [same]
      exact Function.update_self _ _ _
    · exact (Function.update_of_ne same _ _).trans owned
  · exact owned
  · exact owned

theorem endDrive_ends (config : PoolOptions) (now : Nat) (detaches : Bool)
    (free : (pool.objects session).borrowed = false) :
    (pool.endDrive config now session detaches).sessions session = false := by
  have unshared : ({ pool with next := pool.next + 1 }.unshareOwn session).sessions =
      pool.sessions := by
    unfold unshareOwn
    split <;> rfl
  unfold endDrive
  dsimp only
  split
  · rename_i unknown
    simpa using unknown
  · rw [free, if_neg Bool.false_ne_true]
    split
    · exact Function.update_self _ _ _
    · rcases detachLeaseSafe_cases ({ pool with next := pool.next + 1 }.unshareOwn session) session
        detaches with kept | ⟨context, -, detached⟩
      · rw [kept]
        exact Function.update_self _ _ _
      · rw [detached]
        exact Function.update_self _ _ _

theorem endDrive_returns (config : PoolOptions) (now : Nat) (detaches : Bool)
    (registered : pool.sessions session = true) (borrowed : (pool.objects session).borrowed = true)
    (shared : pool.isShared session = true) : pool.endDrive config now session detaches =
      { pool with next := pool.next + 1 }.setBorrowed session false := by
  unfold endDrive
  simp only [registered, borrowed, shared, Bool.not_true, Bool.false_eq_true, if_false, if_true]

theorem endDrive_unknown (config : PoolOptions) (now : Nat) (detaches : Bool)
    (unknown : pool.sessions session = false) : pool.endDrive config now session detaches =
      { pool with next := pool.next + 1 } := by
  unfold endDrive
  simp only [unknown, Bool.not_false, if_true]

variable {now : Nat}

theorem step_reply {reply : Reply} (returned : (pool.step config now event).2 = some reply) :
    ∃ call succeeds detaches,
      event = .resume call succeeds detaches ∧
        (pool.resume config now call succeeds detaches).2 = some reply := by
  cases event with
  | resume call succeeds detaches => exact ⟨call, succeeds, detaches, rfl, returned⟩
  | _ => nomatch returned

theorem checkedOut_cases {platform : String} {identity : Option String}
    (once : pool.LendsOnce event)
    (returned : (pool.step config now event).2 = some (.checkedOut platform identity session)) :
    (∃ call ∈ event.resumed, ∃ slot,
        pool.calls call = some (.probingWarm slot session platform identity)) ∨
      ∃ call ∈ event.resumed, work Call.probes pool.calls call = some session ∧
        (pool.objects session).key = some (warmKey platform identity) ∧
        (pool.sessions session = true →
          pool.isShared session = true ∧ (pool.objects session).borrowed = false) ∧
        (pool.step config now event).1 = (pool.setBorrowed session true).finish call := by
  obtain ⟨call, succeeds, detaches, rfl, returned⟩ := step_reply returned
  obtain ⟨rfl, ⟨slot, waits⟩ | ⟨serial, stamp, waits⟩, -⟩ :=
    resume_checkedOut config now call succeeds detaches returned
  · exact .inl ⟨call, rfl, slot, waits⟩
  · simp only [LendsOnce, waits] at once
    have probes : work Call.probes pool.calls call = some session := by
      simp [work, waits, Call.probes]
    refine .inr ⟨call, rfl, probes, (once trivial).1, (once trivial).2, ?_⟩
    simp only [step, resume, waits, if_true]

theorem Kept.undisturbed {after : Pool} {later : Loans} (kept : pool.Kept loans session)
    (same : Undisturbed (pool.sessions session = true) session pool after)
    (next : pool.next ≤ after.next)
    (issued : ∀ call, work Call.minted after.calls call ≠ some session)
    (ended : later.ended session = loans.ended session)
    (borrows : later.borrows session = loans.borrows session) : after.Kept later session where
  old := Nat.lt_of_lt_of_le kept.old next
  issued := issued
  alive running := by
    rw [same.registered]
    exact kept.alive (ended ▸ running)
  bound registered := by
    rw [same.registered] at registered
    rw [same.bound registered]
    exact kept.bound registered
  lent registered := by
    rw [same.registered] at registered
    rw [same.object, borrows, ended]
    exact kept.lent registered
  shared registered borrowed := by
    rw [same.registered] at registered
    rw [same.object] at borrowed
    exact same.shared (kept.shared registered borrowed)

/-- The end of a drive keeps the session of an owner, or ends it when it has to. -/
theorem Kept.endDrive (kept : pool.Kept loans session) {caller : Caller} {detaches : Bool}
    (fits : loans.Matches (.endDrive caller session detaches))
    (next : pool.next ≤ (pool.endDrive config now session detaches).next)
    (issued : ∀ call, work Call.minted (pool.endDrive config now session detaches).calls call ≠ some session) :
    (pool.endDrive config now session detaches).Kept
        (loans.note (.endDrive caller session detaches) none) session := by
  have old := Nat.lt_of_lt_of_le kept.old next
  -- Once the session has gone, its owner must have ended it.
  have gone (dead : (pool.endDrive config now session detaches).sessions session = false)
      (ended : (loans.note (.endDrive caller session detaches) none).ended session = true) :
      (pool.endDrive config now session detaches).Kept
        (loans.note (.endDrive caller session detaches) none) session := by
    constructor
    · exact old
    · exact issued
    · rw [ended]
      rintro ⟨⟩
    all_goals
      rw [dead]
      rintro ⟨⟩
  have byOwner : (loans.note (.endDrive .owner session detaches) none).ended session = true :=
    Function.update_self _ _ _
  cases known : pool.sessions session with
  | false =>
    refine gone ?_ ?_
    · rw [endDrive_unknown config now detaches known]
      exact known
    · cases caller with
      | owner => exact byOwner
      | borrower =>
        cases running : loans.ended session with
        | true => exact running
        | false =>
          rw [kept.alive running] at known
          cases known
  | true =>
    have lent := kept.lent known
    cases borrowed : (pool.objects session).borrowed with
    | false =>
      refine gone (endDrive_ends config now detaches borrowed) ?_
      cases caller with
      | owner => exact byOwner
      | borrower =>
        -- Whoever has borrowed it has done so after its owner ended it.
        have some_ : 0 < loans.borrows session := fits
        rw [borrowed] at lent
        cases running : loans.ended session with
        | true => exact running
        | false =>
          rw [running] at lent
          simp only [Bool.toNat_false] at lent
          omega
    | true =>
      have shared := kept.shared known borrowed
      rw [borrowed] at lent
      have returned := endDrive_returns config now detaches known borrowed shared
      rw [returned] at issued ⊢
      have free : (({ pool with next := pool.next + 1 }.setBorrowed session false).objects
          session).borrowed = false := by simp [setBorrowed]
      constructor
      · exact Nat.lt_succ_of_lt kept.old
      · exact issued
      · exact fun _ => known
      · exact kept.bound
      · intro registered
        rw [free]
        cases caller with
        | owner =>
          have running : loans.ended session = false := fits.2
          rw [byOwner]
          rw [running] at lent
          exact lent
        | borrower =>
          have fewer : (loans.note (.endDrive .borrower session detaches) none).borrows session =
              loans.borrows session - 1 := Function.update_self _ _ _
          have same : (loans.note (.endDrive .borrower session detaches) none).ended session =
              loans.ended session := rfl
          rw [fewer, lent, same, Bool.toNat_true, Bool.toNat_false]
          omega
      · rw [free]
        rintro _ ⟨⟩

theorem Kept.lend (kept : pool.Kept loans session) {later : Loans}
    (once : pool.sessions session = true → pool.isShared session = true ∧ (pool.objects session).borrowed = false)
    (issued : ∀ other, work Call.minted ((pool.setBorrowed session true).finish call).calls other ≠ some session)
    (ended : later.ended session = loans.ended session)
    (borrows : later.borrows session = loans.borrows session + 1) :
    ((pool.setBorrowed session true).finish call).Kept later session where
  old := kept.old
  issued := issued
  alive running := kept.alive (ended ▸ running)
  bound := kept.bound
  lent registered := by
    have lent := kept.lent registered
    rw [(once registered).2, Bool.toNat_false, Nat.zero_add] at lent
    have marked : (((pool.setBorrowed session true).finish call).objects session).borrowed = true := by
      simp [setBorrowed, finish]
    rw [borrows, ended, lent, marked, Bool.toNat_true, Nat.add_comm]
  shared registered _ := by
    have same := (@setBorrowed_same pool session session true).2
    exact same.trans (once registered).1

/-- A session that its owner has been returned is kept. -/
theorem Tracked.created (tracked : Tracked config pool loans) {now : Nat} {event : Event}
    (returned : (pool.step config now event).2 = some (.created session)) {ledger : Ledger}
    (sound : (pool.step config now event).1.Sound config ledger) :
    (pool.step config now event).1.Kept
      (loans.note event (pool.step config now event).2) session := by
  obtain ⟨call, succeeds, detaches, rfl, created⟩ := step_reply returned
  obtain ⟨registered, origin⟩ := resume_created config now call succeeds detaches created
  -- Nobody has borrowed it, and it is not marked.
  have facts : (loans.borrows session = 0 ∧ loans.ended session = false) ∧
      ((pool.resume config now call succeeds detaches).1.objects session).borrowed = false ∧
      (pool.resume config now call succeeds detaches).1.bound session ≠ none := by
    rcases origin with fresh | ⟨mints, object, bound⟩
    · exact ⟨tracked.unknown session (.inl fresh.later), fresh.free, fresh.bound⟩
    · rw [object, bound]
      exact ⟨tracked.unknown session (.inr ⟨call, mints⟩), tracked.minted call session mints⟩
  obtain ⟨⟨unborrowed, running⟩, free, bound⟩ := facts
  have noted : loans.note (.resume call succeeds detaches)
      (pool.step config now (.resume call succeeds detaches)).2 =
        { loans with owned := Function.update loans.owned session true } := by
    rw [returned]
    rfl
  rw [noted]
  constructor
  · by_contra fresh
    exact bound (sound.freshSession session (Nat.le_of_not_lt fresh)).2.1
  · exact fun other mints => sound.unhidden registered other (work_minted mints)
  · exact fun _ => registered
  · exact fun _ => bound
  · intro _
    dsimp only [step]
    rw [free, unborrowed, running]
    rfl
  · intro _ borrowed
    dsimp only [step] at borrowed
    rw [free] at borrowed
    nomatch borrowed

/-- A step that fits the loans keeps the session of an owner. -/
theorem Tracked.keeps (tracked : Tracked config pool loans) (fits : loans.Matches event)
    (once : pool.LendsOnce event) (owned : loans.owned session = true) :
    (pool.step config now event).1.Kept
      (loans.note event (pool.step config now event).2) session := by
  obtain ⟨ledger, sound⟩ := tracked.sound
  have kept := tracked.kept session owned
  have next := step_next config now event sound.distinct
  have issued (call : CallId) :
      work Call.minted (pool.step config now event).1.calls call ≠ some session := by
    intro mints
    rcases step_minted config now event sound.distinct mints with ⟨before, -⟩ | fresh
    · exact kept.issued call before
    · exact Nat.not_le.mpr kept.old fresh.later
  by_cases about : event.about session
  · cases event with
    | endDrive caller other detaches =>
      cases about
      exact kept.endDrive fits next issued
    | dispose other platform =>
      cases about
      -- It is not borrowed, so nobody needs it to be shared.
      refine ⟨kept.old, kept.issued, kept.alive, kept.bound, kept.lent, fun registered borrowed => ?_⟩
      have borrowed : (pool.objects session).borrowed = true := borrowed
      rw [once registered] at borrowed
      nomatch borrowed
    | _ => exact about.elim
  · by_cases lent : ∃ platform identity, (pool.step config now event).2 =
        some (.checkedOut platform identity session)
    · obtain ⟨platform, identity, returned⟩ := lent
      rcases checkedOut_cases once returned with
        ⟨call, -, slot, waits⟩ | ⟨call, resumed, -, -, free, same⟩
      · exact absurd (by simp [work, waits, Call.minted]) (kept.issued call)
      · have noted : loans.note event (pool.step config now event).2 = { loans with
            borrows := Function.update loans.borrows session (loans.borrows session + 1) } := by
          obtain ⟨other, succeeds, detaches, rfl, -⟩ := step_reply returned
          rw [returned]
          rfl
        rw [noted]
        rw [same] at issued ⊢
        exact kept.lend free issued rfl (Function.update_self _ _ _)
    · have unlent : ∀ platform identity, (pool.step config now event).2 ≠
          some (.checkedOut platform identity session) := fun platform identity returned =>
        lent ⟨platform, identity, returned⟩
      have same : Undisturbed (pool.sessions session = true) session pool
          (pool.step config now event).1 :=
        sound.step_undisturbed now event kept.old (fun call _ => kept.issued call)
          (fun registered call _ => sound.unhidden registered call) unlent about
      obtain ⟨ended, borrows⟩ := loans.note_other about unlent
      exact kept.undisturbed same next issued ended borrows

/-- A step that fits the loans leaves alone what has yet to be handed out. -/
theorem Tracked.leaves (tracked : Tracked config pool loans) {now : Nat} {event : Event}
    (fits : loans.Matches event) (once : pool.LendsOnce event)
    (unknown : pool.next ≤ session.number ∨ ∃ call, call ∉ event.resumed ∧
      work Call.minted pool.calls call = some session) :
    ¬event.about session ∧ ∀ platform identity, (pool.step config now event).2 ≠
      some (.checkedOut platform identity session) := by
  obtain ⟨ledger, sound⟩ := tracked.sound
  have unknown' : pool.next ≤ session.number ∨
      ∃ call, work Call.minted pool.calls call = some session :=
    unknown.imp_right fun ⟨call, both⟩ => ⟨call, both.2⟩
  have unowned : loans.owned session ≠ true := fun owned =>
    (tracked.kept session owned).known unknown'
  constructor
  · intro about
    cases event with
    | endDrive caller other detaches =>
      cases about
      cases caller with
      | owner => exact unowned fits.1
      | borrower =>
        have some_ : 0 < loans.borrows session := fits
        have none_ := (tracked.unknown session unknown').1
        omega
    | dispose other platform =>
      cases about
      exact unowned fits
    | _ => exact about
  · intro platform identity returned
    rcases checkedOut_cases once returned with ⟨call, resumed, slot, waits⟩ | ⟨call, -, probes, -⟩
    · have mints : work Call.minted pool.calls call = some session := by
        simp [work, waits, Call.minted]
      rcases unknown with fresh | ⟨other, elsewhere, also⟩
      · have unworked := (sound.freshSession session fresh).2.2
        rw [(sound.worker session call).mpr (work_minted mints)] at unworked
        cases unworked
      · have same := sound.mints_alone mints (work_minted also)
        exact elsewhere (same ▸ resumed)
    · exact unowned (tracked.probed call session probes)

/-- A step that fits the loans leaves the sessions as the loans say. -/
theorem Tracked.step (tracked : Tracked config pool loans) (fits : loans.Matches event)
    (once : pool.LendsOnce event) :
    Tracked config (pool.step config now event).1
      (loans.note event (pool.step config now event).2) := by
  obtain ⟨ledger, sound⟩ := tracked.sound
  obtain ⟨later, sound'⟩ := sound.step now event once.lends
  have next := step_next config now event sound.distinct
  refine ⟨⟨later, sound'⟩, fun session offered => ?_, fun call session probes => ?_,
    fun session unknown => ?_, fun call session mints => ?_, fun session owned => ?_⟩
  · apply Loans.note_owns
    rcases step_offered config now event sound.distinct offered with before | ⟨platform, rfl⟩
    · exact tracked.offered session before
    · exact fits
  · apply Loans.note_owns
    rcases step_probes config now event sound.distinct probes with before | offered
    · exact tracked.probed call session before
    · exact tracked.offered session offered
  · -- What has yet to be handed out was yet to be handed out before.
    have before : pool.next ≤ session.number ∨ ∃ call, call ∉ event.resumed ∧
        work Call.minted pool.calls call = some session := by
      rcases unknown with fresh | ⟨call, mints⟩
      · exact .inl (Nat.le_trans next fresh)
      · rcases step_minted config now event sound.distinct mints with ⟨mints, elsewhere⟩ | fresh
        · exact .inr ⟨call, elsewhere, mints⟩
        · exact .inl fresh.later
    obtain ⟨foreign, unlent⟩ := tracked.leaves fits once before
    obtain ⟨ended, borrows⟩ := loans.note_other foreign unlent
    rw [ended, borrows]
    exact tracked.unknown session (before.imp_right fun ⟨call, _, mints⟩ => ⟨call, mints⟩)
  · rcases step_minted config now event sound.distinct mints with ⟨before, elsewhere⟩ | fresh
    · obtain ⟨foreign, unlent⟩ := tracked.leaves fits once (.inr ⟨call, elsewhere, before⟩)
      have old : session.number < pool.next := by
        by_contra fresh
        have unworked := (sound.freshSession session (Nat.le_of_not_lt fresh)).2.2
        rw [(sound.worker session call).mpr (work_minted before)] at unworked
        nomatch unworked
      -- The call that has gone on is another one, and it has a session of its own.
      have others : ∀ other ∈ event.resumed, work Call.session pool.calls other ≠ some session := by
        intro other resumed works
        exact elsewhere (sound.mints_alone before works ▸ resumed)
      have same : Undisturbed True session pool (pool.step config now event).1 :=
        sound.step_undisturbed now event old
          (fun other resumed mints => others other resumed (work_minted mints))
          (fun _ => others) unlent foreign
      rw [same.object, same.bound trivial]
      exact tracked.minted call session before
    · exact ⟨fresh.free, fresh.bound⟩
  · rcases Loans.note_owned owned with before | returned
    · exact tracked.keeps fits once before
    · exact tracked.created returned sound'

/-- Only its owner takes the context off a session that has not been ended. -/
theorem Tracked.holds (tracked : Tracked config pool loans) (fits : loans.Matches event)
    (once : pool.LendsOnce event) (owned : loans.owned session = true)
    (running : loans.ended session = false)
    (foreign : ∀ detaches, event ≠ .endDrive .owner session detaches) :
    (pool.step config now event).1.bound session = pool.bound session := by
  obtain ⟨ledger, sound⟩ := tracked.sound
  have kept := tracked.kept session owned
  have registered := kept.alive running
  have lent := kept.lent registered
  rw [running, Bool.toNat_false, Nat.add_zero] at lent
  by_cases about : event.about session
  · cases event with
    | endDrive caller other detaches =>
      cases about
      cases caller with
      | owner => exact absurd rfl (foreign detaches)
      | borrower =>
        -- Who gives the session back has borrowed it, so it is marked and stays.
        have some_ : 0 < loans.borrows session := fits
        have borrowed : (pool.objects session).borrowed = true := by
          cases marked : (pool.objects session).borrowed with
          | true => rfl
          | false =>
            rw [marked, Bool.toNat_false] at lent
            omega
        have returned := endDrive_returns config now detaches registered borrowed
          (kept.shared registered borrowed)
        dsimp only [Pool.step]
        rw [returned]
        rfl
    | dispose other platform => rfl
    | _ => exact about.elim
  · by_cases lends : ∃ platform identity, (pool.step config now event).2 =
        some (.checkedOut platform identity session)
    · obtain ⟨platform, identity, returned⟩ := lends
      rcases checkedOut_cases once returned with ⟨call, -, slot, waits⟩ | ⟨call, -, -, -, -, same⟩
      · exact absurd (by simp [work, waits, Call.minted]) (kept.issued call)
      · rw [same]
        rfl
    · have same : Undisturbed (pool.sessions session = true) session pool
          (pool.step config now event).1 :=
        sound.step_undisturbed now event kept.old (fun call _ => kept.issued call)
          (fun registered call _ => sound.unhidden registered call)
          (fun platform identity returned => lends ⟨platform, identity, returned⟩) about
      exact same.bound registered

theorem tracked_empty (config : PoolOptions) :
    Tracked config empty ⟨fun _ => false, fun _ => 0, fun _ => false⟩ where
  sound := ⟨_, sound_empty config⟩
  offered := by
    rintro session ⟨platform, bucket, found, -⟩
    nomatch found
  probed := nofun
  unknown _ _ := ⟨rfl, rfl⟩
  minted := nofun
  kept := nofun

/-- Whether everyone ends what they have, and a shared session is lent once. -/
def Fits (state : Pool × Loans) (event : Nat × Event) : Prop :=
  state.2.Matches event.2 ∧ state.1.LendsOnce event.2

theorem reached_tracked (reached : (lending config).Reaches Fits (pool, loans)) :
    Tracked config pool loans := by
  have tracked : ∀ state, (lending config).Reaches Fits state →
      Tracked config state.1 state.2 := by
    intro state reached
    induction reached with
    | start starts =>
      cases starts
      exact tracked_empty config
    | @next before after event _ allows steps ih =>
      cases steps
      exact ih.step allows.1 allows.2
  exact tracked _ reached

theorem Tracked.checkedOut (tracked : Tracked config pool loans) {now : Nat} {event : Event}
    (once : pool.LendsOnce event) {platform : String} {identity : Option String}
    (returned : (pool.step config now event).2 = some (.checkedOut platform identity session)) :
    ((pool.step config now event).1.objects session).key = some (warmKey platform identity) ∧
      ∀ context, (pool.step config now event).1.bound session = some context →
        (pool.step config now event).1.createdFor context =
          some (some (warmKey platform identity)) := by
  obtain ⟨ledger, sound⟩ := tracked.sound
  have key : (pool.objects session).key = some (warmKey platform identity) := by
    rcases checkedOut_cases once returned with ⟨call, -, slot, waits⟩ | ⟨call, -, -, key, -⟩
    · -- The slot that the call has claimed is that of the platform and the identity.
      have claims : work Call.slot pool.calls call = some slot := by simp [work, waits, Call.slot]
      have works : work Call.session pool.calls call = some session := by
        simp [work, waits, Call.session]
      have named := sound.matched call slot session ((sound.claimant slot call).mpr claims)
        ((sound.worker session call).mpr works)
      have asked := sound.asked call slot (warmKey platform identity) claims
        (by simp [work, waits, Call.key])
      rw [named, asked]
    · exact key
  obtain ⟨call, succeeds, detaches, rfl, checkedOut⟩ := step_reply returned
  obtain ⟨-, -, object, bound, createdFor⟩ :=
    resume_checkedOut config now call succeeds detaches checkedOut
  dsimp only [Pool.step]
  rw [object, bound, createdFor]
  refine ⟨key, fun context holds => ?_⟩
  rw [sound.served session context holds, key]

/-- In every pool that is reached while everyone ends what they have and a shared session is lent
once: a session is registered and keeps its context until its owner ends it; once its owner has
ended it and all who have borrowed it have given it back, it is gone; and every session that is
checked out is one for the platform and the identity. -/
theorem borrowers_end_nothing (config : PoolOptions) (pool : Pool) (loans : Loans)
    (reached : (lending config).Reaches Fits (pool, loans)) :
    (∀ session, loans.owned session = true → loans.ended session = false →
      pool.sessions session = true ∧ ∃ context, pool.bound session = some context ∧
        pool.handed context = false ∧ ∀ now event, Fits (pool, loans) (now, event) →
          (∀ detaches, event ≠ .endDrive .owner session detaches) →
            (pool.step config now event).1.bound session = some context) ∧
    (∀ session, loans.owned session = true → loans.ended session = true →
      loans.borrows session = 0 → pool.sessions session = false ∧
        ∀ context, pool.bound session = some context → ∃ call state,
          pool.calls call = some state ∧ state.session = some session ∧ state.minted = none) ∧
    ∀ now event platform identity session, Fits (pool, loans) (now, event) →
      (pool.step config now event).2 = some (.checkedOut platform identity session) →
        ((pool.step config now event).1.objects session).key = some (warmKey platform identity) ∧
          ∀ context, (pool.step config now event).1.bound session = some context →
            (pool.step config now event).1.createdFor context =
              some (some (warmKey platform identity)) := by
  have tracked := reached_tracked reached
  obtain ⟨ledger, sound⟩ := tracked.sound
  refine ⟨fun session owned running => ?_, fun session owned ended returned => ?_,
    fun now event platform identity session fits checkedOut =>
      tracked.checkedOut fits.2 checkedOut⟩
  · have kept := tracked.kept session owned
    have registered := kept.alive running
    obtain ⟨context, holds⟩ := Option.ne_none_iff_exists'.mp (kept.bound registered)
    have live : live pool.createdFor pool.handed context = true := by
      rw [sound.live context, (sound.bound session context).mpr holds]
      rfl
    refine ⟨registered, context, holds, ?_, fun now event fits foreign => ?_⟩
    · rw [Pool.live, Bool.and_eq_true, Bool.not_eq_true'] at live
      exact live.2
    · rw [tracked.holds fits.1 fits.2 owned running foreign, holds]
  · have kept := tracked.kept session owned
    have dead : pool.sessions session = false := by
      cases registered : pool.sessions session with
      | false => rfl
      | true =>
        have lent := kept.lent registered
        rw [returned, ended, Bool.toNat_true] at lent
        omega
    refine ⟨dead, fun context holds => ?_⟩
    have inside := sound.kept session (by rw [holds]; rintro ⟨⟩)
    rw [dead] at inside
    cases works : ledger.worker session with
    | none =>
      rw [works] at inside
      cases inside
    | some call =>
      obtain ⟨state, waits, working⟩ :=
        Option.bind_eq_some_iff.mp ((sound.worker session call).mp works)
      refine ⟨call, state, waits, working, ?_⟩
      cases mints : state.minted with
      | none => rfl
      | some other =>
        have same := state.session_of_minted mints
        rw [working] at same
        cases same
        have issues : work Call.minted pool.calls call = some session := by
          simp [work, waits, mints]
        exact absurd issues (kept.issued call)

/-- What events at the time zero make of an empty pool and of what has been lent. -/
def lent (config : PoolOptions) (events : List Event) : Pool × Loans :=
  events.foldl
    (fun state event =>
      ((state.1.step config 0 event).1, state.2.note event (state.1.step config 0 event).2))
    (empty, ⟨fun _ => false, fun _ => 0, fun _ => false⟩)

theorem lent_step {allowed : Pool × Loans → Nat × Event → Prop} {events : List Event}
    (reached : (lending config).Reaches allowed (lent config events))
    (allows : allowed (lent config events) (0, event)) :
    (lending config).Reaches allowed (lent config (events ++ [event])) := by
  have steps : (lending config).step (lent config events) (0, event)
      (lent config (events ++ [event])) := by
    simp only [lending, lent, List.foldl_append, List.foldl_cons, List.foldl_nil]
  exact .next reached allows steps

/-- A session is created for a platform and shared, and asked for twice. -/
def askedTwice : List Event := [.createSession (sessionFor "a") true, .resume ⟨0⟩ true true,
  .registerSharedSession ⟨1⟩ "a", .tryCheckoutReadySession "a" none true,
  .tryCheckoutReadySession "a" none true]

/-- A session that is borrowed once is kept, for the platform that it is asked for. -/
theorem one_borrower_ends_nothing :
    (lent oneSlot (askedTwice ++ [.resume ⟨4⟩ true true])).1.sessions ⟨1⟩ = true ∧
      ((lent oneSlot (askedTwice ++ [.resume ⟨4⟩ true true])).1.objects ⟨1⟩).key =
        some (warmKey "a" none) := by
  have empty : (lending oneSlot).Reaches Fits (lent oneSlot []) := .start rfl
  have asked : (lending oneSlot).Reaches Fits (lent oneSlot askedTwice) := by
    refine lent_step (lent_step (lent_step (lent_step (lent_step empty ?_) ?_) ?_) ?_) ?_
    · exact ⟨trivial, trivial⟩
    · exact ⟨trivial, trivial⟩
    · exact ⟨by decide +kernel, trivial⟩
    · exact ⟨trivial, trivial⟩
    · exact ⟨trivial, trivial⟩
  have fits : Fits (lent oneSlot askedTwice) (0, .resume ⟨4⟩ true true) :=
    ⟨trivial, fun _ => ⟨by decide +kernel, fun _ => by decide +kernel⟩⟩
  have lent := borrowers_end_nothing oneSlot _ _ (lent_step asked fits)
  have before := borrowers_end_nothing oneSlot _ _ asked
  exact ⟨(lent.1 ⟨1⟩ (by decide +kernel) (by decide +kernel)).1,
    (before.2.2 0 (.resume ⟨4⟩ true true) "a" none ⟨1⟩ fits (by decide +kernel)).1⟩

/-- A shared session is borrowed twice at a time, and when both borrowers have given it back it is
gone, though its owner has not ended it. -/
theorem two_borrowers_end : ∃ pool loans session, (lending oneSlot).Reaches
    (fun state event => state.2.Matches event.2) (pool, loans) ∧ loans.owned session = true ∧
      loans.ended session = false ∧ pool.sessions session = false := by
  have empty : (lending oneSlot).Reaches (fun state event => state.2.Matches event.2)
    (lent oneSlot []) := .start rfl
  have given : (lending oneSlot).Reaches (fun state event => state.2.Matches event.2)
      (lent oneSlot (askedTwice ++ [.resume ⟨4⟩ true true, .resume ⟨5⟩ true true,
        .endDrive .borrower ⟨1⟩ true, .endDrive .borrower ⟨1⟩ true])) := by
    refine lent_step (lent_step (lent_step (lent_step (lent_step (lent_step (lent_step (lent_step
      (lent_step empty ?_) ?_) ?_) ?_) ?_) ?_) ?_) ?_) ?_
    all_goals decide +kernel
  exact ⟨_, _, ⟨1⟩, given, by decide +kernel, by decide +kernel, by decide +kernel⟩

end Pool

end Klura
