import Klura.Execution.WebSocketAck
import Mathlib.Tactic.NormNum

/-! Which acknowledgements the wait after a send misses: those that evictions moved before the
position it starts from. -/

namespace Klura

namespace WebSocket

namespace FrameCapture

/-- The kept frames are the last ones of those captured, and no more than the cap. -/
structure Numbered (session : FrameCapture) : Prop where
  length : session.wsFrames.length = min session.captured session.cap
  serials : session.wsFrames.map CapturedFrame.serial =
    List.range' (session.captured - session.wsFrames.length) session.wsFrames.length

theorem start_numbered (wsFramesCap : Option Nat) : (start wsFramesCap).Numbered :=
  ⟨by simp [start], by simp [start]⟩

variable {session : FrameCapture}

/-- A captured frame keeps the frames numbered. -/
theorem Numbered.pushFrame (numbered : session.Numbered) (frame : WebSocketFrame) :
    (session.pushFrame frame).Numbered := by
  have size := numbered.length
  -- The new frame goes on with the numbers of those that are kept.
  have serials : (session.wsFrames ++ [CapturedFrame.mk session.captured frame]).map CapturedFrame.serial =
      List.range' (session.captured - session.wsFrames.length) (session.wsFrames.length + 1) := by
    rw [List.map_append, numbered.serials, List.range'_concat]
    simp only [List.map_cons, List.map_nil, Nat.one_mul]
    congr 2
    omega
  have cap : (session.pushFrame frame).cap = session.cap := rfl
  have captured : (session.pushFrame frame).captured = session.captured + 1 := rfl
  by_cases full : session.wsFrames.length + 1 > session.cap
  · -- The frames beyond the cap go from the front.
    have frames : (session.pushFrame frame).wsFrames =
        (session.wsFrames ++ [CapturedFrame.mk session.captured frame]).drop
          (session.wsFrames.length + 1 - session.cap) := by
      simp [FrameCapture.pushFrame, full]
    have kept : (session.pushFrame frame).wsFrames.length = session.cap := by
      rw [frames]
      simp only [List.length_drop, List.length_append, List.length_singleton]
      omega
    refine ⟨by omega, ?_⟩
    rw [kept, frames, List.map_drop, serials, List.drop_range']
    congr 1 <;> omega
  · have frames : (session.pushFrame frame).wsFrames =
        session.wsFrames ++ [CapturedFrame.mk session.captured frame] := by
      simp [FrameCapture.pushFrame, full]
    have kept : (session.pushFrame frame).wsFrames.length = session.wsFrames.length + 1 := by
      simp [frames]
    refine ⟨by omega, ?_⟩
    rw [kept, frames, serials]
    congr 1
    omega

theorem Numbered.capture (numbered : session.Numbered) (frames : List WebSocketFrame) :
    (session.capture frames).Numbered ∧
      (session.capture frames).captured = session.captured + frames.length ∧
      (session.capture frames).cap = session.cap := by
  -- The induction follows the frames in the order of their arrival.
  induction frames generalizing session with
  | nil => exact ⟨numbered, rfl, rfl⟩
  | cons frame rest ih =>
    obtain ⟨again, count, cap⟩ := ih (numbered.pushFrame frame)
    have one : (session.pushFrame frame).captured = session.captured + 1 := rfl
    refine ⟨again, ?_, cap⟩
    simp only [FrameCapture.capture, List.foldl_cons, List.length_cons] at count ⊢
    omega

theorem capture_append (session : FrameCapture) (front back : List WebSocketFrame) :
    session.capture (front ++ back) = (session.capture front).capture back := by
  simp [FrameCapture.capture]

theorem Numbered.mem_drop (numbered : session.Numbered) (since : Nat) (captured : CapturedFrame) :
    captured ∈ session.wsFrames.drop since ↔
      captured ∈ session.wsFrames ∧
        session.captured + since ≤ captured.serial + min session.captured session.cap := by
  have size := numbered.length
  have at_ : ∀ (index : Nat) (below : index < session.wsFrames.length),
      session.wsFrames[index].serial = session.captured - session.wsFrames.length + index := by
    intro index below
    have mapped := congrArg (fun numbers => numbers[index]?) numbered.serials
    simpa [List.getElem?_map, List.getElem?_eq_getElem below, below] using mapped
  constructor
  · intro member
    obtain ⟨index, below, same⟩ := List.mem_iff_getElem.mp member
    rw [List.getElem_drop] at same
    rw [List.length_drop] at below
    have serial := at_ (since + index) (by omega)
    rw [same] at serial
    exact ⟨List.mem_of_mem_drop member, by omega⟩
  · rintro ⟨member, late⟩
    obtain ⟨index, below, same⟩ := List.mem_iff_getElem.mp member
    have serial := at_ index below
    rw [same] at serial
    refine List.mem_iff_getElem.mpr ⟨index - since, by rw [List.length_drop]; omega, ?_⟩
    have place : since + (index - since) = index := by omega
    simp only [List.getElem_drop, place, same]

end FrameCapture

/-- What a session has captured by the end of the first polls. -/
def polled (session : FrameCapture) (polls : List Poll) (count : Nat) : FrameCapture :=
  session.capture ((polls.take count).flatMap Poll.arrived)

theorem polled_cons (session : FrameCapture) (poll : Poll) (rest : List Poll) (count : Nat) :
    polled session (poll :: rest) (count + 1) = polled (session.capture poll.arrived) rest count := by
  simp [polled, FrameCapture.capture_append]

/-- Whether a number of polls is made: each of them is decided on before the deadline. -/
def Made (polls : List Poll) (deadline : ℚ) (count : Nat) : Prop :=
  count ≤ polls.length ∧ ∀ poll ∈ polls.take count, poll.now < deadline

section Wait

variable {since : Nat} {substring : Units} {deadline : ℚ}

variable {frame : CapturedFrame}

variable {frames : List CapturedFrame}

theorem scan_some (found : scan frames since substring = some frame) :
    frame ∈ frames.drop since ∧ isAck substring frame.frame = true := by
  unfold scan at found
  exact ⟨List.mem_of_find?_eq_some found, by simpa using List.find?_some found⟩

theorem scan_of_mem (member : frame ∈ frames.drop since)
    (acknowledges : isAck substring frame.frame = true) :
    ∃ found, scan frames since substring = some found := by
  exact Option.isSome_iff_exists.mp (List.find?_isSome.mpr ⟨frame, member, acknowledges⟩)

variable {session : FrameCapture} {polls : List Poll}

theorem waitForAck_found
    (matched : waitForAck since substring deadline session polls = .matched frame) :
    ∃ count, Made polls deadline (count + 1) ∧
      frame ∈ (polled session polls (count + 1)).wsFrames.drop since ∧
        isAck substring frame.frame = true := by
  -- The induction follows the polls; a match is made at the first or at one of the rest.
  induction polls generalizing session with
  | nil => simp [waitForAck] at matched
  | cons poll rest ih =>
    simp only [waitForAck] at matched
    split at matched
    · rename_i early
      cases found : scan (session.capture poll.arrived).wsFrames since substring with
      | some hit =>
        simp only [found, AckWait.matched.injEq] at matched
        subst matched
        obtain ⟨member, acknowledges⟩ := scan_some found
        refine ⟨0, ⟨by simp, by simpa using early⟩, ?_, acknowledges⟩
        simpa [polled] using member
      | none =>
        simp only [found] at matched
        obtain ⟨count, ⟨below, before⟩, member, acknowledges⟩ := ih matched
        refine ⟨count + 1, ⟨by simpa using below, ?_⟩, ?_, acknowledges⟩
        · intro other among
          rcases List.mem_cons.mp (by simpa using among) with first | later
          · exact first ▸ early
          · exact before other later
        · rw [polled_cons]
          exact member
    · exact absurd matched (by simp)

theorem waitForAck_finds {count : Nat} (made : Made polls deadline (count + 1))
    (member : frame ∈ (polled session polls (count + 1)).wsFrames.drop since)
    (acknowledges : isAck substring frame.frame = true) :
    ∃ found, waitForAck since substring deadline session polls = .matched found := by
  -- The induction follows the polls up to the one with the acknowledgement.
  induction polls generalizing session count with
  | nil => exact absurd made.1 (by simp)
  | cons poll rest ih =>
    have early : poll.now < deadline := made.2 poll (by simp)
    simp only [waitForAck, if_pos early]
    cases found : scan (session.capture poll.arrived).wsFrames since substring with
    | some hit => exact ⟨hit, rfl⟩
    | none =>
      rw [polled_cons] at member
      cases count with
      | zero =>
        -- The acknowledgement is where this very poll looks.
        have here : frame ∈ (session.capture poll.arrived).wsFrames.drop since := by
          simpa [polled, FrameCapture.capture] using member
        obtain ⟨hit, finds⟩ := scan_of_mem here acknowledges
        rw [finds] at found
        exact absurd found (by simp)
      | succ count =>
        refine ih ⟨by simpa using made.1, ?_⟩ member
        intro other among
        exact made.2 other (by simpa using .inr (by simpa using among))

end Wait

/-- A run: the session's cap and what it captured before the send, the send, and the polls. -/
structure AckRun where
  strategy : WsStrategy
  wsUrl : Units
  wsFramesCap : Option Nat
  before : List WebSocketFrame
  send : WsSend
  polls : List Poll

namespace AckRun

/-- The session right before the send. -/
def atSend (run : AckRun) : FrameCapture := (FrameCapture.start run.wsFramesCap).capture run.before

/-- The session when the send returns. -/
def atReturn (run : AckRun) : FrameCapture := run.atSend.capture run.send.arrived

/-- The session at one of the polls. -/
def atPoll (run : AckRun) (count : Nat) : FrameCapture := polled run.atReturn run.polls count

/-- The end of the wait. -/
def deadline (run : AckRun) : ℚ :=
  run.send.returnedAt + run.strategy.ackTimeoutMs.getD WS_ACK_DEFAULT_TIMEOUT_MS

/-- What the execution comes to. -/
def outcome (run : AckRun) : Execution :=
  executeWebSocketBrowser run.strategy run.wsUrl run.atSend run.send run.polls

/-- Whether an acknowledgement of this text is waited for. -/
def WaitsFor (run : AckRun) (ackMatch : Units) : Prop :=
  run.send.error = none ∧ run.strategy.ackMatch = some ackMatch ∧ ackMatch ≠ []

/-- Whether a poll before the deadline has this acknowledgement in the ring. -/
def Shows (run : AckRun) (count : Nat) (captured : CapturedFrame) : Prop :=
  ∃ ackMatch, run.WaitsFor ackMatch ∧ 0 < count ∧ Made run.polls run.deadline count ∧
    captured ∈ (run.atPoll count).wsFrames ∧ isAck ackMatch captured.frame = true

/-- Whether the execution reports an acknowledgement. -/
def Reports (run : AckRun) : Prop :=
  ∃ payload frame, run.outcome = .returned ⟨200, none, .acknowledged run.wsUrl payload⟩ (some frame)

/-- No acknowledgement is missed, nor is an earlier frame taken for one. -/
structure NoAckMissed (run : AckRun) : Prop where
  /-- An acknowledgement that is captured after the send returned and still in the ring at some poll
  before the deadline is reported. -/
  reported : ∀ count captured, run.Shows count captured →
    run.atReturn.captured ≤ captured.serial → run.Reports
  /-- What is reported was not captured before the send. -/
  later : ∀ result frame, run.outcome = .returned result (some frame) →
    run.atSend.captured ≤ frame.serial

/-- Whether the evictions leave an acknowledgement where the polls look: when one that is captured
after the send is in the ring at a poll, then at some poll one that is captured since the snapshot
is among the last frames, which are as many as the ring had room for at the snapshot. -/
def RoomLeft (run : AckRun) : Prop :=
  (∃ count captured, run.Shows count captured ∧ run.atReturn.captured ≤ captured.serial) →
    ∃ count captured, run.Shows count captured ∧ run.atSend.captured ≤ captured.serial ∧
      (run.atPoll count).captured - captured.serial ≤ run.atSend.cap - run.atSend.wsFrames.length

theorem atPoll_numbered (run : AckRun) (count : Nat) : run.atSend.Numbered ∧
    (run.atPoll count).Numbered ∧ run.atSend.captured ≤ (run.atPoll count).captured ∧
      (run.atPoll count).cap = run.atSend.cap := by
  obtain ⟨first, -, -⟩ := (FrameCapture.start_numbered run.wsFramesCap).capture run.before
  obtain ⟨second, more, cap⟩ := first.capture run.send.arrived
  obtain ⟨third, again, same⟩ := second.capture ((run.polls.take count).flatMap Poll.arrived)
  refine ⟨first, third, ?_, same.trans cap⟩
  have whole : (run.atPoll count).captured = run.atReturn.captured + _ := again
  have part : run.atReturn.captured = run.atSend.captured + _ := more
  omega

/-- The polls look where a frame stands just when the frames from it on fit into the room that the
ring had at the snapshot. -/
theorem seen_iff (run : AckRun) {count : Nat} {captured : CapturedFrame}
    (member : captured ∈ (run.atPoll count).wsFrames) :
    captured ∈ (run.atPoll count).wsFrames.drop run.atSend.wsFrames.length ↔
      run.atSend.captured ≤ captured.serial ∧
        (run.atPoll count).captured - captured.serial ≤
          run.atSend.cap - run.atSend.wsFrames.length := by
  obtain ⟨first, numbered, more, cap⟩ := run.atPoll_numbered count
  rw [numbered.mem_drop, first.length, cap]
  -- A kept frame has a number below the count of all captured ones.
  have recent := (numbered.mem_drop 0 captured).mp (by simpa using member)
  have below : captured.serial < (run.atPoll count).captured := by
    have inside := List.mem_map_of_mem (f := CapturedFrame.serial) member
    rw [numbered.serials, List.mem_range'_1] at inside
    have size := numbered.length
    omega
  constructor
  · rintro ⟨-, late⟩
    omega
  · rintro ⟨since, room⟩
    refine ⟨member, ?_⟩
    omega

theorem outcome_of_waits {run : AckRun} {ackMatch : Units} (waits : run.WaitsFor ackMatch) :
    run.outcome =
      match waitForAck run.atSend.wsFrames.length ackMatch run.deadline run.atReturn run.polls with
      | .waiting => .waiting
      | .unmatched => .returned ⟨0, some "sent_unconfirmed", .ackTimeout run.wsUrl ackMatch
          (run.strategy.ackTimeoutMs.getD WS_ACK_DEFAULT_TIMEOUT_MS)⟩ none
      | .matched frame => .returned ⟨200, none,
          .acknowledged run.wsUrl (truncateString frame.frame.payload 2048)⟩ (some frame) := by
  obtain ⟨succeeded, asked, inhabited⟩ := waits
  have filtered : run.strategy.ackMatch.filter (· ≠ []) = some ackMatch := by
    simp [asked, Option.filter, inhabited]
  simp only [outcome, executeWebSocketBrowser, succeeded, filtered]
  rfl

/-- Only an execution that waits for an acknowledgement reports one, and what it reports is what a
poll saw. -/
theorem seen_of_outcome {run : AckRun} {result : ExecuteResult} {frame : CapturedFrame}
    (reports : run.outcome = .returned result (some frame)) :
    ∃ count, run.Shows count frame ∧
      frame ∈ (run.atPoll count).wsFrames.drop run.atSend.wsFrames.length := by
  -- The other ends of an execution report no frame.
  have waits : ∃ ackMatch, run.WaitsFor ackMatch := by
    unfold outcome executeWebSocketBrowser at reports
    dsimp only at reports
    split at reports
    · exact absurd reports (by simp)
    · rename_i succeeded
      split at reports
      · exact absurd reports (by simp)
      · rename_i ackMatch asked
        obtain ⟨found, inhabited⟩ := Option.filter_eq_some_iff.mp asked
        exact ⟨ackMatch, succeeded, found, by simpa using inhabited⟩
  obtain ⟨ackMatch, waits⟩ := waits
  rw [outcome_of_waits waits] at reports
  split at reports
  · exact absurd reports (by simp)
  · exact absurd reports (by simp)
  · rename_i hit matched
    simp only [Execution.returned.injEq, Option.some.injEq] at reports
    obtain ⟨-, rfl⟩ := reports
    obtain ⟨count, made, member, acknowledges⟩ := waitForAck_found matched
    exact ⟨count + 1, ⟨ackMatch, waits, Nat.succ_pos count, made, List.mem_of_mem_drop member,
      acknowledges⟩, member⟩

theorem reports_iff (run : AckRun) : run.Reports ↔
    ∃ count captured, run.Shows count captured ∧
      captured ∈ (run.atPoll count).wsFrames.drop run.atSend.wsFrames.length := by
  constructor
  · rintro ⟨payload, frame, reports⟩
    obtain ⟨count, shows, seen⟩ := seen_of_outcome reports
    exact ⟨count, frame, shows, seen⟩
  · rintro ⟨count, captured, ⟨ackMatch, waits, positive, made, -, acknowledges⟩, seen⟩
    obtain ⟨earlier, rfl⟩ : ∃ earlier, count = earlier + 1 := ⟨count - 1, by omega⟩
    obtain ⟨found, matched⟩ := waitForAck_finds made seen acknowledges
    have outcome := outcome_of_waits waits
    rw [matched] at outcome
    exact ⟨_, found, outcome⟩

/-- No acknowledgement is missed in a run just when the evictions leave room for one. -/
theorem no_ack_missed_iff (run : AckRun) : run.NoAckMissed ↔ run.RoomLeft := by
  constructor
  · -- What is reported is where a poll looks, so it is among the last frames.
    rintro ⟨reported, -⟩ ⟨count, captured, shows, after⟩
    obtain ⟨at_, frame, visible, seen⟩ := (reports_iff run).mp (reported count captured shows after)
    have member := List.mem_of_mem_drop seen
    exact ⟨at_, frame, visible, (run.seen_iff member).mp seen⟩
  · intro room
    constructor
    · intro count captured shows after
      obtain ⟨at_, frame, visible, fits⟩ := room ⟨count, captured, shows, after⟩
      obtain ⟨-, -, -, -, member, -⟩ := id visible
      exact (reports_iff run).mpr ⟨at_, frame, visible, (run.seen_iff member).mpr fits⟩
    · intro result frame reports
      obtain ⟨count, -, seen⟩ := seen_of_outcome reports
      exact ((run.seen_iff (List.mem_of_mem_drop seen)).mp seen).1

/-- A run whose ring is full at the send, as many frames fill it, and whose first poll finds the
acknowledgement in the ring. -/
def fullRing : AckRun where
  strategy := ⟨some (ascii "ok"), none⟩
  wsUrl := ascii "wss://shop.example"
  wsFramesCap := none
  before := List.replicate 2000 ⟨ascii "wss://shop.example", .received, ascii "tick", 0⟩
  send := ⟨[], none, 1⟩
  polls := [⟨1, [⟨ascii "wss://shop.example", .received, ascii "ok", 1⟩]⟩]

/-- The frame that acknowledges. -/
def okFrame : WebSocketFrame := ⟨ascii "wss://shop.example", .received, ascii "ok", 1⟩

theorem fullRing_atPoll : fullRing.atReturn = fullRing.atSend ∧
    fullRing.atPoll 1 = fullRing.atSend.pushFrame okFrame := by
  have none : fullRing.send.arrived = [] := rfl
  have quiet : fullRing.atReturn = fullRing.atSend := by
    simp only [AckRun.atReturn, none, FrameCapture.capture, List.foldl_nil]
  refine ⟨quiet, ?_⟩
  have polls : fullRing.polls = [⟨1, [okFrame]⟩] := rfl
  simp only [AckRun.atPoll, polled, polls, quiet, List.take_succ_cons, List.take_zero,
    List.flatMap_cons, List.flatMap_nil, List.append_nil, FrameCapture.capture, List.foldl_cons,
    List.foldl_nil]

theorem fullRing_atSend : fullRing.atSend.wsFrames.length = 2000 ∧
    fullRing.atSend.captured = 2000 := by
  obtain ⟨numbered, captured, cap⟩ :=
    (FrameCapture.start_numbered fullRing.wsFramesCap).capture fullRing.before
  have before : fullRing.before.length = 2000 := List.length_replicate
  have all : fullRing.atSend.captured = 2000 := captured.trans (by rw [before]; rfl)
  have room : fullRing.atSend.cap = 2000 := cap
  exact ⟨numbered.length.trans (by
    show min fullRing.atSend.captured fullRing.atSend.cap = 2000
    rw [all, room]; rfl), all⟩

theorem mem_pushFrame {session : FrameCapture} (some : 0 < session.cap) (frame : WebSocketFrame) :
    CapturedFrame.mk session.captured frame ∈ (session.pushFrame frame).wsFrames := by
  unfold FrameCapture.pushFrame
  dsimp only
  split
  · rw [List.drop_append_of_le_length (by simp; omega)]
    simp
  · simp

/-- An acknowledgement that comes right after the send is missed when the ring was full. -/
theorem full_ring_misses : (∃ captured, fullRing.Shows 1 captured ∧
      fullRing.atReturn.captured ≤ captured.serial) ∧ ¬ fullRing.Reports ∧
    ¬ ∀ run : AckRun, run.NoAckMissed := by
  obtain ⟨length, captured⟩ := fullRing_atSend
  obtain ⟨-, numbered, -, cap⟩ := fullRing.atPoll_numbered 1
  have room : fullRing.atSend.cap = 2000 :=
    ((FrameCapture.start_numbered fullRing.wsFramesCap).capture fullRing.before).2.2
  obtain ⟨quiet, polled⟩ := fullRing_atPoll
  have polls : fullRing.polls = [⟨1, [okFrame]⟩] := rfl
  have shown : fullRing.Shows 1 ⟨fullRing.atSend.captured, okFrame⟩ := by
    refine ⟨ascii "ok", ⟨rfl, rfl, by decide⟩, by decide, ⟨by rw [polls]; decide, ?_⟩, ?_, by decide⟩
    · intro poll among
      rw [polls, List.take_succ_cons, List.take_zero, List.mem_singleton] at among
      have deadline : fullRing.deadline = 1 + 5000 := rfl
      rw [among, deadline]
      norm_num
    · rw [polled]
      exact mem_pushFrame (by rw [room]; omega) okFrame
  have missed : ¬ fullRing.Reports := by
    rw [reports_iff]
    rintro ⟨count, frame, ⟨-, -, positive, made, -⟩, seen⟩
    -- There is one poll only, and the ring is no longer than the position it looks from.
    have one : count = 1 := by
      have most := made.1
      rw [polls] at most
      simp only [List.length_singleton] at most
      omega
    subst one
    have short : (fullRing.atPoll 1).wsFrames.length ≤ fullRing.atSend.wsFrames.length := by
      rw [numbered.length, cap, room, length]
      omega
    rw [List.drop_eq_nil_of_le short] at seen
    exact absurd seen (by simp)
  have after : fullRing.atReturn.captured ≤
      (CapturedFrame.mk fullRing.atSend.captured okFrame).serial := by rw [quiet]
  exact ⟨⟨_, shown, after⟩, missed, fun all => missed ((all fullRing).reported 1 _ shown after)⟩

end AckRun

end WebSocket

end Klura
