import Klura.Library.Replacement
import Mathlib.Data.Rat.Defs

/-! Sending a frame on a page's socket, and waiting for its acknowledgement among the captured
frames. -/

namespace Klura

namespace WebSocket

/-- Which way a frame went. -/
inductive Direction where
  | sent
  | received
  deriving DecidableEq

/-- A frame of a socket. -/
structure WebSocketFrame where
  url : Units
  direction : Direction
  payload : Units
  timestamp : ℚ
  deriving DecidableEq

/-- A captured frame, with its number among all that the session captured, which is the model's. -/
structure CapturedFrame where
  serial : Nat
  frame : WebSocketFrame
  deriving DecidableEq

/-- How many frames a session keeps unless it says otherwise. -/
def WS_FRAMES_BUFFER_CAP : Nat := 2000

/-- The frames of a session: the ones it keeps, how many it may keep, and how many it captured. -/
structure FrameCapture where
  wsFrames : List CapturedFrame
  wsFramesCap : Option Nat
  captured : Nat

namespace FrameCapture

/-- How many frames the session keeps. -/
def cap (session : FrameCapture) : Nat := session.wsFramesCap.getD WS_FRAMES_BUFFER_CAP

/-- A session that has captured nothing. -/
def start (wsFramesCap : Option Nat) : FrameCapture := ⟨[], wsFramesCap, 0⟩

/-- Captures a frame, and evicts the oldest ones beyond the cap. -/
def pushFrame (session : FrameCapture) (frame : WebSocketFrame) : FrameCapture :=
  let buffer := session.wsFrames ++ [⟨session.captured, frame⟩]
  { session with
    wsFrames := if buffer.length > session.cap then buffer.drop (buffer.length - session.cap)
      else buffer
    captured := session.captured + 1 }

/-- Captures frames one after the other. -/
def capture (session : FrameCapture) (frames : List WebSocketFrame) : FrameCapture :=
  frames.foldl pushFrame session

end FrameCapture

/-- A poll of the frames: the time at which it is decided on, and the frames that were captured
since the poll before it. -/
structure Poll where
  now : ℚ
  arrived : List WebSocketFrame

/-- How the wait for an acknowledgement stands. -/
inductive AckWait where
  | waiting
  | matched (frame : CapturedFrame)
  | unmatched
  deriving DecidableEq

/-- Whether a frame is received and contains a text. -/
def isAck (substring : Units) (frame : WebSocketFrame) : Bool :=
  frame.direction ≠ .sent ∧ includes frame.payload substring = true

/-- Looks for an acknowledgement among the kept frames from a position on. -/
def scan (frames : List CapturedFrame) (sinceIndex : Nat) (substring : Units) :
    Option CapturedFrame :=
  (frames.drop sinceIndex).find? fun captured => isAck substring captured.frame

/-- Polls the frames of a session until one acknowledges, or the deadline is over. -/
def waitForAck (sinceIndex : Nat) (substring : Units) (deadline : ℚ) :
    FrameCapture → List Poll → AckWait
  | _, [] => .waiting
  | session, poll :: rest =>
    if poll.now < deadline then
      let polled := session.capture poll.arrived
      match scan polled.wsFrames sinceIndex substring with
      | some frame => .matched frame
      | none => waitForAck sinceIndex substring deadline polled rest
    else .unmatched

/-- How long an acknowledgement is waited for unless the strategy says otherwise. -/
def WS_ACK_DEFAULT_TIMEOUT_MS : ℚ := 5000

/-- What a strategy says about the acknowledgement. -/
structure WsStrategy where
  ackMatch : Option Units
  ackTimeoutMs : Option ℚ

/-- How a send went: the frames that were captured meanwhile, its error, and the time it returned. -/
structure WsSend where
  arrived : List WebSocketFrame
  error : Option Units
  returnedAt : ℚ

/-- The body of a result. -/
inductive WsBody where
  | wsSendUnconfirmed (detail wsUrl : Units)
  | ackTimeout (wsUrl ackMatch : Units) (ackTimeoutMs : ℚ)
  | acknowledged (wsUrl payload : Units)
  | sent (wsUrl : Units)
  deriving DecidableEq

/-- What an execution returns. -/
structure ExecuteResult where
  status : Nat
  executionState : Option String
  body : WsBody
  deriving DecidableEq

/-- A text, cut to a number of units the last of which says so. -/
def truncateString (text : Units) (max : Nat) : Units :=
  if text.length ≤ max then text
  else if max ≤ 1 then [8230].take max
  else text.take (max - 1) ++ [8230]

/-- An execution from the snapshot before its send on: its result, once there is one, with the frame
that it reports as the acknowledgement. -/
inductive Execution where
  | waiting
  | returned (result : ExecuteResult) (acknowledgement : Option CapturedFrame)
  deriving DecidableEq

/-- Sends a frame on the page's socket, and waits for the acknowledgement where one is asked for. -/
def executeWebSocketBrowser (strategy : WsStrategy) (wsUrl : Units) (session : FrameCapture)
    (send : WsSend) (polls : List Poll) : Execution :=
  let preSendFrameCount := session.wsFrames.length
  let session := session.capture send.arrived
  match send.error with
  | some error =>
    .returned ⟨0, some "sent_unconfirmed", .wsSendUnconfirmed error wsUrl⟩ none
  | none =>
    match strategy.ackMatch.filter (· ≠ []) with
    | none => .returned ⟨200, none, .sent wsUrl⟩ none
    | some ackMatch =>
      let ackBudget := strategy.ackTimeoutMs.getD WS_ACK_DEFAULT_TIMEOUT_MS
      match waitForAck preSendFrameCount ackMatch (send.returnedAt + ackBudget) session polls with
      | .waiting => .waiting
      | .unmatched =>
        .returned ⟨0, some "sent_unconfirmed", .ackTimeout wsUrl ackMatch ackBudget⟩ none
      | .matched frame =>
        .returned ⟨200, none, .acknowledged wsUrl (truncateString frame.frame.payload 2048)⟩ frame

end WebSocket

end Klura
