import BrandBlitz.Chat.Frames
import BrandBlitz.Payout.Rows
import Mathlib.Logic.Function.Basic

/-!
# BrandBlitz.Chat.Rooms

**The rooms of the chat** (`apps/api/src/routes/challenges.chat.ts`): a server with its clock, its
room and client objects, the map of active rooms and the timers.

* The handlers of a client have the room that it joined and the id of the challenge. They push to
  the history of that room, and broadcast in the room that the map has for the challenge.
* A chunk of bytes is its frames (`BrandBlitz.Chat.Frames`), one move for each of them. Time may
  pass in between, and the frames behind a close frame are not handled.
* Whoever is let in has a valid token, is an active user, takes part in the challenge and has sent a
  key. The row of the challenge was read before another `await`, at the time `checkedAt`.
* A timer fires at its time or later. Node takes a delay that does not fit in a signed integer of 32
  bits for one millisecond.
* Of what is sent, the messages of the chat and the errors are kept, in a log with the closings.
-/

namespace BrandBlitz.Chat

open BrandBlitz.Payout.Rows (utf16Length)

/-! ### Messages -/

def MAX_MESSAGE_LENGTH : Nat := 280
def RATE_LIMIT_MAX_MESSAGES : Nat := 5
def RATE_LIMIT_WINDOW_MS : Int := 5000
def MAX_HISTORY_MESSAGES : Nat := 50

/-- `text.replace(/c/g, entity)`. -/
def replaceChar (c : Char) (entity : String) (text : Text) : Text :=
  text.flatMap fun d => if d = c then entity.toList else [d]

def escapeHtml (text : Text) : Text :=
  replaceChar '\'' "&#39;" (replaceChar '"' "&quot;" (replaceChar '>' "&gt;"
    (replaceChar '<' "&lt;" (replaceChar '&' "&amp;" text))))

structure ChatUser where
  userId : Text
  username : Text
  displayName : Text
deriving DecidableEq, Inhabited, Repr

structure ChatMessage extends ChatUser where
  id : Text
  challengeId : Text
  content : Text
  timestamp : Int
deriving DecidableEq, Inhabited, Repr

/-- What `JSON.parse` makes of a text, as far as it is read. -/
inductive ChatPayload where
  /-- no JSON, or `null` -/
  | malformed
  | otherType
  /-- `type` is `chat`, and this is `content` if it is a string -/
  | chat (content : Option Text)
deriving DecidableEq, Repr

structure ChatError where
  code : Text
  message : Text
deriving DecidableEq, Repr

def rateLimitedError : ChatError :=
  ⟨"RATE_LIMITED".toList, "Rate limit exceeded. Maximum 5 messages per 5 seconds.".toList⟩

def invalidLengthError : ChatError :=
  ⟨"INVALID_LENGTH".toList, "Message must be between 1 and 280 characters.".toList⟩

def invalidJsonError : ChatError :=
  ⟨"INVALID_JSON".toList, "Malformed JSON payload.".toList⟩

/-- Is a client limited, and the times of its messages afterwards. -/
def isRateLimited (messageTimestamps : List Int) (now : Int) : Bool × List Int :=
  let messageTimestamps := messageTimestamps.filter fun t => now - t < RATE_LIMIT_WINDOW_MS
  if RATE_LIMIT_MAX_MESSAGES ≤ messageTimestamps.length then (true, messageTimestamps)
  else (false, messageTimestamps ++ [now])

/-- The history after `push`, and after `shift` if it has become too long. -/
def remember (history : List ChatMessage) (message : ChatMessage) : List ChatMessage :=
  let history := history ++ [message]
  if MAX_HISTORY_MESSAGES < history.length then history.tail else history

/-! ### The server -/

/-- A client, with what its handlers have of the room that it joined. -/
structure ChatClient extends ChatUser where
  room : Nat
  challengeId : Text
  messageTimestamps : List Int
deriving DecidableEq, Inhabited, Repr

structure ChatRoom where
  challengeId : Text
  clients : List Nat
  history : List ChatMessage
  endsAt : Int
  /-- when it is due, while it is pending -/
  endTimer : Option Int
  /-- when the row of the challenge was read for the first client -/
  checkedAt : Int
deriving DecidableEq, Inhabited, Repr

inductive CloseReason where
  | challengeEnded
  | emptyEndedRoom
  | serverShutdown
deriving DecidableEq, Repr

inductive ChatEvent where
  /-- A message is broadcast in a room, by the handler of a client that joined `sentFrom`. -/
  | said (room sentFrom : Nat) (message : ChatMessage)
  | closed (room : Nat) (reason : CloseReason) (time : Int)
  | refused (client : Nat) (error : ChatError)
deriving DecidableEq, Repr

structure Server where
  now : Int
  /-- the room objects, by the order in which they were made -/
  rooms : Nat → ChatRoom
  opened : Nat
  clients : Nat → ChatClient
  joined : Nat
  activeRooms : Text → Option Nat
  log : List ChatEvent

namespace Server

def updateRoom (s : Server) (r : Nat) (f : ChatRoom → ChatRoom) : Server :=
  { s with rooms := Function.update s.rooms r (f (s.rooms r)) }

def refuse (s : Server) (client : Nat) (error : ChatError) : Server :=
  { s with log := s.log ++ [.refused client error] }

/-- `broadcastToRoom`, of a message of the chat. -/
def broadcastToRoom (s : Server) (challengeId : Text) (sentFrom : Nat) (message : ChatMessage) :
    Server :=
  match s.activeRooms challengeId with
  | none => s
  | some room => { s with log := s.log ++ [.said room sentFrom message] }

def closeRoom (s : Server) (challengeId : Text) (reason : CloseReason) : Server :=
  match s.activeRooms challengeId with
  | none => s
  | some r =>
    { s.updateRoom r fun room => { room with clients := [], endTimer := none } with
      activeRooms := Function.update s.activeRooms challengeId none
      log := s.log ++ [.closed r reason s.now] }

def isActive (s : Server) (r : Nat) : Bool := s.activeRooms (s.rooms r).challengeId = some r

def resetChatRooms (s : Server) : Server :=
  { s with
    rooms := fun r =>
      if s.isActive r then { s.rooms r with clients := [], endTimer := none } else s.rooms r
    activeRooms := fun _ => none
    log := s.log ++ ((List.range s.opened).filter s.isActive).map
      fun r => .closed r .serverShutdown s.now }

end Server

/-! ### Joining and leaving -/

/-- A row of `challenges`. -/
structure ChatChallenge where
  status : Text
  endsAt : Option Int
deriving DecidableEq, Repr

/-- When the challenge ends, or the status, its text and the message of the response. -/
def verifyChallenge (challenge : Option ChatChallenge) (now : Int) :
    Except (Nat × Text × Text) Int :=
  match challenge with
  | none => .error (404, "Not Found".toList, "Challenge not found".toList)
  | some challenge =>
    -- the date of `null` is the epoch
    let endsAtTime := challenge.endsAt.getD 0
    if challenge.status ≠ "active".toList then
      .error (400, "Bad Request".toList, "Challenge is not currently active".toList)
    else if endsAtTime ≤ now then
      .error (400, "Bad Request".toList, "Challenge has already ended".toList)
    else .ok endsAtTime

/-- The delay of `setTimeout`. -/
def nodeDelay (delay : Int) : Int := if delay < 1 ∨ 2147483647 < delay then 1 else delay

namespace Server

/-- The room of a challenge, made if there is none. -/
def openRoom (s : Server) (challengeId : Text) (endsAtTime checkedAt : Int) : Nat × Server :=
  match s.activeRooms challengeId with
  | some room => (room, s)
  | none =>
    let msUntilEnd := endsAtTime - checkedAt
    let room : ChatRoom :=
      { challengeId
        clients := []
        history := []
        endsAt := endsAtTime
        endTimer := some (s.now + nodeDelay (max 100 msUntilEnd))
        checkedAt }
    (s.opened,
      { s with
        rooms := Function.update s.rooms s.opened room
        opened := s.opened + 1
        activeRooms := Function.update s.activeRooms challengeId (some s.opened) })

def addClient (s : Server) (room : Nat) (challengeId : Text) (user : ChatUser) : Server :=
  { s.updateRoom room fun room => { room with clients := room.clients ++ [s.joined] } with
    clients := Function.update s.clients s.joined
      { user with room, challengeId, messageTimestamps := [] }
    joined := s.joined + 1 }

/-- `handleChatUpgrade`, from the handshake on. -/
def join (s : Server) (challengeId : Text) (user : ChatUser) (endsAtTime checkedAt : Int) :
    Server :=
  let opened := s.openRoom challengeId endsAtTime checkedAt
  opened.2.addClient opened.1 challengeId user

def cleanup (s : Server) (client : Nat) : Server :=
  let challengeId := (s.clients client).challengeId
  match s.activeRooms challengeId with
  | none => s
  | some currentRoom =>
    let s := s.updateRoom currentRoom fun room => { room with clients := room.clients.erase client }
    if (s.rooms currentRoom).clients = [] ∧ (s.rooms currentRoom).endsAt ≤ s.now then
      s.closeRoom challengeId .emptyEndedRoom
    else s

/-! ### Frames -/

def setTimestamps (s : Server) (client : Nat) (messageTimestamps : List Int) : Server :=
  { s with clients := Function.update s.clients client { s.clients client with messageTimestamps } }

section

variable (parsePayload : Text → ChatPayload)

/-- A text frame; `id` is the random id that a message would get. -/
def handleText (s : Server) (client : Nat) (text id : Text) : Server :=
  match parsePayload text with
  | .malformed => s.refuse client invalidJsonError
  | .otherType => s
  | .chat content =>
    let sender := s.clients client
    let limit := isRateLimited sender.messageTimestamps s.now
    let s := s.setTimestamps client limit.2
    if limit.1 then s.refuse client rateLimitedError
    else
      let rawContent := trim (content.getD [])
      if utf16Length rawContent = 0 ∨ MAX_MESSAGE_LENGTH < utf16Length rawContent then
        s.refuse client invalidLengthError
      else
        let message : ChatMessage :=
          { sender.toChatUser with
            id
            challengeId := sender.challengeId
            content := escapeHtml rawContent
            timestamp := s.now }
        (s.updateRoom sender.room fun room =>
          { room with history := remember room.history message }).broadcastToRoom
            sender.challengeId sender.room message

def handleFrame (s : Server) (client : Nat) (frame : DecodedWsFrame) (id : Text) : Server :=
  if frame.opcode = 0x08 then s.cleanup client
  else if frame.opcode = 0x01 then
    match frame.text with
    | some text => if text = [] then s else s.handleText parsePayload client text id
    | none => s
  else s

end

/-- The callback of a timer that is due. -/
def fireTimer (s : Server) (r : Nat) : Server :=
  match (s.rooms r).endTimer with
  | none => s
  | some due =>
    if due ≤ s.now then
      (s.updateRoom r fun room => { room with endTimer := none }).closeRoom (s.rooms r).challengeId
        .challengeEnded
    else s

end Server

/-! ### Runs -/

inductive ChatMove where
  | tick (ms : Nat)
  | join (challengeId : Text) (user : ChatUser) (challenge : Option ChatChallenge) (checkedAt : Int)
  | frame (client : Nat) (frame : DecodedWsFrame) (id : Text)
  /-- the socket is closed, ended or has failed -/
  | leave (client : Nat)
  | timer (room : Nat)
  | shutdown
deriving DecidableEq, Repr

section

variable (parsePayload : Text → ChatPayload)

/-- A move that cannot take place changes nothing. -/
def Server.step (s : Server) : ChatMove → Server
  | .tick ms => { s with now := s.now + ms }
  | .join challengeId user challenge checkedAt =>
    match verifyChallenge challenge checkedAt with
    | .error _ => s
    | .ok endsAtTime => if checkedAt ≤ s.now then s.join challengeId user endsAtTime checkedAt else s
  | .frame client frame id =>
    if client < s.joined then s.handleFrame parsePayload client frame id else s
  | .leave client => if client < s.joined then s.cleanup client else s
  | .timer room => s.fireTimer room
  | .shutdown => s.resetChatRooms

def Server.start (now : Int) : Server where
  now
  rooms := default
  opened := 0
  clients := default
  joined := 0
  activeRooms := fun _ => none
  log := []

/-- The server after moves, from its start on. -/
def Server.after (start : Int) (moves : List ChatMove) : Server :=
  moves.foldl (Server.step parsePayload) (Server.start start)

end

end BrandBlitz.Chat
