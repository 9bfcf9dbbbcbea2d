import BrandBlitz.Chat.Rooms
import Mathlib.Data.List.DropRight

/-!
# BrandBlitz.Chat.RoomLife

**A room lives until its challenge ends.** In every run a room is closed at most once, nothing is
said in it afterwards, and unless the server is shut down it is not closed early, provided the end
was near enough for a timer when the room was made.

`Consistent` is what every move keeps: the map has the rooms that were not closed, only these have
a timer, and a room that was closed is in no later event.
-/

namespace BrandBlitz.Chat

/-! ### Events -/

/-- The room that an event takes place in. -/
def ChatEvent.room : ChatEvent → Option Nat
  | .said room _ _ => some room
  | .closed room _ _ => some room
  | .refused _ _ => none

def ChatEvent.Closes (r : Nat) : ChatEvent → Prop
  | .closed room _ _ => room = r
  | _ => False

instance (r : Nat) : (e : ChatEvent) → Decidable (e.Closes r)
  | .closed room _ _ => inferInstanceAs (Decidable (room = r))
  | .said .. => inferInstanceAs (Decidable False)
  | .refused .. => inferInstanceAs (Decidable False)

theorem ChatEvent.Closes.room_eq {r : Nat} {e : ChatEvent} (h : e.Closes r) : e.room = some r := by
  cases e with
  | closed room reason time => exact congrArg some h
  | said => exact h.elim
  | refused => exact h.elim

/-- Once a room is closed, it is in no later event. -/
def Silent (log : List ChatEvent) : Prop :=
  log.Pairwise fun e e' => ∀ r, e.Closes r → e'.room ≠ some r

/-- The messages that clients of a room have broadcast in it. -/
def spokenIn (log : List ChatEvent) (r : Nat) : List ChatMessage :=
  log.filterMap fun
    | .said room sentFrom message => if room = r ∧ sentFrom = r then some message else none
    | _ => none

/-- The end is no further away than a timer can wait. -/
def ChatRoom.Near (room : ChatRoom) : Prop := room.endsAt - room.checkedAt ≤ 2147483647

instance (room : ChatRoom) : Decidable room.Near := inferInstanceAs (Decidable (_ ≤ _))

namespace Server

def IsClosed (s : Server) (r : Nat) : Prop := ∃ e ∈ s.log, e.Closes r

instance (s : Server) (r : Nat) : Decidable (s.IsClosed r) :=
  inferInstanceAs (Decidable (∃ e ∈ s.log, e.Closes r))

/-- What every move keeps. -/
structure Consistent (s : Server) : Prop where
  active : ∀ c r, s.activeRooms c = some r ↔
    r < s.opened ∧ (s.rooms r).challengeId = c ∧ ¬ s.IsClosed r
  timer : ∀ r due, (s.rooms r).endTimer = some due →
    r < s.opened ∧ ¬ s.IsClosed r ∧ ((s.rooms r).Near → (s.rooms r).endsAt ≤ due)
  client : ∀ i, i < s.joined → (s.clients i).room < s.opened ∧
    (s.rooms (s.clients i).room).challengeId = (s.clients i).challengeId
  silent : Silent s.log
  inTime : ∀ r reason time, .closed r reason time ∈ s.log →
    reason = .serverShutdown ∨ ((s.rooms r).Near → (s.rooms r).endsAt ≤ time)
  known : ∀ e ∈ s.log, ∀ r, e.room = some r → r < s.opened
  history : ∀ r, r < s.opened → ¬ s.IsClosed r →
    (s.rooms r).history = (spokenIn s.log r).rtake MAX_HISTORY_MESSAGES
  voices : ∀ r sentFrom message, .said r sentFrom message ∈ s.log →
    sentFrom = r ∨ s.IsClosed sentFrom

section

variable {s : Server}

theorem Consistent.start (now : Int) : (start now).Consistent where
  active c r := by simp [Server.start]
  timer r due h := by cases h
  client i h := absurd h (Nat.not_lt_zero i)
  silent := List.Pairwise.nil
  inTime r reason time h := absurd h List.not_mem_nil
  known e h := absurd h List.not_mem_nil
  history r h := absurd h (Nat.not_lt_zero r)
  voices r sentFrom message h := absurd h List.not_mem_nil

/-! ### Moves that no event comes from -/

theorem Consistent.tick (h : s.Consistent) (ms : Nat) : { s with now := s.now + ms }.Consistent where
  __ := h

theorem Consistent.setTimestamps (h : s.Consistent) (i : Nat) (times : List Int) :
    (s.setTimestamps i times).Consistent where
  __ := h
  client j hj := by
    have hsame : ((s.setTimestamps i times).clients j).room = (s.clients j).room ∧
        ((s.setTimestamps i times).clients j).challengeId = (s.clients j).challengeId := by
      unfold Server.setTimestamps
      by_cases hji : j = i
      · subst hji
        simp
      · simp [hji]
    rw [hsame.1, hsame.2]
    exact h.client j hj

/-- What no move does to a room: its challenge and its end stay, and a timer is not set anew. -/
structure SameTerms (room room' : ChatRoom) : Prop where
  challengeId : room'.challengeId = room.challengeId
  endsAt : room'.endsAt = room.endsAt
  checkedAt : room'.checkedAt = room.checkedAt
  endTimer : ∀ due, room'.endTimer = some due → room.endTimer = some due

/-- What a move does to a room without an event: its clients, and the end of its timer. -/
structure Keeps (room room' : ChatRoom) : Prop extends SameTerms room room' where
  history : room'.history = room.history

theorem SameTerms.refl (room : ChatRoom) : SameTerms room room := ⟨rfl, rfl, rfl, fun _ h => h⟩

theorem SameTerms.near {room room' : ChatRoom} (h : SameTerms room room') :
    room'.Near ↔ room.Near := by
  rw [ChatRoom.Near, ChatRoom.Near, h.endsAt, h.checkedAt]

theorem Consistent.keeps (h : s.Consistent) {rooms : Nat → ChatRoom}
    (hrooms : ∀ r, Keeps (s.rooms r) (rooms r)) : { s with rooms := rooms }.Consistent where
  active c r := by
    rw [h.active c r, (hrooms r).challengeId]
    rfl
  timer r due hdue := by
    obtain ⟨hlt, hopen, hend⟩ := h.timer r due ((hrooms r).endTimer due hdue)
    refine ⟨hlt, hopen, ?_⟩
    rw [(hrooms r).near, (hrooms r).endsAt]
    exact hend
  client i hi := by
    obtain ⟨hlt, hsame⟩ := h.client i hi
    exact ⟨hlt, (hrooms _).challengeId.trans hsame⟩
  silent := h.silent
  inTime r reason time hmem := by
    rw [(hrooms r).near, (hrooms r).endsAt]
    exact h.inTime r reason time hmem
  known := h.known
  history r hlt hopen := (hrooms r).history.trans (h.history r hlt hopen)
  voices := h.voices

theorem Keeps.refl (room : ChatRoom) : Keeps room room := ⟨.refl room, rfl⟩

theorem Consistent.updateRoom (h : s.Consistent) (r : Nat) {f : ChatRoom → ChatRoom}
    (hf : Keeps (s.rooms r) (f (s.rooms r))) : (s.updateRoom r f).Consistent := by
  refine h.keeps fun r' => ?_
  by_cases hr : r' = r
  · subst hr
    simpa using hf
  · simpa [hr] using Keeps.refl (s.rooms r')

theorem Consistent.addClient (h : s.Consistent) {r : Nat} {c : Text} (hr : r < s.opened)
    (hc : (s.rooms r).challengeId = c) (user : ChatUser) : (s.addClient r c user).Consistent := by
  have hupdate := h.updateRoom r (f := fun room => { room with clients := room.clients ++ [s.joined] })
    ⟨⟨rfl, rfl, rfl, fun _ hdue => hdue⟩, rfl⟩
  refine { hupdate with client := fun i hi => ?_ }
  have hroom : ((s.addClient r c user).rooms r).challengeId = c := by
    simp [Server.addClient, Server.updateRoom, hc]
  by_cases hnew : i = s.joined
  · subst hnew
    have hclient : (s.addClient r c user).clients s.joined =
        { user with room := r, challengeId := c, messageTimestamps := [] } := by
      simp [Server.addClient]
    rw [hclient]
    exact ⟨hr, hroom⟩
  · have hclient : (s.addClient r c user).clients i = s.clients i := by
      simp [Server.addClient, hnew]
    have hlt : i < s.joined := by
      have : i < s.joined + 1 := hi
      omega
    rw [hclient]
    exact hupdate.client i hlt

/-! ### Events are added -/

/-- A move with events, all of them in rooms that are open. -/
structure Extends (s s' : Server) (events : List ChatEvent) : Prop where
  log : s'.log = s.log ++ events
  opened : s'.opened = s.opened
  clients : s'.clients = s.clients
  joined : s'.joined = s.joined
  rooms : ∀ r, SameTerms (s.rooms r) (s'.rooms r)
  inOpen : ∀ e ∈ events, ∀ r, e.room = some r → r < s.opened ∧ ¬ s.IsClosed r

/-- One of the events closes the room. -/
def Closing (events : List ChatEvent) (r : Nat) : Prop := ∃ e ∈ events, e.Closes r

section Extends

variable {s' : Server} {events : List ChatEvent}

theorem Extends.mem_log (hext : Extends s s' events) {e : ChatEvent} :
    e ∈ s'.log ↔ e ∈ s.log ∨ e ∈ events := by
  rw [hext.log, List.mem_append]

theorem Extends.isClosed (hext : Extends s s' events) (r : Nat) :
    s'.IsClosed r ↔ s.IsClosed r ∨ Closing events r := by
  unfold IsClosed Closing
  simp only [hext.mem_log, or_and_right, exists_or]

/-- Nothing is said or closed in a room that was closed before. -/
theorem Extends.silent (hext : Extends s s' events) (h : Silent s.log) (honce : Silent events) :
    Silent s'.log := by
  rw [hext.log]
  refine List.pairwise_append.mpr ⟨h, honce, fun e he e' he' r hcloses hroom => ?_⟩
  exact (hext.inOpen e' he' r hroom).2 ⟨e, he, hcloses⟩

/-- A timer that is left was there before, if the rooms that are closed lose theirs. -/
theorem Extends.timer (hext : Extends s s' events) (h : s.Consistent)
    (hstopped : ∀ r, Closing events r → (s'.rooms r).endTimer = none) {r : Nat} {due : Int}
    (hdue : (s'.rooms r).endTimer = some due) :
    r < s'.opened ∧ ¬ s'.IsClosed r ∧ ((s'.rooms r).Near → (s'.rooms r).endsAt ≤ due) := by
  have hstays : ¬ Closing events r := by
    intro hr
    rw [hstopped r hr] at hdue
    cases hdue
  obtain ⟨hlt, hnot, hend⟩ := h.timer r due ((hext.rooms r).endTimer due hdue)
  rw [hext.opened, hext.isClosed, (hext.rooms r).near, (hext.rooms r).endsAt]
  exact ⟨hlt, fun hor => hor.elim hnot hstays, hend⟩

/-- **What a move with events has to see to**: the map and the timers of the rooms that it closes,
the history, and that the events themselves are in order. -/
theorem Consistent.extend (h : s.Consistent) (hext : Extends s s' events)
    (hactive : ∀ c r, s'.activeRooms c = some r ↔ s.activeRooms c = some r ∧ ¬ Closing events r)
    (hstopped : ∀ r, Closing events r → (s'.rooms r).endTimer = none)
    (honce : Silent events)
    (htime : ∀ r reason time, .closed r reason time ∈ events →
      reason = .serverShutdown ∨ ((s.rooms r).Near → (s.rooms r).endsAt ≤ time))
    (hhistory : ∀ r, r < s.opened → ¬ s.IsClosed r → ¬ Closing events r →
      (s'.rooms r).history = (spokenIn s'.log r).rtake MAX_HISTORY_MESSAGES)
    (hvoices : ∀ r sentFrom message, .said r sentFrom message ∈ events →
      sentFrom = r ∨ s.IsClosed sentFrom) : s'.Consistent where
  active c r := by
    rw [hactive, h.active, hext.opened, (hext.rooms r).challengeId, hext.isClosed]
    tauto
  timer r due hdue := hext.timer h hstopped hdue
  client i hi := by
    rw [hext.joined] at hi
    rw [hext.clients, hext.opened, (hext.rooms _).challengeId]
    exact h.client i hi
  silent := hext.silent h.silent honce
  inTime r reason time hclose := by
    rw [(hext.rooms r).near, (hext.rooms r).endsAt]
    exact (hext.mem_log.mp hclose).elim (h.inTime r reason time) (htime r reason time)
  known e he r hroom := by
    rw [hext.opened]
    exact (hext.mem_log.mp he).elim (fun he => h.known e he r hroom)
      fun he => (hext.inOpen e he r hroom).1
  history r hlt hopen := by
    rw [hext.opened] at hlt
    rw [hext.isClosed, not_or] at hopen
    exact hhistory r hlt hopen.1 hopen.2
  voices r sentFrom message hsaid := by
    rw [hext.isClosed]
    rcases hext.mem_log.mp hsaid with hsaid | hsaid
    · exact (h.voices r sentFrom message hsaid).imp_right .inl
    · exact (hvoices r sentFrom message hsaid).imp_right .inl

end Extends

theorem spokenIn_append (log events : List ChatEvent) (r : Nat) :
    spokenIn (log ++ events) r = spokenIn log r ++ spokenIn events r := List.filterMap_append

theorem spokenIn_said (log : List ChatEvent) (room sentFrom : Nat) (message : ChatMessage)
    (r : Nat) : spokenIn (log ++ [.said room sentFrom message]) r =
      spokenIn log r ++ if room = r ∧ sentFrom = r then [message] else [] := by
  rw [spokenIn_append]
  congr 1
  by_cases hboth : room = r ∧ sentFrom = r
  · simp [spokenIn, hboth]
  · simp [spokenIn, hboth]

theorem Consistent.refuse (h : s.Consistent) (client : Nat) (error : ChatError) :
    (s.refuse client error).Consistent := by
  have hext : Extends s (s.refuse client error) [.refused client error] :=
    { log := rfl, opened := rfl, clients := rfl, joined := rfl
      rooms := fun r => .refl _
      inOpen := fun e he r hroom => by
        rw [List.mem_singleton.mp he] at hroom
        cases hroom }
  have hnone (r : Nat) : ¬ Closing [.refused client error] r := by simp [Closing, ChatEvent.Closes]
  refine h.extend hext (fun c r => (and_iff_left (hnone r)).symm) (fun r hr => absurd hr (hnone r))
    (List.pairwise_singleton _ _) (by simp) (fun r hlt hopen _ => ?_) (by simp)
  rw [hext.log, spokenIn_append, show spokenIn [.refused client error] r = [] from rfl,
    List.append_nil]
  exact h.history r hlt hopen

/-! ### A room is made -/

theorem nodeDelay_of_near {delay : Int} (h : delay ≤ 2147483647) :
    delay ≤ nodeDelay (max 100 delay) := by
  unfold nodeDelay
  split
  · omega
  · omega

theorem not_isClosed_opened (h : s.Consistent) : ¬ s.IsClosed s.opened := by
  intro hclosed
  obtain ⟨e, he, hcloses⟩ := hclosed
  exact absurd (h.known e he _ hcloses.room_eq) (lt_irrefl _)

theorem spokenIn_unknown {log : List ChatEvent} {r : Nat} (h : ∀ e ∈ log, e.room ≠ some r) :
    spokenIn log r = [] := by
  refine List.filterMap_eq_nil_iff.mpr fun e he => ?_
  cases e with
  | said room sentFrom message =>
    have hne : room ≠ r := fun heq => h _ he (congrArg some heq)
    simp [hne]
  | closed => rfl
  | refused => rfl

/-- A new room for a challenge that has none. -/
theorem Consistent.made (h : s.Consistent) {s' : Server}
    (hnone : s.activeRooms (s'.rooms s.opened).challengeId = none)
    (hhistory : (s'.rooms s.opened).history = [])
    (htimer : ∀ due, (s'.rooms s.opened).endTimer = some due → (s'.rooms s.opened).Near →
      (s'.rooms s.opened).endsAt ≤ due)
    (hrooms : ∀ r, r ≠ s.opened → s'.rooms r = s.rooms r) (hopened : s'.opened = s.opened + 1)
    (hactive : s'.activeRooms =
      Function.update s.activeRooms (s'.rooms s.opened).challengeId (some s.opened))
    (hclients : s'.clients = s.clients) (hjoined : s'.joined = s.joined) (hlog : s'.log = s.log) :
    s'.Consistent := by
  have hclosed (r : Nat) : s'.IsClosed r ↔ s.IsClosed r := by rw [IsClosed, IsClosed, hlog]
  have hfresh := not_isClosed_opened h
  have hold {r : Nat} (hr : r < s.opened) : s'.rooms r = s.rooms r := hrooms r (by omega)
  constructor
  · intro c r
    rw [hactive, hopened, hclosed]
    by_cases hnew : r = s.opened
    · subst hnew
      -- the new room is the active one of its challenge only
      by_cases hc : c = (s'.rooms s.opened).challengeId
      · simp [hc, hfresh]
      · have hother : s.activeRooms c ≠ some s.opened := by
          intro hsome
          exact absurd ((h.active c _).mp hsome).1 (lt_irrefl _)
        simp [hc, hother, Ne.symm hc]
    · have hlt : r < s.opened + 1 ↔ r < s.opened := by omega
      rw [hrooms r hnew, hlt, ← h.active c r]
      by_cases hc : c = (s'.rooms s.opened).challengeId
      · rw [hc, Function.update_self, hnone]
        simp [Ne.symm hnew]
      · rw [Function.update_of_ne hc]
  · intro r due hdue
    rw [hopened, hclosed]
    by_cases hnew : r = s.opened
    · subst hnew
      exact ⟨by omega, hfresh, htimer due hdue⟩
    · rw [hrooms r hnew] at hdue ⊢
      obtain ⟨hlt, hopen, hend⟩ := h.timer r due hdue
      exact ⟨by omega, hopen, hend⟩
  · intro i hi
    rw [hjoined] at hi
    obtain ⟨hlt, hc⟩ := h.client i hi
    rw [hclients, hopened, hold hlt]
    exact ⟨by omega, hc⟩
  · rw [hlog]
    exact h.silent
  · intro r reason time hclose
    rw [hlog] at hclose
    rw [hold (h.known _ hclose r rfl)]
    exact h.inTime r reason time hclose
  · intro e he r hroom
    rw [hlog] at he
    have hlt := h.known e he r hroom
    omega
  · intro r hlt hopen
    rw [hclosed] at hopen
    rw [hlog]
    by_cases hnew : r = s.opened
    · subst hnew
      -- nothing was said in a room that did not exist
      have hsilent : spokenIn s.log s.opened = [] :=
        spokenIn_unknown fun e he hroom => absurd (h.known e he _ hroom) (lt_irrefl _)
      rw [hhistory, hsilent]
      rfl
    · rw [hrooms r hnew]
      exact h.history r (by omega) hopen
  · intro r sentFrom message hsaid
    rw [hlog] at hsaid
    rw [hclosed]
    exact h.voices r sentFrom message hsaid

theorem Consistent.openRoom (h : s.Consistent) (c : Text) (endsAt checkedAt : Int)
    (hchecked : checkedAt ≤ s.now) :
    (s.openRoom c endsAt checkedAt).2.Consistent ∧
      (s.openRoom c endsAt checkedAt).1 < (s.openRoom c endsAt checkedAt).2.opened ∧
      ((s.openRoom c endsAt checkedAt).2.rooms (s.openRoom c endsAt checkedAt).1).challengeId =
        c := by
  unfold Server.openRoom
  cases hactive : s.activeRooms c with
  | some r =>
    obtain ⟨hlt, hc, -⟩ := (h.active c r).mp hactive
    exact ⟨h, hlt, hc⟩
  | none =>
    refine ⟨h.made ?_ ?_ ?_ ?_ rfl ?_ rfl rfl rfl, Nat.lt_succ_self _, by simp⟩
    · simpa using hactive
    · simp
    · intro due hdue hnear
      simp only [Function.update_self] at hdue hnear ⊢
      cases hdue
      have hdelay := nodeDelay_of_near hnear
      simp only at hdelay
      omega
    · intro r hr
      simp [hr]
    · simp

/-! ### A room is closed -/

/-- Rooms are closed, and nothing is said. -/
theorem Consistent.closed (h : s.Consistent) {s' : Server} (events : List ChatEvent)
    (hlog : s'.log = s.log ++ events) (hopened : s'.opened = s.opened)
    (hclients : s'.clients = s.clients) (hjoined : s'.joined = s.joined)
    (hrooms : ∀ r, Keeps (s.rooms r) (s'.rooms r))
    (hactive : ∀ c r, s'.activeRooms c = some r ↔ s.activeRooms c = some r ∧ ¬ Closing events r)
    (hstopped : ∀ r, Closing events r → (s'.rooms r).endTimer = none)
    (hevents : ∀ e ∈ events, ∃ r reason, e = .closed r reason s.now ∧
      (r < s.opened ∧ ¬ s.IsClosed r) ∧
      (reason = .serverShutdown ∨ ((s.rooms r).Near → (s.rooms r).endsAt ≤ s.now)))
    (honce : Silent events) : s'.Consistent := by
  have hext : Extends s s' events :=
    { log := hlog, opened := hopened, clients := hclients, joined := hjoined
      rooms := fun r => (hrooms r).toSameTerms
      inOpen := fun e he r hroom => by
        obtain ⟨r', reason, rfl, hopen, -⟩ := hevents e he
        obtain rfl : r' = r := Option.some.inj hroom
        exact hopen }
  refine h.extend hext hactive hstopped honce ?_ ?_ ?_
  · intro r reason time hclose
    obtain ⟨r', reason', heq, -, htime⟩ := hevents _ hclose
    cases heq
    exact htime
  · intro r hlt hopen _
    have hnone : spokenIn events r = [] := by
      refine List.filterMap_eq_nil_iff.mpr fun e he => ?_
      obtain ⟨r', reason, rfl, -⟩ := hevents e he
      rfl
    rw [hlog, spokenIn_append, hnone, List.append_nil, (hrooms r).history]
    exact h.history r hlt hopen
  · intro r sentFrom message hsaid
    obtain ⟨r', reason, heq, -⟩ := hevents _ hsaid
    cases heq

theorem Consistent.closeRoom (h : s.Consistent) (c : Text) (reason : CloseReason)
    (hreason : ∀ r, s.activeRooms c = some r → reason = .serverShutdown ∨
      ((s.rooms r).Near → (s.rooms r).endsAt ≤ s.now)) : (s.closeRoom c reason).Consistent := by
  unfold Server.closeRoom
  cases hactive : s.activeRooms c with
  | none => exact h
  | some r =>
    obtain ⟨hlt, hc, hopen⟩ := (h.active c r).mp hactive
    have hclosing (r' : Nat) : Closing [.closed r reason s.now] r' ↔ r' = r := by
      simp [Closing, ChatEvent.Closes, eq_comm]
    refine h.closed [.closed r reason s.now] rfl rfl rfl rfl ?_ ?_ ?_ ?_
      (List.pairwise_singleton _ _)
    · intro r'
      by_cases hr : r' = r
      · subst hr
        simp only [Server.updateRoom, Function.update_self]
        exact ⟨⟨rfl, rfl, rfl, fun _ hdue => nomatch hdue⟩, rfl⟩
      · simpa [Server.updateRoom, hr] using Keeps.refl (s.rooms r')
    · intro c' r'
      rw [hclosing]
      by_cases hc' : c' = c
      · subst hc'
        simp only [Function.update_self, hactive, Option.some.injEq]
        simp [eq_comm]
      · have hother : s.activeRooms c' = some r' → r' ≠ r := by
          intro hsome hr
          rw [hr] at hsome
          exact hc' (((h.active c' r).mp hsome).2.1.symm.trans hc)
        simp only [Function.update_of_ne hc']
        exact (and_iff_left_of_imp hother).symm
    · intro r' hr'
      obtain rfl := (hclosing r').mp hr'
      simp [Server.updateRoom]
    · intro e he
      exact ⟨r, reason, List.mem_singleton.mp he, ⟨hlt, hopen⟩, hreason r hactive⟩

theorem Consistent.cleanup (h : s.Consistent) (client : Nat) : (s.cleanup client).Consistent := by
  unfold Server.cleanup
  simp only
  cases hactive : s.activeRooms (s.clients client).challengeId with
  | none => exact h
  | some r =>
    have hleft := h.updateRoom r (f := fun room => { room with clients := room.clients.erase client })
      ⟨⟨rfl, rfl, rfl, fun _ hdue => hdue⟩, rfl⟩
    simp only
    split
    next hempty =>
      refine hleft.closeRoom _ _ fun r' hr' => .inr fun _ => ?_
      obtain rfl : r = r' := Option.some.inj (hactive.symm.trans hr')
      exact hempty.2
    next => exact hleft

theorem Consistent.fireTimer (h : s.Consistent) (r : Nat) : (s.fireTimer r).Consistent := by
  unfold Server.fireTimer
  cases hdue : (s.rooms r).endTimer with
  | none => exact h
  | some due =>
    simp only
    split
    next hnow =>
      obtain ⟨hlt, hopen, hend⟩ := h.timer r due hdue
      have hkeeps : Keeps (s.rooms r) { s.rooms r with endTimer := none } :=
        ⟨⟨rfl, rfl, rfl, fun _ hsome => nomatch hsome⟩, rfl⟩
      refine (h.updateRoom r (f := fun room => { room with endTimer := none }) hkeeps).closeRoom _ _
        fun r' hr' => .inr fun hnear => ?_
      -- the room that the map has for the challenge is the one that the timer was set for
      have hactive := (h.active _ r).mpr ⟨hlt, rfl, hopen⟩
      obtain rfl : r = r' := Option.some.inj (hactive.symm.trans hr')
      simp only [Server.updateRoom, Function.update_self] at hnear ⊢
      exact (hend hnear).trans hnow
    next => exact h

theorem Consistent.resetChatRooms (h : s.Consistent) : s.resetChatRooms.Consistent := by
  have hisActive (r : Nat) : s.isActive r = true ↔ r < s.opened ∧ ¬ s.IsClosed r := by
    rw [Server.isActive, decide_eq_true_iff, h.active]
    simp
  have hclosing (r : Nat) : Closing (((List.range s.opened).filter s.isActive).map
      fun r => .closed r .serverShutdown s.now) r ↔ s.isActive r = true := by
    simp only [Closing, List.mem_map, List.mem_filter, List.mem_range, exists_exists_and_eq_and,
      ChatEvent.Closes, exists_eq_right, and_iff_right_iff_imp]
    exact fun hr => ((hisActive r).mp hr).1
  refine h.closed (((List.range s.opened).filter s.isActive).map
    fun r => .closed r .serverShutdown s.now) rfl rfl rfl rfl ?_ ?_ ?_ ?_ ?_
  · intro r
    show Keeps (s.rooms r) (if s.isActive r then _ else s.rooms r)
    split
    · exact ⟨⟨rfl, rfl, rfl, fun _ hsome => nomatch hsome⟩, rfl⟩
    · exact Keeps.refl _
  · intro c r
    show none = some r ↔ _
    rw [hclosing, h.active, hisActive]
    tauto
  · intro r hr
    show (if s.isActive r then _ else s.rooms r).endTimer = none
    rw [if_pos ((hclosing r).mp hr)]
  · intro e he
    obtain ⟨r, hr, rfl⟩ := List.mem_map.mp he
    exact ⟨r, .serverShutdown, rfl, (hisActive r).mp (List.mem_filter.mp hr).2, .inl rfl⟩
  · refine List.pairwise_map.mpr ((List.nodup_range.filter _).imp ?_)
    intro r r' hne r'' hcloses hroom
    obtain rfl : r = r'' := hcloses
    exact hne (Option.some.inj hroom).symm

/-! ### A message -/

/-- One more than the last messages, without the first if there are too many. -/
theorem remember_rtake (messages : List ChatMessage) (message : ChatMessage) :
    remember (messages.rtake MAX_HISTORY_MESSAGES) message =
      (messages ++ [message]).rtake MAX_HISTORY_MESSAGES := by
  unfold remember MAX_HISTORY_MESSAGES List.rtake
  simp only [List.length_append, List.length_drop, List.length_singleton]
  split
  next hmany =>
    have hlong : 50 ≤ messages.length := by omega
    have hnext : messages.length + 1 - 50 = messages.length - 50 + 1 := by omega
    have hne : messages.drop (messages.length - 50) ≠ [] := by
      rw [Ne, List.drop_eq_nil_iff]
      omega
    rw [List.tail_append_of_ne_nil hne, List.tail_drop, hnext,
      List.drop_append_of_le_length (by omega)]
  next hfew =>
    have hshort : messages.length - 50 = 0 ∧ messages.length + 1 - 50 = 0 := by omega
    rw [hshort.1, hshort.2]
    rfl

/-- A message for the history of one room that is broadcast in the room that is open for the
challenge. -/
def sayFrom (s : Server) (joined : Nat) (c : Text) (message : ChatMessage) : Server :=
  (s.updateRoom joined fun room =>
    { room with history := remember room.history message }).broadcastToRoom c joined message

theorem log_sayFrom (joined : Nat) (c : Text) (message : ChatMessage) :
    (s.sayFrom joined c message).log =
      s.log ++ (s.activeRooms c).toList.map fun r => .said r joined message := by
  unfold sayFrom Server.broadcastToRoom
  cases hactive : s.activeRooms c with
  | none => simp [Server.updateRoom, hactive]
  | some r => simp [Server.updateRoom, hactive]

theorem sayFrom_rest (joined : Nat) (c : Text) (message : ChatMessage) :
    (s.sayFrom joined c message).opened = s.opened ∧
      (s.sayFrom joined c message).activeRooms = s.activeRooms ∧
      (s.sayFrom joined c message).clients = s.clients ∧
      (s.sayFrom joined c message).joined = s.joined ∧
      (s.sayFrom joined c message).rooms = Function.update s.rooms joined
        { s.rooms joined with history := remember (s.rooms joined).history message } := by
  unfold sayFrom Server.broadcastToRoom
  split
  next => exact ⟨rfl, rfl, rfl, rfl, rfl⟩
  next => exact ⟨rfl, rfl, rfl, rfl, rfl⟩

theorem extends_sayFrom (h : s.Consistent) (joined : Nat) (c : Text) (message : ChatMessage) :
    Extends s (s.sayFrom joined c message)
      ((s.activeRooms c).toList.map fun r => .said r joined message) := by
  obtain ⟨hopened, -, hclients, hjoined, hrooms⟩ := sayFrom_rest (s := s) joined c message
  refine ⟨log_sayFrom joined c message, hopened, hclients, hjoined, fun r => ?_, ?_⟩
  · rw [hrooms]
    by_cases hr : r = joined
    · subst hr
      rw [Function.update_self]
      exact ⟨rfl, rfl, rfl, fun _ hdue => hdue⟩
    · rw [Function.update_of_ne hr]
      exact .refl _
  · intro e he r hroom
    obtain ⟨r', hr', rfl⟩ := List.mem_map.mp he
    obtain rfl : r' = r := Option.some.inj hroom
    obtain ⟨hlt, -, hopen⟩ := (h.active c r').mp (Option.mem_toList.mp hr')
    exact ⟨hlt, hopen⟩

/-- What is remembered in an open room is what was said there. -/
theorem history_sayFrom (h : s.Consistent) {joined : Nat} {c : Text}
    (hsame : ¬ s.IsClosed joined → s.activeRooms c = some joined) (message : ChatMessage) {r : Nat}
    (hlt : r < s.opened) (hopen : ¬ s.IsClosed r) :
    ((s.sayFrom joined c message).rooms r).history =
      (spokenIn (s.sayFrom joined c message).log r).rtake MAX_HISTORY_MESSAGES := by
  obtain ⟨-, -, -, -, hrooms⟩ := sayFrom_rest (s := s) joined c message
  have hhistory := h.history r hlt hopen
  rw [hrooms, log_sayFrom]
  by_cases hroom : r = joined
  · subst hroom
    rw [Function.update_self, hsame hopen]
    show remember (s.rooms r).history message = (spokenIn (s.log ++ [_]) r).rtake _
    rw [hhistory, remember_rtake, spokenIn_said, if_pos ⟨rfl, rfl⟩]
  · rw [Function.update_of_ne hroom, hhistory]
    cases s.activeRooms c with
    | none => simp
    | some r' =>
      show _ = (spokenIn (s.log ++ [_]) r).rtake _
      rw [spokenIn_said, if_neg fun hboth => hroom hboth.2.symm, List.append_nil]

/-- The message goes to the history of the room that the client joined, and is said in the room
that is open for the challenge. If the first is open, they are the same. -/
theorem Consistent.say (h : s.Consistent) {client : Nat} (hclient : client < s.joined)
    (message : ChatMessage) :
    (s.sayFrom (s.clients client).room (s.clients client).challengeId message).Consistent := by
  obtain ⟨hlt, hc⟩ := h.client client hclient
  generalize (s.clients client).challengeId = c at hc ⊢
  generalize (s.clients client).room = joined at hlt hc ⊢
  have hsame : ¬ s.IsClosed joined → s.activeRooms c = some joined := fun hopen =>
    (h.active c joined).mpr ⟨hlt, hc, hopen⟩
  have hnone (r : Nat) : ¬ Closing ((s.activeRooms c).toList.map fun r => .said r joined message)
      r := by
    rintro ⟨e, he, hcloses⟩
    obtain ⟨r', -, rfl⟩ := List.mem_map.mp he
    exact hcloses
  refine h.extend (extends_sayFrom h joined c message) (fun c' r => ?_)
    (fun r hr => absurd hr (hnone r)) ?_ ?_
    (fun r hlt hopen _ => history_sayFrom h hsame message hlt hopen) ?_
  · rw [(sayFrom_rest joined c message).2.1]
    exact (and_iff_left (hnone r)).symm
  · exact List.pairwise_map.mpr (List.pairwise_of_forall fun _ _ _ hcloses => hcloses.elim)
  · intro r reason time hclose
    obtain ⟨r', -, heq⟩ := List.mem_map.mp hclose
    cases heq
  · intro r sentFrom message' hsaid
    obtain ⟨r', hr', heq⟩ := List.mem_map.mp hsaid
    cases heq
    by_cases hopen : s.IsClosed joined
    · exact .inr hopen
    · exact .inl (Option.some.inj ((hsame hopen).symm.trans (Option.mem_toList.mp hr')))

/-! ### Every move -/

theorem Consistent.handleText (h : s.Consistent) (parsePayload : Text → ChatPayload) {client : Nat}
    (hclient : client < s.joined) (text id : Text) :
    (s.handleText parsePayload client text id).Consistent := by
  unfold Server.handleText
  cases parsePayload text with
  | malformed => exact h.refuse client invalidJsonError
  | otherType => exact h
  | chat content =>
    simp only
    have hlimit := h.setTimestamps client
      (isRateLimited (s.clients client).messageTimestamps s.now).2
    split
    next => exact hlimit.refuse client rateLimitedError
    next =>
      split
      next => exact hlimit.refuse client invalidLengthError
      next =>
        have hclients : (s.setTimestamps client
            (isRateLimited (s.clients client).messageTimestamps s.now).2).clients client =
              { s.clients client with
                messageTimestamps :=
                  (isRateLimited (s.clients client).messageTimestamps s.now).2 } := by
          simp [Server.setTimestamps]
        have hsay := hlimit.say hclient
        rw [hclients] at hsay
        exact hsay _

theorem Consistent.handleFrame (h : s.Consistent) (parsePayload : Text → ChatPayload) {client : Nat}
    (hclient : client < s.joined) (frame : DecodedWsFrame) (id : Text) :
    (s.handleFrame parsePayload client frame id).Consistent := by
  unfold Server.handleFrame
  split
  · exact h.cleanup client
  · split
    · split
      · split
        · exact h
        · exact h.handleText parsePayload hclient _ id
      · exact h
    · exact h

theorem Consistent.join (h : s.Consistent) (c : Text) (user : ChatUser) (endsAt checkedAt : Int)
    (hchecked : checkedAt ≤ s.now) : (s.join c user endsAt checkedAt).Consistent := by
  obtain ⟨hopen, hlt, hc⟩ := h.openRoom c endsAt checkedAt hchecked
  exact hopen.addClient hlt hc user

theorem Consistent.step (h : s.Consistent) (parsePayload : Text → ChatPayload) (move : ChatMove) :
    (s.step parsePayload move).Consistent := by
  cases move with
  | tick ms => exact h.tick ms
  | join challengeId user challenge checkedAt =>
    simp only [Server.step]
    split
    · exact h
    · split
      next hchecked => exact h.join challengeId user _ checkedAt hchecked
      next => exact h
  | frame client frame id =>
    simp only [Server.step]
    split
    next hclient => exact h.handleFrame parsePayload hclient frame id
    next => exact h
  | leave client =>
    simp only [Server.step]
    split
    next => exact h.cleanup client
    next => exact h
  | timer room => exact h.fireTimer room
  | shutdown => exact h.resetChatRooms

theorem Consistent.after (parsePayload : Text → ChatPayload) (start : Int) (moves : List ChatMove) :
    (Server.after parsePayload start moves).Consistent := by
  unfold Server.after
  induction moves using List.reverseRecOn with
  | nil => exact Consistent.start start
  | append_singleton moves move ih =>
    rw [List.foldl_concat]
    exact ih.step parsePayload move

end

end Server

/-! ### The life of a room -/

/-- A room was closed when its challenge had ended, or with the server, at most once, and nothing
was said in it afterwards. -/
def LivesUntilEnd (s : Server) (r : Nat) : Prop :=
  (∀ reason time, .closed r reason time ∈ s.log →
    reason = .serverShutdown ∨ (s.rooms r).endsAt ≤ time) ∧
  (s.log.filter (·.Closes r)).length ≤ 1 ∧
  s.log.Pairwise fun e e' => e.Closes r → ∀ sentFrom message, e' ≠ .said r sentFrom message

theorem length_filter_closes {log : List ChatEvent} (h : Silent log) (r : Nat) :
    (log.filter (·.Closes r)).length ≤ 1 := by
  have hpair := List.Pairwise.filter (fun e : ChatEvent => decide (e.Closes r)) h
  have hmem {e : ChatEvent} (he : e ∈ log.filter (·.Closes r)) : e.Closes r :=
    of_decide_eq_true (List.mem_filter.mp he).2
  generalize log.filter (·.Closes r) = closings at hpair hmem ⊢
  match closings with
  | [] => simp
  | [e] => simp
  | e :: e' :: rest =>
    have hnot := (List.pairwise_cons.mp hpair).1 e' List.mem_cons_self r
      (hmem List.mem_cons_self)
    exact absurd (hmem (List.mem_cons_of_mem _ List.mem_cons_self)).room_eq hnot

theorem Server.Consistent.livesUntilEnd {s : Server} (h : s.Consistent) {r : Nat}
    (hnear : (s.rooms r).Near) : LivesUntilEnd s r := by
  refine ⟨fun reason time hclose => ?_, length_filter_closes h.silent r, ?_⟩
  · exact (h.inTime r reason time hclose).imp_right fun htime => htime hnear
  · refine List.Pairwise.imp ?_ h.silent
    rintro e e' hsilent hcloses sentFrom message rfl
    exact hsilent r hcloses rfl

/-- A first client, whose challenge ends in `distance` milliseconds; a millisecond; the timer. -/
def shortLife (distance : Int) : List ChatMove :=
  [.join [] default (some ⟨"active".toList, some distance⟩) 0, .tick 1, .timer 0]

theorem shortLife_spec (parsePayload : Text → ChatPayload) {distance : Int}
    (hfar : 2147483647 < distance) :
    let s := Server.after parsePayload 0 (shortLife distance)
    s.opened = 1 ∧ (s.rooms 0).endsAt = distance ∧ (s.rooms 0).checkedAt = 0 ∧
      s.log = [.closed 0 .challengeEnded 1] := by
  have hnot : ¬ distance ≤ 0 := by omega
  have hmax : max 100 distance = distance := by omega
  have hdelay : nodeDelay distance = 1 := if_pos (.inr hfar)
  simp [Server.after, shortLife, Server.step, verifyChallenge, hnot, Server.join, Server.openRoom,
    Server.start, Server.addClient, Server.updateRoom, hmax, hdelay, Server.fireTimer,
    Server.closeRoom]

/-- **A room lives until its challenge ends**, in every run, if and only if the end is less than
2^31 milliseconds away when its first client is let in. -/
theorem room_livesUntilEnd_iff (parsePayload : Text → ChatPayload) (distance : Int) :
    (∀ start moves r, r < (Server.after parsePayload start moves).opened →
      ((Server.after parsePayload start moves).rooms r).endsAt -
        ((Server.after parsePayload start moves).rooms r).checkedAt = distance →
      LivesUntilEnd (Server.after parsePayload start moves) r) ↔ distance ≤ 2147483647 := by
  constructor
  · intro h
    by_contra hfar
    obtain ⟨hopened, hends, hchecked, hlog⟩ := shortLife_spec parsePayload (not_le.mp hfar)
    have hlives := h 0 (shortLife distance) 0 (by omega) (by rw [hends, hchecked, sub_zero])
    rcases hlives.1 .challengeEnded 1 (by rw [hlog]; exact List.mem_singleton_self _) with
      hreason | htime
    · cases hreason
    · rw [hends] at htime
      omega
  · intro hnear start moves r _ hdistance
    exact (Server.Consistent.after parsePayload start moves).livesUntilEnd (hdistance.trans_le hnear)

/-- The room of a challenge of thirty days is closed after a millisecond. -/
theorem thirty_days_closed_at_once :
    let s := Server.after (fun _ => .malformed) 0 (shortLife 2592000000)
    (s.rooms 0).endsAt = 2592000000 ∧ s.log = [.closed 0 .challengeEnded 1] ∧
      ¬ LivesUntilEnd s 0 := by
  have hfar : (2147483647 : Int) < 2592000000 := by decide
  obtain ⟨-, hends, -, hlog⟩ := shortLife_spec (fun _ => .malformed) hfar
  refine ⟨hends, hlog, fun hlives => ?_⟩
  rcases hlives.1 .challengeEnded 1 (by rw [hlog]; exact List.mem_singleton_self _) with
    hreason | htime
  · cases hreason
  · rw [hends] at htime
    omega

end BrandBlitz.Chat
