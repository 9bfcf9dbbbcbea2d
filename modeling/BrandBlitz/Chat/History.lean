import BrandBlitz.Chat.RoomLife
import BrandBlitz.Lib.Windows
import Mathlib.Algebra.Order.Ring.Int
import Mathlib.Order.Interval.Set.Basic

/-!
# BrandBlitz.Chat.History

**The rate limit of a client and the history of a room** (`isRateLimited` and the handler of chat
messages in `apps/api/src/routes/challenges.chat.ts`).

The limit keeps the times of the last messages only. What it has dropped is too old to count at any
later time, so it decides as if it had kept them all.

The clients of a room are those that joined it. Somebody who joined an earlier room of the challenge
is heard in the room as well, but that room is closed, and the message is in its history.
-/

namespace BrandBlitz.Chat

open BrandBlitz.Lib

/-! ### The rate limit -/

/-- The times that are kept, and all times of admitted messages, one after the other. -/
def rateLimit (times : List Int) : List Int × List Int :=
  times.foldl (fun s now =>
    let limit := isRateLimited s.1 now
    (limit.2, if limit.1 then s.2 else s.2 ++ [now])) ([], [])

theorem rateLimit_concat (times : List Int) (now : Int) :
    rateLimit (times ++ [now]) =
      ((isRateLimited (rateLimit times).1 now).2,
        if (isRateLimited (rateLimit times).1 now).1 then (rateLimit times).2
        else (rateLimit times).2 ++ [now]) := List.foldl_concat ..

/-- The times that a message at `now` is counted with. -/
def recentTimes (now : Int) (times : List Int) : List Int :=
  times.filter fun t => now - t < RATE_LIMIT_WINDOW_MS

theorem isRateLimited_eq (times : List Int) (now : Int) :
    isRateLimited times now =
      if RATE_LIMIT_MAX_MESSAGES ≤ (recentTimes now times).length then
        (true, recentTimes now times)
      else (false, recentTimes now times ++ [now]) := rfl

theorem isRateLimited_eq_false_iff (times : List Int) (now : Int) :
    (isRateLimited times now).1 = false ↔
      (recentTimes now times).length < RATE_LIMIT_MAX_MESSAGES := by
  rw [isRateLimited_eq]
  split
  next hmany => simp [Nat.not_lt.mpr hmany]
  next hfew => simp [Nat.not_le.mp hfew]

/-- What is recent at a later time is recent at an earlier one. -/
theorem recentTimes_recentTimes {now later : Int} (h : now ≤ later) (times : List Int) :
    recentTimes later (recentTimes now times) = recentTimes later times := by
  unfold recentTimes
  rw [List.filter_filter]
  refine List.filter_congr fun t _ => ?_
  have himp : later - t < RATE_LIMIT_WINDOW_MS → now - t < RATE_LIMIT_WINDOW_MS := by omega
  by_cases hlater : later - t < RATE_LIMIT_WINDOW_MS
  · simp [hlater, himp hlater]
  · simp [hlater]

/-- From the last message on, no admitted message is missing. -/
theorem rateLimit_recent {times : List Int} (hsorted : times.Pairwise (· ≤ ·)) {now : Int}
    (hnow : ∀ t ∈ times, t ≤ now) :
    recentTimes now (rateLimit times).1 = recentTimes now (rateLimit times).2 := by
  induction times using List.reverseRecOn generalizing now with
  | nil => rfl
  | append_singleton times last ih =>
    obtain ⟨hbefore, -, hlast⟩ := List.pairwise_append.mp hsorted
    have hle : last ≤ now := hnow last (by simp)
    have hrecent : recentTimes now (rateLimit times).1 = recentTimes now (rateLimit times).2 :=
      ih hbefore fun t ht => hnow t (List.mem_append_left _ ht)
    have hkept := recentTimes_recentTimes hle (rateLimit times).1
    rw [rateLimit_concat, isRateLimited_eq]
    split
    next => exact hkept.trans hrecent
    next =>
      simp only [recentTimes, List.filter_append] at hkept hrecent ⊢
      rw [hkept, hrecent, if_neg (by decide), List.filter_append]

/-- A message is admitted if fewer than five admitted ones are recent. -/
theorem admitted_iff {times : List Int} {now : Int}
    (hsorted : (times ++ [now]).Pairwise (· ≤ ·)) :
    (isRateLimited (rateLimit times).1 now).1 = false ↔
      (recentTimes now (rateLimit times).2).length < RATE_LIMIT_MAX_MESSAGES := by
  obtain ⟨hbefore, -, hlast⟩ := List.pairwise_append.mp hsorted
  rw [isRateLimited_eq_false_iff, rateLimit_recent hbefore fun t ht =>
    hlast t ht now (List.mem_singleton_self now)]

/-- Of the admitted messages, no half-open window of five seconds has more than five. -/
theorem length_window_le {times : List Int} (hsorted : times.Pairwise (· ≤ ·)) (start : Int) :
    ((rateLimit times).2.filter fun t =>
      t ∈ Set.Ico start (start + RATE_LIMIT_WINDOW_MS)).length ≤ RATE_LIMIT_MAX_MESSAGES := by
  induction times using List.reverseRecOn with
  | nil => exact Nat.zero_le _
  | append_singleton times now ih =>
    have hwindow := ih (List.pairwise_append.mp hsorted).1
    rw [rateLimit_concat]
    cases hlimited : (isRateLimited (rateLimit times).1 now).1 with
    | true => exact hwindow
    | false =>
      refine Windows.length_narrow_append_le (Windows.narrow_Ico _ start) hwindow ?_
      have hfew := (admitted_iff hsorted).mp hlimited
      have hsame : (fun t : Int => decide (now - RATE_LIMIT_WINDOW_MS < t)) =
          fun t => decide (now - t < RATE_LIMIT_WINDOW_MS) := by
        funext t
        congr 1
        rw [eq_iff_iff]
        omega
      rw [hsame]
      exact hfew

/-! ### Both -/

/-- The last messages of a list, no more than fifty. -/
def lastMessages (messages : List ChatMessage) : List ChatMessage :=
  messages.drop (messages.length - min MAX_HISTORY_MESSAGES messages.length)

theorem history_eq_lastMessages (parsePayload : Text → ChatPayload) (start : Int)
    (moves : List ChatMove) {c : Text} {r : Nat}
    (hactive : (Server.after parsePayload start moves).activeRooms c = some r) :
    ((Server.after parsePayload start moves).rooms r).history =
      lastMessages (spokenIn (Server.after parsePayload start moves).log r) := by
  have h := Server.Consistent.after parsePayload start moves
  obtain ⟨hlt, -, hopen⟩ := (h.active c r).mp hactive
  rw [h.history r hlt hopen, lastMessages, List.rtake]
  congr 1
  omega

/-- **The limit and the history.** A message is admitted if and only if fewer than five admitted
ones are less than five seconds old, so that no window of five seconds has more than five; and in
every run, the history of an open room is the last fifty messages that its clients have broadcast
in it, or all of them. What else is said in the room comes from clients of a room that is closed. -/
theorem rate_limit_and_history :
    (∀ times now, (times ++ [now]).Pairwise (· ≤ ·) →
      ((isRateLimited (rateLimit times).1 now).1 = false ↔
        ((rateLimit times).2.filter fun t => now - t < 5000).length < 5)) ∧
    (∀ times, times.Pairwise (· ≤ ·) → ∀ start,
      ((rateLimit times).2.filter fun t => t ∈ Set.Ico start (start + 5000)).length ≤ 5) ∧
    ∀ parsePayload start moves,
      (∀ c r, (Server.after parsePayload start moves).activeRooms c = some r →
        ((Server.after parsePayload start moves).rooms r).history =
          lastMessages (spokenIn (Server.after parsePayload start moves).log r)) ∧
      ∀ r sentFrom message,
        .said r sentFrom message ∈ (Server.after parsePayload start moves).log →
        sentFrom = r ∨ (Server.after parsePayload start moves).IsClosed sentFrom := by
  refine ⟨fun times now hsorted => admitted_iff hsorted,
    fun times hsorted start => length_window_le hsorted start, fun parsePayload start moves => ?_⟩
  exact ⟨fun c r hactive => history_eq_lastMessages parsePayload start moves hactive,
    (Server.Consistent.after parsePayload start moves).voices⟩

/-- Somebody joins and says something. -/
def oneMessage : List ChatMove :=
  [.join [] default (some ⟨"active".toList, some 60000⟩) 0, .tick 10,
    .frame 0 ⟨1, [], some "\x7b\"type\":\"chat\",\"content\":\"hi\"\x7d".toList, true⟩ "id".toList]

theorem sixth_message_and_first_history :
    (isRateLimited (rateLimit [0, 1, 2, 3, 4]).1 4999).1 = true ∧
      ((rateLimit [0, 1, 2, 3, 4, 4999, 5000]).2.filter (· ∈ Set.Ico 0 5000)).length ≤ 5 ∧
      ((Server.after (fun _ => .chat (some "hi".toList)) 0 oneMessage).rooms 0).history =
        lastMessages [⟨default, "id".toList, [], "hi".toList, 10⟩] := by
  refine ⟨?_, rate_limit_and_history.2.1 _ (by decide) 0,
    (rate_limit_and_history.2.2 (fun _ => .chat (some "hi".toList)) 0 oneMessage).1 [] 0 rfl⟩
  by_contra hadmitted
  rw [Bool.not_eq_true] at hadmitted
  exact absurd ((rate_limit_and_history.1 [0, 1, 2, 3, 4] 4999 (by decide)).mp hadmitted) (by decide)

end BrandBlitz.Chat
