import Mathlib.Logic.Equiv.Nat
import BrandBlitz.Lib.Authentic
import BrandBlitz.Payout.Integrity
import BrandBlitz.Sessions.Signing

/-!
# BrandBlitz.Payout.Tampering

**No payout for a score that was changed under its tag.** The answer route leaves a session with
the tag of its columns (`Sessions.Signing`). Whoever writes to these columns later, and to the tag,
without the key, has no tag for other values, nor for another session: the id is signed as well.

A row whose tag was deleted is not looked at.
-/

namespace BrandBlitz.Payout

open BrandBlitz.Lib
open BrandBlitz.Lib.NumberText (not_mem_digits toDigits_injective)
open BrandBlitz.Deposit (hexBytes)
open BrandBlitz.Paging (Timestamp)
open BrandBlitz.Sessions (GameSession CompletedByRoute tagOf)

/-! ### What is signed -/

/-- The values that go into a tag. -/
structure SignedValues where
  id : Text
  totalScore : Nat
  completedAt : Text
  colon_not_mem : ':' ∉ id

@[ext] theorem SignedValues.ext {v v' : SignedValues} (hid : v.id = v'.id)
    (htotal : v.totalScore = v'.totalScore) (htime : v.completedAt = v'.completedAt) : v = v' := by
  cases v
  cases v'
  cases hid
  cases htotal
  cases htime
  rfl

def SignedValues.text (v : SignedValues) : Text := signedText v.id v.totalScore v.completedAt

theorem colon_not_mem_toDigits (n : Nat) : ':' ∉ Nat.toDigits 10 n := not_mem_digits (by decide)

/-- The first two colons tell the values apart. -/
theorem text_injective : Function.Injective SignedValues.text := by
  intro v v' h
  unfold SignedValues.text signedText at h
  rw [List.append_assoc, List.append_assoc] at h
  obtain ⟨hid, h⟩ := Authentic.append_cons_inj_of_first v.colon_not_mem v'.colon_not_mem h
  obtain ⟨htotal, htime⟩ := Authentic.append_cons_inj_of_first (colon_not_mem_toDigits _)
    (colon_not_mem_toDigits _) h
  exact SignedValues.ext hid (toDigits_injective htotal) htime

/-! ### The sessions -/

/-- A session as the answer route left it, and its row now. -/
structure Stored where
  signed : GameSession
  row : SessionRow
  /-- The id is none of the columns that were written to. -/
  id : signed.id = uuidText row.id
  validTime : ∀ micros ∈ signed.completedAt, ValidTime ↑(micros / 1000)

section Check

variable (deps : IntegrityDeps) (s : Stored)

def Stored.signedValues : SignedValues where
  id := s.signed.id
  totalScore := s.signed.totalScore
  completedAt := deps.dateText ↑(s.signed.completedAt.getD 0 / 1000)
  colon_not_mem := by
    rw [s.id]
    exact colon_not_mem_uuidText s.row.id

def Stored.rowValues : SignedValues where
  id := uuidText s.row.id
  totalScore := s.row.totalScore
  completedAt := completedAtText deps s.row.read.completedAt
  colon_not_mem := colon_not_mem_uuidText s.row.id

/-- The bytes that are compared. -/
def mac (text : Text) : List Nat := hexBytes (deps.hmacSha256 deps.sessionIntegrityKey text)

/-- Nobody without the key has written a tag for values that were not signed. -/
def UnforgedTags (sessions : List Stored) : Prop :=
  ∀ s ∈ sessions, ∀ tag ∈ s.row.integrityHmac,
    Authentic.Unforged (mac deps) ((sessions.map (Stored.signedValues deps)).map SignedValues.text)
      (s.rowValues deps).text (hexBytes tag)

instance (sessions : List Stored) : Decidable (UnforgedTags deps sessions) :=
  inferInstanceAs (Decidable (∀ s ∈ sessions, ∀ tag ∈ s.row.integrityHmac, _ = _ → _ ∈ _))

/-- The tag has not been deleted. -/
def SessionRow.Tagged (row : SessionRow) : Prop := row.integrityHmac.getD [] ≠ []

instance (row : SessionRow) : Decidable row.Tagged := inferInstanceAs (Decidable (_ ≠ _))

/-- The stored tag reads as the one that the session was signed with. -/
def Stored.HasOwnTag : Prop :=
  hexBytes (s.row.integrityHmac.getD []) = hexBytes (tagOf deps.routeConfig s.signed)

def Stored.SameScore : Prop := s.row.totalScore = s.signed.totalScore

def Stored.SameTime : Prop :=
  s.row.completedAt = s.signed.completedAt.map fun (micros : Nat) => (micros : Timestamp)

def Stored.SameSecond : Prop :=
  s.row.completedAt.map (· / 1000000) =
    s.signed.completedAt.map fun (micros : Nat) => (micros : Timestamp) / 1000000

instance : Decidable (s.HasOwnTag deps) := inferInstanceAs (Decidable (_ = _))

instance : Decidable s.SameScore := inferInstanceAs (Decidable (_ = _))

instance : Decidable s.SameTime := inferInstanceAs (Decidable (_ = _))

variable {deps s}

theorem computeSessionHmac_eq (hkey : deps.sessionIntegrityKey ≠ []) (v : SignedValues) :
    computeSessionHmac deps v.id v.totalScore v.completedAt =
      deps.hmacSha256 deps.sessionIntegrityKey v.text :=
  if_neg (by simpa using hkey)

theorem hmacSha256_ne_nil (key text : Text) : deps.hmacSha256 key text ≠ [] := by
  intro h
  have hlength := deps.length_hmacSha256 key text
  simp [h] at hlength

theorem tagOf_eq (hkey : deps.sessionIntegrityKey ≠ []) :
    tagOf deps.routeConfig s.signed =
      deps.hmacSha256 deps.sessionIntegrityKey (s.signedValues deps).text := by
  rw [tagOf, computeSessionHmac_route]
  exact computeSessionHmac_eq hkey (s.signedValues deps)

theorem tagOf_ne_nil (hkey : deps.sessionIntegrityKey ≠ []) (session : GameSession) :
    tagOf deps.routeConfig session ≠ [] := by
  unfold tagOf
  rw [Sessions.computeSessionHmac, if_neg (by simpa [IntegrityDeps.routeConfig] using hkey)]
  exact hmacSha256_ne_nil _ _

/-- **What the check of a row comes down to.** -/
theorem verify_row_iff (hkey : deps.sessionIntegrityKey ≠ []) (soroban : Bool) :
    (deps.payoutConfig soroban).verifySessionHmac s.row.read = true ↔
      (s.row.Tagged → mac deps (s.rowValues deps).text =
        hexBytes (s.row.integrityHmac.getD [])) := by
  have hid : uuidText (BitVec.ofNat 128 s.row.read.id) = (s.rowValues deps).id := by
    simp [SessionRow.read, Stored.rowValues]
  have hcompute := computeSessionHmac_eq hkey (s.rowValues deps)
  show verifySessionHmac deps _ (s.rowValues deps).totalScore (s.rowValues deps).completedAt
    s.row.integrityHmac = true ↔ _
  rw [hid, verifySessionHmac, hcompute]
  by_cases htag : s.row.integrityHmac.getD [] = []
  · simp [htag, SessionRow.Tagged]
  · simp [htag, hkey, hmacSha256_ne_nil, SessionRow.Tagged, mac]

/-- The signed values of a completed session, and only its own, are in the row if a tag goes with
the row. -/
theorem rowValues_of_mac {sessions : List Stored} (hids : (sessions.map (·.row.id)).Nodup)
    (hunforged : UnforgedTags deps sessions) (hs : s ∈ sessions) (htag : s.row.Tagged)
    (hmac : mac deps (s.rowValues deps).text = hexBytes (s.row.integrityHmac.getD [])) :
    s.rowValues deps = s.signedValues deps ∧
      mac deps (s.signedValues deps).text = hexBytes (s.row.integrityHmac.getD []) := by
  obtain ⟨tag, htag⟩ : ∃ tag, s.row.integrityHmac = some tag := by
    cases hstored : s.row.integrityHmac with
    | none => exact absurd (by rw [hstored]; rfl) htag
    | some tag => exact ⟨tag, rfl⟩
  rw [htag] at hmac ⊢
  have hkeys : ((sessions.map (Stored.signedValues deps)).map SignedValues.id).Nodup := by
    have hids' : ((sessions.map (·.row.id)).map uuidText).Nodup := hids.map uuidText_injective
    rw [List.map_map] at hids' ⊢
    exact (congrArg List.Nodup (List.map_congr_left fun s _ => s.id)).mpr hids'
  exact (Authentic.authentic_iff text_injective hkeys (hunforged s hs tag htag)
    (List.mem_map_of_mem hs) s.id).mp hmac

/-- A row with the score and the time of the session has the values that were signed. -/
theorem rowValues_of_same (hscore : s.SameScore) (htime : s.SameTime)
    (hsome : s.signed.completedAt.isSome = true) : s.rowValues deps = s.signedValues deps := by
  obtain ⟨micros, hmicros⟩ := Option.isSome_iff_exists.mp hsome
  refine SignedValues.ext s.id.symm hscore ?_
  simp only [Stored.rowValues, Stored.signedValues, SessionRow.read, completedAtText]
  rw [htime, hmicros]
  simp

theorem second_of_millis {t t' : Int} (h : t / 1000 / 1000 = t' / 1000 / 1000) :
    t / 1000000 = t' / 1000000 := by
  omega

/-- The text of the time tells its second. -/
theorem sameSecond_of_values (hsome : s.signed.completedAt.isSome = true)
    (h : (s.rowValues deps).completedAt = (s.signedValues deps).completedAt) : s.SameSecond := by
  obtain ⟨micros, hmicros⟩ := Option.isSome_iff_exists.mp hsome
  have hvalid := s.validTime micros hmicros
  unfold Stored.SameSecond
  simp only [Stored.rowValues, Stored.signedValues, SessionRow.read, completedAtText, hmicros,
    Option.getD_some] at h
  cases htime : s.row.completedAt with
  | none =>
      rw [htime] at h
      exact absurd h.symm (deps.dateText_ne_nil _)
  | some t =>
      rw [htime] at h
      rw [hmicros, Option.map_some, Option.map_some]
      exact congrArg some (second_of_millis (deps.second_of_dateText _ _ hvalid h))

end Check

/-! ### The loop -/

section Loop

variable {deps : IntegrityDeps} {soroban : Bool} {challengeId : Text} {challenge : Challenge}
  {board : List Stored}

theorem goesPast_board_iff (hkey : deps.sessionIntegrityKey ≠ []) :
    GoesPast (afterLeaderboard (deps.payoutConfig soroban) challengeId challenge
        (board.map fun s => s.row.read)) ↔
      ∀ s ∈ board, s.row.Tagged → mac deps (s.rowValues deps).text =
        hexBytes (s.row.integrityHmac.getD []) := by
  rw [goesPast_iff, List.forall_mem_map]
  exact forall₂_congr fun s _ => verify_row_iff hkey soroban

end Loop

/-! ### Two sessions -/

def noonMicros : Nat := 1751371200123456

def noonText : Text := "Tue Jul 01 2025 12:00:00 GMT+0000 (Coordinated Universal Time)".toList

/-- The digests of the three texts that are looked at. -/
def exampleHmac (text : Text) : Text :=
  hexDigits 64 <|
    if text = signedText (uuidText 1) 300 noonText then
      0xd9086bdf010cc3bc6bfddd3d15ee0a28d6bfbf34a86f64fa8d0a27692fa34cc2
    else if text = signedText (uuidText 2) 300 noonText then
      0x90cc87d78372fa4252b0844f2d4b1074b272703d93d555f496d6c97d66bbe966
    else if text = signedText (uuidText 1) 450 noonText then
      0x35edc594e3ba798111bcf40c1de4b6ee80907c56173759d294488f4e05bc80e4
    else 0

/-- The text of the one second that is looked at. -/
def exampleDateText (t : Time) : Text :=
  if t / 1000 = 1751371200 then noonText
  else '#' :: Nat.toDigits 10 (Equiv.intEquivNat (t / 1000))

theorem second_of_exampleDateText {t t' : Time} (h : exampleDateText t' = exampleDateText t) :
    t' / 1000 = t / 1000 := by
  have hhead : noonText.head? = some 'T' := by decide
  unfold exampleDateText at h
  split at h <;> split at h
  · rename_i ht' ht
    rw [ht', ht]
  · rw [h] at hhead
    cases hhead
  · rw [← h] at hhead
    cases hhead
  · exact Equiv.intEquivNat.injective (toDigits_injective (List.cons.inj h).2)

def exampleDeps : IntegrityDeps where
  sessionIntegrityKey := "replace-with-at-least-32-random-chars".toList
  hmacSha256 _ := exampleHmac
  dateText := exampleDateText
  length_hmacSha256 _ _ := length_hexDigits 64 _
  dateText_ne_nil t := by
    unfold exampleDateText
    split
    · decide
    · exact List.cons_ne_nil _ _
  second_of_dateText _ _ _ h := second_of_exampleDateText h

/-- Two rounds are answered. -/
def openSession (id : BitVec 128) : GameSession where
  id := uuidText id
  userId := "player".toList
  challengeId := "challenge".toList
  status := .active
  challengeStartedAt := some 1
  completedAt := none
  rounds
    | .three => .unanswered
    | _ => ⟨some .A, 100, some 15000⟩
  totalScore := 0
  rank := none
  flagged := false
  isPractice := false
  integrityHmac := none

def openWorld (id : BitVec 128) : Sessions.World where
  db :=
    { session := some (openSession id)
      roundScores
        | .three => none
        | _ => some ⟨some .A, 100, some 15000⟩
      totalScore _ := 0
      challengesPlayed _ := 0
      additions := [] }
  challenges := ["challenge".toList]
  questions _ := [⟨.three, .A⟩]
  revoked _ := false
  cachedThresholds := some Sessions.defaultThresholds
  configThresholds := (none, none)
  leaderboards := []
  streakUpdates := []
  badgeChecks := []

def lastAnswer : Sessions.Request where
  apiKey := false
  token := some "token".toList
  payload := some ⟨"player".toList, false⟩
  challengeId := "challenge".toList
  round := some 3
  selectedOption := some (some .A)
  reactionTimeMs := some 15000

def answered (id : BitVec 128) : Except ApiError Sessions.Response × Sessions.World :=
  (Sessions.answer exampleDeps.routeConfig lastAnswer).run Sessions.answerMachine
    (fun _ => ⟨none, noonMicros⟩) (openWorld id)

def exampleTag (id : BitVec 128) : Text := exampleHmac (signedText (uuidText id) 300 noonText)

/-- What the request leaves. -/
def completedSession (id : BitVec 128) : GameSession :=
  { openSession id with
    status := .completed
    completedAt := some noonMicros
    rounds := Function.update (openSession id).rounds .three ⟨some .A, 100, some 15000⟩
    totalScore := 300
    integrityHmac := some (exampleTag id) }

theorem completedByRoute_first : CompletedByRoute exampleDeps.routeConfig (completedSession 1) := by
  have hrun : (answered 1).1 = .ok (.scored true 100 .three (some (uuidText 1))) := rfl
  have hsession : (answered 1).2.db.session = some (completedSession 1) := rfl
  exact CompletedByRoute.alone (Prod.ext hrun rfl) hsession

theorem completedByRoute_second :
    CompletedByRoute exampleDeps.routeConfig (completedSession 2) := by
  have hrun : (answered 2).1 = .ok (.scored true 100 .three (some (uuidText 2))) := rfl
  have hsession : (answered 2).2.db.session = some (completedSession 2) := rfl
  exact CompletedByRoute.alone (Prod.ext hrun rfl) hsession

theorem noon_validTime : ∀ micros ∈ some noonMicros, ValidTime ↑(micros / 1000) := by
  decide

/-- The first session, and a row with its id and its time. -/
def firstStored (totalScore : Nat) (tag : Option Text) : Stored where
  signed := completedSession 1
  row := ⟨1, 1, none, totalScore, some noonMicros, 0, tag⟩
  id := rfl
  validTime := noon_validTime

def secondStored (totalScore : Nat) (tag : Option Text) : Stored where
  signed := completedSession 2
  row := ⟨2, 2, none, totalScore, some noonMicros, 0, tag⟩
  id := rfl
  validTime := noon_validTime

def honest : List Stored :=
  [firstStored 300 (some (exampleTag 1)), secondStored 300 (some (exampleTag 2))]

/-- The first total was raised under its tag. -/
def raised : List Stored :=
  [firstStored 450 (some (exampleTag 1)), secondStored 300 (some (exampleTag 2))]

def exampleChallenge : Challenge :=
  { (World.ended 1000000000 []).challenge with id := "challenge".toList }

/-- The loop on these rows. -/
def ExamplePaid (board : List Stored) : Prop :=
  GoesPast (afterLeaderboard (exampleDeps.payoutConfig true) "challenge".toList exampleChallenge
    (board.map fun s => s.row.read))

theorem completedByRoute_stored {board : List Stored}
    (h : board.map (·.signed) = [completedSession 1, completedSession 2]) :
    ∀ s ∈ board, CompletedByRoute exampleDeps.routeConfig s.signed := by
  intro s hs
  have hsigned := List.mem_map_of_mem (f := (·.signed)) hs
  rw [h] at hsigned
  rcases List.mem_pair.mp hsigned with heq | heq
  · rw [heq]
    exact completedByRoute_first
  · rw [heq]
    exact completedByRoute_second

/-- The tags of two rows were exchanged. -/
def swapped : List Stored :=
  [firstStored 300 (some (exampleTag 2)), secondStored 300 (some (exampleTag 1))]

/-- The first total was raised, and its tag deleted. -/
def untagged : List Stored := [firstStored 450 none, secondStored 300 (some (exampleTag 2))]

/-- The first session was completed half a second later, in the same second. -/
def shifted : List Stored :=
  [{ firstStored 300 (some (exampleTag 1)) with
      row := ⟨1, 1, none, 300, some (noonMicros + 500000), 0, some (exampleTag 1)⟩
      id := rfl },
    secondStored 300 (some (exampleTag 2))]

/-- Every session has its score and its time. -/
def Unchanged (board : List Stored) : Prop := ∀ s ∈ board, s.SameScore ∧ s.SameTime

instance (board : List Stored) : Decidable (Unchanged board) :=
  inferInstanceAs (Decidable (∀ s ∈ board, _ ∧ _))

end BrandBlitz.Payout
