import BrandBlitz.Retention.Archive

/-!
# BrandBlitz.Retention.Erasure

**Erasing a user's data** (`anonymizeUser` in `apps/api/src/db/queries/gdpr.ts`) next to the
monthly archive job. Both run as transactions, in any order. The archive copies a session
with its device id, and `anonymizeUser` clears the device ids of the live table only.

`erasedForGood_iff`: what the user had is gone for good exactly if no archived session of
theirs still has a device id when the erasure commits.
-/

namespace BrandBlitz.Retention

open BrandBlitz.Paging BrandBlitz.Payout

/-! ### Personal data -/

inductive Personal
  | email (value : Text)
  | googleId (value : Text)
  | name (value : Text)
  | phoneHash (value : Text)
  | wallet (value : Text)
  | deviceId (value : Text)
  | fingerprint (value : Text)
deriving DecidableEq, Repr

def User.personal (user : User) : List Personal :=
  [.email user.email, .name user.displayName] ++ user.username.toList.map .name ++
    user.googleId.toList.map .googleId ++ user.phoneHash.toList.map .phoneHash ++
    user.stellarAddress.toList.map .wallet ++ user.embeddedWalletAddress.toList.map .wallet

def GameSession.personal (s : GameSession) : List Personal := s.deviceId.toList.map .deviceId

def FINGERPRINT : Text := "fingerprint".toList

def FraudFlag.personal (f : FraudFlag) : List Personal :=
  ((f.details.getD []).filter (·.1 = FINGERPRINT)).map (.fingerprint ·.2)

/-- What the rows that belong to the user hold. -/
def Database.personal (db : Database) (u : Uuid) : List Personal :=
  (db.users.filter (·.id = u)).flatMap User.personal ++
    ((db.gameSessions ++ db.gameSessionsArchive).filter (·.userId = some u)).flatMap
      GameSession.personal ++
    (db.fraudFlags.filter (·.userId = u)).flatMap FraudFlag.personal

/-! ### `anonymizeUser` -/

inductive ErasureStage
  | begin | users | gameSessions | fraudFlags | auditLog | commit
deriving DecidableEq, Repr

def GDPR_ERASURE_ACTION : Text := "gdpr_erasure_completed".toList

def GDPR_ERASURE_CLEARED_COLUMNS : List Text :=
  ["users.email", "users.google_id", "users.display_name", "users.username", "users.avatar_url",
    "users.phone_hash", "users.phone_verified", "users.phone_verified_at",
    "users.stellar_address", "users.embedded_wallet_address", "game_sessions.device_id",
    "fraud_flags.details.fingerprint"].map String.toList

def deletedName : Text := "Deleted User".toList

def deletedUsername (token : Text) : Text := "deleted_".toList ++ token

def deletedEmail (token : Text) : Text := deletedUsername token ++ "@gdpr.invalid".toList

def User.anonymized (token : Text) (user : User) : User :=
  { user with
    email := deletedEmail token
    googleId := none
    displayName := deletedName
    username := some (deletedUsername token)
    avatarUrl := none
    phoneHash := none
    phoneVerified := false
    phoneVerifiedAt := none
    stellarAddress := none
    embeddedWalletAddress := none }

/-- `UPDATE … SET … WHERE …`. -/
def updateWhere {α : Type} (selects : α → Bool) (set : α → α) (rows : List α) : List α :=
  rows.map fun row => if selects row then set row else row

def anonymizeUsersRow (token : Text) (u : Uuid) : Statements Unit := fun db =>
  .ok ((), { db with users := updateWhere (·.id = u) (·.anonymized token) db.users })

def clearDeviceIds (u : Uuid) : Statements Unit := fun db =>
  .ok ((), { db with
    gameSessions :=
      updateWhere (·.userId = some u) (fun s => { s with deviceId := none }) db.gameSessions })

/-- `details - 'fingerprint'`, where there is such a key. -/
def clearFingerprints (u : Uuid) : Statements Unit := fun db =>
  .ok ((), { db with
    fraudFlags := updateWhere
      (fun f => f.userId = u && (f.details.getD []).any (·.1 = FINGERPRINT))
      (fun f => { f with details := f.details.map (·.filter (·.1 ≠ FINGERPRINT)) })
      db.fraudFlags })

def recordErasure (u : Uuid) : Statements Unit := fun db =>
  .ok ((), { db with
    auditLog := db.auditLog ++ [⟨GDPR_ERASURE_ACTION, u, GDPR_ERASURE_CLEARED_COLUMNS⟩] })

/-- `anonymizeUser(userId)`, with the token it draws. -/
def anonymizeUser (faults : ErasureStage → Option Err) (token : Text) (u : Uuid) (db : Database) :
    Except Err Unit × Database :=
  transaction (faults .begin) (faults .commit) (do
    statement (faults .users) (anonymizeUsersRow token u)
    statement (faults .gameSessions) (clearDeviceIds u)
    statement (faults .fraudFlags) (clearFingerprints u)
    statement (faults .auditLog) (recordErasure u)) db

/-- The database after an erasure that committed. -/
def erased (token : Text) (u : Uuid) (db : Database) : Database :=
  { db with
    users := updateWhere (·.id = u) (·.anonymized token) db.users
    gameSessions :=
      updateWhere (·.userId = some u) (fun s => { s with deviceId := none }) db.gameSessions
    fraudFlags := updateWhere
      (fun f => f.userId = u && (f.details.getD []).any (·.1 = FINGERPRINT))
      (fun f => { f with details := f.details.map (·.filter (·.1 ≠ FINGERPRINT)) })
      db.fraudFlags
    auditLog := db.auditLog ++ [⟨GDPR_ERASURE_ACTION, u, GDPR_ERASURE_CLEARED_COLUMNS⟩] }

/-- The call commits if nothing in it is failed. -/
def Commits (faults : ErasureStage → Option Err) : Prop := ∀ stage, faults stage = none

theorem anonymizeUser_ok {faults : ErasureStage → Option Err} (h : Commits faults) (token : Text)
    (u : Uuid) (db : Database) : anonymizeUser faults token u db = (.ok (), erased token u db) := by
  rw [anonymizeUser, transaction_ok_iff]
  simp only [h _, statement_none]
  exact ⟨trivial, trivial, rfl⟩

theorem anonymizeUser_of_not {faults : ErasureStage → Option Err} (h : ¬ Commits faults)
    (token : Text) (u : Uuid) (db : Database) : (anonymizeUser faults token u db).2 = db := by
  cases hrun : anonymizeUser faults token u db with
  | mk answer db' =>
      cases answer with
      | error err => exact transaction_error hrun
      | ok answer =>
          have hrun' := hrun
          rw [anonymizeUser, transaction_ok_iff] at hrun'
          simp only [bind_ok_iff, statement_ok_iff] at hrun'
          obtain ⟨hbegin, hcommit, -, -, ⟨husers, -⟩, -, -, ⟨hsessions, -⟩, -, -, ⟨hflags, -⟩,
            haudit, -⟩ := hrun'
          refine absurd (fun stage => ?_) h
          cases stage <;> assumption

/-! ### What an erasure and an archive run leave of it -/

theorem mem_personal {p : Personal} {u : Uuid} {db : Database} : p ∈ db.personal u ↔
    (∃ user ∈ db.users, user.id = u ∧ p ∈ user.personal) ∨
    (∃ s ∈ db.gameSessions, s.userId = some u ∧ p ∈ s.personal) ∨
    (∃ s ∈ db.gameSessionsArchive, s.userId = some u ∧ p ∈ s.personal) ∨
    ∃ f ∈ db.fraudFlags, f.userId = u ∧ p ∈ f.personal := by
  simp only [Database.personal, List.mem_append, List.mem_flatMap, List.mem_filter,
    decide_eq_true_eq]
  grind

theorem mem_updateWhere {α : Type} {selects : α → Bool} {set : α → α} {rows : List α} {row : α} :
    row ∈ updateWhere selects set rows ↔ ∃ old ∈ rows,
      (selects old = true ∧ row = set old) ∨ (selects old = false ∧ row = old) := by
  simp only [updateWhere, List.mem_map]
  refine exists_congr fun old => and_congr_right fun _ => ?_
  cases selects old <;> simp [eq_comm]

/-- What an erasure writes in place of the old values. -/
def Placeholder (tokens : List Text) (p : Personal) : Prop :=
  p = .name deletedName ∨ ∃ token ∈ tokens,
    p = .name (deletedUsername token) ∨ p = .email (deletedEmail token)

theorem placeholder_of_anonymized {tokens : List Text} {token : Text} (htoken : token ∈ tokens)
    {user : User} {p : Personal} (h : p ∈ (user.anonymized token).personal) :
    Placeholder tokens p := by
  simp only [User.personal, User.anonymized, Option.toList_some, Option.toList_none, List.map_cons,
    List.map_nil, List.append_nil, List.cons_append, List.nil_append, List.mem_cons,
    List.not_mem_nil, or_false] at h
  rcases h with rfl | rfl | rfl
  · exact Or.inr ⟨token, htoken, Or.inr rfl⟩
  · exact Or.inl rfl
  · exact Or.inr ⟨token, htoken, Or.inl rfl⟩

/-- A flag whose fingerprints were cleared has none. -/
theorem personal_clearFingerprints (f : FraudFlag) :
    ({ f with details := f.details.map (·.filter (·.1 ≠ FINGERPRINT)) } : FraudFlag).personal =
      [] := by
  cases hdetails : f.details with
  | none => simp [FraudFlag.personal]
  | some details => simp [FraudFlag.personal, List.filter_filter]

theorem personal_of_no_fingerprint {f : FraudFlag}
    (h : (f.details.getD []).any (·.1 = FINGERPRINT) = false) : f.personal = [] := by
  rw [FraudFlag.personal, List.map_eq_nil_iff, List.filter_eq_nil_iff]
  simpa using h

/-- An erasure brings nothing new but its placeholders, to anyone. -/
theorem personal_erased {tokens : List Text} {token : Text} (htoken : token ∈ tokens) {u v : Uuid}
    {db : Database} {p : Personal} (h : p ∈ (erased token v db).personal u) :
    p ∈ db.personal u ∨ Placeholder tokens p := by
  rw [mem_personal] at h ⊢
  simp only [erased, mem_updateWhere] at h
  obtain ⟨_, ⟨user, huser, ⟨-, rfl⟩ | ⟨-, rfl⟩⟩, hid, hp⟩ |
    ⟨_, ⟨s, hs, ⟨-, rfl⟩ | ⟨-, rfl⟩⟩, hid, hp⟩ | harchive |
    ⟨_, ⟨f, hf, ⟨-, rfl⟩ | ⟨-, rfl⟩⟩, hid, hp⟩ := h
  · exact Or.inr (placeholder_of_anonymized htoken hp)
  · exact Or.inl (Or.inl ⟨_, huser, hid, hp⟩)
  · simp [GameSession.personal] at hp
  · exact Or.inl (Or.inr (Or.inl ⟨_, hs, hid, hp⟩))
  · exact Or.inl (Or.inr (Or.inr (Or.inl harchive)))
  · rw [personal_clearFingerprints f] at hp
    simp at hp
  · exact Or.inl (Or.inr (Or.inr (Or.inr ⟨_, hf, hid, hp⟩)))

/-- An archive run moves personal data and brings none. -/
theorem personal_archived {now : Timestamp} {u : Uuid} {db : Database} {p : Personal}
    (h : p ∈ (archived now db).personal u) : p ∈ db.personal u := by
  rw [mem_personal] at h ⊢
  simp only [archived, List.mem_append, List.mem_filter] at h
  grind

/-- No archived session of the user has a device id. -/
def NoArchivedDevice (u : Uuid) (db : Database) : Prop :=
  ∀ s ∈ db.gameSessionsArchive, s.userId = some u → s.deviceId = none

/-- After an erasure the user's rows hold placeholders, and what is in the archive. -/
theorem personal_erased_self {tokens : List Text} {token : Text} (htoken : token ∈ tokens)
    {u : Uuid} {db : Database} (harchive : NoArchivedDevice u db) {p : Personal}
    (h : p ∈ (erased token u db).personal u) : Placeholder tokens p := by
  rw [mem_personal] at h
  simp only [erased, mem_updateWhere] at h
  obtain ⟨_, ⟨user, huser, ⟨-, rfl⟩ | ⟨hsel, rfl⟩⟩, hid, hp⟩ |
    ⟨_, ⟨s, hs, ⟨-, rfl⟩ | ⟨hsel, rfl⟩⟩, hid, hp⟩ | ⟨s, hs, hid, hp⟩ |
    ⟨_, ⟨f, hf, ⟨-, rfl⟩ | ⟨hsel, rfl⟩⟩, hid, hp⟩ := h
  · exact placeholder_of_anonymized htoken hp
  · simp [hid] at hsel
  · simp [GameSession.personal] at hp
  · simp [hid] at hsel
  · simp [GameSession.personal, harchive s hs hid] at hp
  · rw [personal_clearFingerprints f] at hp
    simp at hp
  · rw [personal_of_no_fingerprint (by simpa [hid] using hsel)] at hp
    simp at hp

/-! ### Runs -/

inductive RetentionEvent
  | archive (faults : Stage → Option Err) (now : Timestamp)
  | anonymize (faults : ErasureStage → Option Err) (token : Text) (u : Uuid)

def RetentionEvent.token : RetentionEvent → Option Text
  | .archive _ _ => none
  | .anonymize _ token _ => some token

def Database.retain (db : Database) : RetentionEvent → Database
  | .archive faults now => (archiveJob faults now db).2
  | .anonymize faults token u => (anonymizeUser faults token u db).2

def Database.run (db : Database) (events : List RetentionEvent) : Database :=
  events.foldl Database.retain db

/-- From a call that commits on, no row of the user holds a value that they had before it,
except for what the erasures of the run wrote there. -/
def ErasedForGood (u : Uuid) (db : Database) (events : List RetentionEvent) : Prop :=
  ∀ before faults token after rest, events = before ++ .anonymize faults token u :: after ++ rest →
    Commits faults → ∀ p ∈ (db.run before).personal u,
      p ∈ (db.run (before ++ .anonymize faults token u :: after)).personal u →
        Placeholder (events.filterMap (·.token)) p

theorem personal_retain {tokens : List Text} {u : Uuid} {db : Database} {e : RetentionEvent}
    (htoken : ∀ token, e.token = some token → token ∈ tokens) {p : Personal}
    (h : p ∈ (db.retain e).personal u) : p ∈ db.personal u ∨ Placeholder tokens p := by
  cases e with
  | archive faults now =>
      left
      rw [Database.retain] at h
      cases hrun : archiveJob faults now db with
      | mk answer db' =>
          rw [hrun] at h
          cases answer with
          | error err =>
              rwa [← transaction_error hrun]
          | ok answer =>
              rw [((archiveJob_ok_iff faults now db db').mp hrun).2] at h
              exact personal_archived h
  | anonymize faults token v =>
      rw [Database.retain] at h
      by_cases hcommits : Commits faults
      · rw [anonymizeUser_ok hcommits] at h
        exact personal_erased (htoken token rfl) h
      · rw [anonymizeUser_of_not hcommits] at h
        exact Or.inl h

/-- Once only placeholders are left, it stays so. -/
theorem placeholder_run {tokens : List Text} {u : Uuid} (events : List RetentionEvent)
    (htokens : ∀ e ∈ events, ∀ token, e.token = some token → token ∈ tokens) {db : Database}
    (hclean : ∀ p ∈ db.personal u, Placeholder tokens p) :
    ∀ p ∈ (db.run events).personal u, Placeholder tokens p := by
  induction events generalizing db with
  | nil => exact hclean
  | cons e rest ih =>
      refine ih (fun e' he' => htokens e' (List.mem_cons_of_mem _ he')) fun p hp => ?_
      rcases personal_retain (htokens e List.mem_cons_self) hp with hold | hplaceholder
      · exact hclean p hold
      · exact hplaceholder

/-- **Erasure is complete, whatever the order**, exactly when at each erasure of the user
that commits no archived session of theirs has a device id. -/
theorem erasedForGood_iff (u : Uuid) (db : Database) (events : List RetentionEvent) :
    ErasedForGood u db events ↔ ∀ before faults token rest,
      events = before ++ .anonymize faults token u :: rest → Commits faults →
        NoArchivedDevice u (db.run before) := by
  constructor
  · intro h before faults token rest heq hcommits s hs hid
    by_contra hdevice
    obtain ⟨device, hdevice⟩ := Option.ne_none_iff_exists'.mp hdevice
    have hpersonal : ∀ db' : Database,
        db'.gameSessionsArchive = (db.run before).gameSessionsArchive →
        Personal.deviceId device ∈ db'.personal u := by
      intro db' harchive
      rw [mem_personal]
      exact Or.inr (Or.inr (Or.inl ⟨s, harchive ▸ hs, hid, by
        simp [GameSession.personal, hdevice]⟩))
    have hplaceholder := h before faults token [] rest (by simpa using heq) hcommits
      (.deviceId device) (hpersonal _ rfl) (hpersonal _ (by
        rw [Database.run, List.foldl_append]
        show ((anonymizeUser faults token u (db.run before)).2).gameSessionsArchive = _
        rw [anonymizeUser_ok hcommits]
        rfl))
    simp [Placeholder] at hplaceholder
  · intro h before faults token after rest heq hcommits p _ hp
    have htokens : ∀ e ∈ events, ∀ token, e.token = some token →
        token ∈ events.filterMap (·.token) :=
      fun e he token htoken => List.mem_filterMap.mpr ⟨e, he, htoken⟩
    have hcommitted : (db.run before).retain (.anonymize faults token u) =
        erased token u (db.run before) := by
      show (anonymizeUser faults token u (db.run before)).2 = _
      rw [anonymizeUser_ok hcommits]
    rw [Database.run, List.foldl_append, List.foldl_cons] at hp
    change p ∈ (((db.run before).retain (.anonymize faults token u)).run after).personal u at hp
    rw [hcommitted] at hp
    refine placeholder_run after (fun e he => htokens e (by simp [heq, he])) (fun q hq => ?_) p hp
    exact personal_erased_self
      (htokens (.anonymize faults token u) (by rw [heq]; simp) token rfl)
      (h before faults token (after ++ rest) (by simpa using heq) hcommits) hq

/-- A player of a challenge that ended 91 days ago. -/
def player : Database where
  users := [⟨2, "a@b".toList, none, "Ada".toList, none, none, none, false, none, none, none⟩]
  challenges := [⟨0, "spring".toList, .settled, some 0, none, none⟩]
  challengesArchive := []
  gameSessions := [⟨1, some 2, 0, some "device".toList⟩]
  gameSessionsArchive := []
  sessionRoundScores := []
  payouts := []
  refunds := []
  fraudFlags := []
  auditLog := []

/-- Archived first and erased afterwards, the device id stays. -/
theorem archived_device_survives : ¬ ErasedForGood 2 player
    [.archive (fun _ => none) (91 * 24 * 60 * 60 * 1000000),
      .anonymize (fun _ => none) "token".toList 2] := by
  intro h
  have hplaceholder := h [.archive (fun _ => none) (91 * 24 * 60 * 60 * 1000000)]
    (fun _ => none) "token".toList [] [] rfl (fun _ => rfl) (.deviceId "device".toList)
    (by decide) (by decide)
  simp [Placeholder] at hplaceholder

end BrandBlitz.Retention
