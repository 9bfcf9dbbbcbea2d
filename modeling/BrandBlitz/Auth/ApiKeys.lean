import Mathlib.Logic.Function.Basic
import BrandBlitz.Lib.Crew
import BrandBlitz.Lib.ExpiringKeys
import BrandBlitz.Auth.Tokens
import BrandBlitz.Referrals.Attribution

/-!
# BrandBlitz.Auth.ApiKeys

**Personal API keys**: `apps/api/src/middleware/api-key-auth.ts` and
`DELETE /users/me/api-keys/:id` of `apps/api/src/routes/users.ts`.

A row that was found is cached for five minutes, and the revocation deletes what is cached.
The row may be older than that: a request that read it before the revocation can cache it
afterwards. Or the deletion fails, which nobody is told.

* The table of the keys is fixed, but for `revoked_at`. What `JSON.parse` gives back is what
  was written. `last_used_at` is updated on the side.
* Every call takes effect at once. One to Redis may fail, before it took effect or after; and
  what is cached may expire at any time.
-/

namespace BrandBlitz.Auth

open BrandBlitz.Lib BrandBlitz.Paging
open BrandBlitz.Referrals.Attribution (Header)

/-! ### The world -/

structure ApiKey where
  id : Uuid
  userId : Uuid
  keyHash : Text
deriving DecidableEq, Repr

/-- `api_keys`. -/
structure ApiKeyTable where
  rows : List ApiKey
  primaryKey : (rows.map (·.id)).Nodup

/-- What the middleware reads of a row. -/
structure ApiKeyRow where
  id : Uuid
  userId : Uuid
deriving DecidableEq, Repr

structure KeyRequest where
  program : Nat
  /-- the keys whose revocation had been confirmed when the request started -/
  confirmed : List Uuid
deriving DecidableEq, Repr

/-- `req.user` is set. -/
structure KeyUser where
  program : Nat
  sub : Uuid
  apiKeyId : Uuid
deriving DecidableEq, Repr

structure KeyWorld where
  /-- `revoked_at IS NOT NULL` -/
  revoked : Uuid → Bool
  redis : Text → Option ApiKeyRow
  /-- history -/
  started : List KeyRequest
  authenticated : List KeyUser
  confirmed : List Uuid

/-- Nothing is cached. -/
def KeyWorld.start (revoked : Uuid → Bool) : KeyWorld := ⟨revoked, fun _ => none, [], [], []⟩

inductive KeyOp
  /-- history -/
  | start
  | redisGet (key : Text)
  | redisSet (key : Text) (row : ApiKeyRow)
  | redisDel (key : Text)
  /-- `SELECT … FROM api_keys WHERE key_hash = $1 AND revoked_at IS NULL` -/
  | selectKey (hash : Text)
  /-- `UPDATE api_keys SET revoked_at = NOW() … RETURNING key_hash` -/
  | revokeKey (id userId : Uuid)
  | next (row : ApiKeyRow)
  /-- history: `{ success: true }` -/
  | success (id : Uuid)
deriving DecidableEq, Repr

def KeyOp.isRedis : KeyOp → Bool
  | .redisGet _ | .redisSet _ _ | .redisDel _ => true
  | _ => false

abbrev keySig : Sig where
  Op := KeyOp
  Ans
    | .redisGet _ | .selectKey _ => Option ApiKeyRow
    | .revokeKey _ _ => Option Text
    | _ => Unit

abbrev Keyed := Prog keySig ApiError

/-- How a call to Redis goes. -/
inductive RedisFault
  | none
  | before
  | after
deriving DecidableEq, Repr

def ApiKey.row (key : ApiKey) : ApiKeyRow := ⟨key.id, key.userId⟩

namespace ApiKeyTable

variable (table : ApiKeyTable)

def live (revoked : Uuid → Bool) (hash : Text) : Option ApiKey :=
  table.rows.find? fun key => key.keyHash = hash && !revoked key.id

def revocable (revoked : Uuid → Bool) (id userId : Uuid) : Option ApiKey :=
  table.rows.find? fun key => key.id = id && key.userId = userId && !revoked key.id

def revoke (revoked : Uuid → Bool) (id userId : Uuid) : Uuid → Bool :=
  if (table.revocable revoked id userId).isSome then Function.update revoked id true else revoked

end ApiKeyTable

/-- The effect of a call that program `i` makes. -/
def performKey (table : ApiKeyTable) (i : Nat) (w : KeyWorld) :
    (op : KeyOp) → keySig.Ans op × KeyWorld
  | .start => ((), { w with started := ⟨i, w.confirmed⟩ :: w.started })
  | .redisGet key => (w.redis key, w)
  | .redisSet key row => ((), { w with redis := Function.update w.redis key (some row) })
  | .redisDel key => ((), { w with redis := Function.update w.redis key none })
  | .selectKey hash => ((table.live w.revoked hash).map ApiKey.row, w)
  | .revokeKey id userId => ((table.revocable w.revoked id userId).map (·.keyHash),
      { w with revoked := table.revoke w.revoked id userId })
  | .next row => ((), { w with authenticated := ⟨i, row.userId, row.id⟩ :: w.authenticated })
  | .success id => ((), { w with confirmed := id :: w.confirmed })

def redisDown : ApiError := ⟨"Connection is closed.".toList, none, none⟩

def keyMachine (table : ApiKeyTable) (i : Nat) : Machine keySig ApiError KeyWorld RedisFault where
  exec fault op w :=
    match op.isRedis, fault with
    | true, .before => (.error redisDown, w)
    | true, .after => (.error redisDown, (performKey table i w op).2)
    | _, _ => (.ok (performKey table i w op).1, (performKey table i w op).2)

/-- What is cached expires. -/
def Expires (w w' : KeyWorld) : Prop :=
  ∃ key, w' = { w with redis := Function.update w.redis key none }

/-! ### The requests -/

/-- What is read of a request. -/
structure KeyHeaders where
  xApiKey : Header
  authorization : Option Text

def bearerKey (authorization : Option Text) : Option Text :=
  (authorization.filter ("Bearer bb_".toList.isPrefixOf ·)).map fun value => trim (value.drop 7)

def extractApiKey (headers : KeyHeaders) : Option Text :=
  match headers.xApiKey with
  | .single value =>
      if 0 < (trim value).length then some (trim value) else bearerKey headers.authorization
  | _ => bearerKey headers.authorization

def apiKeyReadOnly : Rejection :=
  ⟨403, "Personal API keys are restricted to read-only endpoints", some "API_KEY_READ_ONLY"⟩

def invalidApiKey : Rejection := ⟨401, "Invalid or revoked API key", some "INVALID_API_KEY"⟩

/-- How a request ends. -/
inductive KeyAnswer
  | next
  /-- there is no key: `authenticate` goes on to the token -/
  | noKey
  | rejected (rejection : Rejection)
  | revoked
deriving DecidableEq, Repr

def callKey (op : KeyOp) : Keyed (keySig.Ans op) := Prog.call (S := keySig) op

/-- `.catch(() => fallback)`. -/
def swallow (op : KeyOp) (fallback : keySig.Ans op) : Keyed (keySig.Ans op) :=
  (callKey op).tryCatch fun _ => .ret fallback

def cacheKey (hash : Text) : Text := "apikey:hash:".toList ++ hash

/-- The end of `authenticateApiKey`. -/
def setUser (row : ApiKeyRow) : Keyed KeyAnswer := do
  callKey (.next row)
  return .next

section Requests

variable (sha256 : Text → Text)

def authenticateApiKey (apiKey : Text) (method : Method) : Keyed KeyAnswer :=
  if !method.isSafe then return .rejected apiKeyReadOnly
  else do
    let hash := sha256 apiKey
    let cached ← swallow (.redisGet (cacheKey hash)) none
    match cached with
    | some row => setUser row
    | none =>
      let found ← callKey (.selectKey hash)
      match found with
      | none => return .rejected invalidApiKey
      | some row => do
        swallow (.redisSet (cacheKey hash) row) ()
        setUser row

/-- `authenticate` and `optionalAuth`, as far as keys go. -/
def presentKey (headers : KeyHeaders) (method : Method) : Keyed KeyAnswer := do
  callKey .start
  match extractApiKey headers with
  | none => return .noKey
  | some apiKey => authenticateApiKey sha256 apiKey method

/-- `DELETE /users/me/api-keys/:id`. -/
def deleteApiKey (id userId : Uuid) : Keyed KeyAnswer := do
  let found ← callKey (.revokeKey id userId)
  match found with
  | none => .raise (createError "API key not found or already revoked" 404)
  | some hash => do
    swallow (.redisDel (cacheKey hash)) ()
    callKey (.success id)
    return .revoked

/-- Any number of requests, with any keys. -/
def KeyProgram (p : Keyed KeyAnswer) : Prop :=
  (∃ headers method, p = presentKey sha256 headers method) ∨ ∃ id userId, p = deleteApiKey id userId

end Requests

/-! ### The property -/

/-- No request that started after the revocation was confirmed is let in by the key. -/
def RevocationEffective (w : KeyWorld) : Prop :=
  ∀ request ∈ w.started, ∀ user ∈ w.authenticated, user.program = request.program →
    user.apiKeyId ∉ request.confirmed

/-- Nothing is cached of a key that is revoked, and what a revocation finds cached is deleted. -/
def CachesLive (_ : Nat) (w : KeyWorld) (op : KeyOp) (fault : RedisFault) : Prop :=
  match op with
  | .redisSet _ row => fault = .before ∨ w.revoked row.id = false
  | .redisDel key => fault ≠ .before ∨ w.redis key = none
  | _ => True

instance (w : KeyWorld) : Decidable (RevocationEffective w) :=
  inferInstanceAs (Decidable (∀ request ∈ w.started, ∀ user ∈ w.authenticated, _ → _))

instance (i : Nat) (w : KeyWorld) (op : KeyOp) (fault : RedisFault) :
    Decidable (CachesLive i w op fault) :=
  match op with
  | .redisSet _ row => inferInstanceAs (Decidable (fault = .before ∨ w.revoked row.id = false))
  | .redisDel key => inferInstanceAs (Decidable (fault ≠ .before ∨ w.redis key = none))
  | .start | .redisGet _ | .selectKey _ | .revokeKey _ _ | .next _ | .success _ => .isTrue trivial

/-! ### The invariant -/

/-- The key is revoked, and not cached. -/
def KeyWorld.Gone (w : KeyWorld) (id : Uuid) : Prop :=
  w.revoked id = true ∧ ∀ key row, w.redis key = some row → row.id ≠ id

structure KeyInv (table : ApiKeyTable) (w : KeyWorld) : Prop where
  /-- a row is cached under its own hash -/
  filed : ∀ key row, w.redis key = some row →
    ∃ apiKey ∈ table.rows, cacheKey apiKey.keyHash = key ∧ apiKey.id = row.id
  gone : ∀ id ∈ w.confirmed, w.Gone id
  effective : RevocationEffective w

theorem start_keyInv (table : ApiKeyTable) (revoked : Uuid → Bool) :
    KeyInv table (.start revoked) where
  filed key row h := by cases h
  gone id h := by cases h
  effective request h := by cases h

/-- What program `i` counts on, whatever the others do. -/
structure KeyRely (table : ApiKeyTable) (i : Nat) (w w' : KeyWorld) : Prop where
  inv : KeyInv table w'
  revoked : ∀ id, w.revoked id = true → w'.revoked id = true
  gone : ∀ id, w.Gone id → w'.Gone id
  confirmed : ∀ id ∈ w.confirmed, id ∈ w'.confirmed
  started : ∀ request ∈ w'.started, request.program = i → request ∈ w.started
  authenticated : ∀ user ∈ w'.authenticated, user.program = i → user ∈ w.authenticated

/-- Program `i` has not started. -/
structure NotStarted (i : Nat) (w : KeyWorld) : Prop where
  started : ∀ request ∈ w.started, request.program ≠ i
  authenticated : ∀ user ∈ w.authenticated, user.program ≠ i

/-- Program `i` has started, and is not let in yet. -/
structure Started (i : Nat) (w : KeyWorld) : Prop where
  started : ∀ request ∈ w.started, request.program = i → ∀ id ∈ request.confirmed, id ∈ w.confirmed
  authenticated : ∀ user ∈ w.authenticated, user.program ≠ i

/-- The key was not confirmed to be revoked when program `i` started. -/
def StoodAtStart (i : Nat) (id : Uuid) (w : KeyWorld) : Prop :=
  ∀ request ∈ w.started, request.program = i → id ∉ request.confirmed

section Steps

variable {table : ApiKeyTable} {i : Nat} {w : KeyWorld} {op : KeyOp} {fault : RedisFault}

/-- What is true of the world where program `i` makes a call. -/
def KeyReady (table : ApiKeyTable) (i : Nat) (w : KeyWorld) : KeyOp → Prop
  | .start => ∀ user ∈ w.authenticated, user.program ≠ i
  | .redisSet key row => ∃ apiKey ∈ table.rows, cacheKey apiKey.keyHash = key ∧ apiKey.id = row.id
  | .next row => StoodAtStart i row.id w
  | .success id => w.Gone id
  | _ => True

theorem revoke_of_revoked {revoked : Uuid → Bool} {id id' userId : Uuid} (h : revoked id' = true) :
    table.revoke revoked id userId id' = true := by
  unfold ApiKeyTable.revoke
  split
  · by_cases heq : id' = id
    · rw [heq, Function.update_self]
    · rwa [Function.update_of_ne heq]
  · exact h

theorem perform_revoked {id : Uuid} (h : w.revoked id = true) :
    (performKey table i w op).2.revoked id = true := by
  cases op with
  | revokeKey id' userId => exact revoke_of_revoked h
  | _ => exact h

/-- A key that is gone comes back only if its row is cached. -/
theorem perform_gone {id : Uuid} (h : w.Gone id)
    (hset : ∀ key row, op = .redisSet key row → w.revoked row.id = false) :
    (performKey table i w op).2.Gone id := by
  refine ⟨perform_revoked h.1, fun key row hcached => ?_⟩
  cases op with
  | redisSet key' row' =>
      rcases some_of_update hcached with ⟨-, hrow⟩ | ⟨-, hcached⟩
      · rintro rfl
        obtain rfl := Option.some.inj hrow
        have hstands := hset _ _ rfl
        rw [h.1] at hstands
        cases hstands
      · exact h.2 key row hcached
  | redisDel key' =>
      rcases some_of_update hcached with ⟨-, hrow⟩ | ⟨-, hcached⟩
      · cases hrow
      · exact h.2 key row hcached
  | _ => exact h.2 key row hcached

/-- The invariant, for what changes neither the history nor the rows that are cached. -/
theorem KeyInv.perform (h : KeyInv table w) (hready : KeyReady table i w op)
    (hset : ∀ key row, op = .redisSet key row → w.revoked row.id = false) :
    KeyInv table (performKey table i w op).2 := by
  refine ⟨fun key row hcached => ?_, fun id hid => ?_, ?_⟩
  · cases op with
    | redisSet key' row' =>
        rcases some_of_update hcached with ⟨rfl, hrow⟩ | ⟨-, hcached⟩
        · obtain rfl := Option.some.inj hrow
          exact hready
        · exact h.filed key row hcached
    | redisDel key' =>
        rcases some_of_update hcached with ⟨-, hrow⟩ | ⟨-, hcached⟩
        · cases hrow
        · exact h.filed key row hcached
    | _ => exact h.filed key row hcached
  · have hgone : w.Gone id := by
      cases op with
      | success id' =>
          rcases List.mem_cons.mp hid with rfl | hid
          · exact hready
          · exact h.gone id hid
      | _ => exact h.gone id hid
    exact perform_gone hgone hset
  · intro request hrequest user huser hprogram
    cases op with
    | start =>
        rcases List.mem_cons.mp hrequest with rfl | hrequest
        · exact absurd hprogram (hready user huser)
        · exact h.effective request hrequest user huser hprogram
    | next row =>
        rcases List.mem_cons.mp huser with rfl | huser
        · exact hready request hrequest hprogram.symm
        · exact h.effective request hrequest user huser hprogram
    | _ => exact h.effective request hrequest user huser hprogram

/-- Nobody starts or is let in for another program. -/
theorem performKey_own {j : Nat} (hij : i ≠ j) :
    (∀ request ∈ (performKey table j w op).2.started, request.program = i → request ∈ w.started) ∧
      ∀ user ∈ (performKey table j w op).2.authenticated, user.program = i →
        user ∈ w.authenticated := by
  cases op with
  | start =>
      exact ⟨fun request hrequest hprogram => mem_of_recorded hrequest hprogram hij,
        fun user huser _ => huser⟩
  | next row =>
      exact ⟨fun request hrequest _ => hrequest,
        fun user huser hprogram => mem_of_recorded huser hprogram hij⟩
  | _ => exact ⟨fun request hrequest _ => hrequest, fun user huser _ => huser⟩

/-! A call to Redis that fails has done nothing, or all. -/

theorem exec_plain (h : op.isRedis = false) : (keyMachine table i).exec fault op w =
    (.ok (performKey table i w op).1, (performKey table i w op).2) := by
  simp only [keyMachine, h]

theorem exec_redis (table : ApiKeyTable) (i : Nat) (w : KeyWorld) (h : op.isRedis = true) :
    (keyMachine table i).exec .none op w =
      (.ok (performKey table i w op).1, (performKey table i w op).2) ∧
    (keyMachine table i).exec .before op w = (.error redisDown, w) ∧
    (keyMachine table i).exec .after op w = (.error redisDown, (performKey table i w op).2) := by
  simp only [keyMachine, h, and_self]

/-- The call does nothing, or what it does puts no revoked key into the cache. -/
theorem exec_cases (table : ApiKeyTable) (hguard : CachesLive i w op fault) :
    ((keyMachine table i).exec fault op w).2 = w ∨
      ((keyMachine table i).exec fault op w).2 = (performKey table i w op).2 ∧
        ∀ key row, op = .redisSet key row → w.revoked row.id = false := by
  cases hredis : op.isRedis with
  | false =>
      refine .inr ⟨by rw [exec_plain hredis], ?_⟩
      rintro key row rfl
      cases hredis
  | true =>
      obtain ⟨hnone, hbefore, hafter⟩ := exec_redis table i w hredis
      cases fault with
      | before => exact .inl (by rw [hbefore])
      | none =>
          refine .inr ⟨by rw [hnone], ?_⟩
          rintro key row rfl
          exact hguard.resolve_left (by decide)
      | after =>
          refine .inr ⟨by rw [hafter], ?_⟩
          rintro key row rfl
          exact hguard.resolve_left (by decide)

theorem exec_keyInv (h : KeyInv table w) (hready : KeyReady table i w op)
    (hguard : CachesLive i w op fault) : KeyInv table ((keyMachine table i).exec fault op w).2 := by
  obtain heq | ⟨heq, hset⟩ := exec_cases table hguard
  · rw [heq]
    exact h
  · rw [heq]
    exact h.perform hready hset

theorem KeyRely.refl (h : KeyInv table w) : KeyRely table i w w :=
  ⟨h, fun _ h => h, fun _ h => h, fun _ h => h, fun _ h _ => h, fun _ h _ => h⟩

theorem exec_rely {j : Nat} (hij : i ≠ j) (hguard : CachesLive j w op fault)
    (hinv : KeyInv table ((keyMachine table j).exec fault op w).2) :
    KeyRely table i w ((keyMachine table j).exec fault op w).2 := by
  obtain heq | ⟨heq, hset⟩ := exec_cases table hguard
  · rw [heq] at hinv ⊢
    exact .refl hinv
  · rw [heq] at hinv ⊢
    refine ⟨hinv, fun id h => perform_revoked h, fun id h => perform_gone h hset, fun id hid => ?_,
      (performKey_own hij).1, (performKey_own hij).2⟩
    cases op with
    | success id' => exact List.mem_cons_of_mem _ hid
    | _ => exact hid

end Steps

/-! ### The programs -/

section Programs

variable {table : ApiKeyTable} {sha256 : Text → Text} {i : Nat} {w : KeyWorld}

/-- Program `i` keeps the invariant while the others move, and ends in `Q` or throws. -/
def Honours (table : ApiKeyTable) (i : Nat) {α : Type} (p : Keyed α) (Q : α → KeyWorld → Prop)
    (w : KeyWorld) : Prop :=
  p.wp (keyMachine table i).among (Among (KeyRely table i) (CachesLive i)) (KeyInv table)
    (Prog.Ends Q fun _ _ => True) w

/-- An assertion that the others leave alone. -/
def LeftAlone (table : ApiKeyTable) (i : Nat) (A : KeyWorld → Prop) : Prop :=
  ∀ w w', A w → KeyRely table i w w' → A w'

theorem honours_call {op : KeyOp} {A : KeyWorld → Prop} {Q : keySig.Ans op → KeyWorld → Prop}
    (hplain : op.isRedis = false) (halone : LeftAlone table i A) (hw : A w)
    (hready : ∀ w', A w' → KeyReady table i w' op)
    (h : ∀ w', KeyInv table w' → A w' →
      Q (performKey table i w' op).1 (performKey table i w' op).2) :
    Honours table i (callKey op) Q w := by
  refine Prog.wp_call_among halone hw fun w' fault hrely hw' hguard => ?_
  refine ⟨exec_keyInv hrely.inv (hready w' hw') hguard, ?_⟩
  rw [exec_plain hplain]
  exact h w' hrely.inv hw'

/-- A call to Redis of which a failure is swallowed. -/
theorem honours_swallow {op : KeyOp} {fallback : keySig.Ans op} {A : KeyWorld → Prop}
    {Q : keySig.Ans op → KeyWorld → Prop} (hredis : op.isRedis = true)
    (halone : LeftAlone table i A) (hw : A w) (hready : ∀ w', A w' → KeyReady table i w' op)
    (hlost : ∀ w', KeyInv table w' → A w' → CachesLive i w' op .before → Q fallback w')
    (hdone : ∀ w', KeyInv table w' → A w' →
      Q (performKey table i w' op).1 (performKey table i w' op).2 ∧
        Q fallback (performKey table i w' op).2) :
    Honours table i (swallow op fallback) Q w := by
  refine Prog.wp_tryCatch (P := fun _ => Q fallback)
    (Prog.wp_call_among halone hw fun w' fault hrely hw' hguard => ?_) fun _ _ h => h
  refine ⟨exec_keyInv hrely.inv (hready w' hw') hguard, ?_⟩
  obtain ⟨hnone, hbefore, hafter⟩ := exec_redis table i w' hredis
  cases fault with
  | none =>
      rw [hnone]
      exact (hdone w' hrely.inv hw').1
  | before =>
      rw [hbefore]
      exact hlost w' hrely.inv hw' hguard
  | after =>
      rw [hafter]
      exact (hdone w' hrely.inv hw').2

theorem alone_started : LeftAlone table i (Started i) := fun _ _ h hrely =>
  ⟨fun request hrequest hprogram id hid => hrely.confirmed id
      (h.started request (hrely.started request hrequest hprogram) hprogram id hid),
    fun user huser hprogram =>
      h.authenticated user (hrely.authenticated user huser hprogram) hprogram⟩

theorem alone_notStarted : LeftAlone table i (NotStarted i) := fun _ _ h hrely =>
  ⟨fun request hrequest hprogram =>
      h.started request (hrely.started request hrequest hprogram) hprogram,
    fun user huser hprogram =>
      h.authenticated user (hrely.authenticated user huser hprogram) hprogram⟩

theorem alone_stoodAtStart (id : Uuid) : LeftAlone table i (StoodAtStart i id) :=
  fun _ _ h hrely request hrequest hprogram =>
    h request (hrely.started request hrequest hprogram) hprogram

/-- A key that is not gone was not confirmed to be revoked when the request started. -/
theorem Started.stoodAtStart (h : Started i w) (hinv : KeyInv table w) {id : Uuid}
    (hhere : ¬ w.Gone id) : StoodAtStart i id w := fun request hrequest hprogram hid =>
  hhere (hinv.gone id (h.started request hrequest hprogram id hid))

theorem setUser_honours (row : ApiKeyRow) (h : StoodAtStart i row.id w) :
    Honours table i (setUser row) (fun _ _ => True) w :=
  Prog.wp_bind (P := fun _ _ => True)
    (honours_call rfl (alone_stoodAtStart row.id) h (fun _ h => h) fun _ _ _ => trivial)
    fun _ _ _ => trivial

/-- The row that is selected is the row of the key. -/
theorem live_spec {revoked : Uuid → Bool} {hash : Text} {apiKey : ApiKey}
    (h : table.live revoked hash = some apiKey) :
    apiKey ∈ table.rows ∧ apiKey.keyHash = hash ∧ revoked apiKey.id = false := by
  have hfound := List.find?_some h
  rw [Bool.and_eq_true, decide_eq_true_eq, Bool.not_eq_true'] at hfound
  exact ⟨List.mem_of_find?_eq_some h, hfound⟩

/-- **A request is let in by a key that was not confirmed to be revoked when it started.** -/
theorem authenticateApiKey_honours (apiKey : Text) (method : Method) (h : Started i w) :
    Honours table i (authenticateApiKey sha256 apiKey method) (fun _ _ => True) w := by
  unfold authenticateApiKey
  split
  · trivial
  refine Prog.wp_bind
    (P := fun cached w => Started i w ∧ ∀ row, cached = some row → StoodAtStart i row.id w)
    (honours_swallow rfl alone_started h (fun _ _ => trivial)
      (fun w' _ h _ => ⟨h, fun row hnone => by cases hnone⟩) fun w' hinv h => ?_)
    fun cached w h => ?_
  · refine ⟨⟨h, fun row hcached => ?_⟩, h, fun row hnone => by cases hnone⟩
    exact h.stoodAtStart hinv fun hgone => hgone.2 _ row hcached rfl
  cases cached with
  | some row => exact setUser_honours row (h.2 row rfl)
  | none =>
      refine Prog.wp_bind (P := fun found w => ∀ row, found = some row → StoodAtStart i row.id w ∧
          ∃ key ∈ table.rows, cacheKey key.keyHash = cacheKey (sha256 apiKey) ∧ key.id = row.id)
        (honours_call rfl alone_started h.1 (fun _ _ => trivial) fun w' hinv h row hfound => ?_)
        fun found w h => ?_
      · obtain ⟨key, hkey, rfl⟩ := Option.map_eq_some_iff.mp hfound
        obtain ⟨hmem, hhash, hlive⟩ := live_spec hkey
        refine ⟨h.stoodAtStart hinv fun hgone => ?_, key, hmem, by rw [hhash], rfl⟩
        rw [show w'.revoked key.id = true from hgone.1] at hlive
        cases hlive
      · cases found with
        | none => trivial
        | some row =>
            obtain ⟨hstood, hfiled⟩ := h row rfl
            refine Prog.wp_bind (P := fun _ => StoodAtStart i row.id)
              (honours_swallow rfl (alone_stoodAtStart row.id) hstood (fun _ _ => hfiled)
                (fun _ _ h _ => h) fun _ _ h => ⟨h, h⟩) fun _ w h => ?_
            exact setUser_honours row h

theorem presentKey_honours (headers : KeyHeaders) (method : Method) (h : NotStarted i w) :
    Honours table i (presentKey sha256 headers method) (fun _ _ => True) w := by
  refine Prog.wp_bind (P := fun _ => Started i)
    (honours_call rfl alone_notStarted h (fun _ h => h.authenticated) fun w' _ h =>
      ⟨fun request hrequest hprogram id hid => ?_, h.authenticated⟩) fun _ w h => ?_
  · rcases List.mem_cons.mp hrequest with rfl | hrequest
    · exact hid
    · exact absurd hprogram (h.started request hrequest)
  · split
    · trivial
    · exact authenticateApiKey_honours _ method h

/-- A key has one row, so its row is cached in one place. -/
theorem KeyInv.gone_of_deleted (h : KeyInv table w) {key : ApiKey} (hkey : key ∈ table.rows)
    (hrevoked : w.revoked key.id = true) (hdeleted : w.redis (cacheKey key.keyHash) = none) :
    w.Gone key.id := by
  refine ⟨hrevoked, fun name row hcached hid => ?_⟩
  obtain ⟨key', hkey', rfl, hid'⟩ := h.filed name row hcached
  obtain rfl : key' = key :=
    List.inj_on_of_nodup_map table.primaryKey hkey' hkey (hid'.trans hid)
  rw [hdeleted] at hcached
  cases hcached

/-- **A revocation is confirmed when the key is gone.** -/
theorem deleteApiKey_honours (id userId : Uuid) :
    Honours table i (deleteApiKey id userId) (fun _ _ => True) w := by
  refine Prog.wp_bind (P := fun found w => ∀ hash, found = some hash →
      ∃ key ∈ table.rows, key.id = id ∧ key.keyHash = hash ∧ w.revoked id = true)
    (honours_call (A := fun _ => True) rfl (fun _ _ _ _ => trivial) trivial (fun _ _ => trivial)
      fun w' _ _ hash hfound => ?_) fun found w h => ?_
  · obtain ⟨key, hkey, rfl⟩ := Option.map_eq_some_iff.mp hfound
    have hmatches := List.find?_some hkey
    rw [Bool.and_eq_true, Bool.and_eq_true, decide_eq_true_eq] at hmatches
    refine ⟨key, List.mem_of_find?_eq_some hkey, hmatches.1.1, rfl, ?_⟩
    show table.revoke w'.revoked id userId id = true
    rw [ApiKeyTable.revoke, if_pos (by rw [hkey]; rfl), Function.update_self]
  · cases found with
    | none => trivial
    | some hash =>
        obtain ⟨key, hkey, rfl, rfl, hrevoked⟩ := h hash rfl
        refine Prog.wp_bind (P := fun _ w => w.Gone key.id)
          (honours_swallow (A := fun w => w.revoked key.id = true) rfl
            (fun _ _ h hrely => hrely.revoked key.id h) hrevoked (fun _ _ => trivial)
            (fun w' hinv h hguard => ?_) fun w' hinv h => ?_) fun _ w h => ?_
        · exact hinv.gone_of_deleted hkey h (hguard.resolve_left fun hne => hne rfl)
        · have hdeleted :
              KeyInv table (performKey table i w' (.redisDel (cacheKey key.keyHash))).2 :=
            hinv.perform trivial fun _ _ heq => by cases heq
          have hgone := hdeleted.gone_of_deleted hkey h (Function.update_self ..)
          exact ⟨hgone, hgone⟩
        · exact Prog.wp_bind (P := fun _ _ => True)
            (honours_call (A := fun w => w.Gone key.id) rfl (fun _ _ h hrely => hrely.gone _ h) h
              (fun _ h => h) fun _ _ _ => trivial) fun _ _ _ => trivial

end Programs

/-! ### Every interleaving -/

theorem expires_gone {w w' : KeyWorld} {id : Uuid} (hexpires : Expires w w') (h : w.Gone id) :
    w'.Gone id := by
  obtain ⟨key, rfl⟩ := hexpires
  refine ⟨h.1, fun key' row hcached => ?_⟩
  rcases some_of_update hcached with ⟨-, hrow⟩ | ⟨-, hcached⟩
  · cases hrow
  · exact h.2 key' row hcached

theorem key_verified (table : ApiKeyTable) (sha256 : Text → Text) :
    Crew.Verified (keyMachine table) CachesLive (KeyProgram sha256) Expires (KeyInv table)
      (KeyRely table) NotStarted where
  refl i w h := .refl h
  trans i w w' w'' h h' := ⟨h'.inv, fun id hid => h'.revoked id (h.revoked id hid),
    fun id hid => h'.gone id (h.gone id hid), fun id hid => h'.confirmed id (h.confirmed id hid),
    fun request hrequest hprogram =>
      h.started request (h'.started request hrequest hprogram) hprogram,
    fun user huser hprogram =>
      h.authenticated user (h'.authenticated user huser hprogram) hprogram⟩
  stays i w w' h hrely := alone_notStarted w w' h hrely
  spawned i w p hp _ hfresh := by
    have hhonours : Honours table i p (fun _ _ => True) w := by
      obtain ⟨headers, method, rfl⟩ | ⟨id, userId, rfl⟩ := hp
      · exact presentKey_honours headers method hfresh
      · exact deleteApiKey_honours id userId
    exact Prog.wp_world (K := fun _ => True) hhonours
  others i j w op fault hij _ hguard hinv' := exec_rely hij hguard hinv'
  drifted i w w' h hexpires := by
    have hgone : ∀ id, w.Gone id → w'.Gone id := fun _ => expires_gone hexpires
    obtain ⟨key, rfl⟩ := hexpires
    have hinv : KeyInv table (performKey table i w (.redisDel key)).2 :=
      h.perform trivial fun _ _ heq => by cases heq
    exact ⟨hinv, hinv, fun _ h => h, hgone, fun _ h => h, fun _ h _ => h, fun _ h _ => h⟩

/-- **A revocation is effective** in every interleaving in which no row of a revoked key is
cached, and a revocation deletes what is cached of its key. -/
theorem revocation_effective {table : ApiKeyTable} {sha256 : Text → Text} {revoked : Uuid → Bool}
    {w : KeyWorld} {ps : List (Keyed KeyAnswer)}
    (h : Crew (keyMachine table) CachesLive (KeyProgram sha256) Expires (.start revoked) w ps) :
    RevocationEffective w :=
  ((key_verified table sha256).sound (start_keyInv table revoked)
    (fun _ => ⟨fun _ h => (by cases h), fun _ h => by cases h⟩) h).1.effective

/-! ### One key

Key 1 belongs to user 2. -/

/-- Of `bb_live_k`. -/
def liveHash : Text := "7f40556d793033ec2c5726f049893d377c9d456fe5246e8cf4697adc13524f9b".toList

def hashOfKey (apiKey : Text) : Text := if apiKey = "bb_live_k".toList then liveHash else []

def oneKey : ApiKeyTable := ⟨[⟨1, 2, liveHash⟩], by decide⟩

def withKey : KeyHeaders := ⟨.absent, some "Bearer bb_live_k".toList⟩

/-- A request with the key, its revocation, and another request with it. -/
def keyRequests : List (Keyed KeyAnswer) :=
  [presentKey hashOfKey withKey .get, deleteApiKey 1 2,
    presentKey hashOfKey withKey .get]

def keySteps (i n : Nat) : List (Nat × RedisFault) := List.replicate n (i, .none)

def playKeys (schedule : List (Nat × RedisFault)) : KeyWorld × List (Keyed KeyAnswer) :=
  playCrew (keyMachine oneKey) schedule (.start fun _ => false) keyRequests

theorem spawn_keyRequests {G : Nat → KeyWorld → KeyOp → RedisFault → Prop} :
    Crew (keyMachine oneKey) G (KeyProgram hashOfKey) Expires (.start fun _ => false)
      (.start fun _ => false) keyRequests :=
  Crew.spawn (Crew.spawn (Crew.spawn .init (.inl ⟨withKey, .get, rfl⟩)) (.inr ⟨1, 2, rfl⟩))
    (.inl ⟨withKey, .get, rfl⟩)

/-- One after the other. -/
def keysInOrder : List (Nat × RedisFault) := keySteps 0 5 ++ keySteps 1 3 ++ keySteps 2 3

theorem revoked_key_refused :
    (playKeys keysInOrder).1.authenticated = [⟨0, 2, 1⟩] ∧
      RevocationEffective (playKeys keysInOrder).1 :=
  ⟨by decide +kernel, revocation_effective (Crew.play keysInOrder spawn_keyRequests
    (by decide +kernel : playCrewOk (keyMachine oneKey) CachesLive _ _ _))⟩

/-- The first request has read the row before the revocation, and caches it afterwards. -/
def keysOverlap : List (Nat × RedisFault) :=
  keySteps 0 3 ++ keySteps 1 3 ++ keySteps 0 2 ++ keySteps 2 3

/-- The row stays in the cache. -/
def deletionFails : List (Nat × RedisFault) :=
  keySteps 0 5 ++ [(1, .none), (1, .before), (1, .none)] ++ keySteps 2 3

theorem revoked_key_accepted :
    (∃ w ps, Crew (keyMachine oneKey) (fun _ _ _ fault => fault = .none)
      (KeyProgram hashOfKey) Expires (.start fun _ => false) w ps ∧
        ¬ RevocationEffective w) ∧
    ∃ w ps, Crew (keyMachine oneKey) (fun _ _ _ _ => True) (KeyProgram hashOfKey)
      Expires (.start fun _ => false) w ps ∧ ¬ RevocationEffective w := by
  constructor
  · refine ⟨_, _, Crew.play keysOverlap spawn_keyRequests
      (playCrewOk_of_forall _ fun move hmove _ _ => ?_), by decide +kernel⟩
    revert move
    decide +kernel
  · exact ⟨_, _, Crew.play deletionFails spawn_keyRequests
      (playCrewOk_of_forall _ fun _ _ _ _ => trivial), by decide +kernel⟩

end BrandBlitz.Auth
