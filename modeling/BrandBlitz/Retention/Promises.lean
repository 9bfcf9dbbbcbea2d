import BrandBlitz.Retention.Requests

/-!
# BrandBlitz.Retention.Promises

**Do erasure requests do what was promised?** The worker looks at the newest pending request
and acts on it awaits later, without looking again; a cancellation marks the requests and
takes away whatever job it finds; an addition to the queue that comes too early is lost.

`InOrder` says of each call what keeps these apart. Under it, in every interleaving, no
request is both cancelled and executed, nobody is anonymised by a request whose cancellation
was confirmed, and no accepted request is dropped.
-/

namespace BrandBlitz.Retention

open BrandBlitz.Lib BrandBlitz.Paging

/-! ### What is promised, and when it is kept -/

/-- All jobs have run. -/
def ErasureWorld.AllRun (w : ErasureWorld) : Prop :=
  ∀ job, w.job = some job → job.state = .finished

structure PromisesKept (w : ErasureWorld) : Prop where
  once : ∀ r ∈ w.requests, ¬ (r.cancelled = true ∧ r.executed = true)
  cancelled : ∀ id, .cancelled id ∈ w.responses → id ∉ w.anonymisedBy
  erased : w.jobFailed = false → w.AllRun → ∀ id, .accepted id ∈ w.responses →
    w.is (·.cancelled) id = false → w.anonymisedBy ≠ []

/-- The programs of any number of requests and runs of the worker. -/
def ErasureProgram (p : Erasing Unit) : Prop :=
  (∃ toLowerCase email, p = postDeleteAccount toLowerCase email) ∨ p = deleteDeleteAccount ∨
    (∃ adminId, p = postErase adminId) ∨ p = gdprErasureWorker

/-- Besides, the queue drops a job that has run. -/
inductive JobDropped : ErasureWorld → ErasureWorld → Prop
  | drop {w : ErasureWorld} {job : ErasureJob} : w.job = some job → job.state = .finished →
      JobDropped w { w with job := none }

/-- What keeps the calls of the routes and of the worker from each other. -/
def InOrder (w : ErasureWorld) : ErasureOp → Prop
  -- the worker has not got hold of a request that is being cancelled, and has not done it
  | .cancelErasureRequest found => ∀ id, id = found ∨ w.is (·.pendingSelf) id = true →
      w.inHand ≠ some id ∧ id ∉ w.anonymisedBy
  -- the queue has no other job, or the request needs none any more
  | .enqueueGdprErasure requestId =>
      w.job = none ∨ w.is (·.cancelled) requestId = true ∨ w.anonymisedBy ≠ []
  -- a job that waits is removed only when its request is not pending any more
  | .removeJob => ∀ job, w.job = some job → job.state = .waiting →
      w.is (·.pending) job.requestId = false
  -- a job's own request, as long as it is pending, is the newest
  | .findPendingErasureRequest (some id) =>
      w.is (·.pending) id = true → w.newest (·.pending) = some id
  | _ => True

/-- The guard of a crew, which is the same for every program. -/
def ErasureGuard (_ : Nat) (w : ErasureWorld) (op : ErasureOp) (_ : ErasureEnv) : Prop :=
  InOrder w op

/-- Nobody has asked for anything. -/
def quiet : ErasureWorld := ⟨[], none, [], [], false, []⟩

/-! ### Rows -/

section Rows

variable {w : ErasureWorld} {test : ErasureRequest → Bool} {id : Nat}

theorem is_iff : w.is test id = true ↔ ∃ r, w.requests[id]? = some r ∧ test r = true := by
  simp [ErasureWorld.is, Option.any_eq_true]

theorem newestOf_mem {createdAt : Nat → Timestamp} {ids : List Nat}
    (h : newestOf createdAt ids = some id) : id ∈ ids := by
  induction ids generalizing id with
  | nil => cases h
  | cons first rest ih =>
      rw [newestOf] at h
      split at h
      · cases h
        exact List.mem_cons_self
      next best hbest =>
        split at h
        · cases h
          exact List.mem_cons_self
        · cases h
          exact List.mem_cons_of_mem _ (ih hbest)

/-- What the query answers is a row that meets its condition. -/
theorem is_of_newest (h : w.newest test = some id) : w.is test id = true :=
  (List.mem_filter.mp (newestOf_mem h)).2

/-- A row that is there and not pending has been cancelled or executed. -/
theorem settled_of_not_pending (hrow : w.is (fun _ => true) id = true)
    (h : w.is (·.pending) id = false) :
    w.is (·.cancelled) id = true ∨ w.is (·.executed) id = true := by
  obtain ⟨r, hr, -⟩ := is_iff.mp hrow
  simp only [ErasureWorld.is, hr, Option.any_some, ErasureRequest.pending, Bool.and_eq_false_iff,
    Bool.not_eq_false'] at h ⊢
  exact h

end Rows

/-! ### What a call does -/

/-- What is true of a row for good. -/
def Lasting (test : ErasureRequest → Bool) : Prop :=
  ∀ r, test r = true → test { r with cancelled := true } = true ∧
    test { r with executed := true } = true

theorem lasting_true : Lasting fun _ => true := fun _ _ => ⟨rfl, rfl⟩
theorem lasting_cancelled : Lasting (·.cancelled) := fun _ h => ⟨rfl, h⟩
theorem lasting_self : Lasting (·.adminId.isNone) := fun _ h => ⟨h, h⟩

/-- Rows are not forgotten and nothing of what happened is undone. -/
structure Grows (w w' : ErasureWorld) : Prop where
  rows : ∀ test, Lasting test → ∀ id, w.is test id = true → w'.is test id = true
  anonymised : ∀ id ∈ w.anonymisedBy, id ∈ w'.anonymisedBy
  enqueued : ∀ id ∈ w.enqueued, id ∈ w'.enqueued

theorem Grows.refl (w : ErasureWorld) : Grows w w := ⟨fun _ _ _ => id, fun _ => id, fun _ => id⟩

theorem Grows.trans {w w' w'' : ErasureWorld} (h : Grows w w') (h' : Grows w' w'') :
    Grows w w'' where
  rows test hlasting id hid := h'.rows test hlasting id (h.rows test hlasting id hid)
  anonymised id hid := h'.anonymised id (h.anonymised id hid)
  enqueued id hid := h'.enqueued id (h.enqueued id hid)

theorem grows_of_rows {w w' : ErasureWorld} (hrows : w'.requests = w.requests)
    (hanonymised : ∀ id ∈ w.anonymisedBy, id ∈ w'.anonymisedBy)
    (henqueued : ∀ id ∈ w.enqueued, id ∈ w'.enqueued) : Grows w w' where
  rows test _ id hid := by rwa [ErasureWorld.is, hrows]
  anonymised := hanonymised
  enqueued := henqueued

/-- Everything a worker's change to its job can do. -/
theorem setJob_cases (w : ErasureWorld) (worker : Nat) (f : ErasureJob → ErasureJob) :
    w.setJob worker f = w ∨ ∃ requestId attemptsMade found,
      w.job = some ⟨requestId, attemptsMade, .active worker found⟩ ∧
      w.setJob worker f =
        { w with job := some (f ⟨requestId, attemptsMade, .active worker found⟩) } := by
  unfold ErasureWorld.setJob
  split
  next requestId attemptsMade holder found hjob =>
    split
    next hholder =>
      subst hholder
      exact .inr ⟨requestId, attemptsMade, found, hjob, rfl⟩
    next => exact .inl rfl
  next => exact .inl rfl

theorem setJob_failed (w : ErasureWorld) (worker : Nat) (f : ErasureJob → ErasureJob) :
    { w.setJob worker f with jobFailed := w.jobFailed } = w.setJob worker f := by
  obtain h | ⟨_, _, _, -, h⟩ := setJob_cases w worker f
  · rw [h]
  · rw [h]

theorem setJob_grows (w : ErasureWorld) (worker : Nat) (f : ErasureJob → ErasureJob) :
    Grows w (w.setJob worker f) := by
  obtain h | ⟨_, _, _, -, h⟩ := setJob_cases w worker f
  · rw [h]
    exact .refl w
  · rw [h]
    exact grows_of_rows rfl (fun _ => id) fun _ => id

theorem perform_grows (i : Nat) (e : ErasureEnv) (w : ErasureWorld) (op : ErasureOp) :
    Grows w (performErasure i e w op).2 := by
  cases op with
  | findPendingErasureRequest job =>
      cases job with
      | none => exact .refl w
      | some requestId =>
          simp only [performErasure]
          split
          · exact setJob_grows _ _ _
          · exact .refl w
  | createErasureRequest adminId =>
      refine ⟨fun test _ id hid => ?_, fun _ => id, fun _ => id⟩
      obtain ⟨r, hr, htest⟩ := is_iff.mp hid
      have hlt : id < w.requests.length := (List.getElem?_eq_some_iff.mp hr).1
      refine is_iff.mpr ⟨r, ?_, htest⟩
      show (w.requests ++ [_])[id]? = _
      rw [List.getElem?_append_left hlt, hr]
  | cancelErasureRequest found =>
      refine ⟨fun test hlasting id hid => ?_, fun _ => id, fun _ => id⟩
      obtain ⟨r, hr, htest⟩ := is_iff.mp hid
      refine is_iff.mpr ⟨if r.pendingSelf then { r with cancelled := true } else r, ?_, ?_⟩
      · simp [performErasure, hr]
      · split
        · exact (hlasting r htest).1
        · exact htest
  | markErasureExecuted requestId =>
      refine ⟨fun test hlasting id hid => ?_, fun _ => id, fun _ => id⟩
      obtain ⟨r, hr, htest⟩ := is_iff.mp hid
      refine is_iff.mpr ⟨if requestId = id then { r with executed := true } else r, ?_, ?_⟩
      · simp only [performErasure, List.getElem?_modify, hr]
        split <;> rfl
      · split
        · exact (hlasting r htest).2
        · exact htest
  | enqueueGdprErasure requestId =>
      exact grows_of_rows rfl (fun _ => id) fun _ h => List.mem_cons_of_mem _ h
  | anonymizeUser requestId =>
      exact grows_of_rows rfl (fun _ h => List.mem_cons_of_mem _ h) fun _ => id
  | removeJob =>
      simp only [performErasure]
      split
      · exact .refl w
      · exact grows_of_rows rfl (fun _ => id) (fun _ => id)
  | takeJob =>
      simp only [performErasure]
      split
      · exact grows_of_rows rfl (fun _ => id) (fun _ => id)
      · exact .refl w
  | completeJob =>
      simp only [performErasure]
      exact setJob_grows w i _
  | failJob =>
      refine (setJob_grows w i _).trans (grows_of_rows rfl (fun _ => id) fun _ => id)
  | _ => exact grows_of_rows rfl (fun _ => id) (fun _ => id)

/-- A call that throws has had its effect or none. -/
theorem exec_world {i : Nat} {e : ErasureEnv} {op : ErasureOp} {w : ErasureWorld}
    {P : ErasureWorld → Prop} (hsame : P w) (hdone : P (performErasure i e w op).2) :
    P ((erasureMachine i).exec e op w).2 := by
  simp only [erasureMachine]
  split
  · exact hdone
  · dsimp only
    split
    · exact hdone
    · exact hsame

/-- An answer is the one of the call's effect. -/
theorem exec_ok {i : Nat} {e : ErasureEnv} {op : ErasureOp} {w : ErasureWorld}
    {a : erasureSig.Ans op} (h : ((erasureMachine i).exec e op w).1 = .ok a) :
    (performErasure i e w op).1 = .ok a ∧
      ((erasureMachine i).exec e op w).2 = (performErasure i e w op).2 := by
  simp only [erasureMachine] at h ⊢
  split at h
  next => exact ⟨h, rfl⟩
  next fault hfault => cases h

theorem exec_grows (i : Nat) (e : ErasureEnv) (op : ErasureOp) (w : ErasureWorld) :
    Grows w ((erasureMachine i).exec e op w).2 :=
  exec_world (.refl w) (perform_grows i e w op)

/-! ### The invariant -/

/-- What holds in every state of a history in order. -/
structure ErasureInv (w : ErasureWorld) : Prop where
  /-- nobody acts on a cancelled request -/
  untouched : ∀ id, w.is (·.cancelled) id = true → w.inHand ≠ some id ∧ id ∉ w.anonymisedBy
  executed : ∀ id, w.is (·.executed) id = true → id ∈ w.anonymisedBy
  rows : ∀ id ∈ w.enqueued, w.is (fun _ => true) id = true
  jobs : ∀ job, w.job = some job → job.requestId ∈ w.enqueued
  /-- a request that was enqueued has its job, unless it needs none any more -/
  queued : ∀ id ∈ w.enqueued, w.is (·.cancelled) id = true ∨ w.anonymisedBy ≠ [] ∨
    w.jobFailed = true ∨ ∃ job, w.job = some job ∧ job.requestId = id ∧ job.state ≠ .finished
  accepted : ∀ id, .accepted id ∈ w.responses → id ∈ w.enqueued
  cancelled : ∀ id, .cancelled id ∈ w.responses → w.is (·.cancelled) id = true

theorem quiet_inv : ErasureInv quiet where
  untouched id h := by simp [quiet, ErasureWorld.is] at h
  executed id h := by simp [quiet, ErasureWorld.is] at h
  rows id h := by cases h
  jobs job h := by cases h
  queued id h := by cases h
  accepted id h := by cases h
  cancelled id h := by cases h

/-- The invariant is all that was promised. -/
theorem ErasureInv.promisesKept {w : ErasureWorld} (h : ErasureInv w) : PromisesKept w where
  once r hr hboth := by
    obtain ⟨id, hid, rfl⟩ := List.mem_iff_getElem.mp hr
    have hrow : w.requests[id]? = some w.requests[id] := List.getElem?_eq_getElem hid
    have hcancelled : w.is (·.cancelled) id = true := is_iff.mpr ⟨_, hrow, hboth.1⟩
    have hexecuted : w.is (·.executed) id = true := is_iff.mpr ⟨_, hrow, hboth.2⟩
    exact (h.untouched id hcancelled).2 (h.executed id hexecuted)
  cancelled id hid := (h.untouched id (h.cancelled id hid)).2
  erased hfailed hrun id hid hcancelled := by
    obtain h' | h' | h' | ⟨job, hjob, -, hstate⟩ := h.queued id (h.accepted id hid)
    · rw [hcancelled] at h'
      cases h'
    · exact h'
    · rw [hfailed] at h'
      cases h'
    · exact absurd (hrun job hjob) hstate

/-- Job `requestId` is in the hands of worker `i`. -/
def Holds (i requestId : Nat) (found : Option Nat) (w : ErasureWorld) : Prop :=
  ∃ attemptsMade, w.job = some ⟨requestId, attemptsMade, .active i found⟩

/-- There is nothing left to do for a request. -/
def Served (requestId : Nat) (w : ErasureWorld) : Prop :=
  w.is (·.cancelled) requestId = true ∨ w.anonymisedBy ≠ []

/-- What is true of the world where a program makes a call. -/
def Ready (i : Nat) (w : ErasureWorld) : ErasureOp → Prop
  | .cancelErasureRequest found => w.is (·.adminId.isNone) found = true
  | .enqueueGdprErasure requestId => w.is (fun _ => true) requestId = true
  | .anonymizeUser requestId => Holds i requestId (some requestId) w
  | .markErasureExecuted requestId => requestId ∈ w.anonymisedBy
  | .completeJob => ∀ requestId found, Holds i requestId found w → Served requestId w
  | .respond (.accepted requestId) => requestId ∈ w.enqueued
  | .respond (.cancelled requestId) => w.is (·.cancelled) requestId = true
  | _ => True

section Steps

variable {w : ErasureWorld}

theorem served_of_not_pending (h : ErasureInv w) {id : Nat} (hid : id ∈ w.enqueued)
    (hpending : w.is (·.pending) id = false) : Served id w := by
  rcases settled_of_not_pending (h.rows id hid) hpending with hcancelled | hexecuted
  · exact .inl hcancelled
  · exact .inr (List.ne_nil_of_mem (h.executed id hexecuted))

/-- Changes to the queue alone. -/
theorem ErasureInv.withJob (h : ErasureInv w) (job : Option ErasureJob) (jobFailed : Bool)
    (hhand : ∀ id, ({ w with job := job } : ErasureWorld).inHand = some id →
      w.is (·.cancelled) id = false)
    (hjobs : ∀ j, job = some j → j.requestId ∈ w.enqueued)
    (hqueued : jobFailed = true ∨ ∀ j, w.job = some j → j.state ≠ .finished →
      Served j.requestId w ∨ ∃ j', job = some j' ∧ j'.requestId = j.requestId ∧
        j'.state ≠ .finished) (hfailed : w.jobFailed = true → jobFailed = true) :
    ErasureInv { w with job := job, jobFailed := jobFailed } where
  untouched id hid := by
    refine ⟨fun hfound => ?_, (h.untouched id hid).2⟩
    have hcancelled : w.is (·.cancelled) id = true := hid
    rw [hhand id hfound] at hcancelled
    cases hcancelled
  executed := h.executed
  rows := h.rows
  jobs := hjobs
  queued id hid := by
    obtain h' | h' | h' | ⟨j, hjob, rfl, hstate⟩ := h.queued id hid
    · exact .inl h'
    · exact .inr (.inl h')
    · exact .inr (.inr (.inl (hfailed h')))
    · rcases hqueued with hfail | hkept
      · exact .inr (.inr (.inl hfail))
      · rcases hkept j hjob hstate with (hserved | hserved) | hjob'
        · exact .inl hserved
        · exact .inr (.inl hserved)
        · exact .inr (.inr (.inr hjob'))
  accepted := h.accepted
  cancelled := h.cancelled

/-- A worker changes what it knows of its job, or how far it is. -/
theorem ErasureInv.setJob (h : ErasureInv w) (i : Nat) (f : ErasureJob → ErasureJob)
    (jobFailed : Bool) (hid : ∀ job, (f job).requestId = job.requestId)
    (hhand : ∀ job worker id, (f job).state = .active worker (some id) →
      w.is (·.cancelled) id = false)
    (hserved : jobFailed = true ∨ (∀ job, (f job).state ≠ .finished) ∨
      ∀ requestId found, Holds i requestId found w → Served requestId w)
    (hfailed : w.jobFailed = true → jobFailed = true) :
    ErasureInv { w.setJob i f with jobFailed := jobFailed } := by
  obtain hsame | ⟨requestId, n, found, hjob, hset⟩ := setJob_cases w i f
  · rw [hsame]
    refine h.withJob w.job jobFailed (fun id hfound => ?_) h.jobs
      (.inr fun j hj hstate => .inr ⟨j, hj, rfl, hstate⟩) hfailed
    by_contra hcancelled
    exact (h.untouched id (by simpa using hcancelled)).1 hfound
  · rw [hset]
    refine h.withJob _ jobFailed (fun id hfound => ?_) (fun j hj => ?_) ?_ hfailed
    · simp only [ErasureWorld.inHand] at hfound
      split at hfound
      next worker found' heq =>
        subst hfound
        exact hhand _ worker id (by rw [Option.some.inj heq])
      next => cases hfound
    · obtain rfl := Option.some.inj hj
      rw [hid]
      exact h.jobs _ hjob
    · rcases hserved with hfail | hgoing | hserved
      · exact .inl hfail
      all_goals
        refine .inr fun j hj _ => ?_
        rw [hjob] at hj
        obtain rfl := Option.some.inj hj
      · exact .inr ⟨_, rfl, hid _, hgoing _⟩
      · exact .inl (hserved requestId found ⟨n, hjob⟩)

/-- Changes to the rows alone. -/
theorem ErasureInv.withRequests (h : ErasureInv w) (requests : List ErasureRequest)
    (hgrows : Grows w { w with requests := requests })
    (hcancelled : ∀ r id, requests[id]? = some r → r.cancelled = true →
      w.is (·.cancelled) id = true ∨ (w.inHand ≠ some id ∧ id ∉ w.anonymisedBy))
    (hexecuted : ∀ r id, requests[id]? = some r → r.executed = true →
      w.is (·.executed) id = true ∨ id ∈ w.anonymisedBy) :
    ErasureInv { w with requests := requests } where
  untouched id hid := by
    obtain ⟨r, hr, hr'⟩ := is_iff.mp hid
    rcases hcancelled r id hr hr' with hold | hnew
    · exact h.untouched id hold
    · exact hnew
  executed id hid := by
    obtain ⟨r, hr, hr'⟩ := is_iff.mp hid
    rcases hexecuted r id hr hr' with hold | hnew
    · exact h.executed id hold
    · exact hnew
  rows id hid := hgrows.rows _ lasting_true id (h.rows id hid)
  jobs := h.jobs
  queued id hid := (h.queued id hid).imp_left (hgrows.rows _ lasting_cancelled id)
  accepted := h.accepted
  cancelled id hid := hgrows.rows _ lasting_cancelled id (h.cancelled id hid)

/-! One lemma for each call that changes something. -/

section Calls

variable {i : Nat} {e : ErasureEnv}

theorem ErasureInv.findPending (h : ErasureInv w) (requestId : Nat) :
    ErasureInv (performErasure i e w (.findPendingErasureRequest (some requestId))).2 := by
  simp only [performErasure]
  split
  next hnewest =>
    rw [← setJob_failed]
    refine h.setJob i (fun job => { job with state := .active i (some requestId) })
      w.jobFailed (fun _ => rfl) (fun job worker id hid => ?_) (.inr (.inl fun _ => by simp))
      fun hfailed => hfailed
    cases hid
    obtain ⟨r, hr, hpending⟩ := is_iff.mp (is_of_newest hnewest)
    simp only [ErasureRequest.pending, Bool.and_eq_true, Bool.not_eq_true'] at hpending
    simp [ErasureWorld.is, hr, hpending.1]
  next => exact h

theorem ErasureInv.create (h : ErasureInv w) (adminId : Option Uuid) :
    ErasureInv (performErasure i e w (.createErasureRequest adminId)).2 := by
  refine h.withRequests _ (perform_grows i e w (.createErasureRequest adminId))
    (fun r id hr hr' => ?_) fun r id hr hr' => ?_
  all_goals
    left
    rw [List.getElem?_append] at hr
    split at hr
  · exact is_iff.mpr ⟨r, hr, hr'⟩
  · obtain rfl := List.mem_singleton.mp (List.mem_of_getElem? hr)
    cases hr'
  · exact is_iff.mpr ⟨r, hr, hr'⟩
  · obtain rfl := List.mem_singleton.mp (List.mem_of_getElem? hr)
    cases hr'

theorem ErasureInv.cancel (h : ErasureInv w) {found : Nat}
    (horder : InOrder w (.cancelErasureRequest found)) :
    ErasureInv (performErasure i e w (.cancelErasureRequest found)).2 := by
  refine h.withRequests _ (perform_grows i e w (.cancelErasureRequest found))
    (fun r id hr hr' => ?_) fun r id hr hr' => ?_
  all_goals
    rw [List.getElem?_map, Option.map_eq_some_iff] at hr
    obtain ⟨old, hold, rfl⟩ := hr
    split at hr'
  next hself => exact .inr (horder id (.inr (is_iff.mpr ⟨old, hold, hself⟩)))
  next => exact .inl (is_iff.mpr ⟨old, hold, hr'⟩)
  next => exact .inl (is_iff.mpr ⟨old, hold, hr'⟩)
  next => exact .inl (is_iff.mpr ⟨old, hold, hr'⟩)

theorem ErasureInv.markExecuted (h : ErasureInv w) {requestId : Nat}
    (hready : Ready i w (.markErasureExecuted requestId)) :
    ErasureInv (performErasure i e w (.markErasureExecuted requestId)).2 := by
  refine h.withRequests _ (perform_grows i e w (.markErasureExecuted requestId))
    (fun r id hr hr' => ?_) fun r id hr hr' => ?_
  all_goals
    rw [List.getElem?_modify, Option.map_eq_map, Option.map_eq_some_iff] at hr
    obtain ⟨old, hold, rfl⟩ := hr
    split at hr'
  · exact .inl (is_iff.mpr ⟨old, hold, hr'⟩)
  · exact .inl (is_iff.mpr ⟨old, hold, hr'⟩)
  next heq =>
    subst heq
    exact .inr hready
  · exact .inl (is_iff.mpr ⟨old, hold, hr'⟩)

theorem ErasureInv.enqueue (h : ErasureInv w) {requestId : Nat}
    (hready : Ready i w (.enqueueGdprErasure requestId))
    (horder : InOrder w (.enqueueGdprErasure requestId)) :
    ErasureInv (performErasure i e w (.enqueueGdprErasure requestId)).2 := by
  have henqueued : ∀ id ∈ requestId :: w.enqueued, w.is (fun _ => true) id = true := by
    intro id hid
    rcases List.mem_cons.mp hid with rfl | hid
    · exact hready
    · exact h.rows id hid
  cases hjob : w.job with
  | none =>
      simp only [performErasure, hjob]
      refine ⟨fun id hid => ⟨fun hfound => (by cases hfound), (h.untouched id hid).2⟩,
        h.executed, henqueued, fun job hj => ?_, fun id hid => ?_,
        fun id hid => List.mem_cons_of_mem _ (h.accepted id hid), h.cancelled⟩
      · cases hj
        exact List.mem_cons_self
      · rcases List.mem_cons.mp hid with rfl | hid
        · exact .inr (.inr (.inr ⟨_, rfl, rfl, by simp⟩))
        · obtain h' | h' | h' | ⟨job, hj, -⟩ := h.queued id hid
          · exact .inl h'
          · exact .inr (.inl h')
          · exact .inr (.inr (.inl h'))
          · rw [hjob] at hj
            cases hj
  | some job =>
      have hsame : (performErasure i e w (.enqueueGdprErasure requestId)).2 =
          { w with enqueued := requestId :: w.enqueued } := by
        simp only [performErasure, hjob]
        rfl
      rw [hsame]
      refine ⟨h.untouched, h.executed, henqueued,
        fun j hj => List.mem_cons_of_mem _ (h.jobs j hj), fun id hid => ?_,
        fun id hid => List.mem_cons_of_mem _ (h.accepted id hid), h.cancelled⟩
      rcases List.mem_cons.mp hid with rfl | hid
      · rcases horder with hnone | hcancelled | hanonymised
        · rw [hjob] at hnone
          cases hnone
        · exact .inl hcancelled
        · exact .inr (.inl hanonymised)
      · exact h.queued id hid

theorem ErasureInv.removeJob (h : ErasureInv w)
    (horder : InOrder w .removeJob) :
    ErasureInv (performErasure i e w .removeJob).2 := by
  simp only [performErasure]
  split
  next => exact h
  next hactive =>
    refine h.withJob none w.jobFailed (fun id hid => by cases hid) (fun j hj => by cases hj)
      (.inr fun j hj hstate => .inl ?_) fun hfailed => hfailed
    obtain ⟨requestId, n, state⟩ := j
    cases state with
    | waiting => exact served_of_not_pending h (h.jobs _ hj) (horder _ hj rfl)
    | active worker found => exact absurd hj (hactive _ _ _ _)
    | finished => exact absurd rfl hstate

theorem ErasureInv.takeJob (h : ErasureInv w) :
    ErasureInv (performErasure i e w .takeJob).2 := by
  simp only [performErasure]
  split
  next requestId n hjob =>
    refine h.withJob _ w.jobFailed (fun id hid => by cases hid) (fun j hj => ?_)
      (.inr fun j hj hstate => .inr ?_) fun hfailed => hfailed
    · cases hj
      exact h.jobs ⟨requestId, n, .waiting⟩ hjob
    · rw [hjob] at hj
      cases hj
      exact ⟨_, rfl, rfl, ErasureJobState.noConfusion⟩
  next => exact h

theorem ErasureInv.anonymizeUser (h : ErasureInv w) {requestId : Nat}
    (hready : Ready i w (.anonymizeUser requestId)) :
    ErasureInv (performErasure i e w (.anonymizeUser requestId)).2 := by
  obtain ⟨n, hjob⟩ := hready
  refine ⟨fun id hid => ⟨(h.untouched id hid).1, ?_⟩,
    fun id hid => List.mem_cons_of_mem _ (h.executed id hid), h.rows, h.jobs,
    fun id _ => .inr (.inl (List.cons_ne_nil _ _)), h.accepted, h.cancelled⟩
  refine List.not_mem_cons_of_ne_of_not_mem ?_ (h.untouched id hid).2
  rintro rfl
  exact (h.untouched id hid).1 (by rw [ErasureWorld.inHand, hjob])

theorem ErasureInv.respond (h : ErasureInv w) {response : ErasureResponse}
    (hready : Ready i w (.respond response)) :
    ErasureInv (performErasure i e w (.respond response)).2 := by
  refine ⟨h.untouched, h.executed, h.rows, h.jobs, h.queued, fun id hid => ?_, fun id hid => ?_⟩
  all_goals rcases List.mem_cons.mp hid with rfl | hid
  · exact hready
  · exact h.accepted id hid
  · exact hready
  · exact h.cancelled id hid

theorem ErasureInv.completeJob (h : ErasureInv w)
    (hready : Ready i w .completeJob) :
    ErasureInv (performErasure i e w .completeJob).2 := by
  simp only [performErasure]
  rw [← setJob_failed]
  refine h.setJob i (fun job => { job with state := .finished }) w.jobFailed (fun _ => rfl)
    (fun job worker id hid => by cases hid) (.inr (.inr hready)) fun hfailed => hfailed

theorem ErasureInv.failJob (h : ErasureInv w) :
    ErasureInv (performErasure i e w .failJob).2 := by
  refine h.setJob i _ true (fun _ => rfl) (fun job worker id hid => ?_) (.inl rfl) fun _ => rfl
  dsimp only at hid
  split at hid
  · cases hid
  · cases hid

end Calls

/-- One step: a call made where it may be made, and in order, keeps the invariant. -/
theorem perform_inv {i : Nat} {e : ErasureEnv} {op : ErasureOp} (h : ErasureInv w)
    (hready : Ready i w op) (horder : InOrder w op) : ErasureInv (performErasure i e w op).2 := by
  cases op with
  | findPendingErasureRequest job =>
      cases job with
      | none => exact h
      | some requestId => exact h.findPending requestId
  | createErasureRequest adminId => exact h.create adminId
  | cancelErasureRequest found => exact h.cancel horder
  | markErasureExecuted requestId => exact h.markExecuted hready
  | enqueueGdprErasure requestId => exact h.enqueue hready horder
  | removeJob => exact h.removeJob horder
  | takeJob => exact h.takeJob
  | anonymizeUser requestId => exact h.anonymizeUser hready
  | respond response => exact h.respond hready
  | completeJob => exact h.completeJob hready
  | failJob => exact h.failJob
  | findUserById | findPendingSelfErasureRequest | getJob | insertAuditLog _ _
  | revokeAllUserRefreshTokens => exact h

theorem exec_inv {i : Nat} {e : ErasureEnv} {op : ErasureOp} (h : ErasureInv w)
    (hready : Ready i w op) (horder : InOrder w op) :
    ErasureInv ((erasureMachine i).exec e op w).2 :=
  exec_world h (perform_inv h hready horder)

/-- A job in the hands of a worker is left alone by everybody else. -/
theorem exec_holds {i j : Nat} {e : ErasureEnv} {op : ErasureOp} {requestId : Nat}
    {found : Option Nat} (hij : i ≠ j) (h : Holds i requestId found w) :
    Holds i requestId found ((erasureMachine j).exec e op w).2 := by
  refine exec_world h ?_
  obtain ⟨n, hjob⟩ := h
  have hset : ∀ f, w.setJob j f = w := by
    intro f
    obtain hsame | ⟨_, _, _, hjob', -⟩ := setJob_cases w j f
    · exact hsame
    · rw [hjob] at hjob'
      cases hjob'
      exact absurd rfl hij
  refine ⟨n, ?_⟩
  cases op with
  | findPendingErasureRequest job =>
      cases job with
      | none => exact hjob
      | some id =>
          simp only [performErasure]
          split
          · rw [hset]
            exact hjob
          · exact hjob
  | enqueueGdprErasure id => simp [performErasure, hjob]
  | removeJob => simp [performErasure, hjob]
  | takeJob => simp [performErasure, hjob]
  | completeJob => simp only [performErasure, hset, hjob]
  | failJob => simp only [performErasure, hset, hjob]
  | _ => exact hjob

end Steps

/-! ### The programs -/

/-- What program `i` counts on, whatever the others do. -/
structure ErasureRely (i : Nat) (w w' : ErasureWorld) : Prop where
  inv : ErasureInv w'
  grows : Grows w w'
  holds : ∀ requestId found, Holds i requestId found w → Holds i requestId found w'

/-- An assertion that stays true as things happen. -/
def Stays (A : ErasureWorld → Prop) : Prop := ∀ w w', A w → Grows w w' → A w'

theorem stays_is {test : ErasureRequest → Bool} (h : Lasting test) (id : Nat) :
    Stays fun w => w.is test id = true := fun _ _ hid hgrows => hgrows.rows test h id hid

theorem stays_enqueued (id : Nat) : Stays fun w => id ∈ w.enqueued :=
  fun _ _ hid hgrows => hgrows.enqueued id hid

theorem stays_served (id : Nat) : Stays (Served id) := fun _ _ hserved hgrows => by
  rcases hserved with hcancelled | hanonymised
  · exact .inl (hgrows.rows _ lasting_cancelled id hcancelled)
  · obtain ⟨other, hother⟩ := List.exists_mem_of_ne_nil _ hanonymised
    exact .inr (List.ne_nil_of_mem (hgrows.anonymised other hother))

section Programs

variable {i : Nat} {w : ErasureWorld}

/-- `p` is verified: it keeps the invariant, and ends in `Q` or with an error. -/
def ErasesWell (i : Nat) {α : Type} (p : Erasing α) (Q : α → ErasureWorld → Prop)
    (w : ErasureWorld) : Prop :=
  p.wp (erasureMachine i).among (Among (ErasureRely i) (ErasureGuard i)) ErasureInv
    (Prog.Ends Q fun _ _ => True) w

/-- One call, from an assertion the others leave alone. -/
theorem erases_call {op : ErasureOp} {A : ErasureWorld → Prop}
    {Q : erasureSig.Ans op → ErasureWorld → Prop}
    (hstable : ∀ w w', A w → ErasureRely i w w' → A w') (hw : A w)
    (hready : ∀ w', A w' → Ready i w' op)
    (h : ∀ w' e a, ErasureInv w' → A w' → InOrder w' op → (performErasure i e w' op).1 = .ok a →
      Q a (performErasure i e w' op).2) :
    ErasesWell i (callErasure op) Q w := by
  refine Prog.wp_call_among hstable hw fun w' e hrely hw' hguard => ?_
  refine ⟨exec_inv hrely.inv (hready w' hw') hguard, ?_⟩
  cases hanswer : ((erasureMachine i).exec e op w').1 with
  | error err => trivial
  | ok a =>
      obtain ⟨hok, hworld⟩ := exec_ok hanswer
      show Q a _
      rw [hworld]
      exact h w' e a hrely.inv hw' hguard hok

/-- A call of which the answer does not count. -/
theorem erases_call_world {op : ErasureOp} {A : ErasureWorld → Prop} (hstays : Stays A) (hw : A w)
    (hready : ∀ w', A w' → Ready i w' op) :
    ErasesWell i (callErasure op) (fun _ => A) w :=
  erases_call (fun _ _ hA hrely => hstays _ _ hA hrely.grows) hw hready
    fun w' e _ _ hA _ _ => hstays _ _ hA (perform_grows i e w' op)

theorem stays_true : Stays fun _ => True := fun _ _ _ _ => trivial

/-- A request that was made is in the queue, or was. -/
theorem requestErasure_erases (adminId : Option Uuid) (alreadyPending : String) :
    ErasesWell i (requestErasure adminId alreadyPending)
      (fun requestId w => requestId ∈ w.enqueued) w := by
  refine Prog.wp_bind (P := fun _ _ => True)
    (erases_call_world stays_true trivial fun _ _ => trivial) fun existing w _ => ?_
  cases existing with
  | some found => trivial
  | none =>
      refine Prog.wp_bind (P := fun requestId w => w.is (fun _ => true) requestId = true)
        (erases_call (A := fun _ => True) (fun _ _ _ _ => trivial) trivial (fun _ _ => trivial)
          fun w e requestId _ _ _ hok => ?_) fun requestId w hrow => ?_
      · cases hok
        exact is_iff.mpr ⟨_, List.getElem?_concat_length, rfl⟩
      refine Prog.wp_bind (P := fun _ w => requestId ∈ w.enqueued)
        (erases_call (fun w w' hid hrely => stays_is lasting_true requestId w w' hid hrely.grows)
          hrow (fun _ hid => hid) fun w e _ _ _ _ _ => List.mem_cons_self) fun _ w hid => hid

theorem postDeleteAccount_erases (toLowerCase : Text → Text) (email : Except ApiError Text) :
    ErasesWell i (postDeleteAccount toLowerCase email) (fun _ _ => True) w := by
  cases email with
  | error err => trivial
  | ok email =>
      refine Prog.wp_bind (p := callErasure .findUserById) (P := fun _ _ => True)
        (erases_call_world stays_true trivial fun _ _ => trivial) fun user w _ => ?_
      cases user with
      | none => trivial
      | some userEmail =>
          show Prog.wp _ _ _ (ite _ _ _) _ _
          split
          · trivial
          · refine Prog.wp_bind (requestErasure_erases none _) fun requestId w hid => ?_
            exact Prog.wp_weaken (erases_call_world (stays_enqueued requestId) hid fun _ h => h)
              (fun _ _ _ => trivial) fun _ _ h => h

theorem postErase_erases (adminId : Uuid) :
    ErasesWell i (postErase adminId) (fun _ _ => True) w := by
  refine Prog.wp_bind (P := fun _ _ => True)
    (erases_call_world stays_true trivial fun _ _ => trivial) fun target w _ => ?_
  cases target with
  | none => trivial
  | some _ =>
      refine Prog.wp_bind (requestErasure_erases _ _) fun requestId w hid => ?_
      refine Prog.wp_bind (erases_call_world (stays_enqueued requestId) hid fun _ _ => trivial)
        fun _ w hid => ?_
      exact Prog.wp_weaken (erases_call_world (stays_enqueued requestId) hid fun _ h => h)
        (fun _ _ _ => trivial) fun _ _ h => h

/-- A request that is found to be pending, and is not being acted on, is cancelled. -/
theorem deleteDeleteAccount_erases :
    ErasesWell i deleteDeleteAccount (fun _ _ => True) w := by
  refine Prog.wp_bind (P := fun pending w => ∀ found, pending = some found →
      w.is (·.adminId.isNone) found = true)
    (erases_call (A := fun _ => True) (fun _ _ _ _ => trivial) trivial (fun _ _ => trivial)
      fun w e pending _ _ _ hok found hfound => ?_) fun pending w hself => ?_
  · cases hok
    obtain ⟨r, hr, hself⟩ := is_iff.mp (is_of_newest hfound)
    exact is_iff.mpr ⟨r, hr, ((Bool.and_eq_true _ _).mp hself).1⟩
  cases pending with
  | none => trivial
  | some found =>
      have hcancel : ErasesWell i (callErasure (.cancelErasureRequest found))
          (fun _ w => w.is (·.cancelled) found = true) w := by
        refine erases_call
          (fun w w' hid hrely => stays_is lasting_self found w w' hid hrely.grows)
          (hself found rfl) (fun _ hid => hid) fun w e _ hinv hid horder _ => ?_
        obtain ⟨r, hr, hnone⟩ := is_iff.mp hid
        by_cases hpending : r.pending = true
        · have hself : r.pendingSelf = true := by
            rw [ErasureRequest.pendingSelf, hnone, hpending]
            rfl
          refine is_iff.mpr ⟨{ r with cancelled := true }, ?_, rfl⟩
          simp [performErasure, hr, hself]
        · have hsettled : w.is (·.pending) found = false := by
            simpa [ErasureWorld.is, hr] using hpending
          rcases settled_of_not_pending (is_iff.mpr ⟨r, hr, rfl⟩) hsettled with hdone | hdone
          · exact (perform_grows i e w _).rows _ lasting_cancelled found hdone
          · exact absurd (hinv.executed found hdone) (horder found (.inl rfl)).2
      have hstays := stays_is lasting_cancelled found
      refine Prog.wp_bind hcancel fun _ w hid => ?_
      refine Prog.wp_bind (erases_call_world hstays hid fun _ _ => trivial) fun job w hid => ?_
      have hrespond : ∀ w, w.is (·.cancelled) found = true →
          ErasesWell i (callErasure (.respond (.cancelled found))) (fun _ _ => True) w :=
        fun w hid => Prog.wp_weaken (erases_call_world hstays hid fun _ h => h)
          (fun _ _ _ => trivial) fun _ _ h => h
      cases job with
      | false => exact hrespond w hid
      | true =>
          exact Prog.wp_bind (erases_call_world hstays hid fun _ _ => trivial)
            fun _ w hid => hrespond w hid

/-- Worker `i` has anonymised the user for its job. -/
def Acting (i requestId : Nat) (w : ErasureWorld) : Prop :=
  Holds i requestId (some requestId) w ∧ requestId ∈ w.anonymisedBy

/-- The worker acts on the request of its job, or there is nothing left to do for it. -/
theorem processGdprErasureJob_erases {requestId : Nat} (h : Holds i requestId none w) :
    ErasesWell i (processGdprErasureJob requestId)
      (fun _ w => (∃ found, Holds i requestId found w) ∧ Served requestId w) w := by
  have hfind : ErasesWell i (callErasure (.findPendingErasureRequest (some requestId)))
      (fun request w => if request = some requestId then Holds i requestId (some requestId) w
        else Holds i requestId none w ∧ Served requestId w) w := by
    refine erases_call (fun _ _ h hrely => hrely.holds _ _ h) h (fun _ _ => trivial)
      fun w e request hinv hholds horder hok => ?_
    obtain ⟨n, hjob⟩ := hholds
    obtain rfl : w.newest (·.pending) = request := by
      cases hok
      rfl
    by_cases hnewest : w.newest (·.pending) = some requestId
    · rw [if_pos hnewest]
      simp only [performErasure, if_pos hnewest, ErasureWorld.setJob, hjob, if_true]
      exact ⟨n, rfl⟩
    · rw [if_neg hnewest]
      simp only [performErasure, if_neg hnewest]
      have hpending : w.is (·.pending) requestId = false := by
        by_contra hpending
        exact hnewest (horder (by simpa using hpending))
      exact ⟨⟨n, hjob⟩, served_of_not_pending hinv (hinv.jobs _ hjob) hpending⟩
  refine Prog.wp_bind hfind fun request w hw => ?_
  cases request with
  | none =>
      rw [if_neg (by simp)] at hw
      exact ⟨⟨none, hw.1⟩, hw.2⟩
  | some id =>
      by_cases hid : id = requestId
      · subst hid
        rw [if_pos rfl] at hw
        show Prog.wp _ _ _ (ite _ _ _) _ _
        rw [if_neg (by simp)]
        have hstable : ∀ w w', Acting i id w → ErasureRely i w w' → Acting i id w' :=
          fun w w' h hrely => ⟨hrely.holds _ _ h.1, hrely.grows.anonymised id h.2⟩
        refine Prog.wp_bind (P := fun _ => Acting i id)
          (erases_call (fun _ _ h hrely => hrely.holds _ _ h) hw (fun _ h => h)
            fun w e _ _ h _ _ => ⟨h, List.mem_cons_self⟩) fun _ w hw => ?_
        refine Prog.wp_bind (P := fun _ => Acting i id)
          (erases_call hstable hw (fun _ _ => trivial) fun w e _ _ h _ _ => h) fun _ w hw => ?_
        exact erases_call hstable hw (fun _ h => h.2)
          fun w e _ _ h _ _ => ⟨⟨some id, h.1⟩, .inr (List.ne_nil_of_mem h.2)⟩
      · rw [if_neg (by simpa using hid)] at hw
        show Prog.wp _ _ _ (ite _ _ _) _ _
        rw [if_pos hid]
        exact ⟨⟨none, hw.1⟩, hw.2⟩

theorem Holds.unique {requestId requestId' : Nat} {found found' : Option Nat}
    (h : Holds i requestId found w) (h' : Holds i requestId' found' w) :
    requestId = requestId' ∧ found = found' := by
  obtain ⟨n, hjob⟩ := h
  obtain ⟨n', hjob'⟩ := h'
  rw [hjob] at hjob'
  cases hjob'
  exact ⟨rfl, rfl⟩

theorem gdprErasureWorker_erases : ErasesWell i gdprErasureWorker (fun _ _ => True) w := by
  refine Prog.wp_bind (P := fun job w => ∀ requestId, job = some requestId →
      Holds i requestId none w)
    (erases_call (A := fun _ => True) (fun _ _ _ _ => trivial) trivial (fun _ _ => trivial)
      fun w e job _ _ _ hok requestId hjob => ?_) fun job w hjob => ?_
  · subst hjob
    simp only [performErasure] at hok ⊢
    split at hok
    · cases hok
      exact ⟨_, rfl⟩
    · cases hok
  cases job with
  | none => trivial
  | some requestId =>
      refine Prog.wp_tryCatch (P := fun _ _ => True) (Prog.wp_bind
        (processGdprErasureJob_erases (hjob requestId rfl)) fun _ w hw => ?_) fun _ w _ =>
          erases_call_world stays_true trivial fun _ _ => trivial
      refine Prog.wp_weaken (Q := fun _ _ => True) (R := fun _ _ => True) ?_ (fun _ _ h => h)
        fun _ _ h => h
      refine erases_call (A := fun w => (∃ found, Holds i requestId found w) ∧ Served requestId w)
        (fun w w' h hrely => ⟨h.1.imp fun _ => hrely.holds _ _, ?_⟩) hw (fun w h => ?_)
        fun _ _ _ _ _ _ _ => trivial
      · exact stays_served requestId w w' h.2 hrely.grows
      · intro requestId' found' hholds
        obtain ⟨found, hown⟩ := h.1
        obtain ⟨rfl, -⟩ := hown.unique hholds
        exact h.2

end Programs

/-! ### Every interleaving -/

theorem erasure_verified : Crew.Verified erasureMachine ErasureGuard ErasureProgram JobDropped
    ErasureInv ErasureRely fun _ _ => True where
  refl i w h := ⟨h, .refl w, fun _ _ => id⟩
  trans i w w' w'' h h' := ⟨h'.inv, h.grows.trans h'.grows, fun requestId found hholds =>
    h'.holds _ _ (h.holds _ _ hholds)⟩
  stays _ _ _ _ _ := trivial
  spawned i w p hp hinv _ := by
    have hwell : ErasesWell i p (fun _ _ => True) w := by
      obtain ⟨toLowerCase, email, rfl⟩ | rfl | ⟨adminId, rfl⟩ | rfl := hp
      · exact postDeleteAccount_erases toLowerCase email
      · exact deleteDeleteAccount_erases
      · exact postErase_erases adminId
      · exact gdprErasureWorker_erases
    exact Prog.wp_world (K := fun _ => True) hwell
  others i j w op e hij hinv hguard hinv' :=
    ⟨hinv', exec_grows j e op w, fun requestId found => exec_holds hij⟩
  drifted i w w' hinv hdrift := by
    cases hdrift with
    | @drop job hjob hstate =>
        have hinv' : ErasureInv { w with job := none } := by
          refine hinv.withJob none w.jobFailed (fun id hid => by cases hid)
            (fun j hj => by cases hj)
            (.inr fun j hj hgoing => ?_) fun hfailed => hfailed
          rw [hjob] at hj
          cases hj
          exact absurd hstate hgoing
        refine ⟨hinv', hinv', grows_of_rows rfl (fun _ => id) (fun _ => id), ?_⟩
        rintro requestId found ⟨n, hheld⟩
        rw [hjob] at hheld
        cases hheld
        cases hstate

/-- **Erasure requests do what was promised**, in every interleaving of requests,
cancellations and runs of the worker whose calls are in order. -/
theorem promisesKept_inOrder {w : ErasureWorld} {ps : List (Erasing Unit)}
    (h : Crew erasureMachine ErasureGuard ErasureProgram JobDropped quiet w ps) :
    PromisesKept w :=
  (erasure_verified.sound quiet_inv (fun _ => trivial) h).1.promisesKept

/-! ### One user -/

/-- No call fails. -/
def calmErasure : ErasureEnv := ⟨none, 0, some "a@example.com".toList⟩

def askErasure : Erasing Unit := postDeleteAccount id (.ok "a@example.com".toList)

def erasureSteps (i n : Nat) : List (Nat × ErasureEnv) := List.replicate n (i, calmErasure)

/-- The user asks, and the worker does what was asked. -/
theorem asked_and_erased :
    (playCrew erasureMachine (erasureSteps 0 5 ++ erasureSteps 1 6) quiet
      [askErasure, gdprErasureWorker]).1.anonymisedBy = [0] ∧
    PromisesKept (playCrew erasureMachine (erasureSteps 0 5 ++ erasureSteps 1 6) quiet
      [askErasure, gdprErasureWorker]).1 := by
  refine ⟨by decide +kernel, promisesKept_inOrder (Crew.play _
    (Crew.spawn (Crew.spawn .init (.inl ⟨id, _, rfl⟩)) (.inr (.inr (.inr rfl)))) ?_)⟩
  exact ⟨trivial, trivial, trivial, .inl rfl, trivial, trivial, fun _ => rfl, trivial, trivial,
    trivial, trivial, trivial⟩

/-- The user cancels when the worker has looked and not yet acted. -/
def cancelledTooLate : ErasureWorld × List (Erasing Unit) :=
  playCrew erasureMachine (erasureSteps 0 5 ++ erasureSteps 1 2 ++ erasureSteps 2 2 ++
    erasureSteps 1 4 ++ erasureSteps 2 3) quiet
    [askErasure, gdprErasureWorker, deleteDeleteAccount]

/-- The user asks twice at once: the second job is ignored, and the first is superseded. -/
def askedTwice : ErasureWorld × List (Erasing Unit) :=
  playCrew erasureMachine (erasureSteps 0 2 ++ erasureSteps 1 2 ++ erasureSteps 0 3 ++
    List.replicate 3 (1, { calmErasure with now := 1 }) ++ erasureSteps 2 3) quiet
    [askErasure, askErasure, gdprErasureWorker]

theorem promises_broken :
    (¬ ∀ (w : ErasureWorld) (ps : List (Erasing Unit)),
      Crew erasureMachine (fun _ _ _ e => e.fault = none) ErasureProgram JobDropped quiet w ps →
        (∀ r ∈ w.requests, ¬ (r.cancelled = true ∧ r.executed = true)) ∧
        ∀ id, .cancelled id ∈ w.responses → id ∉ w.anonymisedBy) ∧
    ¬ ∀ (w : ErasureWorld) (ps : List (Erasing Unit)),
      Crew erasureMachine (fun _ _ _ e => e.fault = none) ErasureProgram JobDropped quiet w ps →
        w.jobFailed = false → w.AllRun → ∀ id, .accepted id ∈ w.responses →
          w.is (·.cancelled) id = false → w.anonymisedBy ≠ [] := by
  have hask : ErasureProgram askErasure := .inl ⟨id, _, rfl⟩
  have hworker : ErasureProgram gdprErasureWorker := .inr (.inr (.inr rfl))
  constructor
  · intro hall
    have hreached : Crew erasureMachine (fun _ _ _ e => e.fault = none) ErasureProgram JobDropped
        quiet cancelledTooLate.1 cancelledTooLate.2 :=
      Crew.play _ (Crew.spawn (Crew.spawn (Crew.spawn .init hask) hworker) (.inr (.inl rfl)))
        (by decide +kernel)
    have hcancelled := (hall _ _ hreached).2 0 (by decide +kernel)
    revert hcancelled
    decide +kernel
  · intro hall
    have hreached : Crew erasureMachine (fun _ _ _ e => e.fault = none) ErasureProgram JobDropped
        quiet askedTwice.1 askedTwice.2 :=
      Crew.play _ (Crew.spawn (Crew.spawn (Crew.spawn .init hask) hask) hworker)
        (by decide +kernel)
    refine hall _ _ hreached (by decide +kernel) ?_ 0 (by decide +kernel) (by decide +kernel)
      (by decide +kernel)
    have hjob : askedTwice.1.job = some ⟨0, 0, .finished⟩ := by decide +kernel
    intro job h
    rw [hjob] at h
    cases h
    rfl

end BrandBlitz.Retention
