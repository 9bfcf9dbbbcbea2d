import BrandBlitz.Comments.Posting
import BrandBlitz.Lib.Windows
import Mathlib.Order.Interval.Set.LinearOrder

/-!
# BrandBlitz.Comments.Limits

**The limits of comments hold**, however many calls of `addChallengeComment` are interleaved with
each other and with soft deletes, and whatever statements fail.

Who gets past the lock on a user is the only one that writes comments of that user until its end,
so what it has counted can only become fewer. It has counted all that is not older than a minute
before its start, what came later included, so the order of the starts does not matter. The share
of the challenge's row keeps the challenge open.

A user that is not found is not locked. Such a call may insert a comment all the same, but it does
not get to its `COMMIT`.
-/

namespace BrandBlitz.Comments

open BrandBlitz.Lib
open BrandBlitz.Lib.Windows (narrow_Ico narrow_Ioc length_narrow_append_le)
open BrandBlitz.Paging (Uuid Timestamp)
open BrandBlitz.Payout (ChallengeStatus)

/-! ### What holds of the tables -/

def Tables.commentsOf (tables : Tables) (userId : Uuid) : List ChallengeComment :=
  tables.comments.filter fun comment => comment.userId = userId

/-- The comments of a user in a window. -/
def Tables.within (tables : Tables) (userId : Uuid) (W : Timestamp → Prop) [DecidablePred W] :
    List ChallengeComment :=
  (tables.commentsOf userId).filter fun comment => W comment.createdAt

/-- Two comments of a user less than a minute apart. -/
structure Close (comment comment' : ChallengeComment) : Prop where
  user : comment.userId = comment'.userId
  before : comment.createdAt < comment'.createdAt + minute
  after : comment'.createdAt < comment.createdAt + minute

section

variable (directory : Directory)

structure Tables.Limited (tables : Tables) : Prop where
  few : ∀ userId start, (tables.within userId (· ∈ Set.Ico start (start + minute))).length ≤ 5
  few' : ∀ userId start, (tables.within userId (· ∈ Set.Ioc start (start + minute))).length ≤ 5
  distinct : tables.comments.Pairwise fun comment comment' => Close comment comment' →
    directory.lower comment.body ≠ directory.lower comment'.body

/-- A comment would be within the limits. -/
structure Tables.Room (tables : Tables) (userId : Uuid) (body : Text) (now : Timestamp) :
    Prop where
  few : (tables.recent userId now).length < 5
  distinct : ∀ comment ∈ tables.recent userId now,
    directory.lower comment.body ≠ directory.lower body

end

section Tables

variable {directory : Directory} {tables tables' : Tables} {userId : Uuid} {body : Text}
  {now : Timestamp} {comment : ChallengeComment}

theorem Tables.Limited.of_sublist (h : tables.Limited directory)
    (hsub : tables'.comments.Sublist tables.comments) : tables'.Limited directory where
  few userId start := (((hsub.filter _).filter _).length_le).trans (h.few userId start)
  few' userId start := (((hsub.filter _).filter _).length_le).trans (h.few' userId start)
  distinct := h.distinct.sublist hsub

theorem Tables.Room.of_sublist (h : tables.Room directory userId body now)
    (hsub : (tables'.commentsOf userId).Sublist (tables.commentsOf userId)) :
    tables'.Room directory userId body now where
  few := Nat.lt_of_le_of_lt (hsub.filter _).length_le h.few
  distinct comment hmem := h.distinct comment ((hsub.filter _).subset hmem)

theorem commentsOf_insert (tables : Tables) (comment : ChallengeComment) :
    (tables.insert comment).commentsOf userId =
      if comment.userId = userId then tables.commentsOf userId ++ [comment]
      else tables.commentsOf userId := by
  rw [Tables.commentsOf, Tables.insert, List.filter_append, List.filter_singleton]
  split
  · rename_i huser
    rw [decide_eq_true huser]
    rfl
  · rename_i huser
    rw [decide_eq_false huser]
    exact List.append_nil _

/-- No window gets too full. -/
theorem Tables.Room.length_within_insert (W : Timestamp → Prop) [DecidablePred W]
    (hroom : tables.Room directory comment.userId comment.body comment.createdAt)
    (hW : Windows.Narrow minute W) (h : (tables.within userId W).length ≤ 5) :
    ((tables.insert comment).within userId W).length ≤ 5 := by
  rw [Tables.within, commentsOf_insert]
  split
  · rename_i huser
    subst huser
    exact length_narrow_append_le hW h hroom.few
  · exact h

/-- **A comment for which there is room keeps the limits**, whenever it was created. -/
theorem Tables.Limited.insert (h : tables.Limited directory)
    (hroom : tables.Room directory comment.userId comment.body comment.createdAt) :
    (tables.insert comment).Limited directory where
  few userId start := hroom.length_within_insert _ (narrow_Ico _ _) (h.few userId start)
  few' userId start := hroom.length_within_insert _ (narrow_Ioc _ _) (h.few' userId start)
  distinct := by
    refine List.pairwise_append.mpr ⟨h.distinct, List.pairwise_singleton _ _,
      fun other hother new hnew hclose => ?_⟩
    obtain rfl := List.mem_singleton.mp hnew
    refine hroom.distinct other (List.mem_filter.mpr ⟨List.mem_filter.mpr ⟨hother, ?_⟩, ?_⟩)
    · exact decide_eq_true hclose.user
    · exact decide_eq_true (sub_lt_iff_lt_add.mpr hclose.after)

theorem room_of_recentRow (hcount : ¬ 5 ≤ (directory.recentRow tables userId body now).count)
    (hduplicate : (directory.recentRow tables userId body now).duplicate = false) :
    tables.Room directory userId body now where
  few := Nat.lt_of_not_le hcount
  distinct comment hmem := of_decide_eq_false (by
    simpa using List.any_eq_false.mp hduplicate comment hmem)

theorem softDelete_sublist (tables : Tables) (challengeId : Uuid) (now : Timestamp) :
    (tables.softDelete challengeId now).comments.Sublist tables.comments := by
  unfold Tables.softDelete
  dsimp only
  split
  · exact List.filter_sublist
  · exact .refl _

/-- The other challenges stay as they are. -/
theorem isOpen_softDelete {challengeId id : Uuid} (hne : id ≠ challengeId) :
    (tables.softDelete challengeId now).isOpen id = tables.isOpen id := by
  rw [Tables.isOpen, Tables.softDelete, List.any_map, Tables.isOpen]
  refine congrArg (tables.challenges.any ·) (funext fun challenge => ?_)
  by_cases hid : challenge.id = challengeId
  · have hother : challenge.id ≠ id := fun heq => hne (heq.symm.trans hid)
    simp only [Function.comp]
    split <;> simp [hother]
  · simp [hid]

theorem foldl_insert (comments : List ChallengeComment) :
    ∀ tables : Tables, comments.foldl Tables.insert tables =
      ⟨tables.challenges, tables.comments ++ comments⟩ := by
  induction comments with
  | nil => intro tables; simp
  | cons comment comments ih => intro tables; simp [ih, Tables.insert]

end Tables

/-! ### Transactions in flight -/

structure Inv (directory : Directory) (tables : Tables) (w : World) : Prop where
  limited : w.db.committed.Limited directory
  recorded : ∀ comment ∈ w.db.committed.comments,
    comment ∈ tables.comments ∨ ⟨comment, true⟩ ∈ w.written
  onOpen : ∀ entry ∈ w.written, entry.onOpen = true
  shared : ∀ i challengeId, i ∈ w.sharers challengeId →
    w.db.committed.isOpen challengeId = true
  held : ∀ i userId, w.db.holder userId = some i → (directory.activeUser userId).isSome = true
  /-- who writes has locked the user, if there is one -/
  locked : ∀ i comment, w.db.Pending i comment →
    w.db.holder comment.userId = some i ∨ directory.activeUser comment.userId = none

/-- What others do while call `i` waits. -/
structure Rely (directory : Directory) (tables : Tables) (i : Nat) (w w' : World) : Prop where
  inv : Inv directory tables w'
  alone : TxStore.Alone i w.db w'.db
  sharers : ∀ challengeId, i ∈ w'.sharers challengeId ↔ i ∈ w.sharers challengeId
  began : w'.began i = w.began i
  comments : ∀ userId, w.db.holder userId = some i →
    (w'.db.committed.commentsOf userId).Sublist (w.db.committed.commentsOf userId)

section

variable {directory : Directory} {tables : Tables} {i j : Nat} {w w' w'' : World}
  {comment : ChallengeComment}

theorem Rely.refl (h : Inv directory tables w) : Rely directory tables i w w :=
  ⟨h, .refl, fun _ => Iff.rfl, rfl, fun _ _ => .refl _⟩

theorem Rely.trans (h : Rely directory tables i w w') (h' : Rely directory tables i w' w'') :
    Rely directory tables i w w'' where
  inv := h'.inv
  alone := h.alone.trans h'.alone
  sharers challengeId := (h'.sharers challengeId).trans (h.sharers challengeId)
  began := h'.began.trans h.began
  comments userId hheld :=
    (h'.comments userId ((h.alone.holder userId).mpr hheld)).trans (h.comments userId hheld)

/-! ### The invariant through one operation -/

/-- A step that commits nothing, after which some of the transactions are still in flight. -/
theorem Inv.kept (h : Inv directory tables w) (keep : Nat → Prop)
    (hcommitted : w'.db.committed = w.db.committed) (hwritten : w'.written = w.written)
    (hsharers : ∀ j challengeId, j ∈ w'.sharers challengeId → j ∈ w.sharers challengeId)
    (hpending : ∀ j comment, w'.db.Pending j comment → keep j ∧ w.db.Pending j comment)
    (hholder : ∀ j userId, w'.db.holder userId = some j → w.db.holder userId = some j)
    (hkept : ∀ j userId, keep j → w.db.holder userId = some j → w'.db.holder userId = some j) :
    Inv directory tables w' where
  limited := by rw [hcommitted]; exact h.limited
  recorded := by rw [hcommitted, hwritten]; exact h.recorded
  onOpen := by rw [hwritten]; exact h.onOpen
  shared j challengeId hj := by rw [hcommitted]; exact h.shared j _ (hsharers j _ hj)
  held j userId hj := h.held j userId (hholder j _ hj)
  locked j comment hj := by
    obtain ⟨hkeep, hwas⟩ := hpending j comment hj
    exact (h.locked j comment hwas).imp (hkept j _ hkeep) (fun h => h)

/-- Who does not have to wait for a user can lock it. -/
theorem free_of_waits {userId : Uuid} (hactive : (directory.activeUser userId).isSome = true)
    (hfree : w.waits directory i (.client (.selectUser userId)) = false) :
    (w.db.holder userId).filter (· ≠ i) = none := by
  rw [World.waits, hactive, Bool.true_and] at hfree
  rw [Option.filter_eq_none_iff]
  intro j hj
  simpa [hj] using hfree

theorem mem_sharers_finish {db : TxStore Tables ChallengeComment Uuid} {challengeId : Uuid} :
    j ∈ (w.finish i db).sharers challengeId ↔ j ∈ w.sharers challengeId ∧ j ≠ i := by
  simp [World.finish]

theorem mem_sharers_commit {challengeId : Uuid} :
    j ∈ (w.commit i).sharers challengeId ↔ j ∈ w.sharers challengeId ∧ j ≠ i := by
  simp [World.commit, World.finish]

theorem Inv.abort (h : Inv directory tables w) (i : Nat) : Inv directory tables (w.abort i) :=
  h.kept (· ≠ i) rfl rfl (fun _ _ hj => (mem_sharers_finish.mp hj).1)
    (fun _ _ => (TxStore.pending_finish _).mp)
    (fun _ _ hj => ((TxStore.finish_holder_eq_some_iff ..).mp hj).1)
    fun _ _ hne hj => (TxStore.finish_holder_eq_some_iff ..).mpr ⟨hj, hne⟩

theorem Inv.start (h : Inv directory tables w) (i : Nat) (began : Nat → Timestamp) :
    Inv directory tables { w with db := w.db.start i, began := began } :=
  h.kept (· ≠ i) rfl rfl (fun _ _ hj => hj) (fun _ _ => (TxStore.pending_start _).mp)
    (fun _ _ hj => hj) fun _ _ _ hj => hj

theorem Inv.lock (h : Inv directory tables w) {userId : Uuid}
    (hactive : (directory.activeUser userId).isSome = true)
    (hfree : (w.db.holder userId).filter (· ≠ i) = none) :
    Inv directory tables { w with db := w.db.lock i userId } where
  limited := h.limited
  recorded := h.recorded
  onOpen := h.onOpen
  shared := h.shared
  held j userId' hj := by
    by_cases huser : userId' = userId
    · rw [huser]
      exact hactive
    · rw [TxStore.lock_holder_of_ne _ _ _ huser] at hj
      exact h.held j userId' hj
  locked j comment hj :=
    (h.locked j comment hj).imp_left (TxStore.lock_holder_of_holder hfree)

theorem Inv.share (h : Inv directory tables w) {challengeId : Uuid}
    (hopen : w.db.committed.isOpen challengeId = true) :
    Inv directory tables
      { w with sharers := Function.update w.sharers challengeId (i :: w.sharers challengeId) } where
  limited := h.limited
  recorded := h.recorded
  onOpen := h.onOpen
  shared j id hj := by
    by_cases hid : id = challengeId
    · rw [hid]
      exact hopen
    · have hwas : j ∈ Function.update w.sharers challengeId (i :: w.sharers challengeId) id := hj
      rw [Function.update_of_ne hid] at hwas
      exact h.shared j id hwas
  held := h.held
  locked := h.locked

theorem write_singleton (hopen : w.db.committed.isOpen comment.challengeId = true) :
    w.write [comment] = [⟨comment, true⟩] := by
  rw [World.write, List.map_singleton, hopen]

/-- A comment of an open transaction, on a challenge that it shares. -/
theorem Inv.write (h : Inv directory tables w) (comment : ChallengeComment)
    (hwrites : w.db.writes i = some [])
    (hshares : i ∈ w.sharers comment.challengeId)
    (hlocked : w.db.holder comment.userId = some i ∨
      directory.activeUser comment.userId = none) :
    Inv directory tables
      { w with db := w.db.write i [comment], written := w.written ++ w.write [comment] } where
  limited := h.limited
  recorded other hother := (h.recorded other hother).imp_right (List.mem_append_left _)
  onOpen entry hentry := by
    rw [write_singleton (h.shared i _ hshares)] at hentry
    rcases List.mem_append.mp hentry with hentry | hentry
    · exact h.onOpen entry hentry
    · rw [List.mem_singleton.mp hentry]
  shared := h.shared
  held := h.held
  locked j other hj := by
    rcases (TxStore.pending_write _ hwrites).mp hj with hj | ⟨rfl, hmem⟩
    · exact h.locked j other hj
    · rw [List.mem_singleton.mp hmem]
      exact hlocked

/-- The end of a transaction that has inserted a comment for which there is room. -/
theorem Inv.commit (h : Inv directory tables w) (hwrites : w.db.writes i = some [comment])
    (hshares : i ∈ w.sharers comment.challengeId)
    (hroom : w.db.committed.Room directory comment.userId comment.body comment.createdAt) :
    Inv directory tables (w.commit i) := by
  have hcommitted : (w.commit i).db.committed = w.db.committed.insert comment := by
    show w.db.view Tables.insert i = _
    rw [TxStore.view, hwrites]
    rfl
  have hwritten : (w.commit i).written = w.written ++ [⟨comment, true⟩] := by
    show w.written ++ w.write ((w.db.writes i).getD []) = _
    rw [hwrites, Option.getD_some, write_singleton (h.shared i _ hshares)]
  refine ⟨?_, ?_, ?_, fun j id hj => ?_, fun j userId hj => ?_, fun j other hj => ?_⟩
  · rw [hcommitted]
    exact h.limited.insert hroom
  · rw [hcommitted, hwritten]
    intro other hother
    rcases List.mem_append.mp hother with hother | hother
    · exact (h.recorded other hother).imp_right (List.mem_append_left _)
    · rw [List.mem_singleton.mp hother]
      exact .inr (List.mem_append_right _ (List.mem_singleton_self _))
  · rw [hwritten]
    intro entry hentry
    rcases List.mem_append.mp hentry with hentry | hentry
    · exact h.onOpen entry hentry
    · rw [List.mem_singleton.mp hentry]
  · rw [hcommitted]
    exact h.shared j id (mem_sharers_commit.mp hj).1
  · exact h.held j userId ((TxStore.finish_holder_eq_some_iff ..).mp hj).1
  · obtain ⟨hne, hwas⟩ := (TxStore.pending_finish _).mp hj
    exact (h.locked j other hwas).imp_left fun hheld =>
      (TxStore.finish_holder_eq_some_iff ..).mpr ⟨hheld, hne⟩

/-- Nobody shares the row. -/
theorem Inv.softDelete (h : Inv directory tables w) {challengeId : Uuid}
    (hfree : w.sharers challengeId = []) (now : Timestamp) :
    Inv directory tables (w.softDelete challengeId now) where
  limited := h.limited.of_sublist (softDelete_sublist ..)
  recorded comment hcomment := h.recorded comment ((softDelete_sublist ..).subset hcomment)
  onOpen := h.onOpen
  shared j id hj := by
    have hne : id ≠ challengeId := by
      rintro rfl
      rw [World.softDelete, hfree] at hj
      exact List.not_mem_nil hj
    exact (isOpen_softDelete hne).trans (h.shared j id hj)
  held := h.held
  locked := h.locked

/-! ### What the moves of others change -/

/-- A step that commits nothing. -/
theorem rely_of_alone (hinv : Inv directory tables w') (halone : TxStore.Alone i w.db w'.db)
    (hcommitted : w'.db.committed = w.db.committed)
    (hsharers : ∀ challengeId, i ∈ w'.sharers challengeId ↔ i ∈ w.sharers challengeId)
    (hbegan : w'.began i = w.began i) : Rely directory tables i w w' where
  inv := hinv
  alone := halone
  sharers := hsharers
  began := hbegan
  comments _ _ := by rw [hcommitted]

theorem rely_abort (hne : i ≠ j) (hinv : Inv directory tables (w.abort j)) :
    Rely directory tables i w (w.abort j) :=
  rely_of_alone hinv (TxStore.alone_finish hne) rfl
    (fun _ => mem_sharers_finish.trans (and_iff_left hne)) rfl

theorem rely_softDelete {challengeId : Uuid} {now : Timestamp}
    (hinv : Inv directory tables (w.softDelete challengeId now)) :
    Rely directory tables i w (w.softDelete challengeId now) :=
  ⟨hinv, ⟨rfl, fun _ => Iff.rfl⟩, fun _ => Iff.rfl, rfl,
    fun _ _ => (softDelete_sublist ..).filter _⟩

/-- Comments of a user that another call has locked are not written. -/
theorem rely_commit (hne : i ≠ j) (h : Inv directory tables w)
    (hinv : Inv directory tables (w.commit j)) : Rely directory tables i w (w.commit j) := by
  refine ⟨hinv, TxStore.alone_finish hne,
    fun _ => mem_sharers_commit.trans (and_iff_left hne), rfl, fun userId hheld => ?_⟩
  have hcommitted : (w.commit j).db.committed =
      ⟨w.db.committed.challenges, w.db.committed.comments ++ (w.db.writes j).getD []⟩ :=
    foldl_insert _ _
  rw [hcommitted, Tables.commentsOf, List.filter_append]
  have hothers : ((w.db.writes j).getD []).filter (fun comment => comment.userId = userId) =
      [] := by
    refine List.filter_eq_nil_iff.mpr fun comment hmem huser => ?_
    rw [decide_eq_true_eq] at huser
    subst huser
    rcases h.locked j comment ((TxStore.mem_getD_writes _).mp hmem) with hheld' | hgone
    · exact hne (Option.some.inj (hheld.symm.trans hheld'))
    · have hactive := h.held i _ hheld
      rw [hgone] at hactive
      cases hactive
  rw [hothers, List.append_nil]
  exact .refl _

theorem mem_share {challengeId id : Uuid} (hne : i ≠ j) :
    i ∈ Function.update w.sharers challengeId (j :: w.sharers challengeId) id ↔
      i ∈ w.sharers id := by
  by_cases hid : id = challengeId
  · subst hid
    simp [hne]
  · rw [Function.update_of_ne hid]

theorem rely_client {statement : Statement} {newId : Uuid} (hne : i ≠ j)
    (hfree : w.waits directory j (.client statement) = false)
    (hinv : Inv directory tables (w.client directory j newId statement).2) :
    Rely directory tables i w (w.client directory j newId statement).2 := by
  unfold World.client at hinv ⊢
  split
  · rename_i hrun
    rw [hrun] at hinv
    exact rely_abort hne hinv
  · rename_i comments hrun
    rw [hrun] at hinv
    cases statement with
    | selectChallenge challengeId =>
        dsimp only at hinv ⊢
        split at hinv
        · rename_i hopen
          rw [if_pos hopen]
          exact rely_of_alone hinv (TxStore.alone_write hne) rfl (fun _ => mem_share hne) rfl
        · rename_i hclosed
          rw [if_neg hclosed]
          exact rely_of_alone hinv (TxStore.alone_write hne) rfl (fun _ => Iff.rfl) rfl
    | selectUser userId =>
        dsimp only at hinv ⊢
        split at hinv
        · rename_i hactive
          rw [if_pos hactive]
          exact rely_of_alone hinv
            ((TxStore.alone_write hne).trans (TxStore.alone_lock hne (free_of_waits hactive hfree)))
            rfl (fun _ => Iff.rfl) rfl
        · rename_i hgone
          rw [if_neg hgone]
          exact rely_of_alone hinv (TxStore.alone_write hne) rfl (fun _ => Iff.rfl) rfl
    | selectRecent userId body =>
        exact rely_of_alone hinv (TxStore.alone_write hne) rfl (fun _ => Iff.rfl) rfl
    | insertComment challengeId userId body =>
        exact rely_of_alone hinv (TxStore.alone_write hne) rfl (fun _ => Iff.rfl) rfl

theorem rely_perform {op : CommentOp} {now : Timestamp} {newId : Uuid} (hne : i ≠ j)
    (h : Inv directory tables w) (hfree : w.waits directory j op = false)
    (hinv : Inv directory tables (w.perform directory j now newId op).2) :
    Rely directory tables i w (w.perform directory j now newId op).2 := by
  cases op with
  | connect => exact .refl hinv
  | client statement => exact rely_client hne hfree hinv
  | start =>
      exact rely_of_alone hinv (TxStore.alone_start hne) rfl (fun _ => Iff.rfl)
        (Function.update_of_ne hne ..)
  | commit => exact rely_commit hne h hinv
  | rollback => exact rely_abort hne hinv
  | softDelete challengeId => exact rely_softDelete hinv

theorem rely_fail {op : CommentOp} {applied : Bool} {now : Timestamp} (hne : i ≠ j)
    (h : Inv directory tables w) (hinv : Inv directory tables (w.fail j applied now op)) :
    Rely directory tables i w (w.fail j applied now op) := by
  cases op with
  | commit =>
      cases applied with
      | true => exact rely_commit hne h hinv
      | false => exact rely_abort hne hinv
  | softDelete challengeId =>
      cases applied with
      | true => exact rely_softDelete hinv
      | false => exact .refl hinv
  | _ => exact rely_abort hne hinv

/-- What another call does leaves a waiting one alone. -/
theorem rely_exec {op : CommentOp} {e : CommentEnv} (hne : i ≠ j) (h : Inv directory tables w)
    (hguard : guard directory j w op e)
    (hinv : Inv directory tables ((machine directory j).exec e op w).2) :
    Rely directory tables i w ((machine directory j).exec e op w).2 := by
  cases e with
  | fails err applied now => exact rely_fail hne h hinv
  | succeeds now newId => exact rely_perform hne h (hguard rfl) hinv

end

/-! ### The stages of a call -/

section

variable (directory : Directory) (tables : Tables) (i : Nat) (challengeId userId : Uuid)
  (body : Text)

/-- Call `i` has written `comments` in its transaction. -/
structure Opened (comments : List ChallengeComment) (w : World) : Prop where
  inv : Inv directory tables w
  writes : w.db.writes i = some comments

/-- It shares the row of an open challenge. -/
structure Sharing (comments : List ChallengeComment) (w : World) : Prop
    extends Opened directory tables i comments w where
  shares : i ∈ w.sharers challengeId

/-- It has locked its user, if there is one. -/
structure Locked (user : Option Text) (comments : List ChallengeComment) (w : World) : Prop
    extends Sharing directory tables i challengeId comments w where
  found : user = (directory.activeUser userId).map User.displayName
  held : user.isSome = true → w.db.holder userId = some i

/-- The user may write another comment. -/
structure Checked (user : Option Text) (comments : List ChallengeComment) (w : World) : Prop
    extends Locked directory tables i challengeId userId user comments w where
  room : user.isSome = true →
    w.db.committed.Room directory userId body (w.began i)

/-- The comment that call `i` inserts. -/
def World.newComment (w : World) (newId : Uuid) : ChallengeComment :=
  ⟨newId, challengeId, userId, body, w.began i, w.began i⟩

/-- The user has a row, and the comment is inserted. -/
def Inserted (w : World) : Prop :=
  ∃ newId displayName, Checked directory tables i challengeId userId body (some displayName)
    [w.newComment i challengeId userId body newId] w

end

section

variable {directory : Directory} {tables : Tables} {i : Nat} {challengeId userId : Uuid}
  {body : Text} {user : Option Text} {comments : List ChallengeComment} {w w' : World}

theorem Opened.stable (h : Opened directory tables i comments w)
    (hrely : Rely directory tables i w w') : Opened directory tables i comments w' :=
  ⟨hrely.inv, hrely.alone.writes.trans h.writes⟩

theorem Sharing.stable (h : Sharing directory tables i challengeId comments w)
    (hrely : Rely directory tables i w w') : Sharing directory tables i challengeId comments w' :=
  ⟨h.toOpened.stable hrely, (hrely.sharers _).mpr h.shares⟩

theorem Locked.stable (h : Locked directory tables i challengeId userId user comments w)
    (hrely : Rely directory tables i w w') :
    Locked directory tables i challengeId userId user comments w' :=
  ⟨h.toSharing.stable hrely, h.found, fun huser => (hrely.alone.holder _).mpr (h.held huser)⟩

theorem Checked.stable (h : Checked directory tables i challengeId userId body user comments w)
    (hrely : Rely directory tables i w w') :
    Checked directory tables i challengeId userId body user comments w' := by
  refine ⟨h.toLocked.stable hrely, fun huser => ?_⟩
  rw [hrely.began]
  exact (h.room huser).of_sublist (hrely.comments _ (h.held huser))

theorem Inserted.stable (h : Inserted directory tables i challengeId userId body w)
    (hrely : Rely directory tables i w w') :
    Inserted directory tables i challengeId userId body w' := by
  obtain ⟨newId, displayName, hchecked⟩ := h
  refine ⟨newId, displayName, ?_⟩
  rw [World.newComment, hrely.began]
  exact hchecked.stable hrely

/-! ### Operations -/

/-- Running `p` as call `i` among others. -/
abbrev Does {α : Type} (directory : Directory) (tables : Tables) (i : Nat) (p : Call α)
    (P : α → World → Prop) (w : World) : Prop :=
  p.wp (machine directory i).among (Among (Rely directory tables i) (guard directory i))
    (Inv directory tables) (Prog.Ends P fun _ => Inv directory tables) w

/-- What fails without an effect leaves the invariant. -/
theorem Inv.fail (h : Inv directory tables w) (op : CommentOp) (now : Timestamp) :
    Inv directory tables (w.fail i false now op) := by
  cases op with
  | softDelete challengeId => exact h
  | _ => exact h.abort i

/-- One operation: what is left to show is what happens when it takes effect. -/
theorem does_call {op : CommentOp} {A : World → Prop} {P : commentSig.Ans op → World → Prop}
    (hstable : ∀ w w', A w → Rely directory tables i w w' → A w')
    (hinv : ∀ w, A w → Inv directory tables w) (hw : A w)
    (hfails : ∀ w now, A w → w.waits directory i op = false →
      Inv directory tables (w.fail i true now op))
    (h : ∀ w now newId, A w → w.waits directory i op = false →
      Inv directory tables (w.perform directory i now newId op).2 ∧
        Prog.Ends P (fun _ => Inv directory tables) (w.perform directory i now newId op).1
          (w.perform directory i now newId op).2) : Does directory tables i (call op) P w := by
  refine Prog.wp_call_among hstable hw fun w' e _ hw' hguard => ?_
  cases e with
  | fails err applied now =>
      cases applied with
      | false => exact ⟨(hinv w' hw').fail op now, (hinv w' hw').fail op now⟩
      | true => exact ⟨hfails w' now hw' (hguard rfl), hfails w' now hw' (hguard rfl)⟩
  | succeeds now newId => exact h w' now newId hw' (hguard rfl)

/-- A statement of the transaction. -/
theorem does_client {statement : Statement} {A : World → Prop}
    {P : statement.Ans → World → Prop}
    (hstable : ∀ w w', A w → Rely directory tables i w w' → A w')
    (hinv : ∀ w, A w → Inv directory tables w) (hw : A w)
    (h : ∀ w newId answer comments, A w →
      w.waits directory i (.client statement) = false →
      statement.run directory (w.db.view Tables.insert i) (w.began i) newId =
        (.ok answer, comments) →
      Inv directory tables (w.client directory i newId statement).2 ∧
        Prog.Ends P (fun _ => Inv directory tables) (w.client directory i newId statement).1
          (w.client directory i newId statement).2) :
    Does directory tables i (client statement) P w := by
  refine does_call hstable hinv hw (fun w _ hw _ => (hinv w hw).abort i)
    fun w now newId hw hfree => ?_
  show Inv directory tables (w.client directory i newId statement).2 ∧ _
  rcases hrun : statement.run directory (w.db.view Tables.insert i) (w.began i) newId with
    ⟨answer, comments⟩
  cases answer with
  | error err =>
      have hclient : w.client directory i newId statement = (.error err, w.abort i) := by
        rw [World.client, hrun]
      show _ ∧ Prog.Ends P _ (w.client directory i newId statement).1
        (w.client directory i newId statement).2
      rw [hclient]
      exact ⟨(hinv w hw).abort i, (hinv w hw).abort i⟩
  | ok answer => exact h w newId answer comments hw hfree hrun

theorem view_of_opened (h : Opened directory tables i [] w) :
    w.db.view Tables.insert i = w.db.committed := by
  rw [TxStore.view, h.writes]
  rfl

theorem does_selectChallenge (hw : Opened directory tables i [] w) :
    Does directory tables i (client (.selectChallenge challengeId))
      (fun found w => if found = true then Sharing directory tables i challengeId [] w
        else Inv directory tables w) w := by
  refine does_client (fun _ _ h => h.stable) (fun _ h => h.inv) hw
    fun w newId answer comments hw hfree hrun => ?_
  rw [World.client, hrun]
  cases hrun
  dsimp only
  rw [TxStore.write_nil, view_of_opened hw, World.write, List.map_nil, List.append_nil]
  cases hopen : w.db.committed.isOpen challengeId with
  | false =>
      rw [if_neg Bool.false_ne_true]
      refine ⟨hw.inv, ?_⟩
      simpa [Prog.Ends] using hw.inv
  | true =>
      rw [if_pos rfl]
      have hinv := hw.inv.share (i := i) hopen
      refine ⟨hinv, ?_⟩
      have hshares : i ∈ Function.update w.sharers challengeId (i :: w.sharers challengeId)
          challengeId := by
        rw [Function.update_self]
        exact List.mem_cons_self
      simpa [Prog.Ends] using (⟨⟨hinv, hw.writes⟩, hshares⟩ : Sharing ..)

theorem does_selectUser (hw : Sharing directory tables i challengeId [] w) :
    Does directory tables i (client (.selectUser userId))
      (fun user => Locked directory tables i challengeId userId user []) w := by
  refine does_client (fun _ _ h => h.stable) (fun _ h => h.inv) hw
    fun w newId answer comments hw hfree hrun => ?_
  rw [World.client, hrun]
  cases hrun
  dsimp only
  rw [TxStore.write_nil, World.write, List.map_nil, List.append_nil]
  cases hactive : directory.activeUser userId with
  | none => exact ⟨hw.inv, hw, by rw [hactive], fun huser => by cases huser⟩
  | some row =>
      have hsome : (directory.activeUser userId).isSome = true := by rw [hactive]; rfl
      have hinv := hw.inv.lock hsome (free_of_waits hsome hfree)
      exact ⟨hinv, ⟨⟨hinv, hw.writes⟩, hw.shares⟩, by rw [hactive],
        fun _ => TxStore.lock_holder_self _ _ _⟩

theorem does_selectRecent (hw : Locked directory tables i challengeId userId user [] w) :
    Does directory tables i (client (.selectRecent userId body))
      (fun recent w => Locked directory tables i challengeId userId user [] w ∧
        (¬ (5 ≤ recent.count || recent.duplicate) = true →
          Checked directory tables i challengeId userId body user [] w)) w := by
  refine does_client (fun _ _ h => h.stable) (fun _ h => h.inv) hw
    fun w newId answer comments hw hfree hrun => ?_
  rw [World.client, hrun]
  cases hrun
  dsimp only
  rw [TxStore.write_nil, view_of_opened hw.toOpened, World.write, List.map_nil, List.append_nil]
  refine ⟨hw.inv, hw, fun hroom => ⟨hw, fun _ => ?_⟩⟩
  rw [Bool.or_eq_true, not_or, decide_eq_true_eq, Bool.not_eq_true] at hroom
  exact room_of_recentRow hroom.1 hroom.2

theorem does_insertComment
    (hw : Checked directory tables i challengeId userId body user [] w) :
    Does directory tables i (client (.insertComment challengeId userId body))
      (fun _ w => ∃ newId, Checked directory tables i challengeId userId body user
        [w.newComment i challengeId userId body newId] w) w := by
  refine does_client (fun _ _ h => h.stable) (fun _ h => h.inv) hw
    fun w newId answer comments hw hfree hrun => ?_
  have hcomments : comments = [w.newComment i challengeId userId body newId] := by
    rw [Statement.run] at hrun
    split at hrun
    · cases hrun
    split at hrun
    · cases hrun
    split at hrun
    · cases hrun
    · exact (Prod.mk.inj hrun).2.symm
  rw [World.client, hrun, hcomments]
  have hlocked : w.db.holder userId = some i ∨ directory.activeUser userId = none := by
    cases hactive : directory.activeUser userId with
    | none => exact .inr rfl
    | some row => exact .inl (hw.held (by rw [hw.found, hactive]; rfl))
  have hinv := hw.inv.write (w.newComment i challengeId userId body newId) hw.writes hw.shares
    hlocked
  refine ⟨hinv, newId, ⟨⟨⟨⟨hinv, ?_⟩, hw.shares⟩, hw.found, hw.held⟩, hw.room⟩⟩
  show (w.db.write i _).writes i = _
  rw [TxStore.write_writes_self, hw.writes]
  rfl

theorem Inserted.commit (h : Inserted directory tables i challengeId userId body w) :
    Inv directory tables (w.commit i) := by
  obtain ⟨newId, displayName, hchecked⟩ := h
  exact hchecked.inv.commit hchecked.writes hchecked.shares (hchecked.room rfl)

theorem Inserted.inv (h : Inserted directory tables i challengeId userId body w) :
    Inv directory tables w := by
  obtain ⟨newId, displayName, hchecked⟩ := h
  exact hchecked.toOpened.inv

theorem does_commit (hw : Inserted directory tables i challengeId userId body w) :
    Does directory tables i (call .commit) (fun _ => Inv directory tables) w :=
  does_call (fun _ _ h => h.stable) (fun _ h => h.inv) hw (fun _ _ h _ => h.commit)
    fun _ _ _ h _ => ⟨h.commit, h.commit⟩

/-- What the transaction does on its way in and out. -/
theorem does_simple {op : CommentOp} {P : commentSig.Ans op → World → Prop}
    (hw : Inv directory tables w)
    (hfail : ∀ (w : World) now, w.fail i true now op = w.abort i)
    (h : ∀ w now newId, Inv directory tables w →
      Inv directory tables (w.perform directory i now newId op).2 ∧
        Prog.Ends P (fun _ => Inv directory tables) (w.perform directory i now newId op).1
          (w.perform directory i now newId op).2) : Does directory tables i (call op) P w :=
  does_call (fun _ _ _ hrely => hrely.inv) (fun _ h => h) hw
    (fun w now hw _ => by rw [hfail]; exact hw.abort i) fun w now newId hw _ => h w now newId hw

/-! ### The whole call -/

theorem does_insertChecked (hw : Sharing directory tables i challengeId [] w) :
    Does directory tables i (insertChecked challengeId userId body)
      (fun _ => Inserted directory tables i challengeId userId body) w := by
  refine Prog.wp_bind (does_selectUser hw) fun user w hw => ?_
  refine Prog.wp_bind (does_selectRecent hw) fun recent w hw => ?_
  obtain ⟨hlocked, hchecked⟩ := hw
  by_cases hspam : (5 ≤ recent.count || recent.duplicate) = true
  · rw [if_pos hspam]
    exact hlocked.inv
  · rw [if_neg hspam]
    refine Prog.wp_bind (does_insertComment (hchecked hspam)) fun comment w hw => ?_
    obtain ⟨newId, hinserted⟩ := hw
    cases user with
    | none => exact hinserted.inv
    | some displayName => exact ⟨newId, displayName, hinserted⟩

theorem does_commentWork (hw : Opened directory tables i [] w) :
    Does directory tables i (commentWork challengeId userId body)
      (fun _ => Inserted directory tables i challengeId userId body) w := by
  refine Prog.wp_bind (does_selectChallenge hw) fun challenge w hw => ?_
  cases challenge with
  | false => exact hw
  | true => exact does_insertChecked hw

/-- A transaction commits the comment that it has inserted, or throws. -/
theorem does_transaction {α : Type} {work : Call α} (hw : Inv directory tables w)
    (hwork : ∀ w, Opened directory tables i [] w →
      Does directory tables i work
        (fun _ => Inserted directory tables i challengeId userId body) w) :
    Does directory tables i (transaction work) (fun _ => Inv directory tables) w := by
  refine Prog.wp_transaction (A := Inv directory tables) (B := Opened directory tables i [])
    (P := fun _ => Inv directory tables)
    (does_simple hw (fun _ _ => rfl) fun _ _ _ hw => ⟨hw, hw⟩) (fun w hw => ?_) hwork
    (fun _ _ hw => does_commit hw)
    fun _ _ hw => does_simple hw (fun _ _ => rfl) fun _ _ _ hw => ⟨hw.abort i, hw.abort i⟩
  refine does_simple hw (fun _ _ => rfl) fun w now _ hw => ?_
  have hinv := hw.start i (Function.update w.began i now)
  exact ⟨hinv, hinv, TxStore.start_writes_self _ _⟩

theorem does_addChallengeComment (hw : Inv directory tables w) :
    Does directory tables i (addChallengeComment challengeId userId body)
      (fun _ => Inv directory tables) w :=
  Prog.wp_bind (does_transaction hw fun _ => does_commentWork) fun _ _ hw => hw

theorem does_softDeleteChallenge (hw : Inv directory tables w) :
    Does directory tables i (softDeleteChallenge challengeId)
      (fun _ => Inv directory tables) w := by
  have hdelete : ∀ (w : World) now, Inv directory tables w →
      w.waits directory i (.softDelete challengeId) = false →
      Inv directory tables (w.softDelete challengeId now) := by
    intro w now hw hfree
    rw [World.waits, Bool.not_eq_false', List.isEmpty_iff] at hfree
    exact hw.softDelete hfree now
  refine Prog.wp_bind (P := fun _ => Inv directory tables)
    (does_call (fun _ _ _ hrely => hrely.inv) (fun _ h => h) hw hdelete
      fun w now _ hw hfree => ?_) fun _ _ hw => hw
  exact ⟨hdelete w now hw hfree, hdelete w now hw hfree⟩

end

/-! ### Any number of calls -/

theorem inv_init {directory : Directory} {tables : Tables} (h : tables.Limited directory) :
    Inv directory tables (World.init tables) where
  limited := h
  recorded _ h := .inl h
  onOpen _ h := absurd h List.not_mem_nil
  shared _ _ h := absurd h List.not_mem_nil
  held _ _ h := by cases h
  locked i comment hi := by
    obtain ⟨comments, hcomments, -⟩ := hi
    cases hcomments

theorem comment_proved (directory : Directory) (tables : Tables) :
    Crew.Proved (machine directory) (guard directory) IsCall Never (Inv directory tables)
      (Rely directory tables) (fun _ => Inv directory tables)
      (fun _ _ => Inv directory tables) where
  refl _ _ h := .refl h
  trans _ _ _ _ h h' := h.trans h'
  stays _ _ _ _ hrely := hrely.inv
  lasts _ _ _ _ _ hrely := hrely.inv
  spawned i w p hp _ hw := by
    refine Prog.wp_world ?_
    obtain ⟨challengeId, userId, body, rfl⟩ | ⟨challengeId, rfl⟩ := hp
    · exact does_addChallengeComment hw
    · exact does_softDeleteChallenge hw
  others i j w op e hne hinv hguard hinv' := rely_exec hne hinv hguard hinv'
  drifted _ _ _ _ hdrift := hdrift.elim

/-- **Comment limits hold under concurrency**, after any step of any interleaving. The history
knows every comment, and none was inserted or committed on a challenge that was not open. -/
theorem comment_limits_hold {directory : Directory} {tables : Tables} {w : World}
    {ps : List (Call (Option PostedComment))} (hstart : tables.Limited directory)
    (h : Crew (machine directory) (guard directory) IsCall Never (World.init tables) w ps) :
    w.db.committed.Limited directory ∧
      (∀ comment ∈ w.db.committed.comments,
        comment ∈ tables.comments ∨ ⟨comment, true⟩ ∈ w.written) ∧
      ∀ entry ∈ w.written, entry.onOpen = true := by
  obtain ⟨hinv, -, -⟩ := (comment_proved directory tables).sound (inv_init hstart)
    (fun _ => inv_init hstart) h
  exact ⟨hinv.limited, hinv.recorded, hinv.onOpen⟩

/-! ### Two starts

The transaction of the first call starts later than that of the second one, and commits first. The
third call repeats the first one in other letters. -/

def oneChallenge : Tables := ⟨[⟨1, .active, none⟩], []⟩

def oneUser : Directory where
  users := [⟨7, ['x'], none⟩]
  lower body := body.map Char.toLower
  trimmedLength body := body.length

def commentCalls : List (Call (Option PostedComment)) :=
  [addChallengeComment 1 7 ['A'], addChallengeComment 1 7 ['B'], addChallengeComment 1 7 ['a']]

def commentSteps (i n : Nat) (now : Timestamp) : List (Nat × CommentEnv) :=
  List.replicate n (i, .succeeds now i)

def commentSchedule : List (Nat × CommentEnv) :=
  commentSteps 1 3 10 ++ commentSteps 0 7 20 ++ commentSteps 1 4 30 ++ commentSteps 2 6 40

def playComments : World × List (Call (Option PostedComment)) :=
  playCrew (machine oneUser) commentSchedule (World.init oneChallenge) commentCalls

instance (directory : Directory) (i : Nat) (w : World) (op : CommentOp) (e : CommentEnv) :
    Decidable (guard directory i w op e) := inferInstanceAs (Decidable (_ → _))

theorem commentCalls_spawned :
    Crew (machine oneUser) (guard oneUser) IsCall Never (World.init oneChallenge)
      (World.init oneChallenge) commentCalls :=
  Crew.spawn (Crew.spawn (Crew.spawn .init (.inl ⟨_, _, _, rfl⟩)) (.inl ⟨_, _, _, rfl⟩))
    (.inl ⟨_, _, _, rfl⟩)

theorem later_start_commits_first :
    playComments.1.db.committed.comments.map ChallengeComment.createdAt = [20, 10] ∧
      playComments.1.written.length = 4 ∧
      playComments.1.db.committed.Limited oneUser := by
  refine ⟨by decide +kernel, by decide +kernel, ?_⟩
  have hstart : oneChallenge.Limited oneUser :=
    ⟨fun _ _ => Nat.zero_le _, fun _ _ => Nat.zero_le _, List.Pairwise.nil⟩
  exact (comment_limits_hold hstart (Crew.play commentSchedule commentCalls_spawned
    (by decide +kernel))).1

end BrandBlitz.Comments
