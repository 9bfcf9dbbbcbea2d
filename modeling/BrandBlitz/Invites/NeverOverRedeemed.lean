import BrandBlitz.Invites.Redeem

/-!
# BrandBlitz.Invites.NeverOverRedeemed

**Invite codes are never over-redeemed**, however many calls of `redeemInviteCode` are
interleaved and whatever statements fail.

A call that gets past the first statement has locked the row of its code until its end. So the
redemptions and the counter that it goes by are still the same when it commits, and both change
together. A call that repeats one that has succeeded finds the redemption, and never gets to
the checks.
-/

namespace BrandBlitz.Invites

open BrandBlitz.Lib
open BrandBlitz.Paging (Uuid Timestamp)
open BrandBlitz.Sessions (dbError)

/-! ### What holds of the tables -/

section

variable (directory : Directory)

structure Tables.Sound (tables : Tables) : Prop where
  counted : ∀ invite ∈ directory.codes,
    tables.useCount invite.id = (tables.redemptionsOf invite.id).length
  capped : ∀ invite ∈ directory.codes, ∀ maxUses ∈ invite.maxUses,
    tables.useCount invite.id ≤ maxUses
  once : tables.redemptions.Nodup

/-- The user has redeemed the code, which is still available. -/
def Tables.Redeemed (tables : Tables) (userId : Uuid) (code : Text) : Prop :=
  ∃ invite, directory.available code = some invite ∧ ⟨invite.id, userId⟩ ∈ tables.redemptions

end

/-- The code whose counter or redemptions are written. -/
def Write.onCode : Write → Option Uuid
  | .insertRedemption row => some row.inviteCodeId
  | .incrementUseCount id => some id
  | .activate _ _ | .insertAudit _ => none

section Tables

variable {directory : Directory} {tables : Tables}

theorem mem_redemptionsOf {row : Redemption} {id : Uuid} :
    row ∈ tables.redemptionsOf id ↔ row ∈ tables.redemptions ∧ row.inviteCodeId = id := by
  simp [Tables.redemptionsOf]

theorem apply_of_onCode_ne (tables : Tables) {ω : Write} {id : Uuid} (h : ω.onCode ≠ some id) :
    (tables.apply ω).useCount id = tables.useCount id ∧
      (tables.apply ω).redemptionsOf id = tables.redemptionsOf id := by
  cases ω with
  | insertRedemption row =>
      have hne : row.inviteCodeId ≠ id := fun heq => h (congrArg some heq)
      refine ⟨rfl, ?_⟩
      rw [Tables.redemptionsOf, Tables.apply, List.filter_append, List.filter_singleton,
        decide_eq_false hne]
      exact List.append_nil _
  | incrementUseCount id' =>
      exact ⟨Function.update_of_ne (fun heq => h (congrArg some heq.symm)) .., rfl⟩
  | activate id' now => exact ⟨rfl, rfl⟩
  | insertAudit entry => exact ⟨rfl, rfl⟩

/-- Writes on other codes. -/
theorem foldl_of_onCode_ne {id : Uuid} (ws : List Write) :
    ∀ tables : Tables, (∀ ω ∈ ws, ω.onCode ≠ some id) →
      (ws.foldl Tables.apply tables).useCount id = tables.useCount id ∧
        (ws.foldl Tables.apply tables).redemptionsOf id = tables.redemptionsOf id := by
  induction ws with
  | nil => intro tables _; exact ⟨rfl, rfl⟩
  | cons ω ws ih =>
      intro tables h
      obtain ⟨hcount, hrows⟩ := ih (tables.apply ω)
        fun ω' hmem => h ω' (List.mem_cons_of_mem _ hmem)
      obtain ⟨hcount', hrows'⟩ := apply_of_onCode_ne tables (h ω List.mem_cons_self)
      exact ⟨hcount.trans hcount', hrows.trans hrows'⟩

/-- A redemption is never taken back. -/
theorem mem_redemptions_foldl {row : Redemption} (ws : List Write) :
    ∀ {tables : Tables}, row ∈ tables.redemptions →
      row ∈ (ws.foldl Tables.apply tables).redemptions := by
  induction ws with
  | nil => intro tables h; exact h
  | cons ω ws ih =>
      intro tables h
      refine ih ?_
      cases ω with
      | insertRedemption row' => exact List.mem_append_left _ h
      | _ => exact h

/-- One more redemption, and one more use. -/
theorem Tables.Sound.redeem {tables' : Tables} (h : tables.Sound directory) {invite : InviteCode}
    (hinvite : invite ∈ directory.codes) {userId : Uuid}
    (hnew : ⟨invite.id, userId⟩ ∉ tables.redemptions)
    (hroom : ∀ maxUses ∈ invite.maxUses, tables.useCount invite.id < maxUses)
    (hcount : tables'.useCount =
      Function.update tables.useCount invite.id (tables.useCount invite.id + 1))
    (hrows : tables'.redemptions = tables.redemptions ++ [⟨invite.id, userId⟩]) :
    tables'.Sound directory where
  counted other hother := by
    rw [Tables.redemptionsOf, hcount, hrows, List.filter_append, List.filter_singleton]
    by_cases hid : other.id = invite.id
    · rw [hid, Function.update_self, h.counted invite hinvite]
      simp [Tables.redemptionsOf]
    · rw [Function.update_of_ne hid, h.counted other hother, decide_eq_false (Ne.symm hid)]
      simp [Tables.redemptionsOf]
  capped other hother maxUses hmax := by
    rw [hcount]
    by_cases hid : other.id = invite.id
    · obtain rfl : other = invite :=
        List.inj_on_of_nodup_map directory.primaryKey hother hinvite hid
      rw [Function.update_self]
      exact hroom maxUses hmax
    · rw [Function.update_of_ne hid]
      exact h.capped other hother maxUses hmax
  once := by
    rw [hrows, List.nodup_append]
    refine ⟨h.once, List.nodup_singleton _, fun row hrow row' hrow' heq => hnew ?_⟩
    rw [← List.mem_singleton.mp hrow', ← heq]
    exact hrow

end Tables

/-! ### Transactions in flight -/

/-- Call `i` has committed nothing. -/
def World.Quiet (w : World) (i : Nat) : Prop := ∀ entry ∈ w.commits, entry.1 ≠ i

structure Inv (directory : Directory) (tables : Tables) (w : World) : Prop where
  sound : w.db.committed.Sound directory
  /-- who writes a code has locked it -/
  locked : ∀ i ω, w.db.Pending i ω → ∀ id, ω.onCode = some id → w.db.holder (.code id) = some i
  /-- nothing is committed but what is logged -/
  replayed : w.db.committed = (w.commits.flatMap Prod.snd).foldl Tables.apply tables
  redeemed : ∀ entry ∈ w.succeeded, w.db.committed.Redeemed directory entry.1 entry.2
  again : ∀ call ∈ w.started, call.again = true →
    w.db.committed.Redeemed directory call.userId call.code
  repeats : ∀ call ∈ w.started, call.again = true → ∀ entry ∈ w.commits,
    entry.1 = call.program → entry.2 = []

/-- What others do while call `i` waits. -/
structure Rely (directory : Directory) (tables : Tables) (i : Nat) (w w' : World) : Prop where
  inv : Inv directory tables w'
  alone : TxStore.Alone i w.db w'.db
  code : ∀ id, w.db.holder (.code id) = some i →
    w'.db.committed.useCount id = w.db.committed.useCount id ∧
      w'.db.committed.redemptionsOf id = w.db.committed.redemptionsOf id
  grows : ∀ row ∈ w.db.committed.redemptions, row ∈ w'.db.committed.redemptions
  started : ∀ call ∈ w'.started, call.program = i → call ∈ w.started
  quiet : w.Quiet i → w'.Quiet i
  failed : i ∈ w.failed → i ∈ w'.failed

section

variable {directory : Directory} {tables : Tables} {i j : Nat} {w w' w'' : World}

theorem Rely.refl (h : Inv directory tables w) : Rely directory tables i w w :=
  ⟨h, .refl, fun _ _ => ⟨rfl, rfl⟩, fun _ h => h, fun _ h _ => h, id, id⟩

theorem Rely.trans (h : Rely directory tables i w w') (h' : Rely directory tables i w' w'') :
    Rely directory tables i w w'' where
  inv := h'.inv
  alone := h.alone.trans h'.alone
  code id hid := by
    obtain ⟨hcount, hrows⟩ := h.code id hid
    obtain ⟨hcount', hrows'⟩ := h'.code id ((h.alone.holder _).mpr hid)
    exact ⟨hcount'.trans hcount, hrows'.trans hrows⟩
  grows row hrow := h'.grows row (h.grows row hrow)
  started call hcall hi := h.started call (h'.started call hcall hi) hi
  quiet hquiet := h'.quiet (h.quiet hquiet)
  failed hfailed := h'.failed (h.failed hfailed)

theorem redeemed_mono {tables' : Tables} {userId : Uuid} {code : Text}
    (h : tables.Redeemed directory userId code)
    (hgrows : ∀ row ∈ tables.redemptions, row ∈ tables'.redemptions) :
    tables'.Redeemed directory userId code := by
  obtain ⟨invite, havailable, hmem⟩ := h
  exact ⟨invite, havailable, hgrows _ hmem⟩

/-! ### The invariant through one operation -/

/-- A step that commits nothing, after which some of the transactions are still in flight. -/
theorem Inv.kept (h : Inv directory tables w) {db : TxStore Tables Write Row} {failed : List Nat}
    (keep : Nat → Prop) (hcommitted : db.committed = w.db.committed)
    (hpending : ∀ j ω, db.Pending j ω → keep j ∧ w.db.Pending j ω)
    (hholder : ∀ j r, keep j → w.db.holder r = some j → db.holder r = some j) :
    Inv directory tables { w with db := db, failed := failed } where
  sound := by rw [hcommitted]; exact h.sound
  locked j ω hj id hid := by
    obtain ⟨hkeep, hwas⟩ := hpending j ω hj
    exact hholder j _ hkeep (h.locked j ω hwas id hid)
  replayed := hcommitted.trans h.replayed
  redeemed := by rw [hcommitted]; exact h.redeemed
  again := by rw [hcommitted]; exact h.again
  repeats := h.repeats

theorem Inv.abort (h : Inv directory tables w) (i : Nat) (failed : List Nat) :
    Inv directory tables { w with db := w.db.abort i, failed := failed } :=
  h.kept (· ≠ i) rfl (fun _ _ => (TxStore.pending_finish _).mp) fun _ _ hne hheld =>
    (TxStore.finish_holder_eq_some_iff ..).mpr ⟨hheld, hne⟩

theorem Inv.start (h : Inv directory tables w) (i : Nat) :
    Inv directory tables { w with db := w.db.start i } :=
  h.kept (· ≠ i) rfl (fun _ _ => (TxStore.pending_start _).mp) fun _ _ _ hheld => hheld

theorem Inv.lock (h : Inv directory tables w) {r : Row}
    (hfree : (w.db.holder r).filter (· ≠ i) = none) :
    Inv directory tables { w with db := w.db.lock i r } :=
  h.kept (fun _ => True) rfl (fun _ _ hj => ⟨trivial, hj⟩) fun _ _ _ hheld =>
    TxStore.lock_holder_of_holder hfree hheld

/-- More writes of an open transaction, on codes that it has locked. -/
theorem Inv.write {ws news : List Write} (h : Inv directory tables w)
    (hws : w.db.writes i = some ws)
    (hlocked : ∀ ω ∈ news, ∀ id, ω.onCode = some id → w.db.holder (.code id) = some i) :
    Inv directory tables { w with db := w.db.write i news } where
  sound := h.sound
  locked j ω hj id hid := by
    rcases (TxStore.pending_write _ hws).mp hj with hj | ⟨rfl, hmem⟩
    · exact h.locked j ω hj id hid
    · exact hlocked ω hmem id hid
  replayed := h.replayed
  redeemed := h.redeemed
  again := h.again
  repeats := h.repeats

/-- The end of a transaction that leaves sound tables. -/
theorem Inv.commit {ws : List Write} (h : Inv directory tables w)
    (hws : w.db.writes i = some ws)
    (hsound : (ws.foldl Tables.apply w.db.committed).Sound directory)
    (hfirst : ∀ call ∈ w.started, call.program = i → call.again = true → ws = []) :
    Inv directory tables
      { w with
        db := w.db.commit Tables.apply i
        commits := w.commits ++ [(i, (w.db.writes i).getD [])] } := by
  have hcommitted : (w.db.commit Tables.apply i).committed =
      ws.foldl Tables.apply w.db.committed := by
    rw [TxStore.commit, TxStore.finish_committed, TxStore.view, hws, Option.getD_some]
  have hgrows : ∀ row ∈ w.db.committed.redemptions,
      row ∈ (w.db.commit Tables.apply i).committed.redemptions := by
    rw [hcommitted]
    exact fun row => mem_redemptions_foldl ws
  rw [hws, Option.getD_some]
  refine ⟨?_, fun j ω hj id hid => ?_, ?_, fun entry hentry => ?_, fun call hcall hagain => ?_,
    fun call hcall hagain entry hentry hprogram => ?_⟩
  · rw [hcommitted]
    exact hsound
  · obtain ⟨hne, hwas⟩ := (TxStore.pending_finish _).mp hj
    exact (TxStore.finish_holder_eq_some_iff ..).mpr ⟨h.locked j ω hwas id hid, hne⟩
  · rw [hcommitted, List.flatMap_append, List.foldl_append, ← h.replayed]
    simp
  · exact redeemed_mono (h.redeemed entry hentry) hgrows
  · exact redeemed_mono (h.again call hcall hagain) hgrows
  · rcases List.mem_append.mp hentry with hentry | hentry
    · exact h.repeats call hcall hagain entry hentry hprogram
    · rw [List.mem_singleton.mp hentry] at hprogram ⊢
      exact hfirst call hcall hprogram.symm hagain

/-! ### What the moves of others change -/

theorem quiet_append {ws : List Write} (hne : i ≠ j) (h : w.Quiet i) :
    ∀ entry ∈ w.commits ++ [(j, ws)], entry.1 ≠ i := by
  intro entry hentry
  rcases List.mem_append.mp hentry with hentry | hentry
  · exact h entry hentry
  · rw [List.mem_singleton.mp hentry]
    exact hne.symm

/-- A step that commits nothing. -/
theorem rely_of_alone {db : TxStore Tables Write Row} {failed : List Nat}
    (hinv : Inv directory tables { w with db := db, failed := failed })
    (halone : TxStore.Alone i w.db db) (hcommitted : db.committed = w.db.committed)
    (hfailed : i ∈ w.failed → i ∈ failed) :
    Rely directory tables i w { w with db := db, failed := failed } where
  inv := hinv
  alone := halone
  code _ _ := by rw [hcommitted]; exact ⟨rfl, rfl⟩
  grows _ h := by rw [hcommitted]; exact h
  started _ h _ := h
  quiet := id
  failed := hfailed

theorem rely_client {statement : Statement} (hne : i ≠ j)
    (hfree : w.blocker directory j (.client statement) = none)
    (hinv : Inv directory tables (w.client directory j statement).2) :
    Rely directory tables i w (w.client directory j statement).2 := by
  unfold World.client at hinv ⊢
  dsimp only at hinv ⊢
  cases hanswer : (statement.run directory (w.db.view Tables.apply j)).1 with
  | error err =>
      rw [hanswer] at hinv
      exact rely_of_alone hinv (TxStore.alone_finish hne) rfl id
  | ok answer =>
      rw [hanswer] at hinv
      dsimp only at hinv ⊢
      cases hrow : statement.locksRow directory with
      | none =>
          rw [hrow] at hinv
          exact rely_of_alone hinv (TxStore.alone_write hne) rfl id
      | some row =>
          rw [hrow] at hinv
          have hlocks : statement.locks directory = some row := by
            cases statement with
            | insertRedemption _ => cases hrow
            | _ => exact hrow
          rw [World.blocker, hlocks] at hfree
          exact rely_of_alone hinv ((TxStore.alone_write hne).trans (TxStore.alone_lock hne hfree))
            rfl id

theorem rely_commit (hne : i ≠ j) (h : Inv directory tables w)
    (hinv : Inv directory tables (w.perform directory j .commit).2) :
    Rely directory tables i w (w.perform directory j .commit).2 := by
  have hview : w.db.view Tables.apply j =
      ((w.db.writes j).getD []).foldl Tables.apply w.db.committed := rfl
  refine ⟨hinv, TxStore.alone_finish hne, fun id hid => ?_, fun row hrow => ?_,
    fun _ h _ => h, quiet_append hne, fun h => h⟩
  · refine foldl_of_onCode_ne _ _ fun ω hmem hcode => ?_
    have hheld := h.locked j ω ((TxStore.mem_getD_writes _).mp hmem) id hcode
    exact hne (Option.some.inj (hid.symm.trans hheld))
  · exact mem_redemptions_foldl _ hrow

theorem rely_perform {op : InviteOp} (hne : i ≠ j) (h : Inv directory tables w)
    (hfree : w.blocker directory j op = none)
    (hinv : Inv directory tables (w.perform directory j op).2) :
    Rely directory tables i w (w.perform directory j op).2 := by
  cases op with
  | request userId code =>
      refine ⟨hinv, .refl, fun _ _ => ⟨rfl, rfl⟩, fun _ h => h, fun call hcall hprogram => ?_,
        id, id⟩
      rcases List.mem_cons.mp hcall with rfl | hcall
      · exact absurd hprogram hne.symm
      · exact hcall
  | answer userId code =>
      exact ⟨hinv, .refl, fun _ _ => ⟨rfl, rfl⟩, fun _ h => h, fun _ h _ => h, id, id⟩
  | connect => exact .refl hinv
  | client statement => exact rely_client hne hfree hinv
  | start => exact rely_of_alone hinv (TxStore.alone_start hne) rfl id
  | commit => exact rely_commit hne h hinv
  | rollback => exact rely_of_alone hinv (TxStore.alone_finish hne) rfl id

theorem blocker_of_isHistory {op : InviteOp} (h : op.isHistory = true) :
    w.blocker directory i op = none := by
  cases op with
  | request _ _ | answer _ _ => rfl
  | connect | client _ | start | commit | rollback => cases h

/-- An operation fails, or succeeds without having to wait. -/
theorem exec_cases {op : InviteOp} {e : InviteEnv} (hguard : guard directory i w op e) :
    (∃ err, op.isHistory = false ∧ (machine directory i).exec e op w =
      (.error err, { w with db := w.db.abort i, failed := i :: w.failed })) ∨
    (w.blocker directory i op = none ∧
      (machine directory i).exec e op w = w.perform directory i op) := by
  cases hhistory : op.isHistory with
  | true =>
      refine .inr ⟨blocker_of_isHistory hhistory, ?_⟩
      simp [machine, hhistory]
  | false =>
      cases e with
      | fails err => exact .inl ⟨err, rfl, by simp [machine, hhistory]⟩
      | succeeds => exact .inr ⟨hguard rfl, by simp [machine]⟩

/-- What another call does leaves a waiting one alone. -/
theorem rely_exec {op : InviteOp} {e : InviteEnv} (hne : i ≠ j) (h : Inv directory tables w)
    (hguard : guard directory j w op e)
    (hinv : Inv directory tables ((machine directory j).exec e op w).2) :
    Rely directory tables i w ((machine directory j).exec e op w).2 := by
  obtain ⟨err, -, heq⟩ | ⟨hfree, heq⟩ := exec_cases hguard
  · rw [heq] at hinv ⊢
    exact rely_of_alone hinv (TxStore.alone_finish hne) rfl (List.mem_cons_of_mem _)
  · rw [heq] at hinv ⊢
    exact rely_perform hne h hfree hinv

end

/-! ### The stages of a call -/

section

variable (directory : Directory) (tables : Tables) (i : Nat) (userId : Uuid) (code : Text)

/-- Call `i` is `redeemInviteCode(userId, code)`, and has committed nothing. -/
structure Calling (w : World) : Prop where
  inv : Inv directory tables w
  quiet : w.Quiet i
  mine : ∀ call ∈ w.started, call.program = i → call.userId = userId ∧ call.code = code

/-- It has written `ws` in its transaction. -/
structure Opened (ws : List Write) (w : World) : Prop
    extends Calling directory tables i userId code w where
  writes : w.db.writes i = some ws

/-- It has found its code, and locked it. -/
structure Holding (invite : InviteCode) (ws : List Write) (w : World) : Prop
    extends Opened directory tables i userId code ws w where
  available : directory.available code = some invite
  holder : w.db.holder (.code invite.id) = some i

/-- The counter is as it was read. -/
structure Found (row : InviteRow) (w : World) : Prop
    extends Holding directory tables i userId code row.invite [] w where
  useCount : w.db.committed.useCount row.invite.id = row.useCount

/-- The user has not redeemed the code, and it has a use left. -/
structure First (invite : InviteCode) (ws : List Write) (w : World) : Prop
    extends Holding directory tables i userId code invite ws w where
  new : ⟨invite.id, userId⟩ ∉ w.db.committed.redemptions
  room : ∀ maxUses ∈ invite.maxUses, w.db.committed.useCount invite.id < maxUses

/-- It throws, and has committed nothing: if it repeats a call that has succeeded, one of its
statements has failed. -/
structure Thrown (w : World) : Prop where
  inv : Inv directory tables w
  quiet : w.Quiet i
  excused : ∀ call ∈ w.started, call.program = i → call.again = true → i ∈ w.failed

/-- It has succeeded. -/
structure Done (w : World) : Prop where
  inv : Inv directory tables w
  redeemed : w.db.committed.Redeemed directory userId code

/-- All that it writes. -/
def redemptionWrites (clock : Clock) (invite : InviteCode) (entry : WaitlistRow) : List Write :=
  [.insertRedemption ⟨invite.id, userId⟩, .incrementUseCount invite.id,
    .activate entry.id clock.now,
    .insertAudit ⟨userId, entry.id, entry.status, invite.id, invite.brandId, invite.challengeId⟩]

/-- All is written, or nothing has to be. -/
def Complete (w : World) : Prop :=
  (∃ invite, Holding directory tables i userId code invite [] w ∧
    ⟨invite.id, userId⟩ ∈ w.db.committed.redemptions) ∨
  ∃ clock invite entry,
    First directory tables i userId code invite (redemptionWrites userId clock invite entry) w

end

section

variable {directory : Directory} {tables : Tables} {i : Nat} {userId : Uuid} {code : Text}
  {w w' : World} {ws : List Write} {invite : InviteCode} {row : InviteRow}

theorem Calling.stable (h : Calling directory tables i userId code w)
    (hrely : Rely directory tables i w w') : Calling directory tables i userId code w' :=
  ⟨hrely.inv, hrely.quiet h.quiet, fun call hcall hi =>
    h.mine call (hrely.started call hcall hi) hi⟩

theorem Opened.stable (h : Opened directory tables i userId code ws w)
    (hrely : Rely directory tables i w w') : Opened directory tables i userId code ws w' :=
  ⟨h.toCalling.stable hrely, hrely.alone.writes.trans h.writes⟩

theorem Holding.stable (h : Holding directory tables i userId code invite ws w)
    (hrely : Rely directory tables i w w') : Holding directory tables i userId code invite ws w' :=
  ⟨h.toOpened.stable hrely, h.available, (hrely.alone.holder _).mpr h.holder⟩

theorem Found.stable (h : Found directory tables i userId code row w)
    (hrely : Rely directory tables i w w') : Found directory tables i userId code row w' :=
  ⟨h.toHolding.stable hrely, (hrely.code _ h.holder).1.trans h.useCount⟩

/-- The redemptions of a code stay while it is locked. -/
theorem Holding.mem_iff (h : Holding directory tables i userId code invite ws w)
    (hrely : Rely directory tables i w w') :
    ⟨invite.id, userId⟩ ∈ w'.db.committed.redemptions ↔
      ⟨invite.id, userId⟩ ∈ w.db.committed.redemptions := by
  have hsame := (hrely.code _ h.holder).2
  constructor
  · intro hmem
    exact (mem_redemptionsOf.mp (hsame ▸ mem_redemptionsOf.mpr ⟨hmem, rfl⟩)).1
  · exact hrely.grows _

theorem First.stable (h : First directory tables i userId code invite ws w)
    (hrely : Rely directory tables i w w') : First directory tables i userId code invite ws w' := by
  refine ⟨h.toHolding.stable hrely, fun hmem => h.new ((h.mem_iff hrely).mp hmem), ?_⟩
  rw [(hrely.code _ h.holder).1]
  exact h.room

theorem Complete.stable (h : Complete directory tables i userId code w)
    (hrely : Rely directory tables i w w') : Complete directory tables i userId code w' := by
  obtain ⟨invite, hholding, hmem⟩ | ⟨clock, invite, entry, hfirst⟩ := h
  · exact .inl ⟨invite, hholding.stable hrely, (hholding.mem_iff hrely).mpr hmem⟩
  · exact .inr ⟨clock, invite, entry, hfirst.stable hrely⟩

theorem Complete.calling (h : Complete directory tables i userId code w) :
    Calling directory tables i userId code w := by
  obtain ⟨invite, hholding, -⟩ | ⟨clock, invite, entry, hfirst⟩ := h
  · exact hholding.toCalling
  · exact hfirst.toCalling

theorem Thrown.stable (h : Thrown directory tables i w) (hrely : Rely directory tables i w w') :
    Thrown directory tables i w' :=
  ⟨hrely.inv, hrely.quiet h.quiet, fun call hcall hi hagain =>
    hrely.failed (h.excused call (hrely.started call hcall hi) hi hagain)⟩

theorem Done.stable (h : Done directory tables userId code w)
    (hrely : Rely directory tables i w w') : Done directory tables userId code w' :=
  ⟨hrely.inv, redeemed_mono h.redeemed hrely.grows⟩

/-- Who has not redeemed the code does not repeat. -/
theorem Calling.not_again (h : Calling directory tables i userId code w)
    (hnew : ¬ w.db.committed.Redeemed directory userId code) :
    ∀ call ∈ w.started, call.program = i → call.again ≠ true := by
  intro call hcall hi hagain
  obtain ⟨huser, hcode⟩ := h.mine call hcall hi
  have hredeemed := h.inv.again call hcall hagain
  rw [huser, hcode] at hredeemed
  exact hnew hredeemed

theorem Calling.thrown (h : Calling directory tables i userId code w)
    (hnew : ¬ w.db.committed.Redeemed directory userId code) : Thrown directory tables i w :=
  ⟨h.inv, h.quiet, fun call hcall hi hagain => absurd hagain (h.not_again hnew call hcall hi)⟩

theorem Holding.not_redeemed (h : Holding directory tables i userId code invite ws w)
    (hnew : ⟨invite.id, userId⟩ ∉ w.db.committed.redemptions) :
    ¬ w.db.committed.Redeemed directory userId code := by
  rintro ⟨invite', havailable, hmem⟩
  obtain rfl := Option.some.inj (havailable.symm.trans h.available)
  exact hnew hmem

/-- The code that is found is a code. -/
theorem mem_of_available (h : directory.available code = some invite) :
    invite ∈ directory.codes := List.mem_of_find?_eq_some h

/-! ### Operations -/

/-- Running `p` as call `i` among others. -/
abbrev Does {α : Type} (directory : Directory) (tables : Tables) (i : Nat) (p : Call α)
    (P : α → World → Prop) (w : World) : Prop :=
  p.wp (machine directory i).among (Among (Rely directory tables i) (guard directory i))
    (Inv directory tables) (Prog.Ends P fun _ => Thrown directory tables i) w

/-- One operation: only the case that it succeeds is left to show. -/
theorem does_call {op : InviteOp} {A : World → Prop} {P : inviteSig.Ans op → World → Prop}
    (hstable : ∀ w w', A w → Rely directory tables i w w' → A w')
    (hcalling : ∀ w, A w → Inv directory tables w ∧ (op.isHistory = false → w.Quiet i)) (hw : A w)
    (h : ∀ w, A w → w.blocker directory i op = none →
      Inv directory tables (w.perform directory i op).2 ∧
        Prog.Ends P (fun _ => Thrown directory tables i) (w.perform directory i op).1
          (w.perform directory i op).2) : Does directory tables i (call op) P w := by
  refine Prog.wp_call_among hstable hw fun w' e _ hw' hguard => ?_
  obtain ⟨err, hhistory, heq⟩ | ⟨hfree, heq⟩ := exec_cases hguard
  · rw [heq]
    obtain ⟨hinv, hquiet⟩ := hcalling w' hw'
    have hinv' := hinv.abort i (i :: w'.failed)
    exact ⟨hinv', hinv', hquiet hhistory, fun _ _ _ _ => List.mem_cons_self⟩
  · rw [heq]
    exact h w' hw' hfree

theorem does_connect (hw : Calling directory tables i userId code w) :
    Does directory tables i (call .connect)
      (fun _ => Calling directory tables i userId code) w :=
  does_call (fun _ _ h => h.stable) (fun _ h => ⟨h.inv, fun _ => h.quiet⟩) hw
    fun _ hw _ => ⟨hw.inv, hw⟩

theorem does_start (hw : Calling directory tables i userId code w) :
    Does directory tables i (call .start)
      (fun _ => Opened directory tables i userId code []) w := by
  refine does_call (fun _ _ h => h.stable) (fun _ h => ⟨h.inv, fun _ => h.quiet⟩) hw
    fun w hw _ => ?_
  have hinv := hw.inv.start i
  exact ⟨hinv, ⟨hinv, hw.quiet, hw.mine⟩, TxStore.start_writes_self _ _⟩

theorem does_rollback (hw : Thrown directory tables i w) :
    Does directory tables i (call .rollback) (fun _ => Thrown directory tables i) w := by
  refine does_call (fun _ _ h => h.stable) (fun _ h => ⟨h.inv, fun _ => h.quiet⟩) hw
    fun w hw _ => ?_
  have hinv := hw.inv.abort i w.failed
  exact ⟨hinv, hinv, hw.quiet, hw.excused⟩

theorem client_ok {statement : Statement} (answer : statement.Ans) (ws : List Write)
    (hrun : statement.run directory (w.db.view Tables.apply i) = (.ok answer, ws)) :
    w.client directory i statement = (.ok answer,
      { w with
        db := match statement.locksRow directory with
          | some row => (w.db.write i ws).lock i row
          | none => w.db.write i ws }) := by
  cases hlocks : statement.locksRow directory with
  | none => simp [World.client, hrun, hlocks]
  | some row => simp [World.client, hrun, hlocks]

theorem does_selectCode (hw : Opened directory tables i userId code [] w) :
    Does directory tables i (client (.selectCode code))
      (fun found w => match found with
        | none => Calling directory tables i userId code w ∧ directory.available code = none
        | some row => Found directory tables i userId code row w) w := by
  refine does_call (fun _ _ h => h.stable) (fun _ h => ⟨h.inv, fun _ => h.quiet⟩) hw
    fun w hw hfree => ?_
  have hview : w.db.view Tables.apply i = w.db.committed := by
    rw [TxStore.view, hw.writes]
    rfl
  rw [World.perform, client_ok _ _ rfl]
  dsimp only [Statement.locksRow, Statement.locks, Statement.run]
  cases havailable : directory.available code with
  | none =>
      rw [TxStore.write_nil]
      exact ⟨hw.inv, hw.toCalling, rfl⟩
  | some invite =>
      dsimp only [Option.map]
      rw [TxStore.write_nil, hview]
      have hfree' : (w.db.holder (.code invite.id)).filter (· ≠ i) = none := by
        rw [World.blocker, Statement.locks, havailable] at hfree
        exact hfree
      have hinv := hw.inv.lock hfree'
      exact ⟨hinv, ⟨⟨⟨hinv, hw.quiet, hw.mine⟩, hw.writes⟩, havailable,
        TxStore.lock_holder_self _ _ _⟩, rfl⟩

theorem does_selectRedemption (hw : Found directory tables i userId code row w) :
    Does directory tables i (client (.selectRedemption row.invite.id userId))
      (fun previous w => Found directory tables i userId code row w ∧
        (previous = true ↔ ⟨row.invite.id, userId⟩ ∈ w.db.committed.redemptions)) w := by
  refine does_call (fun _ _ h => h.stable) (fun _ h => ⟨h.inv, fun _ => h.quiet⟩) hw
    fun w hw _ => ?_
  have hview : w.db.view Tables.apply i = w.db.committed := by
    rw [TxStore.view, hw.writes]
    rfl
  rw [World.perform, client_ok _ _ rfl, hview]
  dsimp only [Statement.locksRow, Statement.locks]
  rw [TxStore.write_nil]
  exact ⟨hw.inv, hw, decide_eq_true_iff⟩

/-- Nothing of what the call goes by changes with a lock on the waitlist. -/
theorem First.lock (h : First directory tables i userId code invite ws w) {r : Row}
    (hfree : (w.db.holder r).filter (· ≠ i) = none) :
    First directory tables i userId code invite ws { w with db := w.db.lock i r } :=
  ⟨⟨⟨⟨h.inv.lock hfree, h.quiet, h.mine⟩, h.writes⟩, h.available,
    TxStore.lock_holder_of_holder hfree h.holder⟩, h.new, h.room⟩

theorem does_selectWaitlist (hw : First directory tables i userId code invite [] w) :
    Does directory tables i (client (.selectWaitlist userId))
      (fun _ => First directory tables i userId code invite []) w := by
  refine does_call (fun _ _ h => h.stable) (fun _ h => ⟨h.inv, fun _ => h.quiet⟩) hw
    fun w hw hfree => ?_
  rw [World.perform, client_ok _ _ rfl]
  dsimp only [Statement.locksRow, Statement.locks, Statement.run]
  cases haddress : directory.addressOf userId with
  | none =>
      rw [TxStore.write_nil]
      exact ⟨hw.inv, hw⟩
  | some address =>
      rw [World.blocker, Statement.locks, haddress] at hfree
      rw [TxStore.write_nil]
      exact ⟨hw.inv.lock hfree, hw.lock hfree⟩

/-- One more write, on the code that is locked, and perhaps one more lock. -/
theorem does_write {statement : Statement} {ω : Write}
    (hcode : ∀ id, ω.onCode = some id → id = invite.id)
    (hrun : ∀ w, First directory tables i userId code invite ws w →
      ∃ answer, statement.run directory (w.db.view Tables.apply i) = (.ok answer, [ω]))
    (hw : First directory tables i userId code invite ws w) :
    Does directory tables i (client statement)
      (fun _ => First directory tables i userId code invite (ws ++ [ω])) w := by
  refine does_call (fun _ _ h => h.stable) (fun _ h => ⟨h.inv, fun _ => h.quiet⟩) hw
    fun w hw hfree => ?_
  obtain ⟨answer, hanswer⟩ := hrun w hw
  have hinv : Inv directory tables { w with db := w.db.write i [ω] } := by
    refine hw.inv.write hw.writes fun ω' hmem id hid => ?_
    rw [List.mem_singleton.mp hmem] at hid
    rw [hcode id hid]
    exact hw.holder
  have hwritten :
      First directory tables i userId code invite (ws ++ [ω])
        { w with db := w.db.write i [ω] } := by
    refine ⟨⟨⟨⟨hinv, hw.quiet, hw.mine⟩, ?_⟩, hw.available, hw.holder⟩, hw.new, hw.room⟩
    rw [TxStore.write_writes_self, hw.writes]
    rfl
  rw [World.perform, client_ok _ _ hanswer]
  cases hrow : statement.locksRow directory with
  | none => exact ⟨hinv, hwritten⟩
  | some r =>
      have hlocks : statement.locks directory = some r := by
        cases statement with
        | insertRedemption _ => cases hrow
        | _ => exact hrow
      rw [World.blocker, hlocks] at hfree
      exact ⟨hinv.lock hfree, hwritten.lock hfree⟩

theorem does_insertRedemption (hw : First directory tables i userId code invite [] w) :
    Does directory tables i (client (.insertRedemption ⟨invite.id, userId⟩))
      (fun _ => First directory tables i userId code invite
        [.insertRedemption ⟨invite.id, userId⟩]) w := by
  refine does_write (ω := .insertRedemption ⟨invite.id, userId⟩)
    (fun id hid => (Option.some.inj hid).symm) (fun w hw => ⟨(), ?_⟩) hw
  have hnew : ⟨invite.id, userId⟩ ∉ (w.db.view Tables.apply i).redemptions := by
    rw [TxStore.view, hw.writes]
    exact hw.new
  rw [Statement.run, if_neg hnew]

/-- The counter stays within the limit, so the check holds. -/
theorem First.allows (h : First directory tables i userId code invite ws w) :
    directory.allows invite.id (w.db.committed.useCount invite.id + 1) = true := by
  refine List.all_eq_true.mpr fun other hother => ?_
  by_cases hid : other.id = invite.id
  · obtain rfl : other = invite := List.inj_on_of_nodup_map directory.primaryKey hother
      (mem_of_available h.available) hid
    rw [Bool.or_eq_true]
    refine .inr ?_
    cases hmax : other.maxUses with
    | none => rfl
    | some maxUses => exact decide_eq_true (h.room maxUses hmax)
  · rw [decide_eq_true hid, Bool.true_or]

theorem does_incrementUseCount
    (hw : First directory tables i userId code invite [.insertRedemption ⟨invite.id, userId⟩] w) :
    Does directory tables i (client (.incrementUseCount invite.id))
      (fun _ => First directory tables i userId code invite
        [.insertRedemption ⟨invite.id, userId⟩, .incrementUseCount invite.id]) w := by
  refine does_write (ω := .incrementUseCount invite.id)
    (fun id hid => (Option.some.inj hid).symm) (fun w hw => ⟨(), ?_⟩) hw
  have hcount : (w.db.view Tables.apply i).useCount invite.id =
      w.db.committed.useCount invite.id := by
    rw [TxStore.view, hw.writes]
    rfl
  rw [Statement.run, hcount, if_pos hw.allows]

/-- What a first redemption leaves. -/
theorem First.sound {clock : Clock} {entry : WaitlistRow}
    (h : First directory tables i userId code invite
      (redemptionWrites userId clock invite entry) w) :
    ((redemptionWrites userId clock invite entry).foldl Tables.apply w.db.committed).Sound
      directory :=
  h.inv.sound.redeem (mem_of_available h.available) h.new h.room rfl rfl

theorem does_commit (hw : Complete directory tables i userId code w) :
    Does directory tables i (call .commit) (fun _ => Done directory tables userId code) w := by
  refine does_call (fun _ _ h => h.stable)
    (fun _ h => ⟨h.calling.inv, fun _ => h.calling.quiet⟩) hw fun w hw _ => ?_
  obtain ⟨invite, hholding, hmem⟩ | ⟨clock, invite, entry, hfirst⟩ := hw
  · have hinv := hholding.inv.commit hholding.writes hholding.inv.sound fun _ _ _ _ => rfl
    refine ⟨hinv, hinv, invite, hholding.available, ?_⟩
    show _ ∈ (w.db.view Tables.apply i).redemptions
    rw [TxStore.view, hholding.writes]
    exact hmem
  · have hinv := hfirst.inv.commit hfirst.writes hfirst.sound fun call hcall hi hagain =>
      absurd hagain (hfirst.not_again (hfirst.not_redeemed hfirst.new) call hcall hi)
    refine ⟨hinv, hinv, invite, hfirst.available, ?_⟩
    show _ ∈ (w.db.view Tables.apply i).redemptions
    rw [TxStore.view, hfirst.writes]
    exact List.mem_append_right _ (List.mem_singleton_self _)

/-! ### The whole call -/

variable {clock : Clock} {entry : WaitlistRow}

theorem does_writeRedemption (hw : First directory tables i userId code invite [] w) :
    Does directory tables i (writeRedemption clock userId invite entry)
      (fun _ => Complete directory tables i userId code) w := by
  refine Prog.wp_bind (does_insertRedemption hw) fun _ w hw => ?_
  refine Prog.wp_bind (does_incrementUseCount hw) fun _ w hw => ?_
  refine Prog.wp_bind (does_write (ω := .activate entry.id clock.now)
    (fun _ hid => by cases hid) (fun _ _ => ⟨(), rfl⟩) hw) fun _ w hw => ?_
  refine Prog.wp_bind (does_write
    (ω := .insertAudit
      ⟨userId, entry.id, entry.status, invite.id, invite.brandId, invite.challengeId⟩)
    (fun _ hid => by cases hid) (fun _ _ => ⟨(), rfl⟩) hw) fun _ w hw => ?_
  exact .inr ⟨clock, invite, entry, hw⟩

theorem does_redeemFound (hw : Found directory tables i userId code row w) :
    Does directory tables i (redeemFound clock userId row)
      (fun _ => Complete directory tables i userId code) w := by
  refine Prog.wp_bind (does_selectRedemption hw) fun previous w ⟨hw, hprevious⟩ => ?_
  cases previous with
  | true => exact .inl ⟨row.invite, hw.toHolding, hprevious.mp rfl⟩
  | false =>
      have hnew : ⟨row.invite.id, userId⟩ ∉ w.db.committed.redemptions := fun hmem =>
        Bool.false_ne_true (hprevious.mpr hmem)
      have hthrown := hw.toCalling.thrown (hw.toHolding.not_redeemed hnew)
      rw [if_neg Bool.false_ne_true]
      split
      · exact hthrown
      split
      · exact hthrown
      rename_i hroom
      have hfirst : First directory tables i userId code row.invite [] w := by
        refine ⟨hw.toHolding, hnew, fun maxUses hmax => ?_⟩
        rw [hw.useCount]
        rw [Option.mem_def.mp hmax] at hroom
        simpa using hroom
      refine Prog.wp_bind (does_selectWaitlist hfirst) fun entry w hw => ?_
      cases entry with
      | none => exact hw.toCalling.thrown (hw.toHolding.not_redeemed hw.new)
      | some entry => exact does_writeRedemption hw

theorem does_redeemWork (hw : Opened directory tables i userId code [] w) :
    Does directory tables i (redeemWork clock userId code)
      (fun _ => Complete directory tables i userId code) w := by
  refine Prog.wp_bind (does_selectCode hw) fun found w hw => ?_
  cases found with
  | none =>
      refine hw.1.thrown ?_
      rintro ⟨invite, havailable, -⟩
      rw [hw.2] at havailable
      cases havailable
  | some row => exact does_redeemFound hw

/-- A transaction commits what its work has completed, or throws. -/
theorem does_transaction {α : Type} {work : Call α} (hw : Calling directory tables i userId code w)
    (hwork : ∀ w, Opened directory tables i userId code [] w →
      Does directory tables i work (fun _ => Complete directory tables i userId code) w) :
    Does directory tables i (transaction work) (fun _ => Done directory tables userId code) w :=
  Prog.wp_transaction (does_connect hw) (fun _ hw => does_start hw) hwork
    (fun _ _ hw => does_commit hw) fun _ _ hw => does_rollback hw

/-- Call `i` has not started. -/
structure NotStarted (directory : Directory) (tables : Tables) (i : Nat) (w : World) : Prop where
  inv : Inv directory tables w
  quiet : w.Quiet i
  started : ∀ call ∈ w.started, call.program ≠ i

theorem NotStarted.stable (h : NotStarted directory tables i w)
    (hrely : Rely directory tables i w w') : NotStarted directory tables i w' :=
  ⟨hrely.inv, hrely.quiet h.quiet, fun call hcall hi =>
    h.started call (hrely.started call hcall hi) hi⟩

theorem does_request (hw : NotStarted directory tables i w) :
    Does directory tables i (call (.request userId code))
      (fun _ => Calling directory tables i userId code) w := by
  refine does_call (fun _ _ h => h.stable) (fun _ h => ⟨h.inv, fun h => by cases h⟩) hw
    fun w hw _ => ?_
  have hinv : Inv directory tables (w.perform directory i (.request userId code)).2 := by
    refine ⟨hw.inv.sound, hw.inv.locked, hw.inv.replayed, hw.inv.redeemed,
      fun call hcall hagain => ?_, fun call hcall hagain entry hentry hprogram => ?_⟩
    · rcases List.mem_cons.mp hcall with rfl | hcall
      · exact hw.inv.redeemed _ (List.contains_iff_mem.mp hagain)
      · exact hw.inv.again call hcall hagain
    · rcases List.mem_cons.mp hcall with rfl | hcall
      · exact absurd hprogram (hw.quiet entry hentry)
      · exact hw.inv.repeats call hcall hagain entry hentry hprogram
  refine ⟨hinv, hinv, hw.quiet, fun call hcall hi => ?_⟩
  rcases List.mem_cons.mp hcall with rfl | hcall
  · exact ⟨rfl, rfl⟩
  · exact absurd hi (hw.started call hcall)

theorem does_answer (hw : Done directory tables userId code w) :
    Does directory tables i (call (.answer userId code)) (fun _ _ => True) w := by
  refine does_call (fun _ _ h => h.stable) (fun _ h => ⟨h.inv, fun h => by cases h⟩) hw
    fun w hw _ => ⟨⟨hw.inv.sound, hw.inv.locked, hw.inv.replayed, fun entry hentry => ?_,
      hw.inv.again, hw.inv.repeats⟩, trivial⟩
  rcases List.mem_cons.mp hentry with rfl | hentry
  · exact hw.redeemed
  · exact hw.inv.redeemed entry hentry

/-- **One call**: what it throws, it throws without a trace. -/
theorem does_redeemInviteCode (hw : NotStarted directory tables i w) :
    Does directory tables i (redeemInviteCode clock userId code) (fun _ _ => True) w := by
  refine Prog.wp_bind (does_request hw) fun _ w hw => ?_
  refine Prog.wp_bind (does_transaction hw fun _ => does_redeemWork) fun _ w hw => ?_
  exact Prog.wp_bind (does_answer hw) fun _ _ _ => trivial

end

/-! ### A call of its own -/

/-- Nothing fails, and nobody has to wait. -/
def Undisturbed (directory : Directory) (i : Nat) (w : World) (op : InviteOp) (e : InviteEnv) :
    Prop := w.blocker directory i op = none ∧ e = .succeeds

section

variable {directory : Directory} {i : Nat} {userId : Uuid} {code : Text} {w : World}
  {invite : InviteCode}

/-- The call can go on undisturbed, and end in `P`. -/
abbrev Can {α : Type} (directory : Directory) (i : Nat) (p : Call α) (P : World → Prop)
    (w : World) : Prop :=
  p.may (machine directory i) (Undisturbed directory i) (Prog.Ends (fun _ => P) fun _ _ => False) w

theorem can_call {op : InviteOp} {P : inviteSig.Ans op → World → Prop} (a : inviteSig.Ans op)
    (w' : World) (hfree : w.blocker directory i op = none)
    (hperform : w.perform directory i op = (.ok a, w')) (h : P a w') :
    (call op).may (machine directory i) (Undisturbed directory i)
      (Prog.Ends P fun _ _ => False) w :=
  Prog.may_call .succeeds ⟨hfree, rfl⟩ (by simpa [machine] using hperform) h

theorem can_redeemWork (h : directory.available code = some invite)
    (hmem : ⟨invite.id, userId⟩ ∈ w.db.committed.redemptions) (hwrites : w.db.writes i = some [])
    (hidle : ∀ r, w.db.holder r = none) (clock : Clock) :
    Can directory i (redeemWork clock userId code)
      (fun w' => w'.db.committed = w.db.committed ∧ w'.db.writes i = some []) w := by
  have hview : w.db.view Tables.apply i = w.db.committed := by
    rw [TxStore.view, hwrites]
    rfl
  have hlocks : (Statement.selectCode code).locks directory = some (.code invite.id) := by
    rw [Statement.locks, h]
    rfl
  have hafter : w.db.committed = w.db.committed ∧ w.db.writes i = some [] := ⟨rfl, hwrites⟩
  have hlocked : (w.db.lock i (.code invite.id)).view Tables.apply i = w.db.committed := hview
  refine Prog.may_bind (P := fun found w' =>
      found = some ⟨invite, w.db.committed.useCount invite.id⟩ ∧
        w' = { w with db := w.db.lock i (.code invite.id) })
    (can_call _ _ ?_ ?_ ⟨rfl, rfl⟩) fun found w' ⟨hfound, hw'⟩ => ?_
  · rw [World.blocker, hlocks]
    exact congrArg (Option.filter _) (hidle _)
  · show w.client directory i (.selectCode code) = _
    rw [client_ok (some ⟨invite, w.db.committed.useCount invite.id⟩) []
      (by rw [Statement.run, h, hview]; rfl)]
    rw [show (Statement.selectCode code).locksRow directory = _ from hlocks, TxStore.write_nil]
  · subst hfound hw'
    refine Prog.may_bind (P := fun previous w' => previous = true ∧
        w' = { w with db := w.db.lock i (.code invite.id) })
      (can_call _ _ rfl ?_ ⟨rfl, rfl⟩) fun previous w' ⟨hprevious, hw'⟩ => ?_
    · show World.client directory _ i (.selectRedemption invite.id userId) = _
      rw [client_ok true []
        (by rw [Statement.run, hlocked, decide_eq_true hmem])]
      dsimp only [Statement.locksRow, Statement.locks]
      rw [TxStore.write_nil]
    · subst hprevious hw'
      exact ⟨rfl, hwrites⟩

/-- Who has redeemed a code can do it again. -/
theorem can_redeem_again (h : w.db.committed.Redeemed directory userId code)
    (hidle : ∀ r, w.db.holder r = none) (clock : Clock) :
    Can directory i (redeemInviteCode clock userId code)
      (fun w' => w'.db.committed = w.db.committed) w := by
  obtain ⟨invite, havailable, hmem⟩ := h
  refine Prog.may_bind (P := fun _ w' => w'.db = w.db) (can_call () _ rfl rfl rfl) fun _ w₁ h₁ => ?_
  refine Prog.may_bind (P := fun _ w' => w'.db.committed = w.db.committed) ?_ fun redeemed w₂ h₂ =>
    Prog.may_bind (P := fun _ w' => w'.db.committed = w.db.committed) (can_call () _ rfl rfl h₂)
      fun _ _ h₃ => ?_
  refine Prog.may_bind (P := fun _ w' => w'.db = w.db) (can_call () _ rfl rfl h₁) fun _ w₂ h₂ => ?_
  refine Prog.may_tryCatch (P := fun _ _ => False) ?_ fun _ _ h => h.elim
  refine Prog.may_bind (P := fun _ w' => w'.db = w.db.start i)
    (can_call () _ rfl rfl (congrArg (TxStore.start · i) h₂)) fun _ w₃ h₃ => ?_
  refine Prog.may_bind (can_redeemWork havailable (by rw [h₃]; exact hmem)
    (by rw [h₃]; exact TxStore.start_writes_self _ _) (by rw [h₃]; exact hidle) clock)
    fun redeemed w₄ h₄ => ?_
  refine Prog.may_bind (P := fun _ w' => w'.db.committed = w.db.committed)
    (can_call () _ rfl rfl ?_) fun _ _ h₅ => ?_
  · show w₄.db.view Tables.apply i = _
    rw [TxStore.view, h₄.2, Option.getD_some, List.foldl_nil, h₄.1, h₃]
    rfl
  · exact h₅
  · exact h₃

end

/-! ### Any number of calls -/

theorem inv_init {directory : Directory} {tables : Tables} (h : tables.Sound directory) :
    Inv directory tables (World.init tables) where
  sound := h
  locked i ω hi := by
    obtain ⟨ws, hws, -⟩ := hi
    cases hws
  replayed := rfl
  redeemed entry h := absurd h List.not_mem_nil
  again call h := absurd h List.not_mem_nil
  repeats call h := absurd h List.not_mem_nil

theorem redeem_proved (directory : Directory) (tables : Tables) :
    Crew.Proved (machine directory) (guard directory) IsRedeem Never (Inv directory tables)
      (Rely directory tables) (fun i => NotStarted directory tables i)
      (fun i => Prog.Ends (fun _ _ => True) fun _ => Thrown directory tables i) where
  refl _ _ h := .refl h
  trans _ _ _ _ h h' := h.trans h'
  stays _ _ _ h hrely := h.stable hrely
  lasts _ r _ _ h hrely := by
    cases r with
    | ok _ => trivial
    | error _ => exact h.stable hrely
  spawned i w p hp _ hw := by
    obtain ⟨clock, userId, code, rfl⟩ := hp
    exact does_redeemInviteCode hw
  others i j w op e hne hinv hguard hinv' := rely_exec hne hinv hguard hinv'
  drifted _ _ _ _ hdrift := hdrift.elim

/-- **Invite codes are never over-redeemed**, after any step of any interleaving. -/
theorem invite_codes_never_overredeemed {directory : Directory} {tables : Tables} {w : World}
    {ps : List (Call Redeemed)} (hstart : tables.Sound directory)
    (h : Crew (machine directory) (guard directory) IsRedeem Never (World.init tables) w ps) :
    w.db.committed.Sound directory ∧
      w.db.committed = (w.commits.flatMap Prod.snd).foldl Tables.apply tables ∧
      (∀ i err, ps[i]? = some (.raise err) → ∀ entry ∈ w.commits, entry.1 ≠ i) ∧
      (∀ call ∈ w.started, call.again = true →
        (∀ entry ∈ w.commits, entry.1 = call.program → entry.2 = []) ∧
          (call.program ∉ w.failed → ∀ err, ps[call.program]? ≠ some (.raise err))) ∧
      ∀ entry ∈ w.succeeded, (∀ r, w.db.holder r = none) → ∀ i clock,
        Can directory i (redeemInviteCode clock entry.1 entry.2)
          (fun w' => w'.db.committed = w.db.committed) w := by
  obtain ⟨hinv, hps, -⟩ := (redeem_proved directory tables).sound (inv_init hstart)
    (fun i => ⟨inv_init hstart, fun _ hentry => absurd hentry List.not_mem_nil,
      fun _ hcall => absurd hcall List.not_mem_nil⟩) h
  have hthrown : ∀ i err, ps[i]? = some (.raise err) → Thrown directory tables i w :=
    fun i err hi => hps i _ hi
  refine ⟨hinv.sound, hinv.replayed, fun i err hi => (hthrown i err hi).quiet,
    fun call hcall hagain => ⟨hinv.repeats call hcall hagain, fun hnone err hi => hnone ?_⟩,
    fun entry hentry hidle i clock => can_redeem_again (hinv.redeemed entry hentry) hidle clock⟩
  exact (hthrown _ err hi).excused call hcall rfl hagain

/-! ### A code for one

Code 1 can be used once, until time 1000; users 1 and 2 are on the waitlist. -/

def oneUse : Directory where
  codes := [⟨1, 5, none, ['A'], some 1000000, some 1⟩]
  brands := [⟨5, none⟩]
  challenges := []
  users := [⟨1, ['x'], "active".toList, none, none⟩, ⟨2, ['y'], "active".toList, none, none⟩]
  addresses := [⟨11, ['x']⟩, ⟨12, ['y']⟩]
  lower email := email
  primaryKey := by decide
  uniqueCode := by decide

def noRedemptions : Tables := ⟨fun _ => 0, [], fun _ => ⟨.waiting, none⟩, []⟩

/-- Both users, and the first one again when the code has expired. -/
def inviteCalls : List (Call Redeemed) :=
  [redeemInviteCode ⟨0, 0⟩ 1 ['A'], redeemInviteCode ⟨0, 0⟩ 2 ['A'],
    redeemInviteCode ⟨2000, 2000000⟩ 1 ['A']]

def inviteSteps (i n : Nat) : List (Nat × InviteEnv) := List.replicate n (i, .succeeds)

/-- The second call waits for the first one. -/
def inviteSchedule : List (Nat × InviteEnv) :=
  inviteSteps 0 4 ++ inviteSteps 1 3 ++ inviteSteps 0 8 ++ inviteSteps 1 4 ++ inviteSteps 2 7

def playInvites : World × List (Call Redeemed) :=
  playCrew (machine oneUse) inviteSchedule (World.init noRedemptions) inviteCalls

instance (directory : Directory) (i : Nat) (w : World) (op : InviteOp) (e : InviteEnv) :
    Decidable (guard directory i w op e) := inferInstanceAs (Decidable (_ → _))

theorem inviteCalls_spawned :
    Crew (machine oneUse) (guard oneUse) IsRedeem Never (World.init noRedemptions)
      (World.init noRedemptions) inviteCalls :=
  Crew.spawn (Crew.spawn (Crew.spawn .init ⟨_, _, _, rfl⟩) ⟨_, _, _, rfl⟩) ⟨_, _, _, rfl⟩

theorem one_use_redeemed_once :
    playInvites.1.db.committed.redemptions = [⟨1, 1⟩] ∧
      playInvites.1.succeeded = [(1, ['A']), (1, ['A'])] ∧
      playInvites.1.db.committed.Sound oneUse := by
  refine ⟨by decide +kernel, by decide +kernel, ?_⟩
  have hstart : noRedemptions.Sound oneUse :=
    ⟨fun _ _ => rfl, fun _ _ _ _ => Nat.zero_le _, List.nodup_nil⟩
  exact (invite_codes_never_overredeemed hstart (Crew.play inviteSchedule inviteCalls_spawned
    (by decide +kernel))).1

end BrandBlitz.Invites
