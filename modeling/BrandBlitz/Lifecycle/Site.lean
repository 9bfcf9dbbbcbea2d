import Mathlib.Data.List.Nodup
import BrandBlitz.Deposit.Webhook
import BrandBlitz.Payout.Process

/-!
# BrandBlitz.Lifecycle.Site

**The site**: all challenges and brands in one database, and the four programs that write the
status of a challenge.

* The deposit webhook is that of `BrandBlitz.Deposit.Webhook`. Its table `challenges` is the
  table of the site.
* `processPayout` and `refundChallenge` are those of `BrandBlitz.Payout.Process`. What belongs
  to one challenge besides its row is in `books`; the row that they meet is that of the table.
* `deleteBrand` (`apps/api/src/db/queries/brands.ts`) is one statement: it marks the brand as
  deleted and cancels what is open of its challenges.
-/

namespace BrandBlitz.Lifecycle

open BrandBlitz.Lib BrandBlitz.Payout

/-! ### Operations -/

/-- What `deleteBrand` returns. -/
structure DeletedBrand where
  deletedAt : Time
  cancelledChallenges : Nat
deriving DecidableEq, Repr

/-- What the programs await. -/
inductive SiteOp where
  | deposit (op : Deposit.Op)
  | payout (challengeId : Text) (op : Payout.Op)
  | deleteBrand (id : Text) (ownerUserId : Option UserId)

abbrev siteSig : Sig where
  Op := SiteOp
  Ans
    | .deposit op => Deposit.apiSig.Ans op
    | .payout _ op => payoutSig.Ans op
    | .deleteBrand .. => Option DeletedBrand

/-- A program of the site. -/
abbrev SiteService := Prog siteSig Err

def depositHom : Prog.Hom Deposit.apiSig siteSig where
  op := .deposit
  ans _ a := a

def payoutHom (challengeId : Text) : Prog.Hom payoutSig siteSig where
  op := .payout challengeId
  ans _ a := a

/-- `deleteBrand(id, ownerUserId)`. -/
def deleteBrand (id : Text) (ownerUserId : Option UserId) :
    SiteService (Option DeletedBrand) := Prog.call (S := siteSig) (.deleteBrand id ownerUserId)

/-- The four programs, with what they return left out. -/
inductive SiteProgram (deps : Deposit.Deps) : SiteService Unit → Prop
  | deposit (req : Deposit.Request) :
      SiteProgram deps ((Deposit.depositEndpoint deps req).embed depositHom)
  | processPayout (config : PayoutConfig) (challengeId : Text) :
      SiteProgram deps ((Payout.processPayout config challengeId).embed (payoutHom challengeId))
  | refundChallenge (challengeId : Text) (adminId : UserId) (reason : Text) :
      SiteProgram deps (((Payout.refundChallenge adminId reason).embed
        (payoutHom challengeId)).bind fun _ => .ret ())
  | deleteBrand (id : Text) (ownerUserId : Option UserId) :
      SiteProgram deps ((Lifecycle.deleteBrand id ownerUserId).bind fun _ => .ret ())

/-! ### The world -/

/-- A row of `brands`. -/
structure Brand where
  ownerUserId : UserId
  deletedAt : Option Time
deriving DecidableEq, Repr

structure Site where
  api : Deposit.World
  /-- what belongs to a challenge, by its id -/
  books : Text → Payout.World
  brands : Text → Option Brand
  /-- `brand_id` of a challenge -/
  brandId : Text → Text

/-- What the environment contributes to one operation. -/
structure SiteEnv where
  api : Deposit.Env
  books : Payout.Env
  dbFault : Option DbFault
  now : Time

/-- `UPDATE challenges SET status = …`. -/
def setStatus (t : Deposit.Challenges) (status : Deposit.Challenge → ChallengeStatus) :
    Deposit.Challenges where
  rows := t.rows.map fun c => { c with status := status c }
  ids := List.pairwise_map.mpr t.ids
  memos := List.pairwise_map.mpr t.memos
  txHashes := List.pairwise_map.mpr t.txHashes

/-- `WHERE id = …`. -/
def byId (t : Deposit.Challenges) (id : Text) : Option Deposit.Challenge :=
  t.rows.find? fun c => c.id = id

namespace Site

variable (w : Site)

def row (id : Text) : Option Deposit.Challenge := byId w.api.challenges id

def status (id : Text) : Option ChallengeStatus := (w.row id).map (·.status)

/-- The challenge as the payout and the refund meet it; where there is no row, it cannot be
found. -/
def challenge (id : Text) : Payout.Challenge :=
  match w.row id with
  | none => { (w.books id).challenge with deleted := true }
  | some row =>
    { (w.books id).challenge with
      id := row.id
      status := row.status
      poolAmountStroops := row.poolAmountStroops
      depositTxHash := row.depositTxHash
      deleted := row.deleted }

def openBooks (id : Text) : Payout.World := { w.books id with challenge := w.challenge id }

/-- The books are put back, and the row is written. -/
def closeBooks (id : Text) (b : Payout.World) : Site :=
  { w with
    books := Function.update w.books id b
    api := { w.api with
      challenges := setStatus w.api.challenges fun c =>
        if c.id = id then b.challenge.status else c.status } }

/-- `brand_id = … AND status IN ('pending_deposit', 'active') AND deleted_at IS NULL`. -/
def isOpenOf (id : Text) (c : Deposit.Challenge) : Bool :=
  w.brandId c.id = id && (c.status = .pendingDeposit || c.status = .active) && !c.deleted

/-- Can the brand be deleted by this owner? -/
def mayDelete (id : Text) (ownerUserId : Option UserId) : Bool :=
  (w.brands id).any fun brand =>
    brand.deletedAt.isNone && ownerUserId.all (· = brand.ownerUserId)

/-- The two `UPDATE`s of `deleteBrand`, which are one statement. -/
def cancelBrand (id : Text) (now : Time) : Site :=
  { w with
    brands := Function.update w.brands id
      ((w.brands id).map fun brand => { brand with deletedAt := some now })
    api := { w.api with
      challenges := setStatus w.api.challenges fun c =>
        if w.isOpenOf id c then .cancelled else c.status } }

/-- `deleteBrand` when it does not throw. -/
def performDelete (id : Text) (ownerUserId : Option UserId) (now : Time) :
    Option DeletedBrand × Site :=
  if w.mayDelete id ownerUserId then
    (some ⟨now, (w.api.challenges.rows.filter (w.isOpenOf id)).length⟩, w.cancelBrand id now)
  else (none, w)

end Site

/-- The database and the network, as all of them meet it. -/
def siteMachine (deps : Deposit.Deps) : Machine siteSig Err Site SiteEnv where
  exec e op w :=
    match op with
    | .deposit op =>
        let done := (Deposit.apiMachine deps).exec e.api op w.api
        (done.1, { w with api := done.2 })
    | .payout id op =>
        let done := payoutMachine.exec e.books op (w.openBooks id)
        (done.1, w.closeBooks id done.2)
    | .deleteBrand id ownerUserId =>
        let done := w.performDelete id ownerUserId e.now
        match e.dbFault with
        | some fault => (.error fault.err, if fault.applied then done.2 else w)
        | none => (.ok done.1, done.2)

/-! ### What becomes of a status -/

theorem byId_setStatus (t : Deposit.Challenges) (status : Deposit.Challenge → ChallengeStatus)
    (id : Text) : byId (setStatus t status) id =
      (byId t id).map fun c => { c with status := status c } := by
  simp only [byId, setStatus, List.find?_map]
  rfl

theorem id_of_byId {t : Deposit.Challenges} {id : Text} {c : Deposit.Challenge}
    (h : byId t id = some c) : c.id = id := by
  have hid := List.find?_some h
  exact of_decide_eq_true hid

/-- A row is found by its id. -/
theorem byId_of_mem {t : Deposit.Challenges} {c : Deposit.Challenge} (hc : c ∈ t.rows) :
    byId t c.id = some c := by
  cases hfind : byId t c.id with
  | none => exact absurd (List.find?_eq_none.mp hfind c hc) (by simp)
  | some d =>
      have hnodup : (t.rows.map (·.id)).Nodup := List.pairwise_map.mpr t.ids
      exact congrArg some (List.inj_on_of_nodup_map hnodup (List.mem_of_find?_eq_some hfind) hc
        (id_of_byId hfind))

theorem byId_activate {t t' : Deposit.Challenges} {id txHash : Text}
    (h : t'.rows = t.rows.map (Deposit.Challenges.activateRow id txHash)) (id' : Text) :
    byId t' id' = (byId t id').map (Deposit.Challenges.activateRow id txHash) := by
  have hid : (fun c : Deposit.Challenge => decide (c.id = id')) ∘
      Deposit.Challenges.activateRow id txHash = fun c => decide (c.id = id') :=
    funext fun c => by rw [Function.comp_apply, Deposit.Challenges.activateRow_id]
  simp only [byId, h, List.find?_map, hid]

namespace Site

variable {w : Site} {id : Text}

/-- Only the challenge whose books are closed may get a new status. -/
theorem status_closeBooks (b : Payout.World) (id' : Text) :
    (w.closeBooks id b).status id' =
      if id' = id then (w.status id).map fun _ => b.challenge.status else w.status id' := by
  have hrow : (w.closeBooks id b).row id' = (w.row id').map fun c =>
      { c with status := if c.id = id then b.challenge.status else c.status } :=
    byId_setStatus ..
  simp only [status, hrow, Option.map_map]
  cases h : w.row id' with
  | none =>
      split
      · rename_i hid
        rw [← hid, h]
        rfl
      · rfl
  | some c =>
      have hid : c.id = id' := id_of_byId h
      simp only [Option.map_some, Function.comp_apply, hid]
      split
      · rename_i hsame
        rw [← hsame, h]
        rfl
      · rfl

theorem challenge_status {row : Deposit.Challenge} (h : w.row id = some row) :
    (w.challenge id).status = row.status := by
  rw [challenge, h]

/-- Books that are closed with the status that they were opened with. -/
theorem status_closeBooks_of_eq {b : Payout.World}
    (hb : b.challenge.status = (w.challenge id).status) :
    (w.closeBooks id b).status = w.status := by
  funext id'
  rw [status_closeBooks]
  split
  · rename_i hid
    subst hid
    cases h : w.row id' with
    | none => simp only [status, h, Option.map_none]
    | some row => simp only [status, h, Option.map_some, hb, challenge_status h]
  · rfl

theorem status_cancelBrand (now : Time) (id' : Text) :
    (w.cancelBrand id now).status id' =
      (w.row id').map fun c => if w.isOpenOf id c then .cancelled else c.status := by
  have hrow : (w.cancelBrand id now).row id' = (w.row id').map fun c =>
      { c with status := if w.isOpenOf id c then .cancelled else c.status } := byId_setStatus ..
  simp only [status, hrow, Option.map_map]
  rfl

end Site

end BrandBlitz.Lifecycle
