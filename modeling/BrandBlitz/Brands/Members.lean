import BrandBlitz.Lib.Crew
import BrandBlitz.Paging.Cursor
import BrandBlitz.Sessions.Table

/-!
# BrandBlitz.Brands.Members

**The members of brands**: `addBrandMember` and `removeBrandMember` of
`apps/api/src/db/queries/brand-members.ts`, over the tables of migration 00031.

* `BrandMembers` carries the two keys of `brand_members`, so that a table with two rows for one
  address cannot be written down.
* Each statement is one step. Nothing is locked from one statement to the next.
* A statement may fail, before it took effect or after.
* `toLowerCase` and the `LOWER` of the database, which both depend on Unicode tables, are
  parameters.
-/

namespace BrandBlitz.Brands

open BrandBlitz.Lib
open BrandBlitz.Paging (Uuid Timestamp)
open BrandBlitz.Sessions (dbError)

/-! ### The tables -/

inductive BrandMemberRole where
  | owner
  | editor
  | viewer
deriving DecidableEq, Repr

/-- A row of `brand_members`. -/
structure BrandMember where
  id : Uuid
  brandId : Uuid
  userId : Option Uuid
  email : Text
  role : BrandMemberRole
  invitedBy : Uuid
  createdAt : Timestamp
  updatedAt : Timestamp
deriving DecidableEq, Repr

/-- The columns of `brand_members_brand_email_unique`. -/
def BrandMember.brandEmail (m : BrandMember) : Uuid × Text := (m.brandId, m.email)

structure BrandMembers where
  rows : List BrandMember
  primaryKey : (rows.map BrandMember.id).Nodup
  brandEmailUnique : (rows.map BrandMember.brandEmail).Nodup

/-- `DO UPDATE SET role = EXCLUDED.role, updated_at = NOW()`. -/
def BrandMember.updateRole (role : BrandMemberRole) (now : Timestamp) (m : BrandMember) :
    BrandMember :=
  { m with role := role, updatedAt := now }

namespace BrandMembers

variable (members : BrandMembers)

def memberById (memberId brandId : Uuid) : Option BrandMember :=
  members.rows.find? fun m => m.id = memberId ∧ m.brandId = brandId

def memberByEmail (brandId : Uuid) (email : Text) : Option BrandMember :=
  members.rows.find? fun m => m.brandEmail = (brandId, email)

/-- The rows with `brand_id = $1 AND role = 'owner'`. -/
def owners (brandId : Uuid) : List BrandMember :=
  members.rows.filter fun m => m.brandId = brandId ∧ m.role = .owner

def insert (m : BrandMember) (hid : m.id ∉ members.rows.map BrandMember.id)
    (hemail : m.brandEmail ∉ members.rows.map BrandMember.brandEmail) : BrandMembers where
  rows := m :: members.rows
  primaryKey := List.nodup_cons.mpr ⟨hid, members.primaryKey⟩
  brandEmailUnique := List.nodup_cons.mpr ⟨hemail, members.brandEmailUnique⟩

def setRole (brandId : Uuid) (email : Text) (role : BrandMemberRole) (now : Timestamp) :
    BrandMembers where
  rows := members.rows.map fun m =>
    if m.brandEmail = (brandId, email) then m.updateRole role now else m
  primaryKey := by
    rw [List.map_map]
    refine (congrArg List.Nodup (List.map_congr_left fun m _ => ?_)).mpr members.primaryKey
    simp only [Function.comp_apply]
    split <;> rfl
  brandEmailUnique := by
    rw [List.map_map]
    refine (congrArg List.Nodup (List.map_congr_left fun m _ => ?_)).mpr members.brandEmailUnique
    simp only [Function.comp_apply]
    split <;> rfl

def remove (memberId brandId : Uuid) : BrandMembers where
  rows := members.rows.filter fun m => ¬(m.id = memberId ∧ m.brandId = brandId)
  primaryKey := members.primaryKey.sublist (List.filter_sublist.map _)
  brandEmailUnique := members.brandEmailUnique.sublist (List.filter_sublist.map _)

theorem mem_owners {members : BrandMembers} {brandId : Uuid} {m : BrandMember} :
    m ∈ members.owners brandId ↔ m ∈ members.rows ∧ m.brandId = brandId ∧ m.role = .owner := by
  simp [owners]

theorem owners_ids_nodup {brandId : Uuid} :
    ((members.owners brandId).map BrandMember.id).Nodup :=
  members.primaryKey.sublist (List.filter_sublist.map _)

end BrandMembers

structure User where
  id : Uuid
  email : Text
deriving DecidableEq, Repr

/-- What a removal has counted. -/
structure OwnerCount where
  program : Nat
  brandId : Uuid
  owners : List Uuid
deriving DecidableEq, Repr

structure World where
  brands : List Uuid
  users : List User
  members : BrandMembers
  /-- history -/
  counts : List OwnerCount

/-- Users register, and change their addresses. -/
def Registers (w w' : World) : Prop :=
  ∃ users : List User, (∀ user ∈ w.users, ∃ user' ∈ users, user'.id = user.id) ∧
    w' = { w with users }

/-! ### The statements -/

inductive MemberOp where
  | userByEmail (normalizedEmail : Text)
  | upsertMember (brandId : Uuid) (userId : Option Uuid) (email : Text) (role : BrandMemberRole)
      (invitedBy : Uuid)
  | memberById (memberId brandId : Uuid)
  /-- `COUNT(*)::text`, which `parseInt` reads back -/
  | countOwners (brandId : Uuid)
  | deleteMember (memberId brandId : Uuid)
deriving DecidableEq, Repr

abbrev memberSig : Sig where
  Op := MemberOp
  Ans
    | .userByEmail _ => Option Uuid
    | .upsertMember .. => BrandMember
    | .memberById .. | .deleteMember .. => Option BrandMember
    | .countOwners _ => Nat

abbrev Members := Prog memberSig ApiError

/-- How a statement goes. -/
inductive Fate where
  /-- It is executed: `NOW()`, `gen_random_uuid()`, and whether the answer arrives. -/
  | executed (now : Timestamp) (id : Uuid) (answered : Bool)
  | lost
deriving DecidableEq, Repr

def violation (constraint : String) (code : String) : ApiError :=
  dbError ("violates constraint \"" ++ constraint ++ "\"") code

/-- The rows that a new member refers to. -/
def World.references (w : World) (m : BrandMember) : Except ApiError Unit :=
  if m.brandId ∉ w.brands then .error (violation "brand_members_brand_id_fkey" "23503")
  else if ∃ id ∈ m.userId, id ∉ w.users.map User.id then
    .error (violation "brand_members_user_id_fkey" "23503")
  else if m.invitedBy ∉ w.users.map User.id then
    .error (violation "brand_members_invited_by_fkey" "23503")
  else .ok ()

/-- `INSERT … ON CONFLICT (brand_id, email) DO UPDATE … RETURNING *`. A row that is updated keeps
what it refers to. -/
def World.upsert (w : World) (m : BrandMember) : Except ApiError BrandMember × World :=
  match w.members.memberByEmail m.brandId m.email with
  | some old => (.ok (old.updateRole m.role m.updatedAt),
      { w with members := w.members.setRole m.brandId m.email m.role m.updatedAt })
  | none =>
    if h : m.id ∉ w.members.rows.map BrandMember.id ∧
        m.brandEmail ∉ w.members.rows.map BrandMember.brandEmail then
      match w.references m with
      | .ok () => (.ok m, { w with members := w.members.insert m h.1 h.2 })
      | .error e => (.error e, w)
    else (.error (violation "brand_members_pkey" "23505"), w)

@[simp] theorem upsert_counts (w : World) (m : BrandMember) : (w.upsert m).2.counts = w.counts := by
  unfold World.upsert
  split
  · rfl
  · split
    · split <;> rfl
    · rfl

/-- The effect of a statement of program `i`. -/
def perform (lower : Text → Text) (i : Nat) (now : Timestamp) (id : Uuid) (w : World) :
    (op : MemberOp) → Except ApiError (memberSig.Ans op) × World
  | .userByEmail normalizedEmail =>
    (.ok ((w.users.find? fun user => lower user.email = normalizedEmail).map User.id), w)
  | .upsertMember brandId userId email role invitedBy =>
    w.upsert ⟨id, brandId, userId, email, role, invitedBy, now, now⟩
  | .memberById memberId brandId => (.ok (w.members.memberById memberId brandId), w)
  | .countOwners brandId =>
    (.ok (w.members.owners brandId).length,
      { w with counts := ⟨i, brandId, (w.members.owners brandId).map BrandMember.id⟩ :: w.counts })
  | .deleteMember memberId brandId =>
    (.ok (w.members.memberById memberId brandId),
      { w with members := w.members.remove memberId brandId })

def connectionLost : ApiError :=
  ⟨"Connection terminated unexpectedly".toList, none, none⟩

def machine (lower : Text → Text) (i : Nat) : Machine memberSig ApiError World Fate where
  exec fate op w :=
    match fate with
    | .executed now id answered =>
      (if answered then (perform lower i now id w op).1 else .error connectionLost,
        (perform lower i now id w op).2)
    | .lost => (.error connectionLost, w)

/-! ### The programs -/

def call (op : MemberOp) : Members (memberSig.Ans op) := Prog.call (S := memberSig) op

/-- The argument of `addBrandMember`. -/
structure NewMember where
  brandId : Uuid
  email : Text
  role : BrandMemberRole
  invitedBy : Uuid
deriving DecidableEq, Repr

def addBrandMember (toLowerCase : Text → Text) (data : NewMember) : Members BrandMember := do
  let normalizedEmail := toLowerCase (trim data.email)
  let matchedUserId ← call (.userByEmail normalizedEmail)
  call (.upsertMember data.brandId matchedUserId normalizedEmail data.role data.invitedBy)

def cannotRemoveLastOwner : ApiError := ⟨"CANNOT_REMOVE_LAST_OWNER".toList, none, none⟩

/-- "Check if target member is owner and if there are other owners". -/
def checkOtherOwners (brandId : Uuid) (member : BrandMember) : Members Unit :=
  if member.role = .owner then do
    let count ← call (.countOwners brandId)
    if count ≤ 1 then .raise cannotRemoveLastOwner else return ()
  else return ()

def removeBrandMember (brandId memberId : Uuid) : Members (Option BrandMember) := do
  let member ← call (.memberById memberId brandId)
  match member with
  | none => return none
  | some member =>
    checkOtherOwners brandId member
    call (.deleteMember memberId brandId)

/-- What may be started, at any time. -/
def IsProgram (p : Members (Option BrandMember)) : Prop :=
  (∃ toLowerCase data, p = some <$> addBrandMember toLowerCase data) ∨
    ∃ brandId memberId, p = removeBrandMember brandId memberId

end BrandBlitz.Brands
