import BrandBlitz.Lib.OffsetPages
import BrandBlitz.Lib.Placeholders
import BrandBlitz.Paging.Cursor
import BrandBlitz.Payout.World
import Mathlib.Algebra.Order.Floor.Div

/-!
# BrandBlitz.Paging.AdminChallenges

**The challenges for administrators**: `GET /admin/challenges` of
`apps/api/src/routes/admin/challenges.ts`.

* A status is put in front of the parameters, after `LIMIT $1 OFFSET $2` was written. With a status
  no page is served (`listChallenges_of_status`).
* `ORDER BY created_at` says nothing of challenges of the same instant, and each page is a query of
  its own. The pages are a partition if no instant is on two of them (`pages_partition_iff`).
-/

namespace BrandBlitz.Paging.AdminChallenges

open BrandBlitz.Lib
open BrandBlitz.Lib.NumberText
open BrandBlitz.Lib.OffsetPages
open BrandBlitz.Lib.Placeholders
open BrandBlitz.Payout (stroopsToUsdc)
open BrandBlitz.Sessions (dbError maxInteger)

/-! ### Tables -/

def statusText : Payout.ChallengeStatus → Text
  | .draft => "draft".toList
  | .pendingDeposit => "pending_deposit".toList
  | .active => "active".toList
  | .ended => "ended".toList
  | .settled => "settled".toList
  | .payoutFailed => "payout_failed".toList
  | .cancelled => "cancelled".toList
  | .refunded => "refunded".toList

/-- A row of `challenges`, with the columns that the route reads. -/
structure Challenge where
  id : Uuid
  brandId : Uuid
  status : Payout.ChallengeStatus
  poolAmountStroops : Nat
  createdAt : Timestamp
  deletedAt : Option Timestamp
deriving DecidableEq, Repr

/-- What is shown of a row of `brands`. -/
structure Brand where
  name : Text
  logoUrl : Option Text
deriving DecidableEq, Repr

/-- The two tables, with what this route reads of them. -/
structure AdminDb where
  challenges : List Challenge
  /-- `PRIMARY KEY` -/
  ids_nodup : (challenges.map Challenge.id).Nodup
  /-- `brands`, by id -/
  brands : Uuid → Option Brand
  /-- `brand_id UUID NOT NULL REFERENCES brands(id)` -/
  brands_exist : ∀ challenge ∈ challenges, (brands challenge.brandId).isSome = true

/-- A row of `challenges c JOIN brands b ON c.brand_id = b.id`. -/
structure AdminChallenge where
  challenge : Challenge
  poolAmountUsdc : Text
  brandName : Text
  brandLogoUrl : Option Text
deriving DecidableEq, Repr

def AdminDb.joined (db : AdminDb) : List AdminChallenge :=
  db.challenges.filterMap fun challenge => (db.brands challenge.brandId).map fun brand =>
    { challenge
      poolAmountUsdc := stroopsToUsdc challenge.poolAmountStroops
      brandName := brand.name
      brandLogoUrl := brand.logoUrl }

/-- `c.created_at DESC`. -/
def Challenge.createdKey (challenge : Challenge) : Intᵒᵈ := OrderDual.toDual challenge.createdAt

def createdKey (row : AdminChallenge) : Intᵒᵈ := row.challenge.createdKey

/-! ### Statements -/

/-- What a placeholder is for. -/
inductive Use where
  | limit | offset | status
deriving DecidableEq, Repr

/-- A statement: the numbers of its placeholders, and its parameters as they are sent. -/
structure Statement where
  /-- `AND c.status = $n` -/
  status : Option Nat
  /-- `LIMIT $m OFFSET $n` -/
  window : Option (Nat × Nat)
  params : List Text
deriving DecidableEq, Repr

def Statement.uses (st : Statement) : List (Use × Nat) :=
  st.status.toList.map (fun n => (.status, n)) ++
    st.window.toList.flatMap fun (m, n) => [(.limit, m), (.offset, n)]

/-- The values of the placeholders. -/
def Statement.bind (st : Statement) : Except ApiError (Nat → Text) :=
  let numbers := st.uses.map Prod.snd
  let placeholders := numbers.foldl max 0
  if (List.range' 1 placeholders).all numbers.contains then
    if st.params.length = placeholders then .ok (bindingOf [] st.params)
    else .error (dbError "bind message supplies a wrong number of parameters" "08P01")
  else .error (dbError "could not determine data type of parameter" "42P18")

/-- The `WHERE`. -/
def Statement.keeps (st : Statement) (binding : Nat → Text) (challenge : Challenge) : Bool :=
  challenge.deletedAt.isNone && st.status.all fun n => statusText challenge.status = binding n

/-- A `bigint`, of a text without blanks and sign. -/
def bigintParam (text : Text) : Except ApiError Nat :=
  match toNumber text with
  | none => .error (dbError "invalid input syntax for type bigint" "22P02")
  | some n =>
    if n < 2 ^ 63 then .ok n.toNat
    else .error (dbError "value out of range for type bigint" "22003")

/-- `SELECT … ORDER BY c.created_at DESC`. -/
def Statement.rows (st : Statement) (sorting : Sorting createdKey) (db : AdminDb) :
    Except ApiError (List AdminChallenge) := do
  let binding ← st.bind
  let sorted := sorting.sort (db.joined.filter fun row => st.keeps binding row.challenge)
  match st.window with
  | none => return sorted
  | some (m, n) =>
    let limit ← bigintParam (binding m)
    let offset ← bigintParam (binding n)
    return limitOffset limit offset sorted

/-- `SELECT COUNT(*)::int`. -/
def Statement.count (st : Statement) (db : AdminDb) : Except ApiError Nat := do
  let binding ← st.bind
  let total := (db.challenges.filter (st.keeps binding)).length
  if total ≤ maxInteger then return total
  else throw (dbError "integer out of range" "22003")

/-! ### The route -/

/-- The texts of the query string. -/
structure ListQuery where
  page : Option Text
  limit : Option Text
  status : Option Text
deriving DecidableEq, Repr

/-- The digits that a text starts with. -/
def leadingNumber (text : Text) : Option Int :=
  match text.takeWhile (·.isDigit) with
  | [] => none
  | digits => some (Nat.ofDigitChars 10 digits 0)

/-- `parseInt(val, 10)`, for numbers that doubles hold exactly. -/
def parseInt (val : Text) : Option Int :=
  match val.dropWhile isJsSpace with
  | '-' :: rest => (leadingNumber rest).map (- ·)
  | '+' :: rest => leadingNumber rest
  | rest => leadingNumber rest

/-- `val ? parseInt(val, 10) : default`. -/
def readNumber (default : Int) : Option Text → Option Int
  | none => some default
  | some val => if val = [] then some default else parseInt val

/-- `z.enum([…])`. -/
def listedStatuses : List Payout.ChallengeStatus :=
  [.active, .pendingDeposit, .ended, .settled, .cancelled, .refunded, .payoutFailed]

def readStatus : Option Text → Except ApiError (Option Payout.ChallengeStatus)
  | none => .ok none
  | some text =>
    match listedStatuses.find? fun status => statusText status = text with
    | some status => .ok (some status)
    | none => .error ⟨"Validation Error".toList, none, none⟩

/-- The number of the placeholder of a status: `paramCount` was 2. -/
def whereStatus (status : Option Payout.ChallengeStatus) : Option Nat := status.map fun _ => 2 + 1

def pageStatement (limit offset : Option Int) (status : Option Payout.ChallengeStatus) :
    Statement where
  status := whereStatus status
  window := some (1, 2)
  -- `params.unshift(status)`
  params := (status.map statusText).toList ++ [numberText limit, numberText offset]

def countStatement (status : Option Payout.ChallengeStatus) : Statement where
  status := whereStatus status
  window := none
  params := (status.map statusText).toList

structure ChallengesPage where
  challenges : List AdminChallenge
  page : Option Int
  limit : Option Int
  total : Nat
  totalPages : Nat
deriving DecidableEq, Repr

/-- `Math.ceil(total / limit)`. -/
def totalPages (total : Nat) (limit : Option Int) : Nat :=
  match limit with
  | none => 0
  | some limit => total ⌈/⌉ limit.toNat

def listChallenges (db : AdminDb) (sorting : Sorting createdKey) (query : ListQuery) :
    Except ApiError ChallengesPage := do
  let status ← readStatus query.status
  let page := readNumber 1 query.page
  let limit := readNumber 20 query.limit
  -- nothing is less or greater than `NaN`
  if page.any (· < 1) || limit.any (· < 1) || limit.any (100 < ·) then
    throw (createError "Invalid pagination parameters" 400 "INVALID_PAGINATION")
  let offset := Option.map₂ (fun page limit => (page - 1) * limit) page limit
  let challenges ← (pageStatement limit offset status).rows sorting db
  let total ← (countStatement status).count db
  return { challenges, page, limit, total, totalPages := totalPages total limit }

/-! ### What the pages should be -/

/-- The challenges that are not deleted and have the status. -/
def AdminDb.listed (db : AdminDb) (status : Option Payout.ChallengeStatus) :
    List Challenge :=
  db.challenges.filter fun challenge =>
    challenge.deletedAt.isNone && status.all (challenge.status = ·)

/-- The request of a page. -/
def request (limit : Nat) (status : Option Payout.ChallengeStatus) (page : Nat) : ListQuery where
  page := some (numberText (some page))
  limit := some (numberText (some limit))
  status := status.map statusText

/-- What should stand for a placeholder. -/
def Use.value (limit offset : Nat) (status : Option Payout.ChallengeStatus) : Use → Option Text
  | .limit => some (numberText (some limit))
  | .offset => some (numberText (some offset))
  | .status => status.map statusText

/-- The placeholders are bound, and the pages are the challenges, whatever each query makes of
`ORDER BY`. -/
structure Partition (db : AdminDb) (limit : Nat) (status : Option Payout.ChallengeStatus) :
    Prop where
  bindings : ∀ offset : Nat,
    Refers (pageStatement (some limit) (some offset) status).params (Use.value limit offset status)
        (pageStatement (some limit) (some offset) status).uses ∧
      Refers (countStatement status).params (Use.value limit offset status)
        (countStatement status).uses
  pages : ∀ sorting : Nat → Sorting createdKey, ∃ served : Nat → ChallengesPage,
    (∀ k < (db.listed status).length ⌈/⌉ limit,
      listChallenges db (sorting k) (request limit status (k + 1)) = .ok (served k) ∧
        (served k).total = (db.listed status).length ∧
        (served k).totalPages = (db.listed status).length ⌈/⌉ limit) ∧
    ((List.range ((db.listed status).length ⌈/⌉ limit)).flatMap fun k =>
      (served k).challenges.map AdminChallenge.challenge).Perm (db.listed status)

/-! ### Numbers and texts -/

theorem leadingNumber_digits (n : Nat) : leadingNumber (Nat.toDigits 10 n) = some (n : Int) := by
  have hdigits : (Nat.toDigits 10 n).takeWhile (·.isDigit) = Nat.toDigits 10 n :=
    List.takeWhile_eq_self_iff.mpr fun c hc => isDigit_of_mem_digits hc
  rw [leadingNumber, hdigits]
  split
  next h => exact absurd h Nat.toDigits_ne_nil
  next => rw [Nat.ofDigitChars_ten_toDigits]

/-- A natural number is read back. -/
theorem parseInt_numberText (n : Nat) : parseInt (numberText (some n)) = some (n : Int) := by
  have hspace : (Nat.toDigits 10 n).dropWhile isJsSpace = Nat.toDigits 10 n := by
    rw [List.dropWhile_eq_self_iff]
    intro hlength
    rw [isJsSpace_of_isDigit (isDigit_of_mem_digits (List.getElem_mem hlength))]
    exact Bool.false_ne_true
  show parseInt (Nat.toDigits 10 n) = some (n : Int)
  rw [parseInt, hspace]
  split
  next rest h => exact absurd (h ▸ List.mem_cons_self) (not_mem_digits (n := n) (by decide))
  next rest h => exact absurd (h ▸ List.mem_cons_self) (not_mem_digits (n := n) (by decide))
  next => exact leadingNumber_digits n

theorem readNumber_numberText (default : Int) (n : Nat) :
    readNumber default (some (numberText (some n))) = some (n : Int) := by
  have hne : numberText (some (n : Int)) ≠ [] := Nat.toDigits_ne_nil
  rw [readNumber, if_neg hne, parseInt_numberText]

theorem toNumber_numberText (n : Nat) : toNumber (numberText (some n)) = some (n : Int) := by
  have hdigits : (Nat.toDigits 10 n).all (·.isDigit) = true :=
    List.all_eq_true.mpr fun c hc => isDigit_of_mem_digits hc
  show toNumber (Nat.toDigits 10 n) = some (n : Int)
  rw [toNumber, if_pos hdigits, Nat.ofDigitChars_ten_toDigits]

theorem bigintParam_numberText {n : Nat} (hn : n < 2 ^ 63) :
    bigintParam (numberText (some n)) = .ok n := by
  rw [bigintParam, toNumber_numberText]
  exact if_pos (by exact_mod_cast hn)

/-- No status is a number. -/
theorem toNumber_statusText (status : Payout.ChallengeStatus) :
    toNumber (statusText status) = none := by
  cases status <;> rfl

theorem readStatus_map {status : Option Payout.ChallengeStatus}
    (h : ∀ s ∈ status, s ∈ listedStatuses) : readStatus (status.map statusText) = .ok status := by
  cases status with
  | none => rfl
  | some s =>
      have hs : s ∈ listedStatuses := h s rfl
      cases s with
      | draft => exact absurd hs (by decide)
      | _ => rfl

/-! ### What the statements answer -/

section
variable (db : AdminDb) (sorting : Sorting createdKey)

/-- The rows of the listed challenges. -/
def AdminDb.matching (status : Option Payout.ChallengeStatus) : List AdminChallenge :=
  db.joined.filter fun row =>
    row.challenge.deletedAt.isNone && status.all (row.challenge.status = ·)

/-- Every challenge has a brand. -/
theorem joined_challenges : db.joined.map AdminChallenge.challenge = db.challenges := by
  rw [AdminDb.joined, List.map_filterMap]
  calc db.challenges.filterMap _
      = db.challenges.filterMap some := List.filterMap_congr fun challenge hmem => by
        obtain ⟨brand, hbrand⟩ := Option.isSome_iff_exists.mp (db.brands_exist challenge hmem)
        rw [hbrand]
        rfl
    _ = db.challenges := List.filterMap_some

theorem matching_challenges (status : Option Payout.ChallengeStatus) :
    (db.matching status).map AdminChallenge.challenge = db.listed status := by
  rw [AdminDb.listed, ← joined_challenges db, List.filter_map]
  rfl

theorem matching_length (status : Option Payout.ChallengeStatus) :
    (db.matching status).length = (db.listed status).length := by
  rw [← matching_challenges, List.length_map]

theorem listed_nodup (status : Option Payout.ChallengeStatus) : (db.listed status).Nodup :=
  db.ids_nodup.of_map.filter _

theorem rows_pageStatement {limit offset : Nat} (hlimit : limit < 2 ^ 63)
    (hoffset : offset < 2 ^ 63) :
    (pageStatement (some limit) (some offset) none).rows sorting db =
      .ok (limitOffset limit offset (sorting.sort (db.matching none))) := by
  have hrows : (pageStatement (some limit) (some offset) none).rows sorting db = (do
      let limit ← bigintParam (numberText (some limit))
      let offset ← bigintParam (numberText (some offset))
      return limitOffset limit offset (sorting.sort (db.matching none))) := rfl
  rw [hrows, bigintParam_numberText hlimit, bigintParam_numberText hoffset]
  rfl

/-- **With a status, `LIMIT` gets the status.** -/
theorem rows_of_status (limit offset : Option Int) (status : Payout.ChallengeStatus) :
    (pageStatement limit offset (some status)).rows sorting db =
      .error (dbError "invalid input syntax for type bigint" "22P02") := by
  have hlimit : bigintParam (statusText status) =
      .error (dbError "invalid input syntax for type bigint" "22P02") := by
    rw [bigintParam, toNumber_statusText]
  obtain ⟨sorted, hrows⟩ : ∃ sorted, (pageStatement limit offset (some status)).rows sorting db =
      (do
        let m ← bigintParam (statusText status)
        let n ← bigintParam (numberText limit)
        return limitOffset m n sorted) := ⟨_, rfl⟩
  rw [hrows, hlimit]
  rfl

theorem count_countStatement : (countStatement none).count db =
    if (db.listed none).length ≤ maxInteger then .ok (db.listed none).length
    else .error (dbError "integer out of range" "22003") := rfl

/-- The two queries of a request. -/
theorem listChallenges_request {limit : Nat} (hlimit : 0 < limit) (hmax : limit ≤ 100)
    {status : Option Payout.ChallengeStatus} (hstatus : ∀ s ∈ status, s ∈ listedStatuses)
    (k : Nat) :
    listChallenges db sorting (request limit status (k + 1)) = (do
      let challenges ←
        (pageStatement (some limit) (some (k * limit : Nat)) status).rows sorting db
      let total ← (countStatement status).count db
      return ChallengesPage.mk challenges (some (k + 1 : Nat)) (some limit) total
        (total ⌈/⌉ limit)) := by
  have hvalid : ((some ((k + 1 : Nat) : Int)).any (· < 1) || (some (limit : Int)).any (· < 1) ||
      (some (limit : Int)).any (100 < ·)) = false := by
    simp only [Option.any_some, Bool.or_eq_false_iff, decide_eq_false_iff_not]
    omega
  have hoffset : Option.map₂ (fun page limit : Int => (page - 1) * limit)
      (some ((k + 1 : Nat) : Int)) (some (limit : Int)) = some ((k * limit : Nat) : Int) := by
    rw [Option.map₂_some_some]
    push_cast
    ring_nf
  unfold listChallenges request
  simp only [readStatus_map hstatus, readNumber_numberText]
  simp only [hvalid, hoffset]
  rfl

/-- **With a status no page is served.** -/
theorem listChallenges_of_status {limit : Nat} (hlimit : 0 < limit) (hmax : limit ≤ 100)
    {status : Payout.ChallengeStatus} (hstatus : status ∈ listedStatuses) (k : Nat) :
    listChallenges db sorting (request limit (some status) (k + 1)) =
      .error (dbError "invalid input syntax for type bigint" "22P02") := by
  have hlisted : ∀ s ∈ some status, s ∈ listedStatuses := by
    rintro s ⟨⟩
    exact hstatus
  rw [listChallenges_request db sorting hlimit hmax hlisted, rows_of_status]
  rfl

/-- Without one, a page is a part of an ordered list. -/
theorem listChallenges_none {limit k : Nat} (hlimit : 0 < limit) (hmax : limit ≤ 100)
    (hoffset : k * limit < 2 ^ 63) (htotal : (db.listed none).length ≤ maxInteger) :
    listChallenges db sorting (request limit none (k + 1)) = .ok
      { challenges := limitOffset limit (k * limit) (sorting.sort (db.matching none))
        page := some (k + 1 : Nat)
        limit := some limit
        total := (db.listed none).length
        totalPages := (db.listed none).length ⌈/⌉ limit } := by
  rw [listChallenges_request db sorting hlimit hmax (fun s hs => by cases hs),
    rows_pageStatement db sorting (by omega) hoffset, count_countStatement, if_pos htotal]
  rfl

/-- A number of challenges that is no `int` fails every page. -/
theorem length_le_of_served {limit k : Nat} (hlimit : 0 < limit) (hmax : limit ≤ 100)
    {page : ChallengesPage}
    (h : listChallenges db sorting (request limit none (k + 1)) = .ok page) :
    (db.listed none).length ≤ maxInteger := by
  by_contra htotal
  rw [listChallenges_request db sorting hlimit hmax (fun s hs => by cases hs),
    count_countStatement, if_neg htotal] at h
  cases hrows : (pageStatement (some limit) (some (k * limit : Nat)) none).rows sorting db with
  | error e =>
      rw [hrows] at h
      cases h
  | ok rows =>
      rw [hrows] at h
      cases h

end

/-! ### Placeholders -/

theorem refers_none (limit offset : Nat) :
    Refers (pageStatement (some limit) (some offset) none).params (Use.value limit offset none)
        (pageStatement (some limit) (some offset) none).uses ∧
      Refers (countStatement none).params (Use.value limit offset none)
        (countStatement none).uses :=
  have hoffset : Refers [numberText (some limit), numberText (some offset)]
      (Use.value limit offset none) [(.offset, 2)] :=
    refers_cons.mpr ⟨⟨by decide, _, rfl, rfl⟩, refers_nil⟩
  ⟨refers_cons.mpr ⟨⟨by decide, _, rfl, rfl⟩, hoffset⟩, refers_nil⟩

/-- The placeholder of `LIMIT` stands for the status. -/
theorem not_refers_of_status (limit offset : Nat) (status : Payout.ChallengeStatus) :
    ¬Refers (pageStatement (some limit) (some offset) (some status)).params
      (Use.value limit offset (some status))
      (pageStatement (some limit) (some offset) (some status)).uses := by
  intro h
  obtain ⟨-, text, hvalue, hparam⟩ := h (.limit, 1) (by simp [Statement.uses, pageStatement])
  have htext : numberText (some (limit : Int)) = statusText status :=
    Option.some.inj (hvalue.trans hparam.symm)
  have hnumber := toNumber_statusText status
  rw [← htext, toNumber_numberText] at hnumber
  cases hnumber

/-! ### The pages -/

variable (db : AdminDb)

theorem not_partition_of_status (limit : Nat) (status : Payout.ChallengeStatus) :
    ¬Partition db limit (some status) :=
  fun h => not_refers_of_status limit 0 status (h.bindings 0).1

/-- The pages that are served, as challenges. -/
theorem served_challenges {limit n : Nat} {sorting : Nat → Sorting createdKey}
    {served : Nat → ChallengesPage}
    (h : ∀ k < n, (served k).challenges =
      limitOffset limit (k * limit) ((sorting k).sort (db.matching none))) :
    ((List.range n).flatMap fun k => (served k).challenges.map AdminChallenge.challenge) =
      (pages limit (fun k => (sorting k).sort (db.matching none)) n).map
        AdminChallenge.challenge := by
  rw [pages, List.map_flatMap]
  refine List.flatMap_congr fun k hk => ?_
  rw [h k (List.mem_range.mp hk)]

/-- No page starts after the last challenge. -/
theorem page_offset_lt {limit total k : Nat} (hlimit : 0 < limit) (hk : k < total ⌈/⌉ limit) :
    k * limit < total := by
  by_contra hle
  rw [not_lt, Nat.mul_comm] at hle
  exact absurd ((ceilDiv_le_iff_le_mul hlimit).mpr hle) (Nat.not_le.mpr hk)

theorem length_le_pages {limit : Nat} (hlimit : 0 < limit)
    (status : Option Payout.ChallengeStatus) :
    (db.matching status).length ≤ (db.listed status).length ⌈/⌉ limit * limit := by
  rw [matching_length, Nat.mul_comm]
  exact (ceilDiv_le_iff_le_mul hlimit).mp le_rfl

theorem apart_listed_iff (status : Option Payout.ChallengeStatus) (p : Nat) :
    Apart Challenge.createdKey (db.listed status) p ↔ Apart createdKey (db.matching status) p := by
  rw [← matching_challenges]
  exact apart_map Challenge.createdKey AdminChallenge.challenge _ p

theorem Partition.length_le {limit : Nat} (hlimit : 0 < limit) (hmax : limit ≤ 100)
    (h : Partition db limit none) : (db.listed none).length ≤ maxInteger := by
  rcases Nat.eq_zero_or_pos (db.listed none).length with hnone | hpos
  · exact hnone.trans_le (Nat.zero_le _)
  · have hpage : 0 < (db.listed none).length ⌈/⌉ limit := by
      by_contra hzero
      have hempty := (ceilDiv_le_iff_le_mul hlimit).mp (Nat.le_of_not_lt hzero)
      omega
    obtain ⟨served, hserved, -⟩ := h.pages fun _ => Sorting.stable createdKey
    exact length_le_of_served db _ hlimit hmax (hserved 0 hpage).1

theorem Partition.apart {limit : Nat} (hlimit : 0 < limit) (hmax : limit ≤ 100)
    (h : Partition db limit none) (k : Nat) :
    Apart Challenge.createdKey (db.listed none) (k * limit) := by
  have htotal := h.length_le db hlimit hmax
  refine (apart_listed_iff db none _).mpr
    (apart_of_pages_nodup hlimit (length_le_pages db hlimit none) (fun sorting => ?_) k)
  obtain ⟨served, hserved, hperm⟩ := h.pages sorting
  have hpages (k : Nat) (hk : k < (db.listed none).length ⌈/⌉ limit) :
      (served k).challenges =
        limitOffset limit (k * limit) ((sorting k).sort (db.matching none)) := by
    have hpage := (hserved k hk).1
    have hoffset : k * limit < 2 ^ 63 :=
      (page_offset_lt hlimit hk).trans_le (htotal.trans (by decide))
    rw [listChallenges_none db _ hlimit hmax hoffset htotal] at hpage
    rw [← Except.ok.inj hpage]
  rw [served_challenges db hpages] at hperm
  exact (hperm.nodup_iff.mpr (listed_nodup db none)).of_map

/-- **When the pages are a partition.** -/
theorem pages_partition_iff {limit : Nat} (hlimit : 0 < limit) (hmax : limit ≤ 100)
    (status : Option Payout.ChallengeStatus) :
    Partition db limit status ↔ status = none ∧ (db.listed none).length ≤ maxInteger ∧
      ∀ k, Apart Challenge.createdKey (db.listed none) (k * limit) := by
  constructor
  · intro h
    cases status with
    | some status => exact absurd h (not_partition_of_status db limit status)
    | none => exact ⟨rfl, h.length_le db hlimit hmax, h.apart db hlimit hmax⟩
  · rintro ⟨rfl, htotal, hapart⟩
    refine ⟨refers_none limit, fun sorting => ⟨fun k =>
      { challenges := limitOffset limit (k * limit) ((sorting k).sort (db.matching none))
        page := some (k + 1 : Nat)
        limit := some limit
        total := (db.listed none).length
        totalPages := (db.listed none).length ⌈/⌉ limit }, fun k hk => ⟨?_, rfl, rfl⟩, ?_⟩⟩
    · exact listChallenges_none db _ hlimit hmax
        ((page_offset_lt hlimit hk).trans_le (htotal.trans (by decide))) htotal
    · have hperm := (pages_perm (fun k => (apart_listed_iff db none _).mp (hapart k))
        (length_le_pages db hlimit none) sorting).map AdminChallenge.challenge
      rw [matching_challenges] at hperm
      rwa [served_challenges db fun _ _ => rfl]

def created (id : Uuid) : Challenge where
  id := id
  brandId := 1
  status := .active
  poolAmountStroops := 10000000
  createdAt := 5
  deletedAt := none

/-- Two challenges of the same instant. -/
def sameInstant : AdminDb where
  challenges := [created 1, created 2]
  ids_nodup := by decide
  brands _ := some ⟨"b".toList, none⟩
  brands_exist _ _ := rfl

/-- On one page they are listed, on two pages one of them may be missing. -/
theorem sameInstant_partition : Partition sameInstant 2 none ∧ ¬Partition sameInstant 1 none := by
  constructor
  · refine (pages_partition_iff sameInstant (by decide) (by decide) none).mpr
      ⟨rfl, by decide, fun k a ha b hb => ?_⟩
    cases k with
    | zero => simp at ha
    | succ k =>
        have hdrop : (Sql.orderBy Challenge.createdKey (sameInstant.listed none)).drop
            ((k + 1) * 2) = [] := by
          refine List.drop_eq_nil_iff.mpr ?_
          rw [(Sql.orderBy_perm _ _).length_eq]
          show 2 ≤ (k + 1) * 2
          omega
        rw [hdrop] at hb
        cases hb
  · intro h
    have hapart := ((pages_partition_iff sameInstant (by decide) (by decide) none).mp h).2.2 1
    exact hapart (created 1) (by decide) (created 2) (by decide) rfl

theorem active_not_partition : ¬Partition sameInstant 20 (some .active) :=
  not_partition_of_status sameInstant 20 .active

end BrandBlitz.Paging.AdminChallenges
