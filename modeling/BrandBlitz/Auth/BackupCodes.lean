import BrandBlitz.Lib.Crew
import BrandBlitz.Payout.Rows
import BrandBlitz.Referrals.Attribution

/-!
# BrandBlitz.Auth.BackupCodes

**Backup codes**: `generateAndStoreBackupCodes` and `consumeBackupCode` of
`apps/api/src/db/queries/totp.ts`, and the two routes of `apps/api/src/routes/auth.2fa.ts` that
take a code, `POST /auth/2fa/verify` and `DELETE /auth/2fa/disenroll`.

The codes have eleven characters, and the schemas of both routes take no more than eight: the
form shown to the user is refused before anybody looks at the codes. Only a text that becomes
longer as it is upper-cased reaches them.

One user has confirmed a second factor, and the codes were stored. The middleware has let the
requests through, no call fails, and a bcrypt hash is written as the code it was made from.
`user_totp_backup_codes` refers to the user and not to the secret, so the codes outlive it.
-/

namespace BrandBlitz.Auth

open BrandBlitz.Lib
open BrandBlitz.Payout.Rows (utf16Length utf16Width)
open BrandBlitz.Referrals.Attribution (upperChar)

/-! ### Codes -/

/-- Without I, O, 1 and 0. -/
def backupCodeChars : Text := "ABCDEFGHJKLMNPQRSTUVWXYZ23456789".toList

def backupCodeChar (byte : UInt8) : Char :=
  backupCodeChars.getD (byte.toNat % backupCodeChars.length) 'A'

/-- `XXXXX-XXXXX`, from ten random bytes. -/
def generateBackupCode (bytes : Nat → UInt8) : Text :=
  let half := fun offset => (List.range 5).map fun i => backupCodeChar (bytes (offset + i))
  half 0 ++ '-' :: half 5

def backupCodeCount : Nat := 10

structure BackupRow where
  /-- `code_hash` -/
  code : Text
  used : Bool
deriving DecidableEq, Repr

/-- `code.replace(/\s/g, "").toUpperCase()`. -/
def normalise (code : Text) : Text := (code.filter (!isJsSpace ·)).flatMap upperChar

/-- The code as it was shown, in any casing and with any spaces. -/
def IsForm (code text : Text) : Prop := (text.filter (!isJsSpace ·)).map Char.toUpper = code

instance (code text : Text) : Decidable (IsForm code text) :=
  inferInstanceAs (Decidable (_ = _))

/-! ### The world -/

inductive BodyField
  | pendingToken
  | code
deriving DecidableEq, Repr

inductive TotpOutcome
  /-- by the schema: the fields it names -/
  | validationError (fields : List BodyField)
  /-- the token, the user or the second factor -/
  | refused
  | invalidCode
  | accepted
deriving DecidableEq, Repr

/-- The answer is about the code. -/
def TotpOutcome.turnsDown : TotpOutcome → Bool
  | .validationError fields => .code ∈ fields
  | .invalidCode => true
  | .refused | .accepted => false

structure Arrival where
  program : Nat
  code : Text
  /-- an unused code in the form shown, which was not presented in it before -/
  first : Bool
deriving DecidableEq, Repr

structure TotpAnswer where
  program : Nat
  outcome : TotpOutcome
deriving DecidableEq, Repr

structure TotpWorld where
  /-- `user_totp_secrets`: is it confirmed? -/
  secret : Option Bool
  /-- `user_totp_backup_codes` of the user -/
  rows : List BackupRow
  /-- history -/
  arrivals : List Arrival
  /-- which program marked which row as used -/
  consumed : List (Nat × Nat)
  answers : List TotpAnswer
deriving DecidableEq, Repr

/-- `generateAndStoreBackupCodes` has returned. -/
def TotpWorld.start (randomBytes : Nat → Nat → UInt8) : TotpWorld where
  secret := some true
  rows := (List.range backupCodeCount).map fun n => ⟨generateBackupCode (randomBytes n), false⟩
  arrivals := []
  consumed := []
  answers := []

inductive TotpOp
  /-- history -/
  | arrive (code : Text)
  | verifyPendingTotpToken
  | findUserById
  | getTotpSecret
  | verifyTotp (code : Text)
  | selectUnused
  | bcryptCompare (code codeHash : Text)
  /-- `UPDATE user_totp_backup_codes SET used = TRUE WHERE id = $1` -/
  | markUsed (row : Nat)
  | deleteTotpSecret
  | insertAuditLog (action : String)
  | registerRefreshJti
  /-- history -/
  | answer (outcome : TotpOutcome)
deriving DecidableEq, Repr

abbrev totpSig : Sig where
  Op := TotpOp
  Ans
    | .verifyPendingTotpToken | .findUserById | .verifyTotp _ | .bcryptCompare _ _ => Bool
    | .getTotpSecret => Option Bool
    | .selectUnused => List (Nat × Text)
    | _ => Unit

abbrev Totp := Prog totpSig ApiError

structure TotpEnv where
  pendingTokenVerifies : Bool
  userExists : Bool
  /-- the text is the code of the moment -/
  totpValid : Bool

namespace TotpWorld

variable (w : TotpWorld)

def presentsFirst (code : Text) : Bool :=
  w.rows.any fun row => !row.used && IsForm row.code code &&
    w.arrivals.all fun earlier => ¬ IsForm row.code earlier.code

def unused : List (Nat × Text) :=
  w.rows.zipIdx.filterMap fun (row, id) => if row.used then none else some (id, row.code)

end TotpWorld

def BackupRow.markUsed (row : BackupRow) : BackupRow := { row with used := true }

/-- The effect of a call that program `i` makes. -/
def performTotp (i : Nat) (e : TotpEnv) (w : TotpWorld) :
    (op : TotpOp) → totpSig.Ans op × TotpWorld
  | .arrive code => ((), { w with arrivals := ⟨i, code, w.presentsFirst code⟩ :: w.arrivals })
  | .verifyPendingTotpToken => (e.pendingTokenVerifies, w)
  | .findUserById => (e.userExists, w)
  | .getTotpSecret => (w.secret, w)
  | .verifyTotp _ => (e.totpValid, w)
  | .selectUnused => (w.unused, w)
  | .bcryptCompare code codeHash => (code = codeHash, w)
  | .markUsed row => ((), { w with
      rows := w.rows.modify row .markUsed
      consumed := (i, row) :: w.consumed })
  | .deleteTotpSecret => ((), { w with secret := none })
  | .insertAuditLog _ => ((), w)
  | .registerRefreshJti => ((), w)
  | .answer outcome => ((), { w with answers := ⟨i, outcome⟩ :: w.answers })

def totpMachine (i : Nat) : Machine totpSig ApiError TotpWorld TotpEnv where
  exec e op w := (.ok (performTotp i e w op).1, (performTotp i e w op).2)

/-! ### The routes -/

def callTotp (op : TotpOp) : Totp (totpSig.Ans op) := Prog.call (S := totpSig) op

/-- The loop of `consumeBackupCode`. -/
def compareRows (code : Text) : List (Nat × Text) → Totp Bool
  | [] => return false
  | (row, codeHash) :: rest => do
    let same ← callTotp (.bcryptCompare code codeHash)
    if same then do
      callTotp (.markUsed row)
      return true
    else compareRows code rest

def consumeBackupCode (code : Text) : Totp Bool := do
  let rows ← callTotp .selectUnused
  compareRows code rows

/-- The backup codes are tried when the text is not the code of the moment. -/
def attemptBackup (totpValid : Bool) (code : Text) : Totp Bool :=
  if totpValid then return true else consumeBackupCode (normalise code)

/-- `z.string().min(6).max(8)`. -/
def codeFits (code : Text) : Bool := 6 ≤ utf16Length code && utf16Length code ≤ 8

/-- `TotpCodeSchema`: the fields it complains about. -/
def totpCodeSchema (code : Text) : List BodyField := if codeFits code then [] else [.code]

def verifySchema (pendingToken code : Text) : List BodyField :=
  (if 1 ≤ utf16Length pendingToken then [] else [.pendingToken]) ++ totpCodeSchema code

/-- `throw`, and what the error handler answers. -/
def turnDown (outcome : TotpOutcome) (err : ApiError) : Totp Unit := do
  callTotp (.answer outcome)
  .raise err

def zodFailure : ApiError := ⟨"Validation Error".toList, none, none⟩

def totpNotEnabled : ApiError :=
  createError "2FA is not enabled for this account" 400 "TOTP_NOT_ENABLED"

/-- `POST /auth/2fa/verify`. -/
def postVerify (pendingToken code : Text) : Totp Unit := do
  callTotp (.arrive code)
  let issues := verifySchema pendingToken code
  if 0 < issues.length then turnDown (.validationError issues) zodFailure
  else do
    let pending ← callTotp .verifyPendingTotpToken
    if !pending then
      turnDown .refused (createError "Invalid or expired pending token" 401 "INVALID_PENDING_TOKEN")
    else do
      let user ← callTotp .findUserById
      if !user then turnDown .refused (createError "User not found" 404)
      else do
        let record ← callTotp .getTotpSecret
        if record ≠ some true then turnDown .refused totpNotEnabled
        else do
          let totpValid ← callTotp (.verifyTotp code)
          let valid ← attemptBackup totpValid code
          if !valid then
            turnDown .invalidCode (createError "Invalid code" 401 "INVALID_TOTP_CODE")
          else do
            if !totpValid then callTotp (.insertAuditLog "totp_backup_code_used")
            callTotp .registerRefreshJti
            callTotp (.insertAuditLog "totp_verified")
            callTotp (.answer .accepted)

/-- `DELETE /auth/2fa/disenroll`. -/
def deleteDisenroll (code : Text) : Totp Unit := do
  callTotp (.arrive code)
  let issues := totpCodeSchema code
  if 0 < issues.length then turnDown (.validationError issues) zodFailure
  else do
    let record ← callTotp .getTotpSecret
    if record ≠ some true then turnDown .refused totpNotEnabled
    else do
      let totpValid ← callTotp (.verifyTotp code)
      let valid ← attemptBackup totpValid code
      if !valid then
        turnDown .invalidCode
          (createError "Invalid code — provide your current TOTP code or a backup code" 401
            "INVALID_TOTP_CODE")
      else do
        callTotp .deleteTotpSecret
        callTotp (.insertAuditLog "totp_disenrolled")
        callTotp (.answer .accepted)

/-! ### The property -/

/-- What is promised of backup codes. -/
structure WorksOnce (w : TotpWorld) : Prop where
  /-- the first presentation of an unused code is not turned down for its code -/
  first : ∀ p ∈ w.arrivals, p.first = true → ∀ a ∈ w.answers, a.program = p.program →
    a.outcome.turnsDown = false
  once : ∀ row, (w.answers.filter fun a =>
    a.outcome = .accepted && (a.program, row) ∈ w.consumed).length ≤ 1

/-- Any number of requests. -/
def TotpProgram (p : Totp Unit) : Prop :=
  (∃ pendingToken code, p = postVerify pendingToken code) ∨ ∃ code, p = deleteDisenroll code

/-- A row is marked as used while it is unused. -/
def MarksUnused (_ : Nat) (w : TotpWorld) (op : TotpOp) (_ : TotpEnv) : Prop :=
  match op with
  | .markUsed row => (w.rows[row]?.map (·.used)) = some false
  | _ => True

instance (i : Nat) (w : TotpWorld) (op : TotpOp) (e : TotpEnv) :
    Decidable (MarksUnused i w op e) :=
  match op with
  | .markUsed row => inferInstanceAs (Decidable ((w.rows[row]?.map (·.used)) = some false))
  | .arrive _ | .verifyPendingTotpToken | .findUserById | .getTotpSecret | .verifyTotp _
  | .selectUnused | .bcryptCompare _ _ | .deleteTotpSecret | .insertAuditLog _
  | .registerRefreshJti | .answer _ => .isTrue trivial

/-! ### The invariant -/

structure TotpInv (w : TotpWorld) : Prop where
  codes : ∀ row ∈ w.rows, row.code.length = 11
  /-- the schema has refused whoever presented a code as it was shown -/
  turnedDown : ∀ p ∈ w.arrivals, p.first = true → ∀ a ∈ w.answers, a.program = p.program →
    a.outcome.turnsDown = true
  spent : ∀ c ∈ w.consumed, (w.rows[c.2]?.map (·.used)) = some true
  consumed : (w.consumed.map (·.2)).Nodup
  answered : (w.answers.map (·.program)).Nodup

theorem length_generateBackupCode (bytes : Nat → UInt8) :
    (generateBackupCode bytes).length = 11 := by
  simp [generateBackupCode]

theorem start_totpInv (randomBytes : Nat → Nat → UInt8) : TotpInv (.start randomBytes) where
  codes row hrow := by
    obtain ⟨n, -, rfl⟩ := List.mem_map.mp hrow
    exact length_generateBackupCode _
  turnedDown p hp := by cases hp
  spent c hc := by cases hc
  consumed := List.nodup_nil
  answered := List.nodup_nil

theorem length_le_utf16Length (text : Text) : text.length ≤ utf16Length text := by
  induction text with
  | nil => exact Nat.le_refl _
  | cons c text ih =>
      have hwidth : 1 ≤ utf16Width c := by
        unfold utf16Width
        split <;> omega
      rw [List.length_cons, utf16Length, List.map_cons, List.sum_cons]
      have hrest : (text.map utf16Width).sum = utf16Length text := rfl
      omega

/-- A code in the form shown is too long for the schemas. -/
theorem IsForm.not_codeFits {code text : Text} (h : IsForm code text) (hlength : code.length = 11) :
    codeFits text = false := by
  have hfilter : (text.filter (!isJsSpace ·)).length = 11 := by
    rw [← hlength, ← h, List.length_map]
  have hle : (text.filter (!isJsSpace ·)).length ≤ text.length := List.length_filter_le _ _
  have hunits := length_le_utf16Length text
  have hlong : ¬ utf16Length text ≤ 8 := by omega
  simp [codeFits, hlong]

theorem TotpInv.not_codeFits {w : TotpWorld} (h : TotpInv w) {code : Text}
    (hfirst : w.presentsFirst code = true) : codeFits code = false := by
  obtain ⟨row, hrow, hform⟩ := List.any_eq_true.mp hfirst
  have hshown : IsForm row.code code := by
    rw [Bool.and_eq_true, Bool.and_eq_true] at hform
    exact of_decide_eq_true hform.1.2
  exact hshown.not_codeFits (h.codes row hrow)

/-- What program `i` counts on, whatever the others do. -/
structure TotpRely (i : Nat) (w w' : TotpWorld) : Prop where
  inv : TotpInv w'
  arrivals : ∀ p ∈ w'.arrivals, p.program = i → p ∈ w.arrivals
  answers : ∀ a ∈ w'.answers, a.program = i → a ∈ w.answers

/-- Program `i` has not arrived. -/
structure NotArrived (i : Nat) (w : TotpWorld) : Prop where
  arrivals : ∀ p ∈ w.arrivals, p.program ≠ i
  answers : ∀ a ∈ w.answers, a.program ≠ i

/-- Program `i` has arrived with that text. -/
structure Arrived (i : Nat) (code : Text) (w : TotpWorld) : Prop where
  arrivals : ∀ p ∈ w.arrivals, p.program = i → p.first = true → codeFits code = false
  answers : ∀ a ∈ w.answers, a.program ≠ i

section Steps

variable {i : Nat} {e : TotpEnv} {w : TotpWorld} {op : TotpOp}

/-- What is true of the world where program `i` makes a call. -/
def TotpReady (i : Nat) (w : TotpWorld) : TotpOp → Prop
  | .arrive _ => ∀ a ∈ w.answers, a.program ≠ i
  | .answer outcome => (∀ a ∈ w.answers, a.program ≠ i) ∧
      ∀ p ∈ w.arrivals, p.program = i → p.first = true → outcome.turnsDown = true
  | _ => True

theorem TotpInv.arrive (h : TotpInv w) {code : Text} (hready : TotpReady i w (.arrive code)) :
    TotpInv (performTotp i e w (.arrive code)).2 := by
  refine ⟨h.codes, fun p hp hfirst a ha hprogram => ?_, h.spent, h.consumed, h.answered⟩
  rcases List.mem_cons.mp hp with rfl | hp
  · exact absurd hprogram (hready a ha)
  · exact h.turnedDown p hp hfirst a ha hprogram

theorem TotpInv.answer (h : TotpInv w) {outcome : TotpOutcome}
    (hready : TotpReady i w (.answer outcome)) :
    TotpInv (performTotp i e w (.answer outcome)).2 := by
  refine ⟨h.codes, fun p hp hfirst a ha hprogram => ?_, h.spent, h.consumed, ?_⟩
  · rcases List.mem_cons.mp ha with rfl | ha
    · exact hready.2 p hp hprogram.symm hfirst
    · exact h.turnedDown p hp hfirst a ha hprogram
  · refine List.nodup_cons.mpr ⟨fun hmem => ?_, h.answered⟩
    obtain ⟨a, ha, hprogram⟩ := List.mem_map.mp hmem
    exact hready.1 a ha hprogram

/-- The row was not used up before. -/
theorem TotpInv.markUsed (h : TotpInv w) {row : Nat} (hguard : MarksUnused i w (.markUsed row) e) :
    TotpInv (performTotp i e w (.markUsed row)).2 := by
  have hused : ∀ c ∈ w.consumed, c.2 ≠ row := by
    rintro c hc rfl
    have hspent := h.spent c hc
    rw [show (w.rows[c.2]?.map (·.used)) = some false from hguard] at hspent
    cases hspent
  refine ⟨fun r hr => ?_, h.turnedDown, fun c hc => ?_, ?_, h.answered⟩
  · obtain ⟨id, hid⟩ := List.mem_iff_getElem?.mp hr
    rw [show (performTotp i e w (.markUsed row)).2.rows = w.rows.modify row .markUsed from rfl,
      List.getElem?_modify] at hid
    obtain ⟨old, hold, rfl⟩ := Option.map_eq_some_iff.mp hid
    have hlength := h.codes old (List.mem_of_getElem? hold)
    by_cases heq : row = id
    · rw [if_pos heq]
      exact hlength
    · rw [if_neg heq]
      exact hlength
  · show ((w.rows.modify row .markUsed)[c.2]?.map (·.used)) = some true
    rw [List.getElem?_modify]
    rcases List.mem_cons.mp hc with rfl | hc
    · obtain ⟨old, hold, -⟩ := Option.map_eq_some_iff.mp hguard
      simp [hold, BackupRow.markUsed]
    · simp [Ne.symm (hused c hc), h.spent c hc]
  · refine List.nodup_cons.mpr ⟨fun hmem => ?_, h.consumed⟩
    obtain ⟨c, hc, hrow⟩ := List.mem_map.mp hmem
    exact hused c hc hrow

theorem perform_totpInv (h : TotpInv w) (hready : TotpReady i w op)
    (hguard : MarksUnused i w op e) :
    TotpInv (performTotp i e w op).2 := by
  cases op with
  | arrive code => exact h.arrive hready
  | answer outcome => exact h.answer hready
  | markUsed row => exact h.markUsed hguard
  | _ => exact ⟨h.codes, h.turnedDown, h.spent, h.consumed, h.answered⟩

/-- Nobody arrives or answers for another program. -/
theorem performTotp_own {j : Nat} (hij : i ≠ j) :
    (∀ p ∈ (performTotp j e w op).2.arrivals, p.program = i → p ∈ w.arrivals) ∧
      ∀ a ∈ (performTotp j e w op).2.answers, a.program = i → a ∈ w.answers := by
  cases op with
  | arrive code =>
      exact ⟨fun p hp hprogram => mem_of_recorded hp hprogram hij, fun a ha _ => ha⟩
  | answer outcome =>
      exact ⟨fun p hp _ => hp, fun a ha hprogram => mem_of_recorded ha hprogram hij⟩
  | _ => exact ⟨fun p hp _ => hp, fun a ha _ => ha⟩

end Steps

/-! ### The programs -/

section Programs

variable {i : Nat} {code : Text} {w : TotpWorld}

/-- Program `i` keeps the invariant while the others move, and ends in `Q` or throws. -/
def Keeps (i : Nat) {α : Type} (p : Totp α) (Q : α → TotpWorld → Prop) (w : TotpWorld) : Prop :=
  p.wp (totpMachine i).among (Among (TotpRely i) (MarksUnused i)) TotpInv
    (Prog.Ends Q fun _ _ => True) w

theorem Arrived.stays {w' : TotpWorld} (h : Arrived i code w) (hrely : TotpRely i w w') :
    Arrived i code w' where
  arrivals p hp hprogram := h.arrivals p (hrely.arrivals p hp hprogram) hprogram
  answers a ha hprogram := h.answers a (hrely.answers a ha hprogram) hprogram

theorem NotArrived.stays {w' : TotpWorld} (h : NotArrived i w) (hrely : TotpRely i w w') :
    NotArrived i w' where
  arrivals p hp hprogram := h.arrivals p (hrely.arrivals p hp hprogram) hprogram
  answers a ha hprogram := h.answers a (hrely.answers a ha hprogram) hprogram

theorem keeps_arrive (h : NotArrived i w) :
    Keeps i (callTotp (.arrive code)) (fun _ => Arrived i code) w :=
  Prog.wp_call_among (fun _ _ => NotArrived.stays) h fun w' e hrely h hguard => by
    refine ⟨perform_totpInv hrely.inv h.answers hguard, fun p hp hprogram hfirst => ?_, h.answers⟩
    rcases List.mem_cons.mp hp with rfl | hp
    · exact hrely.inv.not_codeFits hfirst
    · exact absurd hprogram (h.arrivals p hp)

/-- Calls that neither arrive nor answer. -/
def TotpOp.isInner : TotpOp → Bool
  | .arrive _ | .answer _ => false
  | _ => true

theorem keeps_inner {op : TotpOp} (hinner : op.isInner = true) (h : Arrived i code w) :
    Keeps i (callTotp op) (fun _ => Arrived i code) w := by
  refine Prog.wp_call_among (fun _ _ => Arrived.stays) h fun w' e hrely h hguard => ?_
  cases op with
  | arrive _ => cases hinner
  | answer _ => cases hinner
  | _ => exact ⟨perform_totpInv hrely.inv trivial hguard, h.arrivals, h.answers⟩

theorem keeps_answer {outcome : TotpOutcome} (h : Arrived i code w)
    (hok : codeFits code = false → outcome.turnsDown = true) :
    Keeps i (callTotp (.answer outcome)) (fun _ _ => True) w :=
  Prog.wp_call_among (fun _ _ => Arrived.stays) h fun _ _ hrely h hguard =>
    ⟨perform_totpInv hrely.inv ⟨h.answers, fun p hp hprogram hfirst =>
      hok (h.arrivals p hp hprogram hfirst)⟩ hguard, trivial⟩

theorem keeps_turnDown {outcome : TotpOutcome} {err : ApiError} (h : Arrived i code w)
    (hok : codeFits code = false → outcome.turnsDown = true) :
    Keeps i (turnDown outcome err) (fun _ _ => True) w :=
  Prog.wp_bind (keeps_answer h hok) fun _ _ _ => trivial

theorem keeps_compareRows (text : Text) (rows : List (Nat × Text)) (h : Arrived i code w) :
    Keeps i (compareRows text rows) (fun _ => Arrived i code) w := by
  induction rows generalizing w with
  | nil => exact h
  | cons row rest ih =>
      refine Prog.wp_bind (keeps_inner rfl h) fun same w h => ?_
      cases same with
      | false => exact ih h
      | true => exact Prog.wp_bind (keeps_inner rfl h) fun _ _ h => h

theorem keeps_attemptBackup (totpValid : Bool) (text : Text) (h : Arrived i code w) :
    Keeps i (attemptBackup totpValid text) (fun _ => Arrived i code) w := by
  cases totpValid with
  | true => exact h
  | false =>
      exact Prog.wp_bind (keeps_inner rfl h) fun rows w h => keeps_compareRows _ rows h

theorem totpCodeSchema_nil (h : (totpCodeSchema code).length = 0) : codeFits code = true := by
  unfold totpCodeSchema at h
  split at h
  next hfits => exact hfits
  · cases h

/-- Nobody whose text fits has to be turned down. -/
theorem turnsDown_of_fits {outcome : TotpOutcome} (hfits : codeFits code = true)
    (hlong : codeFits code = false) : outcome.turnsDown = true := by
  rw [hfits] at hlong
  cases hlong

theorem mem_totpCodeSchema (h : codeFits code = false) : .code ∈ totpCodeSchema code := by
  simp [totpCodeSchema, h]

/-- Both programs check a code in the same way, and go on if it is valid. -/
theorem keeps_codeCheck (err : ApiError) {goOn : Bool → Totp Unit} (hfits : codeFits code = true)
    (hgoOn : ∀ totpValid w, Arrived i code w → Keeps i (goOn totpValid) (fun _ _ => True) w)
    (h : Arrived i code w) :
    Keeps i (do
      let record ← callTotp .getTotpSecret
      if record ≠ some true then turnDown .refused totpNotEnabled
      else do
        let totpValid ← callTotp (.verifyTotp code)
        let valid ← attemptBackup totpValid code
        if !valid then turnDown .invalidCode err else goOn totpValid) (fun _ _ => True) w := by
  refine Prog.wp_bind (keeps_inner rfl h) fun record w h => ?_
  show Keeps i (ite _ _ _) _ w
  split
  · exact keeps_turnDown h (turnsDown_of_fits hfits)
  refine Prog.wp_bind (keeps_inner rfl h) fun totpValid w h => ?_
  refine Prog.wp_bind (keeps_attemptBackup totpValid code h) fun valid w h => ?_
  cases valid with
  | false => exact keeps_turnDown h (turnsDown_of_fits hfits)
  | true => exact hgoOn totpValid w h

theorem postVerify_keeps (pendingToken code : Text) (h : NotArrived i w) :
    Keeps i (postVerify pendingToken code) (fun _ _ => True) w := by
  refine Prog.wp_bind (keeps_arrive h) fun _ w h => ?_
  show Keeps i (ite _ _ _) _ w
  split
  · -- the schema complains, of the code if that is too long
    exact keeps_turnDown h fun hlong => by
      simp [TotpOutcome.turnsDown, verifySchema, mem_totpCodeSchema hlong]
  next hnone =>
    have hfits : codeFits code = true := totpCodeSchema_nil (by
      rw [verifySchema, List.length_append] at hnone
      omega)
    refine Prog.wp_bind (keeps_inner rfl h) fun pending w h => ?_
    cases pending with
    | false => exact keeps_turnDown h (turnsDown_of_fits hfits)
    | true =>
        refine Prog.wp_bind (keeps_inner rfl h) fun user w h => ?_
        cases user with
        | false => exact keeps_turnDown h (turnsDown_of_fits hfits)
        | true =>
            refine keeps_codeCheck _ hfits (fun totpValid w h => ?_) h
            cases totpValid with
            | true =>
                refine Prog.wp_bind (keeps_inner rfl h) fun _ w h => ?_
                exact Prog.wp_bind (keeps_inner rfl h) fun _ _ h =>
                  keeps_answer h (turnsDown_of_fits hfits)
            | false =>
                refine Prog.wp_bind (keeps_inner rfl h) fun _ w h => ?_
                refine Prog.wp_bind (keeps_inner rfl h) fun _ w h => ?_
                exact Prog.wp_bind (keeps_inner rfl h) fun _ _ h =>
                  keeps_answer h (turnsDown_of_fits hfits)

theorem deleteDisenroll_keeps (code : Text) (h : NotArrived i w) :
    Keeps i (deleteDisenroll code) (fun _ _ => True) w := by
  refine Prog.wp_bind (keeps_arrive h) fun _ w h => ?_
  show Keeps i (ite _ _ _) _ w
  split
  · exact keeps_turnDown h fun hlong => by
      simp [TotpOutcome.turnsDown, mem_totpCodeSchema hlong]
  next hnone =>
    have hfits : codeFits code = true := totpCodeSchema_nil (by omega)
    refine keeps_codeCheck _ hfits (fun totpValid w h => ?_) h
    refine Prog.wp_bind (keeps_inner rfl h) fun _ w h => ?_
    exact Prog.wp_bind (keeps_inner rfl h) fun _ _ h => keeps_answer h (turnsDown_of_fits hfits)

end Programs

/-! ### Every interleaving -/

theorem totp_verified : Crew.Verified totpMachine MarksUnused TotpProgram Never TotpInv TotpRely
    NotArrived where
  refl i w h := ⟨h, fun p hp _ => hp, fun a ha _ => ha⟩
  trans i w w' w'' h h' := ⟨h'.inv,
    fun p hp hprogram => h.arrivals p (h'.arrivals p hp hprogram) hprogram,
    fun a ha hprogram => h.answers a (h'.answers a ha hprogram) hprogram⟩
  stays i w w' h hrely := h.stays hrely
  spawned i w p hp _ harrived := by
    have hkeeps : Keeps i p (fun _ _ => True) w := by
      obtain ⟨pendingToken, code, rfl⟩ | ⟨code, rfl⟩ := hp
      · exact postVerify_keeps pendingToken code harrived
      · exact deleteDisenroll_keeps code harrived
    exact Prog.wp_world (K := fun _ => True) hkeeps
  others i j w op e hij _ _ hinv' := ⟨hinv', (performTotp_own hij).1, (performTotp_own hij).2⟩
  drifted i w w' _ h := h.elim

/-- Only one program has used a row up, and it was answered once. -/
theorem TotpInv.once {w : TotpWorld} (h : TotpInv w) (row : Nat) : (w.answers.filter fun a =>
    a.outcome = .accepted && (a.program, row) ∈ w.consumed).length ≤ 1 := by
  have hprograms : ((w.answers.filter fun a =>
      a.outcome = .accepted && (a.program, row) ∈ w.consumed).map (·.program)).Nodup :=
    h.answered.sublist (List.filter_sublist.map _)
  have hused : ∀ a ∈ w.answers.filter fun a =>
      a.outcome = .accepted && (a.program, row) ∈ w.consumed, (a.program, row) ∈ w.consumed := by
    intro a ha
    rw [List.mem_filter, Bool.and_eq_true] at ha
    exact of_decide_eq_true ha.2.2
  generalize (w.answers.filter fun a =>
    a.outcome = .accepted && (a.program, row) ∈ w.consumed) = found at hprograms hused ⊢
  match found with
  | [] | [_] => simp
  | a :: b :: rest =>
      have hsame : (a.program, row) = (b.program, row) :=
        List.inj_on_of_nodup_map h.consumed (hused a (by simp)) (hused b (by simp)) rfl
      have hne : a.program ≠ b.program := by
        rw [List.map_cons, List.map_cons, List.nodup_cons] at hprograms
        exact fun heq => hprograms.1 (heq ▸ List.mem_cons_self)
      exact absurd (congrArg Prod.fst hsame) hne

/-- **Each backup code works once** exactly where nobody is answered who first presents one as
it was shown, in every interleaving in which a row is marked as used while it is unused. -/
theorem worksOnce_iff {randomBytes : Nat → Nat → UInt8} {w : TotpWorld} {ps : List (Totp Unit)}
    (h : Crew totpMachine MarksUnused TotpProgram Never (.start randomBytes) w ps) :
    WorksOnce w ↔
      ∀ p ∈ w.arrivals, p.first = true → ∀ a ∈ w.answers, a.program ≠ p.program := by
  obtain ⟨hinv, -⟩ := totp_verified.sound (start_totpInv randomBytes)
    (fun _ => ⟨fun _ h => (by cases h), fun _ h => by cases h⟩) h
  constructor
  · intro hworks p hp hfirst a ha hprogram
    have hturned := hinv.turnedDown p hp hfirst a ha hprogram
    rw [hworks.first p hp hfirst a ha hprogram] at hturned
    cases hturned
  · intro hunanswered
    exact ⟨fun p hp hfirst a ha hprogram => absurd hprogram (hunanswered p hp hfirst a ha),
      hinv.once⟩

/-! ### One user

The first code is `SSSSS-SSSSS`, and the upper case of `ß` is `SS`. -/

def someBytes (n _ : Nat) : UInt8 := if n = 0 then 16 else UInt8.ofNat n

def calmTotp : TotpEnv := ⟨true, true, false⟩

def totpSteps (i n : Nat) : List (Nat × TotpEnv) := List.replicate n (i, calmTotp)

/-- In seven characters. -/
def sharp : Text := "ßßs-ßßs".toList

/-- The code is presented in seven characters, twice. -/
def sharpTwice : TotpWorld × List (Totp Unit) :=
  playCrew totpMachine (totpSteps 0 12 ++ totpSteps 1 14) (.start someBytes)
    [postVerify ['t'] sharp, deleteDisenroll sharp]

theorem sharp_accepted_once :
    sharpTwice.1.answers = [⟨1, .invalidCode⟩, ⟨0, .accepted⟩] ∧ WorksOnce sharpTwice.1 := by
  have hreached : Crew totpMachine MarksUnused TotpProgram Never (.start someBytes)
      sharpTwice.1 sharpTwice.2 := by
    refine Crew.play _ (Crew.spawn (Crew.spawn .init (.inl ⟨['t'], sharp, rfl⟩))
      (.inr ⟨sharp, rfl⟩)) ?_
    decide +kernel
  exact ⟨by decide +kernel, (worksOnce_iff hreached).mpr (by decide +kernel)⟩

/-- The user presents the first code as it was shown. -/
def shownCode : TotpWorld × List (Totp Unit) :=
  playCrew totpMachine (totpSteps 0 2) (.start someBytes)
    [postVerify ['t'] "SSSSS-SSSSS".toList]

/-- Two requests read the unused rows before either marks one. -/
def sharpRace : TotpWorld × List (Totp Unit) :=
  playCrew totpMachine (totpSteps 0 7 ++ totpSteps 1 5 ++ totpSteps 0 5 ++ totpSteps 1 4)
    (.start someBytes) [postVerify ['t'] sharp, deleteDisenroll sharp]

/-- The schema refuses the code as it was shown, and what it does not refuse may work twice. -/
theorem backup_codes_fail :
    (∃ randomBytes w ps, Crew totpMachine (fun _ _ _ _ => True) TotpProgram Never
      (.start randomBytes) w ps ∧ ¬ ∀ p ∈ w.arrivals, p.first = true → ∀ a ∈ w.answers,
        a.program = p.program → a.outcome.turnsDown = false) ∧
    ∃ randomBytes w ps, Crew totpMachine (fun _ _ _ _ => True) TotpProgram Never
      (.start randomBytes) w ps ∧ ¬ (w.answers.filter fun a =>
        a.outcome = .accepted && (a.program, 0) ∈ w.consumed).length ≤ 1 := by
  refine ⟨⟨someBytes, shownCode.1, shownCode.2, ?_, by decide +kernel⟩,
    ⟨someBytes, sharpRace.1, sharpRace.2, ?_, by decide +kernel⟩⟩
  · exact Crew.play _ (Crew.spawn .init (.inl ⟨['t'], "SSSSS-SSSSS".toList, rfl⟩))
      (playCrewOk_of_forall _ fun _ _ _ _ => trivial)
  · exact Crew.play _ (Crew.spawn (Crew.spawn .init (.inl ⟨['t'], sharp, rfl⟩))
      (.inr ⟨sharp, rfl⟩)) (playCrewOk_of_forall _ fun _ _ _ _ => trivial)

end BrandBlitz.Auth
