import Mathlib.Logic.Function.Basic
import BrandBlitz.Stellar.Client
import BrandBlitz.Paging.Cursor

/-!
# BrandBlitz.Multisig.Operations

**Admin operations that need several signatures**: the routes of
`apps/api/src/routes/admin/escrow.ts` over `apps/api/src/db/queries/multisig.ts` and the tables
of `apps/api/migrations/0012-multisig-escrow.sql`.

* Every statement is a transaction of its own. One may fail, before it took effect or after.
* Two things depend on what the application runs on (`Platform`). `getOperationById` parses the
  signatures, which `json_agg` makes, once more. And `submitOperation` sets a column
  `updated_at`, as a trigger does, which the migration does not give the table.
* Whether `xdrSigned` is the transaction with the signature of a key is a parameter (`valid`).
* The audit log is written, and read by nothing. Names, hashes and metadata are left out.
-/

namespace BrandBlitz.Multisig

open BrandBlitz.Lib
open BrandBlitz.Paging (Uuid Timestamp)
open BrandBlitz.Sessions (dbError)

/-! ### Tables -/

structure MultisigCosigner where
  id : Uuid
  publicKey : Text
  role : Text
deriving DecidableEq, Repr

inductive OperationStatus where
  | pending | submitted | failed | expired
deriving DecidableEq, Repr

def OperationStatus.text : OperationStatus → String
  | .pending => "pending"
  | .submitted => "submitted"
  | .failed => "failed"
  | .expired => "expired"

structure MultisigOperation where
  xdrUnsigned : Text
  threshold : Int
  status : OperationStatus
  expiresAt : Timestamp
  submittedAt : Option Timestamp
deriving DecidableEq, Repr

structure MultisigSignature where
  operationId : Uuid
  signerId : Uuid
  xdrSigned : Text
  signerRole : Text
deriving DecidableEq, Repr

/-- `UNIQUE (operation_id, signer_id)`. -/
def MultisigSignature.key (row : MultisigSignature) : Uuid × Uuid := (row.operationId, row.signerId)

/-- `status = 'submitted'` is set. -/
structure Submission where
  operationId : Uuid
  /-- as it was before -/
  operation : MultisigOperation
  submittedAt : Timestamp
  /-- who has supplied a signature by then -/
  endorsers : List MultisigCosigner
  signatures : List MultisigSignature
deriving DecidableEq, Repr

structure World where
  operations : Uuid → Option MultisigOperation
  cosigners : List MultisigCosigner
  signatures : List MultisigSignature
  now : Timestamp
  /-- history: every signature that was stored, also those that have been replaced -/
  supplied : List MultisigSignature
  submissions : List Submission

def World.start (now : Timestamp) : World := ⟨fun _ => none, [], [], now, [], []⟩

def World.signaturesOf (w : World) (operationId : Uuid) : List MultisigSignature :=
  w.signatures.filter fun row => row.operationId = operationId

section

variable (valid : Text → Text → Text → Bool)

/-- The registered cosigners who have supplied a valid signature. -/
def World.endorsers (w : World) (operationId : Uuid) (xdrUnsigned : Text) :
    List MultisigCosigner :=
  w.cosigners.filter fun cosigner => w.supplied.any fun row =>
    row.operationId = operationId && row.signerId = cosigner.id &&
      valid cosigner.publicKey xdrUnsigned row.xdrSigned

end

/-! ### Statements -/

/-- The value of `escrow_multisig_threshold`. -/
structure ThresholdConfig where
  required : Option Int
deriving DecidableEq, Repr

/-- A row of the query of `getOperationById`. -/
structure OperationDetail where
  operation : MultisigOperation
  signatureCount : Nat
deriving DecidableEq, Repr

inductive MultisigOp where
  /-- `SELECT value FROM app_config WHERE key = 'escrow_multisig_threshold'` -/
  | selectThreshold
  | loadAccount
  | insertOperation (xdrUnsigned : Text) (threshold : Int)
  | selectOperation (id : Uuid)
  /-- `SELECT id, role FROM multisig_cosigners WHERE public_key = $1` -/
  | selectCosigner (publicKey : Text)
  | selectCosignerById (id : Uuid)
  | insertSignature (row : MultisigSignature)
  | selectSignatures (operationId : Uuid)
  | updateOperation (id : Uuid)
  | insertCosigner (publicKey role : Text)
  | updateCosigner (id : Uuid) (role : Option Text)
  | deleteCosigner (id : Uuid)
  | insertAudit (action : Text)
deriving DecidableEq, Repr

abbrev multisigSig : Sig where
  Op := MultisigOp
  Ans
    | .selectThreshold => Option ThresholdConfig
    | .insertOperation _ _ => Uuid
    | .selectOperation _ => Option OperationDetail
    | .selectCosigner _ | .selectCosignerById _ => Option MultisigCosigner
    | .selectSignatures _ => List MultisigSignature
    | .updateOperation _ => Option MultisigOperation
    | .insertCosigner _ _ => MultisigCosigner
    | .updateCosigner _ _ => Option MultisigCosigner
    | .deleteCosigner _ => Bool
    | _ => Unit

/-- What the application runs on. -/
structure Platform where
  /-- The driver hands over `json` as text, as the type of a row in `getOperationById` has it. -/
  jsonText : Bool
  /-- `multisig_operations` has a column `updated_at`. -/
  updatedAt : Bool
deriving DecidableEq, Repr

/-- Operations can be read and submitted. -/
def Platform.Works (platform : Platform) : Prop :=
  platform.jsonText = true ∧ platform.updatedAt = true

/-- How a statement goes. -/
inductive Fate where
  | done
  | lost
  /-- It takes effect, and the answer is lost. -/
  | unanswered
deriving DecidableEq, Repr

/-- What the world contributes to a statement. -/
structure MultisigEnv where
  fate : Fate
  /-- `gen_random_uuid()` -/
  id : Uuid
  /-- what is configured at the time -/
  config : Option ThresholdConfig
deriving DecidableEq, Repr

def dbDown : ApiError := dbError "Connection terminated unexpectedly" "08006"

def uniqueViolation : ApiError :=
  dbError "duplicate key value violates unique constraint" "23505"

def foreignKeyViolation : ApiError :=
  dbError "update or delete on table violates foreign key constraint" "23503"

/-- Twenty-four hours. -/
def operationLifetime : Timestamp := 86400000000

/-- `ON CONFLICT (operation_id, signer_id) DO UPDATE SET xdr_signed = EXCLUDED.xdr_signed, …`. -/
def upsertSignature (rows : List MultisigSignature) (row : MultisigSignature) :
    List MultisigSignature :=
  if row.key ∈ rows.map (·.key) then
    rows.map fun other =>
      if other.key = row.key then { other with xdrSigned := row.xdrSigned } else other
  else rows ++ [row]

/-- What the tables are after `status = 'submitted'`. -/
def World.submit (valid : Text → Text → Text → Bool) (w : World) (id : Uuid)
    (operation : MultisigOperation) : World :=
  { w with
    operations := Function.update w.operations id
      (some { operation with status := .submitted, submittedAt := some w.now })
    submissions := w.submissions ++
      [⟨id, operation, w.now, w.endorsers valid id operation.xdrUnsigned, w.signaturesOf id⟩] }

/-- `addSignature`, where the operation and the cosigner are there. -/
def World.addSignature (w : World) (row : MultisigSignature) : World :=
  { w with
    signatures := upsertSignature w.signatures row
    supplied := w.supplied ++ [row] }

section

variable (platform : Platform) (valid : Text → Text → Text → Bool)

/-- The answer of a statement and its effect. -/
def perform (e : MultisigEnv) (w : World) :
    (op : MultisigOp) → Except ApiError (multisigSig.Ans op) × World
  | .selectThreshold => (.ok e.config, w)
  | .loadAccount => (.ok (), w)
  | .insertOperation xdrUnsigned threshold =>
    if (w.operations e.id).isSome then (.error uniqueViolation, w)
    else
      (.ok e.id,
        { w with
          operations := Function.update w.operations e.id
            (some ⟨xdrUnsigned, threshold, .pending, w.now + operationLifetime, none⟩) })
  | .selectOperation id =>
    (.ok ((w.operations id).map fun operation => ⟨operation, (w.signaturesOf id).length⟩), w)
  | .selectCosigner publicKey =>
    (.ok (w.cosigners.find? fun cosigner => cosigner.publicKey = publicKey), w)
  | .selectCosignerById id => (.ok (w.cosigners.find? fun cosigner => cosigner.id = id), w)
  | .insertSignature row =>
    if (w.operations row.operationId).isSome &&
        w.cosigners.any (fun cosigner => cosigner.id = row.signerId) then
      (.ok (), w.addSignature row)
    else (.error foreignKeyViolation, w)
  | .selectSignatures operationId => (.ok (w.signaturesOf operationId), w)
  | .updateOperation id =>
    if platform.updatedAt then
      match w.operations id with
      | none => (.ok none, w)
      | some operation => (.ok ((w.submit valid id operation).operations id),
          w.submit valid id operation)
    else (.error (dbError "column \"updated_at\" does not exist" "42703"), w)
  | .insertCosigner publicKey role =>
    if w.cosigners.any fun cosigner => cosigner.id = e.id || cosigner.publicKey = publicKey then
      (.error uniqueViolation, w)
    else
      (.ok ⟨e.id, publicKey, role⟩,
        { w with cosigners := w.cosigners ++ [⟨e.id, publicKey, role⟩] })
  | .updateCosigner id role =>
    let updated := w.cosigners.map fun cosigner =>
      if cosigner.id = id then { cosigner with role := role.getD cosigner.role } else cosigner
    (.ok (updated.find? fun cosigner => cosigner.id = id), { w with cosigners := updated })
  | .deleteCosigner id =>
    -- `signer_id … ON DELETE RESTRICT`
    if w.signatures.any fun row => row.signerId = id then (.error foreignKeyViolation, w)
    else
      (.ok (w.cosigners.any fun cosigner => cosigner.id = id),
        { w with cosigners := w.cosigners.filter fun cosigner => cosigner.id ≠ id })
  | .insertAudit _ => (.ok (), w)

def machine : Machine multisigSig ApiError World MultisigEnv where
  exec e op w :=
    match e.fate with
    | .done => perform platform valid e w op
    | .lost => (.error dbDown, w)
    | .unanswered => (.error dbDown, (perform platform valid e w op).2)

/-- Time passes. -/
def Later (w w' : World) : Prop := ∃ t, w.now ≤ t ∧ w' = { w with now := t }

end

/-! ### The routes -/

/-- What a response says. -/
inductive Answer where
  | proposed (id : Uuid) (threshold : Int)
  | cosigned (signatureCount : Nat) (ready : Bool)
  | submitted (operation : MultisigOperation)
  | cosigner (cosigner : Option MultisigCosigner)
  | noContent
deriving DecidableEq, Repr

abbrev Request := Prog multisigSig ApiError Answer

def call (op : MultisigOp) : Prog multisigSig ApiError (multisigSig.Ans op) :=
  Prog.call (S := multisigSig) op

/-- `logMultisigAudit`. -/
def logMultisigAudit (action : String) : Prog multisigSig ApiError Unit :=
  call (.insertAudit action.toList)

/-- `POST /admin/escrow/cosigners`. -/
def registerCosigner (publicKey role : Text) : Request := do
  let existing ← call (.selectCosigner publicKey)
  if existing.isSome then
    .raise (createError "Cosigner with this public key already exists" 409)
  else
    let cosigner ← call (.insertCosigner publicKey role)
    logMultisigAudit "add_signer"
    return .cosigner (some cosigner)

/-- `PATCH /admin/escrow/cosigners/:id`. -/
def updateCosigner (id : Uuid) (role : Option Text) : Request := do
  let oldCosigner ← call (.selectCosignerById id)
  if oldCosigner.isNone then .raise (createError "Cosigner not found" 404)
  else
    let updated ← call (.updateCosigner id role)
    logMultisigAudit "update_signer"
    return .cosigner updated

/-- `DELETE /admin/escrow/cosigners/:id`. -/
def removeCosigner (id : Uuid) : Request := do
  let removed ← call (.deleteCosigner id)
  if !removed then .raise (createError "Cosigner not found" 404)
  else
    logMultisigAudit "remove_signer"
    return .noContent

/-- `POST /admin/escrow/:escrowId/propose`, for the transaction that is built. -/
def propose (xdrUnsigned : Text) : Request := do
  let configData ← call .selectThreshold
  let threshold := (configData.getD ⟨some 2⟩).required.getD 2
  call .loadAccount
  let id ← call (.insertOperation xdrUnsigned threshold)
  logMultisigAudit "multisig_propose"
  return .proposed id threshold

/-- `JSON.parse` of what is parsed already. -/
def jsonError : ApiError := ⟨"\"[object Object]\" is not valid JSON".toList, none, none⟩

section

variable (platform : Platform)

def getOperationById (id : Uuid) : Prog multisigSig ApiError (Option OperationDetail) := do
  let row ← call (.selectOperation id)
  match row with
  | none => return none
  | some detail => if platform.jsonText then return some detail else .raise jsonError

/-- From the cosigner that was found on. -/
def storeSignature (operationId : Uuid) (xdrSigned : Text) (operation : MultisigOperation)
    (signer : MultisigCosigner) : Request := do
  call (.insertSignature ⟨operationId, signer.id, xdrSigned, signer.role⟩)
  let signatures ← call (.selectSignatures operationId)
  logMultisigAudit "multisig_cosign"
  return .cosigned signatures.length (operation.threshold ≤ signatures.length)

/-- `POST /admin/escrow/:operationId/cosign`. -/
def cosign (operationId : Uuid) (xdrSigned signerPublicKey : Text) : Request := do
  let found ← getOperationById platform operationId
  match found with
  | none => .raise (createError "Operation not found" 404)
  | some detail =>
    if detail.operation.status ≠ .pending then
      .raise (createError s!"Operation is {detail.operation.status.text}, cannot add signature" 409)
    else
      let signer ← call (.selectCosigner signerPublicKey)
      match signer with
      | none => .raise (createError "Signer not registered" 400)
      | some signer => storeSignature operationId xdrSigned detail.operation signer

/-- The body of the `try`. -/
def submitCollected (operationId : Uuid) : Request := do
  let _ ← call (.selectSignatures operationId)
  let submitted ← call (.updateOperation operationId)
  logMultisigAudit "multisig_submit"
  match submitted with
  | none => .raise ⟨"Cannot read properties of undefined (reading 'id')".toList, none, none⟩
  | some operation => return .submitted operation

/-- `POST /admin/escrow/:operationId/submit`. -/
def submit (operationId : Uuid) : Request := do
  let found ← getOperationById platform operationId
  match found with
  | none => .raise (createError "Operation not found" 404)
  | some detail =>
    if detail.operation.status ≠ .pending then
      .raise (createError s!"Operation is already {detail.operation.status.text}" 409)
    else if (detail.signatureCount : Int) < detail.operation.threshold then
      .raise (createError
        s!"Insufficient signatures: have {detail.signatureCount}, need {detail.operation.threshold}"
        400)
    else
      (submitCollected operationId).tryCatch fun _ =>
        .raise (createError "Failed to submit operation to Stellar" 500 "STELLAR_SUBMISSION_FAILED")

/-- Any request of any admin. -/
inductive IsRequest : Request → Prop
  | registerCosigner (publicKey role : Text) : IsRequest (registerCosigner publicKey role)
  | updateCosigner (id : Uuid) (role : Option Text) : IsRequest (updateCosigner id role)
  | removeCosigner (id : Uuid) : IsRequest (removeCosigner id)
  | propose (xdrUnsigned : Text) : IsRequest (propose xdrUnsigned)
  | cosign (operationId : Uuid) (xdrSigned signerPublicKey : Text) :
      IsRequest (cosign platform operationId xdrSigned signerPublicKey)
  | submit (operationId : Uuid) : IsRequest (submit platform operationId)

end

end BrandBlitz.Multisig
