import BrandBlitz.Network.Fingerprint
import BrandBlitz.Referrals.Bonus

/-!
# BrandBlitz.Referrals.Attribution

**Attribution of referrals** (`consumePendingReferralAttribution` of
`apps/api/src/services/referrals.ts`). Every login of a user, not only the first, may name a
referral code: in the request, or left pending for the device. If the checks pass, the owner
of the code becomes the user's referrer.

* The table `referrals` is the list of its rows. `UNIQUE (referred_id)` shows in
  `createReferral`, which leaves a row that is there as it is.
* Whom a code belongs to is the answer of `findUserByReferralCode`; users, codes and the
  keys in Redis change between the calls as they like.
* SHA-256 is a parameter: nothing depends on what it computes.
-/

namespace BrandBlitz.Referrals.Attribution

open BrandBlitz.Lib

/-! ### Requests -/

/-- `req.headers[name]`. -/
inductive Header where
  | absent
  | single (value : Text)
  | multiple (values : List Text)

/-- What is read of a login request. -/
structure Request where
  /-- `req.query.ref`, if it is a string -/
  queryRef : Option Text
  /-- `req.cookies.ref`, if it is a string -/
  cookieRef : Option Text
  visitorId : Header
  deviceId : Header
  ip : Option Text
  userAgent : Option Text

def readRequestHeader : Header → Option Text
  | .absent => none
  | .single value => some value
  | .multiple values => values.head?

/-- The code in the request: of the query before that of the cookie. -/
def readReferralCode (req : Request) : Option Text :=
  (req.queryRef.map trim).filter (!·.isEmpty) <|> (req.cookieRef.map trim).filter (!·.isEmpty)

/-- `toUpperCase` on one character. Characters whose upper case is not ASCII are left as
they are: no code has either. -/
def upperChar (c : Char) : Text :=
  match c with
  | '\u0131' => ['I']
  | '\u017F' => ['S']
  | '\u00DF' => ['S', 'S']
  | '\uFB00' => ['F', 'F']
  | '\uFB01' => ['F', 'I']
  | '\uFB02' => ['F', 'L']
  | '\uFB03' => ['F', 'F', 'I']
  | '\uFB04' => ['F', 'F', 'L']
  | '\uFB05' | '\uFB06' => ['S', 'T']
  | c => [c.toUpper]

def normalizeCode (code : Text) : Text := (trim code).flatMap upperChar

/-- `/^[A-Z0-9]{6}$/.test(code)`. -/
def isValidCode (code : Text) : Bool :=
  code.length = 6 && code.all fun c => c.isUpper || c.isDigit

/-- The fingerprint of the device that the request is from. -/
def deviceFingerprint (sha256 : Text → Text) (req : Request) : Text :=
  Network.computeFingerprint sha256
    { visitorId := readRequestHeader req.visitorId
      deviceId := readRequestHeader req.deviceId
      ip := req.ip
      userAgent := req.userAgent }

/-! ### The world -/

/-- What the calls read and write. -/
structure World where
  referrals : List Referral
  /-- the user with this referral code or vanity slug -/
  codeOwner : Text → Option Id
  /-- `referral:pending:…` -/
  pending : Text → Option Text
  /-- `referral:fingerprint:…` -/
  fingerprintOwner : Text → Option Id

/-- What a call awaits. -/
inductive Op where
  | getPending (fingerprint : Text)
  | delPending (fingerprint : Text)
  | getFingerprintOwner (fingerprint : Text)
  | setFingerprintOwner (fingerprint : Text) (userId : Id)
  | findUserByReferralCode (code : Text)
  | findReferralByReferrerAndReferred (referrerId referredId : Id)
  | findReferralByReferredId (referredId : Id)
  | createReferral (referrerId referredId : Id)

abbrev attributionSig : Sig where
  Op := Op
  Ans
    | .getPending _ => Option Text
    | .delPending _ => Unit
    | .getFingerprintOwner _ => Option Id
    | .setFingerprintOwner .. => Unit
    | .findUserByReferralCode _ => Option Id
    | .findReferralByReferrerAndReferred .. => Option Referral
    | .findReferralByReferredId _ => Option Referral
    | .createReferral .. => Referral

/-- A call that throws. -/
structure Fault where
  err : ApiError
  /-- did the call take effect all the same? -/
  applied : Bool

/-- What the environment contributes to one call. -/
structure Env where
  fault : Option Fault
  /-- a new row's id -/
  number : Nat

/-- `INSERT INTO referrals … ON CONFLICT (referred_id) DO UPDATE …`: a row that is there is
returned as it is. -/
def World.createReferral (w : World) (id referrerId referredId : Id) : Referral × World :=
  match w.referrals.find? fun r => r.referredId = referredId with
  | some row => (row, w)
  | none =>
    (⟨id, referrerId, referredId, false⟩,
      { w with referrals := w.referrals ++ [⟨id, referrerId, referredId, false⟩] })

/-- An operation that does not throw. -/
def perform (e : Env) : (op : Op) → World → attributionSig.Ans op × World
  | .getPending fingerprint, w => (w.pending fingerprint, w)
  | .delPending fingerprint, w =>
      ((), { w with pending := Function.update w.pending fingerprint none })
  | .getFingerprintOwner fingerprint, w => (w.fingerprintOwner fingerprint, w)
  | .setFingerprintOwner fingerprint userId, w =>
      ((), { w with
        fingerprintOwner := Function.update w.fingerprintOwner fingerprint (some userId) })
  | .findUserByReferralCode code, w => (w.codeOwner code, w)
  | .findReferralByReferrerAndReferred referrerId referredId, w =>
      (w.referrals.find? fun r => r.referrerId = referrerId ∧ r.referredId = referredId, w)
  | .findReferralByReferredId referredId, w =>
      (w.referrals.find? fun r => r.referredId = referredId, w)
  | .createReferral referrerId referredId, w => w.createReferral e.number referrerId referredId

/-- The database and Redis. -/
def attributionMachine : Machine attributionSig ApiError World Env where
  exec e op w :=
    match e.fault with
    | some fault => (.error fault.err, if fault.applied then (perform e op w).2 else w)
    | none => (.ok (perform e op w).1, (perform e op w).2)

/-! ### The program -/

abbrev Service := Prog attributionSig ApiError

variable (sha256 : Text → Text)

def recordReferralFingerprint (userId : Id) (req : Request) : Service Unit :=
  Prog.call (S := attributionSig) (.setFingerprintOwner (deviceFingerprint sha256 req) userId)

/-- The code of the request, or the one left pending for the device. -/
def findCode (req : Request) : Service (Option Text) :=
  match readReferralCode req with
  | some code => return some code
  | none => Prog.call (S := attributionSig) (.getPending (deviceFingerprint sha256 req))

/-- From the check for the reverse referral on. -/
def attributeReferral (userId : Id) (req : Request) (referrerId : Id) : Service Unit := do
  -- only a referral the other way round counts as a cycle
  let reverseReferral ← Prog.call (S := attributionSig)
    (.findReferralByReferrerAndReferred userId referrerId)
  if reverseReferral.isSome then .raise (createError "Referral cycle detected" 409)
  else do
    let existingReferral ← Prog.call (S := attributionSig) (.findReferralByReferredId userId)
    if existingReferral.isSome then recordReferralFingerprint sha256 userId req
    else do
      let _ ← Prog.call (S := attributionSig) (.createReferral referrerId userId)
      Prog.call (S := attributionSig) (.delPending (deviceFingerprint sha256 req))
      recordReferralFingerprint sha256 userId req

/-- `consumePendingReferralAttribution`. -/
def consumePendingReferralAttribution (userId : Id) (req : Request) : Service Unit := do
  let found ← findCode sha256 req
  let code := normalizeCode (found.getD [])
  if code.isEmpty || !isValidCode code then recordReferralFingerprint sha256 userId req
  else do
    let referrer ← Prog.call (S := attributionSig) (.findUserByReferralCode code)
    match referrer with
    | none => recordReferralFingerprint sha256 userId req
    | some referrerId =>
      if referrerId = userId then .raise (createError "Self-referrals are not allowed" 409)
      else do
        let owner ← Prog.call (S := attributionSig)
          (.getFingerprintOwner (deviceFingerprint sha256 req))
        if owner.any (· ≠ userId) then
          .raise (createError "Referral attribution rejected for this device" 409)
        else attributeReferral sha256 userId req referrerId

end BrandBlitz.Referrals.Attribution
