import BrandBlitz.Lib.ExpiringKeys
import BrandBlitz.Lib.Ownership
import BrandBlitz.Paging.Cursor
import BrandBlitz.Storage.Objects

/-!
# BrandBlitz.Storage.Uploads

**Uploads**: `POST /upload/presign`, `POST /upload/verify` and `DELETE /upload/abort` of
`apps/api/src/routes/upload.ts`, `POST /users/me/avatar` of `apps/api/src/routes/users.ts`, and
the `PUT` of a client that has a presigned URL.

* Requests come one after the other, from users who are logged in. Each call of a request to
  storage may fail, and then it has had no effect; Redis and the database answer.
* Every stored object has its `owner` written on it: the user whose presigned URL or request it
  was stored through. No code reads it.
* A presigned URL stays usable, and for an object of any size and type: `verify` does not rely on
  what was signed either.
-/

namespace BrandBlitz.Storage

open BrandBlitz.Lib
open BrandBlitz.Lib.Ownership
open BrandBlitz.Paging (Uuid)

/-! ### The site -/

def isHex (c : Char) : Bool := c.isDigit || ('a' ≤ c && c ≤ 'f')

/-- `8-4-4-4-12`. -/
def hasUuidShape (text : Text) : Bool :=
  text.length == 36 &&
    text.zipIdx.all fun (c, i) => if [8, 13, 18, 23].contains i then c == '-' else isHex c

/-- A result of `randomUUID()`. -/
structure RandomUuid where
  text : Text
  shape : hasUuidShape text = true
deriving DecidableEq, Repr

structure StoredObject where
  contentType : Option Text
  body : Bytes
  owner : Option Uuid
deriving DecidableEq, Repr

structure Account where
  avatarUrl : Option Text
  deleted : Bool
deriving DecidableEq, Repr

/-- The name of a bucket, and a key in it. -/
abbrev Place := Text × Text

structure Site where
  objects : Place → Option StoredObject
  /-- `upload:pending:<user>:<key>` -/
  pending : ExpiringKeys (Uuid × Text)
  accounts : Uuid → Option Account
  /-- Whose presigned URL a key of `brandAssets` has. -/
  presigned : Text → Option Uuid
  /-- What `randomUUID()` has returned. -/
  issued : List RandomUuid

/-- Where the site starts: no URL was signed yet, and nobody owns what is stored. -/
structure Site.Fresh (site : Site) : Prop where
  pending : ∀ owned, site.pending owned = none
  presigned : ∀ key, site.presigned key = none
  unowned : ∀ place object, site.objects place = some object → object.owner = none

/-! ### What the routes look at -/

def PRESIGNED_URL_TTL_SECONDS : Nat := 600

def PENDING_UPLOAD_TTL_SECONDS : Nat := PRESIGNED_URL_TTL_SECONDS + 60

/-- The body as sent; `contentLength` is `none` where it is no integer. -/
structure PresignBody where
  type : Option Text
  contentType : Option Text
  contentLength : Option Int
deriving DecidableEq, Repr

def ImageType.ofText (text : Text) : Option ImageType :=
  if text = "brand-logo".toList then some .brandLogo
  else if text = "product-image".toList then some .productImage
  else if text = "user-avatar".toList then some .userAvatar
  else none

def ImageType.text : ImageType → Text
  | .brandLogo => "brand-logo".toList
  | .productImage => "product-image".toList
  | .userAvatar => "user-avatar".toList

/-- `PresignSchema`. -/
def presignSchema (body : PresignBody) : Option (ImageType × Text × Int) := do
  let type ← body.type.bind ImageType.ofText
  let contentType ← body.contentType.filter ALLOWED_CONTENT_TYPES.contains
  let contentLength ← body.contentLength.filter (0 < ·)
  pure (type, contentType, contentLength)

/-- The error of a file that is announced too long. -/
def contentLengthError (type : ImageType) : ApiError :=
  ⟨"Content length exceeds maximum of ".toList ++
      Nat.toDigits 10 (ALLOWED_UPLOAD_TYPES type).maxMb ++ "MB for ".toList ++ ImageType.text type,
    some 400, none⟩

/-- Do the first bytes tell the type that was declared? -/
def MatchesType (object : StoredObject) : Prop :=
  (detectMime (object.body.take 16)).map AllowedMime.text = some (object.contentType.getD [])

instance (object : StoredObject) : Decidable (MatchesType object) :=
  inferInstanceAs (Decidable (_ = _))

def fileTooLarge (maxMb : Nat) : ApiError :=
  ⟨"File exceeds maximum allowed size of ".toList ++ Nat.toDigits 10 maxMb ++ "MB".toList,
    some 413, some "FILE_TOO_LARGE".toList⟩

def isKeyChar (c : Char) : Bool := c.isAlphanum || c == '_' || c == '-' || c == '.'

/-- `url.match(/avatars\/[a-zA-Z0-9_\-\.]+/)`. -/
def avatarKey : Text → Option Text
  | [] => none
  | c :: rest =>
      if "avatars/".toList.isPrefixOf (c :: rest) then
        match ((c :: rest).drop 8).takeWhile isKeyChar with
        | [] => avatarKey rest
        | name => some ("avatars/".toList ++ name)
      else avatarKey rest

structure AvatarFile where
  buffer : Bytes
  mimetype : Option Text
deriving DecidableEq, Repr

/-- The limit of `multer` and the checks of the route; `file.size` is the length of its buffer. -/
def checkAvatarFile (file : AvatarFile) : Except ApiError AllowedMime :=
  let maxMb := (ALLOWED_UPLOAD_TYPES .userAvatar).maxMb
  if maxMb * 1024 * 1024 + 1024 < file.buffer.length then .error (fileTooLarge maxMb)
  else if maxMb * 1024 * 1024 < file.buffer.length then .error (fileTooLarge maxMb)
  else
    match detectMime file.buffer with
    | none =>
        .error ⟨("File content does not match allowed content types " ++
          "(image/png, image/jpeg, image/webp)").toList, some 415,
          some "UNSUPPORTED_MEDIA_TYPE".toList⟩
    | some mime =>
        if (file.mimetype.filter (· ≠ [])).any (!ALLOWED_CONTENT_TYPES.contains ·) then
          .error (createError "Declared content type is not allowed" 400
            (some "INVALID_CONTENT_TYPE"))
        else .ok mime

def fileKey (uuid : RandomUuid) : Text := "avatars/".toList ++ uuid.text ++ ".webp".toList

structure Deps where
  env : Env
  imaging : Imaging

/-- Which calls to storage are answered. -/
abbrev Answers := S3Call → Bool

inductive Reply
  | presigned (key publicUrl : Text) (expiresIn : Nat)
  | verified (publicUrl : Text)
  | aborted
  | avatar (avatarUrl : Text)
deriving DecidableEq, Repr

section Handlers

variable (deps : Deps) (answers : Answers)

def Deps.place (bucket : Bucket) (key : Text) : Place := (deps.env.bucketName bucket, key)

namespace Site

variable (site : Site)

def issue (uuid : RandomUuid) : Site := { site with issued := uuid :: site.issued }

/-- `DeleteObjectCommand`: an object that is not there is deleted as well. -/
def deleteObject (bucket : Bucket) (key : Text) : Option Site :=
  if answers .delete then
    some { site with objects := Function.update site.objects (deps.place bucket key) none }
  else none

/-- `GetObjectCommand`. -/
def getObject (bucket : Bucket) (key : Text) : Option StoredObject :=
  if answers .get then site.objects (deps.place bucket key) else none

def uploadObject (caller : Uuid) (bucket : Bucket) (key : Text) (body : Bytes)
    (contentType : Text) : Except Failure Site :=
  match validateUpload key body contentType with
  | .error err => .error err
  | .ok () =>
      if answers (.put key) then
        .ok { site with
          objects := Function.update site.objects (deps.place bucket key)
            (some ⟨some contentType, body, some caller⟩) }
      else .error (.s3 (.put key))

/-! ### `POST /upload/presign` -/

def presign (caller : Uuid) (now : Nat) (uuid : RandomUuid) (body : PresignBody) :
    Site × Except Failure Reply :=
  match presignSchema body with
  | none => (site, .error .zod)
  | some (type, _, contentLength) =>
      let config := ALLOWED_UPLOAD_TYPES type
      if contentLength > config.maxMb * 1024 * 1024 then
        (site, .error (.api (contentLengthError type)))
      else
        let key := config.keyPrefix ++ uuid.text
        let issued := site.issue uuid
        if answers .sign then
          ({ issued with
              presigned := Function.update issued.presigned key (some caller)
              pending := issued.pending.store now PENDING_UPLOAD_TTL_SECONDS (caller, key) },
            .ok (.presigned key (getPublicUrl deps.env config.bucket key)
              PRESIGNED_URL_TTL_SECONDS))
        else
          (issued, .error (.api (createError "Failed to generate upload URL" 502
            (some "S3_PRESIGN_FAILED"))))

/-- A client's `PUT` to the URL that its user had signed for a key; to any other it is refused. -/
def put (user : Uuid) (key : Text) (contentType : Option Text) (body : Bytes) : Site :=
  if site.presigned key = some user then
    { site with
      objects := Function.update site.objects (deps.place .brandAssets key)
        (some ⟨contentType, body, some user⟩) }
  else site

/-! ### `POST /upload/verify` -/

/-- The object is deleted before the error is thrown. -/
def deleteAndThrow (bucket : Bucket) (key : Text) (err : ApiError) : Site × Except Failure Reply :=
  match site.deleteObject deps answers bucket key with
  | some site => (site, .error (.api err))
  | none => (site, .error (.s3 .delete))

/-- `head.ContentLength` is the length of the object. -/
def verify (caller : Uuid) (key : Option Text) : Site × Except Failure Reply :=
  match key with
  | none => (site, .error .zod)
  | some key =>
      let bucket := bucketOf key
      let head := if answers .head then site.objects (deps.place bucket key) else none
      match head with
      | none => (site, .error (.api (createError "File not found in storage" 404)))
      | some head =>
          let maxBytes := maxBytesForKey key
          if maxBytes < head.body.length then
            site.deleteAndThrow deps answers bucket key (fileTooLarge (maxBytes / (1024 * 1024)))
          else if !ALLOWED_CONTENT_TYPES.contains (head.contentType.getD []) then
            site.deleteAndThrow deps answers bucket key
              (createError "Declared content type is not allowed" 400)
          else
            match site.getObject deps answers bucket key with
            | none =>
                (site, .error (.api (createError "Failed to read file from storage" 502
                  (some "S3_READ_FAILED"))))
            | some object =>
                if MatchesType object then
                  ({ site with pending := site.pending.delete (caller, key) },
                    .ok (.verified (getPublicUrl deps.env bucket key)))
                else
                  site.deleteAndThrow deps answers bucket key
                    (createError "File content does not match declared content type" 415
                      (some "UNSUPPORTED_MEDIA_TYPE"))

/-! ### `DELETE /upload/abort` -/

def abort (caller : Uuid) (now : Nat) (key : Option Text) : Site × Except Failure Reply :=
  match key.filter (· ≠ []) with
  | none => (site, .error .zod)
  | some key =>
      if site.pending.holds now (caller, key) then
        match site.deleteObject deps answers (bucketOf key) key with
        | none => (site, .error (.s3 .delete))
        | some site =>
            ({ site with pending := site.pending.delete (caller, key) }, .ok .aborted)
      else (site, .error (.api (createError "Not authorised to abort this upload" 403)))

/-! ### `POST /users/me/avatar` -/

/-- The key that the avatar of an account stands under, read off its URL. -/
def oldKey (caller : Uuid) : Option Text :=
  (((site.accounts caller).filter (!·.deleted)).bind (·.avatarUrl)).bind avatarKey

/-- `UPDATE users SET avatar_url = …`. -/
def setAvatarUrl (caller : Uuid) (avatarUrl : Text) : Site :=
  { site with
    accounts := Function.update site.accounts caller
      ((site.accounts caller).map ({ · with avatarUrl := some avatarUrl })) }

/-- The end of both ways: the account gets its new avatar, and the object of the one before is
deleted, unless it is `keep`. -/
def replaceAvatar (caller : Uuid) (keep : Option Text) (newAvatarUrl : Text) :
    Site × Except Failure Reply :=
  let updated := site.setAvatarUrl caller newAvatarUrl
  let cleaned :=
    match site.oldKey caller with
    | none => updated
    | some key =>
        if keep = some key then updated
        else (updated.deleteObject deps answers .brandAssets key).getD updated
  (cleaned, .ok (.avatar newAvatarUrl))

def avatarFile (caller : Uuid) (uuid : RandomUuid) (file : AvatarFile) :
    Site × Except Failure Reply :=
  match checkAvatarFile file with
  | .error err => (site, .error (.api err))
  | .ok detectedMime =>
      let issued := site.issue uuid
      match optimizeBuffer deps.imaging file.buffer .userAvatar (some detectedMime.text) with
      | .error err => (issued, .error err)
      | .ok buffers =>
          match issued.uploadObject deps answers caller .brandAssets (fileKey uuid)
            buffers.webpBuffer "image/webp".toList with
          | .error err => (issued, .error err)
          | .ok stored =>
              stored.replaceAvatar deps answers caller none
                (getPublicUrl deps.env .brandAssets (fileKey uuid))

/-- `optimizeImage`: the key that the image has now. -/
def optimizeImage (caller : Uuid) (key : Text) (type : ImageType) : Site × Except Failure Text :=
  match site.getObject deps answers .brandAssets key with
  | none => (site, .error (.s3 .get))
  | some original =>
      match variants deps.imaging deps.env key original.body original.contentType type with
      | .error err => (site, .error err)
      | .ok none => (site, .ok key)
      | .ok (some optimized) =>
          match site.uploadObject deps answers caller .brandAssets optimized.webpKey
            optimized.buffers.webpBuffer "image/webp".toList with
          | .error err => (site, .error err)
          | .ok webpStored =>
              match webpStored.uploadObject deps answers caller .brandAssets optimized.avifKey
                optimized.buffers.avifBuffer "image/avif".toList with
              | .error err => (webpStored, .error err)
              | .ok avifStored => (avifStored, .ok optimized.webpKey)

/-- A body with the key of an upload. -/
def avatarUpload (caller : Uuid) (key : Option Text) : Site × Except Failure Reply :=
  match key.filter (· ≠ []) with
  | none => (site, .error (.api (createError "No avatar file provided" 400)))
  | some uploadKey =>
      if "avatars/".toList.isPrefixOf uploadKey then
        match site.optimizeImage deps answers caller uploadKey .userAvatar with
        | (optimized, .error err) => (optimized, .error err)
        | (optimized, .ok optimizedKey) =>
            optimized.replaceAvatar deps answers caller (some optimizedKey)
              (getPublicUrl deps.env .brandAssets optimizedKey)
      else (site, .error (.api (createError "Invalid avatar key prefix" 400)))

end Site

end Handlers

/-! ### Runs -/

inductive Request
  | presign (caller : Uuid) (answers : Answers) (now : Nat) (uuid : RandomUuid)
      (body : PresignBody)
  | put (user : Uuid) (key : Text) (contentType : Option Text) (body : Bytes)
  | verify (caller : Uuid) (answers : Answers) (key : Option Text)
  | abort (caller : Uuid) (answers : Answers) (now : Nat) (key : Option Text)
  | avatarFile (caller : Uuid) (answers : Answers) (uuid : RandomUuid) (file : AvatarFile)
  | avatarUpload (caller : Uuid) (answers : Answers) (key : Option Text)

namespace Request

/-- Whose request it is. -/
def caller : Request → Uuid
  | .presign caller .. | .put caller .. | .verify caller .. | .abort caller ..
  | .avatarFile caller .. | .avatarUpload caller .. => caller

/-- The result of `randomUUID()` that it takes. -/
def uuid : Request → Option RandomUuid
  | .presign _ _ _ uuid _ | .avatarFile _ _ uuid _ => some uuid
  | _ => none

end Request

/-- The site after a request. -/
def Site.apply (deps : Deps) (site : Site) : Request → Site
  | .presign caller answers now uuid body => (site.presign deps answers caller now uuid body).1
  | .put user key contentType body => site.put deps user key contentType body
  | .verify caller answers key => (site.verify deps answers caller key).1
  | .abort caller answers now key => (site.abort deps answers caller now key).1
  | .avatarFile caller answers uuid file => (site.avatarFile deps answers caller uuid file).1
  | .avatarUpload caller answers key => (site.avatarUpload deps answers caller key).1

end BrandBlitz.Storage
