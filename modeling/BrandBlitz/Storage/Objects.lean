import Mathlib.Data.List.Basic
import BrandBlitz.Stellar.Client

/-!
# BrandBlitz.Storage.Objects

**Images in storage**: keys and types of `apps/api/src/routes/upload.ts`, public URLs and the
checks of `uploadObject` (`packages/storage/src/client.ts`), and what `optimizeImage` makes of an
image (`packages/storage/src/optimize.ts`).

Sharp and SHA-256 are parameters. `Cache-Control` is left out, nothing reads it.
-/

namespace BrandBlitz.Storage

abbrev Bytes := List UInt8

/-- `buf.toString("ascii")`, which drops the highest bit. -/
def ascii (bytes : Bytes) : Text := bytes.map fun byte => Char.ofNat (byte &&& 0x7f).toNat

/-! ### Types -/

inductive Bucket
  | brandAssets
  | shareCards
deriving DecidableEq, Repr

inductive ImageType
  | brandLogo
  | productImage
  | userAvatar
deriving DecidableEq, Repr

structure UploadType where
  bucket : Bucket
  keyPrefix : Text
  maxMb : Nat
deriving DecidableEq, Repr

def ALLOWED_UPLOAD_TYPES : ImageType → UploadType
  | .brandLogo => ⟨.brandAssets, "logos/".toList, 2⟩
  | .productImage => ⟨.brandAssets, "products/".toList, 5⟩
  | .userAvatar => ⟨.brandAssets, "avatars/".toList, 1⟩

inductive AllowedMime
  | png
  | jpeg
  | webp
deriving DecidableEq, Repr

def AllowedMime.text : AllowedMime → Text
  | .png => "image/png".toList
  | .jpeg => "image/jpeg".toList
  | .webp => "image/webp".toList

def ALLOWED_CONTENT_TYPES : List Text := [AllowedMime.png, .jpeg, .webp].map AllowedMime.text

def maxBytesForKey (key : Text) : Nat :=
  if "products/".toList.isPrefixOf key then
    (ALLOWED_UPLOAD_TYPES .productImage).maxMb * 1024 * 1024
  else if "avatars/".toList.isPrefixOf key then
    (ALLOWED_UPLOAD_TYPES .userAvatar).maxMb * 1024 * 1024
  else (ALLOWED_UPLOAD_TYPES .brandLogo).maxMb * 1024 * 1024

/-- Where the two routes that take any key look for it. -/
def bucketOf (key : Text) : Bucket :=
  if "logos/".toList.isPrefixOf key || "products/".toList.isPrefixOf key ||
    "avatars/".toList.isPrefixOf key then .brandAssets else .shareCards

def isPng (buf : Bytes) : Bool := [0x89, 0x50, 0x4e, 0x47].isPrefixOf buf

def isJpeg (buf : Bytes) : Bool := [0xff, 0xd8, 0xff].isPrefixOf buf

def isWebp (buf : Bytes) : Bool :=
  decide (12 ≤ buf.length) && ascii (buf.take 4) == "RIFF".toList &&
    ascii ((buf.drop 8).take 4) == "WEBP".toList

def detectMime (buf : Bytes) : Option AllowedMime :=
  if buf.length < 3 then none
  else if isPng buf then some .png
  else if isJpeg buf then some .jpeg
  else if isWebp buf then some .webp
  else none

/-! ### Failures -/

/-- The calls to storage; a request stores more than one object at most. -/
inductive S3Call
  | sign
  | head
  | get
  | put (key : Text)
  | delete
deriving DecidableEq, Repr

inductive Failure
  | api (err : ApiError)
  /-- A schema turned the body down. -/
  | zod
  | s3 (call : S3Call)
  | typeError
  /-- `StorageValidationError` -/
  | invalid (message key contentType : Text)
  /-- `StorageError` -/
  | storage (message key bucket code : Text)
deriving DecidableEq, Repr

/-! ### `client.ts` -/

/-- The environment that the URLs are made from. -/
structure Env where
  cdnBaseUrl : Option Text
  s3PublicUrl : Option Text
  s3Endpoint : Option Text
  bucketName : Bucket → Text

/-- `a || b`, on texts. -/
def orText (a b : Option Text) : Option Text := a.filter (· ≠ []) <|> b.filter (· ≠ [])

def getPublicUrl (env : Env) (bucket : Bucket) (key : Text) : Text :=
  let base := (env.cdnBaseUrl.filter (· ≠ [])).getD
    ((orText env.s3PublicUrl env.s3Endpoint).getD [])
  base ++ '/' :: env.bucketName bucket ++ '/' :: key

def IMAGE_MAGIC_VALIDATORS (contentType : Text) : Option (Bytes → Bool) :=
  if contentType = "image/png".toList then some isPng
  else if contentType = "image/jpeg".toList then some isJpeg
  else if contentType = "image/gif".toList then
    some fun buf => decide (6 ≤ buf.length) && ascii (buf.take 4) == "GIF8".toList
  else if contentType = "image/webp".toList then some isWebp
  else none

/-- What `uploadObject` checks before any bytes leave the process. -/
def validateUpload (key : Text) (body : Bytes) (contentType : Text) : Except Failure Unit :=
  if body = [] then
    .error (.invalid "Refusing to store an empty file buffer".toList key contentType)
  else if (IMAGE_MAGIC_VALIDATORS contentType).any (! · body) then
    .error (.invalid
      ("Buffer magic bytes do not match declared content type ".toList ++ contentType)
      key contentType)
  else .ok ()

/-! ### `optimize.ts` -/

inductive Fit
  | contain
  | inside
  | cover
deriving DecidableEq, Repr

structure Spec where
  width : Nat
  height : Nat
  fit : Fit
deriving DecidableEq, Repr

def SPECS : ImageType → Spec
  | .brandLogo => ⟨400, 400, .contain⟩
  | .productImage => ⟨800, 600, .inside⟩
  | .userAvatar => ⟨200, 200, .cover⟩

/-- Sharp and the digest. -/
structure Imaging where
  /-- `sharp(buffer).metadata()`: the format, if it has one, or the message of the error. -/
  metadata : Bytes → Except Text (Option Text)
  /-- `sharp(buffer).resize(…).webp({ quality: 85 }).toBuffer()` -/
  webp : Spec → Bytes → Except Failure Bytes
  /-- `sharp(buffer).resize(…).avif({ quality: 75 }).toBuffer()` -/
  avif : Spec → Bytes → Except Failure Bytes
  /-- `createHash("sha256").update(buffer).digest("hex")` -/
  sha256 : Bytes → Text
  length_sha256 : ∀ bytes, (sha256 bytes).length = 64

/-- What every object inherits. -/
def inheritedNames : List Text :=
  ["constructor", "hasOwnProperty", "isPrototypeOf", "propertyIsEnumerable", "toLocaleString",
    "toString", "valueOf", "__proto__", "__defineGetter__", "__defineSetter__",
    "__lookupGetter__", "__lookupSetter__"].map String.toList

/-- `MIME_TO_SHARP_FORMATS[mime]`; inside, `none` stands for something inherited that is no
list. -/
def mimeToSharpFormats (mime : Text) : Option (Option (List Text)) :=
  if mime = "image/jpeg".toList then some (some ["jpeg".toList, "jpg".toList])
  else if mime = "image/png".toList then some (some ["png".toList])
  else if mime = "image/webp".toList then some (some ["webp".toList])
  else if mime = "image/gif".toList then some (some ["gif".toList])
  else if inheritedNames.contains mime then some none
  else none

def supportedFormats : List Text :=
  ["jpeg", "jpg", "png", "webp", "avif", "tiff"].map String.toList

section

variable (imaging : Imaging)

def assertImageMatchesDeclaredType (buffer : Bytes) (declaredMime key bucket : Text) :
    Except Failure Unit :=
  match mimeToSharpFormats declaredMime with
  | none =>
      .error (.storage ("Unsupported declared MIME type: ".toList ++ declaredMime) key bucket
        "STORAGE_MIME_UNSUPPORTED".toList)
  | some expectedFormats =>
      match imaging.metadata buffer with
      | .error message =>
          .error (.storage ("Sharp could not parse the buffer as an image: ".toList ++ message)
            key bucket "STORAGE_IMAGE_UNDECODABLE".toList)
      | .ok format =>
          let mismatch := .error (.storage
            ("Image content (".toList ++ format.getD "unknown".toList ++
              ") does not match declared type ".toList ++ declaredMime)
            key bucket "STORAGE_MIME_MISMATCH".toList)
          match format.filter (· ≠ []), expectedFormats with
          | none, _ => mismatch
          | some _, none => .error .typeError
          | some format, some formats => if formats.contains format then .ok () else mismatch

/-- The same, if there is a type to compare with. -/
def assertDeclared (buffer : Bytes) (declaredMime : Option Text) (key bucket : Text) :
    Except Failure Unit :=
  match declaredMime with
  | some mime => assertImageMatchesDeclaredType imaging buffer mime key bucket
  | none => .ok ()

structure Buffers where
  webpBuffer : Bytes
  avifBuffer : Bytes
deriving DecidableEq, Repr

def optimizeBuffer (buffer : Bytes) (type : ImageType) (declaredMime : Option Text) :
    Except Failure Buffers := do
  assertDeclared imaging buffer (declaredMime.filter (· ≠ [])) [] []
  match imaging.metadata buffer with
  | .error message =>
      .error (.storage ("Sharp could not parse the buffer as an image: ".toList ++ message)
        [] [] "STORAGE_IMAGE_UNDECODABLE".toList)
  | .ok format =>
      if (format.filter (· ≠ [])).any supportedFormats.contains then
        let webpBuffer ← imaging.webp (SPECS type) buffer
        let avifBuffer ← imaging.avif (SPECS type) buffer
        pure ⟨webpBuffer, avifBuffer⟩
      else .error (.storage
        ("Unsupported image format: ".toList ++ format.getD "unknown".toList)
        [] [] "STORAGE_MIME_UNSUPPORTED".toList)

/-- `key.replace(/\.[^.]+$/, "")`. -/
def dropExtension (key : Text) : Text :=
  match key.reverse.dropWhile (· ≠ '.') with
  | [] => key
  | _ :: base => if key.getLast? = some '.' then key else base.reverse

/-- `${base}-${hash}` and the extension. -/
def variantKey (buffer : Bytes) (key extension : Text) : Text :=
  dropExtension key ++ '-' :: (imaging.sha256 buffer).take 8 ++ extension

/-- What `optimizeImage` will store beside an image, and under which keys. -/
structure Variants where
  webpKey : Text
  avifKey : Text
  buffers : Buffers
deriving DecidableEq, Repr

/-- `optimizeImage` between its read and its writes: nothing is stored for an image of another
format, and the key stays. -/
def variants (env : Env) (key : Text) (body : Bytes) (contentType : Option Text)
    (type : ImageType) : Except Failure (Option Variants) := do
  assertDeclared imaging body
    ((contentType.filter (· ≠ [])).filter (mimeToSharpFormats · |>.isSome))
    key (env.bucketName .brandAssets)
  match imaging.metadata body with
  | .error _ => pure none
  | .ok format =>
      if (format.filter (· ≠ [])).any supportedFormats.contains then
        let buffers ← optimizeBuffer imaging body type none
        pure (some ⟨variantKey imaging body key ".webp".toList,
          variantKey imaging body key ".avif".toList, buffers⟩)
      else pure none

end

end BrandBlitz.Storage
