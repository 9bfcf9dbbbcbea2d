import BrandBlitz.Lib.Constrained
import BrandBlitz.Storage.Uploads

/-!
# BrandBlitz.Storage.Isolation

**Users leave each other's objects alone**, in exactly the runs whose requests are `Careful`.

A presigned key and the key of an uploaded avatar have an identifier in them that was returned
once, and a pending upload was presigned for its user (`Inv`), so `presign`, the `PUT`, `abort`
and the storing of an avatar file touch nothing of anybody else's. The other deletions ask for no
owner: `verify` deletes what it rejects, under any key; a new avatar deletes what the old URL
names, and the old URL may have come from the key of another user's upload; the resized images of
an upload have the same names for everyone who posts its key.
-/

namespace BrandBlitz.Storage

open BrandBlitz.Lib
open BrandBlitz.Lib.Ownership
open BrandBlitz.Paging (Uuid)

/-! ### The property -/

/-- What the other users have in storage is still there after the request. -/
def SparesOthers (deps : Deps) (site : Site) (request : Request) : Prop :=
  Spares StoredObject.owner request.caller site.objects (site.apply deps request).objects

/-- The identifier that the request takes was never returned before. -/
def NewUuid (site : Site) (request : Request) : Prop := ∀ uuid ∈ request.uuid, uuid ∉ site.issued

section Careful

variable (deps : Deps) (site : Site) (answers : Answers) (caller : Uuid)

/-- Another user's object stands under a key of a bucket. -/
def Site.OthersAt (bucket : Bucket) (key : Text) : Prop :=
  Ownership.OthersAt StoredObject.owner site.objects caller (deps.place bucket key)

/-- `verify` deletes it: it is too large, of no allowed type, or its first bytes tell another. -/
def Refused (key : Text) (object : StoredObject) : Prop :=
  maxBytesForKey key < object.body.length ∨
    object.contentType.getD [] ∉ ALLOWED_CONTENT_TYPES ∨
      answers .get = true ∧ ¬ MatchesType object

instance (key : Text) (object : StoredObject) : Decidable (Refused answers key object) :=
  inferInstanceAs (Decidable (_ ∨ _ ∨ _ ∧ _))

/-- `uploadObject` goes through. -/
def Stored (key : Text) (body : Bytes) (contentType : Text) : Prop :=
  validateUpload key body contentType = .ok () ∧ answers (.put key) = true

/-- The old avatar of the account is no object of another user, or it stays. -/
def OldAvatarOwn (keep : Option Text) : Prop :=
  ∀ key ∈ site.oldKey caller, keep ≠ some key → answers .delete = true →
    ¬ site.OthersAt deps caller .brandAssets key

/-- No resized image of the upload has the name of another user's object. -/
def VariantsOwn (optimized : Variants) : Prop :=
  Stored answers optimized.webpKey optimized.buffers.webpBuffer "image/webp".toList →
    ¬ site.OthersAt deps caller .brandAssets optimized.webpKey ∧
      (Stored answers optimized.avifKey optimized.buffers.avifBuffer "image/avif".toList →
        ¬ site.OthersAt deps caller .brandAssets optimized.avifKey ∧
          OldAvatarOwn deps site answers caller (some optimized.webpKey))

/-- What becomes of an upload whose key is posted: nothing is stored beside it, or the resized
images are. -/
def ResultOwn (key : Text) : Option Variants → Prop
  | none => OldAvatarOwn deps site answers caller (some key)
  | some optimized => VariantsOwn deps site answers caller optimized

end Careful

/-- Nobody verifies a bad object of another user; a new avatar takes the place of no object of
another user, and its resized images do not either. -/
def Careful (deps : Deps) (site : Site) : Request → Prop
  | .verify caller answers key => ∀ k, key = some k → ∀ object,
      site.objects (deps.place (bucketOf k) k) = some object →
        OfAnother StoredObject.owner caller object → answers .head = true →
          answers .delete = true → ¬ Refused answers k object
  | .avatarFile caller answers uuid file => ∀ mime buffers,
      checkAvatarFile file = .ok mime →
        optimizeBuffer deps.imaging file.buffer .userAvatar (some mime.text) = .ok buffers →
          Stored answers (fileKey uuid) buffers.webpBuffer "image/webp".toList →
            OldAvatarOwn deps site answers caller none
  | .avatarUpload caller answers key => ∀ k, key = some k → "avatars/".toList.isPrefixOf k = true →
      ∀ original, site.getObject deps answers .brandAssets k = some original →
        ∀ result, variants deps.imaging deps.env k original.body original.contentType .userAvatar
            = .ok result → ResultOwn deps site answers caller k result
  | .presign .. | .put .. | .abort .. => True

/-! ### Keys -/

section Keys

variable {uuid uuid' : RandomUuid} {imaging : Imaging} {body : Bytes} {key extension : Text}

theorem RandomUuid.length (uuid : RandomUuid) : uuid.text.length = 36 := by
  have h := uuid.shape
  unfold hasUuidShape at h
  simp only [Bool.and_eq_true, beq_iff_eq] at h
  exact h.1

theorem RandomUuid.char (uuid : RandomUuid) {i : Nat} {c : Char} (h : uuid.text[i]? = some c) :
    (if [8, 13, 18, 23].contains i then c == '-' else isHex c) = true := by
  have hshape := uuid.shape
  unfold hasUuidShape at hshape
  simp only [Bool.and_eq_true, List.all_eq_true] at hshape
  exact hshape.2 (c, i) (List.mk_mem_zipIdx_iff_getElem?.mpr h)

theorem RandomUuid.dot_not_mem (uuid : RandomUuid) : '.' ∉ uuid.text := by
  intro h
  obtain ⟨i, hi⟩ := List.getElem?_of_mem h
  have hchar := uuid.char hi
  split at hchar
  · exact absurd hchar (by decide)
  · exact absurd hchar (by decide)

/-- The key of a presigned URL. -/
def presignKey (type : ImageType) (uuid : RandomUuid) : Text :=
  (ALLOWED_UPLOAD_TYPES type).keyPrefix ++ uuid.text

theorem dot_not_mem_presignKey (type : ImageType) (uuid : RandomUuid) :
    '.' ∉ presignKey type uuid := by
  intro h
  rcases List.mem_append.mp h with h | h
  · cases type <;> exact absurd h (by decide)
  · exact uuid.dot_not_mem h

theorem uuid_eq_of_presignKey {type type' : ImageType}
    (h : presignKey type uuid = presignKey type' uuid') : uuid = uuid' := by
  have htext := (List.append_inj' h (uuid.length.trans uuid'.length.symm)).2
  cases uuid
  cases uuid'
  cases htext
  rfl

theorem uuid_eq_of_fileKey (h : fileKey uuid = fileKey uuid') : uuid = uuid' := by
  have htext := (List.append_inj (List.append_inj' h rfl).1 rfl).2
  cases uuid
  cases uuid'
  cases htext
  rfl

theorem dot_mem_fileKey : '.' ∈ fileKey uuid :=
  List.mem_append_right _ (by decide)

theorem char_of_stem {front stem back base hash back' : Text} (hfront : front.length = 8)
    (hstem : stem.length = 36) (hback : back.length = 5) (hhash : hash.length = 8)
    (hback' : back'.length = 5) (h : front ++ stem ++ back = base ++ '-' :: hash ++ back') :
    stem[27]? = some '-' := by
  have hbase : base.length = 35 := by
    have hlength := congrArg List.length h
    simp only [List.length_append, List.length_cons] at hlength
    omega
  have hdash : (base ++ '-' :: hash ++ back')[35]? = some '-' := by
    rw [List.append_assoc, List.getElem?_append_right (Nat.le_of_eq hbase), hbase]
    rfl
  rw [← h, List.append_assoc, List.getElem?_append_right (by omega),
    List.getElem?_append_left (by omega), hfront] at hdash
  exact hdash

/-- Where a resized image has its last hyphen, an identifier has a digit. -/
theorem fileKey_ne_variantKey (hextension : extension.length = 5) :
    fileKey uuid ≠ variantKey imaging body key extension := by
  intro h
  have hhash : ((imaging.sha256 body).take 8).length = 8 := by
    rw [List.length_take, imaging.length_sha256]
    rfl
  exact absurd (uuid.char (char_of_stem rfl uuid.length rfl hhash hextension h)) (by decide)

theorem dot_mem_variantKey (h : '.' ∈ extension) :
    '.' ∈ variantKey imaging body key extension :=
  List.mem_append_right _ h

end Keys

/-! ### What the site keeps -/

/-- How a user may have come to own what stands under a key. -/
def Site.Traced (deps : Deps) (site : Site) (key : Text) (user : Uuid) : Prop :=
  site.presigned key = some user ∨ (∃ uuid ∈ site.issued, key = fileKey uuid) ∨
    ∃ body base extension, extension.length = 5 ∧ '.' ∈ extension ∧
      key = variantKey deps.imaging body base extension

structure Inv (deps : Deps) (site : Site) : Prop where
  pending : ∀ user key last, site.pending (user, key) = some last →
    site.presigned key = some user
  presigned : ∀ key user, site.presigned key = some user →
    ∃ type, ∃ uuid ∈ site.issued, key = presignKey type uuid
  owned : ∀ place object user, site.objects place = some object → object.owner = some user →
    site.Traced deps place.2 user

section Invariant

variable {deps : Deps} {site site' : Site} {place : Place} {key : Text} {user : Uuid}
  {uuid : RandomUuid}

theorem Site.Fresh.inv (h : site.Fresh) : Inv deps site where
  pending user key _ hpending := by
    rw [h.pending] at hpending
    cases hpending
  presigned key _ hpresigned := by
    rw [h.presigned] at hpresigned
    cases hpresigned
  owned place object user hobject howner := by
    rw [h.unowned place object hobject] at howner
    cases howner

/-- Under a presigned key stands nothing but what was put there through its URL. -/
theorem Inv.not_othersAt_presigned (h : Inv deps site) (hkey : site.presigned place.2 = some user) :
    ¬ OthersAt StoredObject.owner site.objects user place := by
  rintro ⟨object, hobject, other, howner, hne⟩
  obtain ⟨type, uuid, -, hpresign⟩ := h.presigned _ _ hkey
  have hdot := dot_not_mem_presignKey type uuid
  rw [← hpresign] at hdot
  rcases h.owned place object other hobject howner with
    hother | ⟨uuid', -, hfile⟩ | ⟨body, base, extension, -, hmem, hvariant⟩
  · exact hne (Option.some.inj (hother.symm.trans hkey))
  · exact hdot (hfile ▸ dot_mem_fileKey)
  · exact hdot (hvariant ▸ dot_mem_variantKey hmem)

/-- Under a new name stands nothing that a user owns. -/
theorem Inv.not_othersAt_fileKey (h : Inv deps site) (hnew : uuid ∉ site.issued)
    (hplace : place.2 = fileKey uuid) :
    ¬ OthersAt StoredObject.owner site.objects user place := by
  rintro ⟨object, hobject, other, howner, -⟩
  rcases h.owned place object other hobject howner with
    hpresigned | ⟨uuid', hissued, hfile⟩ | ⟨body, base, extension, hlength, -, hvariant⟩
  · obtain ⟨type, uuid', -, hpresign⟩ := h.presigned _ _ hpresigned
    exact dot_not_mem_presignKey type uuid' (hpresign ▸ hplace ▸ dot_mem_fileKey)
  · exact hnew (uuid_eq_of_fileKey (hplace.symm.trans hfile) ▸ hissued)
  · exact fileKey_ne_variantKey hlength (hplace.symm.trans hvariant)

theorem Site.Traced.mono (hpresigned : site'.presigned key = site.presigned key)
    (hissued : ∀ uuid ∈ site.issued, uuid ∈ site'.issued) (h : site.Traced deps key user) :
    site'.Traced deps key user := by
  rcases h with h | ⟨uuid, hmem, hkey⟩ | h
  · exact .inl (hpresigned.trans h)
  · exact .inr (.inl ⟨uuid, hissued uuid hmem, hkey⟩)
  · exact .inr (.inr h)

/-- An object is stored under a key that its owner may have it under. -/
theorem Inv.store {object : StoredObject} (h : Inv deps site) (howner : object.owner = some user)
    (htraced : site.Traced deps place.2 user) :
    Inv deps { site with objects := Function.update site.objects place (some object) } where
  pending := h.pending
  presigned := h.presigned
  owned place' object' user' hobject howner' := by
    rcases some_of_update hobject with ⟨rfl, hsame⟩ | ⟨-, hold⟩
    · cases hsame
      cases howner.symm.trans howner'
      exact htraced
    · exact h.owned place' object' user' hold howner'

theorem Inv.remove (h : Inv deps site) (place : Place) :
    Inv deps { site with objects := Function.update site.objects place none } where
  pending := h.pending
  presigned := h.presigned
  owned place' object' user' hobject howner' := by
    rcases some_of_update hobject with ⟨-, hsame⟩ | ⟨-, hold⟩
    · cases hsame
    · exact h.owned place' object' user' hold howner'

theorem Inv.forget (h : Inv deps site) (owned : Uuid × Text) :
    Inv deps { site with pending := site.pending.delete owned } where
  pending user key last hpending := by
    rcases some_of_update hpending with ⟨-, hsame⟩ | ⟨-, hold⟩
    · cases hsame
    · exact h.pending user key last hold
  presigned := h.presigned
  owned := h.owned

theorem Inv.issue (h : Inv deps site) (uuid : RandomUuid) : Inv deps (site.issue uuid) where
  pending := h.pending
  presigned key user hpresigned := by
    obtain ⟨type, uuid', hmem, hkey⟩ := h.presigned key user hpresigned
    exact ⟨type, uuid', List.mem_cons_of_mem uuid hmem, hkey⟩
  owned place object user hobject howner :=
    (h.owned place object user hobject howner).mono
      (show (site.issue uuid).presigned place.2 = site.presigned place.2 from rfl)
      fun _ => List.mem_cons_of_mem uuid

theorem Inv.presigned_eq_none (h : Inv deps site) (hnew : uuid ∉ site.issued) (type : ImageType) :
    site.presigned (presignKey type uuid) = none := by
  by_contra hsome
  obtain ⟨user, huser⟩ := Option.ne_none_iff_exists'.mp hsome
  obtain ⟨type', uuid', hissued, hkey⟩ := h.presigned _ user huser
  exact hnew (uuid_eq_of_presignKey hkey ▸ hissued)

/-- A URL is signed for a new key. -/
theorem Inv.presign (h : Inv deps site) (hnew : uuid ∉ site.issued) (type : ImageType)
    (user : Uuid) (now ttl : Nat) :
    Inv deps { site.issue uuid with
      presigned := Function.update site.presigned (presignKey type uuid) (some user)
      pending := site.pending.store now ttl (user, presignKey type uuid) } := by
  have hkept : ∀ key user', site.presigned key = some user' →
      Function.update site.presigned (presignKey type uuid) (some user) key = some user' := by
    intro key user' hkey
    have hne : key ≠ presignKey type uuid := by
      rintro rfl
      rw [h.presigned_eq_none hnew] at hkey
      cases hkey
    rw [Function.update_of_ne hne, hkey]
  refine ⟨fun user' key last hpending => ?_, fun key user' hkey => ?_,
    fun place object user' hobject howner => ?_⟩
  · rcases some_of_update hpending with ⟨hsame, -⟩ | ⟨-, hold⟩
    · cases hsame
      exact Function.update_self ..
    · exact hkept key user' (h.pending user' key last hold)
  · rcases some_of_update hkey with ⟨hsame, -⟩ | ⟨-, hold⟩
    · exact ⟨type, uuid, List.mem_cons_self, hsame⟩
    · obtain ⟨type', uuid', hmem, hkey'⟩ := h.presigned key user' hold
      exact ⟨type', uuid', List.mem_cons_of_mem uuid hmem, hkey'⟩
  · rcases h.owned place object user' hobject howner with hkey | ⟨uuid', hmem, hfile⟩ | hvariant
    · exact .inl (hkept _ _ hkey)
    · exact .inr (.inl ⟨uuid', List.mem_cons_of_mem uuid hmem, hfile⟩)
    · exact .inr (.inr hvariant)

end Invariant

/-! ### What the parts of a request do -/

/-- What a user does to the site: the invariant holds afterwards, the user has written values of
their own only, and it spares what the others have if and only if it is `harmless`. -/
structure Effect (deps : Deps) (user : Uuid) (site site' : Site) (harmless : Prop) : Prop where
  inv : Inv deps site'
  acts : Acts StoredObject.owner user site.objects site'.objects
  spares : Spares StoredObject.owner user site.objects site'.objects ↔ harmless

section Effects

variable {deps : Deps} {answers : Answers} {site site' site'' : Site} {user : Uuid}
  {harmless harmless' : Prop} {bucket : Bucket} {key contentType : Text} {body : Bytes}
  {uuid : RandomUuid}

theorem Effect.congr (h : Effect deps user site site' harmless) (hiff : harmless ↔ harmless') :
    Effect deps user site site' harmless' := ⟨h.inv, h.acts, h.spares.trans hiff⟩

theorem Effect.of_objects_eq (hinv : Inv deps site') (h : site'.objects = site.objects) :
    Effect deps user site site' True := by
  refine ⟨hinv, ?_, ?_⟩
  · rw [h]
    exact .refl user site.objects
  · rw [h]
    exact iff_true_intro (.refl user site.objects)

theorem Effect.refl (h : Inv deps site) : Effect deps user site site True := .of_objects_eq h rfl

theorem Effect.trans (h : Effect deps user site site' harmless)
    (h' : Effect deps user site' site'' harmless') :
    Effect deps user site site'' (harmless ∧ harmless') where
  inv := h'.inv
  acts := h.acts.trans h'.acts
  spares := (spares_trans_iff h.acts h'.acts).trans (and_congr h.spares h'.spares)

/-- After a harmless part the others' objects stand where they stood. -/
theorem Effect.othersAt_iff (h : Effect deps user site site' harmless) (hharmless : harmless)
    (bucket : Bucket) (key : Text) :
    site'.OthersAt deps user bucket key ↔ site.OthersAt deps user bucket key :=
  Ownership.othersAt_iff h.acts (h.spares.mpr hharmless)

theorem deleteObject_effect (user : Uuid) (h : Inv deps site)
    (hdelete : site.deleteObject deps answers bucket key = some site') :
    answers .delete = true ∧
      Effect deps user site site' (¬ site.OthersAt deps user bucket key) := by
  unfold Site.deleteObject at hdelete
  split at hdelete
  · cases hdelete
    have hown : ∀ object ∈ (none : Option StoredObject), object.owner = some user := by simp
    exact ⟨‹_›, h.remove _, acts_update hown, spares_update_iff hown⟩
  · cases hdelete

theorem deleteObject_eq_none (h : site.deleteObject deps answers bucket key = none) :
    answers .delete = false := by
  unfold Site.deleteObject at h
  split at h
  · cases h
  · simpa using ‹¬ answers .delete = true›

theorem store_effect {object : StoredObject} (h : Inv deps site) (howner : object.owner = some user)
    (htraced : site.Traced deps key user) :
    Effect deps user site
      { site with objects := Function.update site.objects (deps.place bucket key) (some object) }
      (¬ site.OthersAt deps user bucket key) := by
  have hown : ∀ object' ∈ some object, object'.owner = some user := by
    rintro _ ⟨⟩
    exact howner
  exact ⟨h.store howner htraced, acts_update hown, spares_update_iff hown⟩

theorem uploadObject_effect (h : Inv deps site) (htraced : site.Traced deps key user)
    (hstored : site.uploadObject deps answers user bucket key body contentType = .ok site') :
    Stored answers key body contentType ∧ site'.accounts = site.accounts ∧
      site'.presigned = site.presigned ∧ site'.issued = site.issued ∧
      Effect deps user site site' (¬ site.OthersAt deps user bucket key) := by
  unfold Site.uploadObject at hstored
  split at hstored
  · cases hstored
  · split at hstored
    · cases hstored
      exact ⟨⟨‹_›, ‹_›⟩, rfl, rfl, rfl, store_effect h rfl htraced⟩
    · cases hstored

theorem uploadObject_error {err : Failure}
    (h : site.uploadObject deps answers user bucket key body contentType = .error err) :
    ¬ Stored answers key body contentType := by
  rintro ⟨hvalid, hanswers⟩
  unfold Site.uploadObject at h
  rw [hvalid] at h
  simp only [hanswers, if_true] at h
  cases h

theorem deleteAndThrow_effect (h : Inv deps site) (err : ApiError) :
    Effect deps user site (site.deleteAndThrow deps answers bucket key err).1
      (answers .delete = true → ¬ site.OthersAt deps user bucket key) := by
  unfold Site.deleteAndThrow
  split
  · obtain ⟨hanswers, heffect⟩ := deleteObject_effect user h ‹_›
    exact heffect.congr (by simp [hanswers])
  · have hanswers := deleteObject_eq_none ‹_›
    exact (Effect.refl h).congr (by simp [hanswers])

/-! ### The requests -/

theorem presign_effect (h : Inv deps site) (hnew : uuid ∉ site.issued) (now : Nat)
    (body : PresignBody) :
    Effect deps user site (site.presign deps answers user now uuid body).1 True := by
  unfold Site.presign
  split
  · exact .refl h
  · dsimp only
    split
    · exact .refl h
    · split
      · exact .of_objects_eq (h.presign hnew _ user now PENDING_UPLOAD_TTL_SECONDS) rfl
      · exact .of_objects_eq (h.issue uuid) rfl

theorem put_effect (h : Inv deps site) (contentType : Option Text) :
    Effect deps user site (site.put deps user key contentType body) True := by
  unfold Site.put
  split
  next hkey =>
    exact (store_effect h rfl (.inl hkey)).congr
      (iff_true_intro (h.not_othersAt_presigned hkey))
  next => exact .refl h

theorem abort_effect (h : Inv deps site) (now : Nat) (key : Option Text) :
    Effect deps user site (site.abort deps answers user now key).1 True := by
  unfold Site.abort
  split
  · exact .refl h
  next key _ =>
    split
    next hpending =>
      obtain ⟨last, hlast, -⟩ := ExpiringKeys.exists_of_holds hpending
      split
      · exact .refl h
      next site' hdelete =>
        obtain ⟨-, heffect⟩ := deleteObject_effect user h hdelete
        have hforget := heffect.inv.forget (user, key)
        exact (heffect.trans (.of_objects_eq hforget rfl)).congr
          (iff_true_intro ⟨h.not_othersAt_presigned (h.pending user key last hlast), trivial⟩)
    next => exact .refl h

theorem othersAt_iff_of_object {object : StoredObject}
    (h : site.objects (deps.place bucket key) = some object) :
    site.OthersAt deps user bucket key ↔ OfAnother StoredObject.owner user object := by
  constructor
  · rintro ⟨object', hobject', hother⟩
    cases h.symm.trans hobject'
    exact hother
  · exact fun hother => ⟨object, h, hother⟩

/-- What is refused is deleted. -/
theorem verify_of_refused (user : Uuid) {object : StoredObject} (hhead : answers .head = true)
    (hobject : site.objects (deps.place (bucketOf key) key) = some object)
    (hrefused : Refused answers key object) :
    ∃ err, site.verify deps answers user (some key) =
      site.deleteAndThrow deps answers (bucketOf key) key err := by
  unfold Site.verify Site.getObject
  simp only [hhead, hobject, if_true]
  split
  · exact ⟨_, rfl⟩
  next hsmall =>
    split
    · exact ⟨_, rfl⟩
    next hcontains =>
      have hallowed : ¬ object.contentType.getD [] ∉ ALLOWED_CONTENT_TYPES := by
        simpa using hcontains
      obtain ⟨hget, hmismatch⟩ := (hrefused.resolve_left hsmall).resolve_left hallowed
      simp only [hget, if_true, if_neg hmismatch]
      exact ⟨_, rfl⟩

/-- What is not is left alone. -/
theorem verify_of_not_refused (h : Inv deps site) {object : StoredObject}
    (hobject : site.objects (deps.place (bucketOf key) key) = some object)
    (hsound : ¬ Refused answers key object) :
    Effect deps user site (site.verify deps answers user (some key)).1 True := by
  unfold Refused at hsound
  push Not at hsound
  obtain ⟨hsmall, hallowed, hmatches⟩ := hsound
  unfold Site.verify Site.getObject
  dsimp only
  split
  · exact .refl h
  next head hhead =>
    have hsame : head = object := by
      split at hhead
      · exact Option.some.inj (hhead.symm.trans hobject)
      · cases hhead
    subst hsame
    have hcontains : ¬ (!ALLOWED_CONTENT_TYPES.contains (head.contentType.getD [])) = true := by
      simpa using hallowed
    rw [if_neg (Nat.not_lt.mpr hsmall), if_neg hcontains]
    split
    · exact .refl h
    next object' hget =>
      split at hget
      next hanswers =>
        cases hobject.symm.trans hget
        rw [if_pos (hmatches hanswers)]
        exact .of_objects_eq (h.forget (user, key)) rfl
      · cases hget

theorem verify_effect (h : Inv deps site) (key : Option Text) :
    Effect deps user site (site.verify deps answers user key).1
      (Careful deps site (.verify user answers key)) := by
  cases key with
  | none => exact (Effect.refl h).congr (by simp [Careful])
  | some key =>
      by_cases hhead : answers .head = true
      · cases hobject : site.objects (deps.place (bucketOf key) key) with
        | none =>
            unfold Site.verify
            simp only [hhead, hobject, if_true]
            exact (Effect.refl h).congr (by simp [Careful, hobject])
        | some object =>
            by_cases hrefused : Refused answers key object
            · obtain ⟨err, hverify⟩ := verify_of_refused user hhead hobject hrefused
              rw [hverify]
              refine (deleteAndThrow_effect h err).congr ?_
              rw [othersAt_iff_of_object hobject]
              constructor
              · rintro hfree k ⟨⟩ object' hobject' hother - hdelete
                cases hobject.symm.trans hobject'
                exact absurd hother (hfree hdelete)
              · intro hcareful hdelete hother
                exact hcareful key rfl object hobject hother hhead hdelete hrefused
            · exact (verify_of_not_refused h hobject hrefused).congr
                (by simp [Careful, hobject, hrefused])
      · unfold Site.verify
        simp only [hhead]
        exact (Effect.refl h).congr (by simp [Careful, hhead])

theorem setAvatarUrl_effect (h : Inv deps site) (avatarUrl : Text) :
    Effect deps user site (site.setAvatarUrl user avatarUrl) True :=
  .of_objects_eq ⟨h.pending, h.presigned, h.owned⟩ rfl

theorem replaceAvatar_effect (h : Inv deps site) (keep : Option Text) (newAvatarUrl : Text) :
    Effect deps user site (site.replaceAvatar deps answers user keep newAvatarUrl).1
      (OldAvatarOwn deps site answers user keep) := by
  have hset : Effect deps user site (site.setAvatarUrl user newAvatarUrl) True :=
    setAvatarUrl_effect h newAvatarUrl
  unfold Site.replaceAvatar OldAvatarOwn
  dsimp only
  cases hold : site.oldKey user with
  | none => exact hset.congr (by simp)
  | some key =>
      dsimp only
      split
      next hkeep => exact hset.congr (by simp [hkeep])
      next hkeep =>
        cases hdelete : (site.setAvatarUrl user newAvatarUrl).deleteObject deps answers
            .brandAssets key with
        | none =>
            have hanswers := deleteObject_eq_none hdelete
            exact hset.congr (by simp [hanswers])
        | some cleaned =>
            obtain ⟨hanswers, hcleaned⟩ := deleteObject_effect user hset.inv hdelete
            have hsame := hset.othersAt_iff trivial .brandAssets key
            exact (hset.trans hcleaned).congr (by simp [hkeep, hanswers, hsame])

/-- After a harmless part the old avatar is another user's exactly if it was before. -/
theorem Effect.oldAvatarOwn_iff (h : Effect deps user site site' harmless) (hharmless : harmless)
    (haccounts : site'.accounts = site.accounts) (keep : Option Text) :
    OldAvatarOwn deps site' answers user keep ↔ OldAvatarOwn deps site answers user keep := by
  unfold OldAvatarOwn Site.oldKey
  simp only [haccounts, h.othersAt_iff hharmless]

theorem careful_avatarFile_iff {file : AvatarFile} {mime : AllowedMime} {buffers : Buffers}
    (hcheck : checkAvatarFile file = .ok mime)
    (hoptimize : optimizeBuffer deps.imaging file.buffer .userAvatar (some mime.text)
      = .ok buffers) :
    Careful deps site (.avatarFile user answers uuid file) ↔
      (Stored answers (fileKey uuid) buffers.webpBuffer "image/webp".toList →
        OldAvatarOwn deps site answers user none) := by
  constructor
  · exact fun hcareful => hcareful mime buffers hcheck hoptimize
  · intro hcareful mime' buffers' hcheck' hoptimize'
    cases hcheck.symm.trans hcheck'
    cases hoptimize.symm.trans hoptimize'
    exact hcareful

theorem avatarFile_effect (h : Inv deps site) (hnew : uuid ∉ site.issued) (file : AvatarFile) :
    Effect deps user site (site.avatarFile deps answers user uuid file).1
      (Careful deps site (.avatarFile user answers uuid file)) := by
  unfold Site.avatarFile
  have hissue : Effect deps user site (site.issue uuid) True :=
    .of_objects_eq (h.issue uuid) rfl
  cases hcheck : checkAvatarFile file with
  | error err => exact (Effect.refl h).congr (by simp [Careful, hcheck])
  | ok mime =>
      dsimp only
      cases hoptimize : optimizeBuffer deps.imaging file.buffer .userAvatar (some mime.text) with
      | error err =>
          refine hissue.congr (iff_of_true trivial fun mime' buffers hcheck' hoptimize' => ?_)
          cases hcheck.symm.trans hcheck'
          cases hoptimize.symm.trans hoptimize'
      | ok buffers =>
          refine Effect.congr ?_ (careful_avatarFile_iff hcheck hoptimize).symm
          dsimp only
          cases hupload : (site.issue uuid).uploadObject deps answers user .brandAssets
              (fileKey uuid) buffers.webpBuffer "image/webp".toList with
          | error err =>
              have hnot := uploadObject_error hupload
              exact hissue.congr (iff_of_true trivial fun hstored => absurd hstored hnot)
          | ok stored =>
              obtain ⟨hstored, haccounts, -, -, hput⟩ := uploadObject_effect hissue.inv
                (.inr (.inl ⟨uuid, List.mem_cons_self, rfl⟩)) hupload
              have hfree : ¬ (site.issue uuid).OthersAt deps user .brandAssets (fileKey uuid) :=
                h.not_othersAt_fileKey hnew rfl
              have hbefore : Effect deps user site stored True :=
                (hissue.trans hput).congr (iff_true_intro ⟨trivial, hfree⟩)
              refine (hbefore.trans (replaceAvatar_effect hput.inv none _)).congr ?_
              rw [true_and, hbefore.oldAvatarOwn_iff trivial haccounts, forall_prop_of_true hstored]

theorem variants_keys {env : Env} {imaging : Imaging} {type : ImageType} {optimized : Variants}
    {contentType : Option Text}
    (h : variants imaging env key body contentType type = .ok (some optimized)) :
    optimized.webpKey = variantKey imaging body key ".webp".toList ∧
      optimized.avifKey = variantKey imaging body key ".avif".toList := by
  unfold variants at h
  simp only [bind, Except.bind] at h
  split at h
  · cases h
  · split at h
    · cases h
    · split at h
      · split at h
        · cases h
        · cases h
          exact ⟨rfl, rfl⟩
      · cases h

/-- **The resized images are stored, and the avatar is replaced.** -/
theorem variants_effect (h : Inv deps site) {original : StoredObject} {optimized : Variants}
    (hget : site.getObject deps answers .brandAssets key = some original)
    (hvariants : variants deps.imaging deps.env key original.body original.contentType .userAvatar
      = .ok (some optimized)) (havatar : "avatars/".toList.isPrefixOf key = true) (hne : key ≠ []) :
    Effect deps user site (site.avatarUpload deps answers user (some key)).1
      (VariantsOwn deps site answers user optimized) := by
  obtain ⟨hwebpKey, havifKey⟩ := variants_keys hvariants
  unfold Site.avatarUpload Site.optimizeImage VariantsOwn
  have hstart : (some key).filter (· ≠ []) = some key := by simp [hne]
  simp only [hstart, havatar, if_true, hget, hvariants]
  cases hwebp : site.uploadObject deps answers user .brandAssets optimized.webpKey
      optimized.buffers.webpBuffer "image/webp".toList with
  | error err =>
      have hnot := uploadObject_error hwebp
      exact (Effect.refl h).congr (iff_of_true trivial fun hstored => absurd hstored hnot)
  | ok webpStored =>
      obtain ⟨hstored, haccounts, -, -, hwebpEffect⟩ := uploadObject_effect h
        (.inr (.inr ⟨original.body, key, _, rfl, by decide, hwebpKey⟩)) hwebp
      dsimp only
      rw [forall_prop_of_true hstored]
      cases havif : webpStored.uploadObject deps answers user .brandAssets optimized.avifKey
          optimized.buffers.avifBuffer "image/avif".toList with
      | error err =>
          have hnot := uploadObject_error havif
          exact hwebpEffect.congr
            (and_iff_left fun hstored' => absurd hstored' hnot).symm
      | ok avifStored =>
          obtain ⟨hstored', haccounts', -, -, havifEffect⟩ := uploadObject_effect hwebpEffect.inv
            (.inr (.inr ⟨original.body, key, _, rfl, by decide, havifKey⟩)) havif
          rw [forall_prop_of_true hstored']
          refine (hwebpEffect.trans (havifEffect.trans
            (replaceAvatar_effect havifEffect.inv _ _))).congr ?_
          refine and_congr_right fun hwebpFree => ?_
          rw [hwebpEffect.othersAt_iff hwebpFree]
          refine and_congr_right fun havifFree => ?_
          have hboth := hwebpEffect.trans (havifEffect.congr
            (not_congr (hwebpEffect.othersAt_iff hwebpFree _ _)))
          exact hboth.oldAvatarOwn_iff ⟨hwebpFree, havifFree⟩ (haccounts'.trans haccounts) _

theorem careful_avatarUpload_iff (user : Uuid) {original : StoredObject}
    {result : Option Variants} (havatar : "avatars/".toList.isPrefixOf key = true)
    (hget : site.getObject deps answers .brandAssets key = some original)
    (hvariants : variants deps.imaging deps.env key original.body original.contentType .userAvatar
      = .ok result) :
    Careful deps site (.avatarUpload user answers (some key)) ↔
      ResultOwn deps site answers user key result := by
  constructor
  · exact fun hcareful => hcareful key rfl havatar original hget result hvariants
  · intro hcareful key' hkey havatar' original' hget' result' hvariants'
    cases hkey
    cases hget.symm.trans hget'
    cases hvariants.symm.trans hvariants'
    exact hcareful

theorem avatarUpload_effect (h : Inv deps site) (key : Option Text) :
    Effect deps user site (site.avatarUpload deps answers user key).1
      (Careful deps site (.avatarUpload user answers key)) := by
  cases key with
  | none => exact (Effect.refl h).congr (by simp [Careful])
  | some key =>
      by_cases havatar : "avatars/".toList.isPrefixOf key = true
      · have hne : key ≠ [] := by
          rintro rfl
          exact absurd havatar (by decide)
        have hstart : (some key).filter (· ≠ []) = some key := by simp [hne]
        cases hget : site.getObject deps answers .brandAssets key with
        | none =>
            unfold Site.avatarUpload Site.optimizeImage
            simp only [hstart, havatar, if_true, hget]
            exact (Effect.refl h).congr (by simp [Careful, hget])
        | some original =>
            cases hvariants : variants deps.imaging deps.env key original.body
                original.contentType .userAvatar with
            | error err =>
                unfold Site.avatarUpload Site.optimizeImage
                simp only [hstart, havatar, if_true, hget, hvariants]
                exact (Effect.refl h).congr (by simp [Careful, hget, hvariants])
            | ok result =>
                have hcareful := careful_avatarUpload_iff user havatar hget hvariants
                refine Effect.congr ?_ hcareful.symm
                cases result with
                | none =>
                    unfold Site.avatarUpload Site.optimizeImage
                    simp only [hstart, havatar, if_true, hget, hvariants]
                    exact replaceAvatar_effect h (some key) _
                | some optimized => exact variants_effect h hget hvariants havatar hne
      · have hrefused : (site.avatarUpload deps answers user (some key)).1 = site := by
          unfold Site.avatarUpload
          split
          · rfl
          next uploadKey hkey =>
            cases (Option.filter_eq_some_iff.mp hkey).1
            rw [if_neg havatar]
        rw [hrefused]
        refine (Effect.refl h).congr (iff_of_true trivial fun key' hkey havatar' => ?_)
        cases hkey
        exact absurd havatar' havatar

/-- **What a request does**: it is harmless exactly if it is careful. -/
theorem apply_effect {request : Request} (h : Inv deps site) (hnew : NewUuid site request) :
    Effect deps request.caller site (site.apply deps request) (Careful deps site request) := by
  cases request with
  | presign caller answers now uuid body => exact presign_effect h (hnew uuid rfl) now body
  | put user key contentType body => exact put_effect h contentType
  | verify caller answers key => exact verify_effect h key
  | abort caller answers now key => exact abort_effect h now key
  | avatarFile caller answers uuid file => exact avatarFile_effect h (hnew uuid rfl) file
  | avatarUpload caller answers key => exact avatarUpload_effect h key

end Effects

/-! ### Every run -/

/-- **In every run that takes new identifiers, no request deletes or replaces another user's
object**, if and only if every request is careful. -/
theorem uploads_isolated_iff (deps : Deps) {site : Site} (hsite : site.Fresh)
    {requests : List Request} (hnew : Along (Site.apply deps) NewUuid site requests) :
    Along (Site.apply deps) (SparesOthers deps) site requests ↔
      Along (Site.apply deps) (Careful deps) site requests := by
  refine along_iff_of_assumed (I := Inv deps) (fun site request h hnew => ?_)
    (fun site request h hnew => ?_) hsite.inv hnew
  · exact (apply_effect h hnew).inv
  · exact (apply_effect h hnew).spares

/-! ### Two users -/

/-- Development, with a Sharp that decodes nothing. -/
def plainDeps : Deps where
  env := ⟨none, none, some "http://localhost:9000".toList, fun
    | .brandAssets => "brand-assets".toList
    | .shareCards => "share-cards".toList⟩
  imaging :=
    { metadata := fun _ => .error "Input buffer contains unsupported image format".toList
      webp := fun _ _ => .error .typeError
      avif := fun _ _ => .error .typeError
      sha256 := fun _ => List.replicate 64 '0'
      length_sha256 := fun _ => List.length_replicate }

def twoAccounts : Site where
  objects _ := none
  pending _ := none
  accounts id := if id = 1 ∨ id = 2 then some ⟨none, false⟩ else none
  presigned _ := none
  issued := []

theorem twoAccounts_fresh : twoAccounts.Fresh :=
  ⟨fun _ => rfl, fun _ => rfl, fun _ _ h => by cases h⟩

def firstUuid : RandomUuid := ⟨"6f9619ff-8b86-4d01-b42d-00cf4fc964ff".toList, by decide⟩

def secondUuid : RandomUuid := ⟨"16fd2706-8baf-433b-82eb-8c7fada847da".toList, by decide⟩

def answered : Answers := fun _ => true

/-- An avatar of so many bytes. -/
def avatarBody (contentLength : Nat) : PresignBody :=
  ⟨some "user-avatar".toList, some "image/png".toList, some contentLength⟩

/-- A user presigns an avatar and uploads it. -/
def uploading (user : Uuid) (uuid : RandomUuid) (contentType : String) (body : Bytes) :
    List Request :=
  [.presign user answered 0 uuid (avatarBody body.length),
    .put user (presignKey .userAvatar uuid) (some contentType.toList) body]

def pngHeader : Bytes := [0x89, 0x50, 0x4e, 0x47, 0x0d, 0x0a, 0x1a, 0x0a]

/-- User 1 verifies the image of user 2, and tries to abort its upload. -/
def inspecting : List Request :=
  uploading 2 firstUuid "image/png" pngHeader ++
    [.verify 1 answered (some (presignKey .userAvatar firstUuid)),
      .abort 1 answered 0 (some (presignKey .userAvatar firstUuid))]

def uploaded : Site := (uploading 2 firstUuid "image/png" pngHeader).foldl
  (Site.apply plainDeps) twoAccounts

theorem uploaded_object : uploaded.objects
    (plainDeps.place (bucketOf (presignKey .userAvatar firstUuid))
      (presignKey .userAvatar firstUuid)) =
    some ⟨some "image/png".toList, pngHeader, some 2⟩ := by decide +kernel

theorem inspecting_spares : Along (Site.apply plainDeps) (SparesOthers plainDeps) twoAccounts
    inspecting := by
  refine (uploads_isolated_iff plainDeps twoAccounts_fresh ?_).mpr ?_
  · exact ⟨by simp [NewUuid, twoAccounts], nofun, nofun, nofun, trivial⟩
  · refine ⟨trivial, trivial, ?_, trivial, trivial⟩
    rintro k ⟨⟩ object hobject - - -
    cases uploaded_object.symm.trans hobject
    decide +kernel

theorem not_sparesOthers {deps : Deps} {site : Site} {request : Request} (place : Place)
    (object : StoredObject) {other : Uuid} (hobject : site.objects place = some object)
    (howner : object.owner = some other) (hne : other ≠ request.caller)
    (hgone : (site.apply deps request).objects place = none) :
    ¬ SparesOthers deps site request := by
  intro h
  have hkept := h place object hobject ⟨other, howner, hne⟩
  rw [hgone] at hkept
  cases hkept

/-- `hi` -/
def noImage : Bytes := [0x68, 0x69]

/-- User 1 verifies a file of user 2 that is no image. -/
def rejecting : List Request :=
  uploading 2 firstUuid "image/png" noImage ++
    [.verify 1 answered (some (presignKey .userAvatar firstUuid))]

/-- User 1 takes such a file as an avatar, and then one of their own. -/
def replacing : List Request :=
  uploading 2 firstUuid "text/plain" noImage ++
    .avatarUpload 1 answered (some (presignKey .userAvatar firstUuid)) ::
      uploading 1 secondUuid "text/plain" noImage ++
        [.avatarUpload 1 answered (some (presignKey .userAvatar secondUuid))]

def firstPlace : Place := plainDeps.place .brandAssets (presignKey .userAvatar firstUuid)

/-- The last request of either run deletes the file of user 2. -/
theorem files_deleted :
    (Along (Site.apply plainDeps) NewUuid twoAccounts rejecting ∧
      ¬ Along (Site.apply plainDeps) (SparesOthers plainDeps) twoAccounts rejecting) ∧
    (Along (Site.apply plainDeps) NewUuid twoAccounts replacing ∧
      ¬ Along (Site.apply plainDeps) (SparesOthers plainDeps) twoAccounts replacing) := by
  refine ⟨⟨⟨by simp [NewUuid, twoAccounts], nofun, nofun, trivial⟩, fun h => ?_⟩,
    ⟨⟨by simp [NewUuid, twoAccounts], nofun, nofun, ?_, nofun, nofun, trivial⟩, fun h => ?_⟩⟩
  · exact not_sparesOthers firstPlace ⟨some "image/png".toList, noImage, some 2⟩
      (by decide +kernel) rfl (by decide) (by decide +kernel) h.2.2.1
  · rintro uuid ⟨⟩
    decide +kernel
  · exact not_sparesOthers firstPlace ⟨some "text/plain".toList, noImage, some 2⟩
      (by decide +kernel) rfl (by decide) (by decide +kernel) h.2.2.2.2.2.1

end BrandBlitz.Storage
