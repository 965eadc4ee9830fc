import OwneX.Platform.Mediation
import OwneX.Platform.MetadataRoutes

set_option autoImplicit false

/-! # `app/api/assets/image`

One photograph of an asset, into a bucket that everybody can read, with `lib/asset-image.ts`. Any
number of uploads. What is in the bucket is an image, uploaded for somebody who may mint in the
organization that the path names, and it stays as it is. -/

namespace OwneX

open Js JsNumber Prog Interleaving Service KeyedList

/-! ## `lib/asset-image.ts` -/

def ASSET_IMAGE_MAX_BYTES : Nat := 5 * 1024 * 1024

def assetImageTypes : List (String × String) :=
  [("image/png", "png"), ("image/jpeg", "jpg"), ("image/webp", "webp")]

/-- The methods that an object literal inherits. -/
def inheritedMethods : List String :=
  ["hasOwnProperty", "isPrototypeOf", "propertyIsEnumerable", "toLocaleString", "toString",
    "valueOf", "__defineGetter__", "__defineSetter__", "__lookupGetter__", "__lookupSetter__"]

def nativeCode (name : String) : String :=
  "function " ++ name ++ "() \x7b [native code] \x7d"

/-- `assetImageTypes[type]` as a text. What the literal inherits is there, too. -/
def imageExtension (type : String) : Option String :=
  ((assetImageTypes.find? fun entry => entry.1 == type).map (·.2)).or
    (if type = "constructor" then some (nativeCode "Object")
    else if type = "__proto__" then some "[object Object]"
    else if inheritedMethods.contains type then some (nativeCode type)
    else none)

/-- `value in assetImageTypes` -/
def isAssetImageType (type : String) : Bool :=
  (imageExtension type).isSome

def pngSignature : List UInt8 := [0x89, 0x50, 0x4e, 0x47, 0x0d, 0x0a, 0x1a, 0x0a]

def jpegSignature : List UInt8 := [0xff, 0xd8, 0xff]

/-- `RIFF....WEBP` -/
def isWebp (bytes : List UInt8) : Bool :=
  decide (12 ≤ bytes.length) && bytes.take 4 == [0x52, 0x49, 0x46, 0x46] &&
    (bytes.drop 8).take 4 == [0x57, 0x45, 0x42, 0x50]

def hasAssetImageSignature (type : String) (bytes : List UInt8) : Bool :=
  if type = "image/png" then pngSignature.isPrefixOf bytes
  else if type = "image/jpeg" then jpegSignature.isPrefixOf bytes
  else isWebp bytes

/-! ## `POST /api/assets/image` -/

structure ImageFile where
  type : String
  bytes : List UInt8

/-- A form. An organization that is not sent as a text is `none`, and so is an image that is no
    file. -/
structure ImageForm where
  orgId : Option Text
  image : Option ImageFile

structure ImageObject where
  path : String
  bytes : List UInt8
  contentType : String
deriving DecidableEq

inductive ImageOp where
  | server (op : ServerOp)
  | randomUUID
  /-- `upload(path, bytes, { contentType, upsert: false })` -/
  | upload (object : ImageObject)

abbrev ImageOp.Res : ImageOp → Type
  | server op => op.Res
  | randomUUID => String
  | upload _ => Except String Unit

abbrev ImageRoute (α : Type) := ExceptT ApiError (Prog ImageOp ImageOp.Res) α

/-- What needs nothing of the bucket. -/
def besideBucket {α : Type} (p : Route α) : ImageRoute α :=
  ExceptT.mk (p.run.embed ImageOp.server fun _ r => r)

structure ImageReply where
  url : String
  path : String
  contentType : String
  size : Nat
deriving DecidableEq

/-- `/bucket not found/i` -/
def bucketNotFound (message : String) : Bool :=
  (lowerAscii message.toList).tails.any fun rest => "bucket not found".toList.isPrefixOf rest

def uploadFailed (message : String) : ApiError :=
  if bucketNotFound message then
    ⟨500, "Asset image storage is not configured; create the asset-images bucket first", none⟩
  else ⟨500, "Could not upload the image", none⟩

def checkImage (image : ImageFile) : ImageRoute Unit := do
  refuseIf (!isAssetImageType image.type)
    (.badRequest "Only PNG, JPEG, and WebP images are allowed")
  refuseIf (decide (image.bytes.length = 0)) (.badRequest "The image file is empty")
  refuseIf (decide (ASSET_IMAGE_MAX_BYTES < image.bytes.length))
    (.badRequest "Image files must be 5 MB or smaller")
  refuseIf (!hasAssetImageSignature image.type image.bytes)
    (.badRequest "The file contents do not match the declared image type")

/-- `n`, rounded to so many significant digits. -/
def roundedTo (n digits : Nat) : Nat :=
  let unit := 10 ^ ((Nat.toDigits 10 n).length - digits)
  divRoundEven n unit * unit

/-- The number with the fewest significant digits that has `n` as its nearest double. -/
def shortestFor (n : Nat) : Nat :=
  (((List.range' 1 17).map (roundedTo n)).find? fun v => Literal.equals ⟨false, v, 1⟩ n).getD n

/-- `String(n)` of a double that is a natural number. From `1e21` on it has an exponent. -/
def numberText (n : Nat) : String :=
  let v := shortestFor n
  if v < 10 ^ 21 then v.repr
  else
    let digits := Nat.toDigits 10 v
    let fraction := (digits.drop 1).rdropWhile (· == '0')
    String.ofList (digits.take 1 ++ (if fraction = [] then [] else '.' :: fraction)) ++
      "e+" ++ (digits.length - 1).repr

example : [7, 2 ^ 60, 10 ^ 21, 2 ^ 70].map numberText =
    ["7", "1152921504606847000", "1e+21", "1.1805916207174113e+21"] := by decide +kernel

/-- The original filename is not used: it may contain private information. -/
def imagePath (orgId : Nat) (id type : String) : String :=
  numberText orgId ++ "/" ++ id ++ "." ++ (imageExtension type).getD "undefined"

/-- `POST /api/assets/image`. A body that is no form is `none`. -/
def uploadImage (publicUrl : String → String) (session : SessionData) (form : Option ImageForm) :
    ImageRoute ImageReply := do
  let form ← require form (.badRequest "Image upload must use multipart form data")
  let orgId ← require (form.orgId.bind positiveInt) validationFailed
  let _ ← besideBucket (authorize session orgId .mintAssets)
  let image ← require form.image (.badRequest "Choose an image file to upload")
  checkImage image
  let id : String ← ask ImageOp.randomUUID
  let path := imagePath orgId id image.type
  attempt (call (ImageOp.upload ⟨path, image.bytes, image.type⟩)) uploadFailed
  return { url := publicUrl path, path, contentType := image.type, size := image.bytes.length }

/-! ## The bucket -/

/-- A bucket has one object at a path. -/
structure Bucket where
  objects : List ImageObject
  pathKey : (objects.map (·.path)).Nodup

def Bucket.upload (bucket : Bucket) (object : ImageObject) : Except String Unit × Bucket :=
  if htaken : object.path ∈ bucket.objects.map (·.path) then
    (.error "The resource already exists", bucket)
  else
    (.ok (),
      { objects := bucket.objects ++ [object]
        pathKey := by
          have hnodup := nodup_insertNew bucket.pathKey object
          rwa [insertNew, if_neg htaken] at hnodup })

structure ImageState (σ : Type) where
  server : ServerState σ
  bucket : Bucket

namespace ImageState

variable {σ : Type} [ERC721 σ]

/-- What an operation results in and what it makes of the state. An upload that fails may have been
    performed nevertheless, its result being lost. -/
def exec (rt : ServerRuntime) (s : ImageState σ) :
    (op : ImageOp) → op.Res → ImageState σ → Prop
  | .server op, r, s' => s.server.exec rt op r s'.server ∧ s'.bucket = s.bucket
  | .randomUUID, r, s' => isUuid r.toList = true ∧ s' = s
  | .upload object, r, s' =>
      (r, s') = ((s.bucket.upload object).1, { s with bucket := (s.bucket.upload object).2 }) ∨
        ∃ message, r = .error message ∧
          (s' = s ∨ s' = { s with bucket := (s.bucket.upload object).2 })

/-- The chain and the other tables change, and time passes. -/
def outside (s s' : ImageState σ) : Prop :=
  s.server.clock.1 ≤ s'.server.clock.1 ∧ s'.bucket = s.bucket

/-- What an operation results in and what it makes of the state when nothing else goes on and
    nothing fails. `id` is what is drawn. -/
def answer (rt : ServerRuntime) (id : String) (s : ImageState σ) :
    (op : ImageOp) → op.Res × ImageState σ
  | .server op => (s.server.outcome rt op, { s with server := s.server.effect op })
  | .randomUUID => (id, s)
  | .upload object => ((s.bucket.upload object).1, { s with bucket := (s.bucket.upload object).2 })

end ImageState

structure ImageRequest where
  session : SessionData
  form : Option ImageForm

/-- Any number of uploads. -/
def imageServer (σ : Type) [ERC721 σ] (rt : ServerRuntime) (publicUrl : String → String) :
    Service where
  State := ImageState σ
  Op := ImageOp
  Res := ImageOp.Res
  Req := ImageRequest
  Ans := fun _ => Except ApiError ImageReply
  exec := ImageState.exec rt
  env := ImageState.outside
  admits := fun _ _ => True
  handler := fun req => (uploadImage publicUrl req.session req.form).run

/-! ## What an upload has checked -/

def ImageOp.KeepsBucket : ImageOp → Prop
  | upload _ => False
  | _ => True

/-- An image of one of the three kinds. Only a PNG and a JPEG are held to their declared type. -/
structure ImageFile.Genuine (image : ImageFile) : Prop where
  notEmpty : image.bytes ≠ []
  notLarge : image.bytes.length ≤ ASSET_IMAGE_MAX_BYTES
  png : image.type = "image/png" → pngSignature <+: image.bytes
  jpeg : image.type = "image/jpeg" → jpegSignature <+: image.bytes
  other : image.type ≠ "image/png" → image.type ≠ "image/jpeg" → isWebp image.bytes = true

section Checks

variable {log : List ((op : ImageOp) × op.Res)}

theorem genuine_of_signature {image : ImageFile} (hnotEmpty : image.bytes.length ≠ 0)
    (hnotLarge : image.bytes.length ≤ ASSET_IMAGE_MAX_BYTES)
    (hsignature : hasAssetImageSignature image.type image.bytes = true) : image.Genuine := by
  unfold hasAssetImageSignature at hsignature
  refine ⟨fun hempty => hnotEmpty (by simp [hempty]), hnotLarge, fun hpng => ?_, fun hjpeg => ?_,
    fun hpng hjpeg => ?_⟩
  · rw [if_pos hpng] at hsignature
    exact List.isPrefixOf_iff_prefix.1 hsignature
  · rw [if_neg (by simp [hjpeg]), if_pos hjpeg] at hsignature
    exact List.isPrefixOf_iff_prefix.1 hsignature
  · rwa [if_neg hpng, if_neg hjpeg] at hsignature

theorem genuine_of_checkImage {image : ImageFile}
    (h : Returns (checkImage image).run log (.ok ())) : image.Genuine := by
  obtain ⟨-, hempty⟩ := returns_refuseIf_bind.1 h
  obtain ⟨hnotEmpty, hlarge⟩ := returns_refuseIf_bind.1 hempty
  obtain ⟨hnotLarge, hsignature⟩ := returns_refuseIf_bind.1 hlarge
  refine genuine_of_signature (by simpa using hnotEmpty) (by simpa using hnotLarge) ?_
  cases hsigned : hasAssetImageSignature image.type image.bytes with
  | true => rfl
  | false =>
      rw [hsigned] at hsignature
      obtain ⟨-, herror⟩ := returns_throw.1 hsignature
      cases herror

theorem keepsBucket_besideBucket {α : Type} (p : Route α) :
    Only ImageOp.KeepsBucket (besideBucket p).run :=
  only_embed (only_true p.run) fun _ _ => trivial

theorem keepsBucket_checkImage (image : ImageFile) :
    Only ImageOp.KeepsBucket (checkImage image).run :=
  only_exceptT_bind (only_refuseIf _ _) fun _ => only_exceptT_bind (only_refuseIf _ _) fun _ =>
    only_exceptT_bind (only_refuseIf _ _) fun _ => only_refuseIf _ _

/-- Whoever uploads an object has been authorized for the organization of its path. -/
theorem authorized_of_upload {publicUrl : String → String} {session : SessionData}
    {form : Option ImageForm} {object : ImageObject}
    (h : Reaches (uploadImage publicUrl session form).run log (.upload object)) :
    ∃ submitted image orgId caller id guard, form = some submitted ∧
      submitted.orgId.bind positiveInt = some orgId ∧ submitted.image = some image ∧
      guard ⊆ log ∧ ⟨.randomUUID, id⟩ ∈ log ∧
      Returns (besideBucket (authorize session orgId .mintAssets)).run guard (.ok caller) ∧
      image.Genuine ∧ object = ⟨imagePath orgId id image.type, image.bytes, image.type⟩ := by
  have hop : ¬ ImageOp.KeepsBucket (.upload object) := id
  obtain ⟨submitted, hform, hparsing⟩ := reaches_require_bind.1 h
  obtain ⟨orgId, horgId, hguarding⟩ := reaches_require_bind.1 hparsing
  obtain ⟨caller, guard, back, hlog, hcaller, hchoosing⟩ :=
    hguarding.second (keepsBucket_besideBucket _) hop
  obtain ⟨image, himage, hchecking⟩ := reaches_require_bind.1 hchoosing
  obtain ⟨checked, front, rest, hback, hcheck, hdrawing⟩ :=
    hchecking.second (keepsBucket_checkImage image) hop
  rcases reaches_ask_bind.1 hdrawing with ⟨-, hdraw⟩ | ⟨id, last, hrest, hsaving⟩
  · cases hdraw
  · have hupload := hsaving.first (P := ImageOp.KeepsBucket) (fun _ => only_exceptT_pure _) hop
    obtain ⟨-, heq⟩ := reaches_call.1 (reaches_attempt.1 hupload)
    refine ⟨submitted, image, orgId, caller, id, guard, hform, horgId, himage, ?_, ?_, hcaller,
      genuine_of_checkImage hcheck, ImageOp.upload.inj heq⟩
    · rw [hlog]
      exact List.subset_append_left ..
    · rw [hlog, hback, hrest]
      simp

/-- Whoever is answered has uploaded the object that the answer names. -/
theorem uploaded_of_answer {publicUrl : String → String} {session : SessionData}
    {form : Option ImageForm} {reply : ImageReply}
    (h : Returns (uploadImage publicUrl session form).run log (.ok reply)) :
    ∃ object, ⟨.upload object, .ok ()⟩ ∈ log ∧ object.path = reply.path ∧
      object.contentType = reply.contentType ∧ object.bytes.length = reply.size ∧
      reply.url = publicUrl object.path := by
  obtain ⟨submitted, -, hparsing⟩ := returns_require_bind.1 h
  obtain ⟨orgId, -, hguarding⟩ := returns_require_bind.1 hparsing
  obtain ⟨caller, guard, back, rfl, -, hchoosing⟩ := returns_exceptT_bind.1 hguarding
  obtain ⟨image, -, hchecking⟩ := returns_require_bind.1 hchoosing
  obtain ⟨checked, front, rest, rfl, -, hdrawing⟩ := returns_exceptT_bind.1 hchecking
  obtain ⟨id, last, rfl, hsaving⟩ := returns_ask_bind.1 hdrawing
  obtain ⟨saved, upload, done, rfl, hupload, hpure⟩ := returns_attempt_bind.1 hsaving
  obtain rfl := returns_call.1 hupload
  obtain ⟨-, rfl⟩ := returns_exceptT_pure.1 hpure
  refine ⟨⟨imagePath orgId id image.type, image.bytes, image.type⟩, ?_, rfl, rfl, rfl, rfl⟩
  simp

end Checks

/-! ## Runs -/

namespace ImageState

variable {σ : Type} [ERC721 σ] {rt : ServerRuntime} {s s' : ImageState σ}

/-- An upload is performed, or the path is taken and nothing changes. -/
theorem upload_cases (bucket : Bucket) (object : ImageObject) :
    (∃ message, bucket.upload object = (.error message, bucket)) ∨
      (bucket.upload object).1 = .ok () ∧
        (bucket.upload object).2.objects = bucket.objects ++ [object] := by
  unfold Bucket.upload
  split
  · exact .inl ⟨_, rfl⟩
  · exact .inr ⟨rfl, rfl⟩

theorem mem_upload {bucket : Bucket} {object other : ImageObject}
    (h : other ∈ (bucket.upload object).2.objects) : other ∈ bucket.objects ∨ other = object := by
  rcases upload_cases bucket object with ⟨message, heq⟩ | ⟨-, heq⟩
  · rw [heq] at h
    exact .inl h
  · rw [heq, List.mem_append, List.mem_singleton] at h
    exact h

theorem subset_upload (bucket : Bucket) (object : ImageObject) :
    bucket.objects ⊆ (bucket.upload object).2.objects := by
  rcases upload_cases bucket object with ⟨message, heq⟩ | ⟨-, heq⟩
  · rw [heq]
    exact List.Subset.refl _
  · rw [heq]
    exact List.subset_append_left ..

theorem mem_of_uploaded {bucket : Bucket} {object : ImageObject}
    (h : (bucket.upload object).1 = .ok ()) : object ∈ (bucket.upload object).2.objects := by
  rcases upload_cases bucket object with ⟨message, heq⟩ | ⟨-, heq⟩
  · rw [heq] at h
    cases h
  · rw [heq]
    simp

/-- The bucket changes by uploads only. -/
theorem exec_bucket {op : ImageOp} {r : op.Res} (h : s.exec rt op r s') :
    s'.bucket = s.bucket ∨ ∃ object, op = .upload object ∧
      s'.bucket = (s.bucket.upload object).2 := by
  cases op with
  | server op => exact .inl h.2
  | randomUUID => exact .inl (congrArg ImageState.bucket h.2)
  | upload object =>
      rcases h with heq | ⟨message, -, rfl | rfl⟩
      · exact .inr ⟨object, rfl, congrArg ImageState.bucket (Prod.mk.inj heq).2⟩
      · exact .inl rfl
      · exact .inr ⟨object, rfl, rfl⟩

/-- Alone, the server does what it may do among others. -/
theorem exec_answer {id : String} (hid : isUuid id.toList = true) (s : ImageState σ)
    (op : ImageOp) : s.exec rt op (s.answer rt id op).1 (s.answer rt id op).2 := by
  cases op with
  | server op => exact ⟨s.server.exec_outcome rt op, rfl⟩
  | randomUUID => exact ⟨hid, rfl⟩
  | upload object => exact .inl rfl

end ImageState

section Runs

variable {σ : Type} [ERC721 σ] {rt : ServerRuntime} {publicUrl : String → String}
  {s : ImageState σ} {ts : List (imageServer σ rt publicUrl).Transition}
  {c c' : (imageServer σ rt publicUrl).Config}

/-- What was asked of the server, of all that was asked. -/
def imageMoments (seen : List (ImageOp × ImageState σ)) : Moments σ :=
  seen.filterMap fun moment =>
    match moment.1 with
    | .server op => some (op, moment.2.server)
    | _ => none

/-- The object is an image that a request sent, under the organization that it named and a name of
    its own, for a wallet that was seen to hold `MINT_ASSETS` there. -/
def UploadedBy (seen : List (ImageOp × ImageState σ)) (req : ImageRequest) (object : ImageObject) :
    Prop :=
  ∃ form image orgId id wallet, req.form = some form ∧ form.orgId.bind positiveInt = some orgId ∧
    form.image = some image ∧ image.Genuine ∧ isUuid id.toList = true ∧
    object = ⟨imagePath orgId id image.type, image.bytes, image.type⟩ ∧
    SeenPermitted (imageMoments seen) req.session wallet orgId PERM_MINT_ASSETS

theorem uploaded_of_perform {pre post : List (imageServer σ rt publicUrl).Transition}
    {t : (imageServer σ rt publicUrl).Transition}
    (h : (imageServer σ rt publicUrl).Run s (pre ++ t :: post) c) {i : Nat} {object : ImageObject}
    {r : (ImageOp.upload object).Res} (hmove : t.move = .perform i (.upload object) r) :
    ∃ req, t.Acts i req ∧ UploadedBy (moments i pre) req object := by
  have hbefore := h.split_at.1
  obtain ⟨req, hserves, hreaches⟩ := h.awaited hmove
  obtain ⟨form, image, orgId, caller, id, guard, hform, horgId, himage, hguard, hid, hcaller,
    hgenuine, hobject⟩ := authorized_of_upload hreaches
  obtain ⟨inner, hinner, hdone⟩ := log_of_embed hcaller
  have hwitnesses : Witnesses rt (imageMoments (moments i pre)) inner :=
    witnesses_of_within hbefore ImageOp.server ImageState.server (fun hexec => hexec.1)
      (fun hmoment => List.mem_filterMap.2 ⟨_, hmoment, rfl⟩) hdone hguard
  obtain ⟨now, next, -, hdrawn⟩ := Run.executed hbefore hid
  exact ⟨req, ⟨hserves, .upload object, r, hmove⟩, form, image, orgId, id, caller.wallet, hform,
    horgId, himage, hgenuine, hdrawn.1, hobject, hwitnesses.permitted hinner⟩

theorem bucket_step {t : (imageServer σ rt publicUrl).Transition} (h : t.Valid) :
    ImageState.bucket t.after.shared = ImageState.bucket t.before.shared ∨
      ∃ i object r, t.move = .perform i (.upload object) r ∧
        ImageState.bucket t.after.shared =
          (Bucket.upload (ImageState.bucket t.before.shared) object).2 := by
  rcases Transition.Valid.shared h with heq | ⟨i, op, r, hmove, hexec⟩ | henv
  · exact .inl (congrArg ImageState.bucket heq)
  · rcases ImageState.exec_bucket hexec with hsame | ⟨object, rfl, hupload⟩
    · exact .inl hsame
    · exact .inr ⟨i, object, r, hmove, hupload⟩
  · exact .inl henv.2

/-- Nothing is ever taken out of the bucket, and nothing in it is overwritten. -/
theorem bucket_subset (h : (imageServer σ rt publicUrl).system.Path c ts c') :
    Bucket.objects (ImageState.bucket c.shared) ⊆ Bucket.objects (ImageState.bucket c'.shared) := by
  refine h.rel (R := fun c c' : (imageServer σ rt publicUrl).Config =>
    Bucket.objects (ImageState.bucket c.shared) ⊆ Bucket.objects (ImageState.bucket c'.shared))
    (fun _ => List.Subset.refl _) (fun hab hbc => List.Subset.trans hab hbc) fun t ht => ?_
  change Bucket.objects (ImageState.bucket t.before.shared) ⊆
    Bucket.objects (ImageState.bucket t.after.shared)
  rcases bucket_step (h.valid t ht) with hsame | ⟨i, object, r, -, hupload⟩
  · rw [hsame]
    exact List.Subset.refl _
  · rw [hupload]
    exact ImageState.subset_upload _ object

/-- An object that was not there at the start has been uploaded. -/
theorem uploaded_of_mem (h : (imageServer σ rt publicUrl).Run s ts c) {object : ImageObject}
    (hobject : object ∈ Bucket.objects (ImageState.bucket c.shared)) :
    object ∈ s.bucket.objects ∨ ∃ t ∈ ts, ∃ i r, t.move = .perform i (.upload object) r := by
  refine h.origin (I := fun c object => object ∈ Bucket.objects (ImageState.bucket c.shared))
    (B := fun t object => ∃ i r, t.move = .perform i (.upload object) r) ?_ hobject
  intro t hvalid object hobject
  rcases bucket_step hvalid with hsame | ⟨i, new, r, hmove, hupload⟩
  · exact .inl (hsame ▸ hobject)
  · rcases ImageState.mem_upload (hupload ▸ hobject) with hold | rfl
    · exact .inl hold
    · exact .inr ⟨i, r, hmove⟩

/-- What a request was told is uploaded stays in the bucket. -/
theorem mem_of_logged (h : (imageServer σ rt publicUrl).Run s ts c) {i : Nat}
    {object : ImageObject}
    (hupload : (⟨.upload object, .ok ()⟩ : (op : ImageOp) × op.Res) ∈ ownLog i ts) :
    object ∈ Bucket.objects (ImageState.bucket c.shared) := by
  obtain ⟨t, ht, hmove⟩ := mem_ownLog.1 hupload
  obtain ⟨pre, post, rfl⟩ := List.append_of_mem ht
  obtain ⟨-, hvalid, hafter⟩ := h.split_at
  obtain ⟨-, -, -, -, hexec, -⟩ := Transition.Valid.perform hvalid hmove
  refine bucket_subset hafter ?_
  rcases hexec with heq | ⟨message, herror, -⟩
  · obtain ⟨hresult, hstate⟩ := Prod.mk.inj heq
    change object ∈ Bucket.objects (ImageState.bucket t.after.shared)
    rw [hstate]
    exact ImageState.mem_of_uploaded hresult.symm
  · cases herror

/-- In every interleaving, the bucket holds images only, each uploaded for somebody who may mint in
    the organization of its path. What is in it stays, and what is answered for is in it. -/
theorem images_mediated (h : (imageServer σ rt publicUrl).Run s ts c) :
    s.bucket.objects ⊆ Bucket.objects (ImageState.bucket c.shared) ∧
    (∀ object ∈ Bucket.objects (ImageState.bucket c.shared), object ∈ s.bucket.objects ∨
      ∃ pre t post i req, ts = pre ++ t :: post ∧ t.Acts i req ∧
        UploadedBy (moments i pre) req object) ∧
    ∀ i req reply, c.Answers i req (.ok reply) →
      ∃ object ∈ Bucket.objects (ImageState.bucket c.shared), object.path = reply.path ∧
        object.contentType = reply.contentType ∧ object.bytes.length = reply.size ∧
        reply.url = publicUrl object.path := by
  refine ⟨bucket_subset h, fun object hobject => ?_, fun i req reply hanswers => ?_⟩
  · rcases uploaded_of_mem h hobject with hstart | ⟨t, ht, i, r, hmove⟩
    · exact .inl hstart
    · obtain ⟨pre, post, rfl⟩ := List.append_of_mem ht
      obtain ⟨req, hacts, huploaded⟩ := uploaded_of_perform h hmove
      exact .inr ⟨pre, t, post, i, req, rfl, hacts, huploaded⟩
  · obtain ⟨object, hupload, hpath, htype, hsize, hurl⟩ :=
      uploaded_of_answer (Run.returns h hanswers)
    exact ⟨object, mem_of_logged h hupload, hpath, htype, hsize, hurl⟩

end Runs

/-! ## Scripted runs -/

/-- Nothing fails, and `id` is drawn. The chain and the clock change as the cue says. -/
def imagePlayer (σ : Type) [ERC721 σ] (rt : ServerRuntime) (publicUrl : String → String)
    {id : String} (hid : isUuid id.toList = true) : (imageServer σ rt publicUrl).Player where
  Choice := Unit
  Event := Chain σ × TimeValue
  perform := fun (s : ImageState σ) op _ => some (s.answer rt id op)
  outside := fun (s : ImageState σ) event =>
    ((serverPlayer σ rt).outside s.server event).map fun server => { s with server }
  admits := fun _ _ => true
  perform_sound := by
    intro s op choice r s' h
    obtain ⟨rfl, rfl⟩ := Prod.mk.inj (Option.some.inj h)
    exact ImageState.exec_answer hid s op
  outside_sound := by
    intro s event s' h
    obtain ⟨server, hserver, rfl⟩ := Option.map_eq_some_iff.1 h
    exact ⟨((serverPlayer σ rt).outside_sound hserver).1, rfl⟩
  admits_sound := fun _ => trivial

/-! ## Alice uploads a photograph -/

namespace Sample

def publicUrl (path : String) : String :=
  "https://storage.example/asset-images/" ++ path

abbrev imageService : Service := imageServer Ledger portalRuntime publicUrl

def photographId : String := "4f9c2d1e-0000-4000-8000-0000000000ab"

theorem isUuid_photographId : isUuid photographId.toList = true := by
  decide +kernel

abbrev imageScript : imageService.Player :=
  imagePlayer Ledger portalRuntime publicUrl isUuid_photographId

def imageStart : ImageState Ledger :=
  ⟨portalStart, ⟨[], List.nodup_nil⟩⟩

def photograph : ImageRequest where
  session := aliceSession
  form := some ⟨some "1".toList, some ⟨"image/png", pngSignature⟩⟩

def imageCues : List imageScript.Cue :=
  .arrive photograph :: List.replicate 6 (.perform 0 ())

def keptPaths (c : imageService.Config) : List String :=
  (Bucket.objects (ImageState.bucket c.shared)).map (·.path)

theorem photograph_mediated :
    ∃ (ts : List imageService.Transition) (c : imageService.Config),
      imageService.Run imageStart ts c ∧
      keptPaths c = ["1/4f9c2d1e-0000-4000-8000-0000000000ab.png"] ∧
      ∀ object ∈ Bucket.objects (ImageState.bucket c.shared),
        ∃ (pre : List imageService.Transition) (t : imageService.Transition)
          (post : List imageService.Transition) (i : Nat) (req : ImageRequest),
          ts = pre ++ t :: post ∧ t.Acts i req ∧ UploadedBy (moments i pre) req object := by
  have hplay : (imageScript.play (idle imageStart) imageCues).map
      (fun run : List imageService.Transition × imageService.Config => keptPaths run.2) =
      some ["1/4f9c2d1e-0000-4000-8000-0000000000ab.png"] := by
    decide +kernel
  obtain ⟨⟨ts, c⟩, hrun, hpaths⟩ := Option.map_eq_some_iff.1 hplay
  refine ⟨ts, c, Player.play_path hrun, hpaths, fun object hobject => ?_⟩
  rcases (images_mediated (Player.play_path hrun)).2.1 object hobject with hstart | huploaded
  · cases hstart
  · exact huploaded

end Sample

end OwneX
