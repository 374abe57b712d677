/-
# Image inputs

`ImageInput.valid_image` runs before the fields are validated. It compares the length of the
text with a bound before it decodes it, and the number of bytes with the limit afterwards. The
first test costs little and is no stricter than the second: the bound is the length of the
longest text that a strict decoder reads as `limit` bytes.
-/

import LLMRouting.Config.ProviderConfigs
import LLMRouting.Data.Base64

namespace LLMRouting

open LLMRouting.Data

variable {μ : Type}

/-- The bytes of an ASCII literal. -/
def ascii (text : String) : List UInt8 := text.toList.map fun c => UInt8.ofNat c.toNat

/-- `decoded[start:stop]` -/
def slice (decoded : List UInt8) (start stop : ℕ) : List UInt8 :=
  (decoded.take stop).drop start

/-- `b"\x89PNG\r\n\x1a\n"` -/
def pngSignature : List UInt8 := [0x89, 0x50, 0x4E, 0x47, 0x0D, 0x0A, 0x1A, 0x0A]

/-- `{b"VP8 ", b"VP8L", b"VP8X"}` -/
def webpChunks : List (List UInt8) := [ascii "VP8 ", ascii "VP8L", ascii "VP8X"]

/-- The test of the decoded bytes against the declared type. -/
def signatureMatches (mediaType : String) (decoded : List UInt8) : Bool :=
  mediaType == "image/png" && pngSignature.isPrefixOf decoded &&
      decide (33 ≤ decoded.length) && slice decoded 12 16 == ascii "IHDR" ||
    mediaType == "image/jpeg" && [0xFF, 0xD8, 0xFF].isPrefixOf decoded &&
      [0xFF, 0xD9].isSuffixOf decoded ||
    mediaType == "image/webp" && decide (20 ≤ decoded.length) &&
      slice decoded 0 4 == ascii "RIFF" && slice decoded 8 12 == ascii "WEBP" &&
      decide (slice decoded 12 16 ∈ webpChunks)

/-- What pydantic reports: the error of the validator, or the fields that are wrong. -/
inductive ImageError
  | valueError (message : String)
  | fields (names : List String)
  deriving DecidableEq, Repr

def exceedsLimit : ImageError := .valueError "image exceeds the configured size limit"

def invalidBase64 : ImageError := .valueError "must contain valid base64"

def mislabelled : ImageError := .valueError "image content does not match its media type"

/-- `b64decode(encoded, validate=True)`. A character outside ASCII is no base64 either. -/
def b64decode (canonical : Bool) (encoded : String) : Option (List UInt8) :=
  Base64.decode canonical encoded.toList

namespace ImageInput

/-- The length of the text that is too long to be decoded. -/
def encodedLimit (limit : ℕ) : ℕ := 4 * ((limit + 2) / 3)

/-- The same for what was given as the type, which need be no text. -/
def mediaMatches (mediaType : Option (PyValue μ)) (decoded : List UInt8) : Bool :=
  (mediaType.bind PyValue.text?).any fun text => signatureMatches text decoded

/-- `valid_image` of a text, given the limit of the settings. -/
def checkImage (canonical : Bool) (limit : ℕ) (mediaType : Option (PyValue μ))
    (encoded : String) : Except ImageError Unit :=
  if encodedLimit limit < encoded.length then .error exceedsLimit
  else match b64decode canonical encoded with
    | none => .error invalidBase64
    | some decoded =>
        if limit < decoded.length then .error exceedsLimit
        else if mediaMatches mediaType decoded then .ok ()
        else .error mislabelled

/-- The validator hands on what it is given; what is no mapping with a text is left to the
fields. -/
def validImage (canonical : Bool) (limit : ℕ) (value : PyValue μ) :
    Except ImageError (PyValue μ) :=
  match value with
  | .object members =>
      match PyValue.get? "data_base64" members with
      | some (.string encoded) => do
          checkImage canonical limit (PyValue.get? "media_type" members) encoded
          return value
      | _ => .ok value
  | _ => .ok value

/-- `Literal["image/jpeg", "image/png", "image/webp"]` -/
def mediaTypes : List String := ["image/jpeg", "image/png", "image/webp"]

def readMediaType (members : List (String × PyValue μ)) : Option String :=
  Schema.required members "media_type"
    (Schema.named fun text => if text ∈ mediaTypes then some text else none)

def readDataBase64 (members : List (String × PyValue μ)) : Option String :=
  Schema.required members "data_base64"
    (Schema.constrained (fun text => decide (text ≠ "")) PyValue.text?)

/-- The fields of a mapping; every one that is wrong is reported. -/
def readFields (members : List (String × PyValue μ)) : Except ImageError ImageInput :=
  match readMediaType members, readDataBase64 members with
  | some mediaType, some dataBase64 => .ok { mediaType := mediaType, dataBase64 := dataBase64 }
  | none, some _ => .error (.fields ["media_type"])
  | some _, none => .error (.fields ["data_base64"])
  | none, none => .error (.fields ["media_type", "data_base64"])

/-- `ImageInput.model_validate`. -/
def modelValidate (canonical : Bool) (limit : ℕ) (value : PyValue μ) :
    Except ImageError ImageInput := do
  match ← validImage canonical limit value with
  | .object members => readFields members
  | _ => .error (.fields [])

end ImageInput

/-- What the bytes of an image of each type look like. -/
inductive CarriesSignature : String → List UInt8 → Prop
  | png {size rest : List UInt8} (hsize : size.length = 4) (hrest : 17 ≤ rest.length) :
      CarriesSignature "image/png" (pngSignature ++ (size ++ (ascii "IHDR" ++ rest)))
  | jpeg {bytes : List UInt8} (starts : [0xFF, 0xD8, 0xFF] <+: bytes)
      (ends : [0xFF, 0xD9] <:+ bytes) : CarriesSignature "image/jpeg" bytes
  | webp {size chunk rest : List UInt8} (hsize : size.length = 4) (hchunk : chunk ∈ webpChunks)
      (hrest : 4 ≤ rest.length) :
      CarriesSignature "image/webp" (ascii "RIFF" ++ (size ++ (ascii "WEBP" ++ (chunk ++ rest))))

theorem slice_append_left (before bytes : List UInt8) (start stop : ℕ) :
    slice (before ++ bytes) (before.length + start) (before.length + stop) =
      slice bytes start stop := by
  rw [slice, slice, List.take_length_add_append, List.drop_length_add_append]

/-- A slice that is not cut short is a stretch of the bytes. -/
theorem slice_eq_iff {bytes part : List UInt8} {start : ℕ} (hpart : 0 < part.length) :
    slice bytes start (start + part.length) = part ↔
      ∃ before rest, before.length = start ∧ bytes = before ++ (part ++ rest) := by
  constructor
  · intro h
    have hlength : (slice bytes start (start + part.length)).length = part.length := by rw [h]
    rw [slice, List.length_drop, List.length_take] at hlength
    refine ⟨(bytes.take (start + part.length)).take start, bytes.drop (start + part.length), ?_, ?_⟩
    · rw [List.length_take, List.length_take]
      omega
    · calc bytes = bytes.take (start + part.length) ++ bytes.drop (start + part.length) :=
            (List.take_append_drop _ bytes).symm
        _ = (bytes.take (start + part.length)).take start ++
              slice bytes start (start + part.length) ++ bytes.drop (start + part.length) := by
            rw [slice, List.take_append_drop start, List.take_append_drop]
        _ = (bytes.take (start + part.length)).take start ++
              (part ++ bytes.drop (start + part.length)) := by
            rw [h, List.append_assoc]
  · rintro ⟨before, rest, rfl, rfl⟩
    calc slice (before ++ (part ++ rest)) before.length (before.length + part.length)
        = slice (part ++ rest) 0 part.length :=
          slice_append_left before (part ++ rest) 0 part.length
      _ = part := by rw [slice, List.take_left, List.drop_zero]

theorem length_of_mem_webpChunks {chunk : List UInt8} (h : chunk ∈ webpChunks) :
    chunk.length = 4 := by
  revert chunk
  decide

/-- The stretch of the bytes from a place on. -/
theorem slice_of_append {before part rest : List UInt8} {start : ℕ} (hpart : 0 < part.length)
    (hstart : before.length = start) :
    slice (before ++ (part ++ rest)) start (start + part.length) = part :=
  (slice_eq_iff hpart).mpr ⟨before, rest, hstart, rfl⟩

/-- A chunk of four bytes that starts at the twelfth place follows the header, its size and the
name of the format. -/
theorem exists_chunk {magic name tail : List UInt8} (hmagic : magic.length = 4)
    (hname : name.length = 4) (hslice : slice (magic ++ tail) 8 12 = name) :
    ∃ size body, size.length = 4 ∧ tail = size ++ (name ++ body) ∧
      ∀ stop, slice (magic ++ tail) 12 (12 + stop) = slice body 0 stop := by
  have hsliced : slice tail 4 (4 + name.length) = name := by
    have hmoved := slice_append_left magic tail 4 8
    rw [hmagic] at hmoved
    rw [hname]
    exact hmoved.symm.trans hslice
  obtain ⟨size, body, hsize, rfl⟩ := (slice_eq_iff (by omega)).mp hsliced
  refine ⟨size, body, hsize, rfl, fun stop => ?_⟩
  have hheader : (magic ++ size ++ name).length = 12 := by
    simp only [List.length_append]
    omega
  have hmoved := slice_append_left (magic ++ size ++ name) body 0 stop
  rwa [hheader, List.append_assoc, List.append_assoc] at hmoved

theorem carriesSignature_png {decoded : List UInt8} (hmagic : pngSignature <+: decoded)
    (hlength : 33 ≤ decoded.length) (hheader : slice decoded 12 16 = ascii "IHDR") :
    CarriesSignature "image/png" decoded := by
  have hihdr : (ascii "IHDR").length = 4 := by decide
  have hsignature : pngSignature.length = 8 := rfl
  obtain ⟨tail, rfl⟩ := hmagic
  have hsliced : slice tail 4 8 = ascii "IHDR" :=
    (slice_append_left pngSignature tail 4 8).symm.trans hheader
  obtain ⟨size, rest, hsize, rfl⟩ := (slice_eq_iff (by rw [hihdr]; decide)).mp hsliced
  have hrest : 17 ≤ rest.length := by
    simp only [List.length_append] at hlength
    omega
  exact .png hsize hrest

theorem carriesSignature_webp {decoded : List UInt8} (hlength : 20 ≤ decoded.length)
    (hcontainer : slice decoded 0 4 = ascii "RIFF") (hformat : slice decoded 8 12 = ascii "WEBP")
    (hchunk : slice decoded 12 16 ∈ webpChunks) : CarriesSignature "image/webp" decoded := by
  have hriff : (ascii "RIFF").length = 4 := by decide
  have hwebp : (ascii "WEBP").length = 4 := by decide
  obtain ⟨before, tail, hbefore, rfl⟩ := (slice_eq_iff (by rw [hriff]; decide)).mp hcontainer
  cases List.length_eq_zero_iff.mp hbefore
  rw [List.nil_append] at hlength hformat hchunk ⊢
  obtain ⟨size, body, hsize, rfl, hbody⟩ := exists_chunk hriff hwebp hformat
  have hkind : slice body 0 4 ∈ webpChunks := hbody 4 ▸ hchunk
  have hfour := length_of_mem_webpChunks hkind
  obtain ⟨first, rest, hfirst, hrest⟩ :=
    (@slice_eq_iff body (slice body 0 4) 0 (by omega)).mp (by rw [hfour])
  cases List.length_eq_zero_iff.mp hfirst
  rw [hrest] at hlength ⊢
  rw [List.nil_append]
  refine .webp hsize hkind ?_
  simp only [List.length_append, List.length_nil] at hlength
  omega

/-- The signature of the declared type passes the test. -/
theorem matches_of_carriesSignature {mediaType : String} {decoded : List UInt8}
    (h : CarriesSignature mediaType decoded) : signatureMatches mediaType decoded = true := by
  have hmagic : pngSignature.length = 8 := rfl
  have hihdr : (ascii "IHDR").length = 4 := by decide
  simp only [signatureMatches, Bool.or_eq_true, Bool.and_eq_true, beq_iff_eq,
    List.isPrefixOf_iff_prefix, List.isSuffixOf_iff_suffix, decide_eq_true_eq]
  cases h with
  | @png size rest hsize hrest =>
      refine .inl (.inl ⟨⟨⟨rfl, List.prefix_append _ _⟩, ?_⟩, ?_⟩)
      · simp only [List.length_append]
        omega
      · have hplace : (pngSignature ++ size).length = 12 := by
          rw [List.length_append, hmagic, hsize]
        have hslice := @slice_of_append (pngSignature ++ size) (ascii "IHDR") rest 12
          (by decide) hplace
        rwa [List.append_assoc] at hslice
  | jpeg starts ends => exact .inl (.inr ⟨⟨rfl, starts⟩, ends⟩)
  | @webp size chunk rest hsize hchunk hrest =>
      have hriff : (ascii "RIFF").length = 4 := by decide
      have hwebp : (ascii "WEBP").length = 4 := by decide
      have hfour := length_of_mem_webpChunks hchunk
      refine .inr ⟨⟨⟨⟨rfl, ?_⟩, ?_⟩, ?_⟩, ?_⟩
      · simp only [List.length_append]
        omega
      · exact @slice_of_append [] (ascii "RIFF") _ 0 (by omega) rfl
      · have hplace : (ascii "RIFF" ++ size).length = 8 := by
          rw [List.length_append, hriff, hsize]
        have hslice := @slice_of_append (ascii "RIFF" ++ size) (ascii "WEBP") (chunk ++ rest) 8
          (by omega) hplace
        rwa [List.append_assoc] at hslice
      · have hplace : (ascii "RIFF" ++ size ++ ascii "WEBP").length = 12 := by
          simp only [List.length_append]
          omega
        have hslice := @slice_of_append (ascii "RIFF" ++ size ++ ascii "WEBP") chunk rest 12
          (by omega) hplace
        rw [List.append_assoc, List.append_assoc, hfour] at hslice
        rwa [hslice]

/-- The test is for the signature of the declared type. -/
theorem signatureMatches_iff {mediaType : String} {decoded : List UInt8} :
    signatureMatches mediaType decoded = true ↔ CarriesSignature mediaType decoded := by
  refine ⟨fun h => ?_, matches_of_carriesSignature⟩
  simp only [signatureMatches, Bool.or_eq_true, Bool.and_eq_true, beq_iff_eq,
    List.isPrefixOf_iff_prefix, List.isSuffixOf_iff_suffix, decide_eq_true_eq] at h
  obtain (⟨⟨⟨rfl, hmagic⟩, hlength⟩, hheader⟩ | ⟨⟨rfl, hstarts⟩, hends⟩) |
    ⟨⟨⟨⟨rfl, hlength⟩, hcontainer⟩, hformat⟩, hchunk⟩ := h
  · exact carriesSignature_png hmagic hlength hheader
  · exact .jpeg hstarts hends
  · exact carriesSignature_webp hlength hcontainer hformat hchunk

namespace ImageInput

variable {canonical : Bool} {limit : ℕ} {mediaType encoded : String} {decoded : List UInt8}

/-- An image within the limit passes the test of the encoded length, and that of one byte more
than a whole number of groups fails it. -/
theorem length_le_encodedLimit_iff (h : b64decode canonical encoded = some decoded) :
    encoded.length ≤ encodedLimit limit ↔ (decoded.length + 2) / 3 ≤ (limit + 2) / 3 := by
  have hlength := Base64.length_of_decode h
  rw [String.length_toList] at hlength
  rw [hlength, encodedLimit]
  exact Nat.mul_le_mul_left_iff (by decide)

theorem length_le_encodedLimit (h : b64decode canonical encoded = some decoded)
    (hlimit : decoded.length ≤ limit) : encoded.length ≤ encodedLimit limit :=
  (length_le_encodedLimit_iff h).mpr (by omega)

/-- What the checks make of a text that decodes. -/
theorem checkImage_of_decodes (media : Option (PyValue μ))
    (h : b64decode canonical encoded = some decoded) :
    checkImage canonical limit media encoded =
      if limit < decoded.length then .error exceedsLimit
      else if mediaMatches media decoded then .ok () else .error mislabelled := by
  rw [checkImage]
  by_cases hlimit : limit < decoded.length
  · rw [if_pos hlimit]
    by_cases hencoded : encodedLimit limit < encoded.length
    · rw [if_pos hencoded]
    · rw [if_neg hencoded, h]
      exact if_pos hlimit
  · have hencoded := length_le_encodedLimit h (Nat.not_lt.mp hlimit)
    rw [if_neg (Nat.not_lt.mpr hencoded), h]

/-- The checks pass for an image within the limit with the declared signature, only. -/
theorem checkImage_eq_ok_iff :
    checkImage canonical limit (some (.string mediaType : PyValue μ)) encoded = .ok () ↔
      ∃ decoded, b64decode canonical encoded = some decoded ∧ decoded.length ≤ limit ∧
        CarriesSignature mediaType decoded := by
  constructor
  · intro h
    cases hdecode : b64decode canonical encoded with
    | none =>
        rw [checkImage, hdecode] at h
        split at h
        · cases h
        · cases h
    | some decoded =>
        rw [checkImage_of_decodes _ hdecode] at h
        split at h
        · cases h
        · rename_i hlimit
          split at h
          · rename_i hmatches
            exact ⟨decoded, rfl, Nat.not_lt.mp hlimit, signatureMatches_iff.mp hmatches⟩
          · cases h
  · rintro ⟨decoded, hdecode, hlimit, hsignature⟩
    have hmatches : mediaMatches (some (.string mediaType : PyValue μ)) decoded = true :=
      signatureMatches_iff.mpr hsignature
    rw [checkImage_of_decodes _ hdecode, if_neg (Nat.not_lt.mpr hlimit), if_pos hmatches]

/-- The two arguments of `ImageInput(media_type=..., data_base64=...)`. -/
def arguments (mediaType dataBase64 : String) : PyValue μ :=
  .object [("media_type", .string mediaType), ("data_base64", .string dataBase64)]

theorem mem_mediaTypes_of_carriesSignature (h : CarriesSignature mediaType decoded) :
    mediaType ∈ mediaTypes := by
  cases h with
  | png => decide
  | jpeg => decide
  | webp => decide

theorem ne_nil_of_carriesSignature (h : CarriesSignature mediaType decoded) : decoded ≠ [] := by
  cases h with
  | png => simp [pngSignature]
  | jpeg starts ends =>
      rintro rfl
      exact absurd starts.length_le (by decide)
  | webp => simp [ascii]

theorem validImage_arguments :
    validImage canonical limit (arguments mediaType encoded : PyValue μ) =
      (checkImage canonical limit (some (.string mediaType : PyValue μ)) encoded).map fun _ =>
        arguments mediaType encoded := by
  have hmedia : PyValue.get? "media_type" [("media_type", (.string mediaType : PyValue μ)),
      ("data_base64", .string encoded)] = some (.string mediaType) := by
    simp [PyValue.get?]
  have hdata : PyValue.get? "data_base64" [("media_type", (.string mediaType : PyValue μ)),
      ("data_base64", .string encoded)] = some (.string encoded) := by
    simp [PyValue.get?]
  rw [arguments, validImage, hdata, hmedia]
  dsimp only
  cases checkImage canonical limit (some (.string mediaType : PyValue μ)) encoded with
  | error => rfl
  | ok => rfl

/-- The fields accept what the checks have accepted. -/
theorem modelValidate_arguments :
    modelValidate canonical limit (arguments mediaType encoded : PyValue μ) =
      (checkImage canonical limit (some (.string mediaType : PyValue μ)) encoded).map fun _ =>
        { mediaType := mediaType, dataBase64 := encoded } := by
  rw [modelValidate, validImage_arguments]
  cases hcheck : checkImage canonical limit (some (.string mediaType : PyValue μ)) encoded with
  | error => rfl
  | ok =>
      obtain ⟨decoded, hdecode, -, hsignature⟩ := checkImage_eq_ok_iff.mp hcheck
      have hmedia : readMediaType [("media_type", (.string mediaType : PyValue μ)),
          ("data_base64", .string encoded)] = some mediaType := by
        simp [readMediaType, Schema.required, Schema.named, PyValue.get?, PyValue.text?,
          mem_mediaTypes_of_carriesSignature hsignature]
      have hencoded : encoded ≠ "" := by
        rintro rfl
        cases hdecode
        exact ne_nil_of_carriesSignature hsignature rfl
      have hdata : readDataBase64 [("media_type", (.string mediaType : PyValue μ)),
          ("data_base64", .string encoded)] = some encoded := by
        simp [readDataBase64, Schema.required, Schema.constrained, PyValue.get?, PyValue.text?,
          hencoded]
      show readFields _ = _
      rw [readFields, hmedia, hdata]
      rfl

/-- The cheap size check agrees with the real one. The canonical decoder takes the encoded
texts, the other one also those whose last group has unused bits set. -/
theorem modelValidate_accepts_iff (canonical : Bool) (limit : ℕ) (mediaType dataBase64 : String) :
    ((∃ image, modelValidate canonical limit (arguments mediaType dataBase64 : PyValue μ) =
          .ok image) ↔
        ∃ decoded, b64decode canonical dataBase64 = some decoded ∧ decoded.length ≤ limit ∧
          CarriesSignature mediaType decoded) ∧
      (∀ decoded, b64decode canonical dataBase64 = some decoded →
        (decoded.length ≤ limit → dataBase64.length ≤ encodedLimit limit) ∧
        (limit < decoded.length →
          modelValidate canonical limit (arguments mediaType dataBase64 : PyValue μ) =
            .error exceedsLimit)) ∧
      ∀ decoded, b64decode true dataBase64 = some decoded ↔
        Base64.encode decoded = dataBase64.toList := by
  refine ⟨?_, ?_, ?_⟩
  · rw [modelValidate_arguments, ← @checkImage_eq_ok_iff μ]
    cases checkImage canonical limit (some (.string mediaType : PyValue μ)) dataBase64 with
    | error =>
        constructor
        · rintro ⟨image, h⟩
          cases h
        · intro h
          cases h
    | ok => exact ⟨fun _ => rfl, fun _ => ⟨_, rfl⟩⟩
  · intro decoded hdecode
    refine ⟨length_le_encodedLimit hdecode, ?_⟩
    intro hlimit
    rw [modelValidate_arguments, checkImage_of_decodes _ hdecode, if_pos hlimit]
    rfl
  · intro decoded
    exact Base64.decode_canonical_iff

end ImageInput

end LLMRouting
