import DirectShare.Json.Record

/-!
# Protocol versions and their offer

Each side supports a range of protocol versions and tells the other about it in an offer. An offer
may leave out the bounds of the range: a missing bound is then the least or greatest of the listed
versions, and the preferred version if none is listed.

A `VersionRange` may be empty. A `VersionOffer` is written as a record, and `VersionOffer.range` is
the range that it tells about.
-/

namespace DirectShare

/-- The versions from `least` to `greatest`; none if the bounds are in the wrong order. -/
structure VersionRange where
  /-- The lower bound. -/
  least : UInt32
  /-- The upper bound. -/
  greatest : UInt32
deriving DecidableEq, Repr

namespace VersionRange

instance : Membership UInt32 VersionRange where
  mem r v := r.least ≤ v ∧ v ≤ r.greatest

instance (v : UInt32) (r : VersionRange) : Decidable (v ∈ r) :=
  inferInstanceAs (Decidable (r.least ≤ v ∧ v ≤ r.greatest))

/-- The versions in both ranges. -/
def inter (r s : VersionRange) : VersionRange :=
  { least := max r.least s.least, greatest := min r.greatest s.greatest }

/-- The versions of a range in increasing order. -/
def toList (r : VersionRange) : List UInt32 :=
  (List.range' r.least.toNat (r.greatest.toNat + 1 - r.least.toNat)).map UInt32.ofNat

/-- The bounds as they stand in a report. -/
def text (r : VersionRange) : String := r.least.toNat.repr ++ "..=" ++ r.greatest.toNat.repr

/-- A version is in the common part of two ranges exactly if it is in both. -/
theorem mem_inter {v : UInt32} {r s : VersionRange} : v ∈ r.inter s ↔ v ∈ r ∧ v ∈ s := by
  simp only [Membership.mem, inter, UInt32.le_iff_toNat_le]
  have hmax : (max r.least s.least).toNat = max r.least.toNat s.least.toNat := by
    simp only [max, UInt32.le_iff_toNat_le]
    split <;> omega
  have hmin : (min r.greatest s.greatest).toNat = min r.greatest.toNat s.greatest.toNat := by
    simp only [min, UInt32.le_iff_toNat_le]
    split <;> omega
  omega

end VersionRange

/-- What one side tells about its versions and its encryption. -/
structure VersionOffer where
  /-- The preferred version of a sender, and the chosen version of a receiver. -/
  version : UInt32
  /-- All supported versions. -/
  versions : List UInt32 := []
  /-- The least supported version. -/
  minVersion : Option UInt32 := none
  /-- The greatest supported version. -/
  maxVersion : Option UInt32 := none
  /-- Whether the side wants encryption. -/
  supportsEncryption : Bool := false
  /-- The public value for key agreement, as Base64 text. -/
  ephemeralPublicValue : Option String := none
  /-- How many downloads may run side by side. -/
  threadLimit : Option UInt32 := none
deriving DecidableEq, Repr

namespace VersionOffer

open Json in
instance : Json.Record VersionOffer where
  fields offer :=
    [("version", ofNat offer.version.toNat),
      ("versions", .array (offer.versions.map (ofNat ·.toNat))),
      ("minVersion", orNull (ofNat ·.toNat) offer.minVersion),
      ("maxVersion", orNull (ofNat ·.toNat) offer.maxVersion),
      ("supportsEncryption", .bool offer.supportsEncryption)]
      ++ ifSome "ephemeralPublicValue" .string offer.ephemeralPublicValue
      ++ ifSome "threadLimit" (ofNat ·.toNat) offer.threadLimit
  ofTree? t :=
    match t.fields? ["version", "versions", "minVersion", "maxVersion", "supportsEncryption",
      "ephemeralPublicValue", "threadLimit"] with
    | some [version, versions, minVersion, maxVersion, supportsEncryption, ephemeralPublicValue,
        threadLimit] => do
      let version ← Field.required Tree.uint32? version
      let versions ← Field.withDefault [] (Tree.list? Tree.uint32?) versions
      let minVersion ← Field.optional Tree.uint32? minVersion
      let maxVersion ← Field.optional Tree.uint32? maxVersion
      let supportsEncryption ← Field.withDefault false Tree.bool? supportsEncryption
      let ephemeralPublicValue ← Field.optional Tree.string? ephemeralPublicValue
      let threadLimit ← Field.optional Tree.uint32? threadLimit
      return { version, versions, minVersion, maxVersion, supportsEncryption, ephemeralPublicValue,
               threadLimit }
    | _ => none

/-- The offer of a version and a range, without encryption. -/
def ofRange (version : UInt32) (range : VersionRange) : VersionOffer :=
  { version, versions := range.toList, minVersion := some range.least,
    maxVersion := some range.greatest }

/-- The range of versions that an offer tells about. -/
def range (offer : VersionOffer) : VersionRange where
  least := (offer.minVersion.or offer.versions.min?).getD offer.version
  greatest := (offer.maxVersion.or offer.versions.max?).getD offer.version

/-- The public value of a side that wants encryption. -/
def publicValue? (offer : VersionOffer) : Option String :=
  if offer.supportsEncryption then offer.ephemeralPublicValue else none

end VersionOffer

end DirectShare
