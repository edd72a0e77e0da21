import Mathlib
import DirectShare.Archive.Entry
import DirectShare.Proofs.Archive.Places

/-!
# Listed files

The directory of an archive lists its files, and each is found where the directory tells. A number that does
not fit into its record is in the further fields behind it, and the reader takes exactly these from there.

The records of the directory are read one by one (`listings_directory`), each with the further fields behind
it. `ofListing?_listing` reads back the size of a file and its place, with a case for each of the numbers that
may not have fitted. From both, `mapM_entry?_listed` gives the entries that the reader makes of a directory,
which are `Stored.entry` of each file.
-/

namespace DirectShare

/-! ### Names in ASCII -/

/-- A text is written character by character. -/
lemma Utf8.encode_ofList (cs : List Char) : encode (String.ofList cs) = cs.flatMap String.utf8EncodeChar := by
  rw [encode, String.toByteArray_ofList, List.utf8Encode, List.toList_data_toByteArray]

namespace CodePage

/-- A character of ASCII is that of its only byte. -/
lemma map_character {c : Char} (h : ∀ b ∈ String.utf8EncodeChar c, b < 0x80) :
    (String.utf8EncodeChar c).map character = [c] := by
  have hsize : UInt8.size = 256 := rfl
  by_cases hc : c.val.toNat ≤ 127
  · rw [String.utf8EncodeChar, if_pos hc] at h ⊢
    have hlt : UInt8.ofNat c.val.toNat < 0x80 := h _ List.mem_cons_self
    have hval : (UInt8.ofNat c.val.toNat).toNat = c.val.toNat := UInt8.toNat_ofNat_of_lt' (by omega)
    rw [List.map_singleton, character, if_pos hlt, hval]
    exact congrArg (fun c => [c]) (Char.ofNat_toNat c)
  · have hlast : UInt8.ofNat (c.val.toNat % 64 + 128) ∈ String.utf8EncodeChar c := by
      rw [String.utf8EncodeChar, if_neg hc]
      split_ifs <;> simp
    have hlt : (UInt8.ofNat (c.val.toNat % 64 + 128)).toNat < 128 := UInt8.lt_iff_toNat_lt.1 (h _ hlast)
    rw [UInt8.toNat_ofNat_of_lt' (by omega)] at hlt
    omega

/-- In the character set of archives a text in ASCII is read as itself. -/
lemma decode_encode {s : String} (h : (Utf8.encode s).all (· < 0x80) = true) : decode (Utf8.encode s) = s := by
  obtain ⟨cs, rfl⟩ : ∃ cs, s = String.ofList cs := ⟨s.toList, String.ofList_toList.symm⟩
  rw [Utf8.encode_ofList, List.all_eq_true] at h
  rw [decode, Utf8.encode_ofList, List.map_flatMap]
  congr 1
  have hone : ∀ c ∈ cs, (String.utf8EncodeChar c).map character = [c] := fun c hc =>
    map_character fun b hb => by simpa using h b (List.mem_flatMap.2 ⟨c, hc, hb⟩)
  rw [List.flatMap_congr hone, List.flatMap_singleton']

end CodePage

namespace Archive

/-- What the reader is to give for a file. -/
def Stored.entry (f : Stored) : Entry :=
  { path := Utf8.repair f.path, content := some { data := f.data, intact := true } }

variable {f : Stored} {fs : List Stored}

/-! ### The directory -/

/-- What the directory tells of a file at an offset. -/
def Stored.listing (f : Stored) (offset : Nat) : Listing :=
  { record := f.directoryRecord offset, path := f.path, further := f.further offset }

/-- What the directory tells of files from an offset on. -/
def listed : (offset : Nat) → List Stored → List Listing
  | _, [] => []
  | offset, f :: fs => f.listing offset :: listed (offset + f.encode.length) fs

/-- A number that fits into two bytes is kept there. -/
lemma toNat_ofNat_of_le {n : Nat} (h : n ≤ wideCount) : (UInt16.ofNat n).toNat = n :=
  UInt16.toNat_ofNat_of_lt' (Nat.lt_of_le_of_lt h (by decide))

/-- A number that fits into four bytes is kept there. -/
lemma toNat_narrow {n : Nat} (h : n ≤ wide) : (narrow n).toNat = n := by
  rw [narrow, min_eq_left h]
  exact UInt32.toNat_ofNat_of_lt' (Nat.lt_of_le_of_lt h (by decide))

/-- Wide numbers take eight bytes each. -/
lemma length_flatMap_number64 (ns : List Nat) :
    (ns.flatMap fun n => number64 (UInt64.ofNat n)).length = 8 * ns.length := by
  rw [List.length_flatMap]
  simp [Nat.mul_comm]

/-- There are three wide numbers at most. -/
lemma length_wideNumbers_le (f : Stored) (offset : Nat) : (f.wideNumbers offset).length ≤ 3 :=
  List.length_filter_le _ _

/-- The further fields of a file fit into their record. -/
lemma length_further_le (f : Stored) (offset : Nat) : (f.further offset).length ≤ wideCount := by
  have hcount := length_wideNumbers_le f offset
  have hwide : wideCount = 65535 := rfl
  rw [Stored.further]
  split_ifs
  · exact Nat.zero_le _
  · simp only [List.length_append, length_number16, length_flatMap_number64, hwide]
    omega

/-- The record of a file in the directory is read back with what follows it. -/
lemma Listing.read_append (hpath : f.path.length ≤ wideCount) (offset : Nat) (rest : Bytes) :
    Listing.read (f.directoryEntry offset ++ rest) = some (f.listing offset, rest) := by
  have hname : f.path.length = (f.directoryRecord offset).nameLength.toNat := (toNat_ofNat_of_le hpath).symm
  have hfields : (f.further offset).length = (f.directoryRecord offset).furtherLength.toNat :=
    (toNat_ofNat_of_le (length_further_le f offset)).symm
  rw [Listing.read, Stored.directoryEntry, List.append_assoc, List.append_assoc,
    Reader.bind_of_eq_some (DirectoryRecord.read_append _ _), Reader.bind_of_eq_some (Reader.take_append hname _),
    Reader.bind_of_eq_some (Reader.take_append hfields _)]
  rfl

/-- The directory of files is read back. -/
theorem listings_directory {fs : List Stored} (hpaths : ∀ f ∈ fs, f.path.length ≤ wideCount) (offset : Nat)
    (rest : Bytes) : listings fs.length (directory offset fs ++ rest) = some (listed offset fs, rest) := by
  induction fs generalizing offset with
  | nil => rfl
  | cons f fs ih =>
    rw [List.forall_mem_cons] at hpaths
    rw [List.length_cons, listings, directory, List.append_assoc,
      Reader.bind_of_eq_some (Listing.read_append hpaths.1 offset _), Reader.bind_of_eq_some (ih hpaths.2 _)]
    rfl

/-! ### The entries -/

/-- What the directory is to tell of a file at an offset. -/
def Stored.extent (f : Stored) (offset : Nat) : Extent where
  path := f.path
  utf8 := f.flags &&& 0x0800 ≠ 0
  size := f.data.length
  packedSize := f.data.length
  offset := offset

/-- The bytes of a number in the further fields: none if it fits into four bytes. -/
def wideBytes (n : Nat) : Bytes := if wide ≤ n then number64 (UInt64.ofNat n) else []

/-- The wide numbers of a file are its size, its size again and its place, each if it does not fit. -/
lemma flatMap_wideNumbers (f : Stored) (offset : Nat) :
    ((f.wideNumbers offset).flatMap fun n => number64 (UInt64.ofNat n)) =
      wideBytes f.data.length ++ (wideBytes f.data.length ++ (wideBytes offset ++ [])) := by
  simp only [Stored.wideNumbers, wideBytes, List.filter_cons, List.filter_nil, decide_eq_true_eq]
  split_ifs <;> simp

/-- A number is taken from the further fields exactly if it is there. -/
lemma widen_narrow {n : Nat} (hn : n < UInt64.size) {length : UInt16} (hall : 24 ≤ length → wide ≤ n)
    (rest : Bytes) : Extent.widen length (narrow n).toNat (wideBytes n ++ rest) = some (n, rest) := by
  by_cases hwide : wide ≤ n
  · have hnarrow : (narrow n).toNat = wide := by
      rw [narrow, min_eq_right hwide]
      rfl
    rw [Extent.widen, wideBytes, if_pos hwide, if_pos (Or.inr hnarrow), Reader.number64_append, Option.map_some]
    exact congrArg (fun n => some (n, rest)) (UInt64.toNat_ofNat_of_lt' hn)
  · have hnarrow : (narrow n).toNat = n := toNat_narrow (not_le.1 hwide).le
    have hkept : ¬(24 ≤ length ∨ n = wide) := by
      rintro (hlong | heq)
      · exact hwide (hall hlong)
      · exact hwide heq.ge
    rw [Extent.widen, hnarrow, wideBytes, if_neg hwide, if_neg hkept]
    rfl

/-- Without further fields, an extent stays as it is. -/
lemma withFields_nil (fuel : Nat) (e : Extent) : Extent.withFields fuel e [] = some e := by
  cases fuel <;> rfl

/-- The numbers are taken from the only further field. -/
lemma withFields_wide {e e' : Extent} {length : UInt16} {bs : Bytes} (h : e.widened length bs = (e', some []))
    (hlength : bs.length = length.toNat) {fuel : Nat} (hfuel : 0 < fuel) :
    Extent.withFields fuel e (number16 wideField ++ (number16 length ++ bs)) = some e' := by
  obtain ⟨fuel, rfl⟩ : ∃ n, fuel = n + 1 := ⟨fuel - 1, by omega⟩
  have hfield : e.field wideField length bs = some (e', some []) := by
    have hrest : bs.drop length.toNat = [] := List.drop_eq_nil_of_le hlength.le
    rw [Extent.field, if_pos rfl, h, hrest]
    exact if_pos hlength.le
  have hhead : (do return (← Reader.number16, ← Reader.number16) : Reader (UInt16 × UInt16))
      (number16 wideField ++ (number16 length ++ bs)) = some ((wideField, length), bs) := by
    rw [Reader.bind_number16, Reader.bind_number16]
    rfl
  rw [Extent.withFields, hhead]
  simp only [hfield, withFields_nil]

/-- The numbers that did not fit into a record are those of its further field. -/
lemma widened_listing {offset : Nat} (hdata : f.data.length < UInt64.size) (hoffset : offset < UInt64.size)
    {length : UInt16} (hlength : length.toNat = 8 * (f.wideNumbers offset).length) :
    (Extent.ofListing (f.listing offset)).widened length
        ((f.wideNumbers offset).flatMap fun n => number64 (UInt64.ofNat n)) =
      (f.extent offset, some []) := by
  -- A field of three numbers is read whole, so it must be there that none of them fits.
  have hall : 24 ≤ length → wide ≤ f.data.length ∧ wide ≤ offset := by
    intro hlong
    have hlong : 24 ≤ length.toNat := UInt16.le_iff_toNat_le.1 hlong
    have hevery : (f.wideNumbers offset).length = [f.data.length, f.data.length, offset].length :=
      le_antisymm (List.length_filter_le _ _) (by rw [List.length_cons, List.length_cons, List.length_singleton]; omega)
    have hwide := List.length_filter_eq_length_iff.1 hevery
    exact ⟨of_decide_eq_true (hwide _ (by simp)), of_decide_eq_true (hwide _ (by simp))⟩
  have hsize : (Extent.ofListing (f.listing offset)).size = (narrow f.data.length).toNat := rfl
  have hpacked : (Extent.ofListing (f.listing offset)).packedSize = (narrow f.data.length).toNat := rfl
  have hplace : (Extent.ofListing (f.listing offset)).offset = (narrow offset).toNat := rfl
  simp only [flatMap_wideNumbers, Extent.widened, hsize, hpacked, hplace, widen_narrow hdata fun h => (hall h).1,
    widen_narrow hoffset fun h => (hall h).2]
  rfl

/-- The directory tells the size of a file and where it is. -/
theorem ofListing?_listing {offset : Nat} (hdata : f.data.length < UInt64.size) (hoffset : offset < UInt64.size) :
    Extent.ofListing? (f.listing offset) = some (f.extent offset) := by
  by_cases hnone : f.wideNumbers offset = []
  · have hfurther : f.further offset = [] := by simp [Stored.further, hnone]
    have hfit : ∀ n ∈ [f.data.length, f.data.length, offset], n ≤ wide := fun n hn =>
      (not_le.1 fun hwide => List.filter_eq_nil_iff.1 hnone n hn (decide_eq_true hwide)).le
    have hdata' := toNat_narrow (hfit f.data.length (by simp))
    have hoffset' := toNat_narrow (hfit offset (by simp))
    rw [Extent.ofListing?, Stored.listing, hfurther, withFields_nil]
    simp only [Extent.ofListing, Stored.directoryRecord, Stored.extent, hdata', hoffset']
    rfl
  · have hlength : (UInt16.ofNat (8 * (f.wideNumbers offset).length)).toNat = 8 * (f.wideNumbers offset).length :=
      UInt16.toNat_ofNat_of_lt' (lt_of_le_of_lt (Nat.mul_le_mul_left 8 (length_wideNumbers_le f offset)) (by decide))
    have hfurther : (f.listing offset).further = number16 wideField ++
        (number16 (UInt16.ofNat (8 * (f.wideNumbers offset).length)) ++
          (f.wideNumbers offset).flatMap fun n => number64 (UInt64.ofNat n)) := by
      simp [Stored.listing, Stored.further, hnone]
    rw [Extent.ofListing?, hfurther]
    refine withFields_wide (widened_listing hdata hoffset hlength) ?_ ?_
    · rw [hlength, length_flatMap_number64]
    · rw [List.length_append, length_number16]
      omega

/-- The path of a file is read back. -/
lemma entryName_path {s : String} (h : f.path = Utf8.encode s) :
    entryName (f.flags &&& 0x0800 ≠ 0) f.path = s := by
  rw [Stored.flags]
  split_ifs with hascii
  · rw [h] at hascii ⊢
    exact CodePage.decode_encode hascii
  · rw [h]
    exact Utf8.repair_encode s

/-- The bytes of a file are unpacked as they are, and intact. -/
lemma unpack_data (f : Stored) (offset : Nat) :
    unpack (f.directoryRecord offset) f.data = some { data := f.data, intact := true } := by
  have hflags : f.flags &&& 1 = 0 := by
    rw [Stored.flags]
    split_ifs <;> rfl
  simp [unpack, Stored.directoryRecord, hflags]

/-- A file takes the width of its record, its path and its bytes. -/
lemma length_encode_stored (f : Stored) :
    f.encode.length = FileRecord.width + f.path.length + f.data.length := by
  rw [Stored.encode, List.length_append, List.length_append, FileRecord.length_encode, Nat.add_assoc]

/-- The file that is listed is the entry. -/
lemma entry?_listing (front back : Bytes) {place : DirectoryPlace} (hpath : f.path.length ≤ wideCount)
    {s : String} (hs : f.path = Utf8.encode s) (hdata : f.data.length < UInt64.size)
    (hoffset : front.length < UInt64.size)
    (hshift : place.shift = 0) (hstart : front.length + f.encode.length ≤ place.start) :
    Listing.entry? (f.listing front.length) (front ++ (f.encode ++ back)) place = some f.entry := by
  have hread : readAt (front ++ (f.encode ++ back)) front.length FileRecord.read = some f.fileRecord := by
    rw [Stored.encode, List.append_assoc]
    exact readAt_append (FileRecord.read_append _ _)
  have hname : f.fileRecord.nameLength.toNat = f.path.length := toNat_ofNat_of_le hpath
  have hmethod : (f.listing front.length).record.method ≠ keyedMethod :=
    fun h => absurd h (by decide : (0 : UInt16) ≠ 99)
  have hplace : front.length + FileRecord.width + f.path.length ≤ place.start := by
    rw [length_encode_stored] at hstart
    omega
  -- The bytes of the file stand behind its record and path.
  have hbytes : ((front ++ (f.encode ++ back)).drop (front.length + FileRecord.width + f.path.length)).take
      f.data.length = f.data := by
    have hsplit : front ++ (f.encode ++ back) = (front ++ (f.fileRecord.encode ++ f.path)) ++ (f.data ++ back) := by
      simp only [Stored.encode, List.append_assoc]
    have hlength : (front ++ (f.fileRecord.encode ++ f.path)).length =
        front.length + FileRecord.width + f.path.length := by
      rw [List.length_append, List.length_append, FileRecord.length_encode, Nat.add_assoc]
    rw [hsplit, List.drop_left' hlength, List.take_left]
  have hfurther : f.fileRecord.furtherLength.toNat = 0 := rfl
  rw [Listing.entry?, ofListing?_listing hdata hoffset]
  simp only [Stored.extent, Option.bind_eq_bind, Option.bind_some, hshift, Nat.zero_add, hread, hname, hfurther,
    Nat.add_zero]
  rw [guard, if_pos hmethod, guard, if_pos hplace, hbytes]
  have hentry : f.entry = { path := s, content := some { data := f.data, intact := true } } := by
    rw [Stored.entry, hs, Utf8.repair_encode]
  rw [entryName_path hs, Stored.listing, unpack_data, hentry]
  rfl

/-- The files that are listed are the entries. -/
theorem mapM_entry?_listed {place : DirectoryPlace} (hshift : place.shift = 0) (hfits : place.start < UInt64.size)
    (fs : List Stored) (front back : Bytes) (hfiles : ∀ f ∈ fs, f.path.length ≤ wideCount ∧ ∃ s, f.path = Utf8.encode s)
    (hstart : front.length + (fileSection fs).length = place.start) :
    (listed front.length fs).mapM (fun l => l.entry? (front ++ (fileSection fs ++ back)) place) =
      some (fs.map Stored.entry) := by
  -- What was passed goes to the front, so that the next record is behind it.
  induction fs generalizing front with
  | nil => rfl
  | cons f fs ih =>
    rw [List.forall_mem_cons] at hfiles
    obtain ⟨⟨hpath, s, hs⟩, hrest⟩ := hfiles
    have hsection : fileSection (f :: fs) = f.encode ++ fileSection fs := rfl
    rw [hsection, List.length_append] at hstart
    have hlength := length_encode_stored f
    have hwidth : FileRecord.width = 30 := rfl
    have hentry := entry?_listing front (fileSection fs ++ back) hpath hs (by omega) (by omega) hshift (by omega)
    have hentries := ih (front ++ f.encode) hrest (by rw [List.length_append]; omega)
    rw [List.length_append, List.append_assoc] at hentries
    rw [listed, List.mapM_cons, hsection, List.append_assoc, hentry]
    simp only [Option.bind_eq_bind, Option.bind_some, hentries]
    rfl

/-- Entries with different paths are kept in order. -/
lemma foldl_insertEntry (es done : List Entry) (h : ((done ++ es).map Entry.path).Nodup) :
    es.foldl insertEntry done = done ++ es := by
  induction es generalizing done with
  | nil => simp
  | cons e es ih =>
    rw [List.map_append, List.map_cons, List.nodup_append'] at h
    have hnew : done.any (·.path = e.path) = false := by
      rw [List.any_eq_false]
      intro e' he' heq
      exact h.2.2 (List.mem_map_of_mem he') (by rw [of_decide_eq_true heq]; exact List.mem_cons_self)
    rw [List.foldl_cons, insertEntry, hnew, if_neg Bool.false_ne_true, ih, List.append_assoc, List.singleton_append]
    rw [List.map_append, List.map_append, List.append_assoc, List.nodup_append']
    exact h

end Archive

end DirectShare
