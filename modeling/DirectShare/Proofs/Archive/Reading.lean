import Mathlib
import DirectShare.Proofs.Archive.Listed

/-!
# Reading archives that were built

An archive that was built is read back, file by file. The last end record is the only one that is long enough,
so nothing in the files can be taken for it. Where its numbers do not fit, the wide records before it lead to
the directory. The only doubt is at the edge, where the greatest number that fits looks like one that does not:
then the end of the directory must not look like a locator of wide records.

`IsRegular` says that nothing before the end record is taken for a locator. For such an archive
`directoryPlace?_encode` goes from the end record to the directory, by way of the wide records if there are
any, and `readsBack_of_isRegular` reads the directory from there. `ReadsBack` is what comes of it: the entries
are the files that the archive was built from.
-/

namespace DirectShare.Archive

/-- The entries of an archive are, in order, the files that it was built from. -/
def ReadsBack (fs : List Stored) : Prop := entries? (encode fs) = some (fs.map Stored.entry)

variable {f : Stored} {fs : List Stored}

/-! ### What stands before the end record -/

/-- The end record of an archive. -/
def endRecord (fs : List Stored) : EndRecord :=
  { disk := 0, directoryDisk := 0, countHere := UInt16.ofNat (min fs.length wideCount)
    count := UInt16.ofNat (min fs.length wideCount), directorySize := narrow (directory 0 fs).length
    directoryOffset := narrow (fileSection fs).length, commentLength := 0 }

/-- A number of the archive does not fit into the end record. -/
def IsWide (fs : List Stored) : Prop :=
  wideCount < fs.length ∨ wide < (fileSection fs).length ∨ wide < (directory 0 fs).length

instance (fs : List Stored) : Decidable (IsWide fs) := inferInstanceAs (Decidable (_ ∨ _))

/-- The wide form of the end record. -/
def wideEndRecord (fs : List Stored) : WideEndRecord :=
  { length := UInt64.ofNat (WideEndRecord.width - 12), writer := Stored.version, version := Stored.version
    disk := 0, directoryDisk := 0, countHere := UInt64.ofNat fs.length, count := UInt64.ofNat fs.length
    directorySize := UInt64.ofNat (directory 0 fs).length, directoryOffset := UInt64.ofNat (fileSection fs).length }

/-- The locator of the wide form. -/
def wideLocator (fs : List Stored) : WideLocator :=
  { directoryDisk := 0, endOffset := UInt64.ofNat ((fileSection fs).length + (directory 0 fs).length), disks := 1 }

/-- The wide records of an archive, if it has them. -/
def wideRecords (fs : List Stored) : Bytes :=
  if IsWide fs then (wideEndRecord fs).encode ++ (wideLocator fs).encode else []

/-- What comes before the end record. -/
def beforeEnd (fs : List Stored) : Bytes := fileSection fs ++ (directory 0 fs ++ wideRecords fs)

/-- The reader looks for a locator: a number of the end record may stand for a greater one. -/
def SeeksLocator (fs : List Stored) : Prop := wideCount ≤ fs.length ∨ wide ≤ (fileSection fs).length

instance (fs : List Stored) : Decidable (SeeksLocator fs) := inferInstanceAs (Decidable (_ ∨ _))

/-- The numbers of an archive fit into the wide records, and nothing is taken for a locator that is none. -/
structure IsRegular (fs : List Stored) : Prop where
  length_lt : (encode fs).length < UInt64.size
  no_locator : SeeksLocator fs → ¬IsWide fs →
    ¬WideLocator.signature <+: (beforeEnd fs).drop ((beforeEnd fs).length - WideLocator.width)

/-- An archive ends with its end record. -/
lemma encode_eq (fs : List Stored) : encode fs = beforeEnd fs ++ (endRecord fs).encode := by
  simp only [encode, ending, beforeEnd, List.append_assoc]
  rfl

/-- An archive has its files, its directory, the wide records and the end record, in this order. -/
lemma encode_eq_directory (fs : List Stored) :
    encode fs = fileSection fs ++ (directory 0 fs ++ (wideRecords fs ++ (endRecord fs).encode)) := by
  simp only [encode_eq, beforeEnd, List.append_assoc]

/-- A directory that is not empty starts with the signature of a record. -/
lemma prefix_directory (offset : Nat) (f : Stored) (fs : List Stored) (rest : Bytes) :
    DirectoryRecord.signature <+: directory offset (f :: fs) ++ rest := by
  rw [directory, Stored.directoryEntry, DirectoryRecord.encode]
  simp only [List.append_assoc]
  exact List.prefix_append _ _

/-- Each file takes at least the fixed width of its record in the directory. -/
lemma mul_width_le_length_directory (offset : Nat) (fs : List Stored) :
    fs.length * DirectoryRecord.width ≤ (directory offset fs).length := by
  induction fs generalizing offset with
  | nil => exact (Nat.zero_mul _).le
  | cons f fs ih =>
    have hrest := ih (offset + f.encode.length)
    rw [List.length_cons, directory, List.length_append, Stored.directoryEntry, List.length_append,
      DirectoryRecord.length_encode, Nat.succ_mul]
    omega

/-! ### The narrow records -/

/-- Where the end record tells the directory to be, if its numbers fit. -/
lemma narrowPlace?_encode (hcount : fs.length ≤ wideCount) (hoffset : (fileSection fs).length ≤ wide) :
    narrowPlace? (encode fs) (beforeEnd fs).length (endRecord fs) =
      some { shift := 0, offset := (fileSection fs).length, count := fs.length } := by
  have hcount : (endRecord fs).countHere.toNat = fs.length := by
    rw [endRecord, min_eq_left hcount]
    exact toNat_ofNat_of_le hcount
  have hoffset : (endRecord fs).directoryOffset.toNat = (fileSection fs).length := toNat_narrow hoffset
  cases fs with
  | nil => rfl
  | cons f fs =>
    have hne : (endRecord (f :: fs)).count ≠ 0 := by
      intro hzero
      have hzero : (endRecord (f :: fs)).countHere.toNat = 0 := congrArg UInt16.toNat hzero
      rw [hcount] at hzero
      cases hzero
    have hlt : (fileSection (f :: fs)).length < (beforeEnd (f :: fs)).length := by
      have hdirectory := mul_width_le_length_directory 0 (f :: fs)
      have hwidth : DirectoryRecord.width = 46 := rfl
      rw [List.length_cons, hwidth] at hdirectory
      rw [beforeEnd, List.length_append, List.length_append]
      omega
    -- The first record of the directory stands where the directory is told to be, so nothing is before the archive.
    have hfound : (occurrencesWithin DirectoryRecord.signature (encode (f :: fs)) (fileSection (f :: fs)).length
        (beforeEnd (f :: fs)).length).head? = some (fileSection (f :: fs)).length := by
      refine head?_occurrencesWithin ?_ ?_ hlt
      · rw [encode_eq, List.length_append]
        omega
      · rw [encode_eq_directory, List.drop_left, List.isPrefixOf_iff_prefix]
        exact prefix_directory 0 f fs _
    have hdisk : (endRecord (f :: fs)).disk = (endRecord (f :: fs)).directoryDisk := rfl
    simp only [narrowPlace?, hoffset, hcount, if_neg hne, hfound, Option.bind_eq_bind, Option.bind_some]
    rw [guard, if_pos (Or.inr hlt), guard, if_pos hdisk, Nat.sub_self]
    rfl

/-! ### The wide records -/

/-- Where the wide form of the end record is. -/
def widePlace (fs : List Stored) : Nat := (fileSection fs).length + (directory 0 fs).length

/-- An archive that needs them has the wide end record and the locator before its end record. -/
lemma encode_eq_wide (h : IsWide fs) :
    encode fs = (fileSection fs ++ directory 0 fs) ++
      ((wideEndRecord fs).encode ++ ((wideLocator fs).encode ++ (endRecord fs).encode)) := by
  simp only [encode_eq_directory, wideRecords, if_pos h, List.append_assoc]

/-- In an archive that needs them, the wide records end where the end record begins. -/
lemma length_beforeEnd (h : IsWide fs) :
    (beforeEnd fs).length = widePlace fs + WideEndRecord.width + WideLocator.width := by
  simp only [beforeEnd, wideRecords, if_pos h, List.length_append, WideEndRecord.length_encode,
    WideLocator.length_encode, widePlace]
  omega

/-- The wide records stand inside the archive. -/
lemma widePlace_lt (fs : List Stored) : widePlace fs < (encode fs).length := by
  have hwidth : EndRecord.width = 22 := rfl
  rw [encode_eq_directory, List.length_append, List.length_append, List.length_append, EndRecord.length_encode,
    widePlace]
  omega

/-- The numbers in the wide records are kept there. -/
lemma toNat_wide (hlength : (encode fs).length < UInt64.size) :
    (wideLocator fs).endOffset.toNat = widePlace fs ∧ (wideEndRecord fs).count.toNat = fs.length ∧
      (wideEndRecord fs).directoryOffset.toNat = (fileSection fs).length := by
  have hlast := (widePlace_lt fs).trans hlength
  have hplace : widePlace fs = (fileSection fs).length + (directory 0 fs).length := rfl
  have hdirectory := mul_width_le_length_directory 0 fs
  have hwidth : DirectoryRecord.width = 46 := rfl
  rw [hwidth] at hdirectory
  exact ⟨UInt64.toNat_ofNat_of_lt' hlast, UInt64.toNat_ofNat_of_lt' (by omega), UInt64.toNat_ofNat_of_lt' (by omega)⟩

/-- The wide form of the end record is found in its place. -/
lemma wideEnd?_encode (h : IsWide fs) (hlength : (encode fs).length < UInt64.size) :
    wideEnd? (encode fs) (widePlace fs + WideEndRecord.width) (wideLocator fs) =
      some (widePlace fs, wideEndRecord fs) := by
  obtain ⟨hoffset, hcount, hstart⟩ := toNat_wide hlength
  have hplace : (fileSection fs ++ directory 0 fs).length = widePlace fs := List.length_append
  have hfound : (occurrencesWithin WideEndRecord.signature (encode fs) (widePlace fs)
      (widePlace fs + WideEndRecord.width)).head? = some (widePlace fs) := by
    refine head?_occurrencesWithin (widePlace_lt fs) ?_ (Nat.lt_add_of_pos_right (by decide))
    rw [encode_eq_wide h, ← hplace, List.drop_left, List.isPrefixOf_iff_prefix]
    exact (List.prefix_append _ _).trans (List.prefix_append _ _)
  have hread : readAt (encode fs) (widePlace fs) WideEndRecord.read = some (wideEndRecord fs) := by
    rw [encode_eq_wide h, ← hplace]
    exact readAt_append (WideEndRecord.read_append _ _)
  have hfills : WideEndRecord.width ≤ (wideEndRecord fs).length.toNat + 12 ∧
      (wideEndRecord fs).length.toNat + 12 = widePlace fs + WideEndRecord.width - widePlace fs := by
    rw [Nat.add_sub_cancel_left]
    exact ⟨le_of_eq rfl, rfl⟩
  have hdisk : (wideEndRecord fs).directoryDisk = (wideLocator fs).directoryDisk := rfl
  -- The reader asks for room for the records between the files and the end.
  have hroom : (wideEndRecord fs).count.toNat * DirectoryRecord.width + (wideEndRecord fs).directoryOffset.toNat ≤
      widePlace fs := by
    rw [hcount, hstart, widePlace, Nat.add_comm]
    exact Nat.add_le_add_left (mul_width_le_length_directory 0 fs) _
  obtain ⟨others, hplaces⟩ := List.head?_eq_some_iff.1 hfound
  rw [wideEnd?, hoffset, hplaces, List.findSome?_cons, hread]
  simp only [Option.bind_eq_bind, Option.bind_some, guard, if_pos hfills, if_pos hdisk, if_pos hroom]
  rfl

/-- The wide records lead to the directory. -/
lemma widePlace?_encode (h : IsWide fs) (hlength : (encode fs).length < UInt64.size) :
    widePlace? (encode fs) (widePlace fs + WideEndRecord.width) (wideLocator fs) =
      some { shift := 0, offset := (fileSection fs).length, count := fs.length } := by
  obtain ⟨hoffset, hcount, hstart⟩ := toNat_wide hlength
  have hbefore : (wideLocator fs).endOffset.toNat < widePlace fs + WideEndRecord.width ∧
      (wideLocator fs).disks ≤ 1 := by
    rw [hoffset]
    exact ⟨Nat.lt_add_of_pos_right (by decide), UInt32.le_refl 1⟩
  have hagrees : (wideEndRecord fs).countHere ≤ (wideEndRecord fs).count ∧
      (wideEndRecord fs).version ≤ (wideEndRecord fs).writer ∧
        (wideEndRecord fs).disk = (wideEndRecord fs).directoryDisk :=
    ⟨UInt64.le_refl _, UInt16.le_refl _, rfl⟩
  rw [widePlace?, guard, if_pos hbefore, wideEnd?_encode h hlength]
  simp only [Option.bind_eq_bind, Option.bind_some, guard, if_pos hagrees, hoffset, hcount, hstart, Nat.sub_self]
  rfl

/-- The numbers of the end record are the greatest ones exactly if a locator is looked for. -/
lemma seeksLocator_iff (fs : List Stored) :
    (endRecord fs).count.toNat = wideCount ∨ (endRecord fs).directoryOffset.toNat = wide ↔ SeeksLocator fs := by
  have hcount : (endRecord fs).count.toNat = min fs.length wideCount := toNat_ofNat_of_le (min_le_right _ _)
  have hoffset : (endRecord fs).directoryOffset.toNat = min (fileSection fs).length wide :=
    UInt32.toNat_ofNat_of_lt' (lt_of_le_of_lt (min_le_right _ _) (by decide))
  rw [hcount, hoffset, min_eq_right_iff, min_eq_right_iff, SeeksLocator]

/-- If a locator is there and looked for, it is found. -/
lemma wideLocator?_encode (h : IsWide fs) (hseeks : SeeksLocator fs) :
    wideLocator? (encode fs) (beforeEnd fs).length (endRecord fs) = some (wideLocator fs) := by
  have hplace : ((fileSection fs ++ directory 0 fs) ++ (wideEndRecord fs).encode).length =
      widePlace fs + WideEndRecord.width := by
    rw [List.length_append, List.length_append, WideEndRecord.length_encode, widePlace]
  have hsought : ((endRecord fs).count.toNat = wideCount ∨ (endRecord fs).directoryOffset.toNat = wide) ∧
      WideLocator.width ≤ widePlace fs + WideEndRecord.width + WideLocator.width :=
    ⟨(seeksLocator_iff fs).2 hseeks, Nat.le_add_left _ _⟩
  rw [wideLocator?, length_beforeEnd h, if_pos hsought, Nat.add_sub_cancel, encode_eq_wide h, ← List.append_assoc,
    ← hplace]
  exact readAt_append (WideLocator.read_append _ _)

/-- Nothing else is taken for a locator. -/
lemma wideLocator?_eq_none (h : IsRegular fs) (hnarrow : SeeksLocator fs → ¬IsWide fs) :
    wideLocator? (encode fs) (beforeEnd fs).length (endRecord fs) = none := by
  rw [wideLocator?]
  split_ifs with hseeks
  -- It is only at the edge that a locator is sought and none was written.
  · obtain ⟨hseeks, hwidth⟩ := hseeks
    have hseeks := (seeksLocator_iff fs).1 hseeks
    have hnone : ¬WideLocator.signature <+: (encode fs).drop ((beforeEnd fs).length - WideLocator.width) := by
      rw [encode_eq, List.drop_append_of_le_length (Nat.sub_le _ _)]
      intro hprefix
      refine h.no_locator hseeks (hnarrow hseeks) (List.prefix_of_prefix_length_le hprefix (List.prefix_append _ _) ?_)
      rw [List.length_drop, Nat.sub_sub_self hwidth]
      decide
    rw [readAt, WideLocator.read, bind_expect_eq_none hnone]
    rfl
  · rfl

/-! ### The directory is found -/

/-- The end record leads to the directory. -/
theorem directoryPlace?_encode (h : IsRegular fs) :
    directoryPlace? (encode fs) (beforeEnd fs).length =
      some { shift := 0, offset := (fileSection fs).length, count := fs.length } := by
  have hread : readAt (encode fs) (beforeEnd fs).length EndRecord.read = some (endRecord fs) := by
    rw [encode_eq, ← List.append_nil (endRecord fs).encode]
    exact readAt_append (EndRecord.read_append _ _)
  have hlength : (beforeEnd fs).length + EndRecord.width + (endRecord fs).commentLength.toNat ≤ (encode fs).length := by
    rw [encode_eq, List.length_append, EndRecord.length_encode]
    exact le_rfl
  rw [directoryPlace?, hread]
  simp only [Option.bind_eq_bind, Option.bind_some]
  rw [guard, if_pos hlength]
  by_cases hwide : SeeksLocator fs ∧ IsWide fs
  · obtain ⟨hseeks, hwide⟩ := hwide
    rw [wideLocator?_encode hwide hseeks, length_beforeEnd hwide, Nat.add_sub_cancel]
    exact widePlace?_encode hwide h.length_lt
  · have hnarrow : SeeksLocator fs → ¬IsWide fs := fun hseeks h => hwide ⟨hseeks, h⟩
    rw [wideLocator?_eq_none h hnarrow]
    refine narrowPlace?_encode ?_ ?_
    all_goals
      -- A number that does not fit would make a reader look for the wide records, and these would be there.
      by_contra hlarge
      have hseeks : SeeksLocator fs := by rw [SeeksLocator]; omega
      have hfits := hnarrow hseeks
      rw [IsWide] at hfits
      omega

/-- The directory of a regular archive lists its files. -/
lemma entriesAt?_encode (h : IsRegular fs)
    (hfiles : ∀ f ∈ fs, f.path.length ≤ wideCount ∧ ∃ s, f.path = Utf8.encode s)
    (hpaths : (fs.map Stored.path).Nodup) :
    entriesAt? (encode fs) { shift := 0, offset := (fileSection fs).length, count := fs.length } =
      some (fs.map Stored.entry) := by
  let place : DirectoryPlace := { shift := 0, offset := (fileSection fs).length, count := fs.length }
  have hstart : place.start = (fileSection fs).length := Nat.zero_add _
  have hfile := encode_eq_directory fs
  have hfits : place.start < UInt64.size := by
    have hlength := h.length_lt
    rw [hfile, List.length_append] at hlength
    omega
  have hread : readAt (encode fs) place.start (listings place.count) = some (listed 0 fs) := by
    rw [hstart, hfile]
    exact readAt_append (listings_directory (fun f hf => (hfiles f hf).1) 0 _)
  have hentries : (listed 0 fs).mapM (fun l => l.entry? (encode fs) place) = some (fs.map Stored.entry) := by
    rw [hfile]
    exact mapM_entry?_listed rfl hfits fs [] _ hfiles (hstart ▸ Nat.zero_add _)
  have hnodup : (([] ++ fs.map Stored.entry).map Entry.path).Nodup := by
    rw [List.nil_append, List.map_map]
    refine List.Nodup.map_on ?_ (List.Nodup.of_map _ hpaths)
    intro f hf g hg heq
    obtain ⟨-, s, hs⟩ := hfiles f hf
    obtain ⟨-, t, ht⟩ := hfiles g hg
    simp only [Function.comp_apply, Stored.entry, hs, ht, Utf8.repair_encode] at heq
    exact List.inj_on_of_nodup_map hpaths hf hg (by rw [hs, ht, heq])
  change (readAt (encode fs) place.start (listings place.count)).bind _ = _
  rw [hread, Option.bind_some, hentries]
  exact congrArg some (foldl_insertEntry _ _ hnodup)

/-- **A regular archive is read back.** -/
theorem readsBack_of_isRegular (h : IsRegular fs)
    (hfiles : ∀ f ∈ fs, f.path.length ≤ wideCount ∧ ∃ s, f.path = Utf8.encode s)
    (hpaths : (fs.map Stored.path).Nodup) : ReadsBack fs := by
  have hlength : (encode fs).length = (beforeEnd fs).length + EndRecord.width := by
    rw [encode_eq, List.length_append, EndRecord.length_encode]
  have hwidth : EndRecord.width = 22 := rfl
  have hlast : EndRecord.signature.isPrefixOf ((encode fs).drop (beforeEnd fs).length) = true := by
    rw [encode_eq, List.drop_left, List.isPrefixOf_iff_prefix]
    exact List.prefix_append _ _
  -- Behind the end record there is too little room for another one, so the search begins with it.
  have hafter : ∀ place, (beforeEnd fs).length < place →
      (directoryPlace? (encode fs) place).bind (entriesAt? (encode fs)) = none := by
    intro place hplace
    have hnone : readAt (encode fs) place EndRecord.read = none := readAt_endRecord_eq_none (by omega)
    rw [directoryPlace?, hnone]
    rfl
  refine findSome?_occurrences (by omega) hlast hafter ?_
  rw [directoryPlace?_encode h]
  exact entriesAt?_encode h hfiles hpaths

end Archive

end DirectShare
