import Mathlib
import DirectShare.Folder

/-!
# Free names in a folder

Names with different numbers differ, so a folder cannot have taken more of them than it has files. The name
that a file gets is therefore free. A number adds no more bytes than it has digits, and one.

That the free name is not taken (`Folder.contains_freeName`) is the pigeonhole principle: among the numbered
names there is one more than the folder has files, and they all differ. `Folder.utf8ByteSize_freeName_le`
bounds the length of the name by its number, and `Folder.find?_create` says what is in a folder after a file
was created.
-/

namespace DirectShare

namespace FileName

/-- Different numbers have different digits. -/
lemma toDigits_injective : Function.Injective (Nat.toDigits 10) := by
  intro n m h
  rw [← Nat.ofDigitChars_ten_toDigits (n := n), h, Nat.ofDigitChars_ten_toDigits]

/-- A name with different numbers gives different names. -/
lemma numbered_injective (name : List Char) : Function.Injective (numbered name) := by
  intro n m h
  rw [numbered, numbered] at h
  split at h
  · simp only [List.append_assoc, List.cons_append, List.append_cancel_left_eq, List.cons.injEq, true_and,
      List.append_cancel_right_eq] at h
    exact toDigits_injective h
  · simp only [List.append_cancel_left_eq, List.cons.injEq, true_and] at h
    exact toDigits_injective h

/-- A digit takes one byte. -/
lemma utf8Len_of_isDigit {cs : List Char} (h : ∀ c ∈ cs, c.isDigit = true) : String.utf8Len cs = cs.length := by
  induction cs with
  | nil => rfl
  | cons c cs ih =>
    rw [List.forall_mem_cons] at h
    obtain ⟨hc, hcs⟩ := h
    have hsize : c.utf8Size = 1 := by
      rw [Char.utf8Size_eq_one_iff, UInt32.le_iff_toNat_le]
      have hnine : c.toNat ≤ 57 := (Char.isDigit_iff_toNat.1 hc).2
      exact hnine.trans (by decide)
    rw [String.utf8Len_cons, ih hcs, hsize, List.length_cons]

/-- A number adds its digits and one byte to a name. -/
lemma utf8Len_numbered (name : List Char) (n : Nat) :
    String.utf8Len (numbered name n) = String.utf8Len name + 1 + (Nat.toDigits 10 n).length := by
  have hdigits : String.utf8Len (Nat.toDigits 10 n) = (Nat.toDigits 10 n).length :=
    utf8Len_of_isDigit fun c hc => Nat.isDigit_of_mem_toDigits (by decide) (by decide) hc
  have hsign : ('_' : Char).utf8Size = 1 := rfl
  rw [numbered]
  split
  · next stem extension hsplit =>
    obtain ⟨rfl, -⟩ := append_of_splitLast (Option.eq_some_of_filter_eq_some hsplit)
    simp only [String.utf8Len_append, String.utf8Len_cons, hdigits, hsign]
    omega
  · simp only [String.utf8Len_append, String.utf8Len_cons, hdigits, hsign]
    omega

end FileName

namespace Folder

variable {folder folder' : Folder} {name other : String} {data : Bytes}

/-! ### Taken names -/

/-- A folder contains the names of its files. -/
lemma contains_iff : folder.contains name = true ↔ name ∈ folder.files.map Prod.fst := by
  simp only [contains, find?, List.lookup_isSome_iff, beq_iff_eq, List.mem_map]
  exact ⟨fun ⟨file, hfile, heq⟩ => ⟨file, hfile, heq.symm⟩, fun ⟨file, hfile, heq⟩ => ⟨file, hfile, heq.symm⟩⟩

/-- A name with different numbers gives different names, taken as texts. -/
lemma numbered_injective (name : String) : Function.Injective (numbered name) := by
  intro n m h
  exact FileName.numbered_injective name.toList (String.ofList_injective h)

/-- A folder has not taken all of the numbers up to one more than it has files. -/
lemma exists_free (folder : Folder) (name : String) :
    ∃ n ∈ List.range' 1 (folder.size + 1), folder.contains (numbered name n) = false := by
  by_contra hall
  simp only [not_exists, not_and, Bool.not_eq_false] at hall
  -- The numbered names are different, and one more than there are names in the folder.
  have hnodup : ((List.range' 1 (folder.size + 1)).map (numbered name)).Nodup :=
    (List.nodup_range' 1).map (numbered_injective name)
  have hsubset : (List.range' 1 (folder.size + 1)).map (numbered name) ⊆ folder.files.map Prod.fst := by
    intro taken htaken
    obtain ⟨n, hn, rfl⟩ := List.mem_map.1 htaken
    exact contains_iff.1 (hall n hn)
  have hlength := (hnodup.subperm hsubset).length_le
  simp only [List.length_map, List.length_range', size] at hlength
  omega

/-- A free name is not taken. It is the name itself, or that with a number up to one more than there are files. -/
lemma freeName_cases (folder : Folder) (name : String) :
    folder.contains (folder.freeName name) = false ∧
      (folder.freeName name = name ∨ ∃ n ≤ folder.size + 1, folder.freeName name = numbered name n) := by
  rw [freeName]
  split_ifs with htaken
  · obtain ⟨n, hn, hfree⟩ := exists_free folder name
    have hfound : (((List.range' 1 (folder.size + 1)).map (numbered name)).find? fun n =>
        !folder.contains n).isSome = true :=
      List.find?_isSome.2 ⟨numbered name n, List.mem_map_of_mem hn, by rw [hfree]; rfl⟩
    obtain ⟨found, hfound⟩ := Option.isSome_iff_exists.1 hfound
    rw [hfound, Option.getD_some]
    obtain ⟨m, hm, rfl⟩ := List.mem_map.1 (List.mem_of_find?_eq_some hfound)
    rw [List.mem_range'_1] at hm
    exact ⟨by simpa using List.find?_some hfound, .inr ⟨m, by omega, rfl⟩⟩
  · exact ⟨by simpa using htaken, .inl rfl⟩

/-- A free name is not taken. -/
@[simp] theorem contains_freeName (folder : Folder) (name : String) :
    folder.contains (folder.freeName name) = false := (freeName_cases folder name).1

/-- A free name is longer by a sign and the digits of a number at most. -/
theorem utf8ByteSize_freeName_le (folder : Folder) (name : String) {k : Nat} (hpos : 0 < k)
    (h : folder.size + 1 < 10 ^ k) :
    (folder.freeName name).utf8ByteSize ≤ name.utf8ByteSize + 1 + k := by
  obtain ⟨-, heq | ⟨n, hn, heq⟩⟩ := freeName_cases folder name
  · rw [heq]
    omega
  · have hlength := Nat.toDigits_length 10 n k hpos (by omega)
    have hname : name.utf8ByteSize = String.utf8Len name.toList := by
      rw [← String.utf8ByteSize_ofList, String.ofList_toList]
    rw [heq, numbered, String.utf8ByteSize_ofList, FileName.utf8Len_numbered, hname]
    omega

/-! ### New files -/

/-- A file whose name is not too long can be created. -/
lemma exists_create (folder : Folder) (name : String) (data : Bytes) (h : name.utf8ByteSize ≤ greatestNameLength) :
    ∃ folder', folder.create name data = some folder' := ⟨_, if_pos h⟩

/-- Without the files of one name, the others are found as before. -/
lemma lookup_filter (files : List (String × Bytes)) (name other : String) :
    (files.filter (·.1 ≠ name)).lookup other = if other = name then none else files.lookup other := by
  induction files with
  | nil => simp
  | cons file files ih =>
    by_cases hfile : file.1 = name
    · rw [List.filter_cons_of_neg (by simpa using hfile), ih, List.lookup_cons, hfile]
      split_ifs with hother
      · rfl
      · rw [beq_false_of_ne hother]
    · rw [List.filter_cons_of_pos (by simpa using hfile), List.lookup_cons, List.lookup_cons, ih]
      by_cases hother : other = file.1
      · rw [hother, beq_self_eq_true, if_neg hfile, if_neg hfile]
      · rw [beq_false_of_ne hother]

/-- A folder after a file was created holds that file, and the others as before. -/
theorem find?_create (h : folder.create name data = some folder') (other : String) :
    folder'.find? other = if other = name then some data else folder.find? other := by
  simp only [create] at h
  split_ifs at h with hlength
  cases h
  rw [find?, find?, List.lookup_append, lookup_filter]
  split_ifs with hother
  · subst hother
    simp
  · rw [List.lookup_cons, beq_false_of_ne hother]
    exact Option.or_none

/-- Creating a file adds one file at most. -/
lemma size_create_le (h : folder.create name data = some folder') : folder'.size ≤ folder.size + 1 := by
  simp only [create] at h
  split_ifs at h with hname
  cases h
  have hfilter := List.length_filter_le (fun file => decide (file.1 ≠ name)) folder.files
  simp only [size, List.length_append, List.length_singleton]
  omega

end Folder

end DirectShare
