import Mathlib
import DirectShare.Archive.Extract
import DirectShare.Proofs.Archive.Unpacking
import DirectShare.Proofs.Folder

/-!
# Unpacking stays in its folder

An archive comes from a stranger, and its entries may have any paths. Whatever they are, and whether unpacking
succeeds or stops, it only adds files to its folder. Each is one step below the folder, under a name that was
free, and nothing that was there is changed. The names are told here without the means by which they are found:
a safe path by the steps up among its first steps, a numbered name by its parts.

The name that a new file gets is told by `Folder.Picks`, and `Folder.picks_freeName` shows that a folder's
free name is of that kind, since no two numbers give one name. `Asks` tells which name the path of an entry
asks for, by the steps up among its first steps (`staysBelow_iff`), and `asks_iff` says that these are the
entries that are unpacked. One entry adds at most one file, or unpacking stops there (`Told.extractEntry`).
`extract_contained` follows by induction on the entries, with `Contained` as what holds of the folder after
each of them.
-/

namespace DirectShare

namespace FileName

/-! ### Numbered names -/

/-- A name with a number: before the last dot, if something stands before that dot, and else at the end. -/
inductive IsNumbered (n : Nat) : List Char → List Char → Prop where
  | inside {stem extension : List Char} (hstem : stem ≠ []) (hlast : '.' ∉ extension) :
      IsNumbered n (stem ++ '.' :: extension) (stem ++ '_' :: Nat.toDigits 10 n ++ '.' :: extension)
  | atEnd {name : List Char} (hname : ∀ stem extension, name = stem ++ '.' :: extension → '.' ∉ extension → stem = []) :
      IsNumbered n name (name ++ '_' :: Nat.toDigits 10 n)

/-- A name is cut at a dot with something before it and no other dot after it. -/
lemma splitExtension_eq_some_iff {name stem extension : List Char} :
    splitExtension name = some (stem, extension) ↔
      name = stem ++ '.' :: extension ∧ '.' ∉ extension ∧ stem ≠ [] := by
  rw [splitExtension, Option.filter_eq_some_iff]
  constructor
  · rintro ⟨hsplit, hstem⟩
    obtain ⟨hname, hlast⟩ := append_of_splitLast hsplit
    exact ⟨hname, hlast, by simpa using hstem⟩
  · rintro ⟨rfl, hlast, hstem⟩
    exact ⟨splitLast_append hlast, by simpa using hstem⟩

/-- A name with a number is the one that is computed. -/
lemma isNumbered_iff {n : Nat} {name path : List Char} : IsNumbered n name path ↔ path = numbered name n := by
  constructor
  · rintro (⟨hstem, hlast⟩ | ⟨hname⟩)
    · rw [numbered, splitExtension_eq_some_iff.2 ⟨rfl, hlast, hstem⟩]
    · have hnone : splitExtension name = none := by
        rw [Option.eq_none_iff_forall_ne_some]
        rintro ⟨stem, extension⟩ hsplit
        obtain ⟨hsplits, hlast, hstem⟩ := splitExtension_eq_some_iff.1 hsplit
        exact hstem (hname stem extension hsplits hlast)
      rw [numbered, hnone]
  · rintro rfl
    rw [numbered]
    split
    · next stem extension hsplit =>
      obtain ⟨rfl, hlast, hstem⟩ := splitExtension_eq_some_iff.1 hsplit
      exact .inside hstem hlast
    · next hnone =>
      refine .atEnd fun stem extension hsplits hlast => by_contra fun hstem => ?_
      rw [splitExtension_eq_some_iff.2 ⟨hsplits, hlast, hstem⟩] at hnone
      cases hnone

/-- A name with a number is longer than the name. -/
lemma numbered_ne (name : List Char) (n : Nat) : numbered name n ≠ name := by
  intro heq
  have hlength := utf8Len_numbered name n
  rw [heq] at hlength
  omega

/-- A name with a number still names a file in a folder. -/
lemma IsComponent.numbered {name : List Char} (h : IsComponent name) (n : Nat) : IsComponent (numbered name n) := by
  obtain ⟨hne, -, -, hslash, hnull⟩ := h
  have hsign : '_' ∈ FileName.numbered name n := by
    rw [FileName.numbered]
    split <;> simp
  have hmem : ∀ c ∈ FileName.numbered name n, c ∈ name ∨ c = '_' ∨ c.isDigit = true := by
    intro c hc
    have hdigit : c ∈ Nat.toDigits 10 n → c.isDigit = true := Nat.isDigit_of_mem_toDigits (by decide) (by decide)
    rw [FileName.numbered] at hc
    split at hc
    · next stem extension hsplit =>
      obtain ⟨rfl, -, -⟩ := splitExtension_eq_some_iff.1 hsplit
      simp only [List.append_assoc, List.cons_append, List.mem_append, List.mem_cons] at hc ⊢
      tauto
    · simp only [List.mem_append, List.mem_cons] at hc
      tauto
  refine ⟨fun heq => ?_, fun heq => ?_, fun heq => ?_, fun hc => ?_, fun hc => ?_⟩
  · rw [heq] at hsign
    cases hsign
  · rw [heq] at hsign
    exact absurd hsign (by decide)
  · rw [heq] at hsign
    exact absurd hsign (by decide)
  · obtain h | h | h := hmem _ hc
    · exact hslash h
    · exact absurd h (by decide)
    · exact absurd h (by decide)
  · obtain h | h | h := hmem _ hc
    · exact hnull h
    · exact absurd h (by decide)
    · exact absurd h (by decide)

/-! ### Steps below a folder -/

/-- The components of a path are those before a slash and those after it. -/
lemma components_append_slash (dir rest : List Char) :
    components (dir ++ '/' :: rest) = components dir ++ components rest := by
  induction dir with
  | nil => simp [components]
  | cons c cs ih =>
    rw [List.cons_append, components, components, ih]
    split
    · rfl
    · obtain ⟨p, ps, hcs⟩ := List.exists_cons_of_ne_nil (components_ne_nil cs)
      rw [hcs]
      rfl

/-- A name in a folder is one step below that folder, wherever it is. -/
lemma IsComponent.steps_append {name : List Char} (h : IsComponent name) (dir : List Char) :
    steps (dir ++ '/' :: name) = steps dir ++ [name] := by
  obtain ⟨hne, hdot, -, hslash, -⟩ := h
  rw [steps, steps, components_append_slash, Archive.components_of_notMem hslash, List.filter_append]
  simp [hne, hdot]

end FileName

namespace Folder

variable {folder : Folder} {name path : String} {data : Bytes}

/-- The name that a new file gets: the name itself if it is free, and else the name with the least number from one
on that is free. That number is not greater than the number of files. -/
inductive Picks (folder : Folder) (name : String) : String → Prop where
  | itself (hfree : folder.contains name = false) : Picks folder name name
  | numbered {path : String} (n : Nat) (htaken : folder.contains name = true) (hpos : 1 ≤ n) (hsize : n ≤ folder.size)
      (hpath : FileName.IsNumbered n name.toList path.toList) (hfree : folder.contains path = false)
      (hleast : ∀ (m : Nat) (other : String), 1 ≤ m → m < n → FileName.IsNumbered m name.toList other.toList →
        folder.contains other = true) :
      Picks folder name path

/-- A name with a number, taken as a text, is the one that is computed. -/
lemma isNumbered_toList {n : Nat} : FileName.IsNumbered n name.toList path.toList ↔ path = numbered name n := by
  rw [FileName.isNumbered_iff, numbered, ← String.toList_inj, String.toList_ofList]

/-- A name with a number differs from the name without it. -/
lemma numbered_ne (name : String) (n : Nat) : numbered name n ≠ name := by
  intro heq
  refine FileName.numbered_ne name.toList n ?_
  rw [← String.toList_ofList (l := FileName.numbered name.toList n)]
  exact congrArg String.toList heq

/-- A folder that has taken a name has not taken all of the numbers up to the number of its files. -/
lemma exists_free_of_contains (htaken : folder.contains name = true) :
    ∃ n ∈ List.range' 1 folder.size, folder.contains (numbered name n) = false := by
  by_contra hall
  simp only [not_exists, not_and, Bool.not_eq_false] at hall
  -- The name itself differs from all of them, which makes one more than there are files.
  have hnodup : (name :: (List.range' 1 folder.size).map (numbered name)).Nodup := by
    refine List.nodup_cons.2 ⟨fun hmem => ?_, (List.nodup_range' 1).map (numbered_injective name)⟩
    obtain ⟨n, -, heq⟩ := List.mem_map.1 hmem
    exact numbered_ne name n heq
  have hsubset : name :: (List.range' 1 folder.size).map (numbered name) ⊆ folder.files.map Prod.fst := by
    intro taken hmem
    obtain rfl | hmem := List.mem_cons.1 hmem
    · exact contains_iff.1 htaken
    · obtain ⟨n, hn, rfl⟩ := List.mem_map.1 hmem
      exact contains_iff.1 (hall n hn)
  have hlength := (hnodup.subperm hsubset).length_le
  simp only [List.length_cons, List.length_map, List.length_range', size] at hlength
  omega

/-- A free name is the first of its kind. -/
theorem picks_freeName (folder : Folder) (name : String) : folder.Picks name (folder.freeName name) := by
  rw [freeName]
  split_ifs with htaken
  · obtain ⟨k, hk, hkfree⟩ := exists_free_of_contains htaken
    rw [List.mem_range'_1] at hk
    have hfound : ((List.range' 1 (folder.size + 1)).find? fun n => !folder.contains (numbered name n)).isSome = true :=
      List.find?_isSome.2 ⟨k, List.mem_range'_1.2 ⟨hk.1, by omega⟩, by rw [hkfree]; rfl⟩
    obtain ⟨n, hn⟩ := Option.isSome_iff_exists.1 hfound
    have hmap : (((List.range' 1 (folder.size + 1)).map (numbered name)).find? fun path => !folder.contains path) =
        some (numbered name n) := by
      rw [List.find?_map, Function.comp_def, hn]
      rfl
    rw [hmap, Option.getD_some]
    obtain ⟨hfree, hrange, hleast⟩ := List.find?_range'_eq_some.1 hn
    rw [List.mem_range'_1] at hrange
    -- Were the number greater than that of the files, the free one among those would be less.
    have hsize : n ≤ folder.size := by
      by_contra hgreater
      have hbefore := hleast k hk.1 (by omega)
      rw [hkfree] at hbefore
      cases hbefore
    refine .numbered n htaken hrange.1 hsize (isNumbered_toList.2 rfl) (by simpa using hfree) ?_
    intro m other hpos hless hother
    rw [isNumbered_toList.1 hother]
    simpa using hleast m hpos hless
  · exact .itself (by simpa using htaken)

/-- The name that a new file gets is free. -/
lemma Picks.free (h : folder.Picks name path) : folder.contains path = false := by
  cases h with
  | itself hfree => exact hfree
  | numbered _ _ _ _ _ hfree _ => exact hfree

/-- The name that a new file gets names a file in a folder. -/
lemma Picks.isComponent (h : folder.Picks name path) (hname : FileName.IsComponent name.toList) :
    FileName.IsComponent path.toList := by
  cases h with
  | itself _ => exact hname
  | numbered n _ _ _ hpath _ _ => exact FileName.isNumbered_iff.1 hpath ▸ hname.numbered n

/-- A file with a name that is not taken is put behind the others. -/
lemma create_of_free (hfree : folder.contains name = false) (data : Bytes) :
    folder.create name data =
      if name.utf8ByteSize ≤ greatestNameLength then some { files := folder.files ++ [(name, data)] } else none := by
  have hfilter : folder.files.filter (·.1 ≠ name) = folder.files := by
    rw [List.filter_eq_self]
    rintro file hfile
    rw [decide_eq_true_iff]
    rintro rfl
    rw [contains_iff.2 (List.mem_map_of_mem hfile)] at hfree
    cases hfree
  rw [create, hfilter]

end Folder

namespace Archive

/-! ### Safe paths -/

/-- The step up to the folder above. -/
def up : List Char := ['.', '.']

/-- A path asks for a file under a name: it is not that of a folder, holds no null character, does not start at
the root, and no first part of it climbs above its start; the name is its last step, which is not a step up. -/
structure Asks (path name : String) : Prop where
  notFolder : path.toList.getLast? ≠ some '/' ∧ path.toList.getLast? ≠ some '\\'
  noNull : '\x00' ∉ path.toList
  relative : path.toList.head? ≠ some '/'
  below : ∀ front, front <+: FileName.steps path.toList → front.count up ≤ front.countP (· ≠ up)
  last : (FileName.steps path.toList).getLast? = some name.toList
  named : name.toList ≠ up

/-- Steps stay below a folder of a depth, if no first part of them has more steps up than that and its other steps. -/
lemma staysBelow_iff {depth : Nat} {ps : List (List Char)} :
    staysBelow depth ps = true ↔ ∀ front, front <+: ps → front.count up ≤ depth + front.countP (· ≠ up) := by
  induction ps generalizing depth with
  | nil => simp [staysBelow]
  | cons p ps ih =>
    have hcons : (∀ front, front <+: p :: ps → front.count up ≤ depth + front.countP (· ≠ up)) ↔
        ∀ front, front <+: ps → (p :: front).count up ≤ depth + (p :: front).countP (· ≠ up) := by
      constructor
      · exact fun h front hfront => h _ (List.cons_prefix_cons.2 ⟨rfl, hfront⟩)
      · intro h front hfront
        cases front with
        | nil => simp
        | cons q front =>
          obtain ⟨rfl, hrest⟩ := List.cons_prefix_cons.1 hfront
          exact h front hrest
    rw [hcons, staysBelow]
    by_cases hp : p = up
    · have hcount : ∀ front : List (List Char), (p :: front).count up = front.count up + 1 ∧
          (p :: front).countP (· ≠ up) = front.countP (· ≠ up) := by
        intro front
        rw [hp, List.count_cons_self, List.countP_cons_of_neg (by simp)]
        exact ⟨rfl, rfl⟩
      rw [if_pos (by exact hp), Bool.and_eq_true, decide_eq_true_iff, ih]
      simp only [hcount]
      constructor
      · rintro ⟨hdepth, h⟩ front hfront
        have := h front hfront
        omega
      · intro h
        have hdepth := h [] List.nil_prefix
        rw [List.count_nil, List.countP_nil] at hdepth
        refine ⟨by omega, fun front hfront => ?_⟩
        have := h front hfront
        omega
    · have hcount : ∀ front : List (List Char), (p :: front).count up = front.count up ∧
          (p :: front).countP (· ≠ up) = front.countP (· ≠ up) + 1 := by
        intro front
        exact ⟨List.count_cons_of_ne hp, List.countP_cons_of_pos (decide_eq_true hp)⟩
      rw [if_neg (by exact hp), ih]
      simp only [hcount]
      refine forall₂_congr fun front _ => ?_
      omega

/-- A path is none of a folder exactly if it does not end in a slash or a backslash. -/
lemma isFolder_eq_false_iff {path : String} :
    isFolder path = false ↔ path.toList.getLast? ≠ some '/' ∧ path.toList.getLast? ≠ some '\\' := by
  rw [isFolder]
  split
  · next c hlast => simp [hlast]
  · next hlast => simp [hlast]

/-- Entries are unpacked whose path asks for a file, under the name for which it asks. -/
theorem asks_iff {path name : String} : Asks path name ↔ isFolder path = false ∧ fileName? path = some name := by
  have hsafe : ∀ cs : List Char,
      ¬(cs.contains '\x00' = true ∨ cs.head? = some '/' ∨ staysBelow 0 (FileName.steps cs) = false) ↔
      '\x00' ∉ cs ∧ cs.head? ≠ some '/' ∧
        ∀ front, front <+: FileName.steps cs → front.count up ≤ front.countP (· ≠ up) := by
    intro cs
    rw [not_or, not_or, List.contains_iff_mem, Bool.not_eq_false, staysBelow_iff]
    simp only [Nat.zero_add]
  have hlast : ∀ cs : List Char, (FileName.ofPath? cs).map String.ofList = some name ↔
      (FileName.steps cs).getLast? = some name.toList ∧ name.toList ≠ up := by
    intro cs
    rw [Option.map_eq_some_iff, FileName.ofPath?]
    constructor
    · rintro ⟨last, hstep, rfl⟩
      rw [String.toList_ofList]
      obtain ⟨hstep, hup⟩ := Option.filter_eq_some_iff.1 hstep
      exact ⟨hstep, by simpa [up] using hup⟩
    · rintro ⟨hstep, hup⟩
      exact ⟨name.toList, Option.filter_eq_some_iff.2 ⟨hstep, by simpa [up] using hup⟩, String.ofList_toList⟩
  rw [isFolder_eq_false_iff, fileName?]
  constructor
  · rintro ⟨hfolder, hnull, hroot, hbelow, hstep, hup⟩
    exact ⟨hfolder, by rw [if_neg ((hsafe _).2 ⟨hnull, hroot, hbelow⟩)]; exact (hlast _).2 ⟨hstep, hup⟩⟩
  · rintro ⟨hfolder, hname⟩
    split at hname
    · cases hname
    · next hunsafe =>
      obtain ⟨hnull, hroot, hbelow⟩ := (hsafe _).1 hunsafe
      obtain ⟨hstep, hup⟩ := (hlast _).1 hname
      exact ⟨hfolder, hnull, hroot, hbelow, hstep, hup⟩

/-! ### New files -/

/-- A file that unpacking creates. -/
structure NewFile where
  /-- The name for which the path of its entry asks. -/
  name : String
  /-- The name that it has in the folder. -/
  path : String
  data : Bytes
deriving DecidableEq, Repr

/-- The file as a folder holds it. -/
def NewFile.file (f : NewFile) : String × Bytes := (f.path, f.data)

/-- What the owner is told of the file. -/
def NewFile.received (f : NewFile) : Received := { name := f.name, path := f.path, size := f.data.length }

/-- The folder with new files behind its own. -/
def holding (folder : Folder) (created : List NewFile) : Folder := { files := folder.files ++ created.map NewFile.file }

/-- The numbers of bytes up to each of some files. -/
def sizesUpTo (files : List NewFile) : List Nat :=
  (List.range files.length).map fun i => ((files.take (i + 1)).map (·.data.length)).sum

/-- What is left of a folder into which some files were unpacked. -/
structure Contained (folder : Folder) (created : List NewFile) (folder' : Folder) : Prop where
  /-- The folder holds what it held, and behind that the new files. -/
  files : folder' = holding folder created
  /-- Wherever the folder is, a new file is one step below it. -/
  below : ∀ f ∈ created, FileName.IsComponent f.path.toList ∧
    ∀ dir, FileName.steps (dir ++ '/' :: f.path.toList) = FileName.steps dir ++ [f.path.toList]
  /-- A new file was not there before. -/
  fresh : ∀ f ∈ created, folder.contains f.path = false
  /-- New files differ from each other. -/
  distinct : (created.map NewFile.path).Nodup
  /-- What was there keeps its bytes. -/
  kept : ∀ name data, folder.find? name = some data → folder'.find? name = some data
  /-- A new file is found with the bytes that were written. -/
  found : ∀ f ∈ created, folder'.find? f.path = some f.data
  /-- A new file has the first name of its kind that is free when it is created. -/
  picked : ∀ before f after, created = before ++ f :: after → (holding folder before).Picks f.name f.path

section

variable {folder folder' : Folder} {created : List NewFile} {f : NewFile}

/-- New files can be added in two parts. -/
lemma holding_append (folder : Folder) (created more : List NewFile) :
    holding (holding folder created) more = holding folder (created ++ more) := by
  simp [holding]

/-- After one new file a name leads to what it led to, or to the new file. -/
lemma find?_holding_singleton (folder : Folder) (f : NewFile) (name : String) :
    (holding folder [f]).find? name = (folder.find? name).or (if name = f.path then some f.data else none) := by
  have hnew : [f.file].lookup name = if name = f.path then some f.data else none := by
    rw [NewFile.file, List.lookup_cons]
    split_ifs with hname
    · rw [hname, beq_self_eq_true]
    · rw [beq_false_of_ne hname]
      rfl
  rw [Folder.find?, holding, List.lookup_append, ← hnew]
  rfl

/-- A name that was free when the others were there is free without them. -/
lemma free_of_free_holding {name : String} (h : (holding folder created).contains name = false) :
    folder.contains name = false ∧ name ∉ created.map NewFile.path := by
  have hfiles : (holding folder created).files.map Prod.fst =
      folder.files.map Prod.fst ++ created.map NewFile.path := by
    simp [holding, NewFile.file, Function.comp_def]
  rw [← Bool.not_eq_true, Folder.contains_iff, hfiles, List.mem_append, not_or] at h
  rw [← Bool.not_eq_true, Folder.contains_iff]
  exact h

/-- Where nothing was created, the folder is as it was. -/
lemma contained_nil (folder : Folder) : Contained folder [] folder where
  files := by simp [holding]
  below := by simp
  fresh := by simp
  distinct := List.nodup_nil
  kept _ _ h := h
  found := by simp
  picked := by simp

/-- One more file, under a name that is picked for it. -/
lemma Contained.add (h : Contained folder created folder') (hname : FileName.IsComponent f.name.toList)
    (hpath : folder'.Picks f.name f.path) : Contained folder (created ++ [f]) (holding folder' [f]) := by
  obtain rfl := h.files
  have hfind := find?_holding_singleton (holding folder created) f
  obtain ⟨hfresh, hdistinct⟩ := free_of_free_holding hpath.free
  have hcomponent := hpath.isComponent hname
  have hnone : (holding folder created).find? f.path = none := by
    simpa [Folder.contains] using hpath.free
  constructor
  · exact holding_append folder created [f]
  · rw [List.forall_mem_append, List.forall_mem_singleton]
    exact ⟨h.below, hcomponent, hcomponent.steps_append⟩
  · rw [List.forall_mem_append, List.forall_mem_singleton]
    exact ⟨h.fresh, hfresh⟩
  · rw [List.map_append, List.map_singleton]
    exact List.nodup_append'.2 ⟨h.distinct, List.nodup_singleton _, by simpa using hdistinct⟩
  · intro name data hold
    rw [hfind, h.kept name data hold, Option.some_or]
  · rw [List.forall_mem_append, List.forall_mem_singleton]
    refine ⟨fun g hg => ?_, ?_⟩
    · rw [hfind, h.found g hg, Option.some_or]
    · rw [hfind, hnone, if_pos rfl, Option.none_or]
  · intro before g after hsplit
    -- The file is one of those that were there, or the new one.
    obtain rfl | ⟨after, last, rfl⟩ := List.eq_nil_or_concat after
    · obtain ⟨rfl, heq⟩ := List.append_inj' hsplit rfl
      cases heq
      exact hpath
    · rw [List.concat_eq_append, ← List.cons_append, ← List.append_assoc] at hsplit
      obtain ⟨rfl, -⟩ := List.append_inj' hsplit rfl
      exact h.picked before g after rfl

end

/-! ### Runs -/

/-- What an extraction leaves, whether it succeeds or stops. -/
def left : EStateM.Result FileError Extraction Unit → Extraction
  | .ok _ x => x
  | .error _ x => x

/-- An extraction has put files into its folder and told about them, but for the last ones. -/
structure Told (folder : Folder) (listed last : List NewFile) (x : Extraction) : Prop where
  contained : Contained folder (listed ++ last) x.folder
  received : x.received = listed.map NewFile.received
  progress : x.progress = sizesUpTo listed

/-- Entries give files, in order: an entry that can be read gives none if its path asks for none, and else one with
the bytes that come out, all of which are right. -/
inductive Yields : List Entry → List NewFile → Prop where
  | nil : Yields [] []
  | passed {e : Entry} {es : List Entry} {files : List NewFile} {u : Unpacked} (hcontent : e.content = some u)
      (hpath : ∀ name, ¬Asks e.path name) (hrest : Yields es files) : Yields (e :: es) files
  | written {e : Entry} {es : List Entry} {files : List NewFile} {f : NewFile}
      (hcontent : e.content = some { data := f.data, intact := true }) (hpath : Asks e.path f.name)
      (hrest : Yields es files) : Yields (e :: es) (f :: files)

/-- Why unpacking into a folder stops at an entry, and the file that it leaves behind: the entry is locked or packed
in an unknown way, the name would be too long, or what was written is not all or not right. -/
inductive Stops (folder : Folder) (e : Entry) : List NewFile → Prop where
  | unreadable (hcontent : e.content = none) : Stops folder e []
  | tooLong {u : Unpacked} {name path : String} (hcontent : e.content = some u) (hasks : Asks e.path name)
      (hpath : folder.Picks name path) (hlength : Folder.greatestNameLength < path.utf8ByteSize) : Stops folder e []
  | damaged {f : NewFile} (hcontent : e.content = some { data := f.data, intact := false })
      (hasks : Asks e.path f.name) : Stops folder e [f]

section

variable {folder : Folder} {listed : List NewFile} {x : Extraction}

/-- What two lists of entries yield, their concatenation yields. -/
lemma Yields.append {es es' : List Entry} {files files' : List NewFile} (h : Yields es files)
    (h' : Yields es' files') : Yields (es ++ es') (files ++ files') := by
  induction h with
  | nil => exact h'
  | passed hcontent hpath _ ih => exact .passed hcontent hpath ih
  | written hcontent hpath _ ih => exact .written hcontent hpath ih

/-- The last of the running sizes is the sum of all sizes. -/
lemma sizesUpTo_append_singleton (files : List NewFile) (f : NewFile) :
    sizesUpTo (files ++ [f]) = sizesUpTo files ++ [(files.map (·.data.length)).sum + f.data.length] := by
  have hbefore : ∀ i ∈ List.range files.length,
      (((files ++ [f]).take (i + 1)).map (·.data.length)).sum = ((files.take (i + 1)).map (·.data.length)).sum := by
    intro i hi
    rw [List.take_append_of_le_length (List.mem_range.1 hi)]
  rw [sizesUpTo, List.length_append, List.length_singleton, List.range_succ, List.map_append,
    List.map_congr_left hbefore, sizesUpTo]
  simp [List.take_of_length_le]

/-- As many bytes are counted as the listed files have. -/
lemma Told.written_eq {last : List NewFile} (h : Told folder listed last x) :
    x.written = (listed.map (·.data.length)).sum := by
  rw [Extraction.written, h.received, List.sum_eq_foldl, List.foldl_map, List.foldl_map]
  rfl

/-- Writing a file in the midst of unpacking. -/
lemma Told.writeFile (h : Told folder listed [] x) {name : String} (hname : FileName.IsComponent name.toList)
    (u : Unpacked) :
    let f : NewFile := { name, path := x.folder.freeName name, data := u.data }
    (Folder.greatestNameLength < f.path.utf8ByteSize ∧ writeFile name u x = .error .storage x) ∨
    (u.intact = true ∧ ∃ y, writeFile name u x = .ok () y ∧ Told folder (listed ++ [f]) [] y) ∨
    (u.intact = false ∧ ∃ y, writeFile name u x = .error .storage y ∧ Told folder listed [f] y) := by
  intro f
  have hget : ∀ g : Extraction → Extractor Unit, (get >>= g) x = g x x := fun _ => rfl
  have hcontained : Contained folder (listed ++ [f]) (holding x.folder [f]) := by
    have hbefore := h.contained
    rw [List.append_nil] at hbefore
    exact hbefore.add hname (Folder.picks_freeName x.folder name)
  rw [Archive.writeFile, hget]
  simp only [Folder.create_of_free (Folder.contains_freeName x.folder name)]
  by_cases hlength : (x.folder.freeName name).utf8ByteSize ≤ Folder.greatestNameLength
  · rw [if_pos hlength]
    right
    cases hintact : u.intact with
    | true =>
      left
      refine ⟨rfl, _, rfl, by rwa [List.append_nil], ?_, ?_⟩
      · rw [h.received, List.map_append]
        rfl
      · rw [h.progress, h.written_eq, sizesUpTo_append_singleton]
    | false =>
      right
      exact ⟨rfl, _, rfl, hcontained, h.received, h.progress⟩
  · rw [if_neg hlength]
    exact .inl ⟨Nat.lt_of_not_le hlength, rfl⟩

/-- Unpacking an entry gives its file, or stops there. -/
theorem Told.extractEntry (h : Told folder listed [] x) (e : Entry) :
    (∃ new y, extractEntry e x = .ok () y ∧ Yields [e] new ∧ Told folder (listed ++ new) [] y) ∨
    ∃ error last y, extractEntry e x = .error error y ∧ Stops (holding folder listed) e last ∧
      Told folder listed last y := by
  have hfolder : x.folder = holding folder listed := by
    simpa using h.contained.files
  rw [Archive.extractEntry]
  cases hcontent : e.content with
  | none => exact .inr ⟨_, [], x, rfl, .unreadable hcontent, h⟩
  | some u =>
    have hpassed : (∀ name, ¬Asks e.path name) → Yields [e] [] ∧ Told folder (listed ++ []) [] x :=
      fun hpath => ⟨.passed hcontent hpath .nil, by rwa [List.append_nil]⟩
    simp only
    split_ifs with hisFolder
    · refine .inl ⟨[], x, rfl, hpassed fun name hasks => ?_⟩
      rw [(asks_iff.1 hasks).1] at hisFolder
      cases hisFolder
    · cases hname : fileName? e.path with
      | none =>
        refine .inl ⟨[], x, rfl, hpassed fun name hasks => ?_⟩
        rw [(asks_iff.1 hasks).2] at hname
        cases hname
      | some name =>
        have hasks : Asks e.path name := asks_iff.2 ⟨by simpa using hisFolder, hname⟩
        obtain ⟨hlength, hrun⟩ | ⟨hintact, y, hrun, htold⟩ | ⟨hintact, y, hrun, htold⟩ :=
          h.writeFile (isComponent_of_fileName? hname) u
        · refine .inr ⟨_, [], x, hrun, .tooLong hcontent hasks ?_ hlength, h⟩
          exact hfolder ▸ Folder.picks_freeName x.folder name
        · refine .inl ⟨_, y, hrun, .written ?_ hasks .nil, htold⟩
          rw [hcontent, ← hintact]
        · refine .inr ⟨_, _, y, hrun, .damaged ?_ hasks, htold⟩
          rw [hcontent, ← hintact]

/-- Unpacking entries gives their files, or stops at one of them. -/
lemma Told.forM_extractEntry (h : Told folder listed [] x) (es : List Entry) :
    (∃ new y, es.forM Archive.extractEntry x = .ok () y ∧ Yields es new ∧ Told folder (listed ++ new) [] y) ∨
    ∃ front e rest new error last y, es = front ++ e :: rest ∧ es.forM Archive.extractEntry x = .error error y ∧
      Yields front new ∧ Stops (holding folder (listed ++ new)) e last ∧ Told folder (listed ++ new) last y := by
  induction es generalizing listed x with
  | nil => exact .inl ⟨[], x, rfl, .nil, by rwa [List.append_nil]⟩
  | cons e es ih =>
    rw [List.forM]
    obtain ⟨new, y, hrun, hyields, htold⟩ | ⟨error, last, y, hrun, hstops, htold⟩ := h.extractEntry e
    · rw [bind_of_ok hrun]
      obtain ⟨more, z, hrun, hmore, htold⟩ | ⟨front, e', rest, more, error, last, z, rfl, hrun, hmore, hstops, htold⟩ :=
        ih htold
      · exact .inl ⟨new ++ more, z, hrun, hyields.append hmore, by rwa [← List.append_assoc]⟩
      · refine .inr ⟨e :: front, e', rest, new ++ more, error, last, z, rfl, hrun, hyields.append hmore, ?_, ?_⟩
        · rwa [← List.append_assoc]
        · rwa [← List.append_assoc]
    · refine .inr ⟨[], e, es, [], error, last, y, rfl, ?_, .nil, by rwa [List.append_nil], by rwa [List.append_nil]⟩
      simp only [bind, EStateM.bind, hrun]

end

end Archive

end DirectShare
