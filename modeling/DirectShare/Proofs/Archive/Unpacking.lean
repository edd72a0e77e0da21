import Mathlib
import DirectShare.Archive.Extract
import DirectShare.Proofs.Archive.Reading
import DirectShare.Proofs.Folder
import DirectShare.Proofs.Session.Receiver
import DirectShare.Task.Announcement

/-!
# Files there and back

Files that are packed and then unpacked arrive whole, in order and under names of their own, whatever was in
the folder before, and nothing of that is lost. In the archive the number of a file tells its name from others;
in the folder it is a number at the end of the name.

`Unpacks` lists what was unpacked of some files: their names, sizes and bytes, the progress and the files in
the folder. `Unpacks.write` adds one more file to it, and a file that was packed under its number is unpacked
under the name that the task gives it (`fileName?_storedPath`). `extract_build` puts the two together by
induction on the files.
-/

namespace DirectShare.Archive

/-- A file in memory that is to be sent. -/
structure MemoryFile where
  name : String
  /-- The media type. -/
  mimeType : String
  data : Bytes
deriving DecidableEq, Repr

namespace MemoryFile

/-- The file as a part of a task. -/
def shared (f : MemoryFile) : SharedFile := .ofBytes f.name f.mimeType f.data

/-- The file as it stands in an archive. -/
def stored (f : MemoryFile) (index : Nat) : Stored :=
  { path := Utf8.encode (storedPath index f.name), data := f.data }

/-- The greatest number of bytes of an ordinary name. -/
def nameLimit : Nat := 200

/-- The number of digits for which an ordinary name leaves room in a folder. -/
def digitLimit : Nat := Folder.greatestNameLength - (nameLimit + 1)

/-- The name is one component of a path, is not written like that of a folder, and leaves room for a number. -/
structure IsOrdinary (f : MemoryFile) : Prop where
  component : FileName.IsComponent f.name.toList
  notFolder : f.name.toList.getLast? ≠ some '\\'
  short : f.name.utf8ByteSize ≤ nameLimit

end MemoryFile

/-! ### Paths in the archive -/

/-- A path without a slash is its only component. -/
lemma components_of_notMem {cs : List Char} (h : '/' ∉ cs) : FileName.components cs = [cs] := by
  induction cs with
  | nil => rfl
  | cons c cs ih =>
    rw [List.mem_cons, not_or] at h
    obtain ⟨hc, hcs⟩ := h
    rw [FileName.components, if_neg (Ne.symm hc), ih hcs]

/-- What stands before the first slash is the first component. -/
lemma components_append {cs : List Char} (h : '/' ∉ cs) (rest : List Char) :
    FileName.components (cs ++ '/' :: rest) = cs :: FileName.components rest := by
  induction cs with
  | nil => simp [FileName.components]
  | cons c cs ih =>
    rw [List.mem_cons, not_or] at h
    obtain ⟨hc, hcs⟩ := h
    rw [List.cons_append, FileName.components, if_neg (Ne.symm hc), ih hcs]

/-- A stored path is the number of its file, a slash and the name. -/
lemma toList_storedPath (index : Nat) (name : String) :
    (storedPath index name).toList = Nat.toDigits 10 index ++ '/' :: name.toList := by
  simp [storedPath]

/-- Only digits stand in a number. -/
lemma notMem_toDigits {c : Char} (hc : c.isDigit = false) (n : Nat) : c ∉ Nat.toDigits 10 n := by
  intro hmem
  rw [Nat.isDigit_of_mem_toDigits (by decide) (by decide) hmem] at hc
  cases hc

/-- The steps of a stored path are the number and the name. -/
lemma steps_storedPath {name : String} (h : FileName.IsComponent name.toList) (index : Nat) :
    FileName.steps (storedPath index name).toList = [Nat.toDigits 10 index, name.toList] := by
  obtain ⟨hne, hdot, -, hslash, -⟩ := h
  have hdigits : Nat.toDigits 10 index ≠ ['.'] := fun heq =>
    notMem_toDigits (c := '.') rfl index (by rw [heq]; exact List.mem_cons_self)
  rw [FileName.steps, toList_storedPath, components_append (notMem_toDigits rfl index), components_of_notMem hslash]
  simp [Nat.toDigits_ne_nil, hdigits, hne, hdot]

/-- A file is unpacked under its own name. -/
lemma fileName?_storedPath {name : String} (h : FileName.IsComponent name.toList) (index : Nat) :
    fileName? (storedPath index name) = some name := by
  have hsteps := steps_storedPath h index
  obtain ⟨hne, hdot, hup, hslash, hnull⟩ := h
  have hdigits : Nat.toDigits 10 index ≠ ['.', '.'] := fun heq =>
    notMem_toDigits (c := '.') rfl index (by rw [heq]; exact List.mem_cons_self)
  have hsafe : ¬((storedPath index name).toList.contains '\x00' = true ∨
      (storedPath index name).toList.head? = some '/' ∨
      staysBelow 0 (FileName.steps (storedPath index name).toList) = false) := by
    rintro (hmem | hhead | hclimbs)
    · rw [List.contains_iff_mem, toList_storedPath, List.mem_append, List.mem_cons] at hmem
      obtain hmem | hmem | hmem := hmem
      · exact notMem_toDigits rfl index hmem
      · cases hmem
      · exact hnull hmem
    · have hmem : '/' ∈ Nat.toDigits 10 index := by
        rw [toList_storedPath, List.head?_append_of_ne_nil _ Nat.toDigits_ne_nil] at hhead
        exact List.mem_of_head? hhead
      exact notMem_toDigits rfl index hmem
    · simp [hsteps, staysBelow, hdigits, hup] at hclimbs
  simp only [fileName?]
  rw [if_neg hsafe, FileName.ofPath?, hsteps]
  simp [hup]

/-- A path in the archive is not that of a folder, if its name does not end like one. -/
lemma isFolder_storedPath {name : String} (h : FileName.IsComponent name.toList)
    (hback : name.toList.getLast? ≠ some '\\') (index : Nat) : isFolder (storedPath index name) = false := by
  obtain ⟨hne, -, -, hslash, -⟩ := h
  have hlast : (storedPath index name).toList.getLast? = some (name.toList.getLast hne) := by
    rw [toList_storedPath, List.getLast?_append_of_ne_nil _ (List.cons_ne_nil _ _), List.getLast?_cons,
      List.getLast?_eq_getLast_of_ne_nil hne]
    rfl
  have hlast' : name.toList.getLast hne ≠ '/' := fun heq => hslash (heq ▸ List.getLast_mem hne)
  rw [List.getLast?_eq_getLast_of_ne_nil hne] at hback
  have hback' : name.toList.getLast hne ≠ '\\' := fun heq => hback (congrArg some heq)
  rw [isFolder, hlast]
  simp [hlast', hback']

/-- Stored paths tell the numbers of their files apart. -/
lemma storedPath_inj {i j : Nat} {name other : String} (hslash : '/' ∉ name.toList)
    (h : storedPath i name = storedPath j other) : i = j := by
  have hchars := congrArg String.toList h
  rw [toList_storedPath, toList_storedPath,
    List.append_cons_inj_of_notMem (notMem_toDigits rfl i) hslash] at hchars
  exact FileName.toDigits_injective hchars.1

/-! ### Unpacking -/

/-- The number of bytes of the files up to each. -/
def runningSizes (files : List MemoryFile) : List Nat :=
  (List.range files.length).map fun i => ((files.take (i + 1)).map (·.data.length)).sum

/-- A file is told about with its name and size, and is in the folder under its path. -/
structure Arrives (folder : Folder) (f : MemoryFile) (r : Received) : Prop where
  name : r.name = f.name
  size : r.size = f.data.length
  found : folder.find? r.path = some f.data

/-- What was unpacked of some files into a folder. -/
structure Unpacks (folder : Folder) (files : List MemoryFile) (x : Extraction) : Prop where
  /-- Each file has arrived, in order. -/
  arrived : List.Forall₂ (Arrives x.folder) files x.received
  /-- No path is taken twice. -/
  nodup : (x.received.map (·.path)).Nodup
  /-- The progress counts the bytes up to each file. -/
  progress : x.progress = runningSizes files
  /-- What was in the folder is still there. -/
  kept : ∀ name data, folder.find? name = some data → x.folder.find? name = some data
  size_le : x.folder.size ≤ folder.size + files.length

variable {folder : Folder} {files : List MemoryFile} {f : MemoryFile} {x : Extraction}

/-- Of no files nothing was unpacked. -/
lemma unpacks_nil (folder : Folder) : Unpacks folder [] { folder } where
  arrived := .nil
  nodup := List.nodup_nil
  progress := rfl
  kept _ _ h := h
  size_le := le_rfl

/-- The last of the running sizes is the sum of all sizes. -/
lemma runningSizes_append (files : List MemoryFile) (f : MemoryFile) :
    runningSizes (files ++ [f]) = runningSizes files ++ [(files.map (·.data.length)).sum + f.data.length] := by
  have hbefore : ∀ i ∈ List.range files.length,
      (((files ++ [f]).take (i + 1)).map (·.data.length)).sum = ((files.take (i + 1)).map (·.data.length)).sum := by
    intro i hi
    rw [List.take_append_of_le_length (List.mem_range.1 hi)]
  rw [runningSizes, List.length_append, List.length_singleton, List.range_succ, List.map_append,
    List.map_congr_left hbefore, runningSizes]
  simp [List.take_of_length_le]

/-- What is the same for each file and what has arrived of it is the same for all of them. -/
lemma map_eq_of_arrived {β : Type} {received : List Received} (h : List.Forall₂ (Arrives folder) files received)
    {g : Received → β} {g' : MemoryFile → β} (hg : ∀ f r, Arrives folder f r → g r = g' f) :
    received.map g = files.map g' := by
  induction h with
  | nil => rfl
  | cons hfirst _ ih => rw [List.map_cons, List.map_cons, hg _ _ hfirst, ih]

/-- Every file that has arrived is in the folder. -/
lemma contains_of_arrived {received : List Received} (h : List.Forall₂ (Arrives folder) files received) :
    ∀ path ∈ received.map (·.path), folder.contains path = true := by
  induction h with
  | nil => exact List.forall_mem_nil _
  | cons hfirst _ ih =>
    rw [List.map_cons, List.forall_mem_cons]
    exact ⟨by rw [Folder.contains, hfirst.found]; rfl, ih⟩

/-- As many bytes are counted as the files have. -/
lemma Unpacks.written_eq (h : Unpacks folder files x) : x.written = (files.map (·.data.length)).sum := by
  have hsizes : x.received.map (·.size) = files.map (·.data.length) :=
    map_eq_of_arrived h.arrived fun f r hr => hr.size
  rw [← hsizes, Extraction.written, List.sum_eq_foldl, List.foldl_map]

/-- Writing a file gives it the free name, tells of it, and counts its bytes. -/
lemma writeFile_eq {name : String} {data : Bytes} {folder' : Folder}
    (h : x.folder.create (x.folder.freeName name) data = some folder') :
    writeFile name { data, intact := true } x =
      .ok () { folder := folder'
               received := x.received ++ [{ name, path := x.folder.freeName name, size := data.length }]
               progress := x.progress ++ [x.written + data.length] } := by
  have hget : ∀ (g : Extraction → Extractor Unit), (get >>= g) x = g x x := fun _ => rfl
  rw [writeFile, hget]
  simp only [h]
  rfl

/-- One more file is unpacked under a name that is not taken, if there is room for its number. -/
theorem Unpacks.write (h : Unpacks folder files x) (hf : f.IsOrdinary)
    (hroom : folder.size + files.length + 1 < 10 ^ MemoryFile.digitLimit) :
    ∃ x', writeFile f.name { data := f.data, intact := true } x = .ok () x' ∧ Unpacks folder (files ++ [f]) x' := by
  have hfree := Folder.contains_freeName x.folder f.name
  have hsize := h.size_le
  have hlength := Folder.utf8ByteSize_freeName_le x.folder f.name (k := MemoryFile.digitLimit) (by decide) (by omega)
  have hshort := hf.short
  have hlimit : MemoryFile.nameLimit + 1 + MemoryFile.digitLimit = Folder.greatestNameLength := rfl
  -- The free name has a number of at most as many digits as the name leaves room for.
  obtain ⟨folder', hcreate⟩ := Folder.exists_create x.folder (x.folder.freeName f.name) f.data (by omega)
  have hfind := Folder.find?_create hcreate
  have hkept : ∀ name data, x.folder.find? name = some data → folder'.find? name = some data := by
    intro name data hname
    rw [hfind, if_neg, hname]
    rintro rfl
    rw [Folder.contains, hname] at hfree
    cases hfree
  have hpath : x.folder.freeName f.name ∉ x.received.map (·.path) := by
    intro hmem
    rw [contains_of_arrived h.arrived _ hmem] at hfree
    cases hfree
  have hnew : Arrives folder' f { name := f.name, path := x.folder.freeName f.name, size := f.data.length } :=
    ⟨rfl, rfl, by rw [hfind, if_pos rfl]⟩
  refine ⟨_, writeFile_eq hcreate, ?_⟩
  constructor
  · refine List.rel_append (h.arrived.imp fun g r hr => ?_) (.cons hnew .nil)
    exact ⟨hr.name, hr.size, hkept _ _ hr.found⟩
  · rw [List.map_append, List.map_singleton]
    exact List.nodup_append'.2 ⟨h.nodup, List.nodup_singleton _, by simpa using hpath⟩
  · rw [h.progress, h.written_eq, runningSizes_append]
  · exact fun name data hname => hkept name data (h.kept name data hname)
  · have hadded := Folder.size_create_le hcreate
    rw [List.length_append, List.length_singleton]
    change folder'.size ≤ _
    omega

/-- An ordinary file that was stored is extracted by writing it under its own name. -/
lemma extractEntry_stored (hf : f.IsOrdinary) (index : Nat) :
    extractEntry (f.stored index).entry = writeFile f.name { data := f.data, intact := true } := by
  have hpath : (f.stored index).entry.path = storedPath index f.name := Utf8.repair_encode _
  have hcontent : (f.stored index).entry.content = some { data := f.data, intact := true } := rfl
  rw [extractEntry, hcontent]
  simp only [hpath, isFolder_storedPath hf.component hf.notFolder, fileName?_storedPath hf.component]
  rfl

/-- The files as they stand in an archive, numbered from the given number on. -/
def storedFrom : (index : Nat) → List MemoryFile → List Stored
  | _, [] => []
  | index, f :: files => f.stored index :: storedFrom (index + 1) files

/-- After a step that succeeds, extraction goes on. -/
lemma bind_of_ok {step : Extractor Unit} {next : Unit → Extractor Unit} {x y : Extraction}
    (h : step x = .ok () y) : (step >>= next) x = next () y := by
  simp only [bind, EStateM.bind, h]

/-- The files are unpacked one after the other. -/
lemma Unpacks.extract (rest : List MemoryFile) (index : Nat) (h : Unpacks folder files x)
    (hrest : ∀ f ∈ rest, f.IsOrdinary)
    (hroom : folder.size + (files ++ rest).length < 10 ^ MemoryFile.digitLimit) :
    ∃ x', ((storedFrom index rest).map Stored.entry).forM extractEntry x = .ok () x' ∧
      Unpacks folder (files ++ rest) x' := by
  -- What was unpacked so far is carried along, with the numbers of the files that are left.
  induction rest generalizing files x index with
  | nil => exact ⟨x, rfl, by rwa [List.append_nil]⟩
  | cons f rest ih =>
    rw [List.forall_mem_cons] at hrest
    obtain ⟨hf, hrest⟩ := hrest
    rw [List.length_append, List.length_cons] at hroom
    obtain ⟨y, hy, hwritten⟩ := h.write hf (by omega)
    obtain ⟨z, hz, hdone⟩ := ih (index + 1) hwritten hrest
      (by simp only [List.length_append, List.length_singleton]; omega)
    refine ⟨z, ?_, by rwa [List.append_assoc, List.singleton_append] at hdone⟩
    rw [storedFrom, List.map_cons, List.forM, extractEntry_stored hf, bind_of_ok hy]
    exact hz

/-! ### Packing -/

/-- A path in the archive is short, if its number is. -/
lemma length_path_le (hf : f.IsOrdinary) {index : Nat} (hindex : index < 10 ^ MemoryFile.digitLimit) :
    (f.stored index).path.length ≤ wideCount := by
  have hdigits := Nat.toDigits_length 10 index MemoryFile.digitLimit (by decide) hindex
  have hnumber : String.utf8Len (Nat.toDigits 10 index) = (Nat.toDigits 10 index).length :=
    FileName.utf8Len_of_isDigit fun c hc => Nat.isDigit_of_mem_toDigits (by decide) (by decide) hc
  have hname := hf.short
  rw [← String.ofList_toList (s := f.name), String.utf8ByteSize_ofList] at hname
  have hpath : (f.stored index).path.length = (storedPath index f.name).utf8ByteSize := rfl
  rw [hpath, ← String.ofList_toList (s := storedPath index f.name), String.utf8ByteSize_ofList, toList_storedPath,
    String.utf8Len_append, String.utf8Len_cons, hnumber]
  have hslash : ('/' : Char).utf8Size = 1 := rfl
  have hlimit : MemoryFile.digitLimit = 54 := rfl
  have hshort : MemoryFile.nameLimit = 200 := rfl
  have hwide : wideCount = 65535 := rfl
  omega

/-- A file whose path and size fit is accepted. -/
lemma check_of_le {g : Stored} (hpath : g.path.length ≤ wideCount) (hdata : g.data.length ≤ wide) :
    g.check = .ok () := by
  rw [Stored.check, if_neg (Nat.not_lt.2 hpath), if_neg (Nat.not_lt.2 hdata)]

/-- A file that is not too large is stored. -/
lemma stored_shared (disk : String → Option Bytes) (hf : f.IsOrdinary) {index : Nat}
    (hindex : index < 10 ^ MemoryFile.digitLimit) (hdata : f.data.length ≤ wide) :
    stored disk index f.shared = .ok (f.stored index) := by
  have hpath := length_path_le hf hindex
  have hempty : Stored.check { path := Utf8.encode (storedPath index f.name), data := [] } = .ok () :=
    check_of_le hpath (Nat.zero_le _)
  have hchecked : (f.stored index).check = .ok () := check_of_le hpath hdata
  have hname : f.shared.name = f.name := rfl
  have hcontent : contentOf disk f.shared.content = .ok f.data := rfl
  simp only [stored, hname, hempty, hcontent, bind, Except.bind]
  rw [MemoryFile.stored] at hchecked
  rw [hchecked]
  rfl

/-- The files are stored one after the other. -/
lemma mapM_stored (disk : String → Option Bytes) (index : Nat) (files : List MemoryFile)
    (hfiles : ∀ f ∈ files, f.IsOrdinary ∧ f.data.length ≤ wide)
    (hroom : index + files.length ≤ 10 ^ MemoryFile.digitLimit) :
    ((files.map MemoryFile.shared).zipIdx index).mapM (fun x => stored disk x.2 x.1) =
      .ok (storedFrom index files) := by
  induction files generalizing index with
  | nil => rfl
  | cons f files ih =>
    rw [List.forall_mem_cons] at hfiles
    obtain ⟨⟨hf, hdata⟩, hrest⟩ := hfiles
    rw [List.length_cons] at hroom
    rw [List.map_cons, List.zipIdx_cons, List.mapM_cons, stored_shared disk hf (by omega) hdata,
      ih (index + 1) hrest (by omega)]
    rfl

/-- The archive of ordinary files in memory is built, whatever is on the disk. -/
lemma build_shared (disk : String → Option Bytes) (hfiles : ∀ f ∈ files, f.IsOrdinary ∧ f.data.length ≤ wide)
    (hroom : files.length ≤ 10 ^ MemoryFile.digitLimit) :
    build disk (files.map MemoryFile.shared) = .ok (encode (storedFrom 0 files)) := by
  have hstored := mapM_stored disk 0 files hfiles (by omega)
  rw [build]
  change (((files.map MemoryFile.shared).zipIdx 0).mapM fun x => stored disk x.2 x.1).map encode = _
  rw [hstored]
  rfl

/-- What is stored of some files is one of them under a number of theirs. -/
lemma exists_of_mem_storedFrom {index : Nat} {g : Stored} (h : g ∈ storedFrom index files) :
    ∃ f ∈ files, ∃ j, index ≤ j ∧ j < index + files.length ∧ g = f.stored j := by
  induction files generalizing index with
  | nil => cases h
  | cons f files ih =>
    rw [storedFrom] at h
    obtain rfl | h := List.mem_cons.1 h
    · exact ⟨f, List.mem_cons_self, index, le_rfl, by rw [List.length_cons]; omega, rfl⟩
    · obtain ⟨f', hf', j, hlow, hhigh, rfl⟩ := ih h
      exact ⟨f', List.mem_cons_of_mem f hf', j, by omega, by rw [List.length_cons]; omega, rfl⟩

/-- Files with different numbers have different paths. -/
lemma nodup_path_storedFrom (index : Nat) (hfiles : ∀ f ∈ files, f.IsOrdinary) :
    ((storedFrom index files).map Stored.path).Nodup := by
  induction files generalizing index with
  | nil => exact List.nodup_nil
  | cons f files ih =>
    rw [List.forall_mem_cons] at hfiles
    obtain ⟨hf, hrest⟩ := hfiles
    rw [storedFrom, List.map_cons, List.nodup_cons]
    refine ⟨fun hmem => ?_, ih (index + 1) hrest⟩
    obtain ⟨g, hg, heq⟩ := List.mem_map.1 hmem
    obtain ⟨f', -, j, hlow, -, rfl⟩ := exists_of_mem_storedFrom hg
    -- Were the paths the same, the numbers would be, but those of the rest are greater.
    have hsame : index = j := storedPath_inj hf.component.2.2.2.1 (Utf8.encode_injective heq.symm)
    omega

/-- What is stored of ordinary files has short paths that can be read. -/
lemma readable_storedFrom (hfiles : ∀ f ∈ files, f.IsOrdinary) (hroom : files.length < 10 ^ MemoryFile.digitLimit) :
    ∀ g ∈ storedFrom 0 files, g.path.length ≤ wideCount ∧ ∃ s, g.path = Utf8.encode s := by
  intro g hg
  obtain ⟨f, hf, j, -, hj, rfl⟩ := exists_of_mem_storedFrom hg
  exact ⟨length_path_le (hfiles f hf) (by omega), _, rfl⟩

/-! ### The names are accepted -/

/-- A receiver that has got the announced names in any order finds no fault. -/
lemma mismatch?_eq_none {request : SendRequest} {names : List String}
    (hnames : (request.files.map (·.name)).Perm names) (hcount : names = [] → request.fileCount = 0) :
    Receiver.mismatch? request names = none := by
  rw [Receiver.mismatch?_eq_none_iff]
  by_cases hfiles : request.files = []
  · rw [hfiles] at hnames
    obtain rfl := hnames.nil_eq.symm
    refine .counted hfiles ?_
    rw [hcount rfl]
    rfl
  · exact .listed hfiles hnames.symm

end DirectShare.Archive
