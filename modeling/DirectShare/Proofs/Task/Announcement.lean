import Mathlib
import DirectShare.Task.Announcement

/-!
# What an announcement tells

An announcement tells of a task all but the contents of its files. `SharedTask.byteCount` is the number of bytes of
all files without any bound, and `SharedTask.totalSize?_eq` says that adding them up in 64 bits gives this number, or
fails exactly if it needs more: sizes only add to the sum, so that no addition before the last one leaves the 64 bits
without the whole doing so. `SharedTask.HasType` is the type of a task by its meaning, which
`SharedTask.hasType_mimeType` and `SharedTask.HasType.unique` make the same as the computed one. `SendRequest.Tells`
collects what a request says of a task, and `SharedTask.tells_announce` shows it of an announcement.
-/

namespace DirectShare

namespace SharedTask

/-! ### The size -/

/-- The number of bytes of all files. -/
def byteCount (task : SharedTask) : Nat := (task.files.map (·.size.toNat)).sum

/-- Adding up sizes gives their sum, unless that leaves the 64 bits. -/
lemma foldlM_addTo? (files : List SharedFile) (n : UInt64) :
    files.foldlM SharedFile.addTo? n =
      if n.toNat + (files.map (·.size.toNat)).sum < UInt64.size
      then some (UInt64.ofNat (n.toNat + (files.map (·.size.toNat)).sum)) else none := by
  induction files generalizing n with
  | nil =>
    rw [List.map_nil, List.sum_nil, Nat.add_zero, if_pos n.toNat_lt, UInt64.ofNat_toNat]
    rfl
  | cons file files ih =>
    rw [List.foldlM_cons, List.map_cons, List.sum_cons, SharedFile.addTo?]
    by_cases hfits : n.toNat + file.size.toNat < UInt64.size
    · have hsum : (n + file.size).toNat = n.toNat + file.size.toNat := by
        rw [UInt64.toNat_add]
        exact Nat.mod_eq_of_lt hfits
      rw [if_pos hfits, ← Nat.add_assoc, ← hsum]
      exact ih (n + file.size)
    · have hall : ¬n.toNat + (file.size.toNat + (files.map (·.size.toNat)).sum) < UInt64.size := by omega
      rw [if_neg hfits, if_neg hall]
      rfl

/-- The size of a task is the number of bytes of all files, unless that leaves the 64 bits. -/
lemma totalSize?_eq (task : SharedTask) :
    task.totalSize? = if task.byteCount < UInt64.size then some (UInt64.ofNat task.byteCount) else none := by
  rw [totalSize?, foldlM_addTo?, UInt64.toNat_zero, Nat.zero_add]
  rfl

/-- A task has a size if the number of its bytes fits into 64 bits. -/
lemma totalSize?_of_lt {task : SharedTask} (h : task.byteCount < UInt64.size) :
    task.totalSize? = some (UInt64.ofNat task.byteCount) := by
  rw [totalSize?_eq, if_pos h]

/-- A task has no size exactly if the number of its bytes leaves the 64 bits. -/
lemma totalSize?_eq_none_iff {task : SharedTask} : task.totalSize? = none ↔ UInt64.size ≤ task.byteCount := by
  rw [totalSize?_eq]
  split_ifs with hfits
  · simpa using hfits
  · simpa using hfits

/-- The size of a task is the number of its bytes. -/
lemma toNat_of_totalSize? {task : SharedTask} {totalSize : UInt64} (h : task.totalSize? = some totalSize) :
    totalSize.toNat = task.byteCount := by
  rw [totalSize?_eq] at h
  split_ifs at h with hfits
  obtain rfl := Option.some.inj h
  exact UInt64.toNat_ofNat_of_lt' hfits

/-! ### The type -/

/-- The media types that stand for a task. -/
inductive HasType (task : SharedTask) : String → Prop where
  /-- All files are of one type. -/
  | common {type : String} : task.files ≠ [] → (∀ file ∈ task.files, file.mimeType = type) → HasType task type
  /-- Two files are of different types. -/
  | mixed {file file' : SharedFile} : file ∈ task.files → file' ∈ task.files → file.mimeType ≠ file'.mimeType →
      HasType task "*/*"
  /-- There is only a text. -/
  | text : task.files = [] → task.text ≠ none → HasType task "text/plain"
  /-- There is nothing. -/
  | nothing : task.files = [] → task.text = none → HasType task "*/*"

/-- The computed type stands for the task. -/
theorem hasType_mimeType (task : SharedTask) : task.HasType task.mimeType := by
  rw [mimeType]
  cases hfiles : task.files with
  | nil =>
    cases htext : task.text with
    | none => exact .nothing hfiles htext
    | some text => exact .text hfiles (by simp [htext])
  | cons first rest =>
    by_cases hsame : rest.all (·.mimeType = first.mimeType) = true
    · simp only [if_pos hsame]
      refine .common (by simp [hfiles]) fun file hfile => ?_
      rw [hfiles, List.mem_cons] at hfile
      obtain rfl | hfile := hfile
      · rfl
      · simpa using List.all_eq_true.1 hsame file hfile
    · simp only [if_neg hsame]
      obtain ⟨file, hfile, hother⟩ : ∃ file ∈ rest, file.mimeType ≠ first.mimeType := by simpa using hsame
      exact .mixed (by simp [hfiles, hfile]) (by simp [hfiles]) hother

/-- A task has one type only. -/
theorem HasType.unique {task : SharedTask} {type type' : String} (h : task.HasType type) (h' : task.HasType type') :
    type = type' := by
  cases h with
  | common hne hall =>
    obtain ⟨first, hfirst⟩ := List.exists_mem_of_ne_nil _ hne
    cases h' with
    | common _ hall' => exact (hall first hfirst).symm.trans (hall' first hfirst)
    | mixed hfile hfile' hdiffer => exact absurd ((hall _ hfile).trans (hall _ hfile').symm) hdiffer
    | text hnil => exact absurd hnil hne
    | nothing hnil => exact absurd hnil hne
  | mixed hfile hfile' hdiffer =>
    cases h' with
    | common _ hall' => exact absurd ((hall' _ hfile).trans (hall' _ hfile').symm) hdiffer
    | mixed => rfl
    | text hnil => exact absurd (hnil ▸ hfile) List.not_mem_nil
    | nothing => rfl
  | text hnil htext =>
    cases h' with
    | common hne => exact absurd hnil hne
    | mixed hfile => exact absurd (hnil ▸ hfile) List.not_mem_nil
    | text => rfl
    | nothing _ hnone => exact absurd hnone htext
  | nothing hnil hnone =>
    cases h' with
    | common hne => exact absurd hnil hne
    | mixed => rfl
    | text _ htext => exact absurd hnone htext
    | nothing => rfl

end SharedTask

/-! ### Announcements -/

/-- What a request tells of a task. -/
structure SendRequest.Tells (request : SendRequest) (task : SharedTask) : Prop where
  taskId : request.taskId = some task.id
  id : request.id = some task.id
  /-- The files are listed in their order. -/
  files : List.Forall₂ (fun summary file => summary.name = file.name ∧ summary.size = file.size)
    request.files task.files
  /-- A text without files counts as one. -/
  fileCount : request.fileCount.toNat = if task.files = [] ∧ task.text ≠ none then 1 else task.files.length
  mimeType : ∀ type, request.mimeType = type ↔ task.HasType type
  text : request.catShareText = task.text
  totalSize : request.totalSize.toNat = task.byteCount

/-- An announcement of less than 2^32 files tells its task. -/
theorem SharedTask.tells_announce {task : SharedTask} {totalSize : UInt64} (senderId senderName : String)
    (hfew : task.files.length < UInt32.size) (hsize : task.totalSize? = some totalSize) :
    (task.announce totalSize senderId senderName).Tells task where
  taskId := rfl
  id := rfl
  files := by
    show List.Forall₂ _ (task.files.map _) task.files
    rw [List.forall₂_map_left_iff, List.forall₂_same]
    exact fun file _ => ⟨rfl, rfl⟩
  fileCount := by
    show task.fileCount.toNat = _
    rw [SharedTask.fileCount]
    by_cases htext : task.text.isSome = true ∧ task.files = []
    · rw [if_pos htext, if_pos ⟨htext.2, Option.isSome_iff_ne_none.1 htext.1⟩]
      rfl
    · rw [if_neg htext, if_neg fun h => htext ⟨Option.isSome_iff_ne_none.2 h.2, h.1⟩]
      exact UInt32.toNat_ofNat_of_lt' hfew
  mimeType type := by
    constructor
    · rintro rfl
      exact task.hasType_mimeType
    · exact task.hasType_mimeType.unique
  text := rfl
  totalSize := SharedTask.toNat_of_totalSize? hsize

end DirectShare
