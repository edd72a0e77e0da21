/-!
# File names

A file name is one component of a path. The part after its last dot is its extension, unless nothing
stands before that dot.

`FileName.IsComponent` says that a text names a file in a folder. `FileName.components` are the
parts of a path, `FileName.steps` those that lead somewhere, and `FileName.ofPath?` is the name of
the file at its end. A name is cut at its last dot by `FileName.splitExtension`, and
`FileName.numbered` puts a number there.
-/

namespace DirectShare.FileName

/-- Whether a text names a file in a folder: it is one component, and not the folder itself nor the
folder above. -/
def IsComponent (name : List Char) : Prop :=
  name ≠ [] ∧ name ≠ ['.'] ∧ name ≠ ['.', '.'] ∧ '/' ∉ name ∧ '\x00' ∉ name

instance (name : List Char) : Decidable (IsComponent name) :=
  inferInstanceAs (Decidable (_ ∧ _ ∧ _ ∧ _ ∧ _))

/-- The parts of a path between its slashes. -/
def components : List Char → List (List Char)
  | [] => [[]]
  | c :: cs =>
    if c = '/' then [] :: components cs
    else match components cs with
      | [] => [[c]]
      | p :: ps => (c :: p) :: ps

/-- The parts of a path that lead somewhere: not the empty ones, and not single dots. -/
def steps (path : List Char) : List (List Char) := (components path).filter fun p => p ≠ [] ∧ p ≠ ['.']

/-- The name of the file at the end of a path: its last step, unless it leads up. -/
def ofPath? (path : List Char) : Option (List Char) := (steps path).getLast?.filter (· ≠ ['.', '.'])

/-- The text before and after the last occurrence of a character. -/
def splitLast (c : Char) : List Char → Option (List Char × List Char)
  | [] => none
  | x :: xs =>
    match splitLast c xs with
    | some (before, after) => some (x :: before, after)
    | none => if x = c then some ([], xs) else none

/-- A name before and after its last dot, if something stands before it. -/
def splitExtension (name : List Char) : Option (List Char × List Char) :=
  (splitLast '.' name).filter fun (stem, _) => !stem.isEmpty

/-- A name with a number before its extension, or at its end if it has none. -/
def numbered (name : List Char) (n : Nat) : List Char :=
  match splitExtension name with
  | some (stem, extension) => stem ++ '_' :: Nat.toDigits 10 n ++ '.' :: extension
  | none => name ++ '_' :: Nat.toDigits 10 n

/-- Every path has a component, which may be empty. -/
theorem components_ne_nil (cs : List Char) : components cs ≠ [] := by
  cases cs with
  | nil => simp [components]
  | cons c cs =>
    rw [components]
    split
    · simp
    · split <;> simp

/-- No part of a path holds a slash. -/
theorem slash_notMem_of_mem_components {cs p : List Char} (h : p ∈ components cs) : '/' ∉ p := by
  induction cs generalizing p with
  | nil => simp_all [components]
  | cons c cs ih =>
    rw [components] at h
    split at h
    · rcases List.mem_cons.1 h with rfl | h
      · simp
      · exact ih h
    · next hc =>
      split at h
      · next hcs => exact absurd hcs (components_ne_nil cs)
      · next q qs hcs =>
        rcases List.mem_cons.1 h with rfl | h
        · simpa [Ne.symm hc] using ih (hcs ▸ List.mem_cons_self)
        · exact ih (hcs ▸ List.mem_cons_of_mem q h)

/-- The parts of a path hold no other characters than the path. -/
theorem mem_of_mem_components {cs p : List Char} {c : Char} (hp : p ∈ components cs) (hc : c ∈ p) : c ∈ cs := by
  induction cs generalizing p with
  | nil => simp_all [components]
  | cons x xs ih =>
    rw [components] at hp
    split at hp
    · rcases List.mem_cons.1 hp with rfl | hp
      · contradiction
      · exact List.mem_cons_of_mem x (ih hp hc)
    · split at hp
      · simp_all
      · next q qs hqs =>
        rcases List.mem_cons.1 hp with rfl | hp
        · rcases List.mem_cons.1 hc with rfl | hc
          · exact List.mem_cons_self
          · exact List.mem_cons_of_mem x (ih (hqs ▸ List.mem_cons_self) hc)
        · exact List.mem_cons_of_mem x (ih (hqs ▸ List.mem_cons_of_mem q hp) hc)

/-- The name at the end of a path without null character is one component. -/
theorem isComponent_of_ofPath? {path name : List Char} (hnull : '\x00' ∉ path)
    (h : ofPath? path = some name) : IsComponent name := by
  obtain ⟨hlast, hup⟩ := Option.filter_eq_some_iff.1 h
  have hmem := List.mem_of_getLast? hlast
  simp only [steps, List.mem_filter, decide_eq_true_eq] at hmem
  obtain ⟨hcomp, hne, hdot⟩ := hmem
  exact ⟨hne, hdot, by simpa using hup, slash_notMem_of_mem_components hcomp,
    fun hn => hnull (mem_of_mem_components hcomp hn)⟩

/-- A text is not cut exactly if the character is not in it. -/
theorem splitLast_eq_none_iff {c : Char} {cs : List Char} : splitLast c cs = none ↔ c ∉ cs := by
  induction cs with
  | nil => simp [splitLast]
  | cons x xs ih =>
    rw [splitLast]
    split
    · next hxs => simp_all
    · next hxs => simp [ih.1 hxs, eq_comm]

/-- A text is split at the character whose rest does not hold it. -/
theorem splitLast_append {c : Char} {before after : List Char} (h : c ∉ after) :
    splitLast c (before ++ c :: after) = some (before, after) := by
  induction before with
  | nil => simp [splitLast, splitLast_eq_none_iff.2 h]
  | cons x xs ih => simp [splitLast, ih]

/-- What is split is the text before, the character and the text after. -/
theorem append_of_splitLast {c : Char} {cs before after : List Char}
    (h : splitLast c cs = some (before, after)) : cs = before ++ c :: after ∧ c ∉ after := by
  induction cs generalizing before with
  | nil => simp [splitLast] at h
  | cons x xs ih =>
    rw [splitLast] at h
    split at h
    · next b a hxs =>
      simp only [Option.some.injEq, Prod.mk.injEq] at h
      obtain ⟨rfl, rfl⟩ := h
      obtain ⟨rfl, hafter⟩ := ih hxs
      exact ⟨rfl, hafter⟩
    · next hxs =>
      split at h
      · next hx =>
        simp only [Option.some.injEq, Prod.mk.injEq] at h
        obtain ⟨rfl, rfl⟩ := h
        exact ⟨by simp [hx], splitLast_eq_none_iff.1 hxs⟩
      · contradiction

end DirectShare.FileName
