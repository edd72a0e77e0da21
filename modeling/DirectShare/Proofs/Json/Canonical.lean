import Mathlib
import DirectShare.Proofs.Json.Fields

/-!
# Values that were read

However a text was written, the value that is read from it lists the members of its objects by name and is
not nested too deep. If its numbers are whole, it is therefore readable itself.

`Json.value?_sound` goes through the tree of a text: the value of an object is made by `Json.ofFields`, which
sorts the members, and the depth of a tree is checked on the way down. `Json.isReadable_of_parse` is the case
of a whole text.
-/

namespace DirectShare.Json

/-- A member after a value was put under a name is that value, or was there before. -/
lemma mem_insert {name : String} {value : Json} {members : List (String × Json)} {m : String × Json}
    (h : m ∈ insert name value members) : m = (name, value) ∨ m ∈ members := by
  induction members with
  | nil => exact .inl (List.mem_singleton.1 h)
  | cons first members ih =>
    rw [insert] at h
    split_ifs at h with hlt heq
    · exact List.mem_cons.1 h
    · exact (List.mem_cons.1 h).imp_right (List.mem_cons_of_mem _)
    · obtain rfl | h := List.mem_cons.1 h
      · exact .inr List.mem_cons_self
      · exact (ih h).imp_right (List.mem_cons_of_mem _)

/-- Sorting fields adds none. -/
lemma mem_of_mem_sortFields {fields : List (String × Json)} {m : String × Json} (h : m ∈ sortFields fields) :
    m ∈ fields := by
  induction fields using List.reverseRecOn with
  | nil => exact h
  | append_singleton fields last ih =>
    rw [sortFields, List.foldl_append] at h
    obtain rfl | h := mem_insert h
    · exact List.mem_append_right _ List.mem_cons_self
    · exact List.mem_append_left _ (ih h)

/-! ### The values of trees -/

mutual

/-- The value of a tree is sorted, and nested at most as deep as its reader goes. -/
theorem value?_sound : ∀ (t : Tree) (n : Nat) {v : Json}, t.value? n = some v → v.IsSorted ∧ v.levels ≤ n
  | .null, n, v, h | .bool _, n, v, h => by
    cases h
    exact ⟨trivial, Nat.zero_le n⟩
  | .number a, n, v, h | .string a, n, v, h => by
    obtain ⟨_, -, rfl⟩ := Option.map_eq_some_iff.1 h
    exact ⟨trivial, Nat.zero_le n⟩
  | .array items, 0, v, h | .object members, 0, v, h => by cases h
  -- A level is taken off for the items, so their own depth is bounded by what is left.
  | .array items, n + 1, v, h => by
    obtain ⟨vs, hvs, rfl⟩ := Option.map_eq_some_iff.1 h
    have hitems := items?_sound items n hvs
    exact ⟨itemsAreSorted_iff.2 fun v hv => (hitems v hv).1,
      Nat.succ_le_succ (itemLevels_le_iff.2 fun v hv => (hitems v hv).2)⟩
  | .object members, n + 1, v, h => by
    obtain ⟨fields, hfields, rfl⟩ := Option.map_eq_some_iff.1 h
    have hmembers := members?_sound members n hfields
    exact ⟨⟨pairwise_sortFields fields,
        membersAreSorted_iff.2 fun m hm => (hmembers m (mem_of_mem_sortFields hm)).1⟩,
      Nat.succ_le_succ (memberLevels_le_iff.2 fun m hm => (hmembers m (mem_of_mem_sortFields hm)).2)⟩

/-- The values of items are sorted, and nested at most as deep as their reader goes. -/
lemma items?_sound : ∀ (ts : List Tree) (n : Nat) {vs : List Json}, Tree.value?.items? n ts = some vs →
    ∀ v ∈ vs, v.IsSorted ∧ v.levels ≤ n
  | [], n, vs, h => by
    cases h
    exact List.forall_mem_nil _
  | t :: ts, n, vs, h => by
    rw [Tree.value?.items?] at h
    split at h
    · next v vs hv hvs =>
      cases h
      exact List.forall_mem_cons.2 ⟨value?_sound t n hv, items?_sound ts n hvs⟩
    · cases h

/-- The values of members are sorted, and nested at most as deep as their reader goes. -/
lemma members?_sound : ∀ (ms : List (Option String × Tree)) (n : Nat) {fields : List (String × Json)},
    Tree.value?.members? n ms = some fields → ∀ m ∈ fields, m.2.IsSorted ∧ m.2.levels ≤ n
  | [], n, fields, h => by
    cases h
    exact List.forall_mem_nil _
  | (none, t) :: ms, n, fields, h => by cases h
  | (some name, t) :: ms, n, fields, h => by
    simp only [Tree.value?.members?] at h
    split at h
    · next v vs hv hvs =>
      cases h
      exact List.forall_mem_cons.2 ⟨value?_sound t n hv, members?_sound ms n hvs⟩
    · cases h

end

/-! ### The values of texts -/

variable {s : String} {v : Json}

/-- What was read, with whole numbers, is readable. -/
theorem isReadable_of_parse (h : parse s = some v) (hv : v.IsWhole) : v.IsReadable maxLevels := by
  obtain ⟨t, -, ht⟩ := Option.bind_eq_some_iff.1 h
  obtain ⟨hsorted, hlevels⟩ := value?_sound t maxLevels ht
  exact ⟨hv, hsorted, hlevels⟩

end DirectShare.Json
