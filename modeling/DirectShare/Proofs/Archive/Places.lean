import Mathlib
import DirectShare.Archive.Place

/-!
# Places in an archive

Reading in a place is reading of what stands behind other bytes. Of the places of a pattern the last one that
gives something decides, and a record of fixed length cannot be read too close to the end.

The places of a pattern are listed from the end (`findSome?_occurrences`) or from a place on
(`head?_occurrencesWithin`), and the first one that gives something decides. A reader that `Takes` a fixed
number of bytes gives nothing where fewer are left; `readAt_endRecord_eq_none` says so of the end record.
-/

namespace DirectShare.Archive

variable {α : Type}

/-! ### Reading in a place -/

/-- Reading in a place is reading of what stands there. -/
lemma readAt_append {r : Reader α} {a : α} {front back rest : Bytes} (h : r back = some (a, rest)) :
    readAt (front ++ back) front.length r = some a := by
  rw [readAt, List.drop_left, h]
  rfl

/-- Without the expected pattern nothing is read. -/
lemma bind_expect_eq_none {pattern bs : Bytes} (h : ¬pattern <+: bs) (next : Unit → Reader α) :
    (Reader.expect pattern >>= next) bs = none := by
  have hnone : Reader.expect pattern bs = none := by
    rw [Reader.expect, if_neg]
    rwa [List.isPrefixOf_iff_prefix]
  simp only [bind, StateT.bind, hnone, Option.bind]

/-! ### Places of a pattern -/

/-- The places of a pattern from a place on, the last first. -/
lemma search_eq (pattern bs : Bytes) (i : Nat) (found : List Nat) :
    occurrences.search pattern i bs found =
      (((List.range bs.length).filter fun j => pattern.isPrefixOf (bs.drop j)).map (i + ·)).reverse ++ found := by
  induction bs generalizing i found with
  | nil => rfl
  | cons b bs ih =>
    have hrest : ((List.range bs.length).map Nat.succ).filter (fun j => pattern.isPrefixOf ((b :: bs).drop j)) =
        ((List.range bs.length).filter fun j => pattern.isPrefixOf (bs.drop j)).map Nat.succ := by
      rw [List.filter_map]
      rfl
    rw [occurrences.search, ih, List.length_cons, List.range_succ_eq_map, List.filter_cons, List.drop_zero, hrest]
    have hplaces : ∀ j, i + 1 + j = i + (j + 1) := fun j => by omega
    split_ifs <;> simp [Function.comp_def, hplaces]

/-- The places of a pattern are those where the rest starts with it, the last one first. -/
lemma occurrences_eq (pattern bs : Bytes) :
    occurrences pattern bs = ((List.range bs.length).filter fun i => pattern.isPrefixOf (bs.drop i)).reverse := by
  rw [occurrences, search_eq, List.append_nil]
  simp

/-- A place of a pattern stands between those behind it and those before it. -/
lemma occurrences_split {pattern bs : Bytes} {place : Nat} (hlt : place < bs.length)
    (hpattern : pattern.isPrefixOf (bs.drop place) = true) :
    ∃ behind before, occurrences pattern bs = behind ++ place :: before ∧ (∀ i ∈ behind, place < i) ∧
      ∀ i ∈ before, i < place := by
  -- The places are those before the given one, that one, and those behind it.
  obtain ⟨n, hn⟩ : ∃ n, bs.length = place + (n + 1) := ⟨bs.length - place - 1, by omega⟩
  let p : Nat → Bool := fun i => pattern.isPrefixOf (bs.drop i)
  have hp : p place = true := hpattern
  have hbehind : ∀ i ∈ (((List.range n).map Nat.succ).map (place + ·)).filter p, place < i := by
    intro i hi
    simp only [List.mem_filter, List.mem_map] at hi
    obtain ⟨⟨j, ⟨k, -, rfl⟩, rfl⟩, -⟩ := hi
    omega
  refine ⟨_, ((List.range place).filter p).reverse, ?_, fun i hi => hbehind i (List.mem_reverse.1 hi), fun i hi => ?_⟩
  · rw [occurrences_eq, hn, List.range_add, List.range_succ_eq_map, List.filter_append, List.map_cons,
      Nat.add_zero]
    change (List.filter p _ ++ List.filter p _).reverse = _
    rw [List.filter_cons_of_pos hp, List.reverse_append, List.reverse_cons, List.append_assoc,
      List.singleton_append]
  · exact List.mem_range.1 (List.mem_of_mem_filter (List.mem_reverse.1 hi))

/-- The last place of a pattern that gives something decides. -/
theorem findSome?_occurrences {pattern bs : Bytes} {g : Nat → Option α} {a : α} {place : Nat} (hlt : place < bs.length)
    (hpattern : pattern.isPrefixOf (bs.drop place) = true) (hafter : ∀ i, place < i → g i = none)
    (hplace : g place = some a) : (occurrences pattern bs).findSome? g = some a := by
  obtain ⟨behind, before, heq, hbehind, -⟩ := occurrences_split hlt hpattern
  have hnone : behind.findSome? g = none := List.findSome?_eq_none_iff.2 fun i hi => hafter i (hbehind i hi)
  rw [heq, List.findSome?_append, hnone, Option.none_or, List.findSome?_cons, hplace]

/-- The first place of a pattern from one on, in which it is. -/
theorem head?_occurrencesWithin {pattern bs : Bytes} {first limit : Nat} (hlt : first < bs.length)
    (hpattern : pattern.isPrefixOf (bs.drop first) = true) (hlimit : first < limit) :
    (occurrencesWithin pattern bs first limit).head? = some first := by
  obtain ⟨behind, before, heq, -, hbefore⟩ := occurrences_split hlt hpattern
  have hnone : before.filter (fun p => decide (first ≤ p ∧ p < limit)) = [] := by
    rw [List.filter_eq_nil_iff]
    intro p hp
    have hp := hbefore p hp
    simp only [decide_eq_true_eq]
    omega
  rw [occurrencesWithin, heq, List.filter_append, List.filter_cons_of_pos (by simpa using hlimit), hnone,
    List.reverse_append]
  rfl

/-! ### How much is read -/

/-- Whatever is read takes the given number of bytes. -/
def Takes (n : Nat) (r : Reader α) : Prop :=
  ∀ bs a rest, r bs = some (a, rest) → bs.length = n + rest.length

/-- Giving a result takes no bytes. -/
lemma takes_pure (a : α) : Takes 0 (pure a : Reader α) := by
  intro bs b rest h
  cases h
  exact (Nat.zero_add _).symm

/-- Taking bytes takes that many. -/
lemma takes_take (n : Nat) : Takes n (Reader.take n) := by
  intro bs front rest h
  rw [Reader.take] at h
  split_ifs at h with hlength
  cases h
  rw [List.length_take] at hlength
  rw [List.length_drop]
  omega

/-- Expecting a pattern takes its bytes. -/
lemma takes_expect (pattern : Bytes) : Takes pattern.length (Reader.expect pattern) := by
  intro bs u rest h
  rw [Reader.expect] at h
  split_ifs at h with hprefix
  cases h
  have hle := (List.isPrefixOf_iff_prefix.1 hprefix).length_le
  rw [List.length_drop]
  omega

/-- One reader after another takes the bytes of both. -/
lemma Takes.bind {β : Type} {n m : Nat} {r : Reader α} {g : α → Reader β} (hr : Takes n r)
    (hg : ∀ a, Takes m (g a)) : Takes (n + m) (r >>= g) := by
  intro bs b rest h
  obtain ⟨⟨a, between⟩, hread, hrest⟩ := Option.bind_eq_some_iff.1 h
  have hfirst := hr bs a between hread
  have hsecond := hg a between b rest hrest
  omega

/-- A number of 16 bits takes two bytes of whatever is read. -/
lemma takes_number16 : Takes 2 Reader.number16 := (takes_take 2).bind fun _ => takes_pure _

/-- A number of 32 bits takes four bytes of whatever is read. -/
lemma takes_number32 : Takes 4 Reader.number32 := (takes_take 4).bind fun _ => takes_pure _

/-- An end record takes its width of whatever is read. -/
lemma takes_endRecord : Takes EndRecord.width EndRecord.read :=
  (takes_expect EndRecord.signature).bind fun _ => takes_number16.bind fun _ => takes_number16.bind fun _ =>
    takes_number16.bind fun _ => takes_number16.bind fun _ => takes_number32.bind fun _ =>
      takes_number32.bind fun _ => takes_number16.bind fun _ => takes_pure _

/-- Too close to the end there is no end record. -/
theorem readAt_endRecord_eq_none {file : Bytes} {place : Nat} (h : file.length < place + EndRecord.width) :
    readAt file place EndRecord.read = none := by
  cases hread : EndRecord.read (file.drop place) with
  | none => rw [readAt, hread]; rfl
  | some found =>
    have hlength := takes_endRecord _ found.1 found.2 hread
    rw [List.length_drop] at hlength
    have hwidth : EndRecord.width = 22 := rfl
    omega

end DirectShare.Archive
