import Mathlib
import DirectShare.Json.Record
import DirectShare.Proofs.Json.Reading

/-!
# Reading written records

The tree of a record's body gives to each field the tree of what was written for it, whatever the
order of the members. From that, fields are read back one by one.

`Json.Tree.Shows` says that a tree gives to each field the tree of what was written for it.
`Json.shows_ofFields` proves that of a body, since sorting permutes its members, and for each type of field
there is a lemma that reads it. A record that every tree which shows its fields gives back satisfies
`Json.Record.ReadsBack`; `Json.Record.ofJson?_toJson` and `Json.Record.ofBytes?_encode` then read it back from
its body and from its bytes.
-/

namespace DirectShare.Json

/-! ### Sorted members -/

/-- A value put under a new name is added to the members. -/
lemma insert_perm {name : String} {value : Json} {members : List (String × Json)}
    (h : name ∉ members.map Prod.fst) : (insert name value members).Perm ((name, value) :: members) := by
  induction members with
  | nil => exact List.Perm.refl _
  | cons m members ih =>
    obtain ⟨k, v⟩ := m
    rw [List.map_cons, List.mem_cons, not_or] at h
    obtain ⟨hk, hrest⟩ := h
    rw [insert, if_neg hk]
    split
    · exact List.Perm.refl _
    · exact ((ih hrest).cons _).trans (List.Perm.swap _ _ _)

/-- Every name after a value was put under a name is that name or was there before. -/
lemma mem_insert_names {name k : String} {value : Json} {members : List (String × Json)}
    (h : k ∈ (insert name value members).map Prod.fst) : k = name ∨ k ∈ members.map Prod.fst := by
  induction members with
  | nil => simpa [insert] using h
  | cons m members ih =>
    rw [insert] at h
    split_ifs at h with hlt heq
    · simpa using h
    · subst heq
      simp only [List.map_cons, List.mem_cons] at h ⊢
      exact h.imp_right .inr
    · simp only [List.map_cons, List.mem_cons] at h ⊢
      cases h with
      | inl h => exact .inr (.inl h)
      | inr h => exact (ih h).imp_right .inr

/-- Sorted members stay sorted when a value is put under a name. -/
lemma pairwise_insert {name : String} {value : Json} {members : List (String × Json)}
    (h : (members.map Prod.fst).Pairwise (· < ·)) :
    ((insert name value members).map Prod.fst).Pairwise (· < ·) := by
  induction members with
  | nil => exact List.pairwise_singleton _ _
  | cons m members ih =>
    obtain ⟨k, v⟩ := m
    rw [List.map_cons, List.pairwise_cons] at h
    obtain ⟨hk, hrest⟩ := h
    rw [insert]
    split_ifs with hlt heq
    · simp only [List.map_cons, List.pairwise_cons, List.mem_cons]
      refine ⟨?_, hk, hrest⟩
      rintro a (rfl | ha)
      · exact hlt
      · exact String.lt_trans hlt (hk a ha)
    · subst heq
      exact List.pairwise_cons.2 ⟨hk, hrest⟩
    · refine List.pairwise_cons.2 ⟨?_, ih hrest⟩
      intro a ha
      cases mem_insert_names ha with
      | inl ha =>
        subst ha
        exact lt_of_le_of_ne (not_lt.1 hlt) (Ne.symm heq)
      | inr ha => exact hk a ha

/-- Sorted fields have increasing names, so that no name is there twice. -/
lemma pairwise_sortFields (fields : List (String × Json)) :
    ((sortFields fields).map Prod.fst).Pairwise (· < ·) := by
  induction fields using List.reverseRecOn with
  | nil => exact List.Pairwise.nil
  | append_singleton fields m ih =>
    rw [sortFields, List.foldl_append]
    exact pairwise_insert ih

/-- Sorting reorders fields with different names. -/
lemma sortFields_perm {fields : List (String × Json)} (h : (fields.map Prod.fst).Nodup) :
    (sortFields fields).Perm fields := by
  induction fields using List.reverseRecOn with
  | nil => exact List.Perm.refl _
  | append_singleton fields m ih =>
    rw [List.map_append, List.nodup_append'] at h
    obtain ⟨hinit, -, hlast⟩ := h
    have ih := ih hinit
    have hnew : m.1 ∉ (sortFields fields).map Prod.fst := by
      intro hm
      exact hlast ((ih.map Prod.fst).mem_iff.1 hm) (by simp)
    have hperm : (insert m.1 m.2 (sortFields fields)).Perm (fields ++ [m]) :=
      (insert_perm hnew).trans ((ih.cons m).trans (List.perm_append_singleton m fields).symm)
    rw [sortFields, List.foldl_append]
    exact hperm

/-! ### Readable records -/

/-- The numbers of members are whole if those of each member are. -/
lemma membersAreWhole_iff {members : List (String × Json)} :
    IsWhole.membersAreWhole members ↔ ∀ m ∈ members, m.2.IsWhole := by
  induction members with
  | nil => simp [IsWhole.membersAreWhole]
  | cons m members ih => simp [IsWhole.membersAreWhole, ih]

/-- The numbers of items are whole if those of each item are. -/
lemma itemsAreWhole_iff {items : List Json} :
    IsWhole.itemsAreWhole items ↔ ∀ v ∈ items, v.IsWhole := by
  induction items with
  | nil => simp [IsWhole.itemsAreWhole]
  | cons v items ih => simp [IsWhole.itemsAreWhole, ih]

/-- Members are sorted inside if each of them is. -/
lemma membersAreSorted_iff {members : List (String × Json)} :
    IsSorted.membersAreSorted members ↔ ∀ m ∈ members, m.2.IsSorted := by
  induction members with
  | nil => simp [IsSorted.membersAreSorted]
  | cons m members ih => simp [IsSorted.membersAreSorted, ih]

/-- Items are sorted inside if each of them is. -/
lemma itemsAreSorted_iff {items : List Json} :
    IsSorted.itemsAreSorted items ↔ ∀ v ∈ items, v.IsSorted := by
  induction items with
  | nil => simp [IsSorted.itemsAreSorted]
  | cons v items ih => simp [IsSorted.itemsAreSorted, ih]

/-- Members are nested no deeper than the deepest of them. -/
lemma memberLevels_le_iff {members : List (String × Json)} {n : Nat} :
    levels.memberLevels members ≤ n ↔ ∀ m ∈ members, m.2.levels ≤ n := by
  induction members with
  | nil => simp [levels.memberLevels]
  | cons m members ih => simp [levels.memberLevels, ih]

/-- Items are nested no deeper than the deepest of them. -/
lemma itemLevels_le_iff {items : List Json} {n : Nat} :
    levels.itemLevels items ≤ n ↔ ∀ v ∈ items, v.levels ≤ n := by
  induction items with
  | nil => simp [levels.itemLevels]
  | cons v items ih => simp [levels.itemLevels, ih]

namespace IsReadable

variable {n : Nat}

/-- Nothing is readable. -/
lemma null : Json.null.IsReadable n := ⟨trivial, trivial, Nat.zero_le n⟩

/-- A truth value is readable. -/
lemma bool (b : Bool) : (Json.bool b).IsReadable n := ⟨trivial, trivial, Nat.zero_le n⟩

/-- A string is readable. -/
lemma string (s : String) : (Json.string s).IsReadable n := ⟨trivial, trivial, Nat.zero_le n⟩

/-- A whole number of 64 bits is readable, with a sign or without. -/
lemma ofInt {k : Int} (hlow : -0x8000000000000000 ≤ k) (hhigh : k < 0x10000000000000000) :
    (Json.ofInt k).IsReadable n := ⟨⟨hlow, hhigh⟩, trivial, Nat.zero_le n⟩

/-- A natural number of 64 bits is readable. -/
lemma ofNat {k : Nat} (h : k < 0x10000000000000000) : (Json.ofNat k).IsReadable n :=
  IsReadable.ofInt (by omega) (by omega)

/-- An array of readable items is readable, one level deeper. -/
lemma array {items : List Json} (h : ∀ v ∈ items, v.IsReadable n) :
    (Json.array items).IsReadable (n + 1) where
  whole := itemsAreWhole_iff.2 fun v hv => (h v hv).whole
  sorted := itemsAreSorted_iff.2 fun v hv => (h v hv).sorted
  levels_le := Nat.succ_le_succ (itemLevels_le_iff.2 fun v hv => (h v hv).levels_le)

/-- An object with increasing names and readable values is readable, one level deeper. -/
lemma object {members : List (String × Json)} (hs : (members.map Prod.fst).Pairwise (· < ·))
    (h : ∀ m ∈ members, m.2.IsReadable n) : (Json.object members).IsReadable (n + 1) where
  whole := membersAreWhole_iff.2 fun m hm => (h m hm).whole
  sorted := ⟨hs, membersAreSorted_iff.2 fun m hm => (h m hm).sorted⟩
  levels_le := Nat.succ_le_succ (memberLevels_le_iff.2 fun m hm => (h m hm).levels_le)

/-- The object of fields with different names and readable values is readable, one level deeper. -/
lemma ofFields {fields : List (String × Json)} (hd : (fields.map Prod.fst).Nodup)
    (h : ∀ m ∈ fields, m.2.IsReadable n) : (Json.ofFields fields).IsReadable (n + 1) :=
  IsReadable.object (pairwise_sortFields fields) fun m hm => h m ((sortFields_perm hd).mem_iff.1 hm)

/-- What is written for a value that may be missing is readable. -/
lemma orNull {α : Type} {write : α → Json} {o : Option α} (h : ∀ a, (write a).IsReadable n) :
    (Json.orNull write o).IsReadable n := by
  cases o with
  | none => exact IsReadable.null
  | some a => exact h a

/-- A field that is left out when its value is missing is readable. -/
lemma ifSome {α : Type} {name : String} {write : α → Json} {o : Option α}
    (h : ∀ a, (write a).IsReadable n) : ∀ m ∈ Json.ifSome name write o, m.2.IsReadable n := by
  intro m hm
  cases o with
  | none => cases hm
  | some a =>
    obtain rfl := List.mem_singleton.1 hm
    exact h a

end IsReadable

/-! ### What a tree gives to fields -/

/-- The trees of members are those of their values, each under its name. -/
lemma memberTrees_eq_map (members : List (String × Json)) :
    toTree.memberTrees members = members.map fun m => (some m.1, m.2.toTree) := by
  induction members with
  | nil => rfl
  | cons m members ih => simp [toTree.memberTrees, ih]

/-- The trees of items are those of each item. -/
lemma itemTrees_eq_map (items : List Json) : toTree.itemTrees items = items.map toTree := by
  induction items with
  | nil => rfl
  | cons v items ih => simp [toTree.itemTrees, ih]

/-- The members under a name, of which there is at most one where names differ. -/
lemma filter_name {fields : List (String × Json)} (h : (fields.map Prod.fst).Nodup) (name : String) :
    fields.filter (·.1 = name) = ((fields.lookup name).map fun v => (name, v)).toList := by
  induction fields with
  | nil => rfl
  | cons m fields ih =>
    obtain ⟨k, v⟩ := m
    rw [List.map_cons, List.nodup_cons] at h
    obtain ⟨hk, hrest⟩ := h
    have ih := ih hrest
    by_cases heq : k = name
    · subst heq
      have hnone : fields.filter (·.1 = k) = [] := by
        rw [List.filter_eq_nil_iff]
        intro m hm hname
        have hname : m.1 = k := by simpa using hname
        have hmem : m.1 ∈ fields.map Prod.fst := List.mem_map_of_mem hm
        rw [hname] at hmem
        exact hk hmem
      simp [hnone]
    · have hlookup : ((k, v) :: fields).lookup name = fields.lookup name := by
        have hbeq : (name == k) = false := by simpa using Ne.symm heq
        rw [List.lookup_cons, hbeq]
      rw [hlookup, ← ih]
      simp [heq]

/-- A tree gives to each field the tree of what the given fields hold for it. -/
def Tree.Shows (t : Tree) (fields : List (String × Json)) : Prop :=
  ∀ names, t.fields? names = some (names.map fun name => (fields.lookup name).map toTree)

/-- Of the trees of fields, a name finds that of the field with this name. -/
lemma member?_memberTrees {fields : List (String × Json)} (h : (fields.map Prod.fst).Nodup)
    (name : String) :
    Tree.member? (toTree.memberTrees fields) name = some ((fields.lookup name).map toTree) := by
  have hfilter : (toTree.memberTrees fields).filter (·.1 = some name) =
      (fields.filter (·.1 = name)).map fun m => (some m.1, m.2.toTree) := by
    rw [memberTrees_eq_map, List.filter_map]
    congr 1
    simp [Function.comp_def]
  rw [Tree.member?, hfilter, filter_name h]
  cases fields.lookup name <;> rfl

/-- The tree of an object shows its fields, if their names differ. -/
lemma shows_object {fields : List (String × Json)} (h : (fields.map Prod.fst).Nodup) :
    (Json.object fields).toTree.Shows fields := by
  intro names
  have hall : (toTree.memberTrees fields).all (·.1.isSome) = true := by
    simp [memberTrees_eq_map]
  have hfun : Tree.member? (toTree.memberTrees fields) = fun name =>
      some ((fields.lookup name).map toTree) := funext (member?_memberTrees h)
  rw [toTree, Tree.fields?, if_pos hall, hfun]
  exact List.mapM_pure ..

/-- What is looked up among reordered fields with different names. -/
lemma lookup_perm {fields fields' : List (String × Json)} (h : (fields.map Prod.fst).Nodup)
    (hp : fields'.Perm fields) (name : String) : fields'.lookup name = fields.lookup name := by
  have h' : (fields'.map Prod.fst).Nodup := (hp.map Prod.fst).nodup_iff.2 h
  have hfilter := hp.filter (·.1 = name)
  rw [filter_name h, filter_name h'] at hfilter
  cases hl : fields.lookup name with
  | none =>
    cases hl' : fields'.lookup name with
    | none => rfl
    | some v' => simp [hl, hl'] at hfilter
  | some v =>
    cases hl' : fields'.lookup name with
    | none => simp [hl, hl'] at hfilter
    | some v' => simpa [hl, hl'] using hfilter

/-- The tree of a body shows the fields that it was made of, if their names differ. -/
lemma shows_ofFields {fields : List (String × Json)} (h : (fields.map Prod.fst).Nodup) :
    (ofFields fields).toTree.Shows fields := by
  intro names
  have hp := sortFields_perm h
  have hsorted := shows_object ((hp.map Prod.fst).nodup_iff.2 h) names
  rw [ofFields, hsorted]
  congr 2
  exact funext fun name => by rw [lookup_perm h hp]

/-- A field that may be left out is found under its own name only. -/
lemma lookup_ifSome {α : Type} (name key : String) (write : α → Json) (o : Option α) :
    (ifSome name write o).lookup key = if key = name then o.map write else none := by
  cases o with
  | none => simp [ifSome]
  | some a =>
    by_cases h : key = name
    · simp [ifSome, h]
    · have hbeq : (key == name) = false := by simpa using h
      simp [ifSome, List.lookup_cons, h, hbeq]

/-- A field that may be left out adds no other name. -/
lemma ifSome_names {α : Type} (name : String) (write : α → Json) (o : Option α) :
    ((ifSome name write o).map Prod.fst).Sublist [name] := by
  cases o with
  | none => exact List.nil_sublist _
  | some a => exact List.Sublist.refl _

/-! ### Reading fields -/

namespace Tree

/-- A string is read from its tree. -/
@[simp] lemma string?_toTree (s : String) : (Json.string s).toTree.string? = some s := rfl

/-- A truth value is read from its tree. -/
@[simp] lemma bool?_toTree (b : Bool) : (Json.bool b).toTree.bool? = some b := rfl

/-- A number below a bound is read from its tree. -/
lemma natBelow?_toTree {n bound : Nat} (h : n < bound) : (Json.ofNat n).toTree.natBelow? bound = some n := by
  have hint : (Json.ofNat n).toTree.int? = some (Int.ofNat n) := rfl
  rw [natBelow?, hint]
  simp [h]

/-- A number of 8 bits is read from its tree. -/
@[simp] lemma uint8?_toTree (n : UInt8) : (Json.ofNat n.toNat).toTree.uint8? = some n := by
  rw [uint8?, natBelow?_toTree n.toNat_lt]
  simp

/-- A number of 32 bits is read from its tree. -/
@[simp] lemma uint32?_toTree (n : UInt32) : (Json.ofNat n.toNat).toTree.uint32? = some n := by
  rw [uint32?, natBelow?_toTree n.toNat_lt]
  simp

/-- A number of 64 bits is read from its tree. -/
@[simp] lemma uint64?_toTree (n : UInt64) : (Json.ofNat n.toNat).toTree.uint64? = some n := by
  rw [uint64?, natBelow?_toTree n.toNat_lt]
  simp

/-- A number of 32 bits with a sign is read from its tree. -/
@[simp] lemma int32?_toTree (n : Int32) : (Json.ofInt n.toInt).toTree.int32? = some n := by
  have hint : (Json.ofInt n.toInt).toTree.int? = some n.toInt := rfl
  have hlow := n.le_toInt
  have hhigh := n.toInt_lt
  rw [int32?, hint]
  simp only
  rw [if_pos ⟨by omega, by omega⟩]
  simp

/-- A list is read from its tree if its items are read from theirs. -/
lemma list?_toTree {α : Type} {read : Tree → Option α} {write : α → Json}
    (h : ∀ a, read (write a).toTree = some a) (as : List α) :
    (Json.array (as.map write)).toTree.list? read = some as := by
  rw [toTree, list?, itemTrees_eq_map, List.map_map]
  induction as with
  | nil => rfl
  | cons a as ih =>
    rw [List.map_cons, List.mapM_cons, Function.comp_apply, h, ih]
    rfl

end Tree

namespace Field

variable {α : Type} {read : Tree → Option α} {write : α → Json}

/-- A field that was left out if its value was missing is read as that value. -/
lemma optional_map (hr : ∀ a, read (write a).toTree = some a) (hn : ∀ a, (write a).toTree ≠ .null)
    (o : Option α) : Field.optional read (o.map (toTree ∘ write)) = some o := by
  cases o with
  | none => rfl
  | some a =>
    simp only [Option.map_some, Function.comp_apply]
    rw [Field.optional, hr]
    · rfl
    · exact hn a

/-- A field that was written as nothing if its value was missing is read as that value. -/
lemma optional_orNull (hr : ∀ a, read (write a).toTree = some a) (hn : ∀ a, (write a).toTree ≠ .null)
    (o : Option α) : Field.optional read (some (orNull write o).toTree) = some o := by
  cases o with
  | none => rfl
  | some a =>
    rw [orNull, Field.optional, hr]
    · rfl
    · exact hn a

/-- A string that may be left out is read. -/
@[simp] lemma optional_string (o : Option String) :
    Field.optional Tree.string? (o.map (toTree ∘ Json.string)) = some o :=
  optional_map Tree.string?_toTree (by simp [toTree]) o

/-- A number of 8 bits that may be left out is read. -/
@[simp] lemma optional_uint8 (o : Option UInt8) :
    Field.optional Tree.uint8? (o.map (toTree ∘ fun n => ofNat n.toNat)) = some o :=
  optional_map Tree.uint8?_toTree (by simp [toTree, ofNat]) o

/-- A number of 32 bits that may be left out is read. -/
@[simp] lemma optional_uint32 (o : Option UInt32) :
    Field.optional Tree.uint32? (o.map (toTree ∘ fun n => ofNat n.toNat)) = some o :=
  optional_map Tree.uint32?_toTree (by simp [toTree, ofNat]) o

/-- A number of 32 bits with a sign that may be left out is read. -/
@[simp] lemma optional_int32 (o : Option Int32) :
    Field.optional Tree.int32? (o.map (toTree ∘ fun n => ofInt n.toInt)) = some o :=
  optional_map Tree.int32?_toTree (by simp [toTree, ofInt]) o

/-- A string that may be written as nothing is read. -/
@[simp] lemma optional_orNull_string (o : Option String) :
    Field.optional Tree.string? (some (orNull Json.string o).toTree) = some o :=
  optional_orNull Tree.string?_toTree (by simp [toTree]) o

/-- A number of 32 bits that may be written as nothing is read. -/
@[simp] lemma optional_orNull_uint32 (o : Option UInt32) :
    Field.optional Tree.uint32? (some (orNull (fun n => ofNat n.toNat) o).toTree) = some o :=
  optional_orNull Tree.uint32?_toTree (by simp [toTree, ofNat]) o

end Field

/-! ### Records -/

/-- A record has different field names and is read back from every tree that shows its fields. -/
structure Record.ReadsBack {α : Type} [Record α] (a : α) : Prop where
  /-- The names of its fields differ. -/
  nodup : ((Record.fields a).map Prod.fst).Nodup
  /-- A tree that shows its fields stands for it. -/
  reads : ∀ {t : Tree}, t.Shows (Record.fields a) → Record.ofTree? t = some a

namespace Record

variable {α : Type} [Record α] {a : α}

/-- A record is read back from its body. -/
theorem ofJson?_toJson (h : ReadsBack a) : ofJson? (toJson a) = some a :=
  h.reads (shows_ofFields h.nodup)

/-- A record is read back from its text. -/
lemma ofText?_text (h : ReadsBack a) {n : Nat} (hr : ∀ m ∈ fields a, m.2.IsReadable n) :
    ofText? (text a) = some a := by
  have hwhole : (Json.object (fields a)).IsWhole := membersAreWhole_iff.2 fun m hm => (hr m hm).whole
  rw [ofText?, text, ofText_render hwhole]
  exact h.reads (shows_object h.nodup)

/-- A record whose fields are readable is read back from its bytes. -/
theorem ofBytes?_encode (h : ReadsBack a) {n : Nat} (hr : ∀ m ∈ fields a, m.2.IsReadable n) :
    ofBytes? (encode a) = some a := by
  rw [ofBytes?, encode, Utf8.characters_encode]
  exact ofText?_text h hr

end Record

end DirectShare.Json
