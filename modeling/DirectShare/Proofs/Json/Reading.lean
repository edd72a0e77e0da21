import Mathlib
import DirectShare.Proofs.Json.Scanning

/-!
# Reading written values

The text of a value is read back as that value, if its numbers are whole, its objects list their
members in order, and it is not nested too deep.

`Json.IsReadable` collects the three conditions. The tokens of a value are built into its tree
(`Json.ofText_render`), by induction on the value with the open arrays and objects as the state of the pass,
and `Json.parse_render` takes the value of the tree, where sorted members stay as they are.
-/

namespace DirectShare.Json

/-! ### The tree of the tokens -/

namespace Tree

/-- The first item of an array is built as a value inside the array. -/
lemma run_firstItem (v : Json) (around : List Open) (ts : List Token) :
    run (.firstItem around) (v.tokens ++ ts) = run (.value (.array [] :: around)) (v.tokens ++ ts) := by
  cases v with
  | array items => cases items <;> rfl
  | object members => cases members <;> rfl
  | _ => rfl

mutual

/-- The tokens of a value complete that value. -/
lemma run_tokens : ∀ (v : Json) (around : List Open) (ts : List Token),
    run (.value around) (v.tokens ++ ts) = run (.after v.toTree around) ts
  | .null, _, _ => rfl
  | .bool _, _, _ => rfl
  | .number _, _, _ => rfl
  | .string _, _, _ => rfl
  | .array [], _, _ => rfl
  | .array (item :: items), around, ts => by
    have hitem := run_tokens item (.array [] :: around) (tokens.moreItems items ++ ts)
    have hitems := run_moreItems items item.toTree [] around ts
    rw [← run_firstItem] at hitem
    simp only [tokens, List.cons_append, List.append_assoc]
    exact (hitem.trans hitems)
  | .object [], _, _ => rfl
  | .object ((name, value) :: members), around, ts => by
    have hvalue := run_tokens value (.object [] (some name) :: around)
      (tokens.moreMembers members ++ ts)
    have hmembers := run_moreMembers members value.toTree [] (some name) around ts
    simp only [tokens, List.cons_append, List.append_assoc]
    exact (hvalue.trans hmembers)

/-- The rest of an array completes it. -/
lemma run_moreItems : ∀ (items : List Json) (v : Tree) (done : List Tree) (around : List Open)
    (ts : List Token),
    run (.after v (.array done :: around)) (tokens.moreItems items ++ ts) =
      run (.after (.array ((v :: done).reverse ++ toTree.itemTrees items)) around) ts
  | [], v, done, around, ts => by
    rw [toTree.itemTrees, List.append_nil]
    rfl
  | item :: items, v, done, around, ts => by
    have hitem := run_tokens item (.array (v :: done) :: around) (tokens.moreItems items ++ ts)
    have hitems := run_moreItems items item.toTree (v :: done) around ts
    simp only [tokens.moreItems, List.cons_append, List.append_assoc]
    refine (hitem.trans hitems).trans ?_
    simp [toTree.itemTrees]

/-- The rest of an object completes it. -/
lemma run_moreMembers : ∀ (members : List (String × Json)) (v : Tree)
    (done : List (Option String × Tree)) (name : Option String) (around : List Open)
    (ts : List Token),
    run (.after v (.object done name :: around)) (tokens.moreMembers members ++ ts) =
      run (.after (.object (((name, v) :: done).reverse ++ toTree.memberTrees members)) around) ts
  | [], v, done, name, around, ts => by
    rw [toTree.memberTrees, List.append_nil]
    rfl
  | (next, value) :: members, v, done, name, around, ts => by
    have hvalue := run_tokens value (.object ((name, v) :: done) (some next) :: around)
      (tokens.moreMembers members ++ ts)
    have hmembers := run_moreMembers members value.toTree ((name, v) :: done) (some next) around ts
    simp only [tokens.moreMembers, List.cons_append, List.append_assoc]
    refine (hvalue.trans hmembers).trans ?_
    simp [toTree.memberTrees]

end

/-- The tokens of a value are built into its tree. -/
lemma ofTokens_tokens (v : Json) : ofTokens v.tokens = some v.toTree := by
  have h := run_tokens v [] []
  rw [List.append_nil] at h
  rw [ofTokens, h]
  rfl

end Tree

/-- The text of a value spells its tree. -/
theorem ofText_render {v : Json} (hv : v.IsWhole) : Tree.ofText v.render = some v.toTree := by
  rw [Tree.ofText, Tree.ofCharacters, render, String.toList_ofList, scan_chars_nil hv]
  exact Tree.ofTokens_tokens v

/-! ### The value of the tree -/

/-- Every object of a value lists its members by name, without repetition. -/
def IsSorted : Json → Prop
  | .array items => itemsAreSorted items
  | .object members => (members.map Prod.fst).Pairwise (· < ·) ∧ membersAreSorted members
  | _ => True
where
  /-- The objects of the items are sorted. -/
  itemsAreSorted : List Json → Prop
    | [] => True
    | item :: rest => item.IsSorted ∧ itemsAreSorted rest
  /-- The objects of the members are sorted. -/
  membersAreSorted : List (String × Json) → Prop
    | [] => True
    | (_, value) :: rest => value.IsSorted ∧ membersAreSorted rest

/-- A name after all others is put at the end. -/
lemma insert_of_lt {name : String} {value : Json} {members : List (String × Json)}
    (h : ∀ m ∈ members, m.1 < name) : insert name value members = members ++ [(name, value)] := by
  induction members with
  | nil => rfl
  | cons m members ih =>
    obtain ⟨k, v⟩ := m
    have hk : k < name := h (k, v) (by simp)
    have hne : name ≠ k := by
      rintro rfl
      exact absurd hk (String.lt_irrefl _)
    rw [insert, if_neg (String.lt_asymm hk), if_neg hne, ih fun m hm => h m (by simp [hm])]
    rfl

/-- Sorting leaves sorted members as they are. -/
lemma sortFields_of_pairwise {members : List (String × Json)}
    (h : (members.map Prod.fst).Pairwise (· < ·)) : sortFields members = members := by
  induction members using List.reverseRecOn with
  | nil => rfl
  | append_singleton members m ih =>
    obtain ⟨name, value⟩ := m
    rw [List.map_append, List.pairwise_append] at h
    obtain ⟨hinit, -, hlast⟩ := h
    have ih := ih hinit
    simp only [sortFields] at ih
    rw [sortFields, List.foldl_append, ih]
    refine insert_of_lt fun m hm => hlast m.1 (List.mem_map_of_mem hm) name ?_
    simp

mutual

/-- The value of a value's tree. -/
lemma value?_toTree : ∀ (v : Json) (n : Nat), v.IsSorted → v.levels ≤ n → v.toTree.value? n = some v
  | .null, _, _, _ => rfl
  | .bool _, _, _, _ => rfl
  | .number _, _, _, _ => rfl
  | .string _, _, _, _ => rfl
  | .array items, 0, _, hn => by
    rw [levels] at hn
    omega
  | .array items, n + 1, hs, hn => by
    have hitems := items?_itemTrees items n hs (by simpa [levels] using hn)
    simp [toTree, Tree.value?, hitems]
  | .object members, 0, _, hn => by
    rw [levels] at hn
    omega
  | .object members, n + 1, hs, hn => by
    obtain ⟨hnames, hvalues⟩ := hs
    have hmembers := members?_memberTrees members n hvalues (by simpa [levels] using hn)
    simp [toTree, Tree.value?, hmembers, ofFields, sortFields_of_pairwise hnames]

/-- The trees of items have these items as their values. -/
lemma items?_itemTrees : ∀ (items : List Json) (n : Nat), IsSorted.itemsAreSorted items →
    levels.itemLevels items ≤ n → Tree.value?.items? n (toTree.itemTrees items) = some items
  | [], _, _, _ => rfl
  | item :: items, n, hs, hn => by
    rw [levels.itemLevels, max_le_iff] at hn
    have hitem := value?_toTree item n hs.1 hn.1
    have hitems := items?_itemTrees items n hs.2 hn.2
    simp [toTree.itemTrees, Tree.value?.items?, hitem, hitems]

/-- The trees of members have these members as their values. -/
lemma members?_memberTrees : ∀ (members : List (String × Json)) (n : Nat),
    IsSorted.membersAreSorted members → levels.memberLevels members ≤ n →
    Tree.value?.members? n (toTree.memberTrees members) = some members
  | [], _, _, _ => rfl
  | (name, value) :: members, n, hs, hn => by
    rw [levels.memberLevels, max_le_iff] at hn
    have hvalue := value?_toTree value n hs.1 hn.1
    have hmembers := members?_memberTrees members n hs.2 hn.2
    simp [toTree.memberTrees, Tree.value?.members?, hvalue, hmembers]

end

/-- What a value must be like to be read back from its text. -/
structure IsReadable (v : Json) (n : Nat) : Prop where
  /-- Its numbers are whole and fit 64 bits. -/
  whole : v.IsWhole
  /-- Its objects list their members by name. -/
  sorted : v.IsSorted
  /-- It is nested at most so deep. -/
  levels_le : v.levels ≤ n

/-- What is readable within some levels is readable within more. -/
lemma IsReadable.mono {v : Json} {n m : Nat} (h : v.IsReadable n) (hle : n ≤ m) : v.IsReadable m where
  whole := h.whole
  sorted := h.sorted
  levels_le := h.levels_le.trans hle

/-- A value is read back from its text. -/
theorem parse_render {v : Json} (hv : v.IsReadable maxLevels) : parse v.render = some v := by
  rw [parse, ofText_render hv.whole]
  exact value?_toTree v maxLevels hv.sorted hv.levels_le

/-- The value of the bytes of a value's text is that value. -/
lemma parseBytes_render {v : Json} (hv : v.IsReadable maxLevels) :
    parseBytes (Utf8.encode v.render) = some v := by
  rw [parseBytes, Utf8.decode_encode]
  exact parse_render hv

end DirectShare.Json
