import Mathlib
import DirectShare.Proofs.Crypto.Nonces

/-!
# Nonces come back

A share counts what it opens, as it counts what it seals, but it does not stop where the count ends: there the
count begins anew. Within a round of the count no nonce is used twice. After a full round the nonces come back, and
what was opened a round ago is opened again.

`CryptoContext.opens_decrypt_iff` says that opening a ciphertext opens one sealing, under the nonce of the
count. A `CryptoContext.Account` holds a share with all its openings, and every call is a step of it
(`CryptoContext.Account.exists_step`) that keeps the count in line with the number of openings
(`CryptoContext.Account.Counted.step`). `CryptoContext.Account.reopened_after_round` gives the place of every
nonce among the openings, so that the recurrence after a round is exact, provided that the provider
`BindsNonce`.
-/

namespace DirectShare

namespace Provider

/-- The provider that refuses to open one sealing and does everything else as before. -/
def keeping (p : Provider) (x : Sealing) : Provider :=
  { p with
    decrypt := fun key nonce header ciphertext =>
      if key = x.key ∧ nonce = x.nonce ∧ header = x.header ∧ ciphertext = x.ciphertext then
        .error .authenticationFailed
      else p.decrypt key nonce header ciphertext }

/-- A computation opens a sealing: were this one not opened, the computation would come out otherwise. -/
def Opens {α : Type} (p : Provider) (run : Provider → α) (x : Sealing) : Prop :=
  p.decrypt x.key x.nonce x.header x.ciphertext = .ok x.plaintext ∧ run (p.keeping x) ≠ run p

/-- Nothing is opened under two nonces. -/
def BindsNonce (p : Provider) : Prop :=
  ∀ key nonce nonce' header ciphertext plaintext plaintext', p.decrypt key nonce header ciphertext = .ok plaintext →
    p.decrypt key nonce' header ciphertext = .ok plaintext' → nonce = nonce'

/-- A provider that keeps a ciphertext shut does not open it. -/
@[simp] lemma keeping_decrypt_self (p : Provider) (x : Sealing) :
    (p.keeping x).decrypt x.key x.nonce x.header x.ciphertext = .error .authenticationFailed :=
  if_pos ⟨rfl, rfl, rfl, rfl⟩

/-- It opens everything else as before. -/
lemma keeping_decrypt {p : Provider} {x : Sealing} {key : SharedKey} {nonce header ciphertext : Bytes}
    (h : ¬(key = x.key ∧ nonce = x.nonce ∧ header = x.header ∧ ciphertext = x.ciphertext)) :
    (p.keeping x).decrypt key nonce header ciphertext = p.decrypt key nonce header ciphertext := if_neg h

end Provider

namespace CryptoContext

variable {p : Provider} {c c' : CryptoContext} {call : Call} {x : Sealing} {key : SharedKey}
  {sequence : UInt32} {header plaintext ciphertext : Bytes} {e : CryptoError}

/-! ### Calls -/

/-- A text that was opened is counted. -/
lemma decrypt_ok (h : decrypt p sequence header ciphertext c = .ok plaintext c') :
    ∃ key, c.key = some key ∧
      p.decrypt key (nonce c.role.peer sequence c.received) header ciphertext = .ok plaintext ∧
      c' = { c with received := c.received + 1 } := by
  rw [decrypt] at h
  cases hkey : c.key with
  | none =>
    rw [hkey] at h
    cases h
  | some key =>
    simp only [hkey] at h
    split at h
    · cases h
    · next hdecrypt =>
      cases h
      exact ⟨key, rfl, hdecrypt, rfl⟩

/-- A share that could not open is as before. -/
lemma decrypt_error (h : decrypt p sequence header ciphertext c = .error e c') : c' = c := by
  rw [decrypt] at h
  split at h
  · cases h
    rfl
  · split at h
    · cases h
      rfl
    · cases h

/-- Under its key a share opens what its provider opens under the nonce of its count. -/
lemma decrypt_of_key (hkey : c.key = some key)
    (h : p.decrypt key (nonce c.role.peer sequence c.received) header ciphertext = .ok plaintext) :
    decrypt p sequence header ciphertext c = .ok plaintext { c with received := c.received + 1 } := by
  simp only [decrypt, hkey, h]

/-- Opening a ciphertext opens the sealing of it, under the key of the share and the nonce of its count. -/
theorem opens_decrypt_iff :
    p.Opens (fun p => decrypt p sequence header ciphertext c) x ↔
      c.key = some x.key ∧ x.nonce = nonce c.role.peer sequence c.received ∧ x.header = header ∧
        x.ciphertext = ciphertext ∧
        decrypt p sequence header ciphertext c = .ok x.plaintext { c with received := c.received + 1 } := by
  constructor
  · rintro ⟨hp, hx⟩
    obtain hkey | ⟨key, hkey⟩ := Option.eq_none_or_eq_some c.key
    · simp only [decrypt, hkey] at hx
      exact absurd rfl hx
    · by_cases hcall : key = x.key ∧ nonce c.role.peer sequence c.received = x.nonce ∧ header = x.header ∧
          ciphertext = x.ciphertext
      · obtain ⟨rfl, hnonce, rfl, rfl⟩ := hcall
        exact ⟨hkey, hnonce.symm, rfl, rfl, decrypt_of_key hkey (hnonce ▸ hp)⟩
      · -- the provider was asked for something else, and answers that as before
        simp only [decrypt, hkey, Provider.keeping_decrypt hcall] at hx
        exact absurd rfl hx
  · rintro ⟨hkey, hnonce, rfl, rfl, hrun⟩
    obtain ⟨key, hkey', hp, -⟩ := decrypt_ok hrun
    obtain rfl : x.key = key := Option.some.inj (hkey.symm.trans hkey')
    rw [← hnonce] at hp
    refine ⟨hp, ?_⟩
    have hkept : decrypt (p.keeping x) sequence x.header x.ciphertext c = .error .authenticationFailed c := by
      simp only [decrypt, hkey, ← hnonce, Provider.keeping_decrypt_self]
    simp only [hrun, hkept]
    exact fun heq => by cases heq

/-- Only a call to open opens a sealing. -/
lemma exists_decrypt_of_opens (h : p.Opens (fun p => call.run p c) x) :
    ∃ sequence header ciphertext, call = .decrypt sequence header ciphertext := by
  cases call with
  | decrypt sequence header ciphertext => exact ⟨sequence, header, ciphertext, rfl⟩
  | _ => exact absurd rfl h.2

/-- Agreeing on a key opens nothing that is counted. -/
lemma received_derive (p : Provider) (peer : Bytes) (c : CryptoContext) :
    (after (derive p peer c)).received = c.received := by
  rw [derive]
  split
  · rfl
  · split <;> rfl

/-- A call that opens nothing keeps the count. -/
lemma received_run (h : ∀ x, ¬p.Opens (fun p => call.run p c) x) : (after (call.run p c)).received = c.received := by
  cases call with
  | derive peer =>
    rw [Call.run, after_bind]
    exact received_derive p peer c
  | deriveText peer =>
    rw [Call.run, after_bind, CryptoContext.deriveText]
    cases Base64.decode peer with
    | none => rfl
    | some bs => exact received_derive p bs c
  | encrypt sequence header plaintext =>
    rw [Call.run]
    cases hrun : CryptoContext.encrypt p sequence header plaintext c with
    | error e c' => rw [after, encrypt_error hrun]
    | ok ciphertext c' =>
      obtain ⟨-, -, -, -, rfl⟩ := encrypt_ok hrun
      rfl
  | decrypt sequence header ciphertext =>
    rw [Call.run]
    cases hrun : CryptoContext.decrypt p sequence header ciphertext c with
    | error e c' => rw [after, decrypt_error hrun]
    | ok plaintext c' =>
      obtain ⟨key, hkey, -, rfl⟩ := decrypt_ok hrun
      exact absurd (opens_decrypt_iff.2 ⟨hkey, rfl, rfl, rfl, hrun⟩) (h ⟨key, _, header, plaintext, ciphertext⟩)
  | erase => rfl

/-! ### Accounts -/

/-- The opening of a sealing for a frame with the given number. -/
structure Opening extends Sealing where
  sequence : UInt32

/-- A share with all openings that it has made so far, in their order. -/
structure Account where
  share : CryptoContext
  opened : List Opening := []

namespace Account

/-- One more call of the share. -/
inductive Step (p : Provider) : Account → Account → Prop
  /-- A call that opens nothing. -/
  | silent {a : Account} (call : Call) : (∀ x, ¬p.Opens (fun p => call.run p a.share) x) →
      Step p a { a with share := after (call.run p a.share) }
  /-- A call that opens a sealing. -/
  | opens {a : Account} {header ciphertext : Bytes} (x : Opening) :
      p.Opens (fun p => decrypt p x.sequence header ciphertext a.share) x.toSealing →
      Step p a { share := after (decrypt p x.sequence header ciphertext a.share), opened := a.opened ++ [x] }

variable {a a' : Account} {start : CryptoContext}

/-- Every call is a step. -/
theorem exists_step (p : Provider) (call : Call) (a : Account) :
    ∃ opened, Step p a ⟨after (call.run p a.share), opened⟩ := by
  by_cases hopens : ∃ x, p.Opens (fun p => call.run p a.share) x
  · obtain ⟨x, hx⟩ := hopens
    obtain ⟨sequence, header, ciphertext, rfl⟩ := exists_decrypt_of_opens hx
    exact ⟨_, .opens ⟨x, sequence⟩ hx⟩
  · exact ⟨_, .silent call (not_exists.1 hopens)⟩

/-- The count and the nonces of a share are in line, from where it started. -/
structure Counted (p : Provider) (start : CryptoContext) (a : Account) : Prop where
  role : a.share.role = start.role
  received : a.share.received = start.received + UInt32.ofNat a.opened.length
  nonces : ∀ k x, a.opened[k]? = some x →
    x.nonce = nonce start.role.peer x.sequence (start.received + UInt32.ofNat k)
  opened : ∀ x ∈ a.opened, p.decrypt x.key x.nonce x.header x.ciphertext = .ok x.plaintext

/-- At the start there is nothing to count. -/
lemma counted_start (p : Provider) (start : CryptoContext) : Counted p start ⟨start, []⟩ where
  role := rfl
  received := (UInt32.add_zero _).symm
  nonces := by simp
  opened := by simp

/-- Every step keeps the count and the nonces in line. -/
theorem Counted.step (h : Counted p start a) (hstep : Step p a a') : Counted p start a' := by
  cases hstep with
  | silent call hsilent =>
    exact ⟨(becomes_run p call a.share).role_eq.trans h.role, (received_run hsilent).trans h.received, h.nonces,
      h.opened⟩
  | @opens header ciphertext x hx =>
    -- the new opening is the last one, under the nonce of the count so far
    obtain ⟨-, hnonce, -, -, hrun⟩ := opens_decrypt_iff.1 hx
    refine ⟨by rw [hrun]; exact h.role, ?_, fun k y hy => ?_, fun y hy => ?_⟩
    · rw [hrun, after, h.received, List.length_append, List.length_singleton, UInt32.ofNat_add, UInt32.add_assoc]
      rfl
    · obtain hk | hk := Nat.lt_or_ge k a.opened.length
      · rw [List.getElem?_append_left hk] at hy
        exact h.nonces k y hy
      · obtain ⟨hk, rfl⟩ : k = a.opened.length ∧ x = y := by
          rw [List.getElem?_append_right hk, List.getElem?_singleton] at hy
          split_ifs at hy with hzero
          exact ⟨by omega, Option.some.inj hy⟩
        rw [hnonce, hk, h.role, h.received]
    · obtain hy | hy := List.mem_append.1 hy
      · exact h.opened y hy
      · rw [List.mem_singleton.1 hy]
        exact hx.1

/-- What is counted is in line after every run of calls. -/
lemma counted_of_steps (h : Relation.ReflTransGen (Step p) ⟨start, []⟩ a) : Counted p start a := by
  induction h with
  | refl => exact counted_start p start
  | tail _ hstep ih => exact ih.step hstep

/-! ### Rounds -/

/-- Two numbers are the same in 32 bits exactly if they leave the same remainder. -/
lemma ofNat_eq_ofNat_iff {i j : Nat} : UInt32.ofNat i = UInt32.ofNat j ↔ i % UInt32.size = j % UInt32.size := by
  rw [← UInt32.toNat_inj, UInt32.toNat_ofNat', UInt32.toNat_ofNat']

/-- The nonce of one count is that of another one for the same frame exactly if they are whole rounds apart. -/
lemma nonce_eq_iff {origin : Role} {sequence' first : UInt32} {i j : Nat} :
    nonce origin sequence (first + UInt32.ofNat i) = nonce origin sequence' (first + UInt32.ofNat j) ↔
      sequence = sequence' ∧ i % UInt32.size = j % UInt32.size := by
  rw [← ofNat_eq_ofNat_iff]
  constructor
  · intro h
    obtain ⟨-, hsequence, hcount⟩ := nonce_injective h
    exact ⟨hsequence, (UInt32.add_right_inj _).1 hcount⟩
  · rintro ⟨rfl, hcount⟩
    rw [hcount]

/-- Two openings have the same nonce exactly if they are for frames of the same number and whole rounds apart. -/
lemma Counted.nonce_eq_iff (h : Counted p start a) {i j : Nat} {x y : Opening} (hx : a.opened[i]? = some x)
    (hy : a.opened[j]? = some y) :
    x.nonce = y.nonce ↔ x.sequence = y.sequence ∧ i % UInt32.size = j % UInt32.size := by
  rw [h.nonces i x hx, h.nonces j y hy]
  exact Account.nonce_eq_iff

/-- Within a round no nonce is used twice. -/
lemma Counted.nodup (h : Counted p start a) (hround : a.opened.length ≤ UInt32.size) :
    (a.opened.map (·.nonce)).Nodup := by
  rw [List.Nodup, List.pairwise_map, List.pairwise_iff_getElem]
  intro i j hi hj hij heq
  have hmod := ((h.nonce_eq_iff (List.getElem?_eq_getElem hi) (List.getElem?_eq_getElem hj)).1 heq).2
  rw [Nat.mod_eq_of_lt (by omega), Nat.mod_eq_of_lt (by omega)] at hmod
  omega

/-- What was opened is opened again exactly a whole number of rounds later. -/
lemma Counted.decrypt_iff (h : Counted p start a) (hp : p.BindsNonce) {i : Nat} {x : Opening}
    (hx : a.opened[i]? = some x) (hkey : a.share.key = some x.key) :
    (∃ plaintext c', decrypt p x.sequence x.header x.ciphertext a.share = .ok plaintext c') ↔
      i % UInt32.size = a.opened.length % UInt32.size := by
  have hopened := h.opened x (List.mem_of_getElem? hx)
  have hnonce : x.nonce = nonce a.share.role.peer x.sequence a.share.received ↔
      i % UInt32.size = a.opened.length % UInt32.size := by
    rw [h.nonces i x hx, h.role, h.received, Account.nonce_eq_iff]
    exact and_iff_right rfl
  rw [← hnonce]
  constructor
  · rintro ⟨plaintext, c', hrun⟩
    obtain ⟨key, hkey', hdecrypt, -⟩ := decrypt_ok hrun
    obtain rfl : x.key = key := Option.some.inj (hkey.symm.trans hkey')
    exact hp _ _ _ _ _ _ _ hopened hdecrypt
  · intro heq
    exact ⟨_, _, decrypt_of_key hkey (heq ▸ hopened)⟩

/-- After every run of calls, the openings of a share have different nonces as long as they fill at most one round
of its count. Two of them have the same nonce exactly if they are for frames of the same number and whole rounds
apart, and what was opened is opened again exactly a whole number of rounds later. A text that could not be opened
does not count. -/
theorem reopened_after_round (h : Relation.ReflTransGen (Step p) ⟨start, []⟩ a) :
    (a.opened.length ≤ 2 ^ 32 → (a.opened.map (·.nonce)).Nodup) ∧
    (∀ (i j : Nat) x y, a.opened[i]? = some x → a.opened[j]? = some y →
      (x.nonce = y.nonce ↔ x.sequence = y.sequence ∧ i % 2 ^ 32 = j % 2 ^ 32)) ∧
    (p.BindsNonce → ∀ (i : Nat) x, a.opened[i]? = some x → a.share.key = some x.key →
      ((∃ plaintext c', decrypt p x.sequence x.header x.ciphertext a.share = .ok plaintext c') ↔
        i % 2 ^ 32 = a.opened.length % 2 ^ 32)) ∧
    ∀ sequence header ciphertext e c', decrypt p sequence header ciphertext a.share = .error e c' → c' = a.share := by
  have hcounted := counted_of_steps h
  exact ⟨hcounted.nodup, fun i j x y hx hy => hcounted.nonce_eq_iff hx hy,
    fun hp i x hx hkey => hcounted.decrypt_iff hp hx hkey,
    fun sequence header ciphertext e c' hrun => decrypt_error hrun⟩

/-! ### A full round -/

/-- Primitives that write the nonce before what they seal, and look for it when they open. -/
def labelling : Provider :=
  { Provider.ideal [] with
    encrypt := fun _ nonce _ plaintext => .ok (nonce ++ plaintext)
    decrypt := fun _ nonce _ ciphertext =>
      if ciphertext.take 12 = nonce then .ok (ciphertext.drop 12) else .error .authenticationFailed }

/-- The labelling primitives open nothing under two nonces. -/
lemma bindsNonce_labelling : labelling.BindsNonce := by
  intro key nonce nonce' header ciphertext plaintext plaintext' h h'
  simp only [labelling] at h h'
  split_ifs at h with hnonce
  split_ifs at h' with hnonce'
  exact hnonce.symm.trans hnonce'

/-- A receiver before it has agreed on a key. -/
def newShare : CryptoContext := { role := .receiver, keyPair := some ⟨[2], [2]⟩ }

/-- A receiver that has agreed on a key, and has opened the given number of texts. -/
def keyedShare (count : Nat) : CryptoContext :=
  { role := .receiver, keyPair := none, key := some ⟨[3]⟩, received := UInt32.ofNat count }

/-- The opening of an empty text for the first frame, after the given number of others. -/
def emptyOpening (count : Nat) : Opening where
  key := ⟨[3]⟩
  nonce := nonce .sender 0 (UInt32.ofNat count)
  header := []
  plaintext := []
  ciphertext := nonce .sender 0 (UInt32.ofNat count)
  sequence := 0

/-- One more opening is one more in the count. -/
lemma keyedShare_succ (count : Nat) :
    keyedShare (count + 1) = { keyedShare count with received := (keyedShare count).received + 1 } := by
  rw [keyedShare, UInt32.ofNat_add]
  rfl

/-- The next empty text is opened. -/
lemma decrypt_emptyOpening (count : Nat) :
    decrypt labelling 0 [] (emptyOpening count).ciphertext (keyedShare count) = .ok [] (keyedShare (count + 1)) := by
  have hlength : (nonce .sender 0 (UInt32.ofNat count)).length = 12 := by simp [nonce]
  have hopened : labelling.decrypt ⟨[3]⟩ (nonce .sender 0 (UInt32.ofNat count)) []
      (nonce .sender 0 (UInt32.ofNat count)) = .ok [] := by
    simp only [labelling]
    rw [List.take_of_length_le hlength.le, if_pos rfl, List.drop_of_length_le hlength.le]
  rw [keyedShare_succ]
  exact decrypt_of_key rfl hopened

/-- The next empty text can always be opened. -/
lemma step_emptyOpening (n : Nat) (opened : List Opening) :
    Step labelling ⟨keyedShare n, opened⟩ ⟨keyedShare (n + 1), opened ++ [emptyOpening n]⟩ := by
  have hrun := decrypt_emptyOpening n
  have hopens : labelling.Opens (fun p => decrypt p 0 [] (emptyOpening n).ciphertext (keyedShare n))
      (emptyOpening n).toSealing :=
    opens_decrypt_iff.2 ⟨rfl, rfl, rfl, rfl, by rw [hrun, keyedShare_succ]; rfl⟩
  have hstep : Step labelling ⟨keyedShare n, opened⟩
      ⟨after (decrypt labelling 0 [] (emptyOpening n).ciphertext (keyedShare n)), opened ++ [emptyOpening n]⟩ :=
    .opens (emptyOpening n) hopens
  rw [hrun] at hstep
  exact hstep

/-- A receiver agrees on a key and opens any number of empty texts, each sealed under the nonce that is next. -/
lemma steps_emptyOpenings (n : Nat) : Relation.ReflTransGen (Step labelling) ⟨newShare, []⟩
    ⟨keyedShare n, (List.range n).map emptyOpening⟩ := by
  induction n with
  | zero =>
    have hsilent : ∀ x, ¬labelling.Opens (fun p => (Call.derive [1]).run p newShare) x := fun x hx => hx.2 rfl
    exact .single (.silent (.derive [1]) hsilent)
  | succ n ih =>
    rw [List.range_succ, List.map_append]
    exact ih.tail (step_emptyOpening n _)

/-- An empty text that was opened is refused at once if it comes again. -/
theorem reopened_after_round_once : ∃ a x, Relation.ReflTransGen (Step labelling) ⟨newShare, []⟩ a ∧
    a.opened = [x] ∧ a.share.key = some x.key ∧
      ¬∃ plaintext c', decrypt labelling x.sequence x.header x.ciphertext a.share = .ok plaintext c' := by
  have hrun := steps_emptyOpenings 1
  refine ⟨_, emptyOpening 0, hrun, rfl, rfl, fun hagain => ?_⟩
  have hround := ((reopened_after_round hrun).2.2.1 bindsNonce_labelling 0 (emptyOpening 0) rfl rfl).1 hagain
  cases hround

/-- A receiver opens one and the same ciphertext twice for one and the same frame: as its first text, and as the
first one of the next round. -/
theorem opened_twice : ∃ a x, CryptoContext.create labelling .receiver [2] = .ok newShare ∧
    labelling.BindsNonce ∧ Relation.ReflTransGen (Step labelling) ⟨newShare, []⟩ a ∧
      a.opened[0]? = some x ∧ a.opened[2 ^ 32]? = some x := by
  -- the run is too long to be evaluated, but what it has opened is known at every place
  refine ⟨_, emptyOpening 0, rfl, bindsNonce_labelling, steps_emptyOpenings (2 ^ 32 + 1), ?_, ?_⟩
  · rw [List.getElem?_map, List.getElem?_range (by decide)]
    rfl
  · rw [List.getElem?_map, List.getElem?_range (by decide)]
    have hround : UInt32.ofNat (2 ^ 32) = UInt32.ofNat 0 := by decide
    rw [Option.map_some, emptyOpening, hround]
    rfl

end Account

end CryptoContext

end DirectShare
