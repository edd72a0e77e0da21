import Mathlib
import DirectShare.Proofs.Crypto.Sealing

/-!
# Nonces are used once

Any number of shares in encryptions are made, and asked to agree on keys, to seal and to open, in any order
and with another provider each time. A share counts what it seals and stops before its count would begin
anew, and it holds one key at most. So the two sides of a session never seal under the same nonce.

`CryptoContext.makes_encrypt_iff` says that sealing a text is the only call that makes a sealing, under the
nonce of the count. A `CryptoContext.Pool` holds the shares with all sealings that they have made, and every
call is a step of it (`CryptoContext.Pool.exists_step`). `CryptoContext.Pool.Counted` relates the count of
each share to the nonces that it has used. Every step keeps that (`CryptoContext.Pool.Counted.step`), and
`CryptoContext.Pool.nonces_differ` reads from it what holds of every pool.
-/

namespace DirectShare.CryptoContext

/-! ### Calls -/

/-- What a share can be asked. -/
inductive Call where
  | derive (peer : Bytes)
  | deriveText (peer : String)
  | encrypt (sequence : UInt32) (header plaintext : Bytes)
  | decrypt (sequence : UInt32) (header ciphertext : Bytes)
  /-- To forget its key pair and its key. -/
  | erase

/-- Makes the call. Only sealing and opening give bytes. -/
def Call.run (p : Provider) : Call → EStateM CryptoError CryptoContext Bytes
  | .derive peer => do CryptoContext.derive p peer; return []
  | .deriveText peer => do CryptoContext.deriveText p peer; return []
  | .encrypt sequence header plaintext => CryptoContext.encrypt p sequence header plaintext
  | .decrypt sequence header ciphertext => CryptoContext.decrypt p sequence header ciphertext
  | .erase => do modify CryptoContext.erase; return []

/-- The share that is left, also after a failure. -/
def after {α : Type} : EStateM.Result CryptoError CryptoContext α → CryptoContext
  | .ok _ c | .error _ c => c

variable {p : Provider} {c c' : CryptoContext} {call : Call} {x : Sealing} {key : SharedKey}
  {sequence : UInt32} {header plaintext ciphertext : Bytes} {e : CryptoError}

/-- A text that was sealed is counted. -/
lemma encrypt_ok (h : encrypt p sequence header plaintext c = .ok ciphertext c') :
    ∃ key, c.key = some key ∧ c.sent.toNat + 1 < UInt32.size ∧
      p.encrypt key (nonce c.role sequence c.sent) header plaintext = .ok ciphertext ∧
      c' = { c with sent := c.sent + 1 } := by
  rw [encrypt] at h
  cases hkey : c.key with
  | none =>
    rw [hkey] at h
    cases h
  | some key =>
    simp only [hkey] at h
    split_ifs at h with hsent
    split at h
    · cases h
    · next hencrypt =>
      cases h
      exact ⟨key, rfl, hsent, hencrypt, rfl⟩

/-- A share that could not seal is as before. -/
lemma encrypt_error (h : encrypt p sequence header plaintext c = .error e c') : c' = c := by
  rw [encrypt] at h
  split at h
  · cases h
    rfl
  · split_ifs at h
    · split at h
      · cases h
        rfl
      · cases h
    · cases h
      rfl

/-- A share whose count is at its end seals nothing. -/
lemma encrypt_of_spent (h : c.sent.toNat + 1 = UInt32.size) :
    ∃ e, encrypt p sequence header plaintext c = .error e c := by
  rw [encrypt]
  cases c.key with
  | none => exact ⟨_, rfl⟩
  | some key => exact ⟨_, if_neg h.not_lt⟩

/-- Sealing a text makes the sealing of that text, under the key of the share and the nonce of its count. -/
theorem makes_encrypt_iff :
    p.Makes (fun p => encrypt p sequence header plaintext c) x ↔
      c.key = some x.key ∧ x.nonce = nonce c.role sequence c.sent ∧ x.header = header ∧ x.plaintext = plaintext ∧
        encrypt p sequence header plaintext c = .ok x.ciphertext { c with sent := c.sent + 1 } := by
  constructor
  · rintro ⟨hp, hx⟩
    simp only [encrypt] at hx ⊢
    cases hkey : c.key with
    | none =>
      simp only [hkey] at hx
      exact absurd rfl hx
    | some key =>
      simp only [hkey] at hx ⊢
      split_ifs at hx ⊢ with hsent
      · by_cases hcall : key = x.key ∧ nonce c.role sequence c.sent = x.nonce ∧ header = x.header ∧
            plaintext = x.plaintext
        · obtain ⟨rfl, hnonce, rfl, rfl⟩ := hcall
          rw [hnonce, hp]
          exact ⟨rfl, rfl, rfl, rfl, rfl⟩
        · rw [Provider.without_encrypt hcall] at hx
          exact absurd rfl hx
      · exact absurd rfl hx
  · rintro ⟨hkey, hnonce, rfl, rfl, hrun⟩
    obtain ⟨key, hkey', hsent, hp, -⟩ := encrypt_ok hrun
    obtain rfl : x.key = key := Option.some.inj (hkey.symm.trans hkey')
    rw [← hnonce] at hp
    refine ⟨hp, ?_⟩
    have hrefused : encrypt (p.without x) sequence x.header x.plaintext c = .error .encryption c := by
      simp only [encrypt, hkey, if_pos hsent, ← hnonce, Provider.without_encrypt_self]
    simp only [hrun, hrefused]
    exact fun heq => by cases heq

/-- Only a call to seal makes a sealing. -/
lemma exists_encrypt_of_makes (h : p.Makes (fun p => call.run p c) x) :
    ∃ sequence header plaintext, call = .encrypt sequence header plaintext := by
  cases call with
  | encrypt sequence header plaintext => exact ⟨sequence, header, plaintext, rfl⟩
  | _ => exact absurd rfl h.2

/-- A text that was sealed makes a sealing, and no other one. -/
lemma makes_iff_of_encrypt (h : encrypt p sequence header plaintext c = .ok ciphertext c')
    (hkey : c.key = some key) :
    p.Makes (fun p => encrypt p sequence header plaintext c) x ↔
      x = ⟨key, nonce c.role sequence c.sent, header, plaintext, ciphertext⟩ := by
  obtain ⟨-, -, -, -, rfl⟩ := encrypt_ok h
  obtain ⟨key', nonce', header', plaintext', ciphertext'⟩ := x
  simp only [makes_encrypt_iff, h, hkey, Option.some.injEq, EStateM.Result.ok.injEq, and_true, Sealing.mk.injEq]
  exact ⟨fun ⟨hk, hn, hh, hp, hc⟩ => ⟨hk.symm, hn, hh, hp, hc.symm⟩,
    fun ⟨hk, hn, hh, hp, hc⟩ => ⟨hk.symm, hn, hh, hp, hc.symm⟩⟩

/-- What a call may make of a share. -/
inductive Becomes (c : CryptoContext) : Call → CryptoContext → Prop
  | same {call : Call} : Becomes c call c
  /-- The key pair was used, with or without success. -/
  | derived {call : Call} (key : Option SharedKey) : c.keyPair ≠ none →
      Becomes c call { c with keyPair := none, key := key }
  | sealed {sequence : UInt32} {header plaintext : Bytes} :
      Becomes c (.encrypt sequence header plaintext) { c with sent := c.sent + 1 }
  | opened {call : Call} : Becomes c call { c with received := c.received + 1 }
  | erased {call : Call} : Becomes c call c.erase

/-- What a call leaves does not depend on what is made of its result. -/
lemma after_bind {α β : Type} (act : EStateM CryptoError CryptoContext α) (b : β) :
    after ((do let _ ← act; return b : EStateM CryptoError CryptoContext β) c) = after (act c) := by
  simp only [bind, EStateM.bind]
  cases act c <;> rfl

/-- Agreeing on a key leaves a share that it may become. -/
lemma becomes_derive (p : Provider) (peer : Bytes) (call : Call) : Becomes c call (after (derive p peer c)) := by
  rw [derive]
  split
  · exact .same
  · next pair hpair =>
    have hsome : c.keyPair ≠ none := by simp [hpair]
    split
    · exact .derived c.key hsome
    · exact .derived _ hsome

/-- Every call leaves a share that it may become. -/
lemma becomes_run (p : Provider) (call : Call) (c : CryptoContext) : Becomes c call (after (call.run p c)) := by
  cases call with
  | derive peer =>
    rw [Call.run, after_bind]
    exact becomes_derive p peer _
  | deriveText peer =>
    rw [Call.run, after_bind, CryptoContext.deriveText]
    cases Base64.decode peer with
    | none => exact .same
    | some bs => exact becomes_derive p bs _
  | encrypt sequence header plaintext =>
    rw [Call.run]
    cases hrun : CryptoContext.encrypt p sequence header plaintext c with
    | error e c' =>
      rw [encrypt_error hrun]
      exact .same
    | ok ciphertext c' =>
      obtain ⟨-, -, -, -, rfl⟩ := encrypt_ok hrun
      exact .sealed
  | decrypt sequence header ciphertext =>
    rw [Call.run, CryptoContext.decrypt]
    split
    · exact .same
    · split
      · exact .same
      · exact .opened
  | erase => exact .erased

/-- A share keeps its side. -/
lemma Becomes.role_eq (h : Becomes c call c') : c'.role = c.role := by
  cases h <;> rfl

/-- A share that has agreed on a key, or has tried to, holds that key or none from then on. -/
def HoldsAtMost (key : SharedKey) (c : CryptoContext) : Prop := c.keyPair = none ∧ ∀ k, c.key = some k → k = key

/-- A share that holds a key keeps that one, whatever it is asked. -/
lemma Becomes.holdsAtMost (h : Becomes c call c') (hc : HoldsAtMost key c) : HoldsAtMost key c' := by
  cases h with
  | derived key hpair => exact absurd hc.1 hpair
  | erased => exact ⟨rfl, nofun⟩
  | _ => exact hc

/-- A share has no key as long as it has its key pair. -/
def IsUnkeyed (c : CryptoContext) : Prop := c.keyPair ≠ none → c.key = none

/-- A share that has no key beside its key pair stays so. -/
lemma Becomes.isUnkeyed (h : Becomes c call c') (hc : IsUnkeyed c) : IsUnkeyed c' := by
  cases h with
  | derived key hpair => exact fun hne => absurd rfl hne
  | erased => exact fun _ => rfl
  | _ => exact hc

/-- Which sealing a call makes, and what it leaves of the count. -/
lemma sent_run (p : Provider) (call : Call) (c : CryptoContext) :
    (∀ x, ¬p.Makes (fun p => call.run p c) x) ∧ (after (call.run p c)).sent = c.sent ∨
      ∃ x sequence, (∀ y, p.Makes (fun p => call.run p c) y ↔ y = x) ∧
        x.nonce = nonce c.role sequence c.sent ∧ c.sent.toNat + 1 < UInt32.size ∧
        (after (call.run p c)).sent = c.sent + 1 := by
  by_cases hcall : ∃ sequence header plaintext, call = .encrypt sequence header plaintext
  · obtain ⟨sequence, header, plaintext, rfl⟩ := hcall
    cases hrun : encrypt p sequence header plaintext c with
    | error e c' =>
      refine .inl ⟨fun x hx => ?_, by rw [Call.run, hrun, after, encrypt_error hrun]⟩
      obtain ⟨-, -, -, -, hok⟩ := makes_encrypt_iff.1 hx
      rw [hrun] at hok
      cases hok
    | ok ciphertext c' =>
      obtain ⟨key, hkey, hsent, -, rfl⟩ := encrypt_ok hrun
      exact .inr ⟨_, sequence, fun y => makes_iff_of_encrypt hrun hkey, rfl, hsent, by rw [Call.run, hrun, after]⟩
  · refine .inl ⟨fun x hx => hcall (exists_encrypt_of_makes hx), ?_⟩
    have hbecomes := becomes_run p call c
    generalize after (call.run p c) = c' at hbecomes
    cases hbecomes with
    | «sealed» => exact absurd ⟨_, _, _, rfl⟩ hcall
    | _ => rfl

/-! ### Pools -/

/-- Shares in encryptions in the order in which they were made, with all sealings that they have made so far. -/
structure Pool where
  shares : List CryptoContext := []
  /-- The sealings, each with the place of the share that has made it. -/
  made : List (Nat × Sealing) := []

namespace Pool

/-- One more share, or one call of a share. The provider may be another one each time. -/
inductive Step : Pool → Pool → Prop
  | create {pool : Pool} {p : Provider} {role : Role} {random : Bytes} {c : CryptoContext} :
      CryptoContext.create p role random = .ok c → Step pool { pool with shares := pool.shares ++ [c] }
  | call {pool : Pool} {i : Nat} {c : CryptoContext} (p : Provider) (call : Call) (made : Option Sealing) :
      pool.shares[i]? = some c → (∀ x, made = some x ↔ p.Makes (fun p => call.run p c) x) →
      Step pool
        { shares := pool.shares.set i (after (call.run p c))
          made := pool.made ++ made.toList.map fun x => (i, x) }

variable {pool pool' : Pool} {i : Nat}

/-- A text that was sealed goes to the sealings of the pool. -/
lemma step_encrypt (hc : pool.shares[i]? = some c) (hkey : c.key = some key)
    (h : encrypt p sequence header plaintext c = .ok ciphertext c') :
    Step pool
      { shares := pool.shares.set i c'
        made := pool.made ++ [(i, ⟨key, nonce c.role sequence c.sent, header, plaintext, ciphertext⟩)] } := by
  have hstep := Step.call p (.encrypt sequence header plaintext) (some _) hc
    fun x => (by rw [Option.some.injEq, eq_comm]; exact (makes_iff_of_encrypt h hkey).symm)
  rw [Call.run, h] at hstep
  exact hstep

/-- No other call adds to the sealings of the pool. -/
lemma step_of_forall_ne (p : Provider) (call : Call) (hc : pool.shares[i]? = some c)
    (h : ∀ sequence header plaintext, call ≠ .encrypt sequence header plaintext) :
    Step pool { pool with shares := pool.shares.set i (after (call.run p c)) } := by
  have hsilent : ∀ x, ¬p.Makes (fun p => call.run p c) x := fun x hx => by
    obtain ⟨sequence, header, plaintext, heq⟩ := exists_encrypt_of_makes hx
    exact h sequence header plaintext heq
  have hstep := Step.call p call none hc fun x => by simp [hsilent x]
  simpa only [Option.toList_none, List.map_nil, List.append_nil] using hstep

/-- Every call is a step. -/
theorem exists_step (p : Provider) (call : Call) (hc : pool.shares[i]? = some c) :
    ∃ made, Step pool ⟨pool.shares.set i (after (call.run p c)), made⟩ := by
  obtain ⟨hnone, -⟩ | ⟨x, -, hx, -⟩ := sent_run p call c
  · exact ⟨_, .call p call none hc fun y => by simp [hnone y]⟩
  · exact ⟨_, .call p call (some x) hc fun y => by rw [hx, Option.some.injEq, eq_comm]⟩

/-- The counts and the nonces of a pool are in line. -/
structure Counted (pool : Pool) : Prop where
  /-- A sealing has the nonce of its share for a count that is past. -/
  past : ∀ m ∈ pool.made, ∃ c sequence counter, pool.shares[m.1]? = some c ∧
    m.2.nonce = nonce c.role sequence counter ∧ counter < c.sent
  /-- No share uses a nonce twice. -/
  once : pool.made.Pairwise fun m n => m.1 = n.1 → m.2.nonce ≠ n.2.nonce
  /-- Every sealing is counted. -/
  count : ∀ i c, pool.shares[i]? = some c → pool.made.countP (·.1 = i) = c.sent.toNat
  unkeyed : ∀ c ∈ pool.shares, IsUnkeyed c

/-- Without shares there is nothing to count. -/
lemma counted_empty : Counted {} where
  past := by simp
  once := .nil
  count := by simp
  unkeyed := by simp

/-- Every sealing was made by one of the shares. -/
lemma Counted.lt_length (h : Counted pool) {m : Nat × Sealing} (hm : m ∈ pool.made) :
    m.1 < pool.shares.length := by
  obtain ⟨c, -, -, hc, -⟩ := h.past m hm
  exact (List.getElem?_eq_some_iff.1 hc).1

/-- A new share has made no sealing. -/
lemma Counted.create (h : Counted pool) {p : Provider} {role : Role} {random : Bytes} {c : CryptoContext}
    (hcreate : CryptoContext.create p role random = .ok c) :
    Counted { pool with shares := pool.shares ++ [c] } := by
  have hnew : c.sent = 0 ∧ c.key = none := by
    rw [CryptoContext.create] at hcreate
    cases hpair : p.generate random with
    | error e =>
      rw [hpair] at hcreate
      cases hcreate
    | ok pair =>
      rw [hpair] at hcreate
      cases hcreate
      exact ⟨rfl, rfl⟩
  refine ⟨fun m hm => ?_, h.once, fun i d hd => ?_, ?_⟩
  · obtain ⟨d, sequence, counter, hd, hrest⟩ := h.past m hm
    exact ⟨d, sequence, counter, by rw [List.getElem?_append_left (h.lt_length hm)]; exact hd, hrest⟩
  · obtain hi | hi := lt_or_ge i pool.shares.length
    · rw [List.getElem?_append_left hi] at hd
      exact h.count i d hd
    · have hnone : pool.made.countP (·.1 = i) = 0 := by
        rw [List.countP_eq_zero]
        intro m hm heq
        have hlt := h.lt_length hm
        simp only [decide_eq_true_eq] at heq
        omega
      rw [List.getElem?_append_right hi] at hd
      obtain rfl : c = d := List.mem_singleton.1 (List.mem_of_getElem? hd) |>.symm
      rw [hnone, hnew.1]
      rfl
  · simpa [or_imp, forall_and] using ⟨h.unkeyed, fun _ => hnew.2⟩

/-- Replacing a share by one that has no key beside its key pair leaves all shares so. -/
lemma forall_isUnkeyed_set (h : Counted pool) (hunkeyed : IsUnkeyed c') :
    ∀ d ∈ pool.shares.set i c', IsUnkeyed d := fun d hd => by
  obtain hd | rfl := List.mem_or_eq_of_mem_set hd
  · exact h.unkeyed d hd
  · exact hunkeyed

/-- A share that seals nothing keeps its count. -/
lemma Counted.set_of_sent_eq (h : Counted pool) (hc : pool.shares[i]? = some c) (hrole : c'.role = c.role)
    (hsent : c'.sent = c.sent) (hunkeyed : IsUnkeyed c') :
    Counted { pool with shares := pool.shares.set i c' } := by
  have hself : (pool.shares.set i c')[i]? = some c' := List.getElem?_set_self (List.getElem?_eq_some_iff.1 hc).1
  refine ⟨fun m hm => ?_, h.once, fun j d hd => ?_, forall_isUnkeyed_set h hunkeyed⟩
  · obtain ⟨d, sequence, counter, hd, hnonce, hcounter⟩ := h.past m hm
    by_cases hj : i = m.1
    · subst hj
      obtain rfl : c = d := Option.some.inj (hc.symm.trans hd)
      exact ⟨c', sequence, counter, hself, hrole ▸ hnonce, hsent ▸ hcounter⟩
    · exact ⟨d, sequence, counter, by rwa [List.getElem?_set_ne hj], hnonce, hcounter⟩
  · by_cases hj : i = j
    · subst hj
      obtain rfl : c' = d := Option.some.inj (hself.symm.trans hd)
      rw [hsent]
      exact h.count i c hc
    · rw [List.getElem?_set_ne hj] at hd
      exact h.count j d hd

/-- A share that seals a text uses the nonce of its count, which is then past. -/
lemma Counted.set_of_sent_succ (h : Counted pool) (hc : pool.shares[i]? = some c) (hrole : c'.role = c.role)
    (hroom : c.sent.toNat + 1 < UInt32.size) (hsent : c'.sent = c.sent + 1) (hunkeyed : IsUnkeyed c')
    (hnonce : x.nonce = nonce c.role sequence c.sent) :
    Counted { shares := pool.shares.set i c', made := pool.made ++ [(i, x)] } := by
  have hself : (pool.shares.set i c')[i]? = some c' := List.getElem?_set_self (List.getElem?_eq_some_iff.1 hc).1
  have hsucc : c'.sent.toNat = c.sent.toNat + 1 := by
    rw [hsent, UInt32.toNat_add, UInt32.toNat_one]
    exact Nat.mod_eq_of_lt hroom
  have hpast : ∀ counter : UInt32, counter ≤ c.sent → counter < c'.sent := fun counter hle => by
    rw [UInt32.lt_iff_toNat_lt, hsucc]
    rw [UInt32.le_iff_toNat_le] at hle
    omega
  refine ⟨fun m hm => ?_, ?_, fun j d hd => ?_, forall_isUnkeyed_set h hunkeyed⟩
  · obtain hm | hm := List.mem_append.1 hm
    · obtain ⟨d, sequence', counter, hd, hnonce', hcounter⟩ := h.past m hm
      by_cases hj : i = m.1
      · subst hj
        obtain rfl : c = d := Option.some.inj (hc.symm.trans hd)
        exact ⟨c', sequence', counter, hself, hrole ▸ hnonce', hpast counter (UInt32.le_of_lt hcounter)⟩
      · exact ⟨d, sequence', counter, by rwa [List.getElem?_set_ne hj], hnonce', hcounter⟩
    · obtain rfl := List.mem_singleton.1 hm
      exact ⟨c', sequence, c.sent, hself, hrole ▸ hnonce, hpast c.sent (UInt32.le_refl _)⟩
  · refine List.pairwise_append.2 ⟨h.once, List.pairwise_singleton _ _, fun m hm n hn hj heq => ?_⟩
    obtain rfl := List.mem_singleton.1 hn
    obtain ⟨d, sequence', counter, hd, hnonce', hcounter⟩ := h.past m hm
    rw [hj] at hd
    obtain rfl : c = d := Option.some.inj (hc.symm.trans hd)
    rw [hnonce', hnonce] at heq
    obtain ⟨-, -, rfl⟩ := nonce_injective heq
    exact UInt32.lt_irrefl _ hcounter
  · rw [List.countP_append, List.countP_singleton]
    by_cases hj : i = j
    · subst hj
      obtain rfl : c' = d := Option.some.inj (hself.symm.trans hd)
      rw [h.count i c hc, hsucc]
      simp
    · rw [List.getElem?_set_ne hj] at hd
      rw [h.count j d hd]
      simp [hj]

/-- A call moves the count of its share on by the sealings that it makes. -/
lemma Counted.afterCall (h : Counted pool) {made : Option Sealing} (p : Provider) (call : Call)
    (hc : pool.shares[i]? = some c) (hmade : ∀ x, made = some x ↔ p.Makes (fun p => call.run p c) x) :
    Counted
      { shares := pool.shares.set i (after (call.run p c))
        made := pool.made ++ made.toList.map fun x => (i, x) } := by
  have hrole := (becomes_run p call c).role_eq
  have hunkeyed := (becomes_run p call c).isUnkeyed (h.unkeyed c (List.mem_of_getElem? hc))
  obtain ⟨hnone, hsent⟩ | ⟨x, sequence, hx, hnonce, hroom, hsent⟩ := sent_run p call c
  · obtain rfl : made = none := Option.eq_none_iff_forall_ne_some.2 fun x hx => hnone x ((hmade x).1 hx)
    simpa only [Option.toList_none, List.map_nil, List.append_nil] using h.set_of_sent_eq hc hrole hsent hunkeyed
  · obtain rfl : made = some x := (hmade x).2 ((hx x).2 rfl)
    exact h.set_of_sent_succ hc hrole hroom hsent hunkeyed hnonce

/-- Every step keeps the counts and the nonces in line. -/
theorem Counted.step (h : Counted pool) (hstep : Step pool pool') : Counted pool' := by
  cases hstep with
  | create hcreate => exact h.create hcreate
  | call p call made hc hmade => exact h.afterCall p call hc hmade

/-- What is counted is in line in every pool. -/
lemma counted_of_steps (h : Relation.ReflTransGen Step {} pool) : Counted pool := by
  induction h with
  | refl => exact counted_empty
  | tail _ hstep ih => exact ih.step hstep

/-- A share stays at its place. -/
lemma Step.exists_share (hstep : Step pool pool') {c : CryptoContext} (hc : pool.shares[i]? = some c) :
    ∃ c', pool'.shares[i]? = some c' ∧ c'.role = c.role ∧ ∀ key, HoldsAtMost key c → HoldsAtMost key c' := by
  cases hstep with
  | create hcreate =>
    obtain ⟨hlt, -⟩ := List.getElem?_eq_some_iff.1 hc
    exact ⟨c, by rwa [List.getElem?_append_left hlt], rfl, fun _ => id⟩
  | @call j d p call made hd hmade =>
    by_cases hj : j = i
    · subst hj
      obtain rfl : d = c := Option.some.inj (hd.symm.trans hc)
      have hbecomes := becomes_run p call d
      exact ⟨_, List.getElem?_set_self (List.getElem?_eq_some_iff.1 hd).1, hbecomes.role_eq,
        fun _ => hbecomes.holdsAtMost⟩
    · exact ⟨c, by rwa [List.getElem?_set_ne hj], rfl, fun _ => id⟩

/-- A share that holds a key holds no other key later. -/
lemma key_eq_of_steps {later : Pool} (hpool : Relation.ReflTransGen Step {} pool)
    (hlater : Relation.ReflTransGen Step pool later) {c d : CryptoContext} {key key' : SharedKey}
    (hc : pool.shares[i]? = some c) (hd : later.shares[i]? = some d) (hkey : c.key = some key)
    (hkey' : d.key = some key') : key' = key := by
  have hholds : HoldsAtMost key c := by
    refine ⟨?_, fun k hk => Option.some.inj (hk.symm.trans hkey)⟩
    by_contra hpair
    rw [(counted_of_steps hpool).unkeyed c (List.mem_of_getElem? hc) hpair] at hkey
    cases hkey
  have hkept : ∃ d, later.shares[i]? = some d ∧ HoldsAtMost key d := by
    clear hd hkey'
    induction hlater with
    | refl => exact ⟨c, hc, hholds⟩
    | tail _ hstep ih =>
      obtain ⟨d, hd, hat⟩ := ih
      obtain ⟨d', hd', -, hnext⟩ := hstep.exists_share hd
      exact ⟨d', hd', hnext key hat⟩
  obtain ⟨d', hd', hat⟩ := hkept
  obtain rfl : d' = d := Option.some.inj (hd'.symm.trans hd)
  exact hat.2 key' hkey'

/-- What two shares of the two sides have sealed differs in its nonces. -/
lemma Counted.nodup (h : Counted pool) {j : Nat} {d : CryptoContext} (hc : pool.shares[i]? = some c)
    (hd : pool.shares[j]? = some d) (hroles : c.role ≠ d.role) :
    ((pool.made.filter fun m => m.1 = i ∨ m.1 = j).map fun m => m.2.nonce).Nodup := by
  rw [List.Nodup, List.pairwise_map, List.pairwise_filter]
  refine h.once.imp_of_mem fun {m n} hm hn hne hmi hni heq => ?_
  obtain ⟨a, sequence, counter, ha, hm', -⟩ := h.past m hm
  obtain ⟨b, sequence', counter', hb, hn', -⟩ := h.past n hn
  obtain ⟨hrole, -, -⟩ := nonce_injective (hm'.symm.trans (heq.trans hn'))
  simp only [decide_eq_true_eq] at hmi hni
  -- the shares are one and the same, or their letters differ
  obtain ⟨hi, hj⟩ | ⟨hi, hj⟩ | ⟨hi, hj⟩ : m.1 = n.1 ∧ True ∨ (m.1 = i ∧ n.1 = j) ∨ (m.1 = j ∧ n.1 = i) := by
    rcases hmi with hmi | hmi <;> rcases hni with hni | hni <;> simp [hmi, hni]
  · exact hne hi heq
  · rw [hi, hc] at ha
    rw [hj, hd] at hb
    cases ha
    cases hb
    exact hroles hrole
  · rw [hi, hd] at ha
    rw [hj, hc] at hb
    cases ha
    cases hb
    exact hroles hrole.symm

/-- In every pool, two shares of the two sides have never sealed under the same nonce, whatever the key. A share
that held a key never holds another one. A text that could not be sealed does not count, and a share that has
sealed as many texts as it can count seals no more. -/
theorem nonces_differ (h : Relation.ReflTransGen Step {} pool) :
    (∀ i j c d, pool.shares[i]? = some c → pool.shares[j]? = some d → c.role ≠ d.role →
      ((pool.made.filter fun m => m.1 = i ∨ m.1 = j).map fun m => m.2.nonce).Nodup) ∧
    (∀ later : Pool, Relation.ReflTransGen Step pool later → ∀ (i : Nat) (c d : CryptoContext) key key',
      pool.shares[i]? = some c → later.shares[i]? = some d → c.key = some key → d.key = some key' → key' = key) ∧
    (∀ (p : Provider) (i : Nat) c sequence header plaintext e c', pool.shares[i]? = some c →
      encrypt p sequence header plaintext c = .error e c' → c' = c) ∧
    ∀ i c, pool.shares[i]? = some c → pool.made.countP (·.1 = i) = 2 ^ 32 - 1 →
      ∀ (p : Provider) sequence header plaintext, ∃ e, encrypt p sequence header plaintext c = .error e c := by
  have hcounted := counted_of_steps h
  refine ⟨fun i j c d hc hd hroles => hcounted.nodup hc hd hroles,
    fun later hlater i c d key key' hc hd => key_eq_of_steps h hlater hc hd,
    fun p i c sequence header plaintext e c' _ hrun => encrypt_error hrun,
    fun i c hc hcount p sequence header plaintext => encrypt_of_spent ?_⟩
  rw [← hcounted.count i c hc, hcount]
  rfl

/-- Both sides agree on a key and seal their first text for frames of the same number, and the nonces differ. -/
theorem nonces_differ_of_two :
    ∃ pool x y, Relation.ReflTransGen Step {} pool ∧ pool.made = [(0, x), (1, y)] ∧ x.key = y.key ∧
      x.nonce ≠ y.nonce := by
  let p := Provider.ideal []
  let s : CryptoContext := ⟨.sender, some ⟨[1], [1]⟩, none, 0, 0⟩
  let r : CryptoContext := ⟨.receiver, some ⟨[2], [2]⟩, none, 0, 0⟩
  let s' : CryptoContext := ⟨.sender, none, some ⟨[3]⟩, 0, 0⟩
  let r' : CryptoContext := ⟨.receiver, none, some ⟨[3]⟩, 0, 0⟩
  let x : Sealing := ⟨⟨[3]⟩, nonce .sender 5 0, [], [7], [7]⟩
  let y : Sealing := ⟨⟨[3]⟩, nonce .receiver 5 0, [], [7], [7]⟩
  have hencrypt : encrypt p 5 [] [7] s' = .ok [7] { s' with sent := 1 } := rfl
  have hencrypt' : encrypt p 5 [] [7] r' = .ok [7] { r' with sent := 1 } := rfl
  have hs : Step {} ⟨[s], []⟩ := .create (show CryptoContext.create p .sender [1] = .ok s from rfl)
  have hr : Step ⟨[s], []⟩ ⟨[s, r], []⟩ := .create (show CryptoContext.create p .receiver [2] = .ok r from rfl)
  have hs' : Step ⟨[s, r], []⟩ ⟨[s', r], []⟩ := step_of_forall_ne (c := s) (i := 0) p (.derive [2]) rfl nofun
  have hr' : Step ⟨[s', r], []⟩ ⟨[s', r'], []⟩ := step_of_forall_ne (c := r) (i := 1) p (.derive [1]) rfl nofun
  have hx : Step ⟨[s', r'], []⟩ ⟨[{ s' with sent := 1 }, r'], [(0, x)]⟩ := step_encrypt (i := 0) rfl rfl hencrypt
  have hy : Step ⟨[{ s' with sent := 1 }, r'], [(0, x)]⟩
      ⟨[{ s' with sent := 1 }, { r' with sent := 1 }], [(0, x), (1, y)]⟩ :=
    step_encrypt (i := 1) rfl rfl hencrypt'
  have hpool := ((((Relation.ReflTransGen.single hs).tail hr).tail hs').tail hr').tail hx |>.tail hy
  have hnodup := (nonces_differ hpool).1 0 1 _ _ rfl rfl (by decide)
  exact ⟨_, x, y, hpool, rfl, rfl, by simpa using hnodup⟩

end Pool

end DirectShare.CryptoContext
