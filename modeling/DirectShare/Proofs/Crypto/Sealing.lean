import Mathlib
import DirectShare.Crypto.Context

/-!
# Sealings

What two sides may expect of their provider is said in terms of sealings, the single uses of
`encrypt`. A nonce determines the side, the frame and the count that it was made from, so that the
sealings of a side can be told apart.

`Provider.Makes` says that a computation makes a sealing: its outcome would differ if that one use of
`encrypt` were refused. `Provider.OpensOnly` says that a provider opens nothing but what was sealed, and
`Provider.ideal`, which remembers sealings, is such a provider. `CryptoContext.nonce_injective` takes a nonce
apart, by the lengths of its parts.
-/

namespace DirectShare

/-- One use of `encrypt`: what was sealed, under which key, nonce and header, and what came of it. -/
structure Sealing where
  key : SharedKey
  nonce : Bytes
  /-- The header, which is authenticated. -/
  header : Bytes
  /-- What was sealed. -/
  plaintext : Bytes
  /-- What came of it. -/
  ciphertext : Bytes
deriving DecidableEq

namespace Provider

/-- The provider that refuses one sealing and does everything else as before. -/
def without (p : Provider) (x : Sealing) : Provider :=
  { p with
    encrypt := fun key nonce header plaintext =>
      if key = x.key ∧ nonce = x.nonce ∧ header = x.header ∧ plaintext = x.plaintext then
        .error .encryption
      else p.encrypt key nonce header plaintext }

/-- A computation makes a sealing: were this one refused, the computation would come out otherwise. -/
def Makes {α : Type} (p : Provider) (run : Provider → α) (x : Sealing) : Prop :=
  p.encrypt x.key x.nonce x.header x.plaintext = .ok x.ciphertext ∧ run (p.without x) ≠ run p

/-- Under a key, the provider opens nothing but what was sealed, and gives what was sealed. -/
def OpensOnly (p : Provider) (key : SharedKey) (log : Set Sealing) : Prop :=
  ∀ nonce header ciphertext plaintext, p.decrypt key nonce header ciphertext = .ok plaintext →
    ⟨key, nonce, header, plaintext, ciphertext⟩ ∈ log

/-- Refusing one sealing changes nothing about key pairs. -/
@[simp] lemma without_generate (p : Provider) (x : Sealing) : (p.without x).generate = p.generate := rfl

/-- Refusing one sealing changes nothing about the agreement on keys. -/
@[simp] lemma without_agree (p : Provider) (x : Sealing) : (p.without x).agree = p.agree := rfl

/-- Refusing one sealing changes nothing about opening. -/
@[simp] lemma without_decrypt (p : Provider) (x : Sealing) : (p.without x).decrypt = p.decrypt := rfl

/-- The sealing in question is refused. -/
@[simp] lemma without_encrypt_self (p : Provider) (x : Sealing) :
    (p.without x).encrypt x.key x.nonce x.header x.plaintext = .error .encryption :=
  if_pos ⟨rfl, rfl, rfl, rfl⟩

/-- All others are made as before. -/
lemma without_encrypt {p : Provider} {x : Sealing} {key : SharedKey} {nonce header plaintext : Bytes}
    (h : ¬(key = x.key ∧ nonce = x.nonce ∧ header = x.header ∧ plaintext = x.plaintext)) :
    (p.without x).encrypt key nonce header plaintext = p.encrypt key nonce header plaintext := if_neg h

/-- The ideal provider: it agrees on the sum of both public values, shows what it seals, and opens
exactly the sealings that it remembers. -/
def ideal (log : List Sealing) : Provider where
  generate random := .ok ⟨random, random⟩
  agree pair peer := .ok ⟨Bytes.xor pair.publicValue peer⟩
  encrypt _ _ _ plaintext := .ok plaintext
  decrypt key nonce header ciphertext :=
    match log.find? fun x => x.key = key ∧ x.nonce = nonce ∧ x.header = header ∧ x.ciphertext = ciphertext with
    | some x => .ok x.plaintext
    | none => .error .authenticationFailed

/-- The ideal provider opens what it remembers last. -/
@[simp] lemma decrypt_ideal_cons (x : Sealing) (log : List Sealing) :
    (ideal (x :: log)).decrypt x.key x.nonce x.header x.ciphertext = .ok x.plaintext := by
  simp [ideal]

/-- The ideal provider opens only what it remembers. -/
lemma opensOnly_ideal {log : List Sealing} {known : Set Sealing} (h : ∀ x ∈ log, x ∈ known)
    (key : SharedKey) : (ideal log).OpensOnly key known := by
  intro nonce header ciphertext plaintext hopen
  simp only [ideal] at hopen
  split at hopen
  · next x hx =>
    cases hopen
    have hfound := List.find?_some hx
    have hmem := h x (List.mem_of_find?_eq_some hx)
    simp only [decide_eq_true_eq] at hfound
    obtain ⟨rfl, rfl, rfl, rfl⟩ := hfound
    exact hmem
  · cases hopen

end Provider

namespace CryptoContext

/-- A nonce determines the side, the frame and the count that it was made from. -/
theorem nonce_injective {role role' : Role} {sequence sequence' counter counter' : UInt32}
    (h : nonce role sequence counter = nonce role' sequence' counter') :
    role = role' ∧ sequence = sequence' ∧ counter = counter' := by
  have hword : ∀ n m : UInt32, Bytes.ofNatBE 4 n.toNat = Bytes.ofNatBE 4 m.toNat → n = m := by
    intro n m hnm
    have hvalue := congrArg Bytes.toNatBE hnm
    rw [Bytes.toNatBE_ofNatBE, Bytes.toNatBE_ofNatBE] at hvalue
    have hn := n.toNat_lt
    have hm := m.toNat_lt
    have hpow : Nat.pow 256 4 = 4294967296 := rfl
    rw [hpow] at hvalue
    exact UInt32.toNat_inj.1 (by omega)
  simp only [nonce, List.cons_append, List.nil_append, List.cons.injEq, true_and] at h
  obtain ⟨hrole, hrest⟩ := h
  obtain ⟨hsequence, hcounter⟩ := List.append_inj hrest (by simp)
  exact ⟨Role.nonceByte_injective hrole, hword _ _ hsequence, hword _ _ hcounter⟩

end CryptoContext

end DirectShare
