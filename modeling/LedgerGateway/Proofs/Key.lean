import LedgerGateway.Bytes.Lemmas
import LedgerGateway.Key.Signature
import LedgerGateway.Proofs.Outcome

/-!
# Keys and signatures are read back

A key is read back from both of its coordinates. A signature that was accepted for a signer
has a recovery number of one bit, and so it is read back from its 65 octets as well; it is
good for the signer.
-/

namespace LedgerGateway

open Outcome

theorem PublicKey.ofBytes_uncompressed (k : PublicKey) : ofBytes k.uncompressed = .ok k := by
  have order : Curve.fieldOrder < 256 ^ 32 := by decide
  have x := Bytes.toNat_ofNat_of_lt (Nat.lt_trans k.isPoint.1 order)
  have y := Bytes.toNat_ofNat_of_lt (Nat.lt_trans k.isPoint.2.1 order)
  have front : (Bytes.ofNat 32 k.x ++ Bytes.ofNat 32 k.y).take 32 = Bytes.ofNat 32 k.x :=
    List.take_left' (Bytes.length_ofNat 32 k.x)
  have back : (Bytes.ofNat 32 k.x ++ Bytes.ofNat 32 k.y).drop 32 = Bytes.ofNat 32 k.y :=
    List.drop_left' (Bytes.length_ofNat 32 k.x)
  have size : (Bytes.ofNat 32 k.x ++ Bytes.ofNat 32 k.y).length = 64 := by simp
  have point : point? k.uncompressed = some k := by
    simp [point?, uncompressed, front, back, x, y]
  have length : k.uncompressed.length = 65 := by simp [uncompressed]
  rw [ofBytes, if_neg (by omega), point]

namespace Signature

theorem ofHalves?_eq_some {halves : Bytes} {recovery : Fin 4} {sig : Signature}
    (h : ofHalves? halves recovery = some sig) : sig.recovery = recovery := by
  simp only [ofHalves?] at h
  split at h
  · cases h
    rfl
  · cases h

theorem recoveryOf?_le {octet : UInt8} {recovery : Fin 4} (h : recoveryOf? octet = some recovery) :
    recovery.val ≤ 1 := by
  unfold recoveryOf? at h
  split at h <;> cases h <;> decide

/-- The 65 octets of a signature are its halves and an octet that stands for its recovery number. -/
theorem ofRecoverable_eq_ok {b : Bytes} {sig : Signature} :
    ofRecoverable b = .ok sig ↔ ∃ octet, b.drop 64 = [octet] ∧
      ∃ recovery, recoveryOf? octet = some recovery ∧
        ofHalves? (b.take 64) recovery = some sig := by
  unfold ofRecoverable
  constructor
  · intro h
    split at h
    · rename_i octet last
      split at h
      · cases h
      · rename_i recovery known
        split at h
        · cases h
        · rename_i halves
          cases h
          exact ⟨octet, last, recovery, known, halves⟩
    · cases h
  · rintro ⟨octet, last, recovery, known, halves⟩
    simp only [last, known, halves]

theorem ofHalves?_bytes (sig : Signature) :
    ofHalves? (Bytes.ofNat 32 sig.r ++ Bytes.ofNat 32 sig.s) sig.recovery = some sig := by
  have order : Curve.groupOrder < 256 ^ 32 := by decide
  have r := Bytes.toNat_ofNat_of_lt (Nat.lt_trans sig.r_lt order)
  have s := Bytes.toNat_ofNat_of_lt (Nat.lt_trans sig.s_lt order)
  have front : (Bytes.ofNat 32 sig.r ++ Bytes.ofNat 32 sig.s).take 32 = Bytes.ofNat 32 sig.r :=
    List.take_left' (Bytes.length_ofNat 32 sig.r)
  have back : (Bytes.ofNat 32 sig.r ++ Bytes.ofNat 32 sig.s).drop 32 = Bytes.ofNat 32 sig.s :=
    List.drop_left' (Bytes.length_ofNat 32 sig.r)
  simp only [ofHalves?, front, back, r, s]
  exact dif_pos ⟨sig.r_lt, sig.s_lt⟩

theorem recoveryOf?_bit {recovery : Fin 4} (h : recovery.val ≤ 1) :
    recoveryOf? (UInt8.ofNat recovery.val) = some recovery := by
  have all : ∀ r : Fin 4, r.val ≤ 1 → recoveryOf? (UInt8.ofNat r.val) = some r := by decide
  exact all recovery h

/-- Wallets may count the recovery number from 27. -/
theorem recoveryOf?_offset {recovery : Fin 4} (h : recovery.val ≤ 1) :
    recoveryOf? (UInt8.ofNat (recovery.val + 27)) = some recovery := by
  have all : ∀ r : Fin 4, r.val ≤ 1 → recoveryOf? (UInt8.ofNat (r.val + 27)) = some r := by decide
  exact all recovery h

/-- A signature whose recovery number is a bit is read back. -/
theorem ofRecoverable_bytes {sig : Signature} (h : sig.recovery.val ≤ 1) :
    ofRecoverable sig.bytes = .ok sig := by
  have halves : (Bytes.ofNat 32 sig.r ++ Bytes.ofNat 32 sig.s).length = 64 := by simp
  have front : sig.bytes.take 64 = Bytes.ofNat 32 sig.r ++ Bytes.ofNat 32 sig.s :=
    List.take_left' halves
  have last : sig.bytes.drop 64 = [UInt8.ofNat sig.recovery.val] := List.drop_left' halves
  refine ofRecoverable_eq_ok.mpr ⟨_, last, sig.recovery, recoveryOf?_bit h, ?_⟩
  rw [front]
  exact ofHalves?_bytes sig

/-- Both halves of a signature are carried as they came. -/
theorem bytes_of_ofHalves? {halves : Bytes} {recovery : Fin 4} {sig : Signature}
    (h : ofHalves? halves recovery = some sig) (length : halves.length = 64) :
    sig.bytes = halves ++ [UInt8.ofNat recovery.val] := by
  have front : (halves.take 32).length = 32 := by
    rw [List.length_take]
    omega
  have back : (halves.drop 32).length = 32 := by
    rw [List.length_drop]
    omega
  have r := Bytes.ofNat_toNat (halves.take 32)
  have s := Bytes.ofNat_toNat (halves.drop 32)
  rw [front] at r
  rw [back] at s
  simp only [ofHalves?] at h
  split at h
  · cases h
    simp only [bytes, r, s, List.take_append_drop]
  · cases h

/-- The halves and the recovery number make a signature over the digest that recovers the key. -/
def Recovers (digest : Digest) (halves : Bytes) (recovery : Fin 4) (key : PublicKey) : Prop :=
  ∃ sig, ofHalves? halves recovery = some sig ∧ sig.recover? digest = some key

/-- No key is recovered both with zero and with one. The group guarantees it: the two stand for
opposite points. -/
def Apart (digest : Digest) (halves : Bytes) : Prop :=
  ∀ key (v w : Fin 4), v.val ≤ 1 →
    w.val ≤ 1 → Recovers digest halves v key → Recovers digest halves w key → v = w

/-- Halves and a recovery number recover at most one key. -/
theorem Recovers.unique {digest : Digest} {halves : Bytes} {recovery : Fin 4} {key key' : PublicKey}
    (h : Recovers digest halves recovery key) (h' : Recovers digest halves recovery key') :
    key = key' := by
  obtain ⟨sig, read, recovered⟩ := h
  obtain ⟨sig', read', recovered'⟩ := h'
  obtain rfl := Option.some.inj (read.symm.trans read')
  exact Option.some.inj (recovered.symm.trans recovered')

theorem verify_iff {sig : Signature} {digest : Digest} {key : PublicKey} :
    sig.verify digest key = true ↔ sig.recover? digest = some key := beq_iff_eq

/-- What is accepted for a signer has 64 or 65 octets, and its first 64 recover the signer. -/
theorem ofBytesForSigner_recovers {b : Bytes} {digest : Digest} {signer : PublicKey}
    {sig : Signature} (h : ofBytesForSigner b digest signer = .ok sig) :
    (b.length = 64 ∨ b.length = 65) ∧ sig.recovery.val ≤ 1 ∧
      ofHalves? (b.take 64) sig.recovery = some sig ∧ sig.recover? digest = some signer := by
  simp only [ofBytesForSigner] at h
  split at h
  · rename_i long
    rw [bind_eq_ok] at h
    obtain ⟨read, hread, h⟩ := h
    split at h
    · rename_i good
      cases h
      obtain ⟨octet, -, recovery, known, halves⟩ := ofRecoverable_eq_ok.mp hread
      have same := ofHalves?_eq_some halves
      rw [← same] at known halves
      exact ⟨.inr long, recoveryOf?_le known, halves, verify_iff.mp good⟩
    · cases h
  · split at h
    · rename_i short
      split at h
      · rename_i fitting first
        cases h
        obtain ⟨recovery, candidate, found⟩ := List.mem_filterMap.mp (List.mem_of_mem_head? first)
        obtain ⟨halves, good⟩ := Option.filter_eq_some_iff.mp found
        have bit : ∀ r ∈ ([0, 1] : List (Fin 4)), r.val ≤ 1 := by decide
        rw [ofHalves?_eq_some halves]
        refine ⟨.inl short, bit recovery candidate, ?_, verify_iff.mp good⟩
        rwa [List.take_of_length_le (Nat.le_of_eq short)]
      · cases h
    · cases h

/-- What is accepted for a signer recovers the signer. -/
theorem ofBytesForSigner_eq_ok {b : Bytes} {digest : Digest} {signer : PublicKey} {sig : Signature}
    (h : ofBytesForSigner b digest signer = .ok sig) :
    sig.recovery.val ≤ 1 ∧ sig.verify digest signer = true := by
  obtain ⟨-, bit, -, recovered⟩ := ofBytesForSigner_recovers h
  exact ⟨bit, verify_iff.mpr recovered⟩

section
variable {halves : Bytes} {digest : Digest} {signer : PublicKey} {v : Fin 4} {sig : Signature}

/-- Halves and an octet that stands for the right recovery number are accepted. -/
theorem ofBytesForSigner_recoverable (length : halves.length = 64)
    (read : ofHalves? halves v = some sig) (recovered : sig.recover? digest = some signer)
    {octet : UInt8} (known : recoveryOf? octet = some v) :
    ofBytesForSigner (halves ++ [octet]) digest signer = .ok sig := by
  have long : (halves ++ [octet]).length = 65 := by simp [length]
  have whole : ofRecoverable (halves ++ [octet]) = .ok sig := by
    refine ofRecoverable_eq_ok.mpr ⟨octet, List.drop_left' length, v, known, ?_⟩
    rwa [List.take_left' length]
  rw [ofBytesForSigner, if_pos long, bind_eq_ok]
  exact ⟨sig, whole, if_pos (verify_iff.mpr recovered)⟩

/-- Halves alone are accepted with the recovery number that recovers the signer. Zero is tried
before one, so it must not recover the signer where one does. -/
theorem ofBytesForSigner_compact (length : halves.length = 64) (bit : v.val ≤ 1)
    (read : ofHalves? halves v = some sig) (recovered : sig.recover? digest = some signer)
    (apart : Apart digest halves) : ofBytesForSigner halves digest signer = .ok sig := by
  have found : ((ofHalves? halves v).filter fun sig => sig.verify digest signer) = some sig :=
    Option.filter_eq_some_iff.mpr ⟨read, verify_iff.mpr recovered⟩
  have either : v = 0 ∨ v = 1 := by
    have all : ∀ w : Fin 4, w.val ≤ 1 → w = 0 ∨ w = 1 := by decide
    exact all v bit
  rw [ofBytesForSigner, if_neg (by omega), if_pos length]
  obtain rfl | rfl := either
  · simp only [List.filterMap_cons, found, List.head?_cons]
  · have missed : ((ofHalves? halves 0).filter fun sig => sig.verify digest signer) = none := by
      apply Option.eq_none_iff_forall_ne_some.mpr
      intro wrong candidate
      obtain ⟨wrongRead, wrongGood⟩ := Option.filter_eq_some_iff.mp candidate
      have same : (0 : Fin 4) = 1 := apart signer 0 1 (by decide) (by decide)
        ⟨wrong, wrongRead, verify_iff.mp wrongGood⟩ ⟨sig, read, recovered⟩
      exact absurd same (by decide)
    simp only [List.filterMap_cons, missed, found, List.head?_cons]

end

end Signature

end LedgerGateway
