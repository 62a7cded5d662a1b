import Qsgw.Crypto.MlKem
import Qsgw.Crypto.MlDsa
import Qsgw.Crypto.SlhDsa

/-!
# One contract over the three families

What the spec promises of every family at once: signatures verify, `verify` keeps
malformed input apart from a forged signature, and the catalog describes what the
lifecycles produce. Each statement is assembled from the per-family lemmas. The
catalog lists the expanded secret keys, while ML-KEM and ML-DSA store seeds, so the
last statement holds for the public keys, ciphertexts and signatures of every family
and for the secret keys of SLH-DSA only.
-/

namespace Qsgw

theorem signature_round_trip :
    (∀ (S : MlDsaSuite) (v : MlDsaVariant) (ξ : ByteArr 32) (m : Bytes),
      ∃ kp sig, MlDsaKeyPair.generate S v ξ = .ok kp ∧ kp.sign S m = .ok sig ∧
        sig.variant = v ∧ kp.verify S m sig = .ok true) ∧
    (∀ (S : SlhDsaSuite) (v : SlhDsaVariant) (rng rng' : OsRng) (m : Bytes),
      ∃ kp sig, SlhDsaKeyPair.generate S v rng = .ok kp ∧ kp.sign S m rng' = .ok sig ∧
        sig.variant = v ∧ kp.verify S m sig = .ok true) :=
  ⟨MlDsaKeyPair.sign_verify, SlhDsaKeyPair.sign_verify⟩

/-- `verify` keeps malformed input apart from a forged signature, in both families: it
errs the same way whatever the message, only with `Verification`, and it answers `Ok`
exactly on a matching variant with a key and signature that convert, the answer being
the crate's verdict, so a well-formed signature the crate rejects gives `Ok(false)`. -/
theorem verify_errs_only_on_malformed_input :
    (∀ (S : MlDsaSuite) (kp : MlDsaKeyPair) (sig : MlDsaSignature) (m₁ m₂ : Bytes),
      errorOf (kp.verify S m₁ sig) = errorOf (kp.verify S m₂ sig) ∧
      (∀ e, kp.verify S m₁ sig = .error e → e.IsVerification) ∧
      ∀ b, kp.verify S m₁ sig = .ok b ↔ sig.variant = kp.variant ∧
        ∃ (a : ByteArr kp.variant.params.pkSize) (s : (S.primitive kp.variant).Signature),
          kp.publicKey = a.toList ∧ (S.primitive kp.variant).sigDecode sig.signature = some s ∧
          b = (S.primitive kp.variant).verify ((S.primitive kp.variant).vkDecode a) m₁ s) ∧
    (∀ (S : SlhDsaSuite) (kp : SlhDsaKeyPair) (sig : SlhDsaSignature) (m₁ m₂ : Bytes),
      errorOf (kp.verify S m₁ sig) = errorOf (kp.verify S m₂ sig) ∧
      (∀ e, kp.verify S m₁ sig = .error e → e.IsVerification) ∧
      ∀ b, kp.verify S m₁ sig = .ok b ↔ sig.variant = kp.variant ∧
        ∃ vk s, (S.primitive kp.variant).vkTryFrom kp.publicKey = some vk ∧
          (S.primitive kp.variant).sigTryFrom sig.signature = some s ∧
          b = (S.primitive kp.variant).verify vk m₁ s) :=
  ⟨fun S kp sig m₁ m₂ => ⟨MlDsaKeyPair.errorOf_verify_indep S kp sig m₁ m₂,
      fun _ => MlDsaKeyPair.verify_error, MlDsaKeyPair.verify_eq_ok_iff S kp m₁ sig⟩,
    fun S kp sig m₁ m₂ => ⟨SlhDsaKeyPair.errorOf_verify_indep S kp sig m₁ m₂,
      fun _ => SlhDsaKeyPair.verify_error, SlhDsaKeyPair.verify_eq_ok_iff S kp m₁ sig⟩⟩

/-- An ML-DSA key pair holds its 32-byte seed, not a key of the catalog's size. -/
theorem catalog_secret_size_mismatch :
    ¬ ∀ (S : MlDsaSuite) (v : MlDsaVariant) (ξ : ByteArr 32) (kp : MlDsaKeyPair),
      MlDsaKeyPair.generate S v ξ = .ok kp →
        kp.publicKey.length = v.keySizes.1 ∧ kp.secretKey.length = v.keySizes.2 := by
  intro h
  let ξ : ByteArr 32 := Mathlib.Vector.replicate 32 0
  have hg := MlDsaKeyPair.generate_ok .constant .mlDsa44 ξ
  have hlen := (MlDsaKeyPair.lengths_of_generate hg []).2.1
  have := (h _ _ _ _ hg).2
  rw [hlen] at this
  exact absurd this (by decide)

theorem catalog_sizes_of_lifecycles :
    (∀ (S : MlKemSuite) (v : MlKemVariant) (seed : ByteArr 64) (m : ByteArr 32),
      ∃ kp enc, MlKemKeyPair.generate S v seed = .ok kp ∧ kp.encapsulate S m = .ok enc ∧
        kp.publicKey.length = v.keySizes.1 ∧ kp.secretKey.length = 64 ∧
        enc.ciphertext.length = v.ciphertextSize) ∧
    (∀ (S : MlDsaSuite) (v : MlDsaVariant) (ξ : ByteArr 32) (m : Bytes),
      ∃ kp sig, MlDsaKeyPair.generate S v ξ = .ok kp ∧ kp.sign S m = .ok sig ∧
        kp.publicKey.length = v.keySizes.1 ∧ kp.secretKey.length = 32 ∧
        sig.signature.length = v.signatureSize) ∧
    (∀ (S : SlhDsaSuite) (v : SlhDsaVariant) (rng rng' : OsRng) (m : Bytes),
      ∃ kp sig, SlhDsaKeyPair.generate S v rng = .ok kp ∧ kp.sign S m rng' = .ok sig ∧
        kp.publicKey.length = v.keySizes.1 ∧ kp.secretKey.length = v.keySizes.2 ∧
        sig.signature.length = v.signatureSize) := by
  refine ⟨fun S v seed m => ?_, fun S v ξ m => ?_, fun S v rng rng' m => ?_⟩
  · have hg := MlKemKeyPair.generate_ok S v seed
    obtain ⟨hpk, hsk, enc, he, hct⟩ := MlKemKeyPair.lengths_of_generate hg m
    exact ⟨_, enc, hg, he, hpk, hsk, hct⟩
  · have hg := MlDsaKeyPair.generate_ok S v ξ
    obtain ⟨hpk, hsk, sig, hs, hlen⟩ := MlDsaKeyPair.lengths_of_generate hg m
    exact ⟨_, sig, hg, hs, hpk, hsk, hlen⟩
  · have hg := SlhDsaKeyPair.generate_ok S v rng
    obtain ⟨hpk, hsk, sig, hs, hlen⟩ := SlhDsaKeyPair.lengths_of_generate hg m rng'
    exact ⟨_, sig, hg, hs, hpk, hsk, hlen⟩

end Qsgw
