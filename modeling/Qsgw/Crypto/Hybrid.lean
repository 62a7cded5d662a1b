import Qsgw.Crypto.MlKem

/-!
# Hybrid X25519 + ML-KEM-768 composition

`quantun_crypto::hybrid`. X25519 enters as `X25519`: the scalar that
`StaticSecret::from` builds from 32 bytes (clamping happens in the crate, on both
sides alike), the public key of a scalar and the Diffie-Hellman function, with
agreement as its one law. A `PublicKey` is a Montgomery point, which is its 32 bytes,
so `PublicKey::from([u8; 32])` and `as_bytes` are the identity. SHA-256 is a function
of the bytes it was fed; `Sha256` keeps them, as the `Digest` API promises.

Zeroizing the stack copies of `key_bytes` and `ephemeral_bytes` is memory
management and is not modelled.
-/

namespace Qsgw

/-- X25519 as `x25519_dalek` provides it. -/
structure X25519 where
  Scalar : Type
  /-- `StaticSecret::from([u8; 32])`. -/
  staticSecretFrom : ByteArr 32 → Scalar
  /-- `PublicKey::from(&StaticSecret)`, the u-coordinate of `[s]B`. -/
  publicKeyFrom : Scalar → ByteArr 32
  /-- `StaticSecret::diffie_hellman`, the u-coordinate of `[s]P`. -/
  diffieHellman : Scalar → ByteArr 32 → ByteArr 32
  /-- X25519 agreement for the scalars `StaticSecret::from` builds from any bytes. -/
  diffieHellman_comm : ∀ a b, diffieHellman (staticSecretFrom a) (publicKeyFrom (staticSecretFrom b)) =
    diffieHellman (staticSecretFrom b) (publicKeyFrom (staticSecretFrom a))

/-- The primitives the hybrid composer calls. -/
structure HybridPrimitives where
  x25519 : X25519
  /-- SHA-256 of the bytes fed to the hasher. -/
  sha256 : Bytes → ByteArr 32
  mlKem : MlKemSuite

/-- A `sha2::Sha256` hasher: the bytes fed to it so far. -/
structure Sha256 where
  buffer : Bytes

namespace Sha256

def new : Sha256 := ⟨[]⟩

def update (h : Sha256) (data : Bytes) : Sha256 := ⟨h.buffer ++ data⟩

def finalize (sha256 : Bytes → ByteArr 32) (h : Sha256) : ByteArr 32 := sha256 h.buffer

end Sha256

/-- The domain separator `b"quantun-hybrid-kem-v1"`. -/
def hybridTag : Bytes := "quantun-hybrid-kem-v1".toUTF8.toList

/-- KDF: combine classical and PQC shared secrets. -/
def combineSecrets (sha256 : Bytes → ByteArr 32) (classical pqc : Bytes) : Bytes :=
  ((((Sha256.new.update hybridTag).update classical).update pqc).finalize sha256).toList

theorem combineSecrets_eq (sha256 : Bytes → ByteArr 32) (classical pqc : Bytes) :
    combineSecrets sha256 classical pqc = (sha256 (hybridTag ++ classical ++ pqc)).toList := rfl

theorem combineSecrets_length (sha256 : Bytes → ByteArr 32) (classical pqc : Bytes) :
    (combineSecrets sha256 classical pqc).length = 32 :=
  Mathlib.Vector.toList_length _

/-- Hybrid KEM key pair combining X25519 with ML-KEM-768. -/
structure HybridKemKeyPair where
  variant : HybridVariant
  classicalPublic : Bytes
  classicalSecret : Option Bytes
  pqcKeypair : MlKemKeyPair
  deriving DecidableEq, Repr

/-- Result of a hybrid encapsulation. -/
structure HybridEncapsulated where
  classicalPublic : Bytes
  pqcCiphertext : Bytes
  sharedSecret : Bytes
  deriving DecidableEq, Repr

namespace HybridKemKeyPair

variable (P : HybridPrimitives)

/-- Generate a new X25519 + ML-KEM-768 hybrid key pair; `keyBytes` and `seed` are
what the OS CSPRNG supplies. -/
def generate (keyBytes : ByteArr 32) (seed : ByteArr 64) : CryptoResult HybridKemKeyPair := do
  let classicalSecret := P.x25519.staticSecretFrom keyBytes
  let classicalPublic := P.x25519.publicKeyFrom classicalSecret
  let pqcKeypair ← MlKemKeyPair.generate P.mlKem .mlKem768 seed
  pure ⟨.x25519MlKem768, classicalPublic.toList, some keyBytes.toList, pqcKeypair⟩

/-- Encapsulate against this key pair's public components; `ephemeralBytes` and `m`
are what the OS CSPRNG supplies. -/
def encapsulate (self : HybridKemKeyPair) (ephemeralBytes m : ByteArr 32) :
    CryptoResult HybridEncapsulated := do
  let ephemeralSecret := P.x25519.staticSecretFrom ephemeralBytes
  let ephemeralPublic := P.x25519.publicKeyFrom ephemeralSecret
  let recipientPublic ← okOr (tryIntoArray 32 self.classicalPublic)
    (.invalidKeyMaterial "X25519 public key must be 32 bytes")
  let classicalShared := P.x25519.diffieHellman ephemeralSecret recipientPublic
  let pqcEnc ← self.pqcKeypair.encapsulate P.mlKem m
  let sharedSecret := combineSecrets P.sha256 classicalShared.toList pqcEnc.sharedSecret
  pure ⟨ephemeralPublic.toList, pqcEnc.ciphertext, sharedSecret⟩

/-- Decapsulate from ciphertext components. -/
def decapsulate (self : HybridKemKeyPair) (ephemeralPublicBytes pqcCiphertext : Bytes) :
    CryptoResult Bytes := do
  let secretBytes ← okOr self.classicalSecret (.invalidKeyMaterial "secret key not available")
  let secretArray ← okOr (tryIntoArray 32 secretBytes)
    (.invalidKeyMaterial "X25519 secret must be 32 bytes")
  let classicalSecret := P.x25519.staticSecretFrom secretArray
  let ephemeralPublic ← okOr (tryIntoArray 32 ephemeralPublicBytes)
    (.invalidKeyMaterial "ephemeral public key must be 32 bytes")
  let classicalShared := P.x25519.diffieHellman classicalSecret ephemeralPublic
  let pqcShared ← self.pqcKeypair.decapsulate P.mlKem pqcCiphertext
  pure (combineSecrets P.sha256 classicalShared.toList pqcShared)

theorem generate_ok (keyBytes : ByteArr 32) (seed : ByteArr 64) :
    ∃ pqc, MlKemKeyPair.generate P.mlKem .mlKem768 seed = .ok pqc ∧
      generate P keyBytes seed = .ok ⟨.x25519MlKem768,
        (P.x25519.publicKeyFrom (P.x25519.staticSecretFrom keyBytes)).toList,
        some keyBytes.toList, pqc⟩ :=
  ⟨_, MlKemKeyPair.generate_ok _ _ _, by rw [generate, MlKemKeyPair.generate_ok]; rfl⟩

/-- Against a 32-byte public key, encapsulation is the ML-KEM encapsulation with
the X25519 secret folded in. -/
theorem encapsulate_of_public {kp : HybridKemKeyPair} {pk : ByteArr 32}
    (h : kp.classicalPublic = pk.toList) (ephemeralBytes m : ByteArr 32) :
    kp.encapsulate P ephemeralBytes m = (kp.pqcKeypair.encapsulate P.mlKem m).map fun enc =>
      ⟨(P.x25519.publicKeyFrom (P.x25519.staticSecretFrom ephemeralBytes)).toList, enc.ciphertext,
        combineSecrets P.sha256
          (P.x25519.diffieHellman (P.x25519.staticSecretFrom ephemeralBytes) pk).toList
          enc.sharedSecret⟩ := by
  simp only [encapsulate, h, tryIntoArray_toList, okOr_some, ok_bind]
  cases kp.pqcKeypair.encapsulate P.mlKem m <;> rfl

/-- With a 32-byte secret and a 32-byte ephemeral key, decapsulation is the ML-KEM
decapsulation with the X25519 secret folded in. -/
theorem decapsulate_of_secret {kp : HybridKemKeyPair} {sk : ByteArr 32}
    (h : kp.classicalSecret = some sk.toList) (ephemeralPublic : ByteArr 32) (c : Bytes) :
    kp.decapsulate P ephemeralPublic.toList c = (kp.pqcKeypair.decapsulate P.mlKem c).map
      (combineSecrets P.sha256
        (P.x25519.diffieHellman (P.x25519.staticSecretFrom sk) ephemeralPublic).toList) := by
  simp only [decapsulate, h, tryIntoArray_toList, okOr_some, ok_bind]
  cases kp.pqcKeypair.decapsulate P.mlKem c <;> rfl

/-- A cleared classical secret is reported before anything else is looked at. -/
theorem decapsulate_of_cleared {kp : HybridKemKeyPair} (h : kp.classicalSecret = none)
    (ephemeralPublicBytes pqcCiphertext : Bytes) :
    kp.decapsulate P ephemeralPublicBytes pqcCiphertext =
      .error (.invalidKeyMaterial "secret key not available") := by
  simp [decapsulate, h]

/-- Whatever the variant and the inputs, a combined secret is one SHA-256 output. -/
theorem encapsulate_sharedSecret_length {kp : HybridKemKeyPair} {ephemeralBytes m : ByteArr 32}
    {enc : HybridEncapsulated} (h : kp.encapsulate P ephemeralBytes m = .ok enc) :
    enc.sharedSecret.length = 32 := by
  rcases hp : tryIntoArray 32 kp.classicalPublic with _ | pk <;>
    rcases he : kp.pqcKeypair.encapsulate P.mlKem m with _ | pqcEnc <;>
    simp only [encapsulate, hp, he, okOr_none, okOr_some, error_bind, ok_bind] at h <;> cases h
  exact combineSecrets_length _ _ _

theorem decapsulate_length {kp : HybridKemKeyPair} {ephemeralPublicBytes pqcCiphertext s : Bytes}
    (h : kp.decapsulate P ephemeralPublicBytes pqcCiphertext = .ok s) : s.length = 32 := by
  rcases hs : kp.classicalSecret with _ | sk
  · rw [decapsulate_of_cleared P hs] at h; cases h
  rcases ha : tryIntoArray 32 sk with _ | skArr <;>
    rcases he : tryIntoArray 32 ephemeralPublicBytes with _ | e <;>
    rcases hd : kp.pqcKeypair.decapsulate P.mlKem pqcCiphertext with _ | ss <;>
    simp only [decapsulate, hs, ha, he, hd, okOr_none, okOr_some, error_bind, ok_bind] at h <;>
    cases h
  exact combineSecrets_length _ _ _

theorem hybrid_round_trip (keyBytes : ByteArr 32) (seed : ByteArr 64) (ephemeralBytes m : ByteArr 32) :
    ∃ kp enc, generate P keyBytes seed = .ok kp ∧ kp.encapsulate P ephemeralBytes m = .ok enc ∧
      kp.decapsulate P enc.classicalPublic enc.pqcCiphertext = .ok enc.sharedSecret := by
  obtain ⟨pqc, hpqc, hg⟩ := generate_ok P keyBytes seed
  obtain ⟨pqcEnc, he, hd⟩ := MlKemKeyPair.encapsulate_decapsulate hpqc m
  refine ⟨_, _, hg, (encapsulate_of_public P rfl ephemeralBytes m).trans (by rw [he]; rfl), ?_⟩
  rw [decapsulate_of_secret P rfl, hd, P.x25519.diffieHellman_comm]
  rfl

/-- What decapsulation with a generated key pair reports: an ephemeral key that is not
32 bytes is refused first, then an ML-KEM ciphertext whose length is not ML-KEM-768's;
every other input, tampered or not, is answered with a secret. -/
theorem hybrid_decapsulate_errorOf (keyBytes : ByteArr 32) (seed : ByteArr 64) :
    ∃ kp, generate P keyBytes seed = .ok kp ∧ ∀ e c : Bytes,
      errorOf (kp.decapsulate P e c) =
        if e.length ≠ 32 then some (.invalidKeyMaterial "ephemeral public key must be 32 bytes")
        else if c.length ≠ MlKemVariant.mlKem768.ciphertextSize then some (.decapsulation
          ("ML-KEM-768" ++ " decapsulation failed (ct " ++ toString c.length ++ " bytes)"))
        else none := by
  obtain ⟨pqc, hpqc, hg⟩ := generate_ok P keyBytes seed
  refine ⟨_, hg, fun e c => ?_⟩
  by_cases he : e.length = 32
  · obtain ⟨eArr, -, rfl⟩ := tryIntoArray_of_length he
    rw [decapsulate_of_secret P rfl, errorOf_map, MlKemKeyPair.decapsulate_errorOf hpqc c,
      if_neg (not_not.mpr he)]
    split_ifs <;> first | rfl | contradiction
  · simp [decapsulate, (tryIntoArray_eq_none).mpr he, he]

end HybridKemKeyPair

/-- A degenerate X25519, with one scalar and a constant public key and shared secret:
agreement is consistent, so no statement over every `X25519` is vacuous. -/
def X25519.constant : X25519 where
  Scalar := Unit
  staticSecretFrom _ := ()
  publicKeyFrom _ := Mathlib.Vector.replicate 32 0
  diffieHellman _ _ := Mathlib.Vector.replicate 32 0
  diffieHellman_comm _ _ := rfl

def HybridPrimitives.constant : HybridPrimitives :=
  ⟨.constant, fun _ => Mathlib.Vector.replicate 32 0, .constant⟩

end Qsgw
