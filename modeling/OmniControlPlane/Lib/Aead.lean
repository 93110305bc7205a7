import Mathlib.Data.List.Basic
import Mathlib.Data.List.Nodup

/-! # Authenticated encryption

A cipher that seals a plaintext together with associated data. Of an ideal one only what was sealed can
be opened, under the key, the nonce and the associated data it was sealed with.
-/

namespace OmniControlPlane.Lib

/-- What is sealed, and under what. -/
structure Sealing where
  key : List UInt8
  nonce : List UInt8
  aad : List UInt8
  plaintext : List UInt8
deriving DecidableEq, Repr

/-- A cipher with a tag of 128 bits. -/
structure Aead where
  encrypt : Sealing → List UInt8
  decrypt (key nonce aad ciphertext : List UInt8) : Option (List UInt8)
  encrypt_length : ∀ sealing, (encrypt sealing).length = sealing.plaintext.length + 16

namespace Aead

/-- What was made can be opened, and nothing else. -/
structure Ideal (aead : Aead) (made : Sealing → Prop) : Prop where
  opens : ∀ sealing, made sealing →
    aead.decrypt sealing.key sealing.nonce sealing.aad (aead.encrypt sealing) = some sealing.plaintext
  forges : ∀ {key nonce aad ciphertext plaintext}, aead.decrypt key nonce aad ciphertext = some plaintext →
    made ⟨key, nonce, aad, plaintext⟩ ∧ ciphertext = aead.encrypt ⟨key, nonce, aad, plaintext⟩

/-- The cipher that looks sealings up in a list. -/
def recorded (made : List Sealing) : Aead where
  encrypt sealing := sealing.plaintext ++ List.replicate 16 0
  decrypt key nonce aad ciphertext := (made.find? fun sealing => sealing.key = key ∧ sealing.nonce = nonce ∧
    sealing.aad = aad ∧ sealing.plaintext ++ List.replicate 16 0 = ciphertext).map (·.plaintext)
  encrypt_length sealing := by simp

theorem recorded_ideal (made : List Sealing) : (recorded made).Ideal (· ∈ made) where
  opens sealing member := by
    have found : (made.find? fun other => other.key = sealing.key ∧ other.nonce = sealing.nonce ∧
        other.aad = sealing.aad ∧ other.plaintext ++ List.replicate 16 0 =
          sealing.plaintext ++ List.replicate 16 0).isSome :=
      List.find?_isSome.mpr ⟨sealing, member, by simp⟩
    obtain ⟨other, given⟩ := Option.isSome_iff_exists.mp found
    have same := List.find?_some given
    rw [decide_eq_true_eq] at same
    dsimp only [recorded]
    rw [given, Option.map_some, List.append_cancel_right same.2.2.2]
  forges := by
    intro key nonce aad ciphertext plaintext opened
    obtain ⟨sealing, found, rfl⟩ := Option.map_eq_some_iff.mp opened
    have same := List.find?_some found
    rw [decide_eq_true_eq] at same
    obtain ⟨rfl, rfl, rfl, rfl⟩ := same
    exact ⟨List.mem_of_find?_eq_some found, rfl⟩

end Aead

end OmniControlPlane.Lib
