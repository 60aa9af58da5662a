import VmDeploy.Digest.Fingerprint
import VmDeploy.Proofs.Json.Alike
import VmDeploy.Proofs.Text.Hex
import VmDeploy.Proofs.Text.Utf8

/-!
# What fingerprints tell

Documents have one fingerprint if and only if they are alike and their numbers identical, as long
as SHA-256 does not collide on their canonical texts (`documents_told_apart`). Nothing else on the
way from a document to its fingerprint loses anything: neither its canonical text, nor the bytes of
the text, nor the hexadecimal digits of the digest.

Identical is finer than equal in one place. The floating-point zeros of both signs are equal, but
their texts differ, so a document in which one stands for the other has another fingerprint.
-/

set_option autoImplicit false

namespace VmDeploy

namespace Digest

/-- Two different messages with one digest. -/
def Sha256.Collide (message message' : List UInt8) : Prop :=
  message ≠ message' ∧ digest message = digest message'

instance (message message' : List UInt8) : Decidable (Sha256.Collide message message') :=
  inferInstanceAs (Decidable (_ ∧ _))

/-- The digests of two texts are the same only if the texts are. -/
theorem hexOfText_eq_iff {s t : String}
    (apart : ¬Sha256.Collide (Text.Utf8.encode s) (Text.Utf8.encode t)) :
    hexOfText s = hexOfText t ↔ s = t := by
  refine ⟨fun same => ?_, congrArg hexOfText⟩
  have digests := Text.Hex.encode_injective (String.ofList_injective same)
  by_contra different
  exact apart ⟨fun bytes => different (Text.Utf8.encode_injective bytes), digests⟩

/-- The fingerprints of two documents are the same only if their normal forms are. -/
theorem fingerprint_eq_iff {x y : Json}
    (apart : ¬Sha256.Collide (Text.Utf8.encode x.canonical) (Text.Utf8.encode y.canonical)) :
    fingerprint x = fingerprint y ↔ x.normalize = y.normalize :=
  (hexOfText_eq_iff apart).trans ⟨Json.compact_injective, congrArg Json.compact⟩

/-- Documents share their canonical text, and their fingerprint, if and only if they are alike and
their numbers identical. -/
theorem documents_told_apart (x y : Json) :
    (x.canonical = y.canonical ↔ Json.Alike (· = ·) x y) ∧
      (¬Sha256.Collide (Text.Utf8.encode x.canonical) (Text.Utf8.encode y.canonical) →
        (fingerprint x = fingerprint y ↔ Json.Alike (· = ·) x y)) :=
  ⟨Json.canonical_eq_iff, fun apart => (fingerprint_eq_iff apart).trans Json.normalize_eq_iff⟩

/-- Another order of items makes another document. -/
theorem documents_told_apart_sample :
    let packages (names : List String) : Json := .ofList .string names
    let document (names : List String) : Json :=
      .object [("packages", packages names), ("index", .ofNat 0)]
    ¬Json.Alike (· = ·) (document ["ruby", "nginx"]) (document ["nginx", "ruby"]) := by
  intro packages document
  have apart : ¬Sha256.Collide (Text.Utf8.encode (document ["ruby", "nginx"]).canonical)
      (Text.Utf8.encode (document ["nginx", "ruby"]).canonical) := by
    decide +kernel
  exact ((documents_told_apart _ _).2 apart).not.mp (by decide +kernel)

/-- The zeros of both signs are equal and have different texts and fingerprints. -/
theorem zeros_told_apart :
    let plus : Json := .number (.double (.zero false))
    let minus : Json := .number (.double (.zero true))
    plus.same minus = true ∧ Json.Alike (fun m n => m.same n = true) plus minus ∧
      plus.canonical ≠ minus.canonical ∧ fingerprint plus ≠ fingerprint minus ∧
      ¬Sha256.Collide (Text.Utf8.encode plus.canonical) (Text.Utf8.encode minus.canonical) := by
  refine ⟨by decide, .number (by decide), ?_, ?_, ?_⟩ <;> decide +kernel

end Digest

end VmDeploy
