import ServiceWiring.Artifact.Assembly
import ServiceWiring.Proofs.Json.Characters
import ServiceWiring.Proofs.Text.Utf8

/-!
# Which documents can be embedded

A document is embedded in two stages. First its text is written, which some leaves refuse; then the
text is written as UTF-8, which has no octets for surrogates. All of the text but the texts that the
document holds is ASCII, so a surrogate in it is one of the document, in a value or in a name, at
any depth. The first stage fails with a fault that a run reports, and the second one with a fault
that it does not.

Headline:
* **`serializeSwagger_outcome`**: when a document is embedded, and how it fails otherwise.
-/

namespace ServiceWiring

open Json

variable {j : Json}

/-- The document holds a surrogate in a text, be it a value or a name. -/
def Json.HasSurrogate (j : Json) : Prop := ∃ x : CodePoint, Spells x j ∧ x.isSurrogate = true

theorem encode?_print_eq_none_iff : Utf8.encode? j.print = none ↔ j.HasSurrogate := by
  rw [Utf8.encode?_eq_none_iff]
  have hwide (x : CodePoint) (hx : x.isSurrogate = true) : 0x80 ≤ x.val := by
    simp only [CodePoint.isSurrogate, Bool.and_eq_true, decide_eq_true_eq] at hx
    omega
  constructor
  · rintro ⟨x, hmem, hx⟩
    exact ⟨x, (mem_print_iff (hwide x hx)).mp hmem, hx⟩
  · rintro ⟨x, hspells, hx⟩
    exact ⟨x, (mem_print_iff (hwide x hx)).mpr hspells, hx⟩

/-! ## The two stages -/

/-- The text is written unless a leaf refuses, and encoded unless it holds a surrogate. -/
theorem serializeSwagger_cases (j : Json) :
    (∃ r, j.refusal? = some r ∧ serializeSwagger j = .error (.unprintable r)) ∨
      j.refusal? = none ∧ ((∃ octets, Utf8.encode? j.print = some octets ∧
          serializeSwagger j = .ok octets) ∨
        Utf8.encode? j.print = none ∧ serializeSwagger j = .error .unencodable) := by
  unfold serializeSwagger
  cases j.refusal? with
  | some r => exact Or.inl ⟨r, rfl, rfl⟩
  | none =>
    cases Utf8.encode? j.print with
    | some octets => exact Or.inr ⟨rfl, Or.inl ⟨octets, rfl, rfl⟩⟩
    | none => exact Or.inr ⟨rfl, Or.inr ⟨rfl, rfl⟩⟩

/-- **A document is embedded if and only if every leaf of it can be written and no text of it holds
a surrogate.** It is embedded as the UTF-8 of what is written for it. A leaf that cannot be written
makes it fail as a document that cannot be written, for the reason of such a leaf. A surrogate, with
no such leaf around, makes it fail too, but as any text that cannot be encoded, wherever it is from.
-/
theorem serializeSwagger_outcome (j : Json) :
    ((∃ octets, serializeSwagger j = .ok octets ∧ Utf8.encode? j.print = some octets) ↔
      ¬j.HasUnwritable ∧ ¬j.HasSurrogate) ∧
    ((∃ r, serializeSwagger j = .error (.unprintable r) ∧ ∃ v, Occurs v j ∧ Unwritable v r) ↔
      j.HasUnwritable) ∧
    (serializeSwagger j = .error .unencodable ↔ ¬j.HasUnwritable ∧ j.HasSurrogate) := by
  rw [← refusal?_eq_none_iff, ← encode?_print_eq_none_iff]
  rcases serializeSwagger_cases j with ⟨r, hr, h⟩ | ⟨hwritten, ⟨octets, ho, h⟩ | ⟨hnone, h⟩⟩
  · obtain ⟨v, hv, hrefused⟩ := occurs_of_refusal? hr
    have hunwritable : j.HasUnwritable := ⟨v, hv, r, hrefused⟩
    refine ⟨?_, ?_, ?_⟩
    · simp [h, hr]
    · exact iff_of_true ⟨r, h, v, hv, hrefused⟩ hunwritable
    · simp [h, hr]
  · refine ⟨?_, ?_, ?_⟩
    · simp [h, hwritten, ho]
    · simp [h, refusal?_eq_none_iff.mp hwritten]
    · simp [h, ho]
  · refine ⟨?_, ?_, ?_⟩
    · simp [h, hnone]
    · simp [h, refusal?_eq_none_iff.mp hwritten]
    · simp [h, hwritten, hnone]

-- A lone surrogate ends a run with a fault that it has no message for.
example : serializeSwagger (.obj [("a", .str [0xD800])]) = .error .unencodable ∧
    serializeSwagger (.obj [([0xDFFF], .arr [])]) = .error .unencodable ∧
    Fault.message? .unencodable = none := ⟨rfl, rfl, rfl⟩

end ServiceWiring
