import Mathlib
import ServiceWiring.Inputs
import ServiceWiring.Proofs.Descriptor.Reading

/-!
# What goes wrong when a descriptor set is loaded

A file may hold no document, and a document may be no descriptor set; both are reported as faults of
the file. Three faults are of another kind: an integer with too many digits ends the reading of the
text itself, and a name or a package option of another kind than a text ends the reading of the
document where the text is needed.

Headline:
* **`loadDescriptors_outcome`**: what can go wrong with a file that can be read, and when it does.
-/

namespace ServiceWiring.Inputs

open Descriptor (IsSet MirrorsSet Readable readSet readSet_judges)
open SessionM (final_seq result_seq)

variable {path : Text} {l : Location} {s : Session} {content : Octets} {document : Json}

/-- The fault of a file that holds no document. -/
def fileFault (path : Text) (e : Json.FileError) : Fault :=
  if e = .read .longInteger then .longInteger else .unreadable path e

/-- What is made of what a file holds. -/
theorem readDocument_result (h : s.machine.readFile path = .ok content) :
    (readDocument path).result s = (Json.ofFile content).mapError (fileFault path) := by
  have hmachine : SessionM.machine.result s = .ok s.machine := rfl
  unfold readDocument
  rw [result_seq, hmachine]
  simp only
  rw [h]
  simp only [SessionM.ofPath, pure_bind]
  split <;> rename_i hfile <;> rw [hfile]
  · rfl
  · rfl
  · rename_i hlong
    simp only [Except.mapError, fileFault, if_neg hlong]
    rfl

theorem readDocument_final (h : s.machine.readFile path = .ok content) :
    (readDocument path).final s = s := by
  have hmachine : SessionM.machine.result s = .ok s.machine := rfl
  unfold readDocument
  rw [final_seq, hmachine]
  simp only
  rw [h]
  simp only [SessionM.ofPath, pure_bind]
  split <;> rfl

theorem loadDescriptors_of_document (h : s.machine.readFile l.toText = .ok content)
    (hdocument : Json.ofFile content = .ok document) :
    (loadDescriptors l).result s = (readSet document).result s := by
  unfold loadDescriptors
  rw [result_seq, readDocument_result h, readDocument_final h, hdocument]
  simp only [Except.mapError]
  rw [result_seq]
  cases (readSet document).result s <;> rfl

theorem loadDescriptors_of_error {e : Json.FileError}
    (h : s.machine.readFile l.toText = .ok content) (he : Json.ofFile content = .error e) :
    (loadDescriptors l).result s = .error (fileFault l.toText e) := by
  unfold loadDescriptors
  rw [result_seq, readDocument_result h, he]
  rfl

/-- **What goes wrong when a file that can be read is loaded.** Loading gives a list of files,
reports that the file holds no document or that the document has a flaw, or ends with one of three
other faults. One of them is that of an integer with too many digits, which ends the reading of the
text. The other two are those of a name or a package option that is needed as a text and is none:
where no value is, there is a list or a flaw; and a document of the grammar of descriptor sets is
loaded unless some value is. -/
theorem loadDescriptors_outcome (h : s.machine.readFile l.toText = .ok content) :
    (∀ e, (loadDescriptors l).result s = .error e → (∃ f, e = .flawed f) ∨
        (∃ defect, e = .unreadable l.toText defect) ∨ e = .longInteger ∨ e.IsStray) ∧
      ((loadDescriptors l).result s = .error .longInteger ↔
        Json.ofFile content = .error (.read .longInteger)) ∧
      (∀ document, Json.ofFile content = .ok document → Readable document →
        (∃ ds, (loadDescriptors l).result s = .ok ds ∧ MirrorsSet document ds) ∨
          ∃ f, (loadDescriptors l).result s = .error (.flawed f)) ∧
      ∀ document, Json.ofFile content = .ok document → IsSet document →
        ((∃ e, e.IsStray ∧ (loadDescriptors l).result s = .error e) ↔ ¬Readable document) := by
  cases hfile : Json.ofFile content with
  | ok document =>
    rw [loadDescriptors_of_document h hfile]
    have hjudges := readSet_judges document
    refine ⟨fun e he => ?_, ?_, ?_, ?_⟩
    · exact (hjudges.strays s e he).imp_right fun h => Or.inr (Or.inr h.1)
    · refine ⟨fun hlong => ?_, fun hlong => by cases hlong⟩
      rcases hjudges.strays s _ hlong with ⟨f, hf⟩ | ⟨he | he, -⟩ <;> cases ‹_ = _›
    · rintro _ ⟨⟩ hreadable
      by_cases hset : IsSet document
      · exact Or.inl (hjudges.exists_ok hset hreadable s)
      · exact Or.inr ((hjudges.flawed_iff hreadable s).mpr hset)
    · rintro _ ⟨⟩ hset
      exact hjudges.stray_iff hset s
  | error defect =>
    rw [loadDescriptors_of_error h hfile]
    refine ⟨fun e he => ?_, ?_, fun _ h => (by cases h), fun _ h => (by cases h)⟩
    · obtain rfl := Except.error.inj he
      unfold fileFault
      split
      · exact Or.inr (Or.inr (Or.inl rfl))
      · exact Or.inr (Or.inl ⟨defect, rfl⟩)
    · unfold fileFault
      split
      · rename_i hlong
        simp [hlong]
      · rename_i hlong
        simpa using hlong

/-- A descriptor set whose file has a number for its name. -/
def numberedFile : Octets := (Utf8.encode? "\x7b\"files\": [\x7b\"name\": 5\x7d]\x7d").getD []

/-- A machine with one file, named `d`, in its root directory. -/
def withFile (content : Octets) : Machine where
  disk := { nodes := [([[0x64]], .file content false)] }

/-- Such a set is a descriptor set by its grammar, and is not loaded. -/
theorem loadDescriptors_outcome_numberedFile : ∃ e, e.IsStray ∧
    (loadDescriptors (Location.ofText "d")).result { machine := withFile numberedFile } =
      .error e := by
  have hread : (withFile numberedFile).readFile (Location.ofText "d").toText =
      .ok numberedFile := by cbv
  have hdocument : Json.ofFile numberedFile =
      .ok (.obj [("files", .arr [.obj [("name", .int 5)]])]) := by cbv
  refine ((loadDescriptors_outcome hread).2.2.2 _ hdocument ?_).mpr ?_
  · refine ⟨_, rfl, List.forall_mem_singleton.mpr ⟨rfl, fun v hv => ?_, fun v hv => ?_⟩⟩
    · cases hv
    · cases hv
  · intro hreadable
    have hname := (hreadable _ (List.mem_singleton.mpr rfl)).1.2 fun option h => by cases h.1
    obtain ⟨t, ht⟩ := hname (.int 5) rfl
    cases ht

end ServiceWiring.Inputs
