import ServiceWiring.Artifact.Wiring
import ServiceWiring.Proofs.Artifact.Imports
import ServiceWiring.Proofs.Go.RawLiteral
import ServiceWiring.Proofs.Json.Characters
import ServiceWiring.Proofs.Text.Utf8

/-!
# The swagger document in a wiring

A wiring embeds its swagger document as a sum of raw literals. Such a sum stands for a text without
its carriage returns, and the text of a document has none: outside of texts a document is written
without any, and inside of texts they are escaped.

Headline:
* **`embedded_literal_denotes`**: what a Go compiler reads where a wiring embeds a document stands
  for the text of exactly the octets that the document was written as.
-/

namespace ServiceWiring

variable {d : Descriptor} {common : List GoPackage} {document : Json} {octets : Octets}
  {p : Parameters} {file : Text}

/-! ## A document is never written as nothing -/

namespace Binary64

theorem layout_ne_nil (ds : Text) (point : Int) : layout ds point ≠ [] := by
  unfold layout
  split
  · exact List.append_ne_nil_of_left_ne_nil (List.append_ne_nil_of_left_ne_nil (by decide) _) _
  split
  · exact List.append_ne_nil_of_left_ne_nil (List.append_ne_nil_of_right_ne_nil _ (by decide)) _
  · refine List.append_ne_nil_of_left_ne_nil (List.append_ne_nil_of_left_ne_nil ?_ _) _
    exact List.append_ne_nil_of_right_ne_nil _ (by decide)

theorem toText_ne_nil (x : Binary64) : x.toText ≠ [] := by
  cases x with
  | nan => decide
  | infinite negative => cases negative <;> decide
  | finite negative m e =>
    unfold toText
    simp only
    split
    · exact List.append_ne_nil_of_left_ne_nil (by decide) _
    · split
      · decide
      · exact layout_ne_nil _ _

end Binary64

namespace Json

theorem print_ne_nil (j : Json) : j.print ≠ [] := by
  unfold print
  cases j with
  | null => decide
  | bool b => cases b <;> decide
  | int i =>
    refine List.append_ne_nil_of_left_ne_nil ?_ _
    cases i with
    | ofNat n => exact Text.ofNat_ne_nil n
    | negSucc n => exact List.cons_ne_nil _ _
  | float x => exact List.append_ne_nil_of_left_ne_nil x.toText_ne_nil _
  | str t =>
    refine List.append_ne_nil_of_left_ne_nil ?_ _
    exact List.append_ne_nil_of_right_ne_nil _ (by decide)
  | arr items => cases items <;> exact List.cons_ne_nil _ _
  | obj fields => cases fields <;> exact List.cons_ne_nil _ _

end Json

theorem serializeSwagger_spec (h : serializeSwagger document = .ok octets) :
    Utf8.encode? document.print = some octets := by
  unfold serializeSwagger at h
  split at h
  · cases h
  split at h
  · rename_i hencoded
    rwa [← Except.ok.inj h]
  · cases h

theorem serializeSwagger_ne_nil (h : serializeSwagger document = .ok octets) : octets ≠ [] := by
  rintro rfl
  have hdecode := Utf8.decode_of_encode? (serializeSwagger_spec h)
  exact document.print_ne_nil (Except.ok.inj hdecode).symm

/-! ## Where a wiring embeds its document -/

/-- A wiring can be assembled with every document that can be written, and embeds it. -/
theorem wiring_parameters_swagger (hdocument : document ≠ .null)
    (h : serializeSwagger document = .ok octets) (d : Descriptor) (common : List GoPackage)
    (s : Session) :
    ∃ p, (Wiring.parameters d common document).result s = .ok p ∧ p.file = d ∧
      p.swagger? = some octets := by
  obtain ⟨imports, himports⟩ := addPaths_total (common.foldl addImport []) Wiring.paths s
  refine ⟨{ file := d, imports := addRequestPackages imports d, swagger? := some octets },
    SessionM.result_seq_eq_ok_iff.mpr ⟨imports, himports, ?_⟩, rfl, rfl⟩
  cases document with
  | null => exact absurd rfl hdocument
  | _ =>
    simp only [h]
    rfl

namespace Wiring

theorem embedding_of_decode (hoctets : octets ≠ []) (hp : p.swagger? = some octets) {t : Text}
    (ht : Utf8.decode octets = .ok t) (file : Text) :
    embedding p file = .ok (some (swaggerVariable file), Piece.lines [["var ",
      .declares (swaggerVariable file), " = []byte(", .literal (Go.rawLiteral t), ")"], []]) := by
  unfold embedding
  rw [hp, Option.getD_some]
  cases octets with
  | nil => exact absurd rfl hoctets
  | cons b r =>
    simp only [Go.rawLiteralOfOctets, ht]
    rfl

/-- A wiring declares its document right below the header. -/
theorem source_of_decode (hname : p.file.name = .str file) (hoctets : octets ≠ [])
    (hp : p.swagger? = some octets) {t : Text} (ht : Utf8.decode octets = .ok t) :
    ∃ after : Text, source p = .ok (Piece.render (header p) ++
      ("var " ++ swaggerVariable file ++ " = []byte(") ++ Go.rawLiteral t ++ (")\n" ++ after)) := by
  let below := p.file.services.flatMap (serviceBlock p.use (some (swaggerVariable file))) ++
    declarations p
  have hpieces : pieces p = .ok (header p ++ (Piece.lines [["var ",
      .declares (swaggerVariable file), " = []byte(", .literal (Go.rawLiteral t), ")"], []] ++
        below)) := by
    unfold pieces
    rw [hname]
    simp only [embedding_of_decode hoctets hp ht file, below, ← List.append_assoc]
    rfl
  refine ⟨"\n" ++ Piece.render below, ?_⟩
  rw [source, hpieces, Except.map]
  simp [Piece.render, Piece.lines, Piece.toText, Text.ofString]

end Wiring

/-- **The embedded literal denotes the document exactly.** Every document that can be written is
embedded by the wiring of every file. Where a wiring embeds the octets of a document, its source
holds an expression between the parentheses of a conversion to octets; a Go compiler reads that
expression as a sum of literals, whole and up to the closing parenthesis; and what the sum stands
for is the text that the octets are the UTF-8 of, with every backquote and nothing dropped. -/
theorem embedded_literal_denotes (h : serializeSwagger document = .ok octets) :
    (document ≠ .null → ∀ d common s, ∃ p,
      (Wiring.parameters d common document).result s = .ok p ∧ p.file = d ∧
        p.swagger? = some octets) ∧
    ∀ p file, p.file.name = .str file → p.swagger? = some octets →
      ∃ (expression after : Text) (literals : List Go.StringLiteral),
        Wiring.source p = .ok (Piece.render (Wiring.header p) ++
          ("var " ++ Wiring.swaggerVariable file ++ " = []byte(") ++ expression ++
          (")\n" ++ after)) ∧
        Go.readSum? (expression ++ (")\n" ++ after)) = some (literals, ")\n" ++ after) ∧
        expression = Text.joinWith " + " (literals.map Go.StringLiteral.toText) ∧
        Utf8.encode? (literals.flatMap Go.StringLiteral.value) = some octets ∧
        literals.flatMap Go.StringLiteral.value = document.print := by
  refine ⟨fun hdocument d common s => wiring_parameters_swagger hdocument h d common s,
    fun p file hname hp => ?_⟩
  have hencoded := serializeSwagger_spec h
  obtain ⟨after, hsource⟩ := Wiring.source_of_decode hname (serializeSwagger_ne_nil h) hp
    (Utf8.decode_of_encode? hencoded)
  have hclose : (Go.skipBlanks (")\n" ++ after)).head? ≠ some 0x2B :=
    show some 0x29 ≠ some 0x2B by decide
  obtain ⟨literals, hread, hsum, hvalue⟩ := Go.readSum?_rawLiteral document.print hclose
  -- A compiler drops carriage returns, but what is printed holds none.
  have hkept : document.print.filter (· ≠ 0x0D) = document.print := by
    refine List.filter_eq_self.mpr fun c hc => ?_
    have hne : c ≠ 0x0D := fun he => (Json.isClean_print document).return_notMem (he ▸ hc)
    simpa using hne
  rw [hkept] at hvalue
  exact ⟨Go.rawLiteral document.print, after, literals, hsource, hread, hsum.symm,
    hvalue ▸ hencoded, hvalue⟩

/-- A document whose texts start and end with backquotes, hold several of them in a row and nothing
else, and hold line breaks of both kinds. -/
def backquoted : Json :=
  .obj [("`", .str "``"), ("a`\r\n`b", .arr [.str "`a", .str "a`", .str "\r"])]

/-- A wiring of a file without services, with no imports. -/
def embeddingOnly (octets : Octets) : Parameters where
  file := ⟨.str "d/a.proto", ⟨"d", "d", none⟩, []⟩
  swagger? := some octets

theorem embedded_literal_denotes_backquoted :
    ∃ octets, serializeSwagger backquoted = .ok octets ∧
      ∃ (before expression after : Text) (literals : List Go.StringLiteral),
        Wiring.source (embeddingOnly octets) =
          .ok (before ++ expression ++ (")\n" ++ after)) ∧
        Go.readSum? (expression ++ (")\n" ++ after)) = some (literals, ")\n" ++ after) ∧
        literals.flatMap Go.StringLiteral.value = backquoted.print := by
  have hmade : (serializeSwagger backquoted).toOption.isSome = true := by decide +kernel
  cases h : serializeSwagger backquoted with
  | ok octets =>
    obtain ⟨expression, after, literals, hsource, hread, -, -, hvalue⟩ :=
      (embedded_literal_denotes h).2 (embeddingOnly octets)
        "d/a.proto" rfl rfl
    exact ⟨octets, rfl, _, expression, after, literals, hsource, hread, hvalue⟩
  | error e =>
    rw [h] at hmade
    cases hmade

end ServiceWiring
