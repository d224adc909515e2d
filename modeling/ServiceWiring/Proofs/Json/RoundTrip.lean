import ServiceWiring.Artifact.Assembly
import ServiceWiring.Json.File
import ServiceWiring.Proofs.Json.Characters
import ServiceWiring.Proofs.Json.Value
import ServiceWiring.Proofs.Text.Utf8

/-!
# Documents survive their files

A document is embedded as UTF-8, and a file is read from UTF-8. Between the two lies the text of the
document, which is one value with nothing around it. Reading it gives the document again, if the
document is plain. That leaves out numbers with a point, whose digits are not looked at here, and
objects that repeat a name, of which reading keeps one field only.

A file has its line breaks made uniform before it is read. That changes nothing here: the text of a
document is clean, so it has no carriage return.

Headlines:
* **`read_print`**: a plain document that can be written is read as it was written.
* **`ofFile_serializeSwagger`**: so are the octets that it is embedded as.
-/

namespace ServiceWiring.Json

variable {t : Text} {j : Json}

/-! ## Plain documents -/

mutual

/-- Whether the value has no number with a point or an exponent, and no object that repeats a name.
-/
def isPlain : Json → Bool
  | float _ => false
  | arr items => plainItems items
  | obj fields => decide (fields.map Prod.fst).Nodup && plainFields fields
  | _ => true
termination_by structural j => j

/-- Whether the items are plain. -/
def plainItems : List Json → Bool
  | [] => true
  | item :: r => isPlain item && plainItems r
termination_by structural l => l

/-- Whether the values of the fields are plain. -/
def plainFields : List (Text × Json) → Bool
  | [] => true
  | (_, value) :: r => isPlain value && plainFields r
termination_by structural l => l

end

theorem natAbs_lt_of_refusal? {i : Int} (h : (int i).refusal? = none) :
    i.natAbs < 10 ^ maxDigits := by
  rw [refusal?] at h
  split at h
  · cases h
  · rename_i hi
    exact Nat.lt_of_not_le hi

mutual

/-- **A plain value that can be written is read as it was written.** -/
theorem reads : (j : Json) → j.isPlain = true → j.refusal? = none → Reads j
  | null => fun _ _ => .null
  | bool b => fun _ _ => .bool b
  | int _ => fun _ hrefusal => .int (natAbs_lt_of_refusal? hrefusal)
  | float _ => fun hplain => nomatch hplain
  | str t => fun _ _ => .str t
  | arr [] => fun _ _ => .arr_nil
  | arr (item :: r) => fun hplain hrefusal => by
    simp only [isPlain, plainItems, Bool.and_eq_true] at hplain
    simp only [refusal?, refusalItems?, Option.or_eq_none_iff] at hrefusal
    exact .arr (reads item hplain.1 hrefusal.1) (readsItems r hplain.2 hrefusal.2)
  | obj [] => fun _ _ => .obj_nil
  | obj ((name, value) :: r) => fun hplain hrefusal => by
    simp only [isPlain, plainFields, Bool.and_eq_true, decide_eq_true_eq] at hplain
    simp only [refusal?, refusalFields?, Option.or_eq_none_iff] at hrefusal
    obtain ⟨hnames, hvalue, hr⟩ := hplain
    exact .obj (reads value hvalue hrefusal.1) (readsFields r hr hrefusal.2) hnames
termination_by structural j => j

theorem readsItems : (items : List Json) → plainItems items = true →
    refusalItems? items = none → ReadsItems items
  | [] => fun _ _ => ReadsItems.nil
  | item :: r => fun hplain hrefusal => by
    simp only [plainItems, Bool.and_eq_true] at hplain
    simp only [refusalItems?, Option.or_eq_none_iff] at hrefusal
    exact ReadsItems.cons (reads item hplain.1 hrefusal.1) (readsItems r hplain.2 hrefusal.2)
termination_by structural items => items

theorem readsFields : (fields : List (Text × Json)) → plainFields fields = true →
    refusalFields? fields = none → ReadsFields fields
  | [] => fun _ _ => ReadsFields.nil
  | (name, value) :: r => fun hplain hrefusal => by
    simp only [plainFields, Bool.and_eq_true] at hplain
    simp only [refusalFields?, Option.or_eq_none_iff] at hrefusal
    exact ReadsFields.cons (reads value hplain.1 hrefusal.1) (readsFields r hplain.2 hrefusal.2)
termination_by structural fields => fields

end

/-! ## Documents -/

theorem readDocument_print (hplain : j.isPlain = true) (hrefusal : j.refusal? = none) :
    readDocument j.print = .ok j := by
  have hreads := reads j hplain hrefusal
  have hstarts := hreads.starts 0 []
  have hvalue : readValue (2 * j.print.length + 1) j.print = .ok (j, []) :=
    hreads.reads (fun _ h => nomatch h) (Nat.le_refl _)
  have hmark : j.print.head? ≠ some 0xFEFF := by
    obtain ⟨c, r, hc, -, hlow, -⟩ := hstarts
    rw [print, hc]
    intro h
    rw [Option.some.inj h] at hlow
    exact absurd hlow (by decide)
  unfold readDocument
  rw [if_neg hmark, show skipBlanks j.print = j.print from hstarts.skipBlanks_eq, hvalue]
  rfl

/-- **A plain document that can be written is read as it was written.** -/
theorem read_print (hplain : j.isPlain = true) (hrefusal : j.refusal? = none) :
    read j.print = .ok j := by
  rw [read, readDocument_print hplain hrefusal]
  rfl

/-! ## Files -/

theorem unifyLines_of_notMem (h : 0x0D ∉ t) : t.unifyLines = t := by
  induction t with
  | nil => rfl
  | cons c r ih =>
    rw [List.mem_cons, not_or] at h
    rw [Text.unifyLines, ih h.2]
    · rintro r' rfl
      exact absurd rfl h.1
    · rintro rfl
      exact h.1 rfl

/-- **A plain document survives its file.** If a document without numbers with a point, in which no
object repeats a name, is embedded at all, then the octets are UTF-8 for its text, and that text is
read as the very same document, with the items and the fields in the same order, and so is a file of
these octets. -/
theorem ofFile_serializeSwagger {octets : Octets} (hplain : j.isPlain = true)
    (h : serializeSwagger j = .ok octets) :
    Utf8.decode octets = .ok j.print ∧ read j.print = .ok j ∧ ofFile octets = .ok j := by
  unfold serializeSwagger at h
  split at h
  · cases h
  rename_i hrefusal
  split at h
  · rename_i octets' hencoded
    obtain rfl := Except.ok.inj h
    have hdecode := Utf8.decode_of_encode? hencoded
    have hread := read_print hplain hrefusal
    have hlines : j.print.unifyLines = j.print :=
      unifyLines_of_notMem (isClean_print j).return_notMem
    refine ⟨hdecode, hread, ?_⟩
    have hfile : ofFile octets' = (read j.print.unifyLines).mapError .read := by
      rw [ofFile, hdecode]
      rfl
    rw [hfile, hlines, hread]
    rfl
  · cases h

/-- A document with everything that is escaped or nested. -/
def motley : Json :=
  .obj [("b", .arr [.int (-120), .int 0, .null, .bool true, .arr [], .obj []]),
    ("a\"\\\n\r/", .str [0x01, 0x7F, 0xE9, 0x20AC, 0xFEFF, 0x1F600]),
    ("", .obj [("a", .arr [.arr [.str []]]), ("b", .bool false)])]

theorem ofFile_serializeSwagger_motley :
    ∃ octets, serializeSwagger motley = .ok octets ∧ Utf8.decode octets = .ok motley.print ∧
      read motley.print = .ok motley ∧ ofFile octets = .ok motley := by
  have hplain : motley.isPlain = true := by decide
  have hmade : (serializeSwagger motley).toOption.isSome = true := by decide +kernel
  cases h : serializeSwagger motley with
  | ok octets => exact ⟨octets, rfl, ofFile_serializeSwagger hplain h⟩
  | error e =>
    rw [h] at hmade
    cases hmade

end ServiceWiring.Json
