import ServiceWiring.Proofs.Artifact.WiringName
import ServiceWiring.Proofs.Descriptor.Packages
import ServiceWiring.Proofs.Descriptor.Reading

/-!
# Which name of a package counts

A document may mention a package many times: in the options of files and messages, and by the
directories of files without an option. Each mention gives a path and a name. Reading binds them in
the order of the document, and a path that is bound keeps its package, so of all the names that a
document gives to a path the first one counts, whether it was written out or not.

Results:
* `declared?_bind`: the name of a path after one more mention.
* `readSet_mentions`: the names of all paths after a document.
* `readSet_name`: every package that is read has the first name that the document gives its path.

Headline:
* **`readSet_explicit_iff`**: a name that is written out counts iff the first mention of the path
  gives it.
-/

namespace ServiceWiring

open SessionM (final result Judges Quiet)

/-! ## Mentions -/

namespace Descriptor

variable {document raw : Json} {option path name : Text}

/-- The package option, unless it is left out or empty. -/
def namedOption? (raw : Json) : Option Text :=
  match raw.field? "go_package" with
  | some (.str option) => if option = [] then none else some option
  | _ => none

/-- The path that an option gives, and the name that it gives or else the one for the path. -/
def optionMention (option : Text) : Text × Text :=
  let (path, name?) := GoPackage.splitOption option
  (path, name?.getD (Go.packageName path))

/-- The path and the name that a file has by where it is. -/
def directoryMention (file : Text) : Text × Text :=
  let path : Text := if Path.directory file = [] then "." else Path.directory file
  (path, Go.packageName (if path = "." then Path.dropExtensionOfName (Path.base file) else path))

/-- What the object of a file says of its own package. -/
def fileMentions (raw : Json) : List (Text × Text) :=
  match namedOption? raw, raw.field? "name" with
  | some option, _ => [optionMention option]
  | none, some (.str file) => [directoryMention file]
  | none, _ => []

/-- What the object of a message says of its own package: nothing where it has no option. -/
def messageMentions (raw : Json) : List (Text × Text) :=
  (namedOption? raw).toList.map optionMention

/-- What there is for each file of a document and for each message of its methods, in the order of
the document. -/
def gather {α : Type} (file message : Json → List α) (document : Json) : List α :=
  (document.itemsUnder "files").flatMap fun f =>
    file f ++ (f.itemsUnder "services").flatMap fun v =>
      (v.itemsUnder "methods").flatMap fun m => (messagesOf m).flatMap message

/-- The objects of files and messages. -/
def parts : Json → List Json := gather (fun f => [f]) fun q => [q]

/-- **What a document says of packages**, each time with the path and the name that it gives. -/
def mentions : Json → List (Text × Text) := gather fileMentions messageMentions

/-- The path and the name of an option that gives both. -/
def explicit? (raw : Json) : Option (Text × Text) :=
  (namedOption? raw).bind fun option =>
    let (path, name?) := GoPackage.splitOption option
    name?.map fun name => (path, name)

theorem namedOption?_eq_some_iff : namedOption? raw = some option ↔ HasOption raw option := by
  unfold namedOption? HasOption
  split
  · rename_i t ht
    rw [ht]
    by_cases hnil : t = []
    · simp [hnil, eq_comm]
    · simpa [hnil] using fun h => h ▸ hnil
  · rename_i hnot
    simpa using fun h => absurd h (hnot option)

theorem hasOption_of_explicit (h : explicit? raw = some (path, name)) :
    ∃ option, HasOption raw option ∧ GoPackage.splitOption option = (path, some name) := by
  obtain ⟨option, hoption, h⟩ := Option.bind_eq_some_iff.mp h
  obtain ⟨name', hname, h⟩ := Option.map_eq_some_iff.mp h
  obtain ⟨rfl, rfl⟩ := Prod.mk.inj h
  exact ⟨option, namedOption?_eq_some_iff.mp hoption, Prod.ext rfl hname⟩

end Descriptor

/-! ## Which names a table has -/

/-- The name that the package of a path declares. -/
def ImportTable.declared? (t : ImportTable) (path : Text) : Option Text :=
  (t.package? path).map (·.name)

/-- A path that has a package keeps its name, and any other takes the one that it is given. -/
theorem ImportTable.declared?_bind (t : ImportTable) {path name : Text} (hname : name ≠ [])
    (path' : Text) : (t.bind path (some name)).2.declared? path' =
      (t.declared? path').or ([(path, name)].lookup path') := by
  have hwanted : wantedName path (some name) = name := by simp [wantedName, hname]
  by_cases hpath : path' = path
  · subst hpath
    unfold declared?
    rw [package?_bind_self, List.lookup_cons_self]
    rcases bind_cases t path' (some name) with ⟨p, hp, hb⟩ | ⟨hp, short, -, hnew, -⟩
    · simp [hp, hb]
    · simp [hp, hnew, newPackage, hwanted]
  · have hlookup : [(path, name)].lookup path' = none := by
      rw [List.lookup_cons, beq_eq_false_iff_ne.mpr hpath, List.lookup_nil]
    rw [hlookup, Option.or_none]
    unfold declared? package?
    rcases bind_cases t path (some name) with ⟨p, -, hb⟩ | ⟨-, short, -, hnew, hpackages⟩
    · rw [hb]
    · rw [hpackages, List.find?_cons_of_neg (by simp [hnew, newPackage, Ne.symm hpath])]

namespace SessionM

variable {α β : Type} {x : SessionM α} {f : α → SessionM β} {ms ms' : List (Text × Text)}

/-- If the step gives something, it has mentioned packages in the order of the list: each path has
the name that it had before, or else the first one that the list gives it. -/
def Mentions (x : SessionM α) (ms : List (Text × Text)) : Prop :=
  ∀ s a, x.result s = .ok a → ∀ path,
    (x.final s).imports.declared? path = (s.imports.declared? path).or (ms.lookup path)

namespace Mentions

theorem of_quiet (h : Quiet x) : Mentions x [] := by
  intro s a _ path
  rw [h s, List.lookup_nil, Option.or_none]

theorem pure (a : α) : Mentions (Pure.pure a : SessionM α) [] := of_quiet (Quiet.pure a)

theorem throw (e : Fault) (ms : List (Text × Text)) :
    Mentions (MonadExcept.throw e : SessionM α) ms := by
  intro s a ha
  cases ha

theorem bind {path name : Text} (h : name ≠ []) :
    Mentions (SessionM.bind path (some name)) [(path, name)] :=
  fun s _ _ path' => s.imports.declared?_bind h path'

theorem seq (hx : Mentions x ms) (hf : ∀ a, Mentions (f a) ms') :
    Mentions (x >>= f) (ms ++ ms') := by
  intro s b hb path
  obtain ⟨a, ha, hb⟩ := result_seq_eq_ok_iff.mp hb
  rw [final_seq, ha, List.lookup_append, ← Option.or_assoc, ← hx s a ha path]
  exact hf a (x.final s) b hb path

/-- A step that binds nothing may be told by what it gives. -/
theorem after {fits fine : Prop} {Q : α → Prop} (hx : Quiet x) (hj : Judges x fits fine Q)
    (hf : ∀ a, Q a → Mentions (f a) ms) : Mentions (x >>= f) ms := by
  intro s b hb path
  obtain ⟨a, ha, hb⟩ := result_seq_eq_ok_iff.mp hb
  have h := hf a (hj.gives s a ha).2.2 (x.final s) b hb path
  rw [final_seq, ha]
  rwa [hx s] at h

theorem followed (hx : Mentions x ms) (hf : ∀ a, Quiet (f a)) : Mentions (x >>= f) ms := by
  have h := hx.seq fun a => of_quiet (hf a)
  rwa [List.append_nil] at h

theorem mapM {g : α → List (Text × Text)} (h : ∀ a, Mentions (f a) (g a)) (l : List α) :
    Mentions (l.mapM f) (l.flatMap g) := by
  induction l with
  | nil => exact pure []
  | cons a l ih =>
    rw [List.mapM_cons, List.flatMap_cons]
    exact (h a).seq fun b => ih.followed fun bs => Quiet.pure (b :: bs)

end Mentions

end SessionM

/-! ## What reading mentions -/

namespace Descriptor

open SessionM (Mentions)

variable {document raw name : Json} {s : Session} {ds : List Descriptor} {owner : GoPackage}
  {part key : Text}

theorem require_after {β : Type} {f : Json → SessionM β} {ms : List (Text × Text)}
    (h : ∀ v, raw.field? key = some v → Mentions (f v) ms) :
    Mentions (require part key raw >>= f) ms :=
  Mentions.after (require_quiet part key raw) (require_judges part key raw) h

theorem listUnder_after {β : Type} {f : List Json → SessionM β} {ms : List (Text × Text)}
    (h : Mentions (f (raw.itemsUnder key)) ms) : Mentions (listUnder part key raw >>= f) ms :=
  Mentions.after (listUnder_quiet part key raw) (listUnder_judges part key raw) fun _ hitems =>
    hitems ▸ h

theorem optionOf?_after {β : Type} {f : Option Text → SessionM β} {ms : List (Text × Text)}
    (h : Mentions (f (namedOption? raw)) ms) : Mentions (optionOf? raw >>= f) ms := by
  refine Mentions.after (optionOf?_quiet raw) (optionOf?_judges raw) fun option? hoption => ?_
  have heq : option? = namedOption? raw :=
    Option.ext fun option => (hoption option).trans namedOption?_eq_some_iff.symm
  rwa [heq]

theorem bindOption_mentions (option : Text) :
    Mentions (bindOption option) [optionMention option] :=
  Mentions.bind (GoPackage.name_splitOption_ne_nil option)

theorem bindDirectory_mentions (file : Text) :
    Mentions (bindDirectory file) [directoryMention file] := by
  unfold bindDirectory directoryMention
  simp only [List.isEmpty_iff]
  exact Mentions.bind (Go.packageName_ne_nil _)

theorem readPackage_mentions (hname : raw.field? "name" = some name) :
    Mentions (readPackage name raw) (fileMentions raw) := by
  unfold readPackage
  refine optionOf?_after ?_
  unfold fileMentions
  rw [hname]
  cases namedOption? raw with
  | some option => exact bindOption_mentions option
  | none =>
    cases name with
    | str file => exact bindDirectory_mentions file
    | _ => exact Mentions.throw _ _

theorem readMessage_mentions (part : Text) (owner : GoPackage) (raw : Json) :
    Mentions (readMessage part owner raw) (messageMentions raw) := by
  unfold readMessage
  refine require_after fun name _ => optionOf?_after ?_
  unfold messageMentions
  cases namedOption? raw with
  | some option => exact (bindOption_mentions option).followed fun p => Quiet.pure _
  | none => exact Mentions.pure _

theorem readMethod_mentions (part : Text) (owner : GoPackage) (raw : Json) :
    Mentions (readMethod part owner raw) ((messagesOf raw).flatMap messageMentions) := by
  unfold readMethod
  refine require_after fun name _ => require_after fun request hrequest => ?_
  have hmessages : (messagesOf raw).flatMap messageMentions = messageMentions request ++
      (raw.field? "response_type").toList.flatMap messageMentions := by
    simp [messagesOf, hrequest]
  rw [hmessages]
  refine (readMessage_mentions _ owner request).seq fun m => ?_
  refine require_after fun response hresponse => ?_
  rw [hresponse, Option.toList_some, List.flatMap_singleton]
  exact (readMessage_mentions _ owner response).followed fun m' =>
    (readRule?_quiet _ _).seq fun http? => Quiet.pure _

theorem readService_mentions (file : Text) (owner : GoPackage) (raw : Json) :
    Mentions (readService file owner raw)
      ((raw.itemsUnder "methods").flatMap fun m => (messagesOf m).flatMap messageMentions) := by
  unfold readService
  refine require_after fun name _ => listUnder_after ?_
  exact (Mentions.mapM (readMethod_mentions _ owner) _).followed fun methods => Quiet.pure _

theorem read_mentions (raw : Json) : Mentions (read raw)
    (fileMentions raw ++ (raw.itemsUnder "services").flatMap fun v =>
      (v.itemsUnder "methods").flatMap fun m => (messagesOf m).flatMap messageMentions) := by
  unfold read
  refine require_after fun name hname => ?_
  refine (readPackage_mentions hname).seq fun package => listUnder_after ?_
  exact (Mentions.mapM (readService_mentions _ package) _).followed fun services => Quiet.pure _

/-- **The names of all paths after a document**: those from before, and the first ones that it
mentions. -/
theorem readSet_mentions (document : Json) : Mentions (readSet document) (mentions document) := by
  unfold readSet
  refine require_after fun v hv => ?_
  split
  · rename_i files
    have hitems : document.itemsUnder "files" = files := by
      unfold Json.itemsUnder
      rw [hv]
    unfold mentions gather
    rw [hitems]
    exact Mentions.mapM read_mentions files
  · exact Mentions.throw _ _

/-! ## Which package a part has -/

/-- The package has the path that the object names. -/
def HasNamedPath (raw : Json) (p : GoPackage) : Prop :=
  ∀ option, HasOption raw option → p.path = (GoPackage.splitOption option).1

theorem MirrorsMethod.named {m : Method} (h : MirrorsMethod owner raw m) :
    List.Forall₂ HasNamedPath ((messagesOf raw).flatMap fun q => [q]) m.packages := by
  obtain ⟨q, hq, hrequest⟩ := h.request
  obtain ⟨r, hr, hresponse⟩ := h.response
  have hmessages : (messagesOf raw).flatMap (fun q => [q]) = [q, r] := by
    simp [messagesOf, hq, hr]
  rw [hmessages]
  exact .cons hrequest.named (.cons hresponse.named .nil)

/-- The parts of a document and the packages that were read for them go along. -/
theorem MirrorsSet.named (h : MirrorsSet document ds) :
    List.Forall₂ HasNamedPath (parts document) (ds.flatMap Descriptor.packages) := by
  refine List.rel_flatMap h fun f d hfile => .cons hfile.package.named ?_
  refine List.rel_flatMap hfile.services fun v service hservice => ?_
  exact List.rel_flatMap hservice.methods fun m method hmethod => hmethod.named

/-- **Every package that is read has the first name that the document gives its path**, unless the
table had one. -/
theorem readSet_name (hvalid : s.imports.Valid) (h : (readSet document).result s = .ok ds)
    {d : Descriptor} (hd : d ∈ ds) {p : GoPackage} (hp : p ∈ d.packages) :
    (s.imports.declared? p.path).or ((mentions document).lookup p.path) = some p.name := by
  rw [← readSet_mentions document s ds h p.path]
  have hread := readSet_ensures (s := s) document
  have hmem := (hread.grows.valid hvalid).package?_eq_some_iff.mpr ⟨hread.gives ds h d hd p hp, rfl⟩
  unfold ImportTable.declared?
  rw [hmem]
  rfl

/-- **Whether a name that is written out counts.** When a document is read with an empty table, its
files and messages have packages in the order of the document. Where an option gives a path and a
name, the package has the path, and it has the name iff the first mention of the path in the
document gives that name. Every wiring of a file declares the name of the file's package. -/
theorem readSet_explicit_iff (hempty : s.imports = ∅) (h : (readSet document).result s = .ok ds) :
    List.Forall₂ (fun raw p => ∀ path name, explicit? raw = some (path, name) →
        p.path = path ∧ (p.name = name ↔ (mentions document).lookup path = some name))
      (parts document) (ds.flatMap Descriptor.packages) ∧
    ∀ d ∈ ds, ∀ common swagger s' w ps,
      (Wiring.parameters d common swagger).result s' = .ok w → Wiring.pieces w = .ok ps →
        ([.text "package ", .text d.package.name, .text "\n"] : List Piece) <:+: ps := by
  constructor
  · have hmirrors := ((readSet_judges document).gives s ds h).2.2.named
    have hnames : ∀ p ∈ ds.flatMap Descriptor.packages,
        (mentions document).lookup p.path = some p.name := by
      intro p hp
      obtain ⟨d, hd, hp⟩ := List.mem_flatMap.mp hp
      have hname := readSet_name (hempty ▸ ImportTable.valid_empty) h hd hp
      rwa [hempty] at hname
    refine List.Forall₂.flip (((List.forall₂_and_left _ _).mpr ⟨hnames, hmirrors.flip⟩).imp ?_)
    rintro p raw ⟨hname, hpath⟩ path name hexplicit
    obtain ⟨option, hoption, hsplit⟩ := hasOption_of_explicit hexplicit
    have hp : p.path = path := by rw [hpath option hoption, hsplit]
    refine ⟨hp, ?_⟩
    rw [← hp, hname, Option.some.injEq]
  · intro d hd common swagger s' w ps hw hps
    have hclause := Wiring.clause_infix hps
    rwa [Wiring.file_eq hw] at hclause

/-- A document of two files with package options. -/
def twoOptions (first second : Text) : Json :=
  .obj [("files", .arr [.obj [("name", .str "a.proto"), ("go_package", .str first)],
    .obj [("name", .str "b.proto"), ("go_package", .str second)]])]

/-- A name that is written out first counts. -/
theorem readSet_explicit_first :
    ∃ ds, (readSet (twoOptions "x/p;q" "x/p")).result {} = .ok ds ∧
      ∃ p q, ds.flatMap Descriptor.packages = [p, q] ∧
        p.path = ("x/p" : Text) ∧ p.name = ("q" : Text) := by
  have hread : ((readSet (twoOptions "x/p;q" "x/p")).result {}).toOption.map List.length = some 2 :=
    by decide +kernel
  obtain ⟨ds, hds, -⟩ := exists_ok_of_map hread
  have hnamed := (readSet_explicit_iff rfl hds).1
  have hparts : parts (twoOptions "x/p;q" "x/p") =
      (twoOptions "x/p;q" "x/p").itemsUnder "files" := rfl
  rw [hparts] at hnamed
  obtain ⟨p, ps, hp, hps, hall⟩ := List.forall₂_cons_left_iff.mp hnamed
  obtain ⟨q, qs, -, hqs, rfl⟩ := List.forall₂_cons_left_iff.mp hps
  obtain rfl := List.forall₂_nil_left_iff.mp hqs
  obtain ⟨hpath, hname⟩ := hp "x/p" "q" (by decide +kernel)
  exact ⟨ds, hds, p, q, hall, hpath, hname.mpr (by decide +kernel)⟩

/-- A name that is written out after the path was mentioned without one does not count, even if it
is the only name that any option gives the path. -/
theorem readSet_explicit_late :
    (parts (twoOptions "x/p" "x/p;q")).filterMap explicit? =
        [(Text.ofString "x/p", Text.ofString "q")] ∧
      ((readSet (twoOptions "x/p" "x/p;q")).result {}).toOption.map
          (fun ds => ds.map fun d => (d.package.path, d.package.name)) =
        some [(Text.ofString "x/p", Text.ofString "p"), ("x/p", "p")] := by
  decide +kernel

end Descriptor

end ServiceWiring
