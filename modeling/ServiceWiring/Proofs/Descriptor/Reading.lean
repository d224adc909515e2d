import ServiceWiring.Proofs.Descriptor.Grammar
import ServiceWiring.Proofs.ImportTable.Lookup
import ServiceWiring.Proofs.Session.Verdict

/-!
# What is read of a document

Reading accepts exactly the descriptor sets, as long as it never needs a text where there is none.
For each part of a document one lemma says what reading makes of it: it `Judges` the part by its
grammar and by what is needed as a text, and gives what mirrors the part.

Headline:
* **`readSet_grammar`**: where names and options are texts a flaw is reported iff the document is no
  descriptor set, and every descriptor set is read as it stands.
-/

namespace ServiceWiring.Descriptor

open SessionM (Judges)

variable {document raw name : Json} {owner : GoPackage} {part key : Text}

/-! ## Required values and lists -/

theorem require_judges (part key : Text) (raw : Json) : Judges (require part key raw)
    (raw.field? key).isSome True fun v => raw.field? key = some v := by
  unfold require
  cases raw.field? key with
  | some v => exact (Judges.pure rfl).congr (by simp) Iff.rfl fun _ h => congrArg some h
  | none => exact Judges.throw_flawed _ (by simp)

/-- What is made of the value under a key, which must be there. -/
theorem require_seq {β : Type} (fits : Json → Prop) {fine : Prop} {R : β → Prop}
    {f : Json → SessionM β} (h : ∀ v, raw.field? key = some v → Judges (f v) (fits v) fine R) :
    Judges (require part key raw >>= f) (∃ v, raw.field? key = some v ∧ fits v) fine R := by
  unfold require
  cases hv : raw.field? key with
  | some v =>
    rw [pure_bind]
    exact (h v hv).congr (by simp) Iff.rfl fun _ hR => hR
  | none => exact Judges.throw_flawed _ (by simp)

theorem listUnder_judges (part key : Text) (raw : Json) :
    Judges (listUnder part key raw) (IsListUnder key raw) True (· = raw.itemsUnder key) := by
  unfold listUnder IsListUnder Json.itemsUnder
  split <;> rename_i hv <;> rw [hv]
  · exact (Judges.pure rfl).congr (by simp) Iff.rfl fun _ h => h.symm
  · exact (Judges.pure rfl).congr (by simp) Iff.rfl fun _ h => h.symm
  · rename_i v hnot
    exact Judges.throw_flawed _ fun h => (h v rfl).elim hnot

/-! ## Packages -/

theorem bind_judges {path : Text} (name? : Option Text) :
    Judges (SessionM.bind path name?) True True (·.path = path) :=
  Judges.of_ok (fun s => ⟨_, rfl, ImportTable.path_bind s.imports path name?⟩) fun _ => rfl

theorem optionOf?_judges (raw : Json) :
    Judges (optionOf? raw) True (OptionReadable raw)
      fun option? => ∀ option, option? = some option ↔ HasOption raw option := by
  unfold optionOf? OptionReadable HasOption
  split
  · rename_i hv
    refine (Judges.pure fun option => ?_).congr Iff.rfl (by simp [hv]) fun _ h => h
    simp [hv]
  · rename_i t hv
    refine (Judges.pure fun option => ?_).congr Iff.rfl (by simp [hv]) fun _ h => h
    rw [hv]
    cases t with
    | nil => simp
    | cons c r => simpa using fun h => h ▸ List.cons_ne_nil c r
  · rename_i v hnot hv
    have hother (option : Text) : v ≠ .str option := fun h => hnot option h
    split
    · rename_i htruthy
      refine Judges.throw_stray (Or.inr rfl) fun h => ?_
      obtain ⟨option, hoption⟩ := h v hv htruthy
      exact hother option hoption
    · rename_i htruthy
      refine (Judges.pure fun option => ?_).congr Iff.rfl ?_ fun _ h => h
      · simpa [hv] using fun h => absurd h (hother option)
      · simpa [hv] using fun h => absurd h htruthy

theorem bindOption_judges (option : Text) :
    Judges (bindOption option) True True (·.path = (GoPackage.splitOption option).1) :=
  bind_judges _

theorem bindDirectory_judges (file : Text) : Judges (bindDirectory file) True True
    (·.path = if Path.directory file = [] then Text.ofString "." else Path.directory file) := by
  refine (bind_judges _).congr Iff.rfl Iff.rfl fun p h => ?_
  simpa [List.isEmpty_iff] using h

/-- The package of a file, with its name given. -/
theorem readPackage_judges (name raw : Json) :
    Judges (readPackage name raw) True
      (OptionReadable raw ∧ ((∀ option, ¬HasOption raw option) → ∃ file, name = .str file))
      (MirrorsPackage name raw) := by
  unfold readPackage
  refine ((optionOf?_judges raw).seq fun option? hoption =>
    (?_ : Judges _ True _ _)).congr (by simp) Iff.rfl fun _ h => h
  cases option? with
  | some option =>
    have hnamed := (hoption option).mp rfl
    have hunique (option' : Text) (h : HasOption raw option') : option' = option := by
      have := (hoption option').mpr h
      simpa using this.symm
    refine (bindOption_judges option).congr Iff.rfl ?_ fun p hp => ⟨?_, ?_⟩
    · simp only [true_iff]
      exact fun h => absurd hnamed (h option)
    · intro option' h
      rwa [hunique option' h]
    · exact fun h => absurd hnamed (h option)
  | none =>
    have hnone (option : Text) : ¬HasOption raw option := by
      simp [← hoption]
    simp only
    split
    · rename_i file
      refine (bindDirectory_judges file).congr Iff.rfl ?_ fun p hp => ⟨?_, ?_⟩
      · simp
      · exact fun option h => absurd h (hnone option)
      · exact fun _ => ⟨file, rfl, hp⟩
    · rename_i hnot
      refine Judges.throw_stray (Or.inl rfl) fun h => ?_
      obtain ⟨file, hfile⟩ := h hnone
      exact hnot file hfile

/-! ## Methods -/

theorem readMessage_judges (part : Text) (owner : GoPackage) (raw : Json) :
    Judges (readMessage part owner raw) (IsMessage raw) (OptionReadable raw)
      (MirrorsMessage owner raw) := by
  unfold readMessage
  refine ((require_judges part "name" raw).seq fun name hname =>
    (?_ : Judges _ True (OptionReadable raw) _)).congr (by simp [IsMessage]) (by simp) fun _ h => h
  refine ((optionOf?_judges raw).seq fun option? hoption =>
    (?_ : Judges _ True True _)).congr (by simp) (by simp) fun _ h => h
  cases option? with
  | some option =>
    have hnamed := (hoption option).mp rfl
    refine ((bindOption_judges option).seq fun p hp => Judges.pure ?_).congr (by simp) (by simp)
      fun _ h => h
    refine ⟨hname, fun option' h => ?_, fun h => absurd hnamed (h option)⟩
    obtain rfl := Option.some.inj ((hoption option').mpr h)
    exact hp
  | none =>
    refine Judges.pure ⟨hname, fun option h => ?_, fun _ => rfl⟩
    cases (hoption option).mpr h

theorem ofText?_eq_some_iff {t : Text} {verb : Verb} :
    Verb.ofText? t = some verb ↔ verb.toText = t := by
  constructor
  · intro h
    simpa using List.find?_some h
  · rintro rfl
    cases verb <;> decide

theorem readRule_judges (part : Text) (raw : Json) :
    Judges (readRule part raw) (IsBinding raw) True (MirrorsRule raw) := by
  unfold readRule
  refine (require_seq (fun v => (∃ verb : Verb, verb.toText = v.display.lower) ∧
    (raw.field? "path").isSome) fun v hv => ?_).congr ?_ Iff.rfl
    fun _ h => h
  · simp only
    cases hverb : Verb.ofText? v.display.lower with
    | none =>
      refine Judges.throw_flawed _ ?_
      rintro ⟨⟨verb, h⟩, -⟩
      cases hverb.symm.trans (ofText?_eq_some_iff.mpr h)
    | some verb =>
      have htext := ofText?_eq_some_iff.mp hverb
      refine ((require_judges part "path" raw).seq fun path hpath => Judges.pure ?_).congr ?_
        (by simp) fun _ h => h
      · exact ⟨⟨v, hv, htext⟩, hpath, rfl⟩
      · simpa using fun _ => ⟨verb, htext⟩
  · unfold IsBinding
    constructor
    · rintro ⟨v, hv, hverb, hpath⟩
      exact ⟨⟨v, hv, hverb⟩, hpath⟩
    · rintro ⟨⟨v, hv, hverb⟩, hpath⟩
      exact ⟨v, hv, hverb, hpath⟩

/-- The binding of a method, which is left out where nothing or null stands. -/
theorem readRule?_judges (part : Text) (raw? : Option Json) :
    Judges (readRule? part raw?) (∀ b, raw? = some b → b = .null ∨ IsBinding b) True fun rule? =>
      (rule? = none ↔ raw? = none ∨ raw? = some .null) ∧
        ∀ r, rule? = some r → ∃ b, raw? = some b ∧ MirrorsRule b r := by
  unfold readRule?
  split
  · exact (Judges.pure ⟨by simp, by simp⟩).congr (by simp) Iff.rfl fun _ h => h
  · exact (Judges.pure ⟨by simp, by simp⟩).congr (by simp) Iff.rfl fun _ h => h
  · rename_i raw hnull
    rw [← bind_pure_comp]
    refine ((readRule_judges part raw).seq fun r hr => Judges.pure (a := some r) ?_).congr ?_
      (by simp) fun _ h => h
    · refine ⟨by simpa using hnull, fun r' h => ⟨raw, rfl, ?_⟩⟩
      obtain rfl := Option.some.inj h
      exact hr
    · have hne : raw ≠ .null := hnull
      simp [hne]

/-- What is made of the message under a key, which must be there. -/
theorem message_seq {β : Type} {fits fine : Prop} {R : β → Prop} {f : Message → SessionM β}
    (h : ∀ m, (∃ q, raw.field? key = some q ∧ MirrorsMessage owner q m) →
      Judges (f m) fits fine R) :
    Judges (require part key raw >>= fun q => readMessage part owner q >>= f)
      ((∃ q, raw.field? key = some q ∧ IsMessage q) ∧ fits)
      ((∀ q, raw.field? key = some q → OptionReadable q) ∧ fine) R := by
  rw [← bind_assoc]
  refine Judges.seq (Q := fun m => ∃ q, raw.field? key = some q ∧ MirrorsMessage owner q m) ?_ h
  refine require_seq _ fun q hq => ?_
  exact (readMessage_judges part owner q).congr Iff.rfl (by simp [hq]) fun m hm => ⟨q, hq, hm⟩

theorem readMethod_judges (part : Text) (owner : GoPackage) (raw : Json) :
    Judges (readMethod part owner raw) (IsMethod raw) (∀ q ∈ messagesOf raw, OptionReadable q)
      (MirrorsMethod owner raw) := by
  unfold readMethod
  refine ((require_judges part "name" raw).seq fun name hname =>
    message_seq fun request hrequest => message_seq fun response hresponse =>
      (readRule?_judges _ _).seq fun http? hhttp =>
        Judges.pure ⟨hname, hrequest, hresponse, hhttp.1, hhttp.2⟩).congr ?_ ?_ fun _ h => h
  · constructor
    · rintro ⟨hname, hrequest, hresponse, hbinding, -⟩
      exact ⟨hname, hrequest, hresponse, hbinding⟩
    · rintro ⟨hname, hrequest, hresponse, hbinding⟩
      exact ⟨hname, hrequest, hresponse, hbinding, trivial⟩
  · simp only [messagesOf, List.forall_mem_append, Option.mem_toList, true_and, and_true]

/-! ## Services and files -/

/-- What is made of the items of the list under a key. -/
theorem list_seq {α β : Type} {fits fine : Prop} {fitsItem fineItem : Json → Prop}
    {Q : Json → α → Prop} {R : β → Prop} {g : Json → SessionM α} {f : List α → SessionM β}
    (hg : ∀ item, Judges (g item) (fitsItem item) (fineItem item) (Q item))
    (hf : ∀ as, List.Forall₂ Q (raw.itemsUnder key) as → Judges (f as) fits fine R) :
    Judges (listUnder part key raw >>= fun items => items.mapM g >>= f)
      (IsListUnder key raw ∧ (∀ item ∈ raw.itemsUnder key, fitsItem item) ∧ fits)
      ((∀ item ∈ raw.itemsUnder key, fineItem item) ∧ fine) R := by
  have hitems (items : List Json) (h : items = raw.itemsUnder key) :
      Judges (items.mapM g >>= f) ((∀ item ∈ raw.itemsUnder key, fitsItem item) ∧ fits)
        ((∀ item ∈ raw.itemsUnder key, fineItem item) ∧ fine) R := by
    rw [h]
    exact (Judges.mapM hg).seq hf
  exact ((listUnder_judges part key raw).seq hitems).congr Iff.rfl (by simp) fun _ h => h

theorem readService_judges (file : Text) (owner : GoPackage) (raw : Json) :
    Judges (readService file owner raw) (IsService raw)
      (∀ m ∈ raw.itemsUnder "methods", ∀ q ∈ messagesOf m, OptionReadable q)
      (MirrorsService owner raw) := by
  unfold readService
  refine ((require_judges file "name" raw).seq fun name hname =>
    list_seq (readMethod_judges _ owner) fun methods hmethods =>
      Judges.pure ⟨hname, hmethods⟩).congr ?_ (by simp) fun _ h => h
  constructor
  · rintro ⟨hname, hlist, hmethods, -⟩
    exact ⟨hname, hlist, hmethods⟩
  · rintro ⟨hname, hlist, hmethods⟩
    exact ⟨hname, hlist, hmethods, trivial⟩

theorem read_judges (raw : Json) :
    Judges (read raw) (IsFile raw) (FileReadable raw ∧ ∀ v ∈ raw.itemsUnder "services",
      ∀ m ∈ v.itemsUnder "methods", ∀ q ∈ messagesOf m, OptionReadable q) (MirrorsFile raw) := by
  unfold read
  refine (require_seq (fun _ => IsListUnder "services" raw ∧
    ∀ v ∈ raw.itemsUnder "services", IsService v) fun name hname => ?_).congr ?_ Iff.rfl
    fun _ h => h
  · refine ((readPackage_judges name raw).seq fun package hpackage =>
      list_seq (readService_judges _ package) fun services hservices =>
        Judges.pure ⟨hname, hpackage, hservices⟩).congr (by simp) ?_ fun _ h => h
    unfold FileReadable NameIsText
    simp [hname]
  · constructor
    · rintro ⟨name, hname, hlist, hservices⟩
      exact ⟨by simp [hname], hlist, hservices⟩
    · rintro ⟨hname, hlist, hservices⟩
      obtain ⟨name, hname⟩ := Option.isSome_iff_exists.mp hname
      exact ⟨name, hname, hlist, hservices⟩

/-- **Reading judges a document by the grammar of descriptor sets**, and by whether it ever needs a
text where there is none. -/
theorem readSet_judges (document : Json) :
    Judges (readSet document) (IsSet document) (Readable document) (MirrorsSet document) := by
  unfold readSet
  refine (require_seq (fun v => ∃ files, v = .arr files ∧ ∀ f ∈ files, IsFile f)
    fun v hv => ?_).congr ?_ Iff.rfl fun _ h => h
  · split
    · rename_i files
      have hitems : document.itemsUnder "files" = files := by
        unfold Json.itemsUnder
        rw [hv]
      refine (Judges.mapM read_judges).congr (by simp) ?_ fun ds hds => ?_
      · unfold Readable Throughout
        rw [hitems]
      · unfold MirrorsSet
        rwa [hitems]
    · rename_i hnot
      exact Judges.throw_flawed _ fun ⟨files, hfiles, _⟩ => hnot files hfiles
  · unfold IsSet
    simp

/-- **Reading accepts exactly the descriptor sets.** Where the names of files are texts and package
options are texts or null, reading a document from whatever session reports a flaw iff the document
is no descriptor set. A descriptor set is read: what is read has its files, services and methods in
their order, with their bindings, and each message has the package that it names, or else that of
its file. -/
theorem readSet_grammar (h : WellTyped document) (s : Session) :
    ((∃ f, (readSet document).result s = .error (.flawed f)) ↔ ¬IsSet document) ∧
      (IsSet document → ∃ ds, (readSet document).result s = .ok ds ∧ MirrorsSet document ds) :=
  ⟨(readSet_judges document).flawed_iff h.readable s,
    fun hset => (readSet_judges document).exists_ok hset h.readable s⟩

/-- A method that is bound, takes a message of its file and gives one from elsewhere. -/
def boundMethod : Json :=
  .obj [("name", .str "Find"), ("request_type", .obj [("name", .str "Query"),
      ("go_package", .null)]),
    ("response_type", .obj [("name", .str "Pet"), ("go_package", .str "x/pets;p")]),
    ("http", .obj [("method", .str "Get"), ("path", .str "/pets")])]

/-- A service with that method. -/
def boundService : Json := .obj [("name", .str "Pets"), ("methods", .arr [boundMethod])]

/-- A file that holds the services. -/
def fileOf (services : Json) : Json :=
  .obj [("name", .str "shop/pets.proto"), ("services", services)]

/-- A set of that file. -/
def setOf (services : Json) : Json := .obj [("files", .arr [fileOf services])]

theorem wellTyped_setOf {services : Json} (h : ∀ v ∈ (fileOf services).itemsUnder "services",
    ∀ m ∈ v.itemsUnder "methods", ∀ q ∈ messagesOf m, OptionIsText q) :
    WellTyped (setOf services) := by
  intro f hf
  obtain rfl := List.mem_singleton.mp hf
  refine ⟨⟨fun v hv => ⟨_, (Option.some.inj hv).symm⟩, fun v hv => ?_⟩, h⟩
  cases hv

theorem isService_boundService : IsService boundService where
  name := rfl
  list := fun _ hv => ⟨_, (Option.some.inj hv).symm⟩
  methods := by
    refine List.forall_mem_singleton.mpr ⟨rfl, ⟨_, rfl, rfl⟩, ⟨_, rfl, rfl⟩, fun b hb => ?_⟩
    obtain rfl := Option.some.inj hb
    exact Or.inr ⟨⟨_, rfl, .get, by decide⟩, rfl⟩

theorem readSet_grammar_setOf :
    (∃ ds, (readSet (setOf (.arr [boundService]))).result {} = .ok ds ∧ ds.length = 1) ∧
      ∃ f, (readSet (setOf .null)).result {} = .error (.flawed f) := by
  constructor
  · have htyped : WellTyped (setOf (.arr [boundService])) := by
      refine wellTyped_setOf (List.forall_mem_singleton.mpr (List.forall_mem_singleton.mpr ?_))
      refine List.forall_mem_cons.mpr ⟨fun v hv => ?_, List.forall_mem_singleton.mpr fun v hv => ?_⟩
      · exact Or.inl (Option.some.inj hv).symm
      · exact Or.inr ⟨_, (Option.some.inj hv).symm⟩
    have hset : IsSet (setOf (.arr [boundService])) := by
      refine ⟨_, rfl, List.forall_mem_singleton.mpr ⟨rfl, fun v hv => ?_, ?_⟩⟩
      · exact ⟨_, (Option.some.inj hv).symm⟩
      · exact List.forall_mem_singleton.mpr isService_boundService
    obtain ⟨ds, hds, hmirrors⟩ := (readSet_grammar htyped {}).2 hset
    exact ⟨ds, hds, hmirrors.length_eq.symm⟩
  · refine (readSet_grammar (wellTyped_setOf fun v hv => by cases hv) {}).1.mpr ?_
    rintro ⟨files, hfiles, hall⟩
    obtain rfl := Json.arr.inj (Option.some.inj hfiles)
    obtain ⟨items, hitems⟩ := (hall _ (List.mem_singleton.mpr rfl)).list .null rfl
    cases hitems

end ServiceWiring.Descriptor
