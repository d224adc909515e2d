import ServiceWiring.Proofs.Session.Calls
import ServiceWiring.Proofs.Text.Number

/-!
# Names without dots and hyphens

A Go name holds neither a dot nor a hyphen. Reading replaces both in a name that is made from a
path, and so it is with the name of a stub's package. The path of a wiring that a stub imports is
asked for without a name, and then the table takes the last name of the path as it stands. So a stub
may import its wiring as `go-pb`, which does not compile.

Results:
* `Call.MayBind.isSanitized_iff`: a number behind a name adds no dot and no hyphen.
* `isSanitized_of_wantsSanitized`: where the written names are fit, so are all names that the steps
  want.

Headline:
* **`sanitized_unless_wiring`**: where the written names are fit, the only unfit ones that are
  imported are those of wirings to which stubs refer, and they are unfit iff the last names of the
  paths are.
-/

namespace ServiceWiring

open ImportTable (Call wantedName numbered)

/-! ## Names that are fit -/

/-- The name holds no dot and no hyphen. -/
def Go.IsSanitized (name : Text) : Prop :=
  CodePoint.ofChar '.' ∉ name ∧ CodePoint.ofChar '-' ∉ name

instance (name : Text) : Decidable (Go.IsSanitized name) :=
  inferInstanceAs (Decidable (_ ∧ _))

theorem Go.isSanitized_append {a b : Text} :
    IsSanitized (a ++ b) ↔ IsSanitized a ∧ IsSanitized b := by
  unfold IsSanitized
  simp only [List.mem_append, not_or]
  exact and_and_and_comm

/-- A name that is made from a path is fit. -/
theorem Go.isSanitized_packageName (path : Text) : IsSanitized (packageName path) := by
  have hmap (name : Text) (c : CodePoint) (hc : c.val = 0x2E ∨ c.val = 0x2D) :
      c ∉ name.map fun c => if c.val = 0x2E || c.val = 0x2D then 0x5F else c := by
    intro hmem
    obtain ⟨b, -, hb⟩ := List.mem_map.mp hmem
    split at hb
    · subst hb
      exact absurd hc (by decide)
    · rename_i hne
      subst hb
      exact hne (by simpa using hc)
  unfold packageName
  simp only
  split
  · decide
  · exact ⟨hmap _ _ (Or.inl rfl), hmap _ _ (Or.inr rfl)⟩

theorem ImportTable.isSanitized_numbered {name : Text} {i : Nat} :
    Go.IsSanitized (numbered name i) ↔ Go.IsSanitized name := by
  have hdigits : Go.IsSanitized (Text.ofNat i) :=
    ⟨fun h => absurd (Text.isDigit_of_mem_ofNat h) (by decide),
      fun h => absurd (Text.isDigit_of_mem_ofNat h) (by decide)⟩
  unfold numbered
  rw [Go.isSanitized_append, Go.isSanitized_append]
  exact ⟨fun h => h.1.1, fun h => ⟨⟨h, by decide⟩, hdigits⟩⟩

/-- What a call may bind is fit iff what it wants is. -/
theorem ImportTable.Call.MayBind.isSanitized_iff {c : Call} {short : Text} (h : c.MayBind short) :
    Go.IsSanitized short ↔ Go.IsSanitized c.wanted := by
  rcases h with rfl | ⟨i, rfl⟩
  · exact Iff.rfl
  · exact isSanitized_numbered

/-! ## Names that steps want -/

/-- The names that the options of the objects write out are fit. -/
def WritesSanitized (parts : List Json) : Prop :=
  ∀ q ∈ parts, ∀ path name, Descriptor.explicit? q = some (path, name) → Go.IsSanitized name

/-- The names that a step gives are fit: those written out in what it reads, and those of calls. -/
def Step.WantsSanitized : Step → Prop
  | .read raw => WritesSanitized (Descriptor.partsOf raw)
  | .readSet document => WritesSanitized (Descriptor.parts document)
  | step => ∀ c ∈ step.calls, Go.IsSanitized c.wanted

theorem Descriptor.explicit_ne_nil {raw : Json} {path name : Text}
    (h : explicit? raw = some (path, name)) : name ≠ [] := by
  obtain ⟨option, -, hsplit⟩ := hasOption_of_explicit h
  have hne := GoPackage.name_splitOption_ne_nil option
  rwa [hsplit] at hne

theorem Descriptor.wanted_binding {m : Text × Text} (h : m.2 ≠ []) : (binding m).wanted = m.2 := by
  simp [binding, Call.wanted, wantedName, h]

theorem Descriptor.isSanitized_mention {raw : Json} (h : WritesSanitized (partsOf raw))
    {m : Text × Text} (hm : m ∈ mentionsOf raw) : Go.IsSanitized (binding m).wanted := by
  rcases mention_origin hm with ⟨q, hq, hexplicit⟩ | ⟨path, hname⟩
  · rw [wanted_binding (explicit_ne_nil hexplicit)]
    exact h q hq m.1 m.2 hexplicit
  · rw [wanted_binding (hname ▸ Go.packageName_ne_nil path), hname]
    exact Go.isSanitized_packageName path

/-- **Where the written names are fit, so are all names that the step wants.** -/
theorem isSanitized_of_wantsSanitized {step : Step} (h : step.WantsSanitized) :
    ∀ c ∈ step.calls, Go.IsSanitized c.wanted := by
  cases step with
  | read raw =>
    intro c hc
    obtain ⟨m, hm, rfl⟩ := List.mem_map.mp hc
    exact Descriptor.isSanitized_mention h hm
  | readSet document =>
    intro c hc
    obtain ⟨m, hm, rfl⟩ := List.mem_map.mp hc
    rw [Descriptor.mentions_eq] at hm
    obtain ⟨raw, hraw, hm⟩ := List.mem_flatMap.mp hm
    refine Descriptor.isSanitized_mention (fun q hq => h q ?_) hm
    rw [Descriptor.parts_eq]
    exact List.mem_flatMap.mpr ⟨raw, hraw, hq⟩
  | reserve | bind | bindCommon | wiring | stub | create | generate | outside => exact h

/-- What artifacts always import goes by fit names. -/
theorem isSanitized_standardCalls : ∀ c ∈ standardCalls, Go.IsSanitized c.wanted := by
  decide

/-! ## Names that are imported -/

variable {d : Descriptor} {common : List GoPackage} {site : Stub.Site} {s : Session}
  {path : Text}

/-- The wiring of a stub is called as its path ends, up to a number, unless the path had a name. -/
theorem stub_wiring_mayBind (ht : s.imports.Valid) (hc : ∀ p ∈ common, p ∈ s.imports.packages)
    (hd : ∀ p ∈ d.packages, p ∈ s.imports.packages) (hpath : site.importedWiring? d = some path)
    (hnew : s.imports.nameOf? path = none) :
    ∃ r, (Stub.parameters d common site).result s = .ok r ∧
      ∃ g, r.RefersTo g ∧ g.path = path ∧ (Call.bind path none).MayBind g.shortName := by
  obtain ⟨wiringPath, hsite⟩ := Stub.Site.wiringPath?_of_importedWiring? hpath
  obtain ⟨r, hr⟩ := stub_parameters_total hsite d common s
  obtain ⟨g, hg, rfl, hqualifier⟩ := stub_wiring_mem ht hc hd hr hpath
  -- All calls of a stub ask for paths without a name, so one for this path wants its last name.
  have hstub : SessionM.Ensures (fun c => ∃ path, c = .bind path none)
      (Stub.parameters d common site) s _ :=
    stub_parameters_calls (fun path _ => ⟨path, rfl⟩) (fun path _ => ⟨path, rfl⟩) hc hd
  obtain ⟨-, himports, -⟩ := hstub.gives r hr
  obtain ⟨calls, hcalls, htable⟩ := hstub.grows
  have hmem := himports.packages g hg
  rw [htable] at hmem
  obtain ⟨c, hc, hcpath, hmay⟩ := ht.shortName_origin hmem hnew
  obtain ⟨path, rfl⟩ := hcalls c hc
  obtain rfl : path = g.path := hcpath
  exact ⟨r, hr, g, ⟨hg, hqualifier⟩, rfl, hmay⟩

/-- **Only names of wirings can be unfit.** Take any session in which the names that are written out
in options, reserved or asked for hold no dot and no hyphen. Whatever it assembles, a name that is
imported holds neither unless it is that of a wiring to which some stub of the session refers, by
the last name of its path. What stands before the names of a wiring is nothing or the name of an
import, with a dot. And the stub of a file that was read, if it imports its wiring by a path without
a name yet, can be assembled and refers to it by a fit name iff the last name of the path is fit. -/
theorem sanitized_unless_wiring (machine : Machine) (steps : List Step)
    (h : ∀ step ∈ steps, step.WantsSanitized) :
    let desk := (Desk.start machine).run steps
    (∀ a ∈ desk.assembled,
      (∀ g ∈ a.parameters.imports, ¬Go.IsSanitized g.shortName →
        (∃ b ∈ desk.assembled, b.parameters.RefersTo g) ∧
          (Call.bind g.path none).MayBind g.shortName ∧
          ¬Go.IsSanitized (wantedName g.path none)) ∧
      a.parameters.Qualified) ∧
    ∀ d ∈ desk.files, ∀ common ∈ desk.commons, ∀ site path,
      Stub.Site.importedWiring? site d = some path → desk.session.imports.nameOf? path = none →
        ∃ r, (Stub.parameters d common site).result desk.session = .ok r ∧
          ∃ g, r.RefersTo g ∧ g.path = path ∧
            (Go.IsSanitized g.shortName ↔ Go.IsSanitized (wantedName path none)) := by
  intro desk
  have hsound : desk.Sound fun _ => True := Desk.run_start_sound_any machine steps
  have hvalid := hsound.grown.valid ImportTable.valid_empty
  have haccounts : Accounts (fun c => Go.IsSanitized c.wanted) desk.assembled ∅
      desk.session.imports :=
    Desk.run_accounts machine isSanitized_standardCalls fun step hstep =>
      isSanitized_of_wantsSanitized (h step hstep)
  have hmem {a : Assembly} (ha : a ∈ desk.assembled) {g : GoPackage}
      (hg : g ∈ a.parameters.imports) : g ∈ desk.packages :=
    List.mem_append_right _ (List.mem_flatMap.mpr ⟨a, ha, hg⟩)
  refine ⟨fun a ha => ⟨fun g hg hunfit => ?_, haccounts.qualified a ha⟩,
    fun d hd common hc site path hpath hnew => ?_⟩
  · obtain ⟨calls, hcalls, htable⟩ := haccounts.grows
    have hbound := hsound.mem_packages (hmem ha hg)
    rw [show desk.session.imports = _ from htable] at hbound
    obtain ⟨c, hc, hcpath, hmay⟩ := ImportTable.valid_empty.shortName_origin hbound rfl
    rcases hcalls c hc with hfit | ⟨b, hb, g', hrefers, rfl⟩
    · exact absurd (hmay.isSanitized_iff.mpr hfit) hunfit
    · obtain rfl : g' = g := hsound.package_unique (hmem hb hrefers.mem) (hmem ha hg) hcpath
      exact ⟨⟨b, hb, hrefers⟩, hmay, fun hfit => hunfit (hmay.isSanitized_iff.mpr hfit)⟩
  · obtain ⟨r, hr, g, hrefers, hgpath, hmay⟩ :=
      stub_wiring_mayBind hvalid (hsound.commons common hc) (hsound.files d hd) hpath hnew
    exact ⟨r, hr, g, hrefers, hgpath, hmay.isSanitized_iff⟩

/-- A session that reads a file whose package is named by its option, and assembles a stub for a
wiring that goes to `go-pb`. -/
def hyphenated : List Step :=
  [.bindCommon commonPaths,
    .read (oneMethod "github.com/acme/svc;svc" (.obj [("name", .str "Req")])
      (.obj [("name", .str "Res")])),
    .stub 0 0 (acmeSite "go-pb")]

/-- The stub imports a wiring that goes to `go-pb` by an unfit name, and would import one that goes
to `pb` by a fit one. -/
theorem sanitized_unless_wiring_hyphenated :
    (∀ step ∈ hyphenated, step.WantsSanitized) ∧
      (∃ a ∈ ((Desk.start {}).run hyphenated).assembled, ∃ g ∈ a.parameters.imports,
        g.shortName = Text.ofString "go-pb" ∧
          ∃ b ∈ ((Desk.start {}).run hyphenated).assembled, b.parameters.RefersTo g) ∧
      ∃ d ∈ ((Desk.start {}).run hyphenated).files,
        ∃ common ∈ ((Desk.start {}).run hyphenated).commons,
          ∃ r, (Stub.parameters d common (acmeSite "pb")).result
              ((Desk.start {}).run hyphenated).session = .ok r ∧
            ∃ g, r.RefersTo g ∧ g.path = Text.ofString "github.com/acme/svc/pb" ∧
              Go.IsSanitized g.shortName := by
  have hwritten : ∀ q ∈ Descriptor.partsOf (oneMethod "github.com/acme/svc;svc"
      (.obj [("name", .str "Req")]) (.obj [("name", .str "Res")])),
      ∀ m ∈ Descriptor.explicit? q, Go.IsSanitized m.2 := by decide +kernel
  have hcommon : ∀ c ∈ (Step.bindCommon commonPaths).calls, Go.IsSanitized c.wanted := by decide
  have hwants : ∀ step ∈ hyphenated, step.WantsSanitized := by
    refine List.forall_mem_cons.mpr ⟨hcommon, List.forall_mem_cons.mpr ⟨?_, ?_⟩⟩
    · exact fun q hq path name hexplicit => hwritten q hq (path, name) hexplicit
    · exact List.forall_mem_singleton.mpr (by simp [Step.WantsSanitized, Step.calls])
  obtain ⟨himported, hnext⟩ := sanitized_unless_wiring {} hyphenated hwants
  have hstub : ∃ a ∈ ((Desk.start {}).run hyphenated).assembled, ∃ g ∈ a.parameters.imports,
      g.shortName = Text.ofString "go-pb" := by decide +kernel
  have hread : ∃ d ∈ ((Desk.start {}).run hyphenated).files,
      ∃ common ∈ ((Desk.start {}).run hyphenated).commons,
        (acmeSite "pb").importedWiring? d = some (Text.ofString "github.com/acme/svc/pb") ∧
        ((Desk.start {}).run hyphenated).session.imports.nameOf?
          (Text.ofString "github.com/acme/svc/pb") = none := by decide +kernel
  obtain ⟨a, ha, g, hg, hshort⟩ := hstub
  obtain ⟨d, hd, common, hc, hpath, hnew⟩ := hread
  obtain ⟨r, hr, g', hrefers, hgpath, hfit⟩ := hnext d hd common hc _ _ hpath hnew
  have hunfit : ¬Go.IsSanitized g.shortName := hshort ▸ by decide
  exact ⟨hwants, ⟨a, ha, g, hg, hshort, ((himported a ha).1 g hg hunfit).1⟩, d, hd, common, hc, r,
    hr, g', hrefers, hgpath, hfit.mpr (by decide)⟩

end ServiceWiring
