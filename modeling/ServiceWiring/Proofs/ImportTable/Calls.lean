import ServiceWiring.Proofs.ImportTable.Valid

/-!
# Runs of calls on an import table

A `Call` reserves a name or binds a path. `after` is the table that a list of calls leaves, and
`returned` the packages that its bindings gave. `Grows` relates a table to those that calls of some
kind make of it; whatever else uses a table only ever lets it grow.

Results:
* `Grows.valid`, `Grows.faithful`: a growing table stays valid, and faithful if it grows by
  bindings.
* `Grows.nameOf?`, `Grows.package?`: it keeps its names and packages.
* `name_of_mem_packages`: a package declares the name that some binding of its path wanted.
* `Valid.shortName_origin`: a package goes by a name that some call for its path may bind.
* `empty_name_cases`: how a path can come to be bound to the empty name.
* `path_eq_nil_of_shortName`, `shortName_ne_nil`: only the empty path can have a package that goes
  by it, and none can where every binding wants a name.
-/

namespace ServiceWiring.ImportTable

/-- A call on an import table. -/
inductive Call where
  /-- Reserves a name for a path. -/
  | reserve (name path : Text)
  /-- Asks for the package of a path. -/
  | bind (path : Text) (name? : Option Text)
deriving DecidableEq, Repr

/-- Whether the call is a binding. -/
def Call.isBind : Call → Bool
  | .reserve .. => false
  | .bind .. => true

/-- Whether the call is a binding that wants a name other than the empty one. -/
def Call.isProper : Call → Bool
  | .reserve .. => false
  | .bind path name? => wantedName path name? ≠ []

/-- The path that the call is for. -/
def Call.path : Call → Text
  | .reserve _ path | .bind path _ => path

/-- The name that the call wants for its path. -/
def Call.wanted : Call → Text
  | .reserve name _ => name
  | .bind path name? => wantedName path name?

/-- The call may bind its path to the name: it is the wanted one, or that with a number. -/
def Call.MayBind (c : Call) (short : Text) : Prop :=
  short = c.wanted ∨ ∃ i, short = numbered c.wanted i

/-- The table after one call. -/
def call (t : ImportTable) : Call → ImportTable
  | .reserve name path => (t.reserve name path).2
  | .bind path name? => (t.bind path name?).2

/-- The table after a list of calls. -/
def after (t : ImportTable) (calls : List Call) : ImportTable := calls.foldl call t

/-- The packages that the bindings of a list of calls give, in order. -/
def returned (t : ImportTable) : List Call → List GoPackage
  | [] => []
  | .reserve name path :: calls => returned (t.reserve name path).2 calls
  | .bind path name? :: calls => (t.bind path name?).1 :: returned (t.bind path name?).2 calls

/-- The second table is what calls of a kind make of the first. -/
def Grows (kind : Call → Prop) (t t' : ImportTable) : Prop :=
  ∃ calls, (∀ c ∈ calls, kind c) ∧ t' = t.after calls

variable {t t' t'' : ImportTable} {kind kind' : Call → Prop} {calls : List Call} {c : Call}
  {name path : Text} {name? : Option Text} {p q : GoPackage}

theorem Call.isBind_of_isProper (h : c.isProper) : c.isBind := by
  cases c with
  | reserve name path => exact absurd h (by simp [Call.isProper])
  | bind path name? => rfl

@[simp]
theorem after_nil (t : ImportTable) : t.after [] = t := rfl

@[simp]
theorem after_cons (t : ImportTable) (c : Call) (calls : List Call) :
    t.after (c :: calls) = (t.call c).after calls := rfl

theorem after_append (t : ImportTable) (xs ys : List Call) :
    t.after (xs ++ ys) = (t.after xs).after ys := List.foldl_append

namespace Grows

/-! ## Growing -/

theorem refl (kind : Call → Prop) (t : ImportTable) : Grows kind t t :=
  ⟨[], by simp, rfl⟩

theorem trans (h : Grows kind t t') (h' : Grows kind t' t'') : Grows kind t t'' := by
  obtain ⟨xs, hxs, rfl⟩ := h
  obtain ⟨ys, hys, rfl⟩ := h'
  refine ⟨xs ++ ys, fun c hc => ?_, (after_append t xs ys).symm⟩
  rcases List.mem_append.mp hc with hx | hy
  · exact hxs c hx
  · exact hys c hy

theorem mono (hk : ∀ c, kind c → kind' c) (h : Grows kind t t') : Grows kind' t t' := by
  obtain ⟨calls, hc, rfl⟩ := h
  exact ⟨calls, fun c hm => hk c (hc c hm), rfl⟩

theorem single (h : kind c) : Grows kind t (t.call c) :=
  ⟨[c], by simpa using h, rfl⟩

/-- **What each call keeps a growing table keeps.** -/
theorem keeps {P : ImportTable → Prop} (step : ∀ t c, kind c → P t → P (t.call c))
    (h : Grows kind t t') (ht : P t) : P t' := by
  obtain ⟨calls, hc, rfl⟩ := h
  induction calls generalizing t with
  | nil => exact ht
  | cons c calls ih =>
    exact ih (step t c (hc c List.mem_cons_self) ht) fun d hd => hc d (List.mem_cons_of_mem c hd)

/-! ## What growing keeps -/

theorem valid (h : Grows kind t t') (ht : t.Valid) : t'.Valid := by
  refine h.keeps (fun t c _ ht => ?_) ht
  cases c with
  | reserve name path => exact ht.reserve name path
  | bind path name? => exact ht.bind path name?

theorem faithful (h : Grows (·.isBind) t t') (ht : t.Faithful) : t'.Faithful := by
  refine h.keeps (fun t c hc ht => ?_) ht
  cases c with
  | reserve name path => exact absurd hc (by simp [Call.isBind])
  | bind path name? => exact ht.bind path name?

theorem nameOf? (h : Grows kind t t') (hn : t.nameOf? path = some name) :
    t'.nameOf? path = some name := by
  refine h.keeps (P := fun t => t.nameOf? path = some name) (fun t c _ ht => ?_) hn
  cases c with
  | reserve n p => exact nameOf?_reserve ht
  | bind p n? => exact nameOf?_bind ht

theorem package? (h : Grows kind t t') (hp : t.package? path = some p) :
    t'.package? path = some p := by
  refine h.keeps (P := fun t => t.package? path = some p) (fun t c _ ht => ?_) hp
  cases c with
  | reserve n p => exact (congrArg (List.find? _) (packages_reserve t n p)).trans ht
  | bind p n? => exact package?_bind ht

theorem packages (h : Grows kind t t') (hp : p ∈ t.packages) : p ∈ t'.packages := by
  refine h.keeps (P := fun t => p ∈ t.packages) (fun t c _ ht => ?_) hp
  cases c with
  | reserve name path => exact (packages_reserve t name path).symm ▸ ht
  | bind path name? => exact packages_subset_bind t path name? ht

end Grows

/-! ## Where names come from -/

/-- Only the empty path, asked for without a name, is wanted under the empty name. -/
theorem wantedName_eq_nil_iff : wantedName path name? = [] ↔ path = [] ∧ name?.getD [] = [] := by
  unfold wantedName
  by_cases hgiven : name?.getD [] = []
  · by_cases hpath : path = []
    · simp [hgiven, hpath, Text.dropRight, Path.base]
    · by_cases hlast : Path.base (Text.dropRight Path.slash path) = [] <;>
        simp [hgiven, hpath, hlast]
  · simp [hgiven]

/-- A package declares the name that some binding of its path wanted. -/
theorem name_of_mem_packages (h : p ∈ (t.after calls).packages) :
    p ∈ t.packages ∨ ∃ name?, .bind p.path name? ∈ calls ∧ p.name = wantedName p.path name? := by
  induction calls generalizing t with
  | nil => exact Or.inl h
  | cons c calls ih =>
    rcases ih h with hp | ⟨n?, hmem, hname⟩
    · cases c with
      | reserve name path =>
        left
        rwa [call, packages_reserve] at hp
      | bind path name? =>
        rcases bind_cases t path name? with ⟨q, -, hb⟩ | ⟨-, s, -, hnew, hpk⟩
        · left
          rwa [call, hb] at hp
        · rw [call, hpk] at hp
          rcases List.mem_cons.mp hp with rfl | hp
          · refine Or.inr ⟨name?, ?_, ?_⟩
            · rw [path_bind]
              exact List.mem_cons_self
            · rw [hnew]
              rfl
          · exact Or.inl hp
    · exact Or.inr ⟨n?, List.mem_cons_of_mem c hmem, hname⟩

/-- What is bound was bound before, or by a call for its path. -/
theorem bound_origin {short : Text} (h : (short, path) ∈ (t.after calls).bound) :
    (short, path) ∈ t.bound ∨
      ∃ c ∈ calls, c.path = path ∧ c.MayBind short := by
  induction calls generalizing t with
  | nil => exact Or.inl h
  | cons c calls ih =>
    rcases ih h with hb | ⟨c', hc', horigin⟩
    · cases c with
      | reserve n p =>
        rcases reserve_cases t n p with ht | ⟨-, -, ht⟩
        · left
          rwa [call, ht] at hb
        · rw [call, ht] at hb
          rcases List.mem_cons.mp hb with he | hb
          · obtain ⟨rfl, rfl⟩ := Prod.mk.inj he
            exact Or.inr ⟨_, List.mem_cons_self, rfl, Or.inl rfl⟩
          · exact Or.inl hb
      | bind p n? =>
        rcases bind_cases t p n? with ⟨q, -, ht⟩ | ⟨-, s, ⟨-, ht⟩ | ⟨-, hs, ht⟩, -, -⟩
        · left
          rwa [call, ht] at hb
        · left
          rwa [call, ht] at hb
        · rw [call, ht] at hb
          rcases List.mem_cons.mp hb with he | hb
          · obtain ⟨rfl, rfl⟩ := Prod.mk.inj he
            refine Or.inr ⟨_, List.mem_cons_self, rfl, ?_⟩
            rcases freeName_cases t (wantedName path n?) with ⟨-, hfree⟩ | ⟨-, i, hfree⟩
            · exact Or.inl (hs.trans hfree)
            · exact Or.inr ⟨i, hs.trans hfree⟩
          · exact Or.inl hb
    · exact Or.inr ⟨c', List.mem_cons_of_mem c hc', horigin⟩

/-- A package whose path was not bound before goes by a name that some call for its path may bind.
-/
theorem Valid.shortName_origin (ht : t.Valid) (hp : p ∈ (t.after calls).packages)
    (hnew : t.nameOf? p.path = none) : ∃ c ∈ calls, c.path = p.path ∧ c.MayBind p.shortName := by
  have hunbound (short : Text) : (short, p.path) ∉ t.bound := fun hb => by
    rw [ht.nameOf?_eq_some_iff.mpr hb] at hnew
    cases hnew
  have hafter : (t.after calls).Valid := Grows.valid ⟨calls, fun _ _ => trivial, rfl⟩ ht
  obtain ⟨short, hbound, hshort⟩ := hafter.shortName_eq hp
  by_cases hnil : short = []
  · -- The path was reserved for the empty name, so the package goes by the name that it declares.
    rw [if_pos hnil] at hshort
    rcases name_of_mem_packages hp with hp | ⟨name?, hcall, hname⟩
    · obtain ⟨short', hb, -⟩ := ht.named p hp
      exact absurd hb (hunbound short')
    · exact ⟨_, hcall, rfl, Or.inl (hshort.trans hname)⟩
  · rw [if_neg hnil] at hshort
    rcases bound_origin (hafter.nameOf?_eq_some_iff.mp hbound) with hb | ⟨c, hc, hpath, horigin⟩
    · exact absurd hb (hunbound short)
    · exact ⟨c, hc, hpath, hshort ▸ horigin⟩

/-- A path is bound to the empty name because that was reserved for it, or because the path was
asked for under the empty name. -/
theorem empty_name_cases (h : ([], path) ∈ (t.after calls).bound) :
    ([], path) ∈ t.bound ∨ .reserve [] path ∈ calls ∨
      ∃ p ∈ (t.after calls).packages, p.path = path ∧ p.name = [] := by
  induction calls generalizing t with
  | nil => exact Or.inl h
  | cons c calls ih =>
    rcases ih h with hb | hres | hpk
    · cases c with
      | reserve n p =>
        rcases reserve_cases t n p with ht | ⟨-, -, ht⟩
        · left
          rwa [call, ht] at hb
        · rw [call, ht] at hb
          rcases List.mem_cons.mp hb with he | hb
          · obtain ⟨rfl, rfl⟩ := Prod.mk.inj he
            exact Or.inr (Or.inl List.mem_cons_self)
          · exact Or.inl hb
      | bind p n? =>
        rcases bind_cases t p n? with ⟨q, -, ht⟩ | ⟨-, s, ⟨-, ht⟩ | ⟨-, hs, ht⟩, hnew, hpk⟩
        · left
          rwa [call, ht] at hb
        · left
          rwa [call, ht] at hb
        · rw [call, ht] at hb
          rcases List.mem_cons.mp hb with he | hb
          · obtain ⟨rfl, rfl⟩ := Prod.mk.inj he
            refine Or.inr (Or.inr ⟨(t.bind path n?).1, ?_, path_bind t path n?, ?_⟩)
            · exact Grows.packages ⟨calls, fun _ _ => trivial, rfl⟩ (bind_mem t path n?)
            · rw [hnew]
              exact eq_nil_of_freeName_eq_nil hs.symm
          · exact Or.inl hb
    · exact Or.inr (Or.inl (List.mem_cons_of_mem c hres))
    · exact Or.inr (Or.inr hpk)

/-- A package goes by the empty name only if it declares it. -/
theorem Valid.name_eq_nil (h : t.Valid) (hp : p ∈ t.packages) (hs : p.shortName = []) :
    p.name = [] := by
  obtain ⟨short, -, hshort⟩ := h.shortName_eq hp
  rw [hs] at hshort
  by_cases hnil : short = []
  · rwa [if_pos hnil, eq_comm] at hshort
  · rw [if_neg hnil] at hshort
    exact absurd hshort.symm hnil

/-! ## Runs from the empty table -/

theorem valid_after (calls : List Call) : (after ∅ calls).Valid :=
  Grows.valid ⟨calls, fun _ _ => trivial, rfl⟩ valid_empty

/-- Only the empty path can have a package that goes by the empty name. -/
theorem path_eq_nil_of_shortName (h : Grows kind ∅ t) (hp : p ∈ t.packages)
    (hs : p.shortName = []) : p.path = [] := by
  have hname := (h.valid valid_empty).name_eq_nil hp hs
  obtain ⟨calls, -, rfl⟩ := h
  rcases name_of_mem_packages hp with hp | ⟨name?, -, hwanted⟩
  · cases hp
  · exact (wantedName_eq_nil_iff.mp (hwanted ▸ hname)).1

/-- Bindings that want names give packages that go by names. -/
theorem shortName_ne_nil (h : Grows (·.isProper) ∅ t) (hp : p ∈ t.packages) : p.shortName ≠ [] := by
  intro hs
  have hname := (h.valid valid_empty).name_eq_nil hp hs
  obtain ⟨calls, hproper, rfl⟩ := h
  rcases name_of_mem_packages hp with hp | ⟨name?, hmem, hwanted⟩
  · cases hp
  · have hcall := hproper _ hmem
    rw [hname] at hwanted
    simp [Call.isProper, ← hwanted] at hcall

theorem mem_packages_of_returned (h : p ∈ t.returned calls) : p ∈ (t.after calls).packages := by
  induction calls generalizing t with
  | nil => cases h
  | cons c calls ih =>
    cases c with
    | reserve name path => exact ih h
    | bind path name? =>
      rcases List.mem_cons.mp h with rfl | h
      · exact Grows.packages ⟨calls, fun _ _ => trivial, rfl⟩ (bind_mem t path name?)
      · exact ih h

end ServiceWiring.ImportTable
