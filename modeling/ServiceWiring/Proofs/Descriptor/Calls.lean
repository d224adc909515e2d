import ServiceWiring.Proofs.Descriptor.Mentions

/-!
# The calls that reading makes

What a document says of a package is what reading binds: a file or a document that is read makes no
call on the import table but the bindings of what it mentions. This holds as well of a reading that
stops at a flaw, which has bound what stands before the flaw.

Results:
* `read_makes`, `readSet_makes`: the calls of a reading are bindings of mentioned packages.
* `mention_origin`: a mention gives a name that some option writes out, or one made from a path.
-/

namespace ServiceWiring.Descriptor

open ImportTable (Call)
open SessionM (Makes Quiet)

variable {kind : Call → Prop} {document raw name : Json} {owner : GoPackage} {file part key : Text}
  {m : Text × Text}

/-- The call that binds a path to the package of a mention. -/
def binding (m : Text × Text) : Call := .bind m.1 (some m.2)

/-- What the messages of a raw service say of packages. -/
def serviceMentions (raw : Json) : List (Text × Text) :=
  (raw.itemsUnder "methods").flatMap fun m => (messagesOf m).flatMap messageMentions

/-- What a raw file says of packages, for itself and in its messages. -/
def mentionsOf (raw : Json) : List (Text × Text) :=
  fileMentions raw ++ (raw.itemsUnder "services").flatMap serviceMentions

theorem mentions_eq (document : Json) :
    mentions document = (document.itemsUnder "files").flatMap mentionsOf := rfl

/-! ## What reading calls -/

theorem require_makes {β : Type} {f : Json → SessionM β}
    (h : ∀ v, raw.field? key = some v → Makes kind (f v)) :
    Makes kind (require part key raw >>= f) :=
  Makes.after (require_quiet part key raw) fun s v hv =>
    h v ((require_judges part key raw).gives s v hv).2.2

theorem listUnder_makes {β : Type} {f : List Json → SessionM β}
    (h : Makes kind (f (raw.itemsUnder key))) : Makes kind (listUnder part key raw >>= f) :=
  Makes.after (listUnder_quiet part key raw) fun s _ hitems =>
    ((listUnder_judges part key raw).gives s _ hitems).2.2 ▸ h

theorem optionOf?_makes {β : Type} {f : Option Text → SessionM β}
    (h : Makes kind (f (namedOption? raw))) : Makes kind (optionOf? raw >>= f) := by
  refine Makes.after (optionOf?_quiet raw) fun s option? hoption => ?_
  have heq : option? = namedOption? raw := Option.ext fun option =>
    (((optionOf?_judges raw).gives s option? hoption).2.2 option).trans
      namedOption?_eq_some_iff.symm
  rwa [heq]

theorem bindOption_makes {option : Text} (h : kind (binding (optionMention option))) :
    Makes kind (bindOption option) := Makes.bind h

theorem bindDirectory_makes (h : kind (binding (directoryMention file))) :
    Makes kind (bindDirectory file) := by
  unfold bindDirectory
  simp only [List.isEmpty_iff]
  exact Makes.bind h

theorem readPackage_makes (hname : raw.field? "name" = some name)
    (h : ∀ m ∈ fileMentions raw, kind (binding m)) : Makes kind (readPackage name raw) := by
  unfold readPackage
  refine optionOf?_makes ?_
  unfold fileMentions at h
  rw [hname] at h
  cases hoption : namedOption? raw with
  | some option =>
    rw [hoption] at h
    exact bindOption_makes (h _ List.mem_cons_self)
  | none =>
    rw [hoption] at h
    cases name with
    | str file => exact bindDirectory_makes (h _ List.mem_cons_self)
    | _ => exact Makes.of_quiet (Quiet.throw _)

theorem readMessage_makes (h : ∀ m ∈ messageMentions raw, kind (binding m)) :
    Makes kind (readMessage part owner raw) := by
  unfold readMessage
  refine require_makes fun name _ => optionOf?_makes ?_
  unfold messageMentions at h
  cases hoption : namedOption? raw with
  | some option =>
    rw [hoption] at h
    exact (bindOption_makes (h _ List.mem_cons_self)).followed fun p => Quiet.pure _
  | none => exact Makes.of_quiet (Quiet.pure _)

theorem readMethod_makes (h : ∀ m ∈ (messagesOf raw).flatMap messageMentions, kind (binding m)) :
    Makes kind (readMethod part owner raw) := by
  unfold readMethod
  refine require_makes fun name _ => require_makes fun request hrequest => ?_
  have hpart {q : Json} (hq : q ∈ messagesOf raw) : ∀ m ∈ messageMentions q, kind (binding m) :=
    fun m hm => h m (List.mem_flatMap.mpr ⟨q, hq, hm⟩)
  refine (readMessage_makes (hpart (by simp [messagesOf, hrequest]))).seq fun _ => ?_
  refine require_makes fun response hresponse => ?_
  refine (readMessage_makes (hpart (by simp [messagesOf, hresponse]))).followed fun _ => ?_
  exact (readRule?_quiet _ _).seq fun http? => Quiet.pure _

theorem readService_makes (h : ∀ m ∈ serviceMentions raw, kind (binding m)) :
    Makes kind (readService file owner raw) := by
  unfold readService
  refine require_makes fun name _ => listUnder_makes ?_
  refine Makes.followed (Makes.mapM fun q hq => readMethod_makes ?_) fun methods => Quiet.pure _
  exact fun m hm => h m (List.mem_flatMap.mpr ⟨q, hq, hm⟩)

/-- **A file that is read binds what it mentions**, and nothing else. -/
theorem read_makes (h : ∀ m ∈ mentionsOf raw, kind (binding m)) : Makes kind (read raw) := by
  unfold read
  refine require_makes fun name hname => ?_
  refine (readPackage_makes hname fun m hm => h m (List.mem_append_left _ hm)).seq fun package => ?_
  refine listUnder_makes (Makes.followed (Makes.mapM fun v hv => readService_makes ?_) ?_)
  · exact fun m hm => h m (List.mem_append_right _ (List.mem_flatMap.mpr ⟨v, hv, hm⟩))
  · exact fun services => Quiet.pure _

/-- **A document that is read binds what it mentions**, and nothing else. -/
theorem readSet_makes (h : ∀ m ∈ mentions document, kind (binding m)) :
    Makes kind (readSet document) := by
  unfold readSet
  refine require_makes fun v hv => ?_
  split
  · rename_i files
    have hitems : document.itemsUnder "files" = files := by
      unfold Json.itemsUnder
      rw [hv]
    refine Makes.mapM fun raw hraw => read_makes fun m hm => h m ?_
    rw [mentions_eq, hitems]
    exact List.mem_flatMap.mpr ⟨raw, hraw, hm⟩
  · exact Makes.of_quiet (Quiet.throw _)

/-! ## Where mentioned names come from -/

/-- The objects of a file and of its messages. -/
def partsOf (raw : Json) : List Json :=
  raw :: (raw.itemsUnder "services").flatMap fun v =>
    (v.itemsUnder "methods").flatMap messagesOf

theorem parts_eq (document : Json) :
    parts document = (document.itemsUnder "files").flatMap partsOf := by
  have hmessages (m : Json) : ((messagesOf m).flatMap fun q => [q]) = messagesOf m :=
    List.flatMap_singleton' _
  unfold parts gather
  simp only [hmessages]
  rfl

theorem optionMention_origin {option : Text} (h : namedOption? raw = some option) :
    explicit? raw = some (optionMention option) ∨
      ∃ path, (optionMention option).2 = Go.packageName path := by
  unfold explicit? optionMention
  rw [h]
  cases hname : (GoPackage.splitOption option).2 with
  | some name => exact Or.inl (by simp [hname])
  | none => exact Or.inr ⟨(GoPackage.splitOption option).1, by simp [hname]⟩

theorem fileMention_origin (h : m ∈ fileMentions raw) :
    explicit? raw = some m ∨ ∃ path, m.2 = Go.packageName path := by
  unfold fileMentions at h
  split at h
  · rename_i option hoption
    obtain rfl := List.mem_singleton.mp h
    exact optionMention_origin hoption
  · obtain rfl := List.mem_singleton.mp h
    exact Or.inr ⟨_, rfl⟩
  · cases h

theorem messageMention_origin (h : m ∈ messageMentions raw) :
    explicit? raw = some m ∨ ∃ path, m.2 = Go.packageName path := by
  obtain ⟨option, hoption, rfl⟩ := List.mem_map.mp h
  exact optionMention_origin (Option.mem_toList.mp hoption)

/-- **A mention gives a name that an option writes out, or one made from a path.** -/
theorem mention_origin (h : m ∈ mentionsOf raw) :
    (∃ q ∈ partsOf raw, explicit? q = some m) ∨ ∃ path, m.2 = Go.packageName path := by
  rcases List.mem_append.mp h with h | h
  · exact (fileMention_origin h).imp_left fun he => ⟨raw, List.mem_cons_self, he⟩
  · obtain ⟨v, hv, h⟩ := List.mem_flatMap.mp h
    obtain ⟨method, hmethod, h⟩ := List.mem_flatMap.mp h
    obtain ⟨q, hq, h⟩ := List.mem_flatMap.mp h
    refine (messageMention_origin h).imp_left fun he => ⟨q, List.mem_cons_of_mem _ ?_, he⟩
    exact List.mem_flatMap.mpr ⟨v, hv, List.mem_flatMap.mpr ⟨method, hmethod, hq⟩⟩

end ServiceWiring.Descriptor
