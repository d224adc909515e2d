import ServiceWiring.Proofs.Json.Leaf

/-!
# Reading values that were written

A value is written before a rest, and reading is to give the value and leave the rest: `Reads`. The
items of a list are read one after another, and once one of them is read the others follow from the
text that it left: `ReadsItems`; and `ReadsFields` says the same of the fields of an object.

There is one rule for each way that a value, the items of a list or the fields of an object are put
together, with what is read of the parts as its premises. The fuel of a text is twice its length,
and the text that a value leaves is a part of the text that it was read from (`length_rest_le`), so
there is always enough.

Results:
* `Reads.null`, `Reads.bool`, `Reads.int`, `Reads.str`: the leaves.
* `Reads.arr`, `ReadsItems.cons`: lists.
* `Reads.obj`, `ReadsFields.cons`: objects, whose names are to be different (`ofFields_of_nodup`).
-/

namespace ServiceWiring.Json

variable {fuel level : Nat} {name rest t : Text} {c : CodePoint}

/-! ## Blanks -/

theorem skipBlanks_newLine (level : Nat) (t : Text) :
    skipBlanks (newLine level ++ t) = skipBlanks t := by
  unfold skipBlanks
  refine List.dropWhile_append_of_pos fun c hc => ?_
  rcases List.mem_cons.mp hc with rfl | hc
  · rfl
  · rw [(List.mem_replicate.mp hc).2]
    rfl

theorem skipBlanks_of_visible (h : 0x20 < c.val) (r : Text) : skipBlanks (c :: r) = c :: r := by
  unfold skipBlanks
  rw [List.dropWhile_cons_of_neg]
  simp only [Bool.or_eq_true, decide_eq_true_eq]
  omega

/-- The text starts with a visible character of ASCII that does not close a list. -/
def StartsValue (t : Text) : Prop :=
  ∃ c r, t = c :: r ∧ 0x20 < c.val ∧ c.val < 0x7F ∧ c ≠ 0x5D

theorem StartsValue.skipBlanks_eq (h : StartsValue t) : skipBlanks t = t := by
  obtain ⟨c, r, rfl, hc, -, -⟩ := h
  exact skipBlanks_of_visible hc r

/-! ## What is written after a value -/

theorem stopsNumber_printItems (level : Nat) (rest : Text) (items : List Json) :
    StopsNumber (printItems level "," rest items) := by
  cases items <;> exact fun c hc => by cases hc; decide

theorem stopsNumber_printFields (level : Nat) (rest : Text) (fields : List (Text × Json)) :
    StopsNumber (printFields level "," rest fields) := by
  cases fields <;> exact fun c hc => by cases hc; decide

mutual

/-- The rest is a part of the text. -/
theorem length_rest_le (level : Nat) (rest : Text) :
    (j : Json) → rest.length ≤ (printBefore level rest j).length
  | null | bool _ | int _ | float _ | str _ => by simp [printBefore]
  | arr items => by
    have hitems := length_rest_le_items level "[" rest items
    simp only [printBefore]
    split
    · simp
    · exact hitems
  | obj fields => by
    have hfields := length_rest_le_fields level "\x7b" rest fields
    simp only [printBefore]
    split
    · simp
    · exact hfields
termination_by structural j => j

theorem length_rest_le_items (level : Nat) (mark rest : Text) :
    (items : List Json) → rest.length ≤ (printItems level mark rest items).length
  | [] => by
    simp only [printItems, List.length_append]
    omega
  | item :: r => by
    have hitem := length_rest_le (level + 1) (printItems level "," rest r) item
    have hr := length_rest_le_items level "," rest r
    simp only [printItems, List.length_append]
    omega
termination_by structural items => items

theorem length_rest_le_fields (level : Nat) (mark rest : Text) :
    (fields : List (Text × Json)) → rest.length ≤ (printFields level mark rest fields).length
  | [] => by
    simp only [printFields, List.length_append]
    omega
  | (name, value) :: r => by
    have hvalue := length_rest_le (level + 1) (printFields level "," rest r) value
    have hr := length_rest_le_fields level "," rest r
    simp only [printFields, List.length_append]
    omega
termination_by structural fields => fields

end

/-! ## What is to be proved of each part -/

/-- The value is read as it was written, at each level and before each rest that ends a number. -/
structure Reads (j : Json) : Prop where
  /-- It starts like a value. -/
  starts : ∀ level rest, StartsValue (printBefore level rest j)
  /-- It is read up to the rest. -/
  reads : ∀ {level rest fuel}, StopsNumber rest → 2 * (printBefore level rest j).length ≤ fuel →
    readValue (fuel + 1) (printBefore level rest j) = .ok (j, rest)

/-- Once an item of a list is read, these items are read after it, up to the end of the list. -/
def ReadsItems (items : List Json) : Prop :=
  ∀ {level rest fuel item t}, readValue fuel t = .ok (item, printItems level "," rest items) →
    2 * (printItems level "," rest items).length ≤ fuel →
      readItems (fuel + 1) t = .ok (item :: items, rest)

/-- Once a field of an object is read, these fields are read after it, up to the end of the object.
-/
def ReadsFields (fields : List (Text × Json)) : Prop :=
  ∀ {level rest fuel name value t}, StartsValue t →
    readValue fuel t = .ok (value, printFields level "," rest fields) →
      2 * (printFields level "," rest fields).length ≤ fuel →
        readFields (fuel + 1) (printText name ++ (": " ++ t)) = .ok ((name, value) :: fields, rest)

/-! ## Leaves -/

theorem Reads.null : Reads .null where
  starts := fun _ _ => ⟨_, _, rfl, by decide, by decide, by decide⟩
  reads := fun _ _ => rfl

theorem Reads.bool (b : Bool) : Reads (.bool b) where
  starts := fun _ _ => by cases b <;> exact ⟨_, _, rfl, by decide, by decide, by decide⟩
  reads := fun _ _ => by cases b <;> rfl

theorem readValue_scalar (hc : c ≠ 0x22 ∧ c ≠ 0x5B ∧ c ≠ 0x7B) (fuel : Nat) (r : Text) :
    readValue (fuel + 1) (c :: r) = readScalar (c :: r) := by
  rw [readValue]
  · exact fun _ h => hc.1 (List.cons.inj h).1
  · exact fun _ h => hc.2.1 (List.cons.inj h).1
  · exact fun _ h => hc.2.2 (List.cons.inj h).1

/-- An integer starts with a sign or a digit. -/
theorem ofInt_eq_cons (i : Int) : ∃ c r, Text.ofInt i = c :: r ∧ 0x2D ≤ c.val ∧ c.val ≤ 0x39 := by
  cases i with
  | ofNat n =>
    obtain ⟨d, r, hd⟩ := List.exists_cons_of_ne_nil (Text.ofNat_ne_nil n)
    have hdigit : d.isDigit = true := Text.isDigit_of_mem_ofNat (hd ▸ List.mem_cons_self)
    have hval : 0x30 ≤ d.val ∧ d.val ≤ 0x39 := by simpa [CodePoint.isDigit] using hdigit
    exact ⟨d, r, hd, by omega, hval.2⟩
  | negSucc n => exact ⟨_, _, rfl, by decide, by decide⟩

theorem Reads.int {i : Int} (h : i.natAbs < 10 ^ maxDigits) : Reads (.int i) := by
  obtain ⟨c, r, hi, hl, hu⟩ := ofInt_eq_cons i
  have hprint (level : Nat) (rest : Text) : printBefore level rest (.int i) = c :: (r ++ rest) := by
    rw [printBefore, hi, List.cons_append]
  have hne {d : CodePoint} (hd : 0x39 < d.val ∨ d.val < 0x2D) : c ≠ d := by
    rintro rfl
    omega
  refine ⟨fun level rest => ⟨c, r ++ rest, hprint level rest, by omega, by omega, ?_⟩,
    fun {level rest fuel} hrest _ => ?_⟩
  · exact hne (by decide)
  · rw [hprint, readValue_scalar ⟨hne (by decide), hne (by decide), hne (by decide)⟩,
      ← List.cons_append, ← hi]
    exact readScalar_ofInt h hrest

theorem printText_append (t rest : Text) :
    printText t ++ rest = 0x22 :: (t.flatMap escapeOne ++ 0x22 :: rest) := by
  show 0x22 :: (t.flatMap escapeOne ++ [0x22]) ++ rest = _
  rw [List.cons_append, List.append_assoc, List.singleton_append]

theorem Reads.str (t : Text) : Reads (.str t) where
  starts := fun _ _ => ⟨_, _, rfl, by decide, by decide, by decide⟩
  reads := fun _ _ => by
    rw [printBefore, printText_append, readValue, readText_flatMap]
    rfl

/-! ## Lists -/

theorem readValue_arr (ht : StartsValue t) (fuel level : Nat) :
    readValue (fuel + 1) (0x5B :: (newLine level ++ t)) =
      (readItems fuel t).map fun (items, rest) => (.arr items, rest) := by
  obtain ⟨c, r, rfl, -, -, hc⟩ := id ht
  rw [readValue, skipBlanks_newLine, ht.skipBlanks_eq]
  split
  · rename_i h
    exact absurd (List.cons.inj h).1 hc
  · cases readItems fuel (c :: r) <;> rfl

theorem readItems_last {item : Json} {r : Text} (hitem : readValue fuel t = .ok (item, r))
    (hr : skipBlanks r = 0x5D :: rest) : readItems (fuel + 1) t = .ok ([item], rest) := by
  rw [readItems, hitem]
  simp only [bind, Except.bind, hr]
  rfl

theorem readItems_more {item : Json} {items : List Json} {r r' : Text}
    (hitem : readValue fuel t = .ok (item, r)) (hr : skipBlanks r = 0x2C :: r')
    (hitems : readItems fuel (skipBlanks r') = .ok (items, rest)) :
    readItems (fuel + 1) t = .ok (item :: items, rest) := by
  rw [readItems, hitem]
  simp only [bind, Except.bind, hr, hitems]
  rfl

theorem ReadsItems.nil : ReadsItems [] := by
  intro level rest fuel item t hitem _
  refine readItems_last hitem ?_
  rw [printItems, skipBlanks_newLine]
  exact skipBlanks_of_visible (by decide) rest

/-- Items are read from the start of the first one. -/
theorem ReadsItems.start {item : Json} {items : List Json} (hitem : Reads item)
    (hitems : ReadsItems items)
    (hfuel : 2 * (printBefore (level + 1) (printItems level "," rest items) item).length + 2 ≤
      fuel) :
    readItems fuel (printBefore (level + 1) (printItems level "," rest items) item) =
      .ok (item :: items, rest) := by
  have hlength := length_rest_le (level + 1) (printItems level "," rest items) item
  obtain ⟨fuel, rfl⟩ : ∃ fuel', fuel = fuel' + 2 := ⟨fuel - 2, by omega⟩
  exact hitems (hitem.reads (stopsNumber_printItems level rest items) (by omega)) (by omega)

theorem ReadsItems.cons {next : Json} {items : List Json} (hnext : Reads next)
    (hitems : ReadsItems items) : ReadsItems (next :: items) := by
  intro level rest fuel item t hitem hfuel
  have hprint : printItems level "," rest (next :: items) = 0x2C :: (newLine (level + 1) ++
    printBefore (level + 1) (printItems level "," rest items) next) := rfl
  rw [hprint] at hitem hfuel
  rw [List.length_cons, List.length_append] at hfuel
  refine readItems_more hitem (skipBlanks_of_visible (by decide) _) ?_
  rw [skipBlanks_newLine, (hnext.starts _ _).skipBlanks_eq]
  exact hitems.start hnext (by omega)

theorem Reads.arr_nil : Reads (.arr []) where
  starts := fun _ _ => ⟨_, _, rfl, by decide, by decide, by decide⟩
  reads := fun _ _ => rfl

theorem Reads.arr {item : Json} {items : List Json} (hitem : Reads item)
    (hitems : ReadsItems items) : Reads (.arr (item :: items)) where
  starts := fun _ _ => ⟨_, _, rfl, by decide, by decide, by decide⟩
  reads := by
    intro level rest fuel _ hfuel
    have hprint : printBefore level rest (.arr (item :: items)) = 0x5B :: (newLine (level + 1) ++
      printBefore (level + 1) (printItems level "," rest items) item) := rfl
    rw [hprint] at hfuel ⊢
    rw [List.length_cons, List.length_append] at hfuel
    rw [readValue_arr (hitem.starts _ _), hitems.start hitem (by omega)]
    rfl

/-! ## Objects -/

theorem readValue_obj (fuel level : Nat) (name t : Text) :
    readValue (fuel + 1) (0x7B :: (newLine level ++ (printText name ++ t))) =
      (readFields fuel (printText name ++ t)).map
        fun (fields, rest) => (ofFields fields, rest) := by
  rw [printText_append, readValue, skipBlanks_newLine, skipBlanks_of_visible (by decide)]
  simp only
  cases readFields fuel (0x22 :: (name.flatMap escapeOne ++ 0x22 :: t)) <;> rfl

theorem printField_append (name t : Text) : printText name ++ (": " ++ t) =
    0x22 :: (name.flatMap escapeOne ++ 0x22 :: 0x3A :: 0x20 :: t) := printText_append name _

theorem readFields_last {value : Json} {r : Text} (ht : StartsValue t)
    (hvalue : readValue fuel t = .ok (value, r)) (hr : skipBlanks r = 0x7D :: rest) :
    readFields (fuel + 1) (printText name ++ (": " ++ t)) = .ok ([(name, value)], rest) := by
  have hblank : skipBlanks (0x20 :: t) = t := ht.skipBlanks_eq
  rw [printField_append, readFields, readText_flatMap]
  simp only [bind, Except.bind, skipBlanks_of_visible (c := 0x3A) (by decide), hblank, hvalue, hr]
  rfl

theorem readFields_more {value : Json} {fields : List (Text × Json)} {r r' : Text}
    (ht : StartsValue t) (hvalue : readValue fuel t = .ok (value, r))
    (hr : skipBlanks r = 0x2C :: r')
    (hfields : readFields fuel (skipBlanks r') = .ok (fields, rest)) :
    readFields (fuel + 1) (printText name ++ (": " ++ t)) =
      .ok ((name, value) :: fields, rest) := by
  have hblank : skipBlanks (0x20 :: t) = t := ht.skipBlanks_eq
  rw [printField_append, readFields, readText_flatMap]
  simp only [bind, Except.bind, skipBlanks_of_visible (c := 0x3A) (by decide), hblank, hvalue, hr,
    hfields]
  rfl

theorem ReadsFields.nil : ReadsFields [] := by
  intro level rest fuel name value t ht hvalue _
  refine readFields_last ht hvalue ?_
  rw [printFields, skipBlanks_newLine]
  exact skipBlanks_of_visible (by decide) rest

/-- Fields are read from the start of the first one. -/
theorem ReadsFields.start {value : Json} {fields : List (Text × Json)} (hvalue : Reads value)
    (hfields : ReadsFields fields)
    (hfuel : 2 * (printBefore (level + 1) (printFields level "," rest fields) value).length + 2 ≤
      fuel) :
    readFields fuel (printText name ++ (": " ++
      printBefore (level + 1) (printFields level "," rest fields) value)) =
        .ok ((name, value) :: fields, rest) := by
  have hlength := length_rest_le (level + 1) (printFields level "," rest fields) value
  obtain ⟨fuel, rfl⟩ : ∃ fuel', fuel = fuel' + 2 := ⟨fuel - 2, by omega⟩
  exact hfields (hvalue.starts _ _)
    (hvalue.reads (stopsNumber_printFields level rest fields) (by omega)) (by omega)

theorem ReadsFields.cons {value : Json} {fields : List (Text × Json)} (hvalue : Reads value)
    (hfields : ReadsFields fields) : ReadsFields ((name, value) :: fields) := by
  intro level rest fuel name' value' t ht hvalue' hfuel
  have hprint : printFields level "," rest ((name, value) :: fields) = 0x2C ::
    (newLine (level + 1) ++ (printText name ++ (Text.ofString ": " ++
      printBefore (level + 1) (printFields level "," rest fields) value))) := rfl
  rw [hprint] at hvalue' hfuel
  simp only [List.length_cons, List.length_append] at hfuel
  refine readFields_more ht hvalue' (skipBlanks_of_visible (by decide) _) ?_
  rw [skipBlanks_newLine, printText_append, skipBlanks_of_visible (by decide), ← printText_append]
  exact hfields.start hvalue (by omega)

theorem setField_of_notMem {fields : List (Text × Json)} (h : name ∉ fields.map Prod.fst)
    (value : Json) : setField name value fields = fields ++ [(name, value)] := by
  induction fields with
  | nil => rfl
  | cons field r ih =>
    rw [List.map_cons, List.mem_cons, not_or] at h
    rw [setField, if_neg (Ne.symm h.1), ih h.2]
    rfl

theorem foldl_setField (before : List (Text × Json)) {fields : List (Text × Json)}
    (h : ((before ++ fields).map Prod.fst).Nodup) :
    fields.foldl (fun fs (n, v) => setField n v fs) before = before ++ fields := by
  induction fields generalizing before with
  | nil => simp
  | cons field r ih =>
    obtain ⟨name, value⟩ := field
    have hnew : name ∉ before.map Prod.fst := by
      rw [List.map_append, List.nodup_append] at h
      exact fun hmem => h.2.2 _ hmem _ List.mem_cons_self rfl
    rw [List.append_cons] at h
    rw [List.foldl_cons]
    simp only [setField_of_notMem hnew]
    rw [ih _ h, ← List.append_cons]

/-- Fields with different names are kept as they are. -/
theorem ofFields_of_nodup {fields : List (Text × Json)} (h : (fields.map Prod.fst).Nodup) :
    ofFields fields = .obj fields :=
  congrArg Json.obj (foldl_setField [] h)

theorem Reads.obj_nil : Reads (.obj []) where
  starts := fun _ _ => ⟨_, _, rfl, by decide, by decide, by decide⟩
  reads := fun _ _ => rfl

theorem Reads.obj {value : Json} {fields : List (Text × Json)} (hvalue : Reads value)
    (hfields : ReadsFields fields) (hnames : (((name, value) :: fields).map Prod.fst).Nodup) :
    Reads (obj ((name, value) :: fields)) where
  starts := fun _ _ => ⟨_, _, rfl, by decide, by decide, by decide⟩
  reads := by
    intro level rest fuel _ hfuel
    have hprint : printBefore level rest (.obj ((name, value) :: fields)) = 0x7B ::
      (newLine (level + 1) ++ (printText name ++ (Text.ofString ": " ++
        printBefore (level + 1) (printFields level "," rest fields) value))) := rfl
    rw [hprint] at hfuel ⊢
    simp only [List.length_cons, List.length_append] at hfuel
    rw [readValue_obj, hfields.start hvalue (by omega), ← ofFields_of_nodup hnames]
    rfl

end ServiceWiring.Json
