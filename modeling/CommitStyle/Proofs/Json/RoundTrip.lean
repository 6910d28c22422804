import CommitStyle.Proofs.Json.Object
import CommitStyle.Proofs.Json.Token
import Mathlib.Data.List.DropRight

/-!
# Values that are read back

A plain value is the value of the text that it is written as, in either layout
(`Json.Plain.read?_write`). The induction is on the value. What it carries is that the value is read
back wherever it stands (`Json.ReadsBack`): behind any white space, at any level, with fuel for at
least its text, and in front of anything that does not go on with a number. The items of an array
and the fields of an object are then read one by one up to the closing sign
(`Json.readItems?_write`, `Json.readFields?_write`).
-/

namespace CommitStyle.Json

/-! ## White space -/

/-- A value starts with such a character. -/
def StartsValue (c : Char) : Prop :=
  c.isDigit = true ∨ c ∈ ['-', 'n', 't', 'f', '\x22', '[', '\x7b']

theorem StartsValue.ne {c : Char} (h : StartsValue c) {d : Char}
    (hd : d ∈ [' ', '\n', '\t', '\r', ']']) : c ≠ d := by
  rintro rfl
  unfold StartsValue at h
  simp only [List.mem_cons, List.not_mem_nil, or_false] at hd
  rcases hd with rfl | rfl | rfl | rfl | rfl <;> exact absurd h (by decide)

theorem StartsValue.skipSpace {c : Char} (h : StartsValue c) (t : Text) :
    skipSpace (c :: t) = c :: t := by
  refine List.dropWhile_cons_of_neg ?_
  simp [h.ne (d := ' ') (by simp), h.ne (d := '\n') (by simp), h.ne (d := '\t') (by simp),
    h.ne (d := '\r') (by simp)]

theorem skipSpace_skipSpace (t : Text) : skipSpace (skipSpace t) = skipSpace t :=
  List.dropWhile_idempotent _ t

/-- Lines and the indentation of the next one are white space. -/
theorem skipSpace_break (layout : Layout) (depth : Nat) (t : Text) :
    skipSpace (layout.break depth ++ t) = skipSpace t := by
  refine List.dropWhile_append_of_pos fun c hc => ?_
  cases layout with
  | compact => cases hc
  | pretty =>
    rcases List.mem_cons.1 hc with rfl | hc
    · rfl
    · rw [List.eq_of_mem_replicate hc]
      rfl

theorem endsNumber_cons {c : Char} (h : c ∈ [',', ']', '\x7d', '\n']) (t : Text) :
    EndsNumber (c :: t) := by
  intro d hd
  cases hd
  simp only [List.mem_cons, List.not_mem_nil, or_false] at h
  rcases h with rfl | rfl | rfl | rfl <;> decide

theorem endsNumber_break (layout : Layout) (depth : Nat) {c : Char} (h : c = ']' ∨ c = '\x7d')
    (t : Text) : EndsNumber (layout.break depth ++ c :: t) := by
  cases layout with
  | compact => exact endsNumber_cons (by rcases h with rfl | rfl <;> simp) t
  | pretty => exact endsNumber_cons (by simp) _

theorem exists_start_integer (n : Int) :
    ∃ c t, (Number.integer n).write = c :: t ∧ (c.isDigit = true ∨ c = '-') := by
  cases n with
  | ofNat n =>
    obtain ⟨c, t, hn, hc⟩ := exists_digit_of_toDigits n
    exact ⟨c, t, (write_natCast n).trans hn, Or.inl hc⟩
  | negSucc n => exact ⟨'-', _, write_negSucc n, Or.inr rfl⟩

theorem Plain.exists_start {depth : Nat} {j : Json} (h : Plain depth j) (layout : Layout)
    (level : Nat) : ∃ c t, writeAt layout level j = c :: t ∧ StartsValue c := by
  cases h with
  | null => exact ⟨'n', _, rfl, by simp [StartsValue]⟩
  | bool _ b => cases b <;> exact ⟨_, _, rfl, by simp [StartsValue]⟩
  | number =>
    obtain ⟨c, t, hn, hc⟩ := exists_start_integer _
    exact ⟨c, t, hn, hc.imp_right fun h => by simp [h]⟩
  | string => exact ⟨'\x22', _, rfl, by simp [StartsValue]⟩
  | @array _ items => cases items <;> exact ⟨'[', _, rfl, by simp [StartsValue]⟩
  | @object _ fields =>
    cases fields <;> exact ⟨'\x7b', _, rfl, by simp [StartsValue]⟩

theorem Plain.skipSpace_write {depth : Nat} {j : Json} (h : Plain depth j) (layout : Layout)
    (level : Nat) (rest : Text) :
    skipSpace (writeAt layout level j ++ rest) = writeAt layout level j ++ rest := by
  obtain ⟨c, t, hj, hc⟩ := h.exists_start layout level
  rw [hj]
  exact hc.skipSpace _

/-! ## Values -/

/-- The value is read back from what it is written as, wherever it stands. -/
def ReadsBack (layout : Layout) (depth : Nat) (j : Json) : Prop :=
  ∀ (fuel level : Nat) (t rest : Text), (writeAt layout level j).length ≤ fuel → EndsNumber rest →
    skipSpace t = writeAt layout level j ++ rest →
    readValue? (fuel + 1) depth t = some (j, rest)

variable {layout : Layout} {depth : Nat}

/-- White space in front of a value is passed over. -/
theorem readValue?_of_skipSpace {t u : Text} (h : skipSpace t = u) (fuel depth : Nat) :
    readValue? (fuel + 1) depth t = readValue? (fuel + 1) depth u := by
  rw [readValue?.eq_def, readValue?.eq_def (fuel + 1) depth u]
  simp only [← h, skipSpace_skipSpace]

theorem readsBack_null : ReadsBack layout depth .null := by
  intro fuel level t rest _ _ ht
  rw [readValue?_of_skipSpace ht]
  rfl

theorem readsBack_bool (b : Bool) : ReadsBack layout depth (.bool b) := by
  intro fuel level t rest _ _ ht
  rw [readValue?_of_skipSpace ht]
  cases b <;> rfl

theorem readsBack_string (s : String) : ReadsBack layout depth (.string s) := by
  intro fuel level t rest _ _ ht
  have hs : writeAt layout level (.string s) ++ rest =
      '\x22' :: (s.toList.flatMap escape ++ '\x22' :: rest) := by
    simp [writeAt, writeString]
  rw [readValue?_of_skipSpace ht, hs]
  show (readString? _).map _ = _
  rw [readString?_write, Option.map_some]
  simp only [String.ofList_toList]

/-- A text that starts as a number is read as one. -/
theorem readValue?_number {fuel : Nat} {t u : Text} {c : Char} (hc : c.isDigit = true ∨ c = '-')
    (ht : skipSpace t = c :: u) : readValue? (fuel + 1) depth t =
      (readNumber? (c :: u)).map fun (n, after) => (.number n, after) := by
  rw [readValue?.eq_def]
  simp only [ht]
  split
  all_goals
    first
    | rfl
    | next h => exact absurd ((List.cons.inj h).1 ▸ hc) (by decide)

theorem readsBack_integer {n : Int} (low : -0x8000000000000000 ≤ n)
    (high : n < 0x10000000000000000) : ReadsBack layout depth (.number (.integer n)) := by
  intro fuel level t rest _ hrest ht
  obtain ⟨c, u, hn, hc⟩ := exists_start_integer n
  have hread := readNumber?_write low high hrest
  change skipSpace t = (Number.integer n).write ++ rest at ht
  rw [hn, List.cons_append] at ht hread
  rw [readValue?_number hc ht, hread]
  rfl

/-! ## Arrays -/

section Arrays

variable {fuel level : Nat} {item : Json} {t u rest after tail : Text}

theorem readValue?_emptyArray (ht : skipSpace t = '[' :: ']' :: after) :
    readValue? (fuel + 1) (depth + 1) t = some (.array [], after) :=
  readValue?_of_skipSpace ht fuel (depth + 1)

theorem readValue?_array (ht : skipSpace t = '[' :: u) (hitem : Plain depth item)
    (hu : skipSpace u = writeAt layout level item ++ rest) : readValue? (fuel + 1) (depth + 1) t =
      (readItems? fuel depth (writeAt layout level item ++ rest)).map
        fun (items, after) => (.array items, after) := by
  obtain ⟨c, v, hwrite, hc⟩ := hitem.exists_start layout level
  rw [readValue?_of_skipSpace ht]
  -- The bracket is known, so the step computes up to the choice between items and none.
  conv_lhs => whnf
  rw [hu, hwrite, List.cons_append]
  split
  · next h => exact absurd (List.cons.inj h).1 (hc.ne (by simp))
  · rfl

theorem readItems?_more (hitem : readValue? fuel depth t = some (item, rest))
    (hrest : skipSpace rest = ',' :: u) : readItems? (fuel + 1) depth t =
      (readItems? fuel depth u).map fun (items, after) => (item :: items, after) := by
  show (readValue? fuel depth t).bind _ = _
  rw [hitem, Option.bind_some]
  simp only [hrest]

theorem readItems?_last (hitem : readValue? fuel depth t = some (item, rest))
    (hrest : skipSpace rest = ']' :: after) :
    readItems? (fuel + 1) depth t = some ([item], after) := by
  show (readValue? fuel depth t).bind _ = _
  rw [hitem, Option.bind_some]
  simp only [hrest]

/-- The items of an array are read up to the closing bracket. -/
theorem readItems?_write (htail : skipSpace tail = ']' :: after) (hend : EndsNumber tail)
    {items : List Json} : ∀ (item : Json) (fuel : Nat) {t : Text},
      (∀ j ∈ item :: items, Plain depth j ∧ ReadsBack layout depth j) →
      (writeAt layout level item).length + (writeItems layout level items).length ≤ fuel →
      skipSpace t = writeAt layout level item ++ (writeItems layout level items ++ tail) →
      readItems? (fuel + 2) depth t = some (item :: items, after) := by
  induction items with
  | nil =>
    intro item fuel t hitems hfuel ht
    have hitem := (hitems item List.mem_cons_self).2 fuel level t tail
      (Nat.le_of_add_right_le hfuel) hend ht
    exact readItems?_last hitem htail
  | cons next items ih =>
    intro item fuel t hitems hfuel ht
    have hrest : writeItems layout level (next :: items) ++ tail = ',' :: (layout.break level ++
        (writeAt layout level next ++ (writeItems layout level items ++ tail))) := by
      simp only [writeItems, List.cons_append, List.append_assoc]
    rw [hrest] at ht
    have hitem := (hitems item List.mem_cons_self).2 fuel level t _
      (Nat.le_of_add_right_le hfuel) (endsNumber_cons (by simp) _) ht
    simp only [writeItems, List.length_cons, List.length_append] at hfuel
    obtain ⟨fuel, rfl⟩ : ∃ f, fuel = f + 1 := ⟨fuel - 1, by omega⟩
    have hplain := (hitems next (by simp)).1
    have hnext := ih next fuel (fun j hj => hitems j (List.mem_cons_of_mem _ hj)) (by omega)
      ((skipSpace_break layout level _).trans (hplain.skipSpace_write layout level _))
    rw [readItems?_more hitem rfl, hnext]
    rfl

theorem readsBack_array {items : List Json}
    (hitems : ∀ j ∈ items, Plain depth j ∧ ReadsBack layout depth j) :
    ReadsBack layout (depth + 1) (.array items) := by
  intro fuel level t rest hfuel _ ht
  cases items with
  | nil => exact readValue?_emptyArray ht
  | cons item items =>
    have hwrite : writeAt layout level (.array (item :: items)) ++ rest =
        '[' :: (layout.break (level + 1) ++ (writeAt layout (level + 1) item ++
          (writeItems layout (level + 1) items ++ (layout.break level ++ ']' :: rest)))) := by
      simp [writeAt]
    rw [hwrite] at ht
    simp only [writeAt, List.length_cons, List.length_append] at hfuel
    obtain ⟨fuel, rfl⟩ : ∃ f, fuel = f + 2 := ⟨fuel - 2, by omega⟩
    have hitem := (hitems item List.mem_cons_self).1
    have hfirst := hitem.skipSpace_write layout (level + 1)
      (writeItems layout (level + 1) items ++ (layout.break level ++ ']' :: rest))
    have hread := readItems?_write (skipSpace_break layout level (']' :: rest))
      (endsNumber_break layout level (Or.inl rfl) rest) item fuel hitems (by omega) hfirst
    rw [readValue?_array ht hitem ((skipSpace_break layout (level + 1) _).trans hfirst), hread]
    rfl

end Arrays

/-! ## Objects -/

section Objects

variable {fuel level : Nat} {name : String} {value : Json} {t u rest after tail : Text}

theorem readValue?_emptyObject (ht : skipSpace t = '\x7b' :: '\x7d' :: after) :
    readValue? (fuel + 1) (depth + 1) t = some (.object [], after) :=
  readValue?_of_skipSpace ht fuel (depth + 1)

theorem readValue?_object (ht : skipSpace t = '\x7b' :: u)
    (hu : skipSpace u = writeString name ++ rest) : readValue? (fuel + 1) (depth + 1) t =
      (readFields? fuel depth (writeString name ++ rest)).map
        fun (fields, after) => (ofFields fields, after) := by
  rw [readValue?_of_skipSpace ht]
  conv_lhs => whnf
  rw [hu]
  rfl

theorem skipSpace_writeString (s : String) (t : Text) :
    skipSpace (writeString s ++ t) = writeString s ++ t :=
  rfl

/-- Behind the colon stands what stands behind the name, but for white space. -/
theorem skipSpace_colon (layout : Layout) (t : Text) :
    ∃ u, skipSpace (layout.colon ++ t) = ':' :: u ∧ skipSpace u = skipSpace t := by
  cases layout with
  | compact => exact ⟨t, rfl, rfl⟩
  | pretty => exact ⟨' ' :: t, rfl, rfl⟩

/-- The name, the colon and the value are read one behind the other. -/
theorem exists_field (hvalue : Plain depth value ∧ ReadsBack layout depth value)
    (hfuel : (writeAt layout level value).length ≤ fuel) (hend : EndsNumber rest)
    (ht : skipSpace t =
      writeString name ++ (layout.colon ++ (writeAt layout level value ++ rest))) :
    ∃ u v w, skipSpace t = '\x22' :: u ∧ readString? u = some (name.toList, v) ∧
      skipSpace v = ':' :: w ∧ readValue? (fuel + 1) depth w = some (value, rest) := by
  obtain ⟨w, hcolon, hw⟩ := skipSpace_colon layout (writeAt layout level value ++ rest)
  have hread := hvalue.2 fuel level w rest hfuel hend
    (hw.trans (hvalue.1.skipSpace_write layout level rest))
  have hname : writeString name ++ (layout.colon ++ (writeAt layout level value ++ rest)) =
      '\x22' :: (name.toList.flatMap escape ++
        '\x22' :: (layout.colon ++ (writeAt layout level value ++ rest))) := by
    simp [writeString]
  exact ⟨_, _, w, ht.trans hname, readString?_write _ _, hcolon, hread⟩

theorem readFields?_of_skipSpace (h : skipSpace t = u) :
    readFields? (fuel + 1) depth t = readFields? (fuel + 1) depth u := by
  rw [readFields?.eq_def, readFields?.eq_def (fuel + 1) depth u]
  simp only [← h, skipSpace_skipSpace]

theorem readFields?_more (hvalue : Plain depth value ∧ ReadsBack layout depth value)
    (hfuel : (writeAt layout level value).length ≤ fuel) (hend : EndsNumber rest)
    (ht : skipSpace t =
      writeString name ++ (layout.colon ++ (writeAt layout level value ++ rest)))
    (hrest : skipSpace rest = ',' :: u) : readFields? (fuel + 2) depth t =
      (readFields? (fuel + 1) depth u).map
        fun (fields, after) => ((name, value) :: fields, after) := by
  obtain ⟨_, _, _, hquote, hname, hcolon, hread⟩ := exists_field hvalue hfuel hend ht
  rw [readFields?_of_skipSpace hquote]
  show (readString? _).bind _ = _
  rw [hname, Option.bind_some]
  simp only [hcolon, hread, Option.bind_some, hrest, String.ofList_toList]

theorem readFields?_last (hvalue : Plain depth value ∧ ReadsBack layout depth value)
    (hfuel : (writeAt layout level value).length ≤ fuel) (hend : EndsNumber rest)
    (ht : skipSpace t =
      writeString name ++ (layout.colon ++ (writeAt layout level value ++ rest)))
    (hrest : skipSpace rest = '\x7d' :: after) :
    readFields? (fuel + 2) depth t = some ([(name, value)], after) := by
  obtain ⟨_, _, _, hquote, hname, hcolon, hread⟩ := exists_field hvalue hfuel hend ht
  rw [readFields?_of_skipSpace hquote]
  show (readString? _).bind _ = _
  rw [hname, Option.bind_some]
  simp only [hcolon, hread, Option.bind_some, hrest, String.ofList_toList]

/-- The fields of an object are read up to the closing brace. -/
theorem readFields?_write (htail : skipSpace tail = '\x7d' :: after) (hend : EndsNumber tail)
    {fields : List (String × Json)} : ∀ (name : String) (value : Json) (fuel : Nat) {t : Text},
      (∀ f ∈ (name, value) :: fields, Plain depth f.2 ∧ ReadsBack layout depth f.2) →
      (writeAt layout level value).length + (writeFields layout level fields).length ≤ fuel →
      skipSpace t = writeString name ++ (layout.colon ++ (writeAt layout level value ++
        (writeFields layout level fields ++ tail))) →
      readFields? (fuel + 2) depth t = some ((name, value) :: fields, after) := by
  induction fields with
  | nil =>
    intro name value fuel t hfields hfuel ht
    have hvalue := hfields (name, value) List.mem_cons_self
    exact readFields?_last hvalue (Nat.le_of_add_right_le hfuel) hend ht htail
  | cons next fields ih =>
    intro name value fuel t hfields hfuel ht
    have hvalue := hfields (name, value) List.mem_cons_self
    have hrest : writeFields layout level (next :: fields) ++ tail = ',' :: (layout.break level ++
        (writeString next.1 ++ (layout.colon ++ (writeAt layout level next.2 ++
          (writeFields layout level fields ++ tail))))) := by
      simp only [writeFields, List.cons_append, List.append_assoc]
    rw [hrest] at ht
    have hfield := readFields?_more hvalue (Nat.le_of_add_right_le hfuel)
      (endsNumber_cons (by simp) _) ht rfl
    simp only [writeFields, List.length_cons, List.length_append] at hfuel
    obtain ⟨fuel, rfl⟩ : ∃ f, fuel = f + 1 := ⟨fuel - 1, by omega⟩
    have hnext := ih next.1 next.2 fuel (fun f hf => hfields f (List.mem_cons_of_mem _ hf))
      (by omega)
      ((skipSpace_break layout level _).trans (skipSpace_writeString next.1 _))
    rw [hfield, hnext]
    rfl

theorem readsBack_object {fields : List (String × Json)}
    (ascending : fields.Pairwise fun a b => a.1 < b.1)
    (hfields : ∀ f ∈ fields, Plain depth f.2 ∧ ReadsBack layout depth f.2) :
    ReadsBack layout (depth + 1) (.object fields) := by
  intro fuel level t rest hfuel _ ht
  cases fields with
  | nil => exact readValue?_emptyObject ht
  | cons field fields =>
    obtain ⟨name, value⟩ := field
    have hwrite : writeAt layout level (.object ((name, value) :: fields)) ++ rest =
        '\x7b' :: (layout.break (level + 1) ++ (writeString name ++ (layout.colon ++
          (writeAt layout (level + 1) value ++ (writeFields layout (level + 1) fields ++
            (layout.break level ++ '\x7d' :: rest)))))) := by
      simp [writeAt]
    rw [hwrite] at ht
    simp only [writeAt, List.length_cons, List.length_append] at hfuel
    obtain ⟨fuel, rfl⟩ : ∃ f, fuel = f + 2 := ⟨fuel - 2, by omega⟩
    have hbrace := skipSpace_writeString name (layout.colon ++ (writeAt layout (level + 1) value ++
      (writeFields layout (level + 1) fields ++ (layout.break level ++ '\x7d' :: rest))))
    have hread := readFields?_write (skipSpace_break layout level ('\x7d' :: rest))
      (endsNumber_break layout level (Or.inr rfl) rest) name value fuel hfields (by omega) hbrace
    rw [readValue?_object ht (skipSpace_break layout (level + 1) _), hread]
    exact congrArg (fun j => some (j, rest)) (ofFields_of_ascending ascending)

end Objects

/-! ## Texts -/

theorem Plain.readsBack {j : Json} (h : Plain depth j) (layout : Layout) :
    ReadsBack layout depth j := by
  induction h with
  | null => exact readsBack_null
  | bool _ b => exact readsBack_bool b
  | number _ low high => exact readsBack_integer low high
  | string _ s => exact readsBack_string s
  | array each ih => exact readsBack_array fun j hj => ⟨each j hj, ih j hj⟩
  | object ascending each ih => exact readsBack_object ascending fun f hf => ⟨each f hf, ih f hf⟩

/-- A plain value is the value of the text that it is written as, in any layout. -/
theorem Plain.read?_write {j : Json} (h : Plain maxDepth j) (layout : Layout) (level : Nat) :
    read? (writeAt layout level j) = some j := by
  have hstart := h.skipSpace_write layout level []
  rw [List.append_nil] at hstart
  have hread := h.readsBack layout (2 * (writeAt layout level j).length + 1) level
    (writeAt layout level j) [] (by omega) (fun c hc => by cases hc)
    (hstart.trans (List.append_nil _).symm)
  unfold read?
  rw [hread]
  rfl

end CommitStyle.Json
