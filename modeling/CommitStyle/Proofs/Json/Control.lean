import CommitStyle.Proofs.Json.Object
import CommitStyle.Proofs.Json.Token

/-!
# Control characters in JSON

A control character in a string is written as an escape (`Json.printable_escape`), so the only ones
in the text of a value are the line feeds between its lines (`Json.Plain.printable`). The induction
is on the value.
-/

namespace CommitStyle.Json

/-- The text has no control character but line feeds. -/
def Printable (t : Text) : Prop :=
  ∀ c ∈ t, 0x20 ≤ c.toNat ∨ c = '\n'

instance (t : Text) : Decidable (Printable t) :=
  List.decidableBAll _ t

theorem printable_cons {c : Char} {t : Text} :
    Printable (c :: t) ↔ (0x20 ≤ c.toNat ∨ c = '\n') ∧ Printable t :=
  List.forall_mem_cons

theorem printable_append {a b : Text} : Printable (a ++ b) ↔ Printable a ∧ Printable b :=
  List.forall_mem_append

/-! ## Strings and numbers -/

theorem le_toNat_hexDigit (n : Nat) : 0x20 ≤ (hexDigit n).toNat := by
  have hdigits : ∀ d < 16, 0x20 ≤ (Nat.digitChar d).toNat := by decide
  exact hdigits _ (Nat.mod_lt _ (by decide))

theorem printable_escape (c : Char) : Printable (escape c) := by
  have hstart : Printable ['\\', 'u', '0', '0'] := by decide
  unfold escape
  split
  iterate 7 decide
  split
  · refine printable_append.2 ⟨hstart, ?_⟩
    simp [Printable, le_toNat_hexDigit]
  · next hcontrol => simpa [Printable] using Or.inl hcontrol

theorem printable_writeString (s : String) : Printable (writeString s) := by
  refine printable_append.2 ⟨printable_cons.2 ⟨by decide, fun c hc => ?_⟩, by decide⟩
  obtain ⟨d, -, hd⟩ := List.mem_flatMap.1 hc
  exact printable_escape d c hd

theorem printable_toDigits (n : Nat) : Printable (Nat.toDigits 10 n) := by
  intro c hc
  have hdigit := Nat.isDigit_of_mem_toDigits (by decide) (by decide) hc
  exact Or.inl (Nat.le_trans (by decide) (Char.isDigit_iff_toNat.1 hdigit).1)

theorem printable_integer (n : Int) : Printable (Number.integer n).write := by
  cases n with
  | ofNat n => exact (write_natCast n).symm ▸ printable_toDigits n
  | negSucc n =>
    rw [write_negSucc, printable_cons]
    exact ⟨by decide, printable_toDigits (n + 1)⟩

/-! ## Values -/

section Layouts

variable {layout : Layout} {level : Nat}

theorem printable_break (layout : Layout) (level : Nat) : Printable (layout.break level) := by
  cases layout with
  | compact => exact fun c hc => by cases hc
  | pretty =>
    refine printable_cons.2 ⟨by decide, fun c hc => ?_⟩
    rw [List.eq_of_mem_replicate hc]
    decide

theorem printable_colon (layout : Layout) : Printable layout.colon := by
  cases layout <;> decide

theorem printable_writeItems {items : List Json}
    (h : ∀ j ∈ items, Printable (writeAt layout level j)) :
    Printable (writeItems layout level items) := by
  induction items with
  | nil => exact fun c hc => by cases hc
  | cons j items ih =>
    rw [List.forall_mem_cons] at h
    simp only [writeItems, printable_cons, printable_append]
    exact ⟨by decide, ⟨printable_break layout level, h.1⟩, ih h.2⟩

theorem printable_writeFields {fields : List (String × Json)}
    (h : ∀ f ∈ fields, Printable (writeAt layout level f.2)) :
    Printable (writeFields layout level fields) := by
  induction fields with
  | nil => exact fun c hc => by cases hc
  | cons f fields ih =>
    rw [List.forall_mem_cons] at h
    simp only [writeFields, printable_cons, printable_append]
    exact ⟨by decide, ⟨⟨⟨printable_break layout level, printable_writeString f.1⟩,
      printable_colon layout⟩, h.1⟩, ih h.2⟩

end Layouts

/-- A value is written without control characters, but for the line feeds of its layout. -/
theorem Plain.printable {depth : Nat} {j : Json} (h : Plain depth j) (layout : Layout) :
    ∀ level, Printable (writeAt layout level j) := by
  induction h with
  | null => simp [writeAt, Printable]
  | bool _ b => cases b <;> simp [writeAt, Printable]
  | number => exact fun _ => printable_integer _
  | string _ s => exact fun _ => printable_writeString s
  | @array _ items _ ih =>
    intro level
    cases items with
    | nil => simp [writeAt, Printable]
    | cons item items =>
      rw [List.forall_mem_cons] at ih
      simp only [writeAt, printable_cons, printable_append]
      exact ⟨by decide, ⟨⟨⟨printable_break layout _, ih.1 _⟩,
        printable_writeItems fun j hj => ih.2 j hj _⟩, printable_break layout level⟩, by decide⟩
  | @object _ fields _ _ ih =>
    intro level
    cases fields with
    | nil => simp [writeAt, Printable]
    | cons field fields =>
      rw [List.forall_mem_cons] at ih
      simp only [writeAt, printable_cons, printable_append]
      exact ⟨by decide, ⟨⟨⟨⟨⟨printable_break layout _, printable_writeString field.1⟩,
        printable_colon layout⟩, ih.1 _⟩, printable_writeFields fun f hf => ih.2 f hf _⟩,
        printable_break layout level⟩, by decide⟩

end CommitStyle.Json
