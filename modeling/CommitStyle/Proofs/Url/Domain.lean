import CommitStyle.Proofs.Text.Cut
import CommitStyle.Proofs.Text.Piece
import CommitStyle.Url.Domain

/-!
# Spaces in domain names

A domain name is mapped, composed and cut into labels, which are read from their written form. A
space stays what it is in each of these steps, as it is neither composed from other characters nor a
part of a composed one (`Url.Domain.compose?_space`). Since no label may have one in the end, a name
with a space is none (`Url.Domain.space_not_mem_of_labels?`).
-/

namespace CommitStyle.Url

open Text

namespace Domain

/-! ## Composition -/

/-- The space is no composed character, and no part of one. -/
theorem compositionMap_space :
    (compositionMap.entries.toList.all fun (run, value) =>
      !run.contains 0x20 && !value.contains 0x20) = true := by
  decide +kernel

theorem value?_space : compositionMap.value? ' ' = none := by
  unfold CharMap.value?
  rw [Option.map_eq_none_iff, ← Array.find?_toList, List.find?_eq_none]
  intro e he
  have hentry := List.all_eq_true.1 compositionMap_space e he
  rw [Bool.and_eq_true] at hentry
  simpa using hentry.1

/-- A character that is in no table of parts is not taken apart. -/
theorem parts_succ_of_none {fuel : Nat} {c : Char} (hletters : syllableLetters? c = none)
    (hvalue : compositionMap.value? c = none) : parts (fuel + 1) c = [c] := by
  unfold parts
  rw [hletters, hvalue]

theorem parts_space (fuel : Nat) : parts fuel ' ' = [' '] := by
  cases fuel with
  | zero => rfl
  | succ fuel => exact parts_succ_of_none (by decide) value?_space

theorem compose?_space {b c d : Char} (h : compose? b c = some d) : b ≠ ' ' ∧ c ≠ ' ' := by
  have hspace : ' '.toNat = 0x20 := rfl
  unfold compose? at h
  dsimp only at h
  split at h
  · next hrange =>
    simp only [Bool.and_eq_true, decide_eq_true_eq] at hrange
    constructor <;> rintro rfl <;> omega
  split at h
  · next hrange =>
    simp only [Bool.and_eq_true, decide_eq_true_eq] at hrange
    constructor <;> rintro rfl <;> omega
  · obtain ⟨⟨run, value⟩, hfind, -⟩ := Option.map_eq_some_iff.1 h
    rw [← Array.find?_toList] at hfind
    have hvalue := List.find?_some hfind
    have hentry := List.all_eq_true.1 compositionMap_space _ (List.mem_of_find?_eq_some hfind)
    rw [Bool.and_eq_true] at hentry
    obtain rfl : value = [b.toNat, c.toNat] := by simpa using hvalue
    have hparts : 0x20 ≠ b.toNat ∧ 0x20 ≠ c.toNat := by simpa using hentry.2
    constructor <;> rintro rfl
    · exact hparts.1 rfl
    · exact hparts.2 rfl

theorem mem_insertMark {c d : Char} {t : Text} : d ∈ insertMark c t ↔ d = c ∨ d ∈ t := by
  induction t with
  | nil => simp [insertMark]
  | cons e t ih =>
    rw [insertMark]
    split
    · rw [List.mem_cons, ih, List.mem_cons]
      tauto
    · rw [List.mem_cons]

/-- What `sortMarks` does with one more character : it is finished with the run of marks, or the
character goes into the run. -/
def sortMark (s : Text × Text) (c : Char) : Text × Text :=
  if combiningClass c = 0 then (c :: (s.2 ++ s.1), []) else (s.1, insertMark c s.2)

theorem sortMarks_eq (t : Text) :
    sortMarks t = ((t.foldl sortMark ([], [])).2 ++ (t.foldl sortMark ([], [])).1).reverse :=
  rfl

theorem mem_sortMark {c d : Char} {s : Text × Text} :
    d ∈ (sortMark s c).2 ++ (sortMark s c).1 ↔ d = c ∨ d ∈ s.2 ++ s.1 := by
  unfold sortMark
  split
  · rw [List.nil_append, List.mem_cons]
  · rw [List.mem_append, mem_insertMark, List.mem_append, or_assoc]

theorem mem_foldl_sortMark {d : Char} (t : Text) (s : Text × Text) :
    d ∈ (t.foldl sortMark s).2 ++ (t.foldl sortMark s).1 ↔ d ∈ t ∨ d ∈ s.2 ++ s.1 := by
  induction t generalizing s with
  | nil => simp
  | cons c t ih =>
    rw [List.foldl_cons, ih, mem_sortMark, List.mem_cons]
    tauto

theorem mem_sortMarks {d : Char} {t : Text} : d ∈ sortMarks t ↔ d ∈ t := by
  rw [sortMarks_eq, List.mem_reverse, mem_foldl_sortMark]
  simp

namespace Composition

theorem mem_text {d : Char} {s : Composition} :
    d ∈ s.text ↔ d ∈ s.done ∨ s.base = some d ∨ d ∈ s.marks := by
  simp [text]

/-- A text in the making takes up a space, and keeps those that it has. -/
theorem space_mem_push {s : Composition} {c : Char} (h : c = ' ' ∨ ' ' ∈ s.text) :
    ' ' ∈ (s.push c).text := by
  rw [mem_text] at h
  unfold push
  dsimp only
  split
  · next b' hcomposed =>
    obtain ⟨b, hbase, hreached⟩ := Option.bind_eq_some_iff.1 hcomposed
    obtain ⟨hb, hc⟩ := compose?_space (Option.ite_none_right_eq_some.1 hreached).2
    have hbase' : s.base ≠ some ' ' := by simpa [hbase] using hb
    rw [mem_text]
    tauto
  · split
    · simp only [mem_text, List.mem_append, Option.mem_toList, Option.some.injEq,
        List.not_mem_nil]
      tauto
    · simp only [mem_text, List.mem_cons]
      tauto

theorem space_mem_foldl {t : Text} {s : Composition} (h : ' ' ∈ t ∨ ' ' ∈ s.text) :
    ' ' ∈ (t.foldl push s).text := by
  induction t generalizing s with
  | nil => simpa using h
  | cons c t ih =>
    refine ih ?_
    rw [List.mem_cons] at h
    rcases h with (hc | ht) | hs
    · exact Or.inr (space_mem_push (Or.inl hc.symm))
    · exact Or.inl ht
    · exact Or.inr (space_mem_push (Or.inr hs))

end Composition

theorem space_mem_composed {t : Text} (h : ' ' ∈ t) : ' ' ∈ composed t := by
  unfold composed
  split
  · exact h
  · refine Composition.space_mem_foldl (Or.inl (mem_sortMarks.2 (List.mem_flatMap.2 ⟨' ', h, ?_⟩)))
    rw [parts_space]
    exact List.mem_singleton_self _

theorem space_mem_mapped {t : Text} (h : ' ' ∈ t) : ' ' ∈ mapped t :=
  List.mem_flatMap.2 ⟨' ', h, by decide⟩

end Domain

/-! ## Written labels -/

namespace Punycode

/-- The digits of a number are read, and none of them is a space. -/
theorem exists_of_readDelta {bias k weight i : Nat} {t : Text} {r : Nat × Text}
    (h : readDelta bias t k weight i = some r) : ∃ digits, ' ' ∉ digits ∧ t = digits ++ r.2 := by
  have hdigit {c : Char} {d : Nat} (hd : digit? c = some d) : c ≠ ' ' := by
    rintro rfl
    cases hd
  fun_induction readDelta bias t k weight i with
  | case1 => cases h
  | case2 => cases h
  | case3 c rest k weight i d hd hlast =>
    cases h
    exact ⟨[c], by simpa using (hdigit hd).symm, rfl⟩
  | case4 c rest k weight i d hd hlast ih =>
    obtain ⟨digits, hdigits, rfl⟩ := ih h
    exact ⟨c :: digits, by simpa using ⟨(hdigit hd).symm, hdigits⟩, rfl⟩

/-- Insertions take nothing out of a text, and are written without spaces. -/
theorem space_of_insertAll {bias n i : Nat} {out t u : Text}
    (h : insertAll bias n i out t = some u) : ' ' ∉ t ∧ (' ' ∈ out → ' ' ∈ u) := by
  fun_induction insertAll bias n i out t with
  | case1 =>
    cases h
    exact ⟨List.not_mem_nil, id⟩
  | case2 => cases h
  | case3 bias n i out c rest i' rest' hread size n' hvalid ih =>
    obtain ⟨digits, hdigits, hsplit⟩ := exists_of_readDelta hread
    obtain ⟨hrest, hkeep⟩ := ih h
    refine ⟨?_, fun hout => hkeep ?_⟩
    · rw [hsplit, List.mem_append, not_or]
      exact ⟨hdigits, hrest⟩
    · have hplace : i' % size ≤ out.length := Nat.le_of_lt_succ (Nat.mod_lt _ (Nat.succ_pos _))
      exact (List.mem_insertIdx hplace).2 (Or.inr hout)
  | case4 => cases h

/-- A text is cut behind its last hyphen. -/
theorem exists_plain (t : Text) : ∃ front, t = front ++ (t.reverse.takeWhile (· ≠ '-')).reverse ∧
    (front = [] ∨ front.getLast? = some '-') := by
  refine ⟨(t.reverse.dropWhile (· ≠ '-')).reverse, ?_, ?_⟩
  · rw [← List.reverse_append, List.takeWhile_append_dropWhile, List.reverse_reverse]
  · rw [List.reverse_eq_nil_iff, List.getLast?_reverse]
    cases hdrop : t.reverse.dropWhile (· ≠ '-') with
    | nil => exact Or.inl rfl
    | cons c rest =>
      have hstop := stop_dropWhile (p := (· ≠ '-')) t.reverse c (by rw [hdrop]; rfl)
      exact Or.inr (by simpa using hstop)

theorem space_mem_decode? {t u : Text} (h : decode? t = some u) (ht : ' ' ∈ t) : ' ' ∈ u := by
  obtain ⟨front, hsplit, hfront⟩ := exists_plain t
  unfold decode? at h
  dsimp only at h
  generalize (t.reverse.takeWhile (· ≠ '-')).reverse = digits at hsplit h
  subst hsplit
  rw [List.length_append, Nat.add_sub_cancel, List.take_left] at h
  split at h
  · obtain ⟨hdigits, hkeep⟩ := space_of_insertAll h
    refine hkeep ?_
    split at hdigits
    · exact absurd ht hdigits
    · rcases hfront with rfl | hlast
      · exact absurd ht hdigits
      · -- The space is in front of the hyphen.
        obtain ⟨plain, rfl⟩ := List.getLast?_eq_some_iff.1 hlast
        rw [List.dropLast_concat]
        simpa [hdigits] using ht
  · cases h

end Punycode

/-! ## Labels -/

namespace Domain

theorem Label.space_mem_unicode? {label u : Text} (h : Label.unicode? label = some u)
    (hl : ' ' ∈ label) : ' ' ∈ u := by
  unfold unicode? at h
  split at h
  · next hwritten =>
    obtain ⟨rest, rfl⟩ := List.isPrefixOf_iff_prefix.1 hwritten
    have hrest : ' ' ∈ rest := by
      rcases List.mem_append.1 hl with hin | hin
      · exact absurd hin (by decide)
      · exact hin
    split at h
    · have hdecode := (Option.filter_eq_some_iff.1 h).1
      exact Punycode.space_mem_decode? hdecode hrest
    · cases h
  · split at h
    · cases h
      exact hl
    · cases h

theorem exists_of_mapM {α β : Type} {f : α → Option β} {as : List α} {bs : List β}
    (h : as.mapM f = some bs) {a : α} (ha : a ∈ as) : ∃ b ∈ bs, f a = some b := by
  induction as generalizing bs with
  | nil => cases ha
  | cons a' as ih =>
    rw [List.mapM_cons] at h
    obtain ⟨b, hb, h⟩ := Option.bind_eq_some_iff.1 h
    obtain ⟨bs', hbs, h⟩ := Option.bind_eq_some_iff.1 h
    cases h
    rcases List.mem_cons.1 ha with rfl | ha
    · exact ⟨b, List.mem_cons_self, hb⟩
    · obtain ⟨b', hb', hf⟩ := ih hbs ha
      exact ⟨b', List.mem_cons_of_mem _ hb', hf⟩

theorem space_not_mem_of_labels? {name : Text} {labels : List Text}
    (h : labels? name = some labels) : ' ' ∉ name := by
  intro hname
  have hmem := space_mem_composed (space_mem_mapped hname)
  rw [← intercalate_pieces '.' (composed (mapped name))] at hmem
  rcases mem_intercalate hmem with hdot | ⟨p, hp, hpiece⟩
  · cases hdot
  unfold labels? at h
  split at h
  · cases h
  · next labels' hread =>
    obtain ⟨label, hlabel, hunicode⟩ := exists_of_mapM hread hp
    have hspace := Label.space_mem_unicode? hunicode hpiece
    have hforbidden : labels'.any (·.any isForbidden) = true :=
      List.any_eq_true.2 ⟨label, hlabel, List.any_eq_true.2 ⟨' ', hspace, by decide⟩⟩
    rw [if_pos hforbidden] at h
    cases h

end Domain
end CommitStyle.Url
