import CommitStyle.Config.Basic
import Mathlib.Data.List.Induction
import Mathlib.Data.List.Nodup

/-!
# The words of a configuration

The abbreviations of a configuration are the standard ones with the entries of the configuration
put in, one after another. A word that is there keeps its place (`Abbreviation.map_word_put`), so
the list grows at its end only, by the new words in the order of their first keys
(`Abbreviation.exists_adds`), and it has every word once. The replacement of a word is taken over
from the last key that is about it (`Abbreviation.replacement_putAll`). A key is about its word
in lower case, so keys that differ in the configuration can be about one word.
-/

namespace CommitStyle.Abbreviation

/-! ## Putting entries in -/

/-- The word that a key of a configuration is about. -/
def keyWord (key : String) : Text :=
  Text.lowercase key.toList

/-- The list with the entries put in, one after another. -/
def putAll (entries : List (String × String)) (list : List Abbreviation) : List Abbreviation :=
  entries.foldl (fun list e => put (keyWord e.1) e.2 list) list

theorem configured_eq_putAll (entries : Table String) :
    configured entries = putAll entries.entries standard :=
  rfl

theorem putAll_concat (entries : List (String × String)) (e : String × String)
    (list : List Abbreviation) :
    putAll (entries ++ [e]) list = put (keyWord e.1) e.2 (putAll entries list) := by
  unfold putAll
  rw [List.foldl_concat]

section Put

variable {w : Text} {r : String} {list : List Abbreviation}

theorem map_word_put (w : Text) (r : String) (list : List Abbreviation) :
    (put w r list).map word =
      if w ∈ list.map word then list.map word else list.map word ++ [w] := by
  induction list with
  | nil => rfl
  | cons a list ih =>
    rw [put]
    split
    · next h =>
      subst h
      rw [if_pos (by simp)]
      rfl
    · next h =>
      rw [List.map_cons, ih]
      simp only [List.map_cons, List.mem_cons, Ne.symm h, false_or]
      split <;> rfl

theorem mem_put (hnodup : (list.map word).Nodup) {a : Abbreviation} :
    a ∈ put w r list ↔ a = ⟨w, r⟩ ∨ a.word ≠ w ∧ a ∈ list := by
  induction list with
  | nil => simp [put]
  | cons b list ih =>
    rw [List.map_cons, List.nodup_cons] at hnodup
    rw [put]
    split
    · next h =>
      have hrest (ha : a ∈ list) : a.word ≠ w := fun hw =>
        hnodup.1 (h.trans hw.symm ▸ List.mem_map_of_mem ha)
      rw [List.mem_cons, List.mem_cons]
      constructor
      · exact Or.imp_right fun ha => ⟨hrest ha, Or.inr ha⟩
      · rintro (ha | ⟨hw, rfl | ha⟩)
        · exact Or.inl ha
        · exact absurd h hw
        · exact Or.inr ha
    · next h =>
      rw [List.mem_cons, ih hnodup.2, List.mem_cons]
      constructor
      · rintro (rfl | ha | ⟨hw, ha⟩)
        · exact Or.inr ⟨h, Or.inl rfl⟩
        · exact Or.inl ha
        · exact Or.inr ⟨hw, Or.inr ha⟩
      · rintro (ha | ⟨hw, ha | ha⟩)
        · exact Or.inr (Or.inl ha)
        · exact Or.inl ha
        · exact Or.inr (Or.inr ⟨hw, ha⟩)

end Put

/-! ## The words that are added -/

/-- The members of `keys` that are not among `words`, each once, in the order in which they first
stand in `keys`. -/
structure Adds (words keys added : List Text) : Prop where
  mem_iff : ∀ w, w ∈ added ↔ w ∈ keys ∧ w ∉ words
  inOrder : added.Pairwise fun v w => keys.idxOf v < keys.idxOf w

namespace Adds

variable {words keys added : List Text} {w : Text}

theorem nil (words : List Text) : Adds words [] [] where
  mem_iff := by simp
  inOrder := .nil

theorem nodup (h : Adds words keys added) (hwords : words.Nodup) : (words ++ added).Nodup := by
  have hadded : added.Nodup := by
    refine h.inOrder.imp fun hlt heq => ?_
    rw [heq] at hlt
    exact Nat.lt_irrefl _ hlt
  refine List.nodup_append.2 ⟨hwords, hadded, fun v hv w hw hvw => ?_⟩
  exact ((h.mem_iff w).1 hw).2 (hvw ▸ hv)

theorem inOrder_concat (h : Adds words keys added) (w : Text) :
    added.Pairwise fun u v => (keys ++ [w]).idxOf u < (keys ++ [w]).idxOf v := by
  refine h.inOrder.imp_of_mem fun hu hv hlt => ?_
  rwa [List.idxOf_append_of_mem ((h.mem_iff _).1 hu).1,
    List.idxOf_append_of_mem ((h.mem_iff _).1 hv).1]

/-- A key about a word that is there already adds nothing. -/
theorem concat_of_mem (h : Adds words keys added) (hw : w ∈ words ++ added) :
    Adds words (keys ++ [w]) added where
  mem_iff v := by
    rw [h.mem_iff, List.mem_append, List.mem_singleton]
    constructor
    · exact fun hv => ⟨Or.inl hv.1, hv.2⟩
    · rintro ⟨hv | rfl, hnew⟩
      · exact ⟨hv, hnew⟩
      · exact (h.mem_iff v).1 ((List.mem_append.1 hw).resolve_left hnew)
  inOrder := h.inOrder_concat w

/-- A key about any other word adds it at the end. -/
theorem concat_of_not_mem (h : Adds words keys added) (hw : w ∉ words ++ added) :
    Adds words (keys ++ [w]) (added ++ [w]) := by
  rw [List.mem_append, not_or] at hw
  have hkey : w ∉ keys := fun hmem => hw.2 ((h.mem_iff w).2 ⟨hmem, hw.1⟩)
  constructor
  · intro v
    rw [List.mem_append, List.mem_append, h.mem_iff, List.mem_singleton]
    constructor
    · rintro (hv | rfl)
      · exact ⟨Or.inl hv.1, hv.2⟩
      · exact ⟨Or.inr rfl, hw.1⟩
    · rintro ⟨hv | hv, hnew⟩
      · exact Or.inl ⟨hv, hnew⟩
      · exact Or.inr hv
  · refine List.pairwise_append.2 ⟨h.inOrder_concat w, List.pairwise_singleton _ _, ?_⟩
    intro v hv u hu
    obtain rfl := List.mem_singleton.1 hu
    have hv := ((h.mem_iff v).1 hv).1
    rw [List.idxOf_append_of_mem hv, List.idxOf_append_of_notMem hkey]
    exact Nat.lt_add_right _ (List.idxOf_lt_length_of_mem hv)

end Adds

theorem exists_adds (entries : List (String × String)) (list : List Abbreviation) :
    ∃ added, (putAll entries list).map word = list.map word ++ added ∧
      Adds (list.map word) (entries.map fun e => keyWord e.1) added := by
  induction entries using List.reverseRecOn with
  | nil => exact ⟨[], (List.append_nil _).symm, .nil _⟩
  | append_singleton entries e ih =>
    obtain ⟨added, hwords, hadds⟩ := ih
    rw [putAll_concat, map_word_put, hwords, List.map_append, List.map_singleton]
    split
    · next hmem => exact ⟨added, rfl, hadds.concat_of_mem hmem⟩
    · next hnew =>
      exact ⟨added ++ [keyWord e.1], List.append_assoc _ _ _, hadds.concat_of_not_mem hnew⟩

theorem nodup_putAll {list : List Abbreviation} (h : (list.map word).Nodup)
    (entries : List (String × String)) : ((putAll entries list).map word).Nodup := by
  obtain ⟨added, hwords, hadds⟩ := exists_adds entries list
  exact hwords ▸ hadds.nodup h

theorem nodup_standard : (standard.map word).Nodup := by
  have hkeys : (standardPairs.map Prod.fst).Nodup := by decide +kernel
  have hwords : standard.map word = (standardPairs.map Prod.fst).map String.toList := by
    rw [standard, List.map_map, List.map_map]
    rfl
  rw [hwords]
  exact hkeys.map fun _ _ => String.toList_injective

/-- Every configuration has each word once. -/
theorem nodup_configured (entries : Table String) : ((configured entries).map word).Nodup := by
  rw [configured_eq_putAll]
  exact nodup_putAll nodup_standard entries.entries

/-! ## The replacements -/

/-- The last of the entries that are about the word has this value. -/
def LastFor (entries : List (String × String)) (w : Text) (value : String) : Prop :=
  ∃ before key after, entries = before ++ (key, value) :: after ∧ keyWord key = w ∧
    ∀ e ∈ after, keyWord e.1 ≠ w

theorem LastFor.concat {entries : List (String × String)} {w : Text} {value : String}
    (h : LastFor entries w value) {e : String × String} (he : keyWord e.1 ≠ w) :
    LastFor (entries ++ [e]) w value := by
  obtain ⟨before, key, after, rfl, hkey, hafter⟩ := h
  refine ⟨before, key, after ++ [e], by simp, hkey, ?_⟩
  rw [List.forall_mem_append, List.forall_mem_singleton]
  exact ⟨hafter, he⟩

/-- What the list says of a word is what the last entry about it says, or else what the list said
before. -/
theorem replacement_putAll {list : List Abbreviation} (hnodup : (list.map word).Nodup)
    (entries : List (String × String)) {a : Abbreviation} (ha : a ∈ putAll entries list) :
    LastFor entries a.word a.replacement ∨
      a ∈ list ∧ ∀ e ∈ entries, keyWord e.1 ≠ a.word := by
  induction entries using List.reverseRecOn with
  | nil => exact Or.inr ⟨ha, List.forall_mem_nil _⟩
  | append_singleton entries e ih =>
    rw [putAll_concat, mem_put (nodup_putAll hnodup entries)] at ha
    rcases ha with rfl | ⟨hword, ha⟩
    · exact Or.inl ⟨entries, e.1, [], rfl, rfl, List.forall_mem_nil _⟩
    · rcases ih ha with hlast | ⟨hmem, hnone⟩
      · exact Or.inl (hlast.concat hword.symm)
      · refine Or.inr ⟨hmem, ?_⟩
        rw [List.forall_mem_append, List.forall_mem_singleton]
        exact ⟨hnone, hword.symm⟩

/-! ## The abbreviations of a configuration -/

/-- A configuration has every word once : first the standard words in their order, then the keys in
lower case that are none of them, in the order in which the first key for each stands in the
configuration. A word is replaced by the value of the last key for it, and a standard word without
a key by its standard replacement. -/
theorem abbreviations_ordered (c : Config) :
    (c.options.abbreviations.map word).Nodup ∧
    (∃ added, c.options.abbreviations.map word = standard.map word ++ added ∧
      Adds (standard.map word) (c.abbreviations.keys.map keyWord) added) ∧
    ∀ a ∈ c.options.abbreviations, LastFor c.abbreviations.entries a.word a.replacement ∨
      a ∈ standard ∧ ∀ key ∈ c.abbreviations.keys, keyWord key ≠ a.word := by
  have hlist : c.options.abbreviations = putAll c.abbreviations.entries standard :=
    configured_eq_putAll c.abbreviations
  rw [hlist]
  refine ⟨nodup_putAll nodup_standard _, ?_, fun a ha => ?_⟩
  · rw [Table.keys, List.map_map]
    exact exists_adds c.abbreviations.entries standard
  · rw [Table.keys, List.forall_mem_map]
    exact replacement_putAll nodup_standard c.abbreviations.entries ha

/-- Two keys for one new word, and two for a word of the standard list. -/
theorem abbreviations_ordered_folded :
    ∃ c : Config, c.abbreviations.keys = ["KUBE", "With", "kube", "wITH"] ∧
      (c.options.abbreviations.map word).Nodup ∧
      (∃ added, c.options.abbreviations.map word = standard.map word ++ added ∧
        Adds (standard.map word) (c.abbreviations.keys.map keyWord) added) ∧
      ⟨"with".toList, "&"⟩ ∈ c.options.abbreviations ∧
      LastFor c.abbreviations.entries "with".toList "&" := by
  obtain ⟨c, hc⟩ : ∃ c : Config, c =
      { abbreviations := .ofList [("KUBE", "k"), ("With", "+"), ("kube", "k8s"), ("wITH", "&")] } :=
    ⟨_, rfl⟩
  have hkeys : c.abbreviations.keys = ["KUBE", "With", "kube", "wITH"] := by
    rw [hc]
    decide
  have hmem : ⟨"with".toList, "&"⟩ ∈ c.options.abbreviations := by
    rw [hc]
    decide +kernel
  obtain ⟨hnodup, hwords, hreplacement⟩ := abbreviations_ordered c
  refine ⟨c, hkeys, hnodup, hwords, hmem, (hreplacement _ hmem).resolve_right fun h => ?_⟩
  exact h.2 "With" (by simp [hkeys]) (by decide)

end CommitStyle.Abbreviation
