import CommitStyle.Table
import Mathlib.Data.List.Basic

/-!
# Tables as functions of their keys

A table is determined by what it has for each key (`Table.ext_find?`), since its entries ascend. So
a law of tables is one of optional values : a table laid over another has, for every key, the value
of the upper table if there is one (`Table.find?_overlay`), and overlays are associative and
idempotent because `Option.or` is.
-/

namespace CommitStyle.Table

variable {α β : Type}

/-! ## Entries and values -/

theorem lookup_eq_some_iff {es : List (String × α)} (hes : es.Pairwise fun a b => a.1 ≠ b.1)
    {k : String} {v : α} : es.lookup k = some v ↔ (k, v) ∈ es := by
  induction es with
  | nil => simp
  | cons a es ih =>
    obtain ⟨ha, hes⟩ := List.pairwise_cons.1 hes
    rw [lookup_cons_ite, List.mem_cons]
    split
    · next hk =>
      rw [Option.some.injEq, hk]
      constructor
      · rintro rfl
        exact Or.inl rfl
      · rintro (heq | hmem)
        · exact (congrArg Prod.snd heq).symm
        · exact (ha _ hmem rfl).elim
    · next hk =>
      rw [ih hes]
      constructor
      · exact Or.inr
      · rintro (rfl | hmem)
        · exact absurd rfl hk
        · exact hmem

theorem distinct (t : Table α) : t.entries.Pairwise fun a b => a.1 ≠ b.1 :=
  t.ascending.imp String.ne_of_lt

/-- The entries of a table are its values. -/
theorem mem_entries_iff {t : Table α} {k : String} {v : α} :
    (k, v) ∈ t.entries ↔ t.find? k = some v :=
  (lookup_eq_some_iff t.distinct).symm

/-- The keys differ, so the last entry with a key is the only one. -/
theorem lookup_reverse_entries (t : Table α) (k : String) :
    t.entries.reverse.lookup k = t.find? k := by
  refine Option.ext fun v => ?_
  have hdistinct : t.entries.reverse.Pairwise fun a b => a.1 ≠ b.1 :=
    List.pairwise_reverse.2 (t.distinct.imp Ne.symm)
  rw [lookup_eq_some_iff hdistinct, List.mem_reverse, mem_entries_iff]

theorem mem_keys_iff {t : Table α} {k : String} : k ∈ t.keys ↔ ∃ v, t.find? k = some v := by
  unfold keys
  rw [List.mem_map]
  constructor
  · rintro ⟨⟨key, v⟩, h, rfl⟩
    exact ⟨v, mem_entries_iff.1 h⟩
  · rintro ⟨v, h⟩
    exact ⟨(k, v), mem_entries_iff.2 h, rfl⟩

/-- Two tables that have the same for every key are the same. -/
theorem ext_find? {s t : Table α} (h : ∀ k, s.find? k = t.find? k) : s = t := by
  have hnodup (u : Table α) : u.entries.Nodup :=
    u.distinct.imp fun hne heq => hne (congrArg Prod.fst heq)
  have hperm : s.entries.Perm t.entries := by
    refine (List.perm_ext_iff_of_nodup (hnodup s) (hnodup t)).2 fun ⟨k, v⟩ => ?_
    rw [mem_entries_iff, mem_entries_iff, h k]
  -- Both lists ascend, and two ascending lists of the same entries are equal.
  have hentries : s.entries = t.entries :=
    hperm.eq_of_pairwise (fun a b _ _ hab hba => absurd hab (String.lt_asymm hba))
      s.ascending t.ascending
  cases s
  cases t
  cases hentries
  rfl

@[simp] theorem find?_empty (k : String) : (∅ : Table α).find? k = none :=
  rfl

@[simp] theorem find?_map (f : α → β) (t : Table α) (k : String) :
    (t.map f).find? k = (t.find? k).map f := by
  obtain ⟨es, hes⟩ := t
  show (es.map fun e => (e.1, f e.2)).lookup k = (es.lookup k).map f
  clear hes
  induction es with
  | nil => rfl
  | cons a es ih =>
    rw [List.map_cons, lookup_cons_ite, lookup_cons_ite, ih]
    by_cases hk : k = a.1 <;> simp [hk]

/-! ## Adding entries -/

/-- Of the entries that are added, the last one with the key counts. -/
theorem find?_foldl_insert (es : List (String × α)) (k : String) : ∀ t : Table α,
    (es.foldl (fun t e => t.insert e.1 e.2) t).find? k = (es.reverse.lookup k).or (t.find? k) := by
  induction es with
  | nil =>
    intro t
    rfl
  | cons a es ih =>
    intro t
    rw [List.foldl_cons, ih, find?_insert, List.reverse_cons, List.lookup_append,
      lookup_cons_ite, Option.or_assoc]
    split <;> rfl

@[simp] theorem find?_ofList (es : List (String × α)) (k : String) :
    (ofList es).find? k = es.reverse.lookup k := by
  unfold ofList
  rw [find?_foldl_insert]
  exact Option.or_none

theorem mem_of_mem_ofList {es : List (String × α)} {e : String × α}
    (h : e ∈ (ofList es).entries) : e ∈ es := by
  rw [mem_entries_iff, find?_ofList] at h
  obtain ⟨before, after, hes, -⟩ := List.lookup_eq_some_iff.1 h
  exact List.mem_reverse.1 (hes ▸ List.mem_append_right before List.mem_cons_self)

/-- A table is made of its entries. -/
theorem ofList_entries (t : Table α) : ofList t.entries = t :=
  ext_find? fun k => by rw [find?_ofList, lookup_reverse_entries]

/-! ## One table over another -/

/-- What the upper table has counts, and elsewhere what the lower one has. -/
@[simp] theorem find?_overlay (base upper : Table α) (k : String) :
    (base.overlay upper).find? k = (upper.find? k).or (base.find? k) := by
  unfold overlay
  rw [find?_foldl_insert, lookup_reverse_entries]

theorem overlay_assoc (a b c : Table α) :
    (a.overlay b).overlay c = a.overlay (b.overlay c) :=
  ext_find? fun k => by simp only [find?_overlay, Option.or_assoc]

theorem overlay_self (a : Table α) : a.overlay a = a :=
  ext_find? fun k => by rw [find?_overlay, Option.or_self]

theorem empty_overlay (a : Table α) : (∅ : Table α).overlay a = a :=
  ext_find? fun k => by rw [find?_overlay, find?_empty, Option.or_none]

theorem overlay_empty (a : Table α) : a.overlay ∅ = a :=
  rfl

end CommitStyle.Table
