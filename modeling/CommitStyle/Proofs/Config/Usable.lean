import CommitStyle.Proofs.Config.Layers

/-!
# Usable configurations

Validation looks at one document at a time. What it asks for (`Config.Usable`) is kept when a usable
configuration is laid over another, so that it holds of every configuration that layers of accepted
documents make up (`Config.Reached.usable`), and the rules never read a limit of zero
(`Config.Usable.options_pos`).
-/

namespace CommitStyle.Config

/-- Every entry is a rule's, and no limit is zero. -/
structure Usable (c : Config) : Prop where
  known : ∀ name ∈ c.rules.keys, ∃ r : Rule, r.name = name
  limit_ne_zero : ∀ l, c.limits.get l ≠ 0
  maxLength_ne_zero : ∀ name s, c.rules.find? name = some s → s.maxLength ≠ some 0

/-! ## What validation asks for -/

theorem unknownRule?_eq_none_iff {name : String} :
    unknownRule? name = none ↔ ∃ r : Rule, r.name = name := by
  unfold unknownRule? Rule.ofName?
  cases h : Rule.all.find? (fun r => r.name == name) with
  | none =>
    rw [List.find?_eq_none] at h
    simpa using fun r => by simpa using h r r.mem_all
  | some r =>
    have hname : r.name = name := by simpa using List.find?_some h
    simpa using ⟨r, hname⟩

theorem zeroLength?_eq_none_iff {entry : String × UInt64} :
    zeroLength? entry = none ↔ entry.2 ≠ 0 := by
  obtain ⟨key, n⟩ := entry
  unfold zeroLength?
  by_cases h : n = 0 <;> simp [h]

theorem forall_mem_lengths_iff {c : Config} : (∀ entry ∈ c.lengths, entry.2 ≠ 0) ↔
    (∀ l, c.limits.get l ≠ 0) ∧
      ∀ name s, c.rules.find? name = some s → s.maxLength ≠ some 0 := by
  unfold lengths
  simp only [List.forall_mem_cons, List.mem_filterMap]
  constructor
  · rintro ⟨hheader, hbody, hfooter, hrules⟩
    refine ⟨fun l => ?_, fun name s hs hmax => ?_⟩
    · cases l with
      | header => exact hheader
      | body => exact hbody
      | footer => exact hfooter
    · exact hrules (name, 0) ⟨(name, s), Table.mem_entries_iff.2 hs, by simp [hmax]⟩ rfl
  · rintro ⟨hlimits, hrules⟩
    refine ⟨hlimits .header, hlimits .body, hlimits .footer, ?_⟩
    rintro ⟨name, n⟩ ⟨⟨key, s⟩, hs, hentry⟩ hzero
    obtain ⟨m, hmax, hm⟩ := Option.map_eq_some_iff.1 hentry
    cases hm
    cases hzero
    exact hrules key s (Table.mem_entries_iff.1 hs) hmax

/-- Validation accepts exactly the usable configurations. -/
theorem validate_eq_ok_iff_usable {c : Config} : c.validate = .ok c ↔ c.Usable := by
  rw [validate_eq_ok_iff]
  unfold fault?
  rw [Option.or_eq_none_iff, List.findSome?_eq_none_iff, List.findSome?_eq_none_iff]
  simp only [unknownRule?_eq_none_iff, zeroLength?_eq_none_iff, forall_mem_lengths_iff, true_and]
  constructor
  · rintro ⟨hknown, hlimits, hrules⟩
    exact ⟨hknown, hlimits, hrules⟩
  · rintro ⟨hknown, hlimits, hrules⟩
    exact ⟨hknown, hlimits, hrules⟩

theorem usable_of_ofToml {t : Text} {c : Config} (h : ofToml t = .ok c) : c.Usable := by
  obtain ⟨-, -, -, -, -, hfault⟩ := exists_of_ofToml h
  exact validate_eq_ok_iff_usable.1 (validate_eq_ok_iff.2 ⟨rfl, hfault⟩)

namespace Usable

/-! ## Layers of usable configurations -/

theorem default : ({} : Config).Usable := by
  refine ⟨nofun, fun l => ?_, nofun⟩
  cases l <;> decide

/-- Laying one usable configuration over another brings in no entry and no limit of its own. -/
theorem overlay {base upper : Config} (hbase : base.Usable) (hupper : upper.Usable) :
    (base.overlay upper).Usable where
  known name hname := by
    obtain ⟨s, hs⟩ := Table.mem_keys_iff.1 hname
    rw [find?_rules_overlay, Option.or_eq_some_iff] at hs
    -- An entry of the overlay is an entry of one of the two as a whole.
    rcases hs with hs | ⟨-, hs⟩
    · exact hupper.known name (Table.mem_keys_iff.2 ⟨s, hs⟩)
    · exact hbase.known name (Table.mem_keys_iff.2 ⟨s, hs⟩)
  limit_ne_zero l := by
    show (base.limits.overlay upper.limits).get l ≠ 0
    rw [Limits.get_overlay]
    split
    · exact hbase.limit_ne_zero l
    · exact hupper.limit_ne_zero l
  maxLength_ne_zero name s hs := by
    rw [find?_rules_overlay, Option.or_eq_some_iff] at hs
    rcases hs with hs | ⟨-, hs⟩
    · exact hupper.maxLength_ne_zero name s hs
    · exact hbase.maxLength_ne_zero name s hs

/-- Usability does not depend on the repository. -/
theorem withRepository {c : Config} (h : c.Usable) (repository : Option String) :
    { c with repository }.Usable :=
  ⟨h.known, h.limit_ne_zero, h.maxLength_ne_zero⟩

/-! ## What the rules read -/

/-- The limit of a rule is its own one or a shared one, and neither is zero. -/
theorem maxLength_pos {c : Config} (h : c.Usable) (r : Rule) (l : Limit) :
    1 ≤ ((c.maxLength r).getD (c.limits.get l)).toNat := by
  have hne : (c.maxLength r).getD (c.limits.get l) ≠ 0 := by
    unfold maxLength setting
    cases hs : c.rules.find? r.name with
    | none => exact h.limit_ne_zero l
    | some s =>
      cases hmax : s.maxLength with
      | none => simpa [hmax] using h.limit_ne_zero l
      | some n =>
        have hzero := h.maxLength_ne_zero r.name s hs
        simpa [hmax] using hzero
  exact Nat.one_le_iff_ne_zero.2 fun hzero => hne (UInt64.toNat_inj.1 hzero)

theorem options_pos {c : Config} (h : c.Usable) : 1 ≤ c.options.headerMaxLength ∧
    1 ≤ c.options.bodySoftMaxLineLength ∧ 1 ≤ c.options.footerMaxLineLength :=
  ⟨h.maxLength_pos _ .header,
    Nat.one_le_iff_ne_zero.2 fun hzero => h.limit_ne_zero .body (UInt64.toNat_inj.1 hzero),
    h.maxLength_pos _ .footer⟩

end Usable

/-! ## Configurations of a run -/

/-- A configuration that a run can have : the defaults under any number of documents, with any
repository from outside. -/
inductive Reached : Config → Prop
  | default : Reached {}
  | overlay {c d : Config} {t : Text} (below : Reached c) (read : ofToml t = .ok d) :
      Reached (c.overlay d)
  | withRepository {c : Config} (repository : Option String) (below : Reached c) :
      Reached { c with repository }

namespace Reached

theorem of_read {t : Text} {c : Config} (h : ofToml t = .ok c) : Reached c := by
  rw [← default_overlay c]
  exact default.overlay h

theorem foldl_overlay : ∀ {ts : List Text} {cs : List Config} {base : Config}, Reached base →
    ts.mapM ofToml = .ok cs → Reached (cs.foldl Config.overlay base)
  | [], cs, base, hbase, h => by
    cases h
    exact hbase
  | t :: ts, cs, base, hbase, h => by
    rw [List.mapM_cons] at h
    obtain ⟨c, hc, h⟩ := exists_of_bind_eq_ok h
    obtain ⟨cs', hcs, h⟩ := exists_of_bind_eq_ok h
    cases h
    rw [List.foldl_cons]
    exact foldl_overlay (hbase.overlay hc) hcs

theorem usable {c : Config} (h : Reached c) : c.Usable := by
  induction h with
  | default => exact .default
  | overlay _ hread ih => exact ih.overlay (usable_of_ofToml hread)
  | withRepository repository _ ih => exact ih.withRepository repository

end Reached
end CommitStyle.Config
