import CommitStyle.Proofs.Config.Overlay

/-!
# Layers in any grouping

Laying configurations over each other is associative (`Config.overlay_assoc`), so that only their
order counts : however the layers are grouped, the result is the one of laying them over the
defaults one after the other (`Config.Grouping.merged_eq`). A layer that comes twice in a row counts
once, and the defaults below all others count for nothing.
-/

namespace CommitStyle

namespace Limits

theorem overlay_assoc (a b c : Limits) : (a.overlay b).overlay c = a.overlay (b.overlay c) := by
  refine ext_get fun l => ?_
  simp only [get_overlay]
  by_cases hc : c.get l = defaults.get l <;> simp [hc]

theorem overlay_self (a : Limits) : a.overlay a = a :=
  ext_get fun l => by rw [get_overlay, ite_self]

/-- A limit is the default if it counts as not given. -/
theorem defaults_overlay (a : Limits) : defaults.overlay a = a := by
  refine ext_get fun l => ?_
  rw [get_overlay]
  split
  · next h => exact h.symm
  · rfl

end Limits

namespace Config

/-! ## Laws of overlays -/

theorem overlay_assoc (a b c : Config) : (a.overlay b).overlay c = a.overlay (b.overlay c) := by
  simp only [overlay, Limits.overlay_assoc, Table.overlay_assoc, Option.or_assoc]

theorem overlay_self (a : Config) : a.overlay a = a := by
  simp only [overlay, Limits.overlay_self, Table.overlay_self, Option.or_self]

theorem overlay_overlay_self (a b : Config) : (a.overlay b).overlay b = a.overlay b := by
  rw [overlay_assoc, overlay_self]

/-- Every configuration is what the defaults become under it. -/
theorem default_overlay (a : Config) : ({} : Config).overlay a = a := by
  show Config.mk (a.repository.or none) (Limits.defaults.overlay a.limits) (Table.overlay ∅ a.rules)
    (Table.overlay ∅ a.abbreviations) a.color = a
  rw [Option.or_none, Limits.defaults_overlay, Table.empty_overlay, Table.empty_overlay]

/-! ## Groupings -/

/-- The layers one after the other over the defaults. -/
def layered (layers : List Config) : Config :=
  layers.foldl overlay {}

theorem layered_cons (c : Config) (layers : List Config) :
    layered (c :: layers) = layers.foldl overlay c := by
  unfold layered
  rw [List.foldl_cons, default_overlay]

theorem foldl_overlay (base : Config) (layers : List Config) : ∀ c : Config,
    layers.foldl overlay (base.overlay c) = base.overlay (layers.foldl overlay c) := by
  induction layers with
  | nil =>
    intro c
    rfl
  | cons d layers ih =>
    intro c
    rw [List.foldl_cons, overlay_assoc, ih, List.foldl_cons]

/-- Some layers over others are all of them one after the other. -/
theorem layered_append (lower : List Config) {upper : List Config} (h : upper ≠ []) :
    layered (lower ++ upper) = (layered lower).overlay (layered upper) := by
  obtain ⟨c, upper, rfl⟩ := List.exists_cons_of_ne_nil h
  rw [layered_cons, ← foldl_overlay, layered, List.foldl_append, List.foldl_cons, layered]

/-- A way to lay configurations over each other. -/
inductive Grouping where
  | single (c : Config)
  | overlay (base upper : Grouping)

namespace Grouping

/-- The configurations from the lowest to the highest. -/
def layers : Grouping → List Config
  | single c => [c]
  | overlay base upper => base.layers ++ upper.layers

/-- What they give together. -/
def merged : Grouping → Config
  | single c => c
  | overlay base upper => base.merged.overlay upper.merged

theorem layers_ne_nil : ∀ g : Grouping, g.layers ≠ []
  | single _ => List.cons_ne_nil _ _
  | overlay base _ => List.append_ne_nil_of_left_ne_nil base.layers_ne_nil _

/-- The grouping plays no part. -/
theorem merged_eq (g : Grouping) : g.merged = layered g.layers := by
  induction g with
  | single c => exact (layered_cons c []).symm
  | overlay base upper ihbase ihupper =>
    rw [merged, ihbase, ihupper, layers, layered_append _ upper.layers_ne_nil]

end Grouping
end Config
end CommitStyle
