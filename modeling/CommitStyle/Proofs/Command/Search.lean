import CommitStyle.Command.Run
import CommitStyle.Command.Workspace
import Mathlib.Data.List.Infix

/-!
# Searching upwards

The configuration of a repository is looked for in a directory, then in the one above it, and so on
up to the root. One step of this climb asks for the places in one directory and leaves the rest to
the directory above (`Config.repositoryPlaces_concat`). By induction on the way down from the root
the search ends at the nearest place (`Config.IsNearest`): no directory below has a configuration,
and neither has its own directory one of higher rank (`Config.find?_repositoryPlaces`). It asks for
no place twice (`Config.run_firstExisting`).
-/

namespace CommitStyle

namespace Path

theorem ancestors_concat (p : Path) (name : String) :
    ancestors (p ++ [name]) = (p ++ [name]) :: ancestors p := by
  unfold ancestors
  rw [List.length_append, List.length_singleton, List.range_succ, List.reverse_append,
    List.reverse_singleton, List.singleton_append, List.map_cons,
    List.take_of_length_le (by simp)]
  refine congrArg _ (List.map_congr_left fun n hn => ?_)
  have hle : n ≤ p.length := by simpa [Nat.lt_succ_iff] using hn
  rw [List.take_append_of_le_length hle]

end Path

namespace Config

/-! ## Steps of the climb -/

theorem repositoryPlaces_nil : repositoryPlaces [] = placesIn [] :=
  rfl

theorem repositoryPlaces_concat (p : Path) (name : String) :
    repositoryPlaces (p ++ [name]) = placesIn (p ++ [name]) ++ repositoryPlaces p := by
  rw [repositoryPlaces, Path.ancestors_concat, List.flatMap_cons]
  rfl

theorem length_repositoryPlaces (directory : Path) :
    (repositoryPlaces directory).length = 3 * (directory.length + 1) := by
  induction directory using List.reverseRecOn with
  | nil => rfl
  | append_singleton p name ih =>
    rw [repositoryPlaces_concat, List.length_append, ih, List.length_append]
    show 3 + 3 * (p.length + 1) = 3 * (p.length + 1 + 1)
    omega

/-! ## The nearest place -/

/-- None of the places exists. -/
def Absent (isThere : String → Bool) (places : List Path) : Prop :=
  ∀ q ∈ places, isThere q.written = false

/-- The place exists, and none of those before it. -/
def IsFirst (isThere : String → Bool) (places : List Path) (place : Path) : Prop :=
  ∃ before after, places = before ++ place :: after ∧ isThere place.written = true ∧
    Absent isThere before

/-- The place is the first one in its directory, which is the one that is searched from or above it,
and there is none in the directories in between. -/
def IsNearest (isThere : String → Bool) (directory place : Path) : Prop :=
  ∃ above, above <+: directory ∧ IsFirst isThere (placesIn above) place ∧
    ∀ below, below <+: directory → above.length < below.length → Absent isThere (placesIn below)

/-- No directory from the one that is searched from up to the root has a configuration. -/
def IsBare (isThere : String → Bool) (directory : Path) : Prop :=
  ∀ above, above <+: directory → Absent isThere (placesIn above)

section Climb

variable {isThere : String → Bool} {p place : Path} {name : String}

theorem isNearest_nil : IsNearest isThere [] place ↔ IsFirst isThere (placesIn []) place := by
  constructor
  · rintro ⟨above, habove, hfirst, -⟩
    rwa [List.prefix_nil.1 habove] at hfirst
  · intro hfirst
    refine ⟨[], List.prefix_rfl, hfirst, fun below hbelow hlt => ?_⟩
    rw [List.prefix_nil.1 hbelow] at hlt
    exact absurd hlt (Nat.lt_irrefl _)

theorem isNearest_concat : IsNearest isThere (p ++ [name]) place ↔
    IsFirst isThere (placesIn (p ++ [name])) place ∨
      Absent isThere (placesIn (p ++ [name])) ∧ IsNearest isThere p place := by
  have hlength : p.length < (p ++ [name]).length := by simp
  constructor
  · rintro ⟨above, habove, hfirst, hbelow⟩
    rcases List.prefix_concat_iff.1 habove with rfl | habove
    · exact Or.inl hfirst
    · have hlt := habove.length_le.trans_lt hlength
      exact Or.inr ⟨hbelow _ List.prefix_rfl hlt, above, habove, hfirst,
        fun below h => hbelow below (h.trans (List.prefix_append _ _))⟩
  · rintro (hfirst | ⟨habsent, above, habove, hfirst, hbelow⟩)
    · exact ⟨_, List.prefix_rfl, hfirst,
        fun below h hlt => absurd h.length_le (Nat.not_le.2 hlt)⟩
    · refine ⟨above, habove.trans (List.prefix_append _ _), hfirst, fun below h hlt => ?_⟩
      rcases List.prefix_concat_iff.1 h with rfl | h
      · exact habsent
      · exact hbelow below h hlt

theorem isBare_nil : IsBare isThere [] ↔ Absent isThere (placesIn []) := by
  unfold IsBare
  simp [List.prefix_nil]

theorem isBare_concat : IsBare isThere (p ++ [name]) ↔
    Absent isThere (placesIn (p ++ [name])) ∧ IsBare isThere p := by
  unfold IsBare
  simp [List.prefix_concat_iff, or_imp, forall_and]

theorem find?_eq_none_iff {places : List Path} :
    places.find? (fun q => isThere q.written) = none ↔ Absent isThere places := by
  simp [Absent]

theorem find?_eq_some_iff {places : List Path} :
    places.find? (fun q => isThere q.written) = some place ↔ IsFirst isThere places place := by
  rw [List.find?_eq_some_iff_append, ← exists_and_left]
  refine exists_congr fun before => ?_
  rw [← exists_and_left]
  refine exists_congr fun after => ?_
  simp only [Bool.not_eq_true', Absent]
  tauto

/-- The first place that exists on the climb is the nearest one, and there is none only if no
directory has one. -/
theorem find?_repositoryPlaces (isThere : String → Bool) (directory : Path) :
    (∀ place, (repositoryPlaces directory).find? (fun q => isThere q.written) = some place ↔
      IsNearest isThere directory place) ∧
    ((repositoryPlaces directory).find? (fun q => isThere q.written) = none ↔
      IsBare isThere directory) := by
  induction directory using List.reverseRecOn with
  | nil =>
    refine ⟨fun place => ?_, ?_⟩
    · rw [repositoryPlaces_nil, find?_eq_some_iff, isNearest_nil]
    · rw [repositoryPlaces_nil, find?_eq_none_iff, isBare_nil]
  | append_singleton p name ih =>
    refine ⟨fun place => ?_, ?_⟩
    · rw [repositoryPlaces_concat, List.find?_append, Option.or_eq_some_iff, find?_eq_some_iff,
        find?_eq_none_iff, ih.1, isNearest_concat]
    · rw [repositoryPlaces_concat, List.find?_append, Option.or_eq_none_iff, find?_eq_none_iff,
        ih.2, isBare_concat]

end Climb

/-! ## Runs -/

theorem run_firstExisting_cons {σ : Type} (look : String → StateM σ Bool) (place : Path)
    (places : List Path) (s : σ) : (firstExisting look (place :: places)).run s =
      if ((look place.written).run s).1 then (some place, ((look place.written).run s).2)
      else (firstExisting look places).run ((look place.written).run s).2 := by
  rw [firstExisting, StateT.run_bind]
  rcases h : (look place.written).run s with ⟨isThere, s'⟩
  cases isThere <;> rfl

/-- The look at a path in a tree of files, where every path that is looked at is noted. -/
def noting (isThere : String → Bool) (path : String) : StateM (List String) Bool := do
  modify (· ++ [path])
  return isThere path

/-- The search stops at the first place that exists, and asks for each place up to there once. -/
theorem run_firstExisting_noting (isThere : String → Bool) (places : List Path) :
    ∀ noted : List String, (firstExisting (noting isThere) places).run noted =
      (places.find? fun q => isThere q.written,
        noted ++ (places.take (places.findIdx (fun q => isThere q.written) + 1)).map
          Path.written) := by
  induction places with
  | nil =>
    intro noted
    rw [List.take_nil, List.map_nil, List.append_nil]
    rfl
  | cons place places ih =>
    intro noted
    rw [run_firstExisting_cons]
    show (if isThere place.written then (some place, noted ++ [place.written])
      else (firstExisting (noting isThere) places).run (noted ++ [place.written])) = _
    rw [ih, List.findIdx_cons, List.find?_cons]
    cases h : isThere place.written <;> simp

end Config

/-- There is something at the path. -/
def Workspace.has (w : Workspace) (path : String) : Bool :=
  ((w.files.locate w.current path).toOption.bind w.files.lookup?).isSome

theorem Workspace.run_pathExists (w : Workspace) (path : String) :
    (host.pathExists path).run w = (w.has path, w) :=
  rfl

theorem Config.run_firstExisting (places : List Path) (w : Workspace) :
    (firstExisting Workspace.host.pathExists places).run w =
      (places.find? fun q => w.has q.written, w) := by
  induction places with
  | nil => rfl
  | cons place places ih =>
    rw [run_firstExisting_cons, Workspace.run_pathExists, List.find?_cons, ih]
    cases w.has place.written <;> rfl

namespace Config

/-- However deep the directory and whatever exists, the search upwards ends. It finds the nearest
place that exists, and nothing if there is none in the directory or above it. It asks for the places
in their order, for each at most once and for three at most in every directory. A command searches
from its current directory and changes nothing. -/
theorem search_finds_nearest :
    (∀ isThere directory, ∃ found noted,
      (firstExisting (noting isThere) (repositoryPlaces directory)).run [] = (found, noted) ∧
      (∀ place, found = some place ↔ IsNearest isThere directory place) ∧
      (found = none ↔ IsBare isThere directory) ∧
      noted <+: (repositoryPlaces directory).map Path.written ∧
      noted.length ≤ 3 * (directory.length + 1)) ∧
    ∀ w : Workspace, ∃ found, (Run.repositoryPlace Workspace.host).run w = (found, w) ∧
      (∀ place, found = some place ↔ IsNearest w.has w.current place) ∧
      (found = none ↔ IsBare w.has w.current) := by
  refine ⟨fun isThere directory => ?_, fun w => ?_⟩
  · obtain ⟨hnearest, hbare⟩ := find?_repositoryPlaces isThere directory
    have hnoted : ((repositoryPlaces directory).take ((repositoryPlaces directory).findIdx
        (fun q => isThere q.written) + 1)).map Path.written <+:
          (repositoryPlaces directory).map Path.written :=
      (List.take_prefix _ _).map _
    refine ⟨_, _, run_firstExisting_noting isThere _ [], hnearest, hbare, hnoted, ?_⟩
    rw [← length_repositoryPlaces, ← List.length_map Path.written]
    exact hnoted.length_le
  · obtain ⟨hnearest, hbare⟩ := find?_repositoryPlaces w.has w.current
    exact ⟨_, run_firstExisting _ w, hnearest, hbare⟩

end Config
end CommitStyle
