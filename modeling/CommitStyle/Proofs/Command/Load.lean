import CommitStyle.Proofs.Command.Reading
import CommitStyle.Proofs.Config.Usable

/-!
# Loading a configuration

A command reads at most two files, one of the user and one of the repository. However many there are
and whether or not they are the same, the configuration is the one of the files laid over the
defaults one after the other (`Run.readConfigs_eq_readLayers`). It is one of layers of accepted
documents (`Run.yields_loadConfig`), and all of those are valid
(`Config.reached_passes_validation`).
-/

namespace CommitStyle.Run

variable {m : Type → Type} [Monad m]

/-- The configurations in the files, each laid over those before, and the first over the
defaults. -/
def readLayers (host : Host m) (places : List Path) : Run m Config :=
  places.foldlM (fun below place => return below.overlay (← readConfig host place.written)) {}

theorem readLayers_one [LawfulMonad m] (host : Host m) (place : Path) :
    readLayers host [place] = readConfig host place.written := by
  simp only [readLayers, List.foldlM_cons, List.foldlM_nil, Config.default_overlay, bind_pure]

theorem readLayers_two [LawfulMonad m] (host : Host m) (user repository : Path) :
    readLayers host [user, repository] = do
      let base ← readConfig host user.written
      return base.overlay (← readConfig host repository.written) := by
  simp only [readLayers, List.foldlM_cons, List.foldlM_nil, Config.default_overlay, bind_pure]

theorem observes_readConfig (path : String) : Observes (readConfig Workspace.host path) := by
  unfold readConfig
  refine Observes.bind (fun _ => rfl) fun isThere => ?_
  split
  · exact fun _ => rfl
  · exact Observes.bind (fun _ => rfl) fun text _ => rfl

/-- The files of user and repository are layers over the defaults, whether they are one file or
two. -/
theorem readConfigs_eq_readLayers (user repository : Option Path) :
    readConfigs Workspace.host user repository =
      readLayers Workspace.host (user.toList ++ repository.toList) := by
  cases user with
  | none =>
    cases repository with
    | none => rfl
    | some place => exact (readLayers_one _ place).symm
  | some user =>
    cases repository with
    | none => exact (readLayers_one _ user).symm
    | some repository =>
      show _ = readLayers Workspace.host [user, repository]
      rw [readLayers_two]
      simp only [readConfigs]
      by_cases h : user = repository
      -- The general case would read the file again and lay it over itself.
      · rw [h, if_pos rfl, bind_twice (observes_readConfig _)]
        simp only [Config.overlay_self, bind_pure]
      · rw [if_neg h]

/-! ## What is loaded -/

/-- A configuration that is read is the one of an accepted document. -/
theorem yields_readConfig (path : String) :
    Yields (fun c => ∃ t, Config.ofToml t = .ok c) (readConfig Workspace.host path) := by
  unfold readConfig
  refine .after _ fun isThere => ?_
  split
  · exact .throw _ _
  · refine .after _ fun text => .orError fun c hc => ?_
    obtain ⟨t, -, hc⟩ := exists_of_bind_eq_ok hc
    exact ⟨t, eq_ok_of_mapError hc⟩

theorem yields_readLayers (places : List Path) :
    Yields Config.Reached (readLayers Workspace.host places) := by
  unfold readLayers
  -- The configuration so far is any one of layers, not only the defaults.
  suffices h : ∀ below : Config, below.Reached → Yields Config.Reached (places.foldlM
      (fun below place => return below.overlay (← readConfig Workspace.host place.written))
      below) from h {} .default
  induction places with
  | nil => exact fun below hbelow => .pure hbelow
  | cons place places ih =>
    intro below hbelow
    rw [List.foldlM_cons]
    refine .bind (.bind (yields_readConfig _) fun c hc => .pure (P := Config.Reached) ?_) ih
    obtain ⟨t, ht⟩ := hc
    exact hbelow.overlay ht

theorem reached_withRepository {c : Config} (h : c.Reached) (w : Workspace) :
    Config.Reached ((withRepository Workspace.host c).run w).1 := by
  unfold withRepository
  split
  · exact h
  · exact h.withRepository _

/-- A configuration that is loaded is one of layers of accepted documents. -/
theorem yields_loadConfig (given : Option String) :
    Yields Config.Reached (loadConfig Workspace.host given) := by
  cases given with
  | some path =>
    refine .bind (yields_readConfig path) fun c hc => .ask (reached_withRepository ?_)
    obtain ⟨t, ht⟩ := hc
    exact .of_read ht
  | none =>
    refine .after _ fun user => .after _ fun repository => ?_
    rw [readConfigs_eq_readLayers]
    exact .bind (yields_readLayers _) fun c hc => .ask (reached_withRepository hc)

end CommitStyle.Run

namespace CommitStyle.Config

open Run

/-! ## Layers from files -/

/-- Overlays may be grouped freely, a layer that comes twice in a row counts once, and the defaults
below all others count for nothing. Reading one file that is found twice only once makes therefore
no difference. -/
theorem layers_group_freely :
    (∀ a b c : Config, (a.overlay b).overlay c = a.overlay (b.overlay c)) ∧
    (∀ a b : Config, (a.overlay b).overlay b = a.overlay b) ∧
    (∀ a : Config, a.overlay a = a) ∧ (∀ a : Config, ({} : Config).overlay a = a) ∧
    (∀ g : Grouping, g.merged = layered g.layers) ∧
    ∀ user repository : Path,
      readConfigs Workspace.host (some user) (some repository) = do
        let base ← readConfig Workspace.host user.written
        return base.overlay (← readConfig Workspace.host repository.written) :=
  ⟨overlay_assoc, overlay_overlay_self, overlay_self, default_overlay, Grouping.merged_eq,
    fun user repository => (readConfigs_eq_readLayers (some user) (some repository)).trans
      (readLayers_two _ user repository)⟩

/-- Every configuration of layers of accepted documents passes validation, and its rules read limits
of at least one. Documents laid over each other and loaded files give such configurations only. -/
theorem reached_passes_validation :
    (∀ c : Config, c.Reached → c.validate = .ok c ∧ c.Usable ∧ 1 ≤ c.options.headerMaxLength ∧
      1 ≤ c.options.bodySoftMaxLineLength ∧ 1 ≤ c.options.footerMaxLineLength) ∧
    (∀ (ts : List Text) cs, ts.mapM ofToml = .ok cs → (layered cs).Reached) ∧
    ∀ given w w' c, (loadConfig Workspace.host given).run.run w = (.ok c, w') → c.Reached := by
  refine ⟨fun c hc => ?_, fun ts cs h => Reached.foldl_overlay .default h,
    fun given w w' c h => yields_loadConfig given h⟩
  have husable : c.Usable := hc.usable
  exact ⟨validate_eq_ok_iff_usable.2 husable, husable, husable.options_pos⟩

/-- A limit that is given back its default, and a limit of a rule, over a short limit. -/
theorem reached_passes_validation_layered :
    ∃ cs, ["[limits]\nheader_max_length = 1\n".toList,
        "[limits]\nheader_max_length = 50\n".toList,
        "[rules.footer-max-line-length]\nmax_length = 1\n".toList].mapM ofToml = .ok cs ∧
      (layered cs).validate = .ok (layered cs) ∧ 1 ≤ (layered cs).options.headerMaxLength := by
  obtain ⟨hpasses, hreached, -⟩ := reached_passes_validation
  have hread : ["[limits]\nheader_max_length = 1\n".toList,
        "[limits]\nheader_max_length = 50\n".toList,
        "[rules.footer-max-line-length]\nmax_length = 1\n".toList].mapM ofToml =
      .ok [{ limits := { headerMaxLength := 1 } }, {},
        { rules := .ofList [("footer-max-line-length", { maxLength := some 1 })] }] :=
    eq_ok_of_toOption (by decide +kernel)
  obtain ⟨hvalid, -, hheader, -⟩ := hpasses _ (hreached _ _ hread)
  exact ⟨_, hread, hvalid, hheader⟩

end CommitStyle.Config
