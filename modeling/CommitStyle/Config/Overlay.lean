import CommitStyle.Config.Basic

/-!
# Laying one configuration over another

The configuration of a repository is laid over the one of the user. An entry of a rule is replaced
as a whole. A limit that has its default value counts as not given.
-/

namespace CommitStyle

/-- The limit `upper`, unless it is the default. -/
def Limits.choose (default base upper : UInt64) : UInt64 :=
  if upper = default then base else upper

/-- The limits of `upper` that differ from the defaults, and the others of `base`. -/
def Limits.overlay (base upper : Limits) : Limits where
  headerMaxLength := choose defaults.headerMaxLength base.headerMaxLength upper.headerMaxLength
  bodySoftMaxLineLength :=
    choose defaults.bodySoftMaxLineLength base.bodySoftMaxLineLength upper.bodySoftMaxLineLength
  footerMaxLineLength :=
    choose defaults.footerMaxLineLength base.footerMaxLineLength upper.footerMaxLineLength

/-- The configuration `base` with the settings of `upper` laid over it. -/
def Config.overlay (base upper : Config) : Config where
  repository := upper.repository.or base.repository
  limits := base.limits.overlay upper.limits
  rules := base.rules.overlay upper.rules
  abbreviations := base.abbreviations.overlay upper.abbreviations
  color := upper.color

end CommitStyle
