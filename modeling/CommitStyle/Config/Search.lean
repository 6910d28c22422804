import CommitStyle.Path

/-!
# Where configurations are

A directory may hold a configuration in one of three places. The configuration of a repository is
looked for in the current directory, then in each directory above it. The one of the user is looked
for in the home directory, then in the directory for settings. The first that exists counts.
-/

namespace CommitStyle.Config

/-- The name of a configuration that is created. -/
def fileName : String := "cmlint.toml"

/-- The places of a configuration in a directory, in the order of their rank. -/
def placesIn (directory : Path) : List Path :=
  [directory ++ [fileName], directory ++ [".cmlint.toml"], directory ++ [".config", fileName]]

/-- The places of the configuration of a repository, from the directory on upwards. -/
def repositoryPlaces (directory : Path) : List Path :=
  directory.ancestors.flatMap placesIn

/-- The places of the configuration of the user. -/
def userPlaces (home settings : Option Path) : List Path :=
  (home.map placesIn).getD [] ++ (settings.map (· ++ ["cmlint", "config.toml"])).toList

/-- The first place where a file exists. -/
def firstExisting {m : Type → Type} [Monad m] (pathExists : String → m Bool) :
    List Path → m (Option Path)
  | [] => pure none
  | place :: rest => do
    if ← pathExists place.written then return some place
    else firstExisting pathExists rest

end CommitStyle.Config
