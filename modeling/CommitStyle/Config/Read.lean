import CommitStyle.Config.Document
import CommitStyle.Toml.Document

/-!
# Reading a configuration

A configuration is written in TOML. `Config.Layer.ofToml?` is what the text says, `Config.ofToml`
the configuration of a text that says nothing unusable.
-/

namespace CommitStyle.Config

/-- What the TOML text says. -/
def Layer.ofToml? (t : Text) : Option Layer :=
  (Toml.read? t).bind (Layer.ofJson? .toml)

/-- The configuration of the TOML text. -/
def ofToml (t : Text) : Except ConfigError Config :=
  match Layer.ofToml? t with
  | some l => l.toConfig.validate
  | none => .error (.unreadable "the text is no TOML document of settings")

end CommitStyle.Config
