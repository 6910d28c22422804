import CommitStyle.Url.Domain.Bidi
import CommitStyle.Url.Domain.Label

/-!
# Domain names

`Domain.labels?` reads a domain name: it is mapped, composed and cut into labels, each of which
must be well formed, and a name with a character from a right-to-left script must meet the
direction rule in every label. `Domain.isForbidden` names the ASCII characters that no host has.
-/

namespace CommitStyle.Url.Domain

/-- The ASCII character may not stand in a host. -/
def isForbidden (c : Char) : Bool :=
  c.toNat ≤ 0x20 || c.toNat == 0x7f ||
    ['#', '%', '/', ':', '<', '>', '?', '@', '[', '\\', ']', '^', '|'].contains c

/-- The labels of the name, if it is a valid one. -/
def labels? (name : Text) : Option (List Text) :=
  match (Text.pieces '.' (composed (mapped name))).mapM Label.unicode? with
  | none => none
  | some labels =>
    if labels.any (·.any isForbidden) then none
    else if labels.any isBidirectional && !labels.all isDirectional then none
    else some labels

end CommitStyle.Url.Domain
