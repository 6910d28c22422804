import CommitStyle.Url.Domain
import CommitStyle.Url.Ipv4
import CommitStyle.Url.Ipv6
import CommitStyle.Url.Percent

/-!
# Hosts

The host of a URL with a special scheme is an IPv6 address between brackets, an IPv4 address or a
domain name (`Host.isSpecial`). Any other scheme leaves its hosts uninterpreted, apart from IPv6
addresses and a few characters that no host has (`Host.isOpaque`).
-/

namespace CommitStyle.Url.Host

/-- An IPv6 address between brackets; `none` for a text that does not start with a bracket. -/
def bracketed? : Text → Option Bool
  | '[' :: rest => some (rest.getLast? == some ']' && Ipv6.isAddress rest.dropLast)
  | _ => none

/-- The text is a domain name or an IPv4 address. -/
def isDomainOrIpv4 (t : Text) : Bool :=
  match (percentDecode? t).bind Domain.labels? with
  | none => false
  | some labels =>
    labels != [[]] && (!Ipv4.endsInNumber labels || Ipv4.isAddress labels)

/-- The text is a host of a special scheme. -/
def isSpecial (t : Text) : Bool :=
  (bracketed? t).getD (isDomainOrIpv4 t)

/-- The characters that no uninterpreted host has. -/
def opaqueForbidden : List Char :=
  ['\x00', '\t', '\n', '\r', ' ', '#', '/', ':', '<', '>', '?', '@', '[', '\\', ']', '^', '|']

/-- The text is a host of a scheme that is not special. -/
def isOpaque (t : Text) : Bool :=
  (bracketed? t).getD (t.all fun c => !opaqueForbidden.contains c)

end CommitStyle.Url.Host
