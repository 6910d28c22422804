import CommitStyle.Url.Host

/-!
# Absolute URLs

`Url.isUrl` holds of a text that is a URL on its own, by the rules of browsers: control characters
and spaces around it and tabs and line breaks inside it do not count, it starts with a scheme and a
colon, and what follows depends on the scheme. The schemes of the web and of files are special:
they have a host that is looked up. Any other scheme has a host only after `//`.
-/

namespace CommitStyle.Url

/-! ## What does not count -/

/-- A control character of ASCII or a space. -/
def isControlOrSpace (c : Char) : Bool :=
  c.toNat ≤ 0x20

/-- A tab or a part of a line break. -/
def isTabOrBreak (c : Char) : Bool :=
  c == '\t' || c == '\n' || c == '\r'

/-- The text without the characters that do not count. -/
def significant (t : Text) : Text :=
  (Text.dropEndWhile isControlOrSpace (t.dropWhile isControlOrSpace)).filter fun c =>
    !isTabOrBreak c

/-! ## Schemes -/

/-- The three ways to read what follows a scheme. -/
inductive Scheme where
  | file | web | other
  deriving DecidableEq, Repr

/-- A letter of ASCII. -/
def isLetter (c : Char) : Bool :=
  c.isAlpha

/-- A character of a scheme after its first. -/
def isSchemeChar (c : Char) : Bool :=
  c.isAlphanum || c == '+' || c == '-' || c == '.'

/-- The names of the schemes of the web. -/
def webSchemes : List Text :=
  [['h', 't', 't', 'p'], ['h', 't', 't', 'p', 's'], ['w', 's'], ['w', 's', 's'], ['f', 't', 'p']]

/-- The scheme with this name in lower case. -/
def Scheme.ofName (name : Text) : Scheme :=
  if name = ['f', 'i', 'l', 'e'] then .file else if name ∈ webSchemes then .web else .other

/-- The scheme that the text starts with, and what follows its colon. -/
def scheme? (t : Text) : Option (Scheme × Text) :=
  match t with
  | [] => none
  | c :: _ =>
    match isLetter c, t.dropWhile isSchemeChar with
    | true, ':' :: rest => some (.ofName ((t.takeWhile isSchemeChar).map Char.toLower), rest)
    | _, _ => none

/-! ## Authorities -/

/-- The character ends the authority. A backslash does so after a special scheme. -/
def endsAuthority (scheme : Scheme) (c : Char) : Bool :=
  c == '/' || c == '?' || c == '#' || (c == '\\' && scheme != .other)

/-- The host and what follows it, where a colon between brackets belongs to the host. -/
def splitHost (inBrackets : Bool) : Text → Text × Text
  | [] => ([], [])
  | c :: rest =>
    if c == ':' && !inBrackets then ([], c :: rest)
    else
      let (host, after) := splitHost (c == '[' || (inBrackets && c != ']')) rest
      (c :: host, after)

/-- The number of a port, up to the first backslash. -/
def isPort (t : Text) : Bool :=
  let digits := t.takeWhile Char.isDigit
  let after := t.dropWhile Char.isDigit
  digits.foldl (fun n c => 10 * n + (c.toNat - '0'.toNat)) 0 ≤ 65535 &&
    (after == [] || after.head? == some '\\')

/-- The host, with its port behind a colon. A web scheme needs a host, and so do a port and a user
name. -/
def isHostAndPort (scheme : Scheme) (hasUser : Bool) (t : Text) : Bool :=
  let (host, after) := splitHost false t
  (if host == [] then scheme == .other && after == [] && !hasUser
    else if scheme == .other then Host.isOpaque host else Host.isSpecial host) &&
    (after == [] || isPort after.tail)

/-- What follows `//`: a user name and password before the last `@`, a host and a port. -/
def isAuthority (scheme : Scheme) (t : Text) : Bool :=
  let authority := t.takeWhile fun c => !endsAuthority scheme c
  let path := t.dropWhile fun c => !endsAuthority scheme c
  let hostAndPort := (authority.reverse.takeWhile (· != '@')).reverse
  let user := authority.take (authority.length - hostAndPort.length)
  !(user == ['@'] && hostAndPort == [] && path != []) &&
    isHostAndPort scheme (user != [] && user != ['@'] && user != [':', '@']) hostAndPort

/-! ## What follows the scheme -/

/-- A slash of either kind. -/
def isSlash (c : Char) : Bool :=
  c == '/' || c == '\\'

/-- A letter with a colon or a bar. -/
def isDrive : Text → Bool
  | [c, d] => isLetter c && (d == ':' || d == '|')
  | _ => false

/-- What follows `file:`. Two slashes start a host, which may be empty or a drive. -/
def isFileRest : Text → Bool
  | a :: b :: rest =>
    let host := rest.takeWhile fun c => !endsAuthority .file c
    !(isSlash a && isSlash b) || host == [] || isDrive host || Host.isSpecial host
  | _ => true

/-- What follows a scheme and its colon. Any number of slashes may stand before the authority of a
web scheme. -/
def isRest : Scheme → Text → Bool
  | .file, t => isFileRest t
  | .web, t => isAuthority .web (t.dropWhile isSlash)
  | .other, '/' :: '/' :: t => isAuthority .other t
  | .other, _ => true

/-- The text is an absolute URL. -/
def isUrl (t : Text) : Bool :=
  match scheme? (significant t) with
  | some (scheme, rest) => isRest scheme rest
  | none => false

end CommitStyle.Url
