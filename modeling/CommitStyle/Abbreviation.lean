import CommitStyle.Table
import CommitStyle.Text.LetterCase
import CommitStyle.Text.WordChar

/-!
# Abbreviations

Long words that have a shorter accepted spelling in titles. `Abbreviation.standard` is the list that
every configuration starts from; `Abbreviation.configured` adds the entries of a configuration,
where a word of the list keeps its place and takes the new spelling.
-/

namespace CommitStyle

/-- A word or phrase in lower case, and the spelling that replaces it. -/
structure Abbreviation where
  word : Text
  replacement : String
  deriving DecidableEq, Repr

namespace Abbreviation

/-- The words of every configuration, in the order in which they are suggested. -/
def standardPairs : List (String × String) :=
  [("administrator", "admin"), ("alternative", "alt"), ("application", "app"),
   ("applications", "apps"), ("argument", "arg"), ("arguments", "args"),
   ("asynchronous", "async"), ("authentication", "auth"), ("authorization", "authz"),
   ("benchmark", "bench"), ("binary", "bin"), ("calculation", "calc"),
   ("certificate", "cert"), ("command", "cmd"), ("compatibility", "compat"),
   ("configuration", "config"), ("configurations", "configs"), ("context", "ctx"),
   ("database", "DB"), ("debugging", "debug"), ("declaration", "decl"),
   ("definition", "def"), ("dependency", "dep"), ("dependencies", "deps"),
   ("description", "desc"), ("destination", "dest"), ("development", "dev"),
   ("dictionary", "dict"), ("directory", "dir"), ("directories", "dirs"),
   ("distribution", "distro"), ("document", "doc"), ("documentation", "docs"),
   ("environment", "env"), ("environments", "envs"), ("example", "ex"),
   ("for example", "e.g."), ("executable", "exe"), ("expression", "expr"),
   ("extension", "ext"), ("function", "func"), ("functions", "funcs"), ("generation", "gen"),
   ("identifier", "ID"), ("implementation", "impl"), ("information", "info"),
   ("initialization", "init"), ("initialize", "init"), ("javascript", "JS"),
   ("library", "lib"), ("libraries", "libs"), ("maximum", "max"), ("message", "msg"),
   ("messages", "msgs"), ("minimum", "min"), ("miscellaneous", "misc"), ("number", "num"),
   ("operating system", "OS"), ("optimization", "opt"), ("package", "pkg"),
   ("packages", "pkgs"), ("parameter", "param"), ("parameters", "params"),
   ("performance", "perf"), ("production", "prod"), ("properties", "props"),
   ("property", "prop"), ("reference", "ref"), ("references", "refs"),
   ("regular expression", "regex"), ("repository", "repo"), ("repositories", "repos"),
   ("request", "req"), ("response", "resp"), ("source", "src"), ("specification", "spec"),
   ("statistics", "stats"), ("synchronization", "sync"), ("synchronize", "sync"),
   ("temporary", "temp"), ("typescript", "TS"), ("utilities", "utils"), ("utility", "util"),
   ("variable", "var"), ("variables", "vars"), ("version", "ver"), ("with", "w/"),
   ("without", "w/o")]

/-- The abbreviations of every configuration. -/
def standard : List Abbreviation :=
  standardPairs.map fun (word, replacement) => ⟨word.toList, replacement⟩

/-- The list with a new spelling for the word, at its place or else at the end. -/
def put (word : Text) (replacement : String) : List Abbreviation → List Abbreviation
  | [] => [⟨word, replacement⟩]
  | a :: rest =>
    if a.word = word then ⟨word, replacement⟩ :: rest else a :: put word replacement rest

/-- The standard list with the entries of a configuration, in the order of their keys. -/
def configured (entries : Table String) : List Abbreviation :=
  entries.entries.foldl (fun list (key, value) => put (Text.lowercase key.toList) value list)
    standard

/-- The word stands in the text with a word boundary at both ends. -/
def isIn (a : Abbreviation) (t : Text) : Bool :=
  Text.containsWord a.word t

end Abbreviation
end CommitStyle
