import CommitStyle.Proofs.Rule.Misuse
import CommitStyle.Proofs.Text.Phrase

/-!
# Links to commits of the repository

The rule on links to commits looks for the repository between slashes anywhere in a URL that has the
path of a commit somewhere. What it means to find is a link to a commit of this very repository
(`Url.CommitLink`). Names between slashes are neighbours among the pieces of a URL
(`Text.neighbours_of_infix`), and in a link to a commit there is one place only for the owner and
the name of a repository (`Url.CommitLink.segment_infix_iff`), so neither a longer name nor a
shorter one is taken for it (`Rule.commitHashAlone_names_repository`).
-/

namespace CommitStyle

/-! ## Repositories -/

/-- The owner and the name of a repository. -/
@[ext] structure Repository where
  owner : Text
  name : Text
  owner_ne_nil : owner ≠ []
  name_ne_nil : name ≠ []
  slash_not_mem_owner : '/' ∉ owner
  slash_not_mem_name : '/' ∉ name

namespace Repository

variable (r : Repository)

/-- The owner, a slash and the name. -/
def path : Text :=
  r.owner ++ ['/'] ++ r.name

/-- The path with a slash at both ends. -/
def segment : Text :=
  '/' :: r.path ++ ['/']

/-- The setting names the repository, with any number of slashes around it. -/
def IsWritten (setting : Text) : Prop :=
  ∃ a b, (∀ c ∈ a, c = '/') ∧ (∀ c ∈ b, c = '/') ∧ setting = a ++ r.path ++ b

theorem framed_path : Text.Framed (· != '/') r.path := by
  refine .append (.of_forall r.owner_ne_nil fun c hc => ?_)
    (.of_forall r.name_ne_nil fun c hc => ?_) _
  · simpa using ne_of_mem_of_not_mem hc r.slash_not_mem_owner
  · simpa using ne_of_mem_of_not_mem hc r.slash_not_mem_name

theorem repositorySegment_eq {setting : Text} (h : r.IsWritten setting) :
    Message.repositorySegment setting = r.segment := by
  obtain ⟨a, b, ha, hb, rfl⟩ := h
  have hslash (c : Char) (hc : (c != '/') = true) : (c == '/') = false := by simpa using hc
  have hstart : (a ++ r.path ++ b).dropWhile (· == '/') = r.path ++ b := by
    rw [List.append_assoc, List.dropWhile_append_of_pos fun c hc => beq_iff_eq.2 (ha c hc),
      r.framed_path.dropWhile_append hslash]
  unfold Message.repositorySegment
  rw [hstart, Text.dropEndWhile_append_of_pos fun c hc => beq_iff_eq.2 (hb c hc),
    r.framed_path.dropEndWhile hslash]
  rfl

end Repository

/-! ## Links -/

namespace Url

/-- What stands before the hash in the path of a commit. -/
def commitWords : List Text :=
  ["commit".toList, "commits".toList]

/-- A link to a commit on a forge : `scheme://host/owner/name/commit/hash`. -/
structure CommitLink where
  scheme : Text
  host : Text
  repository : Repository
  word : Text
  hash : Text
  slash_not_mem_scheme : '/' ∉ scheme
  host_ne_nil : host ≠ []
  slash_not_mem_host : '/' ∉ host
  word_mem : word ∈ commitWords
  hash_digits : ∀ c ∈ hash, isHexDigit c = true
  hash_length : 7 ≤ hash.length ∧ hash.length ≤ 40

/-- A URL has the path of a commit in it if one of its ends starts with it. -/
theorem isCommitLink_iff {t : Text} :
    isCommitLink t = true ↔ ∃ s, s <:+ t ∧ startsCommitPath s = true := by
  induction t with
  | nil =>
    simp only [List.suffix_nil, exists_eq_left]
    decide
  | cons c t ih =>
    rw [isCommitLink, Bool.or_eq_true, ih]
    simp only [List.suffix_cons_iff, or_and_right, exists_or, exists_eq_left]

namespace CommitLink

variable (l : CommitLink)

/-- The path of the commit in the repository. -/
def commitPath : Text :=
  '/' :: l.word ++ '/' :: l.hash

/-- The link as it is written. -/
def text : Text :=
  l.scheme ++ slashes ++ l.host ++ '/' :: l.repository.path ++ l.commitPath

theorem slash_not_mem_word : '/' ∉ l.word := by
  have hall : ∀ w ∈ commitWords, '/' ∉ w := by decide
  exact hall l.word l.word_mem

theorem slash_not_mem_hash : '/' ∉ l.hash := fun hmem =>
  absurd (l.hash_digits _ hmem) (by decide)

/-- What stands between the slashes of the link. -/
theorem pieces_text : Text.pieces '/' l.text =
    [l.scheme ++ [':'], [], l.host, l.repository.owner, l.repository.name, l.word, l.hash] := by
  have htext : l.text = ['/'].intercalate
      [l.scheme ++ [':'], [], l.host, l.repository.owner, l.repository.name, l.word, l.hash] := by
    simp [text, commitPath, slashes, Repository.path, List.intercalate_cons_cons]
  rw [htext, Text.pieces_intercalate (List.cons_ne_nil _ _)]
  simp [l.slash_not_mem_scheme, l.slash_not_mem_host, l.repository.slash_not_mem_owner,
    l.repository.slash_not_mem_name, l.slash_not_mem_word, l.slash_not_mem_hash]

/-! ## The path of the commit -/

theorem hashAt_append (start : Text) : startsCommitPath.hashAt (start ++ l.hash) start = true := by
  have hall : l.hash.takeWhile isHexDigit = l.hash := List.takeWhile_eq_self_iff.2 l.hash_digits
  have hend : l.hash.dropWhile isHexDigit = [] := List.dropWhile_eq_nil_iff.2 l.hash_digits
  unfold startsCommitPath.hashAt
  rw [List.drop_left, hall, hend]
  simp [l.hash_length]

theorem startsCommitPath_commitPath : startsCommitPath l.commitPath = true := by
  have hword := l.word_mem
  unfold commitWords at hword
  rw [List.mem_pair] at hword
  unfold startsCommitPath commitPath
  rw [Bool.or_eq_true]
  rcases hword with hword | hword
  · left
    rw [hword]
    exact l.hashAt_append ['/', 'c', 'o', 'm', 'm', 'i', 't', '/']
  · right
    rw [hword]
    exact l.hashAt_append ['/', 'c', 'o', 'm', 'm', 'i', 't', 's', '/']

theorem isCommitLink_text : isCommitLink l.text = true :=
  isCommitLink_iff.2 ⟨l.commitPath, List.suffix_append _ _, l.startsCommitPath_commitPath⟩

/-! ## The repository in the link -/

theorem segment_infix_text : l.repository.segment <:+: l.text :=
  ⟨l.scheme ++ slashes ++ l.host, l.word ++ '/' :: l.hash, by
    simp [text, commitPath, Repository.segment]⟩

/-- Of the places between slashes, an owner cannot be at the empty one before the host, and not at
the host if that is called otherwise. A name cannot be before the hash. -/
theorem segment_infix_iff {r : Repository} (hhost : l.host ≠ r.owner)
    (hname : r.name ∉ commitWords) : r.segment <:+: l.text ↔ l.repository = r := by
  refine ⟨fun h => ?_, ?_⟩
  · have hneighbours : [r.owner, r.name] <:+:
        [[], l.host, l.repository.owner, l.repository.name, l.word] := by
      have hpair := Text.neighbours_of_infix r.slash_not_mem_owner r.slash_not_mem_name
        (by simpa [Repository.segment, Repository.path] using h)
      rwa [l.pieces_text] at hpair
    simp only [List.infix_cons_iff, List.cons_prefix_cons, List.nil_prefix, and_true,
      List.infix_nil, List.prefix_nil, List.cons_ne_nil, and_false, or_false] at hneighbours
    rcases hneighbours with ⟨hempty, -⟩ | ⟨howner, -⟩ | hboth | ⟨-, hword⟩
    · exact absurd hempty r.owner_ne_nil
    · exact absurd howner.symm hhost
    · exact Repository.ext hboth.1.symm hboth.2.symm
    · exact absurd (hword ▸ l.word_mem) hname
  · rintro rfl
    exact l.segment_infix_text

end CommitLink
end Url

namespace Rule

open Message Url

/-- In a message whose URLs are links to commits, the rule finds a link to a commit of the
repository in the setting, and no other link. No host may be called like the owner, and the
repository may not be called like the word before a hash. -/
theorem commitHashAlone_names_repository {r : Repository} {setting : Text}
    (hsetting : r.IsWritten setting) (hname : r.name ∉ commitWords) {o : Options}
    (ho : o.repository = some setting) {m : Message}
    (hlinks : ∀ u ∈ find m.raw, ∃ l : CommitLink, l.text = u ∧ l.host ≠ r.owner) :
    ∃ v, check .commitHashAlone o m = .ok v ∧
      (v.passed = false ↔ ∃ l : CommitLink, l.text ∈ find m.raw ∧ l.repository = r) := by
  obtain ⟨v, hv, hpassed⟩ := exists_verdict (r := .commitHashAlone) (o := o) (m := m) rfl
  refine ⟨v, hv, hpassed.trans ?_⟩
  simp only [linksOwnCommit, ho, Option.map_some, Option.getD_some,
    r.repositorySegment_eq hsetting, List.any_eq_true, Bool.and_eq_true, Text.contains_iff]
  constructor
  · rintro ⟨u, hu, -, hsegment⟩
    obtain ⟨l, rfl, hhost⟩ := hlinks u hu
    exact ⟨l, hu, (l.segment_infix_iff hhost hname).1 hsegment⟩
  · rintro ⟨l, hu, rfl⟩
    exact ⟨l.text, hu, l.isCommitLink_text, l.segment_infix_text⟩

/-- A link to a fork with a longer name passes ; next to a link to the repository it does not. -/
theorem commitHashAlone_names_repository_fork :
    ∃ (r : Repository) (fork own : CommitLink), r.IsWritten "/owner/repo/".toList ∧
      fork.text = "https://example.com/owner/repo-fork/commit/1a2b3c4".toList ∧
      own.repository = r ∧
      (∃ v, check .commitHashAlone ({ repository := some "/owner/repo/" } : Config).options
        ⟨"core: x\n\nPorts ".toList ++ fork.text, "core: x".toList⟩ = .ok v ∧ v.passed = true) ∧
      ∃ v, check .commitHashAlone ({ repository := some "/owner/repo/" } : Config).options
        ⟨"core: x\n\nPorts ".toList ++ fork.text ++ " to ".toList ++ own.text, "core: x".toList⟩ =
          .ok v ∧ v.passed = false := by
  let r : Repository := ⟨"owner".toList, "repo".toList, by decide, by decide, by decide, by decide⟩
  let fork : CommitLink := ⟨"https".toList, "example.com".toList, ⟨"owner".toList,
    "repo-fork".toList, by decide, by decide, by decide, by decide⟩, "commit".toList,
    "1a2b3c4".toList, by decide, by decide, by decide, by decide, List.all_eq_true.1 (by decide),
    by decide⟩
  let own : CommitLink := ⟨"https".toList, "example.com".toList, r, "commits".toList,
    "1a2b3c4d5e6f7".toList, by decide, by decide, by decide, by decide,
    List.all_eq_true.1 (by decide), by decide⟩
  have hsetting : r.IsWritten "/owner/repo/".toList := ⟨['/'], ['/'], by simp, by simp, rfl⟩
  have hname : r.name ∉ commitWords := by decide
  have hone : find ("core: x\n\nPorts ".toList ++ fork.text) = [fork.text] := by decide +kernel
  have htwo : find ("core: x\n\nPorts ".toList ++ fork.text ++ " to ".toList ++ own.text) =
      [fork.text, own.text] := by decide +kernel
  have hrule (m : Message) := commitHashAlone_names_repository hsetting hname
    (o := ({ repository := some "/owner/repo/" } : Config).options) (m := m) rfl
  refine ⟨r, fork, own, hsetting, rfl, rfl, ?_, ?_⟩
  · obtain ⟨v, hv, hpassed⟩ := hrule ⟨_, _⟩ fun u hu =>
      ⟨fork, (List.mem_singleton.1 (hone ▸ hu)).symm, by decide⟩
    refine ⟨v, hv, ?_⟩
    rw [← Bool.not_eq_false, hpassed, hone]
    rintro ⟨l, hl, hr⟩
    have hsegment := l.segment_infix_text
    rw [hr, List.mem_singleton.1 hl, ← Text.contains_iff] at hsegment
    exact absurd hsegment (by decide)
  · have hlinks : ∀ u ∈ [fork.text, own.text], ∃ l : CommitLink, l.text = u ∧ l.host ≠ r.owner := by
      simp only [List.forall_mem_cons, List.not_mem_nil, false_implies, implies_true, and_true]
      exact ⟨⟨fork, rfl, by decide⟩, own, rfl, by decide⟩
    obtain ⟨v, hv, hpassed⟩ := hrule ⟨_, _⟩ (htwo ▸ hlinks)
    exact ⟨v, hv, hpassed.2 ⟨own, htwo ▸ List.mem_pair.2 (Or.inr rfl), rfl⟩⟩

end Rule
end CommitStyle
