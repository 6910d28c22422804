import CommitStyle.Proofs.Url.Host
import CommitStyle.Proofs.Url.Scheme

/-!
# The form of a URL

A URL has the name of a scheme in front of its first colon (`Url.scheme?_eq_some_iff`). The scheme
may find a host behind the colon, and takes any text that it finds no host in
(`Url.isUrl_of_hasForm_none`). In the host there is no space, so all spaces of a URL are elsewhere
(`Url.exists_hasForm_of_isUrl`).
-/

namespace CommitStyle.Url

open Text

/-! ## Hosts -/

/-- The host of an authority : behind its last `@`, and in front of the colon of the port. -/
def authorityHost (scheme : Scheme) (t : Text) : Text :=
  let authority := t.takeWhile fun c => !endsAuthority scheme c
  (splitHost false (authority.reverse.takeWhile (· != '@')).reverse).1

/-- The host in what follows a scheme and its colon, if the scheme finds one there. -/
def host? : Scheme → Text → Option Text
  | .file, a :: b :: rest =>
    if isSlash a && isSlash b then some (rest.takeWhile fun c => !endsAuthority .file c) else none
  | .file, _ => none
  | .web, t => some (authorityHost .web (t.dropWhile isSlash))
  | .other, '/' :: '/' :: t => some (authorityHost .other t)
  | .other, _ => none

theorem space_not_mem_of_isHostAndPort {scheme : Scheme} {hasUser : Bool} {t : Text}
    (h : isHostAndPort scheme hasUser t = true) : ' ' ∉ (splitHost false t).1 := by
  unfold isHostAndPort at h
  dsimp only at h
  rw [Bool.and_eq_true] at h
  have hhost := h.1
  split at hhost
  · next hnil =>
    rw [beq_iff_eq.1 hnil]
    exact List.not_mem_nil
  split at hhost
  · exact Host.space_not_mem_of_isOpaque hhost
  · exact Host.space_not_mem_of_isSpecial hhost

theorem space_not_mem_authorityHost {scheme : Scheme} {t : Text}
    (h : isAuthority scheme t = true) : ' ' ∉ authorityHost scheme t := by
  unfold isAuthority at h
  dsimp only at h
  rw [Bool.and_eq_true] at h
  exact space_not_mem_of_isHostAndPort h.2

theorem space_not_mem_of_isDrive {t : Text} (h : isDrive t = true) : ' ' ∉ t := by
  unfold isDrive at h
  split at h
  · next c d =>
    rw [Bool.and_eq_true, Bool.or_eq_true, beq_iff_eq, beq_iff_eq] at h
    rw [List.mem_pair, not_or]
    refine ⟨?_, ?_⟩
    · rintro rfl
      exact absurd h.1 (by decide)
    · rintro rfl
      exact absurd h.2 (by decide)
  · cases h

theorem space_not_mem_of_host? {scheme : Scheme} {rest host : Text}
    (h : isRest scheme rest = true) (hhost : host? scheme rest = some host) : ' ' ∉ host := by
  unfold host? at hhost
  split at hhost
  · next a b rest =>
    obtain ⟨hslashes, hhost⟩ := Option.ite_none_right_eq_some.1 hhost
    cases hhost
    simp only [isRest, isFileRest, hslashes, Bool.not_true, Bool.false_or, Bool.or_eq_true,
      beq_iff_eq] at h
    rcases h with (hnil | hdrive) | hspecial
    · rw [hnil]
      exact List.not_mem_nil
    · exact space_not_mem_of_isDrive hdrive
    · exact Host.space_not_mem_of_isSpecial hspecial
  · cases hhost
  · cases hhost
    exact space_not_mem_authorityHost h
  · cases hhost
    exact space_not_mem_authorityHost h
  · cases hhost

theorem isRest_of_host?_eq_none {scheme : Scheme} {rest : Text} (h : host? scheme rest = none) :
    isRest scheme rest = true := by
  fun_cases host? scheme rest with
  | case1 a b rest hslashes => simp [host?, hslashes] at h
  | case2 a b rest hslashes =>
    rw [Bool.not_eq_true] at hslashes
    simp only [isRest, isFileRest, hslashes, Bool.not_false, Bool.true_or]
  | case3 rest hshort =>
    rw [isRest, isFileRest]
    exact hshort
  | case4 rest => cases h
  | case5 rest => cases h
  | case6 rest hslashes =>
    rw [isRest]
    exact hslashes

/-! ## The form of a URL -/

/-- The text has the name of a scheme and a colon in front of a rest in which the scheme finds this
host or none, but for control characters and spaces around it, tabs and line breaks. -/
def HasForm (t : Text) (host : Option Text) : Prop :=
  ∃ name rest, IsSchemeName name ∧ significant t = name ++ ':' :: rest ∧
    host? (.ofName (name.map Char.toLower)) rest = host

theorem exists_hasForm_of_isUrl {t : Text} (h : isUrl t = true) :
    ∃ host, HasForm t host ∧ ∀ x ∈ host, ' ' ∉ x := by
  unfold isUrl at h
  split at h
  · next scheme rest hscheme =>
    obtain ⟨name, hname, hsplit, rfl⟩ := scheme?_eq_some_iff.1 hscheme
    exact ⟨_, ⟨name, rest, hname, hsplit, rfl⟩, fun x hx => space_not_mem_of_host? h hx⟩
  · cases h

theorem isUrl_of_hasForm_none {t : Text} (h : HasForm t none) : isUrl t = true := by
  obtain ⟨name, rest, hname, hsplit, hhost⟩ := h
  rw [isUrl, scheme?_eq_some_iff.2 ⟨name, hname, hsplit, rfl⟩]
  exact isRest_of_host?_eq_none hhost

end CommitStyle.Url
