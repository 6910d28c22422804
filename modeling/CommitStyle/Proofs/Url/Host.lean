import CommitStyle.Proofs.Text.Cut
import CommitStyle.Proofs.Url.Domain
import CommitStyle.Url.Host

/-!
# Hosts have no spaces

A host has no space, in whatever way it is written (`Url.Host.space_not_mem_of_isSpecial`,
`Url.Host.space_not_mem_of_isOpaque`). An IPv6 address is made of digits, colons and full stops. In
a domain name a space is left where it is by percent-decoding, as its byte is in no other character
(`Url.eq_space_of_mem_utf8`), and then no label may have it.
-/

namespace CommitStyle.Url

open Text

/-! ## IPv6 addresses -/

theorem space_not_mem_of_all {p : Char → Bool} (hp : p ' ' = false) {t : Text}
    (h : t.all p = true) : ' ' ∉ t := by
  intro hmem
  cases hp.symm.trans (List.all_eq_true.1 h _ hmem)

theorem space_not_mem_of_pieces (sep : Char) (hsep : sep ≠ ' ') {t : Text}
    (h : ∀ p ∈ pieces sep t, ' ' ∉ p) : ' ' ∉ t := by
  rw [← intercalate_pieces sep t]
  intro hmem
  rcases mem_intercalate hmem with heq | ⟨p, hp, hin⟩
  · exact hsep heq.symm
  · exact h p hp hin

namespace Ipv6

theorem space_not_mem_of_isGroup {t : Text} (h : isGroup t = true) : ' ' ∉ t := by
  unfold isGroup at h
  rw [Bool.and_eq_true] at h
  exact space_not_mem_of_all (by decide) h.2

theorem space_not_mem_of_isDotted {t : Text} (h : isDotted t = true) : ' ' ∉ t := by
  unfold isDotted at h
  rw [Bool.and_eq_true, List.all_eq_true] at h
  refine space_not_mem_of_pieces '.' (by decide) fun p hp => ?_
  have hbyte := h.2 p hp
  simp only [isByte, Bool.and_eq_true] at hbyte
  exact space_not_mem_of_all (by decide) hbyte.1.1.2

theorem space_not_mem_of_groupCount? {dotted : Bool} {t : Text} {n : Nat}
    (h : groupCount? dotted t = some n) : ' ' ∉ t := by
  unfold groupCount? at h
  split at h
  · next hnil => simp [hnil]
  dsimp only at h
  split at h
  · next hall =>
    exact space_not_mem_of_pieces ':' (by decide) fun p hp =>
      space_not_mem_of_isGroup (List.all_eq_true.1 hall p hp)
  split at h
  · next hall =>
    rw [Bool.and_eq_true, Bool.and_eq_true] at hall
    obtain ⟨⟨-, hfront⟩, hlast⟩ := hall
    refine space_not_mem_of_pieces ':' (by decide) fun p hp => ?_
    rcases List.eq_nil_or_concat' (pieces ':' t) with hnil | ⟨front, last, hsplit⟩
    · exact absurd hnil (pieces_ne_nil _ _)
    rw [hsplit] at hp hfront hlast
    rw [List.dropLast_concat] at hfront
    rw [List.getLast?_concat] at hlast
    rcases List.mem_append.1 hp with hp | hp
    · exact space_not_mem_of_isGroup (List.all_eq_true.1 hfront p hp)
    · obtain rfl := List.mem_singleton.1 hp
      exact space_not_mem_of_isDotted hlast
  · cases h

theorem space_not_mem_of_isAddress {t : Text} (h : isAddress t = true) : ' ' ∉ t := by
  unfold isAddress at h
  split at h
  · exact space_not_mem_of_groupCount? (beq_iff_eq.1 h)
  · next left right hcut =>
    split at h
    · next hleft hright =>
      rw [cut_eq_some hcut, List.mem_append, List.mem_append, not_or, not_or]
      exact ⟨⟨space_not_mem_of_groupCount? hleft, by decide⟩, space_not_mem_of_groupCount? hright⟩
    · cases h

end Ipv6

/-! ## Percent-encoding -/

/-- The byte of a space is in no character but the space. -/
theorem eq_space_of_mem_utf8 {c : Char} (h : 0x20 ∈ String.utf8EncodeChar c) : c = ' ' := by
  have hbyte {n : Nat} (heq : (0x20 : UInt8) = UInt8.ofNat n) : n % 256 = 0x20 := by
    have := congrArg UInt8.toNat heq
    simpa using this.symm
  unfold String.utf8EncodeChar at h
  dsimp only at h
  split at h
  · -- A character of one byte is that byte.
    have := hbyte (List.mem_singleton.1 h)
    refine Char.ext (UInt32.toNat_inj.1 ?_)
    change c.val.toNat = 32
    omega
  -- The bytes of a longer one are above those of ASCII.
  exfalso
  split at h
  · simp only [List.mem_cons, List.not_mem_nil, or_false] at h
    rcases h with h | h <;> have := hbyte h <;> omega
  split at h
  · simp only [List.mem_cons, List.not_mem_nil, or_false] at h
    rcases h with h | h | h <;> have := hbyte h <;> omega
  · simp only [List.mem_cons, List.not_mem_nil, or_false] at h
    rcases h with h | h | h | h <;> have := hbyte h <;> omega

/-- The characters that are read from bytes have those bytes. -/
theorem flatMap_utf8EncodeChar {bytes : List UInt8} {s : String}
    (h : String.fromUTF8? ⟨bytes.toArray⟩ = some s) :
    s.toList.flatMap String.utf8EncodeChar = bytes := by
  unfold String.fromUTF8? at h
  split at h
  · cases h
    have hdata : (String.fromUTF8 ⟨bytes.toArray⟩ ‹_›).toList.utf8Encode.data.toList = bytes := by
      rw [String.utf8Encode_toList]
      rfl
    simpa only [List.utf8Encode, List.data_toByteArray] using hdata
  · cases h

theorem mem_percentBytes {t : Text} (h : ' ' ∈ t) : 0x20 ∈ percentBytes t := by
  fun_induction percentBytes t with
  | case1 => cases h
  | case2 a b rest high low hb ha ih =>
    have hdigit : hexDigit? ' ' = none := by decide
    simp only [List.mem_cons] at h
    rcases h with h | rfl | rfl | h
    · cases h
    · cases hdigit.symm.trans ha
    · cases hdigit.symm.trans hb
    · exact List.mem_cons_of_mem _ (ih h)
  | case3 a b rest hab ih =>
    rcases List.mem_cons.1 h with h | h
    · cases h
    · exact List.mem_append_right _ (ih h)
  | case4 c rest hc ih =>
    rcases List.mem_cons.1 h with rfl | h
    · exact List.mem_append_left _ (by decide)
    · exact List.mem_append_right _ (ih h)

theorem space_mem_of_percentDecode? {t u : Text} (hu : percentDecode? t = some u) (h : ' ' ∈ t) :
    ' ' ∈ u := by
  unfold percentDecode? at hu
  split at hu
  · obtain ⟨s, hs, rfl⟩ := Option.map_eq_some_iff.1 hu
    obtain ⟨c, hc, hbyte⟩ := List.mem_flatMap.1 (flatMap_utf8EncodeChar hs ▸ mem_percentBytes h)
    exact eq_space_of_mem_utf8 hbyte ▸ hc
  · cases hu
    exact h

/-! ## Hosts -/

namespace Host

theorem space_not_mem_of_bracketed? {t : Text} (h : bracketed? t = some true) : ' ' ∉ t := by
  unfold bracketed? at h
  split at h
  · next rest =>
    simp only [Option.some.injEq, Bool.and_eq_true, beq_iff_eq] at h
    obtain ⟨hlast, haddress⟩ := h
    obtain ⟨address, rfl⟩ := List.getLast?_eq_some_iff.1 hlast
    rw [List.dropLast_concat] at haddress
    simpa using Ipv6.space_not_mem_of_isAddress haddress
  · cases h

theorem space_not_mem_of_getD {t : Text} {b : Bool} (h : (bracketed? t).getD b = true)
    (hb : b = true → ' ' ∉ t) : ' ' ∉ t := by
  cases hbracket : bracketed? t with
  | none =>
    rw [hbracket] at h
    exact hb h
  | some address =>
    rw [hbracket] at h
    exact space_not_mem_of_bracketed? (hbracket.trans (congrArg some h))

theorem space_not_mem_of_isOpaque {t : Text} (h : isOpaque t = true) : ' ' ∉ t :=
  space_not_mem_of_getD h fun hall => space_not_mem_of_all (by decide) hall

theorem space_not_mem_of_isSpecial {t : Text} (h : isSpecial t = true) : ' ' ∉ t := by
  refine space_not_mem_of_getD h fun hdomain hmem => ?_
  unfold isDomainOrIpv4 at hdomain
  split at hdomain
  · cases hdomain
  · next labels hlabels =>
    obtain ⟨name, hname, hlabels⟩ := Option.bind_eq_some_iff.1 hlabels
    exact Domain.space_not_mem_of_labels? hlabels (space_mem_of_percentDecode? hname hmem)

end Host

end CommitStyle.Url
