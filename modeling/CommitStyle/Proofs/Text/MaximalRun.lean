import CommitStyle.Proofs.Text.Stack

/-!
# The paragraphs of a text

The paragraphs of a text are the maximal runs of lines that are not empty, as the text has them and
then trimmed, but for runs with nothing in them (`Text.paragraphs_of_maximalRuns`). None of them has
an empty line (`Text.isParagraph_of_mem_paragraphs`), and with blank characters between them they
make up the text (`Text.spread_paragraphs`), so that a character that is not blank is in one of
them.
-/

namespace CommitStyle.Text

/-! ## Maximal runs -/

/-- The maximal runs of pieces that are not empty lines, in order. Above and below each of them is
an empty line or an end of the list. -/
inductive MaximalRuns : List Text → List (List Text) → Prop where
  | none : MaximalRuns [] []
  | skip {e : Text} {ps : List Text} {gs : List (List Text)} (he : isEmptyLine e = true)
      (below : MaximalRuns ps gs) : MaximalRuns (e :: ps) gs
  | last {g : List Text} (hne : g ≠ []) (hg : ∀ p ∈ g, isEmptyLine p = false) : MaximalRuns g [g]
  | run {g : List Text} {e : Text} {ps : List Text} {gs : List (List Text)} (hne : g ≠ [])
      (hg : ∀ p ∈ g, isEmptyLine p = false) (he : isEmptyLine e = true)
      (below : MaximalRuns ps gs) : MaximalRuns (g ++ e :: ps) (g :: gs)

theorem exists_maximalRuns (ps : List Text) : ∃ gs, MaximalRuns ps gs := by
  induction ps with
  | nil => exact ⟨[], .none⟩
  | cons p ps ih =>
    obtain ⟨gs, h⟩ := ih
    cases hp : isEmptyLine p with
    | true => exact ⟨gs, .skip hp h⟩
    | false =>
      -- The piece is a run of its own or goes on with the first run below it.
      cases h with
      | none => exact ⟨_, .last (List.cons_ne_nil p []) (by simpa using hp)⟩
      | skip he below => exact ⟨_, .run (List.cons_ne_nil p []) (by simpa using hp) he below⟩
      | last _ hg => exact ⟨_, .last (List.cons_ne_nil p ps) (List.forall_mem_cons.2 ⟨hp, hg⟩)⟩
      | @run g e ps gs _ hg he below =>
        exact ⟨_, .run (List.cons_ne_nil p g) (List.forall_mem_cons.2 ⟨hp, hg⟩) he below⟩

namespace MaximalRuns

variable {ps : List Text} {gs : List (List Text)} (h : MaximalRuns ps gs)
include h

theorem eq_runs : gs = (runs ps).filter (· ≠ []) := by
  induction h with
  | none => rfl
  | skip he below ih => rw [runs_cons_of_pos he, List.filter_cons_of_neg (by simp), ih]
  | @last g hne hg =>
    rw [runs, List.splitOnP_eq_singleton fun p hp => by simpa using hg p hp,
      List.filter_cons_of_pos (by simpa using hne), List.filter_nil]
  | @run g e ps gs hne hg he below ih =>
    rw [runs, List.splitOnP_append_cons _ _ he,
      List.splitOnP_eq_singleton fun p hp => by simpa using hg p hp, List.singleton_append,
      List.filter_cons_of_pos (by simpa using hne), ih, runs]

theorem of_mem {g : List Text} (hg : g ∈ gs) :
    g ≠ [] ∧ ∀ p ∈ g, p ∈ ps ∧ isEmptyLine p = false := by
  induction h with
  | none => cases hg
  | skip he below ih =>
    refine ⟨(ih hg).1, fun p hp => ?_⟩
    obtain ⟨hmem, hfull⟩ := (ih hg).2 p hp
    exact ⟨List.mem_cons_of_mem _ hmem, hfull⟩
  | last hne hfull =>
    obtain rfl := List.mem_singleton.1 hg
    exact ⟨hne, fun p hp => ⟨hp, hfull p hp⟩⟩
  | run hne hfull he below ih =>
    rcases List.mem_cons.1 hg with rfl | hg
    · exact ⟨hne, fun p hp => ⟨List.mem_append_left _ hp, hfull p hp⟩⟩
    · refine ⟨(ih hg).1, fun p hp => ?_⟩
      obtain ⟨hmem, hfull⟩ := (ih hg).2 p hp
      exact ⟨List.mem_append_right _ (List.mem_cons_of_mem _ hmem), hfull⟩

end MaximalRuns

theorem paragraphs_of_maximalRuns {t : Text} {gs : List (List Text)}
    (h : MaximalRuns (pieces '\n' t) gs) :
    paragraphs t = (gs.filterMap runText?).map Paragraph.mk := by
  have hnil : ∀ g ∈ runs (pieces '\n' t),
      (if decide (g ≠ []) = true then runText? g else none) = runText? g := by
    intro g _
    cases g with
    | nil => rfl
    | cons p g => rfl
  rw [paragraphs_eq_runs, h.eq_runs, List.filterMap_filter, List.filterMap_congr hnil]

/-! ## No empty lines -/

theorem Tight.eq_nil_of_blank_append {a b : Text} (ha : isBlank a = true) (h : Tight (a ++ b)) :
    a = [] := by
  cases a with
  | nil => rfl
  | cons c a =>
    obtain ⟨d, hd, hvisible⟩ := h.head
    cases hd
    simp [List.all_eq_true.1 ha c List.mem_cons_self] at hvisible

theorem Tight.eq_nil_of_append_blank {a b : Text} (hb : isBlank b = true) (h : Tight (a ++ b)) :
    b = [] := by
  by_contra hne
  obtain ⟨d, hd, hvisible⟩ := h.last
  rw [List.getLast?_append_of_ne_nil a hne] at hd
  simp [List.all_eq_true.1 hb d (List.mem_of_getLast? hd)] at hvisible

/-- A blank piece of a text that begins and ends with visible characters has lines above and below
it. -/
theorem Tight.exists_eq_withLine {t e : Text} (ht : Tight t) (he : isBlank e = true)
    (hmem : e ∈ pieces '\n' t) : ∃ u v, t = withLine u e v := by
  obtain ⟨above, below, hsplit⟩ := List.append_of_mem hmem
  have htext : t = joinRows (above ++ e :: below) := by
    rw [← hsplit, joinRows, intercalate_pieces]
  rw [htext] at ht
  have hfeed : isBlank ['\n'] = true := rfl
  have hbreak : isBlank ('\n' :: e) = true := by
    rw [← List.singleton_append, isBlank_append, hfeed, he, Bool.and_self]
  cases above with
  | nil =>
    cases below with
    | nil =>
      rw [List.nil_append, joinRows, List.intercalate_singleton] at ht
      cases ht.isBlank_eq.symm.trans he
    | cons q below =>
      rw [List.nil_append, joinRows_cons_cons, List.append_cons] at ht
      have hend := ht.eq_nil_of_blank_append (by rw [isBlank_append, he, hfeed, Bool.and_self])
      exact absurd (List.append_eq_nil_iff.1 hend).2 (List.cons_ne_nil _ _)
  | cons p above =>
    rw [joinRows_append_cons (List.cons_ne_nil p above)] at ht htext
    cases below with
    | nil =>
      rw [joinRows, joinRows, List.intercalate_singleton] at ht
      cases ht.eq_nil_of_append_blank hbreak
    | cons q below => exact ⟨_, _, htext.trans (by rw [joinRows_cons_cons, withLine])⟩

theorem isParagraph_of_mem_paragraphs {t : Text} {p : Paragraph} (h : p ∈ paragraphs t) :
    IsParagraph p.text := by
  obtain ⟨gs, hruns⟩ := exists_maximalRuns (pieces '\n' t)
  rw [paragraphs_of_maximalRuns hruns] at h
  obtain ⟨u, hu, rfl⟩ := List.mem_map.1 h
  obtain ⟨g, hg, htext⟩ := List.mem_filterMap.1 hu
  obtain ⟨hne, hlines⟩ := hruns.of_mem hg
  have htight : Tight u := tight_of_trim? htext
  obtain ⟨rfl, -⟩ := eq_trim_of_trim? htext
  refine ⟨htight.trim_eq, fun l hl hempty => ?_⟩
  obtain ⟨e, he, hl⟩ := mem_lines hl
  have hblank : isEmptyLine e = true := decide_eq_true (hl.symm.trans hempty)
  obtain ⟨a, b, -, -, hwhole⟩ := exists_eq_trim (joinRows g)
  obtain ⟨x, y, hxy⟩ := htight.exists_eq_withLine (isBlank_of_isEmptyLine hblank) he
  -- Trimming takes nothing off that is next to the line, so the line is one of the run.
  have hpieces : pieces '\n' (joinRows g) = g :=
    pieces_intercalate hne fun p hp => not_mem_of_mem_pieces (hlines p hp).1
  rw [hwhole, hxy, append_withLine, withLine_append,
    pieces_withLine _ _ (not_mem_of_mem_pieces he)] at hpieces
  have hmem : e ∈ g := hpieces ▸ List.mem_append_right _ List.mem_cons_self
  cases hblank.symm.trans (hlines e hmem).2

/-! ## Parts of a text -/

/-- The text is made of the parts, in order, and of blank characters between and around them. -/
inductive Spread : List Text → Text → Prop where
  | blank {t : Text} (ht : isBlank t = true) : Spread [] t
  | part {a p t : Text} {ps : List Text} (ha : isBlank a = true) (below : Spread ps t) :
      Spread (p :: ps) (a ++ p ++ t)

namespace Spread

variable {ps : List Text} {t : Text} (h : Spread ps t)
include h

theorem blank_append {a : Text} (ha : isBlank a = true) : Spread ps (a ++ t) := by
  cases h with
  | blank ht => exact .blank (by rw [isBlank_append, ha, ht, Bool.and_self])
  | @part b p t ps hb below =>
    rw [← List.append_assoc, ← List.append_assoc]
    exact .part (by rw [isBlank_append, ha, hb, Bool.and_self]) below

theorem append {qs : List Text} {u : Text} (hu : Spread qs u) : Spread (ps ++ qs) (t ++ u) := by
  induction h with
  | blank ht => exact hu.blank_append ht
  | part ha _ ih =>
    rw [List.append_assoc]
    exact .part ha ih

end Spread

theorem spread_runText? (g : List Text) : Spread (runText? g).toList (joinRows g) := by
  cases hg : isBlank (joinRows g) with
  | true =>
    rw [runText?_eq_none hg]
    exact .blank hg
  | false =>
    obtain ⟨a, b, ha, hb, htrim⟩ := exists_eq_trim (joinRows g)
    rw [runText?_eq_some hg]
    conv_rhs => rw [htrim]
    exact .part ha (.blank hb)

/-- An empty line above a text is blank, with its line feed if it has one. -/
theorem exists_joinRows_cons {e : Text} (he : isEmptyLine e = true) (ps : List Text) :
    ∃ a, isBlank a = true ∧ joinRows (e :: ps) = a ++ joinRows ps := by
  have hblank := isBlank_of_isEmptyLine he
  cases ps with
  | nil => exact ⟨e, hblank, by simp [joinRows]⟩
  | cons p ps =>
    refine ⟨e ++ ['\n'], ?_, by rw [joinRows_cons_cons, ← List.append_cons]⟩
    rw [isBlank_append, hblank]
    rfl

theorem MaximalRuns.spread {ps : List Text} {gs : List (List Text)} (h : MaximalRuns ps gs) :
    Spread (gs.filterMap runText?) (joinRows ps) := by
  have hcons (g : List Text) (gs : List (List Text)) :
      (g :: gs).filterMap runText? = (runText? g).toList ++ gs.filterMap runText? := by
    cases hg : runText? g <;> simp [hg]
  induction h with
  | none => exact .blank rfl
  | @skip e ps gs he below ih =>
    obtain ⟨a, ha, htext⟩ := exists_joinRows_cons he ps
    rw [htext]
    exact ih.blank_append ha
  | @last g _ _ =>
    rw [hcons, List.filterMap_nil, List.append_nil]
    exact spread_runText? g
  | @run g e ps gs hne _ he below ih =>
    obtain ⟨a, ha, htext⟩ := exists_joinRows_cons he ps
    have hfeed : isBlank (['\n'] ++ a) = true := by
      rw [isBlank_append, ha]
      rfl
    rw [hcons, joinRows_append_cons hne, htext, ← List.cons_append]
    exact (spread_runText? g).append (ih.blank_append hfeed)

theorem spread_paragraphs (t : Text) : Spread ((paragraphs t).map Paragraph.text) t := by
  obtain ⟨gs, hruns⟩ := exists_maximalRuns (pieces '\n' t)
  have htext : joinRows (pieces '\n' t) = t := intercalate_pieces '\n' t
  have hparts : ((gs.filterMap runText?).map Paragraph.mk).map Paragraph.text =
      gs.filterMap runText? := by
    rw [List.map_map]
    exact List.map_id _
  rw [paragraphs_of_maximalRuns hruns, hparts]
  exact htext ▸ hruns.spread

/-! ## Places of the parts -/

/-- The parts begin at these places of the text, each behind the end of the one before, and every
character that is not blank is in exactly one of them. -/
structure Places (t : Text) (places : List (Nat × Text)) : Prop where
  occurs : ∀ q ∈ places, q.2 <+: t.drop q.1
  apart : places.Pairwise fun q r => q.1 + q.2.length ≤ r.1
  once : ∀ i c, t[i]? = some c → CommitStyle.isBlank c = false →
    ∃! q, q ∈ places ∧ q.1 ≤ i ∧ i < q.1 + q.2.length

namespace Places

theorem of_blank {t : Text} (ht : isBlank t = true) : Places t [] where
  occurs := by simp
  apart := .nil
  once i c hc hvisible := by
    simp [List.all_eq_true.1 ht c (List.mem_of_getElem? hc)] at hvisible

/-- The places in a text with a part in front of it and blank characters in front of that. -/
def push (a p : Text) (places : List (Nat × Text)) : List (Nat × Text) :=
  (a.length, p) :: places.map (Prod.map ((a ++ p).length + ·) id)

theorem mem_push {a p : Text} {places : List (Nat × Text)} {q : Nat × Text} :
    q ∈ push a p places ↔
      q = (a.length, p) ∨ ∃ r ∈ places, q = ((a ++ p).length + r.1, r.2) := by
  rw [push, List.mem_cons, List.mem_map]
  simp only [Prod.map, id, eq_comm]

theorem of_push {a p t : Text} {places : List (Nat × Text)} (ha : isBlank a = true)
    (h : Places t places) : Places (a ++ p ++ t) (push a p places) where
  occurs q hq := by
    rcases mem_push.1 hq with rfl | ⟨r, hr, rfl⟩
    · simp
    · rw [List.drop_length_add_append]
      exact h.occurs r hr
  apart := by
    rw [push, List.pairwise_cons, List.pairwise_map]
    refine ⟨fun q hq => ?_, h.apart.imp fun hqr => ?_⟩
    · obtain ⟨r, -, rfl⟩ := List.mem_map.1 hq
      rw [← List.length_append]
      exact Nat.le_add_right _ _
    · simp only [Prod.map_fst, Prod.map_snd, id]
      omega
  once i c hc hvisible := by
    have hlength : (a ++ p).length = a.length + p.length := List.length_append
    by_cases hfront : i < (a ++ p).length
    · -- Behind the blank characters, and in front of all other parts.
      have hbehind : a.length ≤ i := by
        by_contra hin
        rw [List.getElem?_append_left hfront, List.getElem?_append_left (by omega)] at hc
        simp [List.all_eq_true.1 ha c (List.mem_of_getElem? hc)] at hvisible
      refine ⟨(a.length, p), ⟨mem_push.2 (Or.inl rfl), hbehind, hlength ▸ hfront⟩, ?_⟩
      rintro q ⟨hq, hle, -⟩
      rcases mem_push.1 hq with rfl | ⟨r, -, rfl⟩
      · rfl
      · omega
    · rw [List.getElem?_append_right (by omega)] at hc
      obtain ⟨r, ⟨hr, hle, hlt⟩, honly⟩ := h.once _ c hc hvisible
      refine ⟨_, ⟨mem_push.2 (Or.inr ⟨r, hr, rfl⟩), by omega, by dsimp only; omega⟩, ?_⟩
      rintro q ⟨hq, hle', hlt'⟩
      rcases mem_push.1 hq with rfl | ⟨s, hs, rfl⟩
      · dsimp only at hlt'
        omega
      · dsimp only at hle' hlt'
        obtain rfl := honly s ⟨hs, by omega, by omega⟩
        rfl

end Places

theorem Spread.exists_places {ps : List Text} {t : Text} (h : Spread ps t) :
    ∃ places, places.map Prod.snd = ps ∧ Places t places := by
  induction h with
  | blank ht => exact ⟨[], rfl, .of_blank ht⟩
  | @part a p t ps ha _ ih =>
    obtain ⟨places, hparts, hplaces⟩ := ih
    refine ⟨Places.push a p places, ?_, hplaces.of_push ha⟩
    rw [Places.push, List.map_cons, List.map_map, ← hparts]
    rfl

/-- The paragraphs of a text are its maximal runs of lines that are not empty, joined and trimmed,
but for those that are blank. Every paragraph is a trimmed text without empty lines, and every
character of the text that is not blank is in exactly one paragraph. -/
theorem paragraphs_maximal (t : Text) :
    (∃ gs, (∀ hs, MaximalRuns (pieces '\n' t) hs ↔ hs = gs) ∧
      paragraphs t = (gs.filterMap fun g => (joinRows g).trim?).map Paragraph.mk) ∧
    (∀ p ∈ paragraphs t, p.text ≠ [] ∧ IsParagraph p.text) ∧
    ∃ places, places.map Prod.snd = (paragraphs t).map Paragraph.text ∧ Places t places := by
  refine ⟨?_, fun p hp => ?_, (spread_paragraphs t).exists_places⟩
  · obtain ⟨gs, hruns⟩ := exists_maximalRuns (pieces '\n' t)
    refine ⟨gs, fun hs => ⟨fun h => ?_, ?_⟩, paragraphs_of_maximalRuns hruns⟩
    · rw [h.eq_runs, hruns.eq_runs]
    · rintro rfl
      exact hruns
  · have hparagraph := isParagraph_of_mem_paragraphs hp
    exact ⟨hparagraph.ne_nil, hparagraph⟩

/-- Three line breaks in a row, and a blank character at the end. -/
theorem paragraphs_maximal_two :
    paragraphs "It\nreads.\r\n\r\n\r\nIt writes. ".toList =
        [⟨"It\nreads.".toList⟩, ⟨"It writes.".toList⟩] ∧
      ∀ p ∈ paragraphs "It\nreads.\r\n\r\n\r\nIt writes. ".toList, IsParagraph p.text := by
  obtain ⟨⟨gs, honly, htext⟩, hparagraph, -⟩ :=
    paragraphs_maximal "It\nreads.\r\n\r\n\r\nIt writes. ".toList
  have hruns : MaximalRuns ["It".toList, "reads.\r".toList, ['\r'], ['\r'], "It writes. ".toList]
      [["It".toList, "reads.\r".toList], ["It writes. ".toList]] :=
    .run (g := ["It".toList, "reads.\r".toList]) (by decide) (by decide) rfl
      (.skip rfl (.last (by decide) (by decide)))
  obtain rfl := (honly _).1 hruns
  exact ⟨htext, fun p hp => (hparagraph p hp).2⟩

end CommitStyle.Text
