import CommitStyle.Message.Paragraph
import CommitStyle.Proofs.Text.Phrase

/-!
# Paragraphs as runs of lines

A text is cut into blocks at two line breaks in a row. Line by line, a paragraph is what stands
between two empty lines (`Text.paragraphs_eq_runs`), where an empty line has nothing in it but the
carriage return of its line break. A line of blank characters is none : in place of an empty line it
joins the paragraphs above and below it (`Text.paragraphs_withLine`).
-/

namespace CommitStyle.Text

/-! ## Empty lines -/

/-- The piece between two line feeds is an empty line. -/
def isEmptyLine (p : Text) : Bool :=
  dropReturn p = []

theorem isEmptyLine_iff {p : Text} : isEmptyLine p = true ↔ p = [] ∨ p = ['\r'] := by
  unfold isEmptyLine
  rw [decide_eq_true_iff]
  constructor
  · intro h
    have hlength := length_le_dropReturn_succ p
    rw [h] at hlength
    match p with
    | [] => exact Or.inl rfl
    | [c] =>
      by_cases hc : c = '\r'
      · exact Or.inr (by rw [hc])
      · rw [dropReturn_of_not_mem (by simpa using Ne.symm hc)] at h
        cases h
  · rintro (rfl | rfl) <;> rfl

/-- A piece is an empty line if its line is the empty text. -/
theorem isEmptyLine_iff_text {p : Text} (h : '\n' ∉ p) :
    isEmptyLine p = true ↔ (Line.ofPiece p h).text = [] :=
  decide_eq_true_iff

theorem isBlank_of_isEmptyLine {p : Text} (h : isEmptyLine p = true) : isBlank p = true := by
  rcases isEmptyLine_iff.1 h with rfl | rfl <;> decide

theorem feed_not_mem_of_isEmptyLine {p : Text} (h : isEmptyLine p = true) : '\n' ∉ p := by
  rcases isEmptyLine_iff.1 h with rfl | rfl <;> decide

/-- Two line breaks in a row are an empty line with a line break before it. -/
theorem afterBlankLine?_eq_some_iff {t after : Text} : afterBlankLine? t = some after ↔
    ∃ a e, isEmptyLine a = true ∧ isEmptyLine e = true ∧
      t = a ++ '\n' :: (e ++ '\n' :: after) := by
  constructor
  · fun_cases afterBlankLine? t with
    | case1 rest => rintro ⟨⟩; exact ⟨['\r'], ['\r'], rfl, rfl, rfl⟩
    | case2 rest => rintro ⟨⟩; exact ⟨['\r'], [], rfl, rfl, rfl⟩
    | case3 rest => rintro ⟨⟩; exact ⟨[], ['\r'], rfl, rfl, rfl⟩
    | case4 rest => rintro ⟨⟩; exact ⟨[], [], rfl, rfl, rfl⟩
    | case5 => rintro ⟨⟩
  · rintro ⟨a, e, ha, he, rfl⟩
    rcases isEmptyLine_iff.1 ha with rfl | rfl <;>
      rcases isEmptyLine_iff.1 he with rfl | rfl <;> rfl

/-! ## Blocks -/

theorem blocks_of_some {t after : Text} (h : afterBlankLine? t = some after) :
    blocks t = [] :: blocks after := by
  cases t with
  | nil => cases h
  | cons c t =>
    rw [blocks]
    split
    · next h' =>
      cases h.symm.trans h'
      rfl
    · next h' => cases h.symm.trans h'

theorem blocks_of_none {c : Char} {t : Text} (h : afterBlankLine? (c :: t) = none) :
    blocks (c :: t) = (blocks t).modifyHead (c :: ·) := by
  rw [blocks]
  split
  · next h' => cases h.symm.trans h'
  · rfl

/-- A paragraph is a block, trimmed. -/
theorem mem_paragraphs {t : Text} {p : Paragraph} (h : p ∈ paragraphs t) :
    ∃ b ∈ blocks t, b.trim? = some p.text := by
  unfold paragraphs at h
  obtain ⟨u, hu, rfl⟩ := List.mem_map.1 h
  exact List.mem_filterMap.1 hu

/-! ## Runs of lines -/

/-- The pieces between empty lines, run by run. -/
def runs (ps : List Text) : List (List Text) :=
  ps.splitOnP isEmptyLine

/-- The text of a run without the blank characters around it, if anything is left. -/
def runText? (run : List Text) : Option Text :=
  trim? (joinRows run)

theorem runs_cons_of_pos {p : Text} (hp : isEmptyLine p = true) (ps : List Text) :
    runs (p :: ps) = [] :: runs ps := by
  rw [runs, List.splitOnP_cons_eq_if_modifyHead, if_pos hp, runs]

theorem runs_cons_of_neg {p : Text} (hp : isEmptyLine p = false) {ps g : List Text}
    {gs : List (List Text)} (h : runs ps = g :: gs) : runs (p :: ps) = (p :: g) :: gs := by
  rw [runs] at h
  rw [runs, List.splitOnP_cons_eq_if_modifyHead, if_neg (by simp [hp]), h, List.modifyHead_cons]

theorem joinRows_cons_cons (p q : Text) (g : List Text) :
    joinRows (p :: q :: g) = p ++ '\n' :: joinRows (q :: g) := by
  simp [joinRows, List.intercalate_cons_cons]

theorem joinRows_cons_head (c : Char) (p : Text) (g : List Text) :
    joinRows ((c :: p) :: g) = c :: joinRows (p :: g) := by
  cases g with
  | nil => simp [joinRows]
  | cons q g => rw [joinRows_cons_cons, joinRows_cons_cons, List.cons_append]

theorem isBlank_joinRows_cons (p : Text) (g : List Text) :
    isBlank (joinRows (p :: g)) = (isBlank p && isBlank (joinRows g)) := by
  cases g with
  | nil => simp [joinRows, isBlank]
  | cons q g =>
    have hfeed : isBlank ['\n'] = true := rfl
    rw [joinRows_cons_cons, ← List.singleton_append, isBlank_append, isBlank_append, hfeed,
      Bool.true_and]

/-- A blank line on top of a run makes no difference to its text. -/
theorem runText?_cons {p : Text} (hp : isBlank p = true) (g : List Text) :
    runText? (p :: g) = runText? g := by
  unfold runText? trim?
  cases g with
  | nil => rw [trim_eq_nil_of_blank (by simpa [joinRows] using hp)]; rfl
  | cons q g =>
    rw [joinRows_cons_cons, List.append_cons, trim_blank_append]
    rw [isBlank_append, hp]
    rfl

/-- Up to blank characters at their ends, the first block of a text is the first line with the run
below it, whether or not that line is empty, and the other blocks are the other runs. -/
structure BlocksMatch (t b : Text) (bs : List Text) (p : Text) (ps g : List Text)
    (gs : List (List Text)) : Prop where
  blocks : blocks t = b :: bs
  pieces : pieces '\n' t = p :: ps
  runs : runs ps = g :: gs
  first : trimEnd b = trimEnd (joinRows (p :: g))
  rest : bs.filterMap trim? = gs.filterMap runText?

theorem BlocksMatch.filterMap_eq {t b : Text} {bs : List Text} {p : Text} {ps g : List Text}
    {gs : List (List Text)} (h : BlocksMatch t b bs p ps g gs) :
    (Text.blocks t).filterMap trim? = (Text.runs (Text.pieces '\n' t)).filterMap runText? := by
  have hfirst : trim? b = runText? (p :: g) := by
    unfold trim? runText? trim?
    rw [trim_eq_of_trimEnd_eq h.first]
  rw [h.blocks, h.pieces]
  cases hp : isEmptyLine p with
  | false =>
    rw [runs_cons_of_neg hp h.runs, List.filterMap_cons, List.filterMap_cons, hfirst, h.rest]
  | true =>
    have hnil : runText? [] = none := by decide
    rw [runs_cons_of_pos hp, h.runs, List.filterMap_cons_none hnil, List.filterMap_cons,
      List.filterMap_cons, hfirst, h.rest, runText?_cons (isBlank_of_isEmptyLine hp)]

/-- An empty line with a line below it would have ended the block. -/
theorem eq_nil_of_pieces {t p : Text} {ps : List Text}
    (hnone : afterBlankLine? ('\n' :: t) = none) (hpieces : pieces '\n' t = p :: ps)
    (hp : isEmptyLine p = true) : ps = [] := by
  cases ps with
  | nil => rfl
  | cons q qs =>
    have ht : t = p ++ '\n' :: joinRows (q :: qs) := by
      rw [← joinRows_cons_cons, ← hpieces, joinRows, intercalate_pieces]
    have hsome := afterBlankLine?_eq_some_iff.2 ⟨[], p, rfl, hp, congrArg ('\n' :: ·) ht⟩
    cases hnone.symm.trans hsome

theorem exists_blocksMatch (t : Text) : ∃ b bs p ps g gs, BlocksMatch t b bs p ps g gs := by
  fun_induction blocks t with
  | case1 => exact ⟨[], [], [], [], [], [], by rw [blocks], rfl, rfl, rfl, rfl⟩
  | case2 c t after hsome ih =>
    obtain ⟨b, bs, p, ps, g, gs, hmatch⟩ := ih
    obtain ⟨a, e, ha, he, heq⟩ := afterBlankLine?_eq_some_iff.1 hsome
    refine ⟨[], blocks after, a, e :: pieces '\n' after, [], runs (pieces '\n' after),
      blocks_of_some hsome, ?_, runs_cons_of_pos he _, ?_, hmatch.filterMap_eq⟩
    · rw [heq, pieces_append, pieces_append, pieces_of_not_mem (feed_not_mem_of_isEmptyLine ha),
        pieces_of_not_mem (feed_not_mem_of_isEmptyLine he)]
      rfl
    · rcases isEmptyLine_iff.1 ha with rfl | rfl <;> decide
  | case3 c t hnone ih =>
    obtain ⟨b, bs, p, ps, g, gs, hmatch⟩ := ih
    have hblocks : blocks (c :: t) = (c :: b) :: bs := by
      rw [blocks_of_none hnone, hmatch.blocks, List.modifyHead_cons]
    by_cases hc : c = '\n'
    · subst hc
      have hpieces : pieces '\n' ('\n' :: t) = [] :: p :: ps := by
        rw [pieces, if_pos rfl, hmatch.pieces]
      cases hp : isEmptyLine p with
      | false =>
        refine ⟨_, bs, [], p :: ps, p :: g, gs, hblocks, hpieces, runs_cons_of_neg hp hmatch.runs,
          ?_, hmatch.rest⟩
        rw [joinRows_cons_cons]
        exact trimEnd_cons_congr hmatch.first _
      | true =>
        obtain rfl := eq_nil_of_pieces hnone hmatch.pieces hp
        cases hmatch.runs
        refine ⟨_, bs, [], [p], [], [[]], hblocks, hpieces, runs_cons_of_pos hp [], ?_, ?_⟩
        · rw [trimEnd_cons_congr hmatch.first]
          rcases isEmptyLine_iff.1 hp with rfl | rfl <;> decide
        · rw [hmatch.rest]
          decide
    · refine ⟨_, bs, c :: p, ps, g, gs, hblocks, ?_, hmatch.runs, ?_, hmatch.rest⟩
      · rw [pieces, if_neg hc, hmatch.pieces, List.modifyHead_cons]
      · rw [joinRows_cons_head]
        exact trimEnd_cons_congr hmatch.first c

/-- The paragraphs of a text are the runs of lines between its empty lines, as far as there is
anything in them. -/
theorem paragraphs_eq_runs (t : Text) :
    paragraphs t = ((runs (pieces '\n' t)).filterMap runText?).map Paragraph.mk := by
  obtain ⟨b, bs, p, ps, g, gs, hmatch⟩ := exists_blocksMatch t
  rw [paragraphs, hmatch.filterMap_eq]

/-! ## Runs put together -/

/-- The last run of the lines above goes on with the first run below. -/
theorem exists_runs_append (ps : List Text) : ∃ gs g, runs ps = gs ++ [g] ∧
    ∀ qs, runs (ps ++ qs) = gs ++ (runs qs).modifyHead (g ++ ·) := by
  induction ps with
  | nil => exact ⟨[], [], rfl, fun qs => by cases h : runs qs <;> simp [h]⟩
  | cons p ps ih =>
    obtain ⟨gs, g, hps, happend⟩ := ih
    cases hp : isEmptyLine p with
    | true =>
      refine ⟨[] :: gs, g, ?_, fun qs => ?_⟩
      · rw [runs_cons_of_pos hp, hps, List.cons_append]
      · rw [List.cons_append, runs_cons_of_pos hp, happend, List.cons_append]
    | false =>
      cases gs with
      | nil =>
        refine ⟨[], p :: g, runs_cons_of_neg hp hps, fun qs => ?_⟩
        obtain ⟨h, hs, hqs⟩ := List.exists_cons_of_ne_nil (List.splitOnP_ne_nil isEmptyLine qs)
        rw [← runs] at hqs
        have hall := happend qs
        rw [hqs] at hall ⊢
        exact runs_cons_of_neg hp hall
      | cons g' gs =>
        exact ⟨(p :: g') :: gs, g, runs_cons_of_neg hp hps, fun qs =>
          runs_cons_of_neg hp (happend qs)⟩

theorem joinRows_append_cons {g : List Text} (hne : g ≠ []) (p : Text) (h : List Text) :
    joinRows (g ++ p :: h) = joinRows g ++ '\n' :: joinRows (p :: h) := by
  induction g with
  | nil => exact absurd rfl hne
  | cons q g ih =>
    cases g with
    | nil => simp [joinRows]
    | cons r g =>
      rw [List.cons_append, List.cons_append, joinRows_cons_cons, joinRows_cons_cons,
        ← List.cons_append, ih (List.cons_ne_nil r g), List.append_assoc, List.cons_append]

theorem ne_nil_of_joinRows {g : List Text} (h : isBlank (joinRows g) = false) : g ≠ [] := by
  rintro rfl
  cases h

theorem runText?_eq_none {g : List Text} (h : isBlank (joinRows g) = true) : runText? g = none := by
  unfold runText? trim?
  rw [if_pos (trim_eq_nil_of_blank h)]

theorem runText?_eq_some {g : List Text} (h : isBlank (joinRows g) = false) :
    runText? g = some (trim (joinRows g)) := by
  unfold runText? trim?
  rw [if_neg fun hnil => by simp [trim_eq_nil_iff.1 hnil] at h]

/-- A blank line below a run of blank lines joins nothing to the run below it. -/
theorem runText?_blank_append {f : Text} (hf : isBlank f = true) {g : List Text}
    (hg : isBlank (joinRows g) = true) (h : List Text) :
    runText? (g ++ f :: h) = runText? h := by
  by_cases hne : g = []
  · rw [hne, List.nil_append, runText?_cons hf]
  · rw [← runText?_cons hf h]
    unfold runText? trim?
    rw [joinRows_append_cons hne, List.append_cons, trim_blank_append]
    rw [isBlank_append, hg]
    rfl

/-- A blank line above a run of blank lines joins nothing to the run above it. -/
theorem runText?_append_blank {f : Text} (hf : isBlank f = true) (g : List Text) {h : List Text}
    (hh : isBlank (joinRows h) = true) : runText? (g ++ f :: h) = runText? g := by
  have hbelow : isBlank (joinRows (f :: h)) = true := by
    rw [isBlank_joinRows_cons, hf, hh]
    rfl
  by_cases hne : g = []
  · rw [hne, List.nil_append, runText?_eq_none hbelow]
    rfl
  · unfold runText? trim?
    rw [joinRows_append_cons hne, ← List.singleton_append, trim_append_blank]
    rw [isBlank_append, hbelow]
    rfl

/-! ## A line between two parts -/

/-- The text with a line of its own between two parts. -/
def withLine (above line below : Text) : Text :=
  above ++ '\n' :: (line ++ '\n' :: below)

theorem append_withLine (t u l v : Text) : t ++ withLine u l v = withLine (t ++ u) l v := by
  simp [withLine]

theorem withLine_append (u l v t : Text) : withLine u l v ++ t = withLine u l (v ++ t) := by
  simp [withLine]

theorem pieces_withLine (u v : Text) {l : Text} (h : '\n' ∉ l) :
    pieces '\n' (withLine u l v) = pieces '\n' u ++ l :: pieces '\n' v := by
  rw [withLine, pieces_append, pieces_append, pieces_of_not_mem h, List.singleton_append]

theorem lines_withLine (u v : Text) {l : Text} (h : '\n' ∉ l) :
    lines (withLine u l v) = lines u ++ Line.ofPiece l h :: lines v := by
  rw [withLine, lines_append, lines_append, lines_of_not_mem h, List.singleton_append]

/-- The text begins and ends with characters that are not blank. -/
abbrev Tight (t : Text) : Prop :=
  Framed (fun c => !CommitStyle.isBlank c) t

theorem Tight.trim_eq {t : Text} (h : Tight t) : trim t = t :=
  h.trim fun c hc => by simpa using hc

theorem Tight.isBlank_eq {t : Text} (h : Tight t) : isBlank t = false := by
  rw [← Bool.not_eq_true, ← trim_eq_nil_iff, h.trim_eq]
  exact h.ne_nil

theorem tight_trim {t : Text} (h : isBlank t = false) : Tight (trim t) := by
  have hne : trim t ≠ [] := fun hnil => by simp [trim_eq_nil_iff.1 hnil] at h
  exact ⟨⟨_, List.head?_eq_some_head hne, by
      simp [isBlank_head_trim (List.head?_eq_some_head hne)]⟩,
    _, List.getLast?_eq_some_getLast hne, by
      simp [isBlank_getLast_trim (List.getLast?_eq_some_getLast hne)]⟩

theorem tight_of_trim? {t u : Text} (h : trim? t = some u) : Tight u := by
  obtain ⟨rfl, hne⟩ := eq_trim_of_trim? h
  exact tight_trim (by rwa [← Bool.not_eq_true, ← trim_eq_nil_iff])

/-- No line between two parts is at an end of the text that they make with it. -/
theorem Tight.replaceLine {u l v : Text} (h : Tight (withLine u l v)) (l' : Text) :
    Tight (withLine u l' v) := by
  obtain ⟨c, hc, hhead⟩ := h.head
  obtain ⟨d, hd, hlast⟩ := h.last
  refine ⟨⟨c, ?_, hhead⟩, d, ?_, hlast⟩
  · cases u with
    | nil =>
      cases hc
      cases hhead
    | cons c' u => exact hc
  · have hend (l : Text) : (withLine u l v).getLast? = some (v.getLast?.getD '\n') := by
      simp [withLine, List.getLast?_cons]
    rw [hend] at hd ⊢
    exact hd

/-- Between two parts that are not blank, trimming leaves the line where it is. -/
theorem exists_trim_withLine {u v : Text} (hu : isBlank u = false) (hv : isBlank v = false) :
    ∃ x y, isBlank x = true ∧ isBlank y = true ∧
      ∀ l, trim (withLine u l v) = withLine (trim u ++ x) l (y ++ trim v) := by
  obtain ⟨a, x, ha, hx, hu'⟩ := exists_eq_trim u
  obtain ⟨y, b, hy, hb, hv'⟩ := exists_eq_trim v
  refine ⟨x, y, hx, hy, fun l => ?_⟩
  have hsplit : withLine u l v = a ++ (withLine (trim u ++ x) l (y ++ trim v) ++ b) := by
    conv_lhs => rw [hu', hv']
    simp [withLine]
  have hinner : withLine (trim u ++ x) l (y ++ trim v) =
      trim u ++ (x ++ '\n' :: (l ++ '\n' :: y)) ++ trim v := by
    simp [withLine]
  rw [hsplit, trim_blank_append ha, trim_append_blank _ hb, hinner]
  exact Tight.trim_eq ((tight_trim hu).append (tight_trim hv) _)

/-- The line is not empty, and all that is in it is blank. -/
structure IsBlankLine (l : Text) : Prop where
  nonempty : isEmptyLine l = false
  unbroken : '\n' ∉ l
  blank : isBlank l = true

/-- Two neighbours in the list become one paragraph, with the line between them. -/
def JoinedBy (l : Text) (ps qs : List Paragraph) : Prop :=
  ∃ above p q below x y, isBlank x = true ∧ isBlank y = true ∧ ps = above ++ p :: q :: below ∧
    qs = above ++ ⟨withLine (p.text ++ x) l (y ++ q.text)⟩ :: below

/-- A blank line in place of an empty one changes nothing or joins two paragraphs. -/
theorem paragraphs_withLine (u v : Text) {e f : Text} (he : isEmptyLine e = true)
    (hf : IsBlankLine f) :
    paragraphs (withLine u f v) = paragraphs (withLine u e v) ∨
      JoinedBy f (paragraphs (withLine u e v)) (paragraphs (withLine u f v)) := by
  obtain ⟨gs, g, -, happend⟩ := exists_runs_append (pieces '\n' u)
  obtain ⟨h, hs, hbelow⟩ :=
    List.exists_cons_of_ne_nil (List.splitOnP_ne_nil isEmptyLine (pieces '\n' v))
  have hold : runs (pieces '\n' (withLine u e v)) = gs ++ g :: h :: hs := by
    rw [pieces_withLine u v (feed_not_mem_of_isEmptyLine he), happend, runs_cons_of_pos he, runs,
      hbelow, List.modifyHead_cons, List.append_nil]
  have hnew : runs (pieces '\n' (withLine u f v)) = gs ++ (g ++ f :: h) :: hs := by
    rw [pieces_withLine u v hf.unbroken, happend, runs_cons_of_neg hf.nonempty hbelow,
      List.modifyHead_cons]
  rw [paragraphs_eq_runs, paragraphs_eq_runs, hold, hnew, List.filterMap_append,
    List.filterMap_append, List.filterMap_cons, List.filterMap_cons, List.filterMap_cons]
  cases hg : isBlank (joinRows g) with
  | true =>
    left
    rw [runText?_blank_append hf.blank hg, runText?_eq_none hg]
  | false =>
    cases hh : isBlank (joinRows h) with
    | true =>
      left
      rw [runText?_append_blank hf.blank g hh, runText?_eq_none hh]
    | false =>
      right
      have hjoin : joinRows (g ++ f :: h) = withLine (joinRows g) f (joinRows h) := by
        obtain ⟨q, h, rfl⟩ := List.exists_cons_of_ne_nil (ne_nil_of_joinRows hh)
        rw [joinRows_append_cons (ne_nil_of_joinRows hg), joinRows_cons_cons, withLine]
      have hsome : isBlank (joinRows (g ++ f :: h)) = false := by
        rw [hjoin, withLine, isBlank_append, hg]
        rfl
      obtain ⟨x, y, hx, hy, htrim⟩ := exists_trim_withLine hg hh
      refine ⟨(gs.filterMap runText?).map .mk, ⟨trim (joinRows g)⟩, ⟨trim (joinRows h)⟩,
        (hs.filterMap runText?).map .mk, x, y, hx, hy, ?_, ?_⟩
      · rw [runText?_eq_some hg, runText?_eq_some hh]
        simp
      · rw [runText?_eq_some hsome, hjoin, htrim]
        simp

end CommitStyle.Text
