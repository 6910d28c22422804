import CommitStyle.Linter
import CommitStyle.Proofs.Except
import CommitStyle.Proofs.Text.Trim

/-!
# Rules that can be misused

A rule is misused if it is handed a header whose first word is broken over lines. Only the two
rules on the first word of a title or subject can be (`Rule.misused_of_offends`), and no message
that comes from outside has such a header (`Message.Received.unbroken`), so every rule gives a
verdict on every one of them (`Config.evaluate_of_unbroken`).
-/

namespace CommitStyle

/-! ## First words -/

namespace Text

theorem not_mem_firstWord_space (t : Text) : ' ' ∉ firstWord t := by
  intro h
  simpa using List.mem_takeWhile_imp h

theorem prefix_firstWord (t : Text) : firstWord t <+: t :=
  List.takeWhile_prefix _

end Text

/-- The first word of a text is a word unless it is broken over lines. -/
theorem Word.ofText?_firstWord (t : Text) :
    Word.ofText? (Text.firstWord t) =
      if h : '\n' ∈ Text.firstWord t then .error (.lineBreak (Text.firstWord t))
      else .ok ⟨Text.firstWord t, h, Text.not_mem_firstWord_space t⟩ := by
  unfold Word.ofText?
  simp [Text.not_mem_firstWord_space]

/-! ## Messages from outside -/

namespace Message

/-- The message was made from a text or from a JSON value. -/
inductive Received : Message → Prop where
  | parsed {raw : Text} {m : Message} : parse raw = .ok m → Received m
  | read {j : Json} {m : Message} : ofJson j = .ok m → Received m

theorem unbroken_headerOf (raw : Text) : '\n' ∉ headerOf raw := by
  unfold headerOf
  split
  · intro h
    have hline : '\n' ∈ raw.trim.takeWhile (· ≠ '\n') := by
      unfold Text.dropEndWhile at h
      exact List.mem_reverse.1 ((List.dropWhile_suffix _).subset (List.mem_reverse.1 h))
    simpa using List.mem_takeWhile_imp hline
  · assumption

theorem unbroken_of_parse {raw : Text} {m : Message} (h : parse raw = .ok m) :
    '\n' ∉ m.header := by
  unfold parse at h
  split at h
  · cases h
  · cases h
    exact unbroken_headerOf raw

/-- The header of a message from outside is one line. -/
theorem Received.unbroken {m : Message} (h : m.Received) : '\n' ∉ m.header := by
  cases h with
  | parsed h => exact unbroken_of_parse h
  | @read j _ h =>
    unfold ofJson at h
    split at h
    · cases h
    obtain ⟨raw, -, h⟩ := exists_of_bind_eq_ok h
    split at h
    · exact unbroken_of_parse h
    obtain ⟨header, -, h⟩ := exists_of_bind_eq_ok h
    split at h
    · cases h
    · next hbreak =>
      cases h
      exact fun hmem => hbreak (Or.inl hmem)

end Message

/-! ## The two rules on first words -/

namespace Header

theorem mem_of_mem_afterArea {h rest : Text} {c : Char} (ha : afterArea? h = some rest)
    (hc : c ∈ rest) : c ∈ h := by
  unfold afterArea? at ha
  split at ha
  · next hd =>
    cases ha
    have : c ∈ h.dropWhile (· ≠ ':') := by
      rw [hd]
      exact List.mem_cons_of_mem _ hc
    exact (List.dropWhile_suffix _).subset this
  · cases ha

theorem lacksCapital_of_unbroken {h : Text} (hb : '\n' ∉ h) : ∃ b, lacksCapital h = .ok b := by
  have hw : '\n' ∉ Text.firstWord h := fun hm => hb ((Text.prefix_firstWord h).subset hm)
  unfold lacksCapital
  rw [Word.ofText?_firstWord, dif_neg hw]
  split
  · exact ⟨_, rfl⟩
  · exact ⟨_, rfl⟩

theorem hasCapitalSubject_of_unbroken {h : Text} (hb : '\n' ∉ h) :
    ∃ b, hasCapitalSubject h = .ok b := by
  unfold hasCapitalSubject
  split
  · exact ⟨_, rfl⟩
  next rest ha =>
  have hw : '\n' ∉ Text.firstWord rest.trim := fun hm =>
    hb (mem_of_mem_afterArea ha
      ((Text.infix_trim rest).subset ((Text.prefix_firstWord rest.trim).subset hm)))
  rw [Word.ofText?_firstWord, dif_neg hw]
  split
  · exact ⟨_, rfl⟩
  · exact ⟨_, rfl⟩

end Header

namespace Rule

/-- A rule is misused only if it is about a first word and the header has a line feed. -/
theorem misused_of_offends {r : Rule} {o : Options} {m : Message} {e : Misuse}
    (h : r.offends o m = .error e) :
    (r = .titleUppercase ∨ r = .subjectLowercase) ∧ '\n' ∈ m.header := by
  cases r with
  | titleUppercase =>
    refine ⟨Or.inl rfl, Decidable.byContradiction fun hb => ?_⟩
    obtain ⟨b, hok⟩ := Header.lacksCapital_of_unbroken hb
    cases hok.symm.trans h
  | subjectLowercase =>
    refine ⟨Or.inr rfl, Decidable.byContradiction fun hb => ?_⟩
    obtain ⟨b, hok⟩ := Header.hasCapitalSubject_of_unbroken hb
    cases hok.symm.trans h
  | _ => cases h

theorem exists_verdict {r : Rule} {o : Options} {m : Message} {b : Bool}
    (h : r.offends o m = .ok b) : ∃ v, r.check o m = .ok v ∧ (v.passed = false ↔ b = true) := by
  refine ⟨.ofOffence b (r.diagnostic o m), ?_, ?_⟩
  · rw [check, h]
    rfl
  · exact Bool.not_eq_eq_eq_not

theorem offends_of_unbroken (r : Rule) (o : Options) {m : Message} (hb : '\n' ∉ m.header) :
    ∃ b, r.offends o m = .ok b := by
  cases h : r.offends o m with
  | ok b => exact ⟨b, rfl⟩
  | error e => exact absurd (misused_of_offends h).2 hb

end Rule

namespace Config

/-- The verdict of a rule that found an offence or none, as the configuration wants it. -/
def verdictOf (c : Config) (r : Rule) (m : Message) (offence : Bool) : Verdict :=
  ⟨(c.applicability r == .always) != offence, r.diagnostic c.options m⟩

theorem evaluate_eq (c : Config) (r : Rule) (m : Message) :
    c.evaluate r m = (r.offends c.options m).map (c.verdictOf r m) := by
  unfold evaluate Rule.check
  cases r.offends c.options m with
  | error e => rfl
  | ok b =>
    cases ha : c.applicability r <;> cases b <;>
      simp [Except.map, verdictOf, Verdict.ofOffence, Verdict.inverted, ha]

theorem evaluate_of_unbroken (c : Config) (r : Rule) {m : Message} (hb : '\n' ∉ m.header) :
    ∃ v, c.evaluate r m = .ok v := by
  obtain ⟨b, h⟩ := r.offends_of_unbroken c.options hb
  exact ⟨c.verdictOf r m b, by rw [evaluate_eq, h]; rfl⟩

end Config
end CommitStyle
