import CommitStyle.Command.Run
import CommitStyle.Command.Workspace

/-!
# Steps that only look

Some steps of a command leave the workspace as it is (`Run.Observes`), and such a step gives the
same twice in a row (`Run.bind_twice`). What holds of every value of a run follows from the values
of its steps (`Run.Yields`).
-/

namespace CommitStyle

variable {α β : Type}

namespace Run

variable {x : Run (StateM Workspace) α} {f : α → Run (StateM Workspace) β}

/-- A run goes on with the first value or stops at the first error. -/
theorem run_bind (x : Run (StateM Workspace) α) (f : α → Run (StateM Workspace) β)
    (w : Workspace) : (x >>= f).run.run w =
      match x.run.run w with
      | (.ok a, w) => (f a).run.run w
      | (.error e, w) => (.error e, w) := by
  rw [ExceptT.run_bind, StateT.run_bind]
  rcases x.run.run w with ⟨e | a, w'⟩ <;> rfl

@[simp] theorem run_ask (action : StateM Workspace α) (w : Workspace) :
    (ask action).run.run w = (.ok (action.run w).1, (action.run w).2) :=
  rfl

@[simp] theorem run_orError (e : Except Error α) (w : Workspace) :
    (orError e : Run (StateM Workspace) α).run.run w = (e.mapError .error, w) :=
  rfl

@[simp] theorem run_orMisuse (e : Except Misuse α) (w : Workspace) :
    (orMisuse e : Run (StateM Workspace) α).run.run w = (e.mapError .misuse, w) :=
  rfl

/-! ## Runs that only look -/

/-- The run leaves every workspace as it is. -/
def Observes (x : Run (StateM Workspace) α) : Prop :=
  ∀ w, (x.run.run w).2 = w

theorem Observes.eq (hx : Observes x) {w w' : Workspace} {e : Except Stop α}
    (h : x.run.run w = (e, w')) : w' = w := by
  have hw := hx w
  rw [h] at hw
  exact hw

theorem Observes.bind (hx : Observes x) (hf : ∀ a, Observes (f a)) : Observes (x >>= f) := by
  intro w
  rw [run_bind]
  rcases h : x.run.run w with ⟨e | a, w'⟩
  · exact hx.eq h
  · rw [hx.eq h]
    exact hf a w

/-- What a run that only looks gives once, it gives twice. -/
theorem bind_twice (hx : Observes x) (f : α → α → Run (StateM Workspace) β) :
    (x >>= fun a => x >>= fun b => f a b) = x >>= fun a => f a a := by
  refine ExceptT.ext (StateT.ext fun w => ?_)
  rw [run_bind, run_bind]
  rcases h : x.run.run w with ⟨e | a, w'⟩
  · rfl
  -- The second run starts where the first did, and gives the same again.
  · obtain rfl := hx.eq h
    simp only [run_bind, h]

/-! ## Values of runs -/

/-- Every value that the run gives has the property. -/
def Yields (P : α → Prop) (x : Run (StateM Workspace) α) : Prop :=
  ∀ ⦃w w' a⦄, x.run.run w = (.ok a, w') → P a

namespace Yields

theorem pure {P : α → Prop} {a : α} (h : P a) :
    Yields P (Pure.pure a : Run (StateM Workspace) α) := by
  intro w w' b hb
  cases hb
  exact h

theorem throw (P : α → Prop) (e : Stop) :
    Yields P (MonadExcept.throw e : Run (StateM Workspace) α) := by
  intro w w' a ha
  cases ha

theorem orError {P : α → Prop} {e : Except Error α} (h : ∀ a, e = .ok a → P a) :
    Yields P (Run.orError e : Run (StateM Workspace) α) := by
  intro w w' a ha
  cases e with
  | error e => cases ha
  | ok b =>
    cases ha
    exact h _ rfl

theorem ask {P : α → Prop} {x : StateM Workspace α} (h : ∀ w, P (x.run w).1) :
    Yields P (Run.ask x) := by
  intro w w' a ha
  cases ha
  exact h w

theorem bind {P : β → Prop} {Q : α → Prop} (hx : Yields Q x) (hf : ∀ a, Q a → Yields P (f a)) :
    Yields P (x >>= f) := by
  intro w w' b hb
  rw [run_bind] at hb
  rcases h : x.run.run w with ⟨e | a, w''⟩
  · rw [h] at hb
    cases hb
  · rw [h] at hb
    exact hf a (hx h) hb

/-- Where the last step gives such values whatever comes before, nothing need be known of that. -/
theorem after {P : β → Prop} (x : Run (StateM Workspace) α) (hf : ∀ a, Yields P (f a)) :
    Yields P (x >>= f) :=
  bind (Q := fun _ => True) (fun _ _ _ _ => trivial) fun a _ => hf a

end Yields
end Run
end CommitStyle
