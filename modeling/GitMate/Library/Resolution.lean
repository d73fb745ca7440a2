import Mathlib.Data.Option.Basic

namespace Interleaving

/-!
# How the environment resolves an operation

A remote operation succeeds with what the environment supplies, it takes
effect although its reply is lost, or it fails without an effect.  The
operation itself may refuse, and then the world stays as it is.
-/

inductive Resolution (Supply Fault : Type) where
  | succeed (supply : Supply)
  | lose (supply : Supply) (fault : Fault)
  | fail (fault : Fault)
  deriving DecidableEq, Repr

namespace Resolution

variable {Supply Fault World α : Type} {resolution : Resolution Supply Fault} {world later : World}
  {refused : Fault} {effect : Supply -> Option (α × World)} {outcome : Except Fault α}

/-- Resolve an operation that may change the world. -/
def write (resolution : Resolution Supply Fault) (world : World) (refused : Fault)
    (effect : Supply -> Option (α × World)) : Except Fault α × World :=
  match resolution with
  | .succeed supply =>
      match effect supply with
      | some done => (.ok done.1, done.2)
      | none => (.error refused, world)
  | .lose supply fault =>
      match effect supply with
      | some done => (.error fault, done.2)
      | none => (.error fault, world)
  | .fail fault => (.error fault, world)

/-- Resolve an operation that only replies. -/
def read (resolution : Resolution Supply Fault) (reply : Supply -> α) : Except Fault α :=
  match resolution with
  | .succeed supply => .ok (reply supply)
  | .lose _ fault | .fail fault => .error fault

/-- The effect takes place. -/
def commits (resolution : Resolution Supply Fault) (effect : Supply -> Option (α × World)) : Bool :=
  match resolution with
  | .succeed supply | .lose supply _ => (effect supply).isSome
  | .fail _ => false

/-- A write takes effect, and then a reply is the one of the effect, or it
leaves the world as it is and does not reply. -/
theorem write_spec (wrote : resolution.write world refused effect = (outcome, later)) :
    (resolution.commits effect = true ∧ Exists fun supply => Exists fun done =>
      effect supply = some done ∧ later = done.2 ∧
        forall reply, outcome = .ok reply -> reply = done.1) ∨
    (resolution.commits effect = false ∧ later = world ∧ forall reply, outcome ≠ .ok reply) := by
  unfold write at wrote
  unfold commits
  cases resolution with
  | succeed supply =>
      simp only at wrote ⊢
      cases took : effect supply with
      | some done =>
          rw [took] at wrote
          cases wrote
          exact Or.inl ⟨rfl, supply, done, took, rfl, fun reply same => (Except.ok.inj same).symm⟩
      | none =>
          rw [took] at wrote
          cases wrote
          exact Or.inr ⟨rfl, rfl, fun reply same => by cases same⟩
  | lose supply fault =>
      simp only at wrote ⊢
      cases took : effect supply with
      | some done =>
          rw [took] at wrote
          cases wrote
          exact Or.inl ⟨rfl, supply, done, took, rfl, fun reply same => by cases same⟩
      | none =>
          rw [took] at wrote
          cases wrote
          exact Or.inr ⟨rfl, rfl, fun reply same => by cases same⟩
  | fail fault =>
      cases wrote
      exact Or.inr ⟨rfl, rfl, fun reply same => by cases same⟩

theorem read_ok {reply : Supply -> α} {value : α} (replied : resolution.read reply = .ok value) :
    Exists fun supply => value = reply supply := by
  cases resolution with
  | succeed supply =>
      cases replied
      exact ⟨supply, rfl⟩
  | lose | fail => cases replied

end Resolution
end Interleaving
