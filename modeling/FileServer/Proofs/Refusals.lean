/-!
Steps one after another of which each may be refused: the first refusal is that of the whole.
-/

namespace FileServer

variable {ε α β : Type} {x : Except ε α} {f : α → Except ε β}

@[simp]
theorem ok_bind (a : α) (f : α → Except ε β) : (Except.ok a >>= f) = f a := rfl

@[simp]
theorem error_bind (e : ε) (f : α → Except ε β) : (Except.error e >>= f) = .error e := rfl

@[simp]
theorem some_bind (a : α) (g : α → Option β) : (some a >>= g) = g a := rfl

/-- Two steps give a value if the first gives one with which the second gives it. -/
theorem bind_eq_ok_iff {b : β} : (x >>= f) = .ok b ↔ ∃ a, x = .ok a ∧ f a = .ok b := by
  cases x <;> simp

/-- A step that is refused under a condition gives a value if the condition does not hold. -/
theorem ite_throw_eq_ok_iff {c : Prop} [Decidable c] {e : ε} {a : α} :
    (if c then throw e else x) = .ok a ↔ ¬c ∧ x = .ok a := by
  split
  case isTrue h => exact ⟨fun heq => (nomatch heq), fun heq => absurd h heq.1⟩
  case isFalse h => exact (and_iff_right h).symm

/-- Another wording of the refusal does not change when a value is given. -/
theorem mapError_eq_ok_iff {ε' : Type} {g : ε → ε'} {a : α} : x.mapError g = .ok a ↔ x = .ok a := by
  cases x with
  | ok b => exact ⟨fun h => congrArg _ (Except.ok.inj h), fun h => congrArg _ (Except.ok.inj h)⟩
  | error e => exact ⟨fun h => (nomatch h), fun h => nomatch h⟩

/-- A step that goes on only under a condition. -/
theorem guard_of_pos {p : Prop} [Decidable p] (h : p) : (guard p : Option Unit) = some () := if_pos h

theorem guard_of_neg {p : Prop} [Decidable p] (h : ¬p) : (guard p : Option Unit) = none := if_neg h

/-- A step gives a value if the value can be taken from it. -/
theorem eq_ok_of_toOption {a : α} (h : x.toOption = some a) : x = .ok a := by
  cases x with
  | ok => exact congrArg Except.ok (Option.some.inj h)
  | error => cases h

end FileServer
