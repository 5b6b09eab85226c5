/-!
# Results that end alike

A model of a function that may panic returns an `Except`.  To say that one
model implements another, each result of the first is matched with the
result of the second: the same error, or values related by a relation `R`
between the two state spaces.  `Agree` is that matching; `Agree.bind` lets a
proof follow the `do` blocks of the two models side by side.

## Main results

* `Agree.bind`, `Agree.bind_ok`: agreeing computations followed by agreeing
  continuations agree.
* `Agree.ok_left`, `Agree.error_left`: reading the second result off the first.
-/

namespace TcplsBasics.Verified.Results

variable {ε α β γ δ : Type}

/-- Two results end alike: with the same error, or with values related by `R`. -/
def Agree (R : α → β → Prop) : Except ε α → Except ε β → Prop
  | .ok a, .ok b => R a b
  | .error e, .error e' => e = e'
  | _, _ => False

variable {R : α → β → Prop} {S : γ → δ → Prop}

theorem Agree.error (e : ε) : Agree R (.error e : Except ε α) (.error e : Except ε β) := rfl

theorem Agree.bind {x : Except ε α} {y : Except ε β} {f : α → Except ε γ} {g : β → Except ε δ}
    (h : Agree R x y) (hf : ∀ a b, R a b → Agree S (f a) (g b)) : Agree S (x >>= f) (y >>= g) := by
  cases x with
  | error e =>
    cases y with
    | error e' => exact h
    | ok b => exact absurd h id
  | ok a =>
    cases y with
    | error e' => exact absurd h id
    | ok b => exact hf a b h

/-- `Agree.bind`, where the continuations may also use how the second
computation ended. -/
theorem Agree.bind_ok {x : Except ε α} {y : Except ε β} {f : α → Except ε γ} {g : β → Except ε δ}
    (h : Agree R x y) (hf : ∀ a b, y = .ok b → R a b → Agree S (f a) (g b)) :
    Agree S (x >>= f) (y >>= g) := by
  cases y with
  | error e =>
    cases x with
    | error e' => exact h
    | ok a => exact absurd h id
  | ok b =>
    cases x with
    | error e' => exact absurd h id
    | ok a => exact hf a b rfl h

/-- A success on the left is matched by a related success on the right. -/
theorem Agree.ok_left {a : α} {y : Except ε β} (h : Agree R (.ok a) y) : ∃ b, y = .ok b ∧ R a b := by
  cases y with
  | error e => exact absurd h id
  | ok b => exact ⟨b, rfl, h⟩

/-- An error on the left is the same error on the right. -/
theorem Agree.error_left {e : ε} {y : Except ε β} (h : Agree R (.error e : Except ε α) y) :
    y = .error e := by
  cases y with
  | error e' => exact congrArg Except.error h.symm
  | ok b => exact absurd h id

/-- A success on the right is matched by a related success on the left. -/
theorem Agree.ok_right {x : Except ε α} {b : β} (h : Agree R x (.ok b)) : ∃ a, x = .ok a ∧ R a b := by
  cases x with
  | error e => exact absurd h id
  | ok a => exact ⟨a, rfl, h⟩

end TcplsBasics.Verified.Results
