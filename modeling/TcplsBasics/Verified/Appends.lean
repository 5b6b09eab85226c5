import Mathlib

/-!
# Lists built by pushes in a fixed order

Code that assembles a reply by a sequence of conditional pushes, each step
pushing items of its own kinds, produces a list whose kinds come in the
order of the steps: the list of kinds is a sublist of the steps' kinds put
together.  `AppendsIn key ok block l l'` says that one stretch of such
pushes took `l` to `l'`, pushing only items whose kind (`key`) is in `block`,
in `block`'s order, and which satisfy `ok`.  Stretches compose
(`AppendsIn.trans`), and a list built from nothing holds each kind at most
once when the steps' kinds are distinct (`AppendsIn.nodup`).

## Main results

* `AppendsIn.push`, `AppendsIn.refl`, `AppendsIn.trans`, `AppendsIn.mono`:
  the building steps.
* `AppendsIn.nodup`, `AppendsIn.forall_mem`, `AppendsIn.key_mem`: what a list
  built from `[]` satisfies.
-/

namespace TcplsBasics.Verified.Appends

variable {α β : Type}

/-- `l'` is `l` followed by items whose keys form a sublist of `block`, each
of them satisfying `ok`. -/
def AppendsIn (key : β → α) (ok : α → Prop) (block : List α) (l l' : List β) : Prop :=
  ∃ new, l' = l ++ new ∧ (new.map key).Sublist block ∧ ∀ x ∈ new, ok (key x)

namespace AppendsIn

variable {key : β → α} {ok ok' : α → Prop} {block block₁ block₂ : List α} {l l₁ l₂ l₃ : List β}

/-- A step that pushes nothing. -/
theorem refl (block : List α) (l : List β) : AppendsIn key ok block l l :=
  ⟨[], by simp, List.nil_sublist _, by simp⟩

/-- A step that pushes one item. -/
theorem push {x : β} (hx : ok (key x)) : AppendsIn key ok [key x] l (l ++ [x]) :=
  ⟨[x], rfl, List.Sublist.refl _, by simpa using hx⟩

theorem trans (h₁ : AppendsIn key ok block₁ l₁ l₂) (h₂ : AppendsIn key ok block₂ l₂ l₃) :
    AppendsIn key ok (block₁ ++ block₂) l₁ l₃ := by
  obtain ⟨new₁, rfl, hs₁, hok₁⟩ := h₁
  obtain ⟨new₂, rfl, hs₂, hok₂⟩ := h₂
  refine ⟨new₁ ++ new₂, by simp, by simpa using hs₁.append hs₂, ?_⟩
  intro x hx
  rcases List.mem_append.mp hx with hx | hx
  exacts [hok₁ x hx, hok₂ x hx]

theorem mono (hb : block₁.Sublist block₂) (hok : ∀ a, ok a → ok' a)
    (h : AppendsIn key ok block₁ l₁ l₂) : AppendsIn key ok' block₂ l₁ l₂ := by
  obtain ⟨new, rfl, hs, hnew⟩ := h
  exact ⟨new, rfl, hs.trans hb, fun x hx => hok _ (hnew x hx)⟩

/-- Built from nothing with distinct kinds, each kind occurs at most once. -/
theorem nodup (h : AppendsIn key ok block [] l) (hb : block.Nodup) : (l.map key).Nodup := by
  obtain ⟨new, rfl, hs, -⟩ := h
  simpa using hs.nodup hb

/-- Built from nothing, every item satisfies `ok`. -/
theorem forall_mem (h : AppendsIn key ok block [] l) : ∀ x ∈ l, ok (key x) := by
  obtain ⟨new, rfl, -, hnew⟩ := h
  simpa using hnew

/-- Built from nothing, every item's kind is one of the block's. -/
theorem key_mem (h : AppendsIn key ok block [] l) {x : β} (hx : x ∈ l) : key x ∈ block := by
  obtain ⟨new, rfl, hs, -⟩ := h
  exact hs.subset (List.mem_map_of_mem (by simpa using hx))

end AppendsIn

end TcplsBasics.Verified.Appends
