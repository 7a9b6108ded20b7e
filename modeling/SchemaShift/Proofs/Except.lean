import Mathlib.Data.List.Forall2

/-!
# Computations that may fail

A computation that may fail and is put together from others has a result when they have results.

Results:
* `Except.bind_eq_ok_iff`: two computations in a row.
* `Except.exists_of_map_eq_ok`: a computation whose result is changed.
* `Except.mapM_eq_ok_iff`: one computation for each element of a list.
-/

namespace SchemaShift.Except

variable {ε α β : Type}

theorem bind_eq_ok_iff {x : Except ε α} {f : α → Except ε β} {b : β} :
    x >>= f = .ok b ↔ ∃ a, x = .ok a ∧ f a = .ok b := by
  cases x with
  | error e =>
    constructor
    · exact nofun
    · rintro ⟨_, ⟨⟩, _⟩
  | ok a =>
    constructor
    · exact fun h => ⟨a, rfl, h⟩
    · rintro ⟨_, ⟨⟩, h⟩
      exact h

theorem exists_of_map_eq_ok {x : Except ε α} {f : α → β} {b : β} (h : x.map f = .ok b) :
    ∃ a, x = .ok a ∧ f a = b := by
  cases x with
  | error e => cases h
  | ok a => exact ⟨a, rfl, Except.ok.inj h⟩

theorem mapM_eq_ok_iff {f : α → Except ε β} {as : List α} {bs : List β} :
    as.mapM f = .ok bs ↔ List.Forall₂ (fun a b => f a = .ok b) as bs := by
  induction as generalizing bs with
  | nil =>
    constructor
    · rintro ⟨⟩
      exact .nil
    · rintro ⟨⟩
      rfl
  | cons a as ih =>
    rw [List.mapM_cons, List.forall₂_cons_left_iff]
    constructor
    · intro h
      obtain ⟨b, first, h⟩ := bind_eq_ok_iff.1 h
      obtain ⟨bs, rest, h⟩ := bind_eq_ok_iff.1 h
      exact ⟨b, bs, first, ih.1 rest, (Except.ok.inj h).symm⟩
    · rintro ⟨b, bs, first, rest, rfl⟩
      exact bind_eq_ok_iff.2 ⟨b, first, bind_eq_ok_iff.2 ⟨bs, ih.2 rest, rfl⟩⟩

/-- What holds of the result for any element holds of all results. -/
theorem forall_of_mapM_eq_ok {f : α → Except ε β} {P : β → Prop} {as : List α} {bs : List β}
    (each : ∀ a b, f a = .ok b → P b) (h : as.mapM f = .ok bs) : ∀ b ∈ bs, P b := by
  replace h := mapM_eq_ok_iff.1 h
  induction h with
  | nil => exact fun _ hb => nomatch hb
  | cons first _ ih => exact List.forall_mem_cons.2 ⟨each _ _ first, ih⟩

end SchemaShift.Except
