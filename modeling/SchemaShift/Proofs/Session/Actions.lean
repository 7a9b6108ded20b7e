import SchemaShift.Session.Relation
import SchemaShift.Sql.Query

/-!
# What comes of actions

What an action gives and the states that it leads to follow from those of the actions that it is
composed of.

Results:
* `DbM.Gives.bind`: what an action gives is what the next one starts from.
* `ActionRelation.keeping`: actions that do not leave a set of states.
-/

namespace SchemaShift

variable {σ τ α β : Type}

namespace DbM

/-- An action without a state has a result if there is something that its result is mapped to. -/
theorem exists_of_map_result {x : DbM Unit α} {f : α → β} {b : β}
    (h : (x.result ()).1.toOption.map f = some b) : ∃ a, x.result () = (.ok a, ()) ∧ f a = b := by
  generalize x.result () = after at h ⊢
  obtain ⟨e | a, _⟩ := after
  · cases h
  · exact ⟨a, rfl, Option.some_inj.1 h⟩

/-- An action that gives a value in some state, and leads to one of the given states in which a view
shows a certain thing. -/
def Gives {ν : Type} (states : σ → Prop) (view : σ → ν) (x : DbM σ α) (s : σ) (a : α) (v : ν) :
    Prop :=
  ∃ s', x.result s = (.ok a, s') ∧ states s' ∧ view s' = v

namespace Gives

variable {ν : Type} {states : σ → Prop} {view : σ → ν} {x : DbM σ α} {s : σ} {a : α} {b : β}
  {v w : ν}

theorem pure (hs : states s) : Gives states view (Pure.pure a) s a (view s) := ⟨s, rfl, hs, rfl⟩

theorem bind {f : α → DbM σ β} (first : Gives states view x s a v)
    (second : ∀ s', states s' → view s' = v → Gives states view (f a) s' b w) :
    Gives states view (x >>= f) s b w := by
  obtain ⟨s₁, result, hs₁, shown⟩ := first
  obtain ⟨s₂, result', hs₂, shown'⟩ := second s₁ hs₁ shown
  exact ⟨s₂, result_bind_eq_ok_iff.2 ⟨a, s₁, result, result'⟩, hs₂, shown'⟩

end Gives

end DbM

namespace ActionRelation

/-- The first action keeps to a set of states. -/
def keeping (states : σ → Prop) : ActionRelation σ σ where
  holds x _ := ∀ s, states s → states (x.result s).2
  ofExcept _ _ hs := hs
  bind := by
    intro α β x _ f _ first second s hs
    have between := first s hs
    rw [DbM.result_bind]
    generalize x.result s = after at between ⊢
    obtain ⟨e | a, s'⟩ := after
    · exact between
    · exact second a s' between

theorem catches_keeping (states : σ → Prop) : (keeping states).Catches :=
  fun first s hs => first s hs

end ActionRelation

namespace Session

/-! ## Fixed answers -/

/-- A session whose catalog answers certain queries and has no rows for others. -/
def answering (answers : List (String × List Row)) : Session Unit where
  dialect := .sqlite
  database := "main"
  select sql := pure ((answers.lookup sql).getD [])
  execute _ := pure ()
  begin := pure ()
  commit := pure ()
  rollback := pure ()

/-- A session whose catalog knows the columns of one table without keys. -/
def describing (table : String) (names : List String) : Session Unit where
  dialect := .sqlite
  database := "main"
  select sql := pure
    (if sql = Query.columns .sqlite "main" table then
      names.map fun name => .ofPairs
        [("name", .text name), ("type", .text "INTEGER"), ("notnull", .integer 0),
          ("dflt_value", .null), ("pk", .integer 0)]
    else [])
  execute _ := pure ()
  begin := pure ()
  commit := pure ()
  rollback := pure ()

end Session

end SchemaShift
