import SchemaShift.Proofs.Session.Actions
import SchemaShift.Session.Scripted

/-!
# Steady sessions

A session is steady when nothing that is executed fails or has an influence on the answers to
queries. Queries may fail, but then they always do.

Results:
* `Settled.bind`: actions that always come to one result are composed to such an action.
* `Steady.onFirst`: a session stays steady beside another state.
* `steady_scripted`: a session on a script is steady if the script lets nothing fail.
-/

namespace SchemaShift

variable {σ τ α β : Type} {states : σ → Prop}

namespace DbM

/-- In the given states an action comes to one result, and does not leave them. -/
def Always (states : σ → Prop) (x : DbM σ α) (r : Except Error α) : Prop :=
  ∀ s, states s → ∃ s', x.result s = (r, s') ∧ states s'

/-- In the given states an action comes to one result, whichever it is. -/
def Settled (states : σ → Prop) (x : DbM σ α) : Prop := ∃ r, x.Always states r

namespace Always

variable {x : DbM σ α} {f : α → DbM σ β} {a : α} {e : Error} {r : Except Error α}
  {r' : Except Error β}

theorem ofExcept (r : Except Error α) : (DbM.ofExcept r).Always states r :=
  fun s hs => ⟨s, rfl, hs⟩

theorem pure (a : α) : (Pure.pure a : DbM σ α).Always states (.ok a) := ofExcept (.ok a)

theorem bind (first : x.Always states (.ok a)) (second : (f a).Always states r') :
    (x >>= f).Always states r' := by
  intro s hs
  obtain ⟨s₁, result, hs₁⟩ := first s hs
  rw [result_bind, result]
  exact second s₁ hs₁

theorem bind_error (first : x.Always states (.error e)) : (x >>= f).Always states (.error e) := by
  intro s hs
  obtain ⟨s₁, result, hs₁⟩ := first s hs
  rw [result_bind, result]
  exact ⟨s₁, rfl, hs₁⟩

theorem onFirst (h : x.Always states r) :
    (x.onFirst : DbM (σ × τ) α).Always (fun p => states p.1) r := by
  rintro ⟨s, t⟩ hs
  obtain ⟨s', result, hs'⟩ := h s hs
  refine ⟨(s', t), ?_, hs'⟩
  show ((x.result s).1, ((x.result s).2, t)) = _
  rw [result]

end Always

namespace Settled

variable {x : DbM σ α} {f : α → DbM σ β}

theorem ofExcept (r : Except Error α) : (DbM.ofExcept r).Settled states := ⟨r, .ofExcept r⟩

theorem pure (a : α) : (Pure.pure a : DbM σ α).Settled states := ofExcept (.ok a)

theorem bind (first : x.Settled states) (second : ∀ a, (f a).Settled states) :
    (x >>= f).Settled states := by
  obtain ⟨e | a, first⟩ := first
  · exact ⟨.error e, first.bind_error⟩
  · obtain ⟨r, second⟩ := second a
    exact ⟨r, first.bind second⟩

end Settled

end DbM

namespace Session

/-- A session that answers queries in the given states regardless of what was executed, and where
no statement fails and no transaction. -/
structure Steady (session : Session σ) (states : σ → Prop) : Prop where
  select : ∀ sql, (session.select sql).Settled states
  execute : ∀ sql, (session.execute sql).Always states (.ok ())
  begin : session.begin.Always states (.ok ())
  commit : session.commit.Always states (.ok ())

variable {session : Session σ}

namespace Steady

theorem onFirst (h : session.Steady states) :
    (session.onFirst : Session (σ × τ)).Steady fun p => states p.1 where
  select sql := (h.select sql).imp fun _ always => always.onFirst
  execute sql := (h.execute sql).onFirst
  begin := h.begin.onFirst
  commit := h.commit.onFirst

theorem executeAll (h : session.Steady states) (statements : List String) :
    (session.executeAll statements).Always states (.ok ()) := by
  induction statements with
  | nil => exact .pure ()
  | cons sql rest ih => exact (h.execute sql).bind ih

end Steady

/-- A session on a script is steady if the script lets nothing fail. -/
theorem steady_scripted (d : Dialect) (database : String) (logSelects : Bool)
    (answers : List Answer) :
    (scripted d database logSelects).Steady fun s => s.answers = answers ∧ s.failing = [] := by
  have performs (statement sql : String) : (Script.perform statement sql).Always
      (fun s => s.answers = answers ∧ s.failing = []) (.ok ()) := by
    rintro s ⟨same, nothing⟩
    have succeeds : s.fails statement = false := by rw [Script.fails, nothing, List.any_nil]
    exact ⟨_, Script.execute_of_not_fails sql succeeds, same, nothing⟩
  exact
    { select := by
        intro sql
        refine ⟨((Script.answer logSelects sql).result { answers }).1, ?_⟩
        rintro s ⟨same, nothing⟩
        refine ⟨if logSelects then s.record ("? " ++ sql) else s, ?_, ?_⟩
        · show (Script.answer logSelects sql).result s = _
          simp only [Script.answer, DbM.result, ExceptT.run_mk, same]
          cases answers.find? fun a => Text.contains a.needle sql with
          | none => rfl
          | some a =>
            obtain ⟨needle, e | rows⟩ := a <;> rfl
        · split
          · exact ⟨same, nothing⟩
          · exact ⟨same, nothing⟩
      execute := fun sql => performs sql sql
      begin := performs _ _
      commit := performs _ _ }

end Session

end SchemaShift
