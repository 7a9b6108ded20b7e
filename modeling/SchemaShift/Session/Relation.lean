import SchemaShift.Session.Basic

/-!
# Relations between actions

Whatever is done with a session is composed of the actions that the session offers. A relation
between actions that goes along with their composition therefore holds of everything that two
sessions of one engine are used for, as soon as it holds of the actions that they offer.

* `ActionRelation.pure`, `ActionRelation.throw`: what does not depend on a session is related.
-/

namespace SchemaShift

variable {σ τ α : Type}

/-- A relation between actions on two kinds of states that goes along with their composition. -/
structure ActionRelation (σ τ : Type) where
  holds : {α : Type} → DbM σ α → DbM τ α → Prop
  ofExcept : ∀ {α : Type} (x : Except Error α), holds (DbM.ofExcept x) (DbM.ofExcept x)
  bind : ∀ {α β : Type} {x : DbM σ α} {y : DbM τ α} {f : α → DbM σ β} {g : α → DbM τ β},
    holds x y → (∀ a, holds (f a) (g a)) → holds (x >>= f) (y >>= g)

namespace ActionRelation

variable (R : ActionRelation σ τ)

theorem pure (a : α) : R.holds (pure a) (pure a) := R.ofExcept (.ok a)

theorem throw (e : Error) :
    R.holds (throw e : DbM σ α) (throw e : DbM τ α) := R.ofExcept (.error e)

/-- The relation goes along with catching failures as well. -/
def Catches : Prop :=
  ∀ {α : Type} {x : DbM σ α} {y : DbM τ α}, R.holds x y → R.holds x.attempt y.attempt

end ActionRelation

namespace Session

/-- Two sessions of one engine whose queries are related. -/
structure QueriesAlike (R : ActionRelation σ τ) (a : Session σ) (b : Session τ) : Prop where
  dialect : b.dialect = a.dialect
  database : b.database = a.database
  select : ∀ sql, R.holds (a.select sql) (b.select sql)

/-- Two sessions of one engine whose queries and statements are related. -/
structure Alike (R : ActionRelation σ τ) (a : Session σ) (b : Session τ) : Prop
    extends a.QueriesAlike R b where
  execute : ∀ sql, R.holds (a.execute sql) (b.execute sql)

end Session

end SchemaShift
