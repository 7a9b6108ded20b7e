import SchemaShift.Session.Basic

/-!
# Pretended sessions

A pretended session records statements instead of executing them. Queries go to the session
beneath it, so that statements which depend on the live schema are the same as in earnest;
transactions are left out.

* `result_select`: selecting records nothing.
-/

namespace SchemaShift.Session

variable {σ : Type}

/-- A session that records statements, beside the state of the session beneath it. -/
def pretend (session : Session σ) : Session (σ × List String) where
  dialect := session.dialect
  database := session.database
  select sql := (session.select sql).onFirst
  execute sql := ExceptT.mk fun (s, recorded) => (.ok (), (s, recorded ++ [sql]))
  begin := pure ()
  commit := pure ()
  rollback := pure ()

theorem result_select (session : Session σ) (sql : String) (s : σ) (recorded : List String) :
    (session.pretend.select sql).result (s, recorded) =
      (((session.select sql).result s).1, (((session.select sql).result s).2, recorded)) := rfl

end SchemaShift.Session
