import Storefront.Log.Call

/-!
# Logging sessions

What a program does with a journal once it is configured: fields are bound for the time of a request
and dropped behind it, and loggers are called in between. A call that goes wrong writes nothing.

* `Call.stamped`: a call whose entry bears its time.
* `Journal.run`: the lines of a sequence of steps.
* `Journal.actAll`, `Journal.afterAll`: the lines of a sequence in which the journal is also configured
  anew, and the journal behind it.
-/

namespace Storefront.Log

namespace Call

/-- The field for the time of an entry. -/
def timeField : Text := "timestamp"

/-- A call whose entry bears its time, where entries bear one. The time stands over what the call has
under this name. -/
def stamped (c : Call) (time : Option Text) : Call :=
  match time with
  | none => c
  | some t => { c with fields := Value.setField c.fields timeField (.text t) }

end Call

/-- What a program does. -/
inductive Step where
  | bind (fields : Fields)
  | clear
  | call (time : Option Text) (c : Call)

namespace Journal

/-- The lines of a step, and the journal behind it. -/
def step (j : Journal) : Step → List Line × Journal
  | .bind fields => ([], j.bind fields)
  | .clear => ([], j.clear)
  | .call time c =>
    (((c.stamped time).perform j).toOption.getD [],
      { j with loggers := (c.stamped time).loggersAfter j })

/-- The lines of a sequence of steps. -/
def run (j : Journal) : List Step → List Line
  | [] => []
  | s :: rest => (j.step s).1 ++ (j.step s).2.run rest

end Journal

/-- What happens to a journal: it is configured, used by the program, or written to from elsewhere. -/
inductive Action where
  | configure (c : Configuration)
  | step (s : Step)
  | plain (c : PlainCall)

namespace Journal

/-- The lines of an action, and the journal behind it. Configuring writes nothing, whether or not the
configuration is taken over. -/
def act (j : Journal) : Action → List Line × Journal
  | .configure c => ([], (j.configure c).1)
  | .step s => j.step s
  | .plain c =>
    ((c.perform j).toOption.getD [], { j with loggers := c.loggersAfter j.loggers })

/-- The lines of each of several actions. -/
def actAll (j : Journal) : List Action → List (List Line)
  | [] => []
  | a :: rest => (j.act a).1 :: (j.act a).2.actAll rest

/-- The journal behind several actions. -/
def afterAll (j : Journal) (actions : List Action) : Journal :=
  actions.foldl (fun j a => (j.act a).2) j

end Journal

end Storefront.Log
