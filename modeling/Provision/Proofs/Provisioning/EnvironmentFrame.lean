import Provision.Proofs.Environment.Activation
import Provision.Proofs.Provisioning.InstalledQt

namespace Provision

/-!
# What a run does to the environment

A run leaves what the process started with as it is, and so every variable that
may not be changed. On Unix nothing is changed at all, except that what is shown
of the programs of a Qt from the index goes to the end of the search path.
-/

/-- A variable that may not be changed has the value of the process. -/
theorem Environment.var?_of_foreign
    {before after : Environment}
    {name : String}
    (foreign : Variable.ofName? name = none)
    (sameBase : after.base = before.base) :
    after.var? name = before.var? name := by
  rw [var?, var?, Delta.getNamed?, Delta.getNamed?, foreign, sameBase]
  rfl

/-- The start of a run with a search path and another variable. -/
def pathStart : Moment where
  session := { env := .ofSnapshot (.ofList [("PATH", "/usr/bin"), ("USER", "dev")]) }
  world := { disk := .empty, environment := .empty }

end Provision
