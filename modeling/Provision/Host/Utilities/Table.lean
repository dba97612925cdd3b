import Provision.Host.Utilities.Calculate
import Provision.Host.Utilities.Compare
import Provision.Host.Utilities.Concatenate
import Provision.Host.Utilities.Edit
import Provision.Host.Utilities.Find
import Provision.Host.Utilities.Lines

namespace Provision.Utilities

open Programs

/-!
# All utilities

Each utility by the name of its machine program.
-/

/-- Utilities by their names. -/
def table : List (String × Utility) := [
  ("[", test),
  ("arch", telling "x86_64"),
  ("basename", basename),
  ("cat", cat),
  ("chmod", chmod),
  ("cmp", cmp),
  ("cp", cp),
  ("cut", cut),
  ("date", date),
  ("diff", diff),
  ("dir", ls),
  ("dirname", dirname),
  ("echo", echo),
  ("egrep", searchLines "E"),
  ("env", env),
  ("expr", expr),
  ("false", answering 1),
  ("fgrep", searchLines "F"),
  ("find", find),
  ("fold", fold),
  ("grep", searchLines "G"),
  ("groups", telling "root"),
  ("head", head),
  ("hostname", telling "localhost"),
  ("id", identity),
  ("install", install),
  ("link", link),
  ("ln", ln),
  ("logname", logname),
  ("ls", ls),
  ("mkdir", mkdir),
  ("mktemp", mktemp),
  ("mv", mv),
  ("nice", nice),
  ("nl", nl),
  ("nohup", nohup),
  ("nproc", telling "4"),
  ("paste", paste),
  ("printenv", printenv),
  ("printf", printf),
  ("pwd", pwd),
  ("readlink", readlink),
  ("realpath", realpath),
  ("rev", rev),
  ("rm", rm),
  ("rmdir", rmdir),
  ("sed", sed),
  ("seq", seq),
  ("setsid", setsid),
  ("sleep", sleep),
  ("sort", sort),
  ("stat", stat),
  ("stdbuf", stdbuf),
  ("sync", answering 0),
  ("tac", tac),
  ("tail", tail),
  ("tee", tee),
  ("test", test),
  ("timeout", timeout),
  ("touch", touch),
  ("tr", tr),
  ("true", answering 0),
  ("truncate", truncate),
  ("tty", tty),
  ("uname", uname),
  ("uniq", uniq),
  ("unlink", unlink),
  ("users", answering 0),
  ("wc", wc),
  ("which", which),
  ("who", answering 0),
  ("whoami", whoami),
  ("xargs", xargs),
  ("yes", yes)
]

/-- The utility that is a machine program. -/
def utility? (name : String) : Option Utility :=
  table.lookup name

end Provision.Utilities
