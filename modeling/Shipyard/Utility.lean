import Shipyard.Utility.Characters
import Shipyard.Utility.Coding
import Shipyard.Utility.Columns
import Shipyard.Utility.Editing
import Shipyard.Utility.Expression
import Shipyard.Utility.Files
import Shipyard.Utility.Grep
import Shipyard.Utility.Launch
import Shipyard.Utility.Listing
import Shipyard.Utility.Order
import Shipyard.Utility.Small
import Shipyard.Utility.Stream
import Shipyard.Utility.Surroundings

/-!
# The programs of a system

The table of the programs that scripts can count on, other than the shell.
-/

namespace Shipyard.Utility

/-- The programs by name. -/
def table : List (String × Utility) :=
  [("[", test true), ("base64", base64), ("basename", basename), ("cat", cat), ("chmod", chmod),
    ("cmp", cmp), ("comm", comm), ("cp", cp), ("cut", cut), ("date", date), ("dd", dd),
    ("dirname", dirname), ("echo", echo), ("egrep", egrep), ("env", env), ("expand", expand),
    ("expr", expr), ("false", answerWith 1), ("fgrep", fgrep), ("find", find), ("fold", fold),
    ("grep", grep), ("head", head), ("ln", ln), ("ls", ls), ("mkdir", mkdir),
    ("mktemp", mktemp), ("mv", mv), ("nice", nice), ("nl", nl), ("nohup", nohup), ("od", od),
    ("paste", paste), ("printenv", printenv), ("printf", printf), ("pwd", pwd),
    ("readlink", readlink), ("realpath", realpath), ("rev", rev), ("rm", rm), ("rmdir", rmdir),
    ("sed", sed), ("seq", seq), ("sha256sum", sha256sum), ("sleep", sleep), ("sort", sort),
    ("stat", stat), ("stdbuf", stdbuf), ("tac", tac), ("tail", tail), ("tee", tee),
    ("test", test false), ("timeout", timeout), ("touch", touch), ("tr", tr),
    ("true", answerWith 0), ("truncate", truncate), ("uname", uname), ("uniq", uniq), ("wc", wc),
    ("which", which), ("xargs", xargs), ("yes", yes)]

end Shipyard.Utility
