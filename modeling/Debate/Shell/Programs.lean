import Debate.Shell.Edit.Run
import Debate.Shell.Program.Count
import Debate.Shell.Program.Encode
import Debate.Shell.Program.Entries
import Debate.Shell.Program.Expression
import Debate.Shell.Program.Part
import Debate.Shell.Program.Search
import Debate.Shell.Program.Start
import Debate.Shell.Program.Substitute
import Debate.Shell.Report.Run

/-!
# The programs

* `Programs.find?`   the program of a name.
-/

namespace Debate.Shell.Programs

/-- the program of a name -/
def find? (name : String) : Option Program :=
  match name with
  | "[" => some (testProgram true)
  | "awk" | "mawk" => some awk
  | "base64" => some base64
  | "basename" => some basename
  | "cat" => some cat
  | "chmod" => some chmod
  | "comm" => some comm
  | "cp" => some cp
  | "cut" => some cut
  | "dirname" => some dirname
  | "echo" => some echoProgram
  | "egrep" => some egrep
  | "env" => some env
  | "expand" => some expand
  | "expr" => some expr
  | "false" => some fun _ _ _ _ => return 1
  | "fgrep" => some fgrep
  | "fold" => some fold
  | "grep" => some grep
  | "head" => some head
  | "ls" => some ls
  | "mkdir" => some mkdir
  | "mv" => some mv
  | "nl" => some nl
  | "nohup" => some nohup
  | "od" => some od
  | "paste" => some paste
  | "printenv" => some printenv
  | "printf" => some printfProgram
  | "pwd" => some workingDirectory
  | "rev" => some rev
  | "rm" => some rm
  | "rmdir" => some rmdir
  | "sed" => some sed
  | "seq" => some seq
  | "sleep" => some sleep
  | "sort" => some sort
  | "tac" => some tac
  | "tail" => some tail
  | "tee" => some tee
  | "test" => some (testProgram false)
  | "timeout" => some timeout
  | "touch" => some touch
  | "tr" => some tr
  | "true" => some fun _ _ _ _ => return 0
  | "uniq" => some uniq
  | "wc" => some wc
  | "xargs" => some xargs
  | "yes" => some yes
  | _ => none

end Debate.Shell.Programs
