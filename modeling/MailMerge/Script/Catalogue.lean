import MailMerge.Script.Utility.Blocks
import MailMerge.Script.Utility.Calling
import MailMerge.Script.Utility.Characters
import MailMerge.Script.Utility.Columns
import MailMerge.Script.Utility.Condition
import MailMerge.Script.Utility.Counting
import MailMerge.Script.Utility.Difference
import MailMerge.Script.Utility.Dump
import MailMerge.Script.Utility.Edit
import MailMerge.Script.Utility.Ordering
import MailMerge.Script.Utility.Search

/-!
# The utilities by their names
-/

namespace MailMerge.Script.Catalogue

/-- Utilities that run no other programs. -/
def plain : List (String × Utility) :=
  [("true", fun _ => return 0),
    ("false", fun _ => return 1),
    ("echo", Utility.plainEcho),
    ("printf", Utility.printf),
    ("test", Utility.test false),
    ("[", Utility.test true),
    ("cat", Utility.cat),
    ("head", Utility.head),
    ("tail", Utility.tail),
    ("tac", Utility.tac),
    ("rev", Utility.rev),
    ("tee", Utility.tee),
    ("wc", Utility.wc),
    ("cut", Utility.cut),
    ("paste", Utility.paste),
    ("sort", Utility.sort),
    ("uniq", Utility.uniq),
    ("comm", Utility.comm),
    ("tr", Utility.tr),
    ("fold", Utility.fold),
    ("expand", Utility.expand),
    ("nl", Utility.nl),
    ("seq", Utility.seq),
    ("yes", Utility.yes),
    ("od", Utility.od),
    ("cp", Utility.cp),
    ("mv", Utility.mv),
    ("rm", Utility.rm),
    ("rmdir", Utility.rmdir),
    ("mkdir", Utility.mkdir),
    ("touch", Utility.touch),
    ("ln", Utility.ln),
    ("chmod", Utility.chmod),
    ("ls", Utility.ls),
    ("basename", Utility.basename),
    ("dirname", Utility.dirname),
    ("realpath", Utility.realpath "realpath"),
    ("readlink", Utility.realpath "readlink"),
    ("mktemp", Utility.mktemp),
    ("cmp", Utility.cmp),
    ("diff", Utility.diff),
    ("join", Utility.join),
    ("dd", Utility.dd),
    ("truncate", Utility.truncate),
    ("stat", Utility.stat),
    ("link", Utility.link),
    ("unlink", Utility.unlink),
    ("install", Utility.install),
    ("hostname", Utility.line "localhost"),
    ("date", Utility.line "Thu Jan  1 00:00:00 UTC 1970"),
    ("grep", Utility.grep "grep"),
    ("egrep", Utility.grep "egrep"),
    ("fgrep", Utility.grep "fgrep"),
    ("expr", Utility.expr),
    ("sed", Utility.sed),
    ("sleep", Utility.sleep),
    ("pwd", Utility.workingFolder),
    ("printenv", Utility.printenv),
    ("id", Utility.user),
    ("whoami", Utility.line "root"),
    ("uname", Utility.uname),
    ("nproc", Utility.line "1"),
    ("tty", Utility.tty),
    ("sync", fun _ => return 0),
    ("sha256sum", Utility.sha256sum),
    ("base64", Utility.base64)]

/-- Utilities that run other programs, by what calls those. -/
def calling : List (String × (Utility.Caller → Utility)) :=
  [("env", Utility.env),
    ("nice", Utility.nice),
    ("nohup", Utility.nohup),
    ("setsid", Utility.setsid),
    ("timeout", Utility.timeout),
    ("xargs", Utility.xargs),
    ("find", Utility.find)]

def shells : List String :=
  ["sh", "dash", "bash"]

/-- The names of all utilities. -/
def names : List String :=
  plain.map Prod.fst ++ calling.map Prod.fst ++ "which" :: shells

/-- The name is that of a utility. -/
def isUtility (name : String) : Bool :=
  names.contains name

/-- Calls a utility that is no shell; `find` tells the path of the program of a name. -/
def call (name : String) (c : Utility.Caller) (find : Octets → Running (Option Octets))
    (arguments : List Octets) : Running Nat := do
  match plain.find? fun u => u.1 = name, calling.find? fun u => u.1 = name with
  | some (_, utility), _ => utility arguments
  | none, some (_, utility) => utility c arguments
  | none, none => if name = "which" then Utility.which find arguments else return 127

end MailMerge.Script.Catalogue
