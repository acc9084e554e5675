import ConfigVars.Failure
import ConfigVars.Table

/-!
# Environments

An environment gives the values of its variables (`Environment.get?`) and the home directories of
users (`Environment.home?`).  An environment of its own lists both; that of the process lists its
variables, and of homes it knows only the one that its variables name.
-/

namespace ConfigVars

/-- Where environment variables and home directories come from. -/
inductive Environment where
  | own (vars homes : Table String String)
  /-- The process, on a system that knows no users. -/
  | process (vars : Table String String)

namespace Environment

/-- The variables. -/
def vars : Environment → Table String String
  | .own vars _ | .process vars => vars

/-- The value of a variable. -/
def get? (e : Environment) (key : String) : Option String := e.vars.get? key

/-- A text that is not empty. -/
def nonEmpty? (s : Option String) : Option String := s.filter (!·.isEmpty)

/-- The home of the process with a path behind it.  Slashes at its end do not count, and an empty
path is the root. -/
def homeWith (home : String) (path : List Char) : Option String :=
  let whole := (home.toList.reverse.dropWhile (· = '/')).reverse ++ path
  match whole with
  | [] => some "/"
  | '~' :: _ => none
  | _ => some (String.ofList whole)

/-- The home that the system gives for what follows a tilde. -/
def systemHome? (vars : Table String String) (user : String) : Except Failure (Option String) :=
  let name := user.toList.takeWhile (· ≠ '/')
  if name.isEmpty then .ok ((vars.get? "HOME").bind fun home => homeWith home user.toList)
  else if name.contains '\x00' then .error (.unusable "embedded null byte")
  else .ok none

/-- The home directory of a user, or of the one who runs the program when none is named. -/
def home? (e : Environment) (user : Option String) : Except Failure (Option String) :=
  let own := nonEmpty? (e.get? "HOME")
  match e, nonEmpty? user with
  | .own _ homes, none => .ok (own.or (homes.get? ""))
  | .own _ homes, some name => .ok (homes.get? name)
  | .process vars, none =>
    match own with
    | some home => .ok (some home)
    | none => systemHome? vars ""
  | .process vars, some name => systemHome? vars name

/-- Sets a variable of an environment of its own. -/
def put (key value : String) : Environment → Except Failure Environment
  | .own vars homes => .ok (.own (vars.put key value) homes)
  | .process _ => .error .unchangeable

/-- Sets a home of an environment of its own. -/
def putHome (user path : String) : Environment → Except Failure Environment
  | .own vars homes => .ok (.own vars (homes.put user path))
  | .process _ => .error .unchangeable

end Environment

end ConfigVars
