import ContainerLint.IoFault
import ContainerLint.Run.Chunk

/-!
# Starting programs

What is asked of the system when a program is started, and what can come of it. A `Launcher`
answers such requests.
-/

namespace ContainerLint

/-- How a program ended. -/
inductive ExitStatus
  | exited (code : Nat)
  | signalled (signal : Nat)
deriving DecidableEq, Repr

namespace ExitStatus

/-- Whether the program ended well. -/
def isSuccess : ExitStatus → Bool
  | .exited code => code = 0
  | .signalled _ => false

/-- The exit code, if the program ended by itself. -/
def code? : ExitStatus → Option Int
  | .exited code => some code
  | .signalled _ => none

/-- The names of the signals, from the first one on. -/
def signalNames : List String :=
  ["SIGHUP", "SIGINT", "SIGQUIT", "SIGILL", "SIGTRAP", "SIGABRT", "SIGBUS", "SIGFPE", "SIGKILL",
    "SIGUSR1", "SIGSEGV", "SIGUSR2", "SIGPIPE", "SIGALRM", "SIGTERM", "SIGSTKFLT", "SIGCHLD",
    "SIGCONT", "SIGSTOP", "SIGTSTP", "SIGTTIN", "SIGTTOU", "SIGURG", "SIGXCPU", "SIGXFSZ",
    "SIGVTALRM", "SIGPROF", "SIGWINCH", "SIGIO", "SIGPWR", "SIGSYS"]

/-- How a program ended, in words. -/
def message : ExitStatus → String
  | .exited code => "exit status: " ++ toString code
  | .signalled signal =>
    "signal: " ++ toString signal ++
      match signalNames[signal - 1]? with
      | some name => " (" ++ name ++ ")"
      | none => ""

end ExitStatus

/-- A request to start a program: its name or path, its arguments, the variables that are added
to the environment, and the text for its standard input, if it gets one. -/
structure Invocation where
  program : String
  arguments : List String
  exports : List (String × String)
  input : Option String
deriving DecidableEq, Repr

/-- All that a program printed, in the pieces and the order in which it came, and how the program
ended. -/
structure Ended where
  chunks : List Chunk
  status : ExitStatus
deriving DecidableEq, Repr

namespace Ended

/-- All that a program printed on its standard output. -/
def stdout (e : Ended) : List UInt8 := Stream.stdout.bytes e.chunks

/-- All that a program printed on its error output. -/
def stderr (e : Ended) : List UInt8 := Stream.stderr.bytes e.chunks

end Ended

/-- Why nothing is known of what a program printed and how it ended: the system refused to start
it, or failed to read its output or to wait for its end. -/
inductive LaunchFault
  | refused (fault : IoFault)
  | unreadable (reason : String)
deriving DecidableEq, Repr

/-- What the system says about a fault. -/
def LaunchFault.message : LaunchFault → String
  | .refused fault => fault.message
  | .unreadable reason => reason

/-- What comes of starting programs. -/
abbrev Launcher := Invocation → Except LaunchFault Ended

/-- Whether no text of the request holds a NUL, which cannot be passed to a program. -/
def Invocation.isPassable (i : Invocation) : Bool :=
  let clean (s : String) : Bool := s.toList.all (· ≠ '\x00')
  clean i.program && i.arguments.all clean && i.exports.all fun v => clean v.1 && clean v.2

/-- Starts a program, unless it cannot be passed what it is to get. -/
def Launcher.start (launch : Launcher) (i : Invocation) : Except LaunchFault Ended :=
  if i.isPassable then launch i else .error (.refused .nulByte)

end ContainerLint
