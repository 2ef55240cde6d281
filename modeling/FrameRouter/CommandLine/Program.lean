import FrameRouter.CommandLine.Arguments
import FrameRouter.Config.Document
import FrameRouter.Config.Register
import FrameRouter.Replay
import FrameRouter.Trace

/-!
# Program

The program replays traces and lists registers.  Given its arguments and the
contents of the files they name, and the bytes there are for the queues, what
it writes and how it ends is settled.
-/

namespace FrameRouter.CommandLine

/-- The contents of the files that can be read. -/
abbrev Files := String → Except FileFailure String

structure Outcome where
  /-- The exit code, or `none` for a run that the system cuts off. -/
  exitCode : Option Nat
  output : String
  errors : String
deriving DecidableEq, Repr

inductive Failure where
  /-- A fault together with what was being done. -/
  | faulty (context : String) (fault : Fault)
  /-- Queues of the wanted depth cannot be set up. -/
  | excessive (excess : Queue.Excess)
deriving DecidableEq, Repr

namespace Failure

/-- The lines of the causes; several ones are numbered from zero. -/
def causeLines : List String → List String
  | [cause] => ["    " ++ cause]
  | causes =>
      causes.mapIdx fun number cause => Column.right 5 (Digits.decimal number) ++ ": " ++ cause

/-- The lines of the failure report. -/
def lines : Failure → List String
  | .faulty context fault => ["Error: " ++ context, "", "Caused by:"] ++ causeLines fault.causes
  | .excessive excess => [excess.message]

/-- The exit code; the system cuts off a run that it has no memory for. -/
def exitCode : Failure → Option Nat
  | .faulty _ _ => some 1
  | .excessive .tooLarge => some 101
  | .excessive (.unavailable _) => none

end Failure

def joinLines (lines : List String) : String := String.join (lines.map (· ++ "\n"))

/-- The configuration of a file, or the one for want of any. -/
def loadConfig (files : Files) : Option String → Except Failure Config
  | none => .ok .default
  | some path =>
      (Config.load (files path)).mapError (Failure.faulty ("Failed to load config " ++ path))

def writeRegisters : Config → List RegisterWrite → Except Failure Config
  | config, [] => .ok config
  | config, write :: rest =>
      match config.write write.address write.value with
      | .ok config => writeRegisters config rest
      | .error fault => .error (.faulty ("Register write " ++ write.label ++ " rejected") fault)

/-- Read the files of a replay, write the registers, set up the queues and run it. -/
def replay (memory : Nat) (files : Files) (options : ReplayOptions) : Except Failure Report := do
  let config ← writeRegisters (← loadConfig files options.config) options.writes
  let frames ←
    (Trace.load (files options.frames)).mapError
      (Failure.faulty ("Failed to load trace " ++ options.frames))
  match Queue.excess? memory Outlet.all.length options.queueDepth with
  | none => return Replay.run config options.queueDepth frames
  | some excess => .error (.excessive excess)

def registerLine (address name value : String) : String :=
  Column.left 6 address ++ " " ++ Column.left 14 name ++ " " ++ Column.right 10 value

def registerLines (config : Config) : List String :=
  registerLine "ADDR" "NAME" "VALUE" ::
    Register.all.map fun register =>
      registerLine (Digits.hexadecimalByte register.address.toNat) register.name
        (Digits.hexadecimal (config.read register).toNat)

def helpLines : List String :=
  ["Frame classification and dispatch engine",
    "",
    "Usage: mvirt-dispatch <COMMAND>",
    "",
    "Commands:",
    "  replay     Replay a frame trace through the dispatcher",
    "  registers  Print the configuration register map",
    "  help       Print this message or the help of the given subcommand(s)",
    "",
    "Options:",
    "  -h, --help     Print help",
    "  -V, --version  Print version"]

def versionLine : String := "mvirt-dispatch 0.1.0"

def reportText (report : Report) (json : Bool) : String :=
  if json then joinLines [report.toValue.renderIndented] else joinLines report.lines

/-- Carry out a command; the result is the text for standard output. -/
def execute (memory : Nat) (files : Files) : Command → Except Failure String
  | .help => .ok (joinLines helpLines)
  | .version => .ok (joinLines [versionLine])
  | .replay options => do return reportText (← replay memory files options) options.json
  | .registers path => do return joinLines (registerLines (← loadConfig files path))

def run (memory : Nat) (files : Files) (arguments : List String) : Outcome :=
  match Command.ofArguments arguments with
  | .error refusal =>
      ⟨some 2, "", joinLines [refusal.message, "", "For more information, try \x27--help\x27."]⟩
  | .ok command =>
      match execute memory files command with
      | .ok text => ⟨some 0, text, ""⟩
      | .error failure => ⟨failure.exitCode, "", joinLines failure.lines⟩

end FrameRouter.CommandLine
