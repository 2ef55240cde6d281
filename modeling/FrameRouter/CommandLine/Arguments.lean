import FrameRouter.Config.RegisterWrite
import FrameRouter.Sink.Queue
import FrameRouter.Text.ControlSequence
import FrameRouter.Text.Digits

/-!
# Arguments

The command line names a command and its parameters.  A parameter with a value
takes it behind an equals sign or as the next argument; each is given once,
except for register writes, which add up.
-/

namespace FrameRouter.CommandLine

structure ReplayOptions where
  config : Option String
  frames : String
  queueDepth : Nat
  /-- Register writes in front of the replay, in order. -/
  writes : List RegisterWrite
  json : Bool
deriving DecidableEq, Repr

inductive Command where
  | help
  | version
  | replay (options : ReplayOptions)
  | registers (config : Option String)
deriving DecidableEq, Repr

/-- The parameters of all commands. -/
inductive Parameter where
  | config
  | frames
  | queueDepth
  | write
  | json
  | help
  | version
deriving DecidableEq, Repr

namespace Parameter

/-- The name behind two hyphens. -/
def name : Parameter → String
  | .config => "config"
  | .frames => "frames"
  | .queueDepth => "queue-depth"
  | .write => "write"
  | .json => "json"
  | .help => "help"
  | .version => "version"

/-- The letter behind one hyphen. -/
def letter? : Parameter → Option Char
  | .help => some 'h'
  | .version => some 'V'
  | _ => none

/-- What the value stands for, or `none` for a parameter without a value. -/
def placeholder? : Parameter → Option String
  | .config => some "CONFIG"
  | .frames => some "FRAMES"
  | .queueDepth => some "QUEUE_DEPTH"
  | .write => some "WRITES"
  | .json | .help | .version => none

def takesValue (parameter : Parameter) : Bool := parameter.placeholder?.isSome

def label (parameter : Parameter) : String :=
  "--" ++ parameter.name ++
    match parameter.placeholder? with
    | some placeholder => " <" ++ placeholder ++ ">"
    | none => ""

end Parameter

inductive Refusal where
  /-- It does not have the form of any command. -/
  | usage
  | invalidValue (parameter : Parameter) (value reason : String)
deriving DecidableEq, Repr

/-- The wording of a refusal; the value stands in it without its control sequences. -/
def Refusal.message : Refusal → String
  | .usage => "error: the arguments do not fit any command"
  | .invalidValue parameter value reason =>
      "error: invalid value \x27" ++ ControlSequence.remove value ++ "\x27 for \x27" ++
        parameter.label ++ "\x27: " ++ reason

/-- An argument by its form. -/
inductive Token where
  /-- A parameter whose value is attached. -/
  | attached (parameter : Parameter) (value : String)
  /-- A parameter by itself. -/
  | plain (parameter : Parameter)
  /-- The mark behind which nothing is a parameter. -/
  | separator
  /-- Anything else. -/
  | stray
deriving DecidableEq, Repr

/-- An argument in a place where the given parameters are allowed. -/
def Token.ofArgument (allowed : List Parameter) (argument : String) : Token :=
  match argument.toList with
  | ['-', '-'] => .separator
  | '-' :: '-' :: long =>
      let sides := Split.first? '=' long
      let name := (sides.map Prod.fst).getD long
      match allowed.find? fun parameter => parameter.name.toList = name, sides with
      | some parameter, some (_, value) =>
          if parameter.takesValue then .attached parameter (String.ofList value) else .stray
      | some parameter, none => .plain parameter
      | none, _ => .stray
  | '-' :: letter :: _ =>
      match allowed.find? fun parameter => parameter.letter? = some letter with
      | some parameter => .plain parameter
      | none => .stray
  | _ => .stray

/-- Whether an argument can be the value of the parameter in front of it. -/
def isValue (argument : String) : Bool :=
  match argument.toList with
  | '-' :: _ :: _ => false
  | _ => true

/-- The parameters given so far. -/
structure Draft where
  config : Option String
  frames : Option String
  queueDepth : Option Nat
  writes : List RegisterWrite
  json : Bool

namespace Draft

def blank : Draft := ⟨none, none, none, [], false⟩

/-- A file parameter, which must not be given twice nor be empty. -/
def file (current : Option String) (value : String) : Except Refusal (Option String) :=
  if current.isSome || value.isEmpty then .error .usage else .ok (some value)

def greatestDepth : Nat := Nat.pow 2 64 - 1

def set (draft : Draft) (parameter : Parameter) (value : String) : Except Refusal Draft :=
  match parameter with
  | .config => do return { draft with config := ← file draft.config value }
  | .frames => do return { draft with frames := ← file draft.frames value }
  | .queueDepth =>
      if draft.queueDepth.isSome then
        .error .usage
      else
        match Digits.read 10 greatestDepth value.toList with
        | .ok depth => .ok { draft with queueDepth := some depth }
        | .error fault => .error (.invalidValue parameter value fault.message)
  | .write =>
      match RegisterWrite.parse value with
      | .ok write => .ok { draft with writes := draft.writes ++ [write] }
      | .error fault => .error (.invalidValue parameter value fault.message)
  | .json | .help | .version => .error .usage

/-- Take a parameter without a value. -/
def raise (draft : Draft) (parameter : Parameter) : Except Refusal Draft :=
  if parameter = .json ∧ !draft.json then .ok { draft with json := true } else .error .usage

end Draft

/-- What the parameters of a command amount to. -/
inductive Parameters where
  | help
  | given (draft : Draft)

/--
Whether the form of the next argument is at fault, which is noticed before the
value in front of it is looked at.
-/
def startsStray (allowed : List Parameter) : List String → Bool
  | [] => false
  | argument :: rest =>
      match Token.ofArgument allowed argument with
      | .stray => true
      | .separator => !rest.isEmpty
      | _ => false

def readParameters (allowed : List Parameter) : Draft → List String → Except Refusal Parameters
  | draft, [] => .ok (.given draft)
  | draft, argument :: rest =>
      match Token.ofArgument allowed argument with
      | .stray => .error .usage
      | .separator => if rest.isEmpty then .ok (.given draft) else .error .usage
      | .attached parameter value =>
          match draft.set parameter value with
          | .ok draft => readParameters allowed draft rest
          | .error refusal => .error refusal
      | .plain .help => .ok .help
      | .plain parameter =>
          if parameter.takesValue then
            match rest with
            | [] => .error .usage
            | value :: others =>
                if !isValue value || startsStray allowed others then
                  .error .usage
                else
                  match draft.set parameter value with
                  | .ok draft => readParameters allowed draft others
                  | .error refusal => .error refusal
          else
            match draft.raise parameter with
            | .ok draft => readParameters allowed draft rest
            | .error refusal => .error refusal

/-- The replay that the parameters describe; the trace has to be named. -/
def replayCommand (draft : Draft) : Except Refusal Command :=
  match draft.frames with
  | none => .error .usage
  | some frames =>
      .ok (.replay {
        config := draft.config
        frames := frames
        queueDepth := draft.queueDepth.getD Queue.defaultDepth
        writes := draft.writes
        json := draft.json })

def replayParameters : List Parameter := [.config, .frames, .queueDepth, .write, .json, .help]

def readReplay (arguments : List String) : Except Refusal Command := do
  match ← readParameters replayParameters .blank arguments with
  | .help => return .help
  | .given draft => replayCommand draft

def readRegisters (arguments : List String) : Except Refusal Command := do
  match ← readParameters [.config, .help] .blank arguments with
  | .help => return .help
  | .given draft => return .registers draft.config

def Command.ofArguments : List String → Except Refusal Command
  | "replay" :: rest => readReplay rest
  | "registers" :: rest => readRegisters rest
  | ["help"] | ["help", "replay"] | ["help", "registers"] | ["help", "help"] => .ok .help
  | argument :: _ =>
      match Token.ofArgument [.help, .version] argument with
      | .plain .help => .ok .help
      | .plain .version => .ok .version
      | _ => .error .usage
  | [] => .error .usage

def Command.files : Command → List String
  | .replay options => options.config.toList ++ [options.frames]
  | .registers config => config.toList
  | .help | .version => []

end FrameRouter.CommandLine
