/-
The command line: `serve` starts a gateway and is what is done without a
command, `config` shows the settings. Both take the file of the settings
with `-c` or `--config`, and `serve` takes an address to listen on with
`-b` or `--bind`.

Arguments are taken from the left and the first that is wrong decides. An
option may be given once; its value stands in the same argument or in the
next, which must not look like an option itself.
-/
import TenantGate.Settings.Load
import TenantGate.Startup

namespace TenantGate.CommandLine

/-- What is asked for. -/
inductive Command where
  | serve (file : Option String) (address : Option NetAddress)
  | config (file : Option String)
  | help
  | version
deriving DecidableEq

/-- The options of a command that were given. -/
structure Options where
  file : Option String
  address : Option NetAddress
deriving DecidableEq

/-- An option that has a value. -/
inductive Name where
  | config
  | bind
deriving DecidableEq

namespace Name

def short : Name → Char
  | config => 'c'
  | bind => 'b'

def long : Name → String
  | config => "config"
  | bind => "bind"

end Name

/-- Options with one more; none if it was given before or its value cannot
be taken. -/
def Options.set? (name : Name) (value : String) (o : Options) : Option Options :=
  match name with
  | .config => if o.file.isSome ∨ value.isEmpty then none else some { o with file := some value }
  | .bind =>
      if o.address.isSome then none
      else (NetAddress.ofText? value).map fun a => { o with address := some a }

/-- Does an argument look like an option? -/
def isOption (s : String) : Bool := s.startsWith "-" && s ≠ "-"

/-- An argument that starts an option: the option, and its value if it is
in the argument. -/
def option? (names : List Name) (s : String) : Option (Name × Option String) :=
  match s.toList with
  | '-' :: '-' :: cs =>
      let name := String.ofList (cs.takeWhile (· ≠ '='))
      let value := match cs.dropWhile (· ≠ '=') with
        | _ :: v => some (String.ofList v)
        | [] => none
      (names.find? fun n => n.long = name).map (·, value)
  | '-' :: c :: cs =>
      let value := match cs with
        | [] => none
        | '=' :: v => some (String.ofList v)
        | v => some (String.ofList v)
      (names.find? fun n => n.short = c).map (·, value)
  | _ => none

/-- Reads the arguments of a command; the result is `none` if help is
asked for, and there is no result if an argument is wrong. -/
def options? (names : List Name) (o : Options) : List String → Option (Option Options)
  | [] => some (some o)
  | ["--"] => some (some o)
  | s :: rest =>
      if s = "--help" ∨ s.startsWith "-h" then some none
      else
        match option? names s, rest with
        | some (name, some value), rest => (o.set? name value).bind fun o => options? names o rest
        | some (name, none), value :: rest =>
            if isOption value then none
            else (o.set? name value).bind fun o => options? names o rest
        | _, _ => none

/-- A command with options. -/
def withOptions (names : List Name) (make : Options → Command) (args : List String) :
    Option Command :=
  (options? names ⟨none, none⟩ args).map fun o => (o.map make).getD .help

/-- The command that arguments ask for, if they can be understood. -/
def Command.ofArgs? : List String → Option Command
  | [] | ["--"] => some (serve none none)
  | "serve" :: args => withOptions [.config, .bind] (fun o => serve o.file o.address) args
  | "config" :: args => withOptions [.config] (fun o => config o.file) args
  | "help" :: args =>
      if args ∈ [[], ["serve"], ["config"], ["help"]] then some help else none
  | s :: _ =>
      if s = "--help" ∨ s.startsWith "-h" then some help
      else if s = "--version" ∨ s.startsWith "-V" then some version
      else none

/-- The file that a command needs. -/
def Command.file? : Command → Option String
  | serve file _ | config file => file
  | help | version => none

/-- What comes of a command. -/
inductive Outcome where
  /-- Text for the output. -/
  | shown (text : String)
  /-- The arguments are wrong. -/
  | misused
  | failed (message : String)
  /-- The gateway of these settings is to run. -/
  | running (s : Settings)

/-- The status that a command ends with. -/
def Outcome.status : Outcome → Nat
  | shown _ | running _ => 0
  | failed _ => 1
  | misused => 2

/-- How the command line is used. -/
def usage : String :=
  "Usage: [serve [-c FILE] [-b ADDRESS] | config [-c FILE] | help]\n"

/-- What is written among errors. -/
def Outcome.errorText : Outcome → String
  | shown _ | running _ => ""
  | failed message => "Error: " ++ message ++ "\n"
  | misused => usage

/-- Starts a gateway. -/
def serve (net : Startup.Network) (address : Option NetAddress) (s : Settings) : Outcome :=
  let server := { s.server with address := address.getD s.server.address }
  let s := { s with server }
  match Startup.start net s with
  | .ok () => .running s
  | .error e => .failed e.message

/-- Carries out a command; `file` is what was found where it points to. -/
def Command.run (net : Startup.Network) (file : Option Settings.File)
    (env : List (String × String)) : Command → Outcome
  | help => .shown usage
  | version => .shown (Gateway.version ++ "\n")
  | config _ =>
      match Settings.load file env with
      | .ok s => .shown s.toYaml
      | .error e => .failed e.message
  | serve _ address =>
      match Settings.load file env with
      | .ok s => CommandLine.serve net address s
      | .error e => .failed e.message

end TenantGate.CommandLine
