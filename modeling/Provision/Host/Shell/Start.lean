import Provision.Host.Shell.Run

namespace Provision.Shell

open Programs

/-!
# Starting a shell

A shell reads its arguments: options, and then a command, or the name of a
script and its arguments. Without either it reads the script from its standard
input. When the script ends, the trap for the end is run, and commands in the
background are waited for.
-/

/-- The search path that a shell has if the environment tells none. -/
def initialPath : Octets :=
  "/usr/local/sbin:/usr/local/bin:/usr/sbin:/usr/bin:/sbin:/bin".toList

/-- Variables that the small shell starts with, where the environment does not tell them. -/
def plainVariables (process : Process) : List (String × Octets) := [
  ("PATH", initialPath),
  ("PS1", "# ".toList),
  ("PS2", "> ".toList),
  ("PS4", "+ ".toList),
  ("PPID", decimal (process.parent : Nat))]

/-- Variables that the large shell starts with, where the environment does not tell them. -/
def richVariables (process : Process) (name : Octets) : List (String × Octets) := [
  ("PATH", initialPath),
  ("PS4", "+ ".toList),
  ("BASH", if isPathName name then name else "/usr/bin/bash".toList),
  ("BASH_VERSION", "5.2.21(1)-release".toList),
  ("EUID", ['0']),
  ("HOSTTYPE", "x86_64".toList),
  ("MACHTYPE", "x86_64-pc-linux-gnu".toList),
  ("OPTERR", ['1']),
  ("OSTYPE", "linux-gnu".toList),
  ("PPID", decimal (process.parent : Nat)),
  ("SHELL", "/bin/bash".toList),
  ("TERM", "dumb".toList),
  ("UID", ['0'])]

/-- Variables that nobody may change. -/
def fixedVariables : List String := ["EUID", "PPID", "UID"]

/-- The parts of the version of the large shell. -/
def versionParts : Variable where
  value := .list [(0, ['5']), (1, ['2']), (2, "21".toList), (3, ['1']), (4, "release".toList),
    (5, "x86_64-pc-linux-gnu".toList)]
  readOnly := true

/-- The path of the working directory, as the environment tells it if it is right. -/
def workingPath (system : System) (process : Process) : Octets :=
  let plain := Builtin.pathOfLocation process.directory
  match process.variableNamed? "PWD" with
  | some path =>
      let leads := system.disk.locate .followed process.directory (pathOf path)
      if path.head? == some '/' && leads.toOption == some process.directory then path else plain
  | none => plain

/-- The depth of shells in each other, as the environment tells it to a new one. -/
def shellLevel (process : Process) : Octets :=
  let outer := ((process.variableNamed? "SHLVL").bind Utilities.wholeNumber?).getD 0
  decimal (outer + 1)

/-- The variables that a shell starts with. -/
def initialVariables (dialect : Dialect) (system : System) (process : Process) :
    List (Octets × Variable) :=
  let inherited := process.environment.filterMap fun (name, value) =>
    if isName name then
      some (name, ({ value := .text value, exported := true } : Variable))
    else
      none
  let start := inherited.foldl (fun bindings (name, held) => setEntry name held bindings) []
  let usual :=
    match dialect with
    | .dash => plainVariables process
    | .bash => richVariables process process.name
  let withUsual := usual.foldl (fun bindings (name, value) =>
    let name := name.toList
    if (bindings.lookup name).isSome && name != "PPID".toList then bindings
    else
      let fixed := dialect == .bash && fixedVariables.any fun other => other.toList == name
      setEntry name { value := .text value, readOnly := fixed, integer := fixed } bindings) start
  let put (name : String) (value : Octets) (exported : Bool)
      (bindings : List (Octets × Variable)) : List (Octets × Variable) :=
    setEntry name.toList { value := .text value, exported := exported } bindings
  let level := fun bindings =>
    match dialect with
    | .dash => bindings
    | .bash =>
        setEntry "BASH_VERSINFO".toList versionParts
          (put "SHLVL" (shellLevel process) true bindings)
  level (put "PWD" (workingPath system process) true
    (put "OPTIND" ['1'] false (put "IFS" " \t\n".toList false withUsual)))

/-- Where the script of a shell comes from. -/
inductive Script where
  | argument (text : Octets)
  | file (path : Octets)
  | input
  deriving Repr, DecidableEq

/-- What the arguments of a shell say. -/
structure Launch where
  script : Script
  name : Octets
  arguments : List Octets
  deriving Repr, DecidableEq

/-- What is left to be done with arguments once options were read. -/
structure Options where
  /-- Whether the script is the next argument. -/
  takesText : Bool := false
  rest : List Octets
  deriving Repr, DecidableEq

/-- Why a shell does not start. -/
inductive StartRefusal where
  /-- It says why, with a status. -/
  | told (message : Octets) (status : Nat)
  /-- It prints a text and is done. -/
  | done (text : Octets)
  deriving Repr, DecidableEq

/-- How the large shell is called, for whoever does not know. -/
def usageText : Octets :=
  ("Usage:\tbash [GNU long option] [option] ...\n" ++
    "\tbash [GNU long option] [option] script-file ...\n" ++
    "GNU long options:\n" ++
    "\t--debug\n\t--debugger\n\t--dump-po-strings\n\t--dump-strings\n\t--help\n" ++
    "\t--init-file\n\t--login\n\t--noediting\n\t--noprofile\n\t--norc\n\t--posix\n" ++
    "\t--pretty-print\n\t--rcfile\n\t--restricted\n\t--verbose\n\t--version\n" ++
    "Shell options:\n" ++
    "\t-ilrsD or -c command or -O shopt_option\t\t(invocation only)\n" ++
    "\t-abefhkmnptuvxBCEHPT or -o option\n").toList

/-- What the large shell says about itself. -/
def versionText : Octets :=
  "GNU bash, version 5.2.21(1)-release (x86_64-pc-linux-gnu)\n".toList

/-- Long options of the large shell that make no difference to scripts. -/
def idleOptions : List String := [
  "debug", "debugger", "login", "noediting", "noprofile", "norc", "posix", "restricted",
  "verbose"]

namespace Sh

/-- Read the letters of an option of a shell. Answers the arguments behind it. -/
def startLetters (on : Bool) (options : Options) : Octets →
    Sh (Except StartRefusal Options)
  | [] => return .ok options
  | letter :: letters => do
      let dialect ← dialect
      let name := (← get).name
      let sign := if on then '-' else '+'
      match letter with
      | 'c' => startLetters on { options with takesText := true } letters
      | 'l' => startLetters on options letters
      | 'o' =>
          match options.rest with
          | [] =>
              let situation := (← get).toSituation
              let isOn := fun option => dialect == .dash || isOptionSet situation option
              discard (writeTo 1 (← optionList (!on) isOn))
              startLetters on options letters
          | option :: rest =>
              if ← setNamedOption option on then
                startLetters on { options with rest := rest } letters
              else
                match dialect with
                | .dash => return .error (.told ("Illegal option -o ".toList ++ option) 2)
                | .bash =>
                    return .error
                      (.told (name ++ ": ".toList ++ option ++ ": invalid option name".toList) 2)
      | 'O' =>
          match dialect, options.rest with
          | .bash, option :: rest => do
              setFeature (Octets.toString option) on
              startLetters on { options with rest := rest } letters
          | _, _ => return .error (.told ("Illegal option -O".toList) 2)
      | letter =>
          if isFlag dialect letter || (dialect == .bash && ['i', 's', 'r', 'D'].contains letter) then
            setFlag letter on
            startLetters on options letters
          else
            match dialect with
            | .dash => return .error (.told ("Illegal option ".toList ++ ['-', letter]) 2)
            | .bash =>
                let usage := ": invalid option\n".toList ++ usageText.dropLast
                return .error (.told (sign :: letter :: usage) 2)

/-- Read the options in front of the other arguments of a shell. -/
def startOptions : (fuel : Nat) → Options → Sh (Except StartRefusal Options)
  | 0, options => return .ok options
  | fuel + 1, options => do
      let bash ← isBash
      match options.rest with
      | ['-'] :: rest => return .ok { options with rest := rest }
      | ['-', '-'] :: rest => return .ok { options with rest := rest }
      | ('-' :: '-' :: name) :: rest =>
          if !bash then
            return .error (.told "Illegal option --".toList 2)
          else
            match String.ofList name with
            | "version" => return .error (.done versionText)
            | "help" => return .error (.done versionText)
            | "rcfile" | "init-file" => startOptions fuel { options with rest := rest.drop 1 }
            | other =>
                if idleOptions.contains other then
                  startOptions fuel { options with rest := rest }
                else
                  let message := "--".toList ++ name ++ ": invalid option\n".toList
                  return .error (.told (message ++ usageText.dropLast) 2)
      | ('-' :: letter :: letters) :: rest =>
          match ← startLetters true { options with rest := rest } (letter :: letters) with
          | .ok options => startOptions fuel options
          | .error refusal => return .error refusal
      | ('+' :: letter :: letters) :: rest =>
          match ← startLetters false { options with rest := rest } (letter :: letters) with
          | .ok options => startOptions fuel options
          | .error refusal => return .error refusal
      | _ => return .ok options

/-- Read the arguments of a shell. -/
def readLaunch (words : List Octets) : Sh (Except StartRefusal Launch) := do
  let bash ← isBash
  let name := (← get).name
  match ← startOptions (words.length + 1) { rest := words } with
  | .error refusal => return .error refusal
  | .ok options =>
      if options.takesText then
        match options.rest with
        | [] =>
            if bash then
              return .error (.told "-c: option requires an argument".toList 2)
            else
              return .error (.told "-c requires an argument".toList 2)
        | [text] => return .ok ⟨.argument text, name, []⟩
        | text :: called :: arguments => return .ok ⟨.argument text, called, arguments⟩
      else if ← hasFlag 's' then
        return .ok ⟨.input, name, options.rest⟩
      else
        match options.rest with
        | [] => return .ok ⟨.input, name, []⟩
        | path :: arguments => return .ok ⟨.file path, path, arguments⟩

/-- Run the script that comes from the standard input, one command after the other. -/
def runInput (engine : Engine) : (fuel : Nat) → (line : Nat) → Sh Unit
  | 0, _ => return ()
  | fuel + 1, line => do
      match ← act (do
        match (← read).descriptor? 0 with
        | some place => return (← Act.system).ahead place
        | none => return .error .badDescriptor) with
      | .ok (.ok bytes) =>
          let text := Octets.ofBytes bytes
          let reader := { Reader.ofText (← dialect) text with line := line }
          match ← readNext .input reader with
          | (none, _) => return ()
          | (some command, reader) =>
              let used := if isFinished reader then text.length else reader.position
              discard (Builtin.takeInput 0 fun _ => used)
              match ← catching (engine.run false command) with
              | .ok () => pure ()
              | .error (.discard status) => setStatus status
              | .error leap => jump leap
              runInput engine fuel reader.line
      | _ => return ()

/-- The script in a file, or why it cannot be read, with a status. -/
def scriptText (path : Octets) : Sh (Except (Octets × Nat) Octets) := do
  let bash ← isBash
  let found ← if isPathName path || !bash then pure path else do
    let state ← get
    if state.system.disk.isFile state.process.directory (pathOf path) then pure path
    else pure ((← programPath? path).getD path)
  match ← act (Act.readFile found) with
  | .ok (.ok text) =>
      if bash && (text.take 80).contains '\x00' then
        return .error (path ++ ": cannot execute binary file".toList, 126)
      else
        return .ok text
  | .ok (.error .isADirectory) =>
      if bash then
        return .error (path ++ ": Is a directory".toList, 126)
      else
        return .ok []
  | .ok (.error reason) =>
      if bash then
        return .error (path ++ ": ".toList ++ reason.words.toList, 127)
      else
        let words := refusalWords .dash false reason
        return .error ("cannot open ".toList ++ path ++ ": ".toList ++ words, 2)
  | .error _ => return .ok []

/-- Refuse to start, in words. -/
def refuseStart (message : Octets) (status : Nat) : Sh Unit := do
  let name := (← get).name
  let place := if ← isBash then [] else ": 0".toList
  discard (writeTo 2 (name ++ place ++ ": ".toList ++ message ++ ['\n']))
  jump (.exit status)

/-- Run the script that the arguments of a shell tell. -/
def runLaunch (engine : Engine) (launch : Launch) : Sh Unit := do
  let bash ← isBash
  let named : Sh Unit := modify fun state => { state with
    name := launch.name
    arguments := launch.arguments }
  match launch.script with
  | .argument text =>
      named
      if bash then
        setFlag 'c' true
        setFeature "fromArgument" true
      runText engine bash .argument 1 text
  | .file path =>
      match ← scriptText path with
      | .error (message, status) => refuseStart message status
      | .ok text =>
          named
          runText engine false .script 1 text
  | .input =>
      named
      setFlag 's' true
      setFeature "fromInput" true
      if bash then
        runInput engine 1000000 1
      else
        match ← act (Act.readDescriptor 0) with
        | .ok (.ok text) => runText engine false .input 1 text
        | _ => return ()

/-- Do what the arguments of a shell say. -/
def runArguments (engine : Engine) (words : List Octets) : Sh Unit := do
  match ← readLaunch words with
  | .error (.told message status) => refuseStart message status
  | .error (.done text) => discard (writeTo 1 text)
  | .ok launch => runLaunch engine launch

end Sh

/-- How deep commands may stand in each other. -/
def commandDepth : Nat := 3000

/-- The situation of a shell that starts in a process. -/
def initialSituation (dialect : Dialect) (system : System) (process : Process) : Situation where
  dialect := dialect
  process := process
  name := process.name
  shellNumber := process.number
  bindings := initialVariables dialect system process
  here := workingPath system process
  flags := if dialect == .bash then ['h', 'B'] else []
  features := if dialect == .bash then usualFeatures else []
  lastWord := process.name
  seed := process.number

/-- The state of a shell that starts in a process. -/
def initialState (dialect : Dialect) (system : System) (process : Process) : State where
  toSituation := showingOptions (initialSituation dialect system process)
  system := system

/-- Run a shell in a process, up to its end. -/
def start (dialect : Dialect) (launcher : Launcher) (process : Process) (words : List Octets) :
    StateM System Ending := do
  let engine := Sh.engineOf launcher commandDepth
  let run : Sh Ending := do
    let answer ← Sh.catching (Sh.runArguments engine words)
    let ending ← Sh.ending engine answer
    Sh.finishJobs engine
    return ending
  let (answer, state) := run.run.run (initialState dialect (← get) process)
  set state.system
  match answer with
  | .ok ending => return ending
  | .error _ => return .exited 2

end Provision.Shell
