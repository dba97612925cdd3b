import Provision.Host.Shell.Builtins.Basic
import Provision.Host.Utilities.Permissions

namespace Provision.Shell.Builtin

open Programs Utilities

/-!
# Builtins about directories

The shell remembers the path by which it came to its working directory. Dots in
a path are taken away before the path is followed, unless the true path is
asked for.
-/

/-- Take a dotted name away from the names in front of it, or add it to them. -/
def joinName (names : List Octets) (name : Octets) : List Octets :=
  if name.isEmpty || name == ['.'] then names
  else if name == ['.', '.'] then names.dropLast
  else names ++ [name]

/-- An absolute path without dots. -/
def plainPath (path : Octets) : Octets :=
  let doubled :=
    match path with
    | '/' :: '/' :: c :: _ => c != '/'
    | _ => false
  let names := (Text.splitOn '/' path).foldl joinName []
  let start : Octets := if doubled then ['/', '/'] else ['/']
  start ++ joinedWith ['/'] names

/-- The path of a location. -/
def pathOfLocation (location : Location) : Octets :=
  octetsOf (Path.ofLocation location)

/-- A path as it is reached from the working directory of the shell. -/
def reached (here path : Octets) : Octets :=
  if path.head? == some '/' then path
  else if here.getLast? == some '/' then here ++ path
  else here ++ '/' :: path

/-- Find the directory that a path leads to. -/
def directoryAt (path : Octets) : Sh (Except SystemError Location) := do
  let state ← get
  match state.system.disk.locate .followed state.process.directory (pathOf path) with
  | .error reason => return .error reason
  | .ok location =>
      match state.system.disk.node? location with
      | some .directory => return .ok location
      | some _ => return .error .notADirectory
      | none => return .error .notFound

/-- Make a directory the working directory. -/
def enter (physical : Bool) (path : Octets) : Sh (Except SystemError Unit) := do
  let state ← get
  let bash := state.dialect == .bash
  let written := reached state.here path
  let followed := if physical then path else plainPath written
  let dots := (Text.splitOn '/' path).contains ['.', '.']
  let checked ←
    if bash && !physical && dots then directoryAt path else pure (.ok [])
  match checked, ← directoryAt followed with
  | .error reason, _ | .ok _, .error reason => return .error reason
  | .ok _, .ok location =>
      let here := if physical then pathOfLocation location else followed
      let old := (← Sh.setting? "PWD").getD state.here
      let old := if bash then old else state.here
      Sh.changeProcess fun process => { process with directory := location }
      modify fun state => { state with here := here }
      Sh.assignSetting "OLDPWD" old
      Sh.markExported "OLDPWD".toList
      Sh.assignSetting "PWD" here
      Sh.markExported "PWD".toList
      return .ok ()

/-- Whether a path is searched for in the directories of a list. -/
def isSearched (path : Octets) : Bool :=
  match path with
  | '/' :: _ => false
  | ['.'] | '.' :: '/' :: _ => false
  | ['.', '.'] | '.' :: '.' :: '/' :: _ => false
  | _ => true

/-- The path that a directory has in a list of directories, and whether it is told. -/
def searchedPath (path : Octets) : Sh (Octets × Bool) := do
  match ← Sh.setting? "CDPATH" with
  | none => return (path, false)
  | some list =>
      for entry in Text.splitOn ':' list do
        let found := inEntry entry path
        match ← directoryAt found with
        | .ok _ => return (found, !entry.isEmpty)
        | .error _ => pure ()
      return (path, false)

/-- Refuse to change the working directory. -/
def refuseDirectory (path : Octets) (reason : SystemError) : Sh Nat := do
  match ← Sh.dialect with
  | .dash => Sh.fail ("can't cd to ".toList ++ path)
  | .bash => complaint (path ++ ": ".toList ++ reason.words.toList) 1

/-- A directory that is asked for. -/
structure Destination where
  path : Octets
  /-- Whether it was asked for by its name, not as one that the shell remembers. -/
  named : Bool := true
  /-- Whether it is told. -/
  tells : Bool := false

/--
Change to a directory. The small shell takes an empty path for the working
directory, and also searches for directories that it remembers.
-/
def changeTo (physical : Bool) (destination : Destination) : Sh Nat := do
  let bash ← Sh.isBash
  let path := destination.path
  let wanted := if path.isEmpty && !bash then ['.'] else path
  let (found, isListed) ←
    if isSearched path && (destination.named || !bash) then searchedPath wanted
    else pure (wanted, false)
  match ← enter physical found with
  | .ok () =>
      let here := (← get).here
      if isListed then
        printLine (if physical && bash then found else here)
      else if destination.tells then
        printLine (if bash then path else here)
      else
        return 0
  | .error reason => refuseDirectory path reason

/-- Change the working directory. -/
def cd : Builtin := fun _ arguments => do
  let bash ← Sh.isBash
  let call ← options (if bash then "LPe@" else "LP") arguments
  let physical := (call.options.getLast?.map fun option => option.1 == 'P').getD false
  match call.operands, bash with
  | _ :: _ :: _, true => complaint "too many arguments".toList 1
  | [], _ =>
      match ← Sh.setting? "HOME", bash with
      | none, true => complaint "HOME not set".toList 1
      | home?, _ => changeTo physical ⟨home?.getD [], false, false⟩
  | ['-'] :: _, _ =>
      match ← Sh.setting? "OLDPWD", bash with
      | none, true => complaint "OLDPWD not set".toList 1
      | old?, _ => changeTo physical ⟨old?.getD [], false, true⟩
  | path :: _, _ => changeTo physical { path := path }

/-- Tell the working directory. -/
def pwd : Builtin := fun _ arguments => do
  let call ← options "LP" arguments
  let physical := (call.options.getLast?.map fun option => option.1 == 'P').getD false
  let state ← get
  printLine (if physical then pathOfLocation state.process.directory else state.here)

/-- The permissions that new files may have, in letters. -/
def shownPermissions (mask : Nat) : Octets :=
  let allowed := Permissions.without 0o777 mask
  "u=".toList ++ Permissions.letters (allowed / 64 % 8) ++ ",g=".toList ++
    Permissions.letters (allowed / 8 % 8) ++ ",o=".toList ++ Permissions.letters (allowed % 8)

/-- A number in octal digits, at least four of them. -/
def octalText (number : Nat) : Octets :=
  let digits := Nat.toDigits 8 number
  List.replicate (4 - digits.length) '0' ++ digits

/-- Tell or set which permissions new files do not get. -/
def umask : Builtin := fun _ arguments => do
  let bash ← Sh.isBash
  let call ← options (if bash then "pS" else "S") arguments
  let mask := (← get).process.mask
  let setMask (mask : Nat) : Sh Nat := do
    Sh.changeProcess fun process => { process with mask := mask &&& 0o777 }
    return 0
  match call.operands with
  | [] =>
      let start := if call.has 'p' then "umask ".toList else []
      let start := if call.has 'p' && call.has 'S' then start ++ "-S ".toList else start
      printLine (start ++ if call.has 'S' then shownPermissions mask else octalText mask)
  | text :: _ =>
      if (text.head?.map Char.isDigit).getD false then
        if text.all fun c => '0' ≤ c && c ≤ '7' then
          let number := (spanDigits 8 text).1
          if bash && 0o7777 < number then
            complaint (text ++ ": octal number out of range".toList) 1
          else
            setMask number
        else if bash then
          complaint (text ++ ": octal number out of range".toList) 1
        else
          failNumber text
      else
        let clauses := (Text.splitOn ',' text).filter fun clause => bash || !clause.isEmpty
        let allowed := Permissions.without 0o777 mask
        match Permissions.changeAll 0 false clauses allowed, bash with
        | .ok allowed, _ => setMask (Permissions.without 0o777 allowed)
        | .error _, false => Sh.fail ("Illegal mode: ".toList ++ text)
        | .error (.operator c), true =>
            let shown := ['\x60', c.getD ' ', '\'']
            complaint (shown ++ ": invalid symbolic mode operator".toList) 1
        | .error (.letter c), true =>
            let shown := ['\x60', c, '\'']
            complaint (shown ++ ": invalid symbolic mode character".toList) 1

/-- A path with the home directory written as a tilde. -/
def shortened (path : Octets) : Sh Octets := do
  match ← Sh.setting? "HOME" with
  | some home =>
      let behind := path.drop home.length
      if !home.isEmpty && home != ['/'] && home.isPrefixOf path &&
          (behind.isEmpty || behind.head? == some '/') then
        return '~' :: behind
      else
        return path
  | none => return path

/-- The directories of the stack, the working directory first. -/
def directoryStack : Sh (List Octets) := do
  let state ← get
  return state.here :: state.directories

/-- Show the stack of directories. -/
def showStack : Sh Nat := do
  printLine (joinedWith [' '] (← (← directoryStack).mapM shortened))

/-- The place in the stack that an argument counts to. -/
def stackIndex? (size : Nat) : Octets → Option (Option Nat)
  | '+' :: digits => (count? digits).map fun index => if index < size then some index else none
  | '-' :: digits =>
      (count? digits).map fun index => if index < size then some (size - 1 - index) else none
  | _ => none

/-- Go to the first directory of a stack and keep the others. -/
def goThrough (stack : List Octets) : Sh Nat := do
  match stack with
  | [] => return 0
  | path :: others =>
      match ← enter false path with
      | .ok () =>
          modify fun state => { state with directories := others }
          showStack
      | .error reason => refuseDirectory path reason

/-- Go to a directory and remember where the shell was. -/
def pushd : Builtin := fun _ arguments => do
  let stays := arguments.head? == some "-n".toList
  let operands := if stays then arguments.drop 1 else arguments
  let stack ← directoryStack
  match operands with
  | [] =>
      match stack with
      | first :: second :: others => goThrough (second :: first :: others)
      | _ => complaint "no other directory".toList 1
  | text :: _ =>
      match stackIndex? stack.length text with
      | some (some index) => goThrough (stack.drop index ++ stack.take index)
      | some none => complaint (text ++ ": directory stack index out of range".toList) 1
      | none =>
          if stays then
            modify fun state => { state with directories := text :: state.directories }
            showStack
          else
            match ← enter false text with
            | .ok () =>
                modify fun state => { state with directories := stack }
                showStack
            | .error reason => refuseDirectory text reason

/-- Go back to a directory that was remembered. -/
def popd : Builtin := fun _ arguments => do
  let stack ← directoryStack
  match arguments, stack with
  | _, [] | _, [_] => complaint "directory stack empty".toList 1
  | [], _ :: others => goThrough others
  | text :: _, _ =>
      match stackIndex? stack.length text with
      | some (some 0) => goThrough (stack.drop 1)
      | some (some index) =>
          let kept := stack.take index ++ stack.drop (index + 1)
          modify fun state => { state with directories := kept.drop 1 }
          showStack
      | some none => complaint (text ++ ": directory stack index out of range".toList) 1
      | none => complaint (text ++ ": invalid argument".toList) 1

/-- Show or forget the directories that are remembered. -/
def dirs : Builtin := fun _ arguments => do
  let call ← options "clpv" arguments
  if call.has 'c' then
    modify fun state => { state with directories := [] }
    return 0
  else
    let stack ← directoryStack
    let shown ← if call.has 'l' then pure stack else stack.mapM shortened
    if call.has 'v' then
      let lines := ((List.range shown.length).zip shown).map fun (index, path) =>
        let digits := decimal (index : Nat)
        List.replicate (2 - digits.length) ' ' ++ digits ++ "  ".toList ++ path ++ ['\n']
      print lines.flatten
    else if call.has 'p' then
      print (shown.flatMap fun path => path ++ ['\n'])
    else
      printLine (joinedWith [' '] shown)

end Provision.Shell.Builtin
