import Provision.Host.Programs.Program
import Provision.Host.Utilities.Files

namespace Provision.Utilities

open Programs

/-!
# Utilities that look at files

They list directories and tell what stands at a path and where it leads.
-/

/-- Something that is listed, with the name that is shown for it. -/
structure ListedEntry where
  name : Octets
  path : Octets
  node : Node
  deriving Repr, DecidableEq

namespace Node

/-- How many bytes a node is said to hold. -/
def size : Node → Nat
  | .file content _ => content.length
  | .directory => 4096
  | .link target => (octetsOf target).length
  | .device _ => 0

/-- The letter for the kind of a node. -/
def kindLetter : Node → Char
  | .file .. => '-'
  | .directory => 'd'
  | .link _ => 'l'
  | .device _ => 'c'

/-- The kind of a node in words. -/
def kindWords : Node → String
  | .file content _ => if content.isEmpty then "regular empty file" else "regular file"
  | .directory => "directory"
  | .link _ => "symbolic link"
  | .device _ => "character special file"

/-- The sign behind a name that shows the kind of a node. -/
def sign : Node → Octets
  | .file _ mode => if isExecutableMode mode then ['*'] else []
  | .directory => ['/']
  | .link _ => ['@']
  | .device _ => []

/-- How many names a node is said to have. -/
def links (disk : Disk) (location : Location) : Node → Nat
  | .directory =>
      let isInner (name : FileName) : Bool :=
        disk.node? (location ++ [name]) == some .directory
      2 + ((disk.names location).filter isInner).length
  | _ => 1

end Node

/-- The size of a block in which space is counted, in kilobytes. -/
def blockKilobytes (node : Node) : Nat :=
  match node with
  | .file content _ => (content.length + 4095) / 4096 * 4
  | .directory => 4
  | _ => 0

/-- When files are said to have been changed. -/
def listedDate : Octets :=
  "Jan  1 00:00".toList

/-- The path of a name in a directory that is listed. -/
def inListed (directory name : Octets) : Octets :=
  if directory.getLast? == some '/' then directory ++ name else directory ++ '/' :: name

/-- Put entries into the order that options ask for. -/
def orderEntries (call : Arguments) (entries : List ListedEntry) : List ListedEntry :=
  let named := entries.mergeSort fun left right => !Octets.isBefore right.name left.name
  let ordered :=
    if call.has "S" then
      named.mergeSort fun left right => Node.size right.node ≤ Node.size left.node
    else
      named
  if call.has "r" then ordered.reverse else ordered

/-- Text with blanks behind it up to a width. -/
def padded (width : Nat) (text : Octets) : Octets :=
  text ++ List.replicate (width - text.length) ' '

/-- A name as it is listed, with the signs that options ask for. -/
def listedName (call : Arguments) (isLong : Bool) (entry : ListedEntry) : Act Octets := do
  let name := if call.has "Q" then '"' :: entry.name ++ ['"'] else entry.name
  let signOf (node : Node) : Octets :=
    if call.has "F" then Node.sign node
    else if call.has "p" && node == .directory then ['/']
    else []
  match entry.node with
  | .link target =>
      if isLong then
        let leads ← Act.nodeAt .followed entry.path
        let sign := (leads.toOption.map signOf).getD []
        return name ++ " -> ".toList ++ octetsOf target ++ sign
      else
        return name ++ signOf entry.node
  | node => return name ++ signOf node

/-- The columns in front of a name in a long listing. -/
def longColumns (entry : ListedEntry) : Act (Octets × Octets × Octets) := do
  let links ← Act.observe fun disk dir =>
    match disk.locate .kept dir (pathOf entry.path) with
    | .ok location => Node.links disk location entry.node
    | .error _ => 1
  let size :=
    match entry.node with
    | .device .null => "1, 3".toList
    | .device .zero => "1, 5".toList
    | .device .full => "1, 7".toList
    | .device .terminal => "5, 0".toList
    | node => (toString (Node.size node)).toList
  let mode := Node.kindLetter entry.node :: Permissions.modeLetters entry.node.mode
  return (mode, (toString links).toList, size)

/-- Print entries. -/
def printEntries (call : Arguments) (entries : List ListedEntry) : Act Unit := do
  let layout := call.last? ["1", "l", "n", "g", "o", "C", "x", "m"]
  let isLong := ["l", "n", "g", "o"].any call.has && layout != some "C" && layout != some "x" &&
    layout != some "m"
  let names ← entries.mapM (listedName call isLong)
  if isLong then
    let columns ← entries.mapM longColumns
    let width (column : Octets × Octets × Octets → Octets) : Nat :=
      columns.foldl (fun width row => max width (column row).length) 0
    let owner := if call.has "n" then "0 ".toList else "root ".toList
    let owners :=
      (if call.has "g" then [] else owner) ++ if call.has "o" || call.has "G" then [] else owner
    for (name, mode, links, size) in names.zip columns do
      let blanks (width : Nat) (text : Octets) : Octets := List.replicate (width - text.length) ' '
      Act.printLine (mode ++ ' ' :: blanks (width fun row => row.2.1) links ++ links ++ ' ' ::
        owners ++ blanks (width fun row => row.2.2) size ++ size ++ ' ' :: listedDate ++
        ' ' :: name)
  else
    match layout with
    | some "m" => unless names.isEmpty do Act.printLine (joined [',', ' '] names)
    | some "C" | some "x" => unless names.isEmpty do Act.printLine (joined [' ', ' '] names)
    | _ => Act.print (closedLines names)

/-- The entries of a directory. -/
def entriesOf (call : Arguments) (directory : Octets) : Act (List ListedEntry) := do
  let all := (call.last? ["a", "A"] == some "a") || call.has "f"
  let names ← Act.observe fun disk dir =>
    match disk.locate .followed dir (pathOf directory) with
    | .ok location => (disk.names location).map nameOctets
    | .error _ => []
  let shown := names.filter fun name => call.has "a" || call.has "A" || call.has "f" ||
    name.head? != some '.'
  let shown := if call.has "B" then shown.filter fun name => name.getLast? != some '~' else shown
  let shown := if all then [['.'], ['.', '.']] ++ shown else shown
  shown.filterMapM fun name => do
    let path := inListed directory name
    match ← Act.nodeAt .kept path with
    | .ok node => return some ⟨name, path, node⟩
    | .error _ => return none

/-- List a directory, and those in it if that is asked for. -/
def listDirectory (call : Arguments) : (depth : Nat) → (shown : Bool) → (isFirst : Bool) →
    Octets → Act Unit
  | 0, _, _, _ => return ()
  | depth + 1, isNamed, isFirst, directory => do
      unless isFirst do
        Act.print ['\n']
      if isNamed then
        Act.printLine (directory ++ [':'])
      let entries := orderEntries call (← entriesOf call directory)
      if call.has "l" || call.has "n" || call.has "g" || call.has "o" then
        let total := entries.foldl (fun total entry => total + blockKilobytes entry.node) 0
        Act.printLine ("total ".toList ++ (toString total).toList)
      printEntries call entries
      if call.has "R" then
        for entry in entries do
          if entry.node == .directory && entry.name != ['.'] && entry.name != ['.', '.'] then
            listDirectory call depth true false entry.path

/-- List files and directories. -/
def ls : Utility := fun _ arguments => do
  let switches := plainSwitches "abcfgilmnopqrstuxACBDFGHLNQRSUXZ1khv" ++ [
    Switch.short 'd' "directory" .alone, Switch.short 'I' "ignore" .withValue,
    Switch.short 'w' "width" .withValue, Switch.short 'T' "tabsize" .withValue,
    Switch.long "color" .maybeValue, Switch.long "all" .alone, Switch.long "almost-all" .alone,
    Switch.long "recursive" .alone, Switch.long "reverse" .alone,
    Switch.long "classify" .maybeValue, Switch.long "group-directories-first" .alone,
    Switch.long "human-readable" .alone, Switch.long "sort" .withValue,
    Switch.long "time" .withValue, Switch.long "format" .withValue,
    Switch.long "full-time" .alone, Switch.long "time-style" .withValue,
    Switch.long "quoting-style" .withValue, Switch.long "size" .alone]
  let call ← Act.arguments switches 2 arguments
  let shortened := [("all", "a"), ("almost-all", "A"), ("recursive", "R"), ("reverse", "r"),
    ("classify", "F")]
  let call := { call with options := call.options.map fun option =>
    { option with key := (shortened.lookup option.key).getD option.key } }
  let operands := if call.operands.isEmpty then [['.']] else call.operands
  let keepsLinks := ["l", "n", "g", "o", "F", "d"].any call.has
  let mut code := 0
  let mut found : List ListedEntry := []
  for operand in operands do
    let kept ← Act.nodeAt .kept operand
    let followed ← Act.nodeAt .followed operand
    let node := if keepsLinks then kept else if followed.toOption.isSome then followed else kept
    match node with
    | .ok node => found := found ++ [⟨operand, operand, node⟩]
    | .error reason =>
        code := 2
        Act.complainThat "cannot access" operand reason
  let isListed (entry : ListedEntry) : Bool := entry.node == .directory && !call.has "d"
  let files := orderEntries call (found.filter fun entry => !isListed entry)
  let directories := orderEntries call (found.filter isListed)
  unless files.isEmpty do
    printEntries call files
  let depth := (← Act.system).disk.depth + 2
  let mut isFirst := files.isEmpty
  for entry in directories do
    listDirectory call depth (1 < operands.length || call.has "R") isFirst entry.path
    isFirst := false
  return code

/-- What a letter of a format tells of a file. -/
def toldOfFile (entry : ListedEntry) (links : Nat) : Char → Octets
  | 'a' => Nat.toDigits 8 entry.node.mode
  | 'A' => Node.kindLetter entry.node :: Permissions.modeLetters entry.node.mode
  | 'F' => (Node.kindWords entry.node).toList
  | 'n' => entry.name
  | 'N' =>
      match entry.node with
      | .link target =>
          quotedAlways entry.name ++ " -> ".toList ++ quotedAlways (octetsOf target)
      | _ => quotedAlways entry.name
  | 's' => (toString (Node.size entry.node)).toList
  | 'b' => (toString (blockKilobytes entry.node * 2)).toList
  | 'B' => "512".toList
  | 'h' => (toString links).toList
  | 'u' | 'g' => ['0']
  | 'U' | 'G' => "root".toList
  | 'f' =>
      let kind :=
        match entry.node with
        | .file .. => 0o100000
        | .directory => 0o40000
        | .link _ => 0o120000
        | .device _ => 0o20000
      Nat.toDigits 16 (kind + entry.node.mode)
  | 't' | 'T' => ['0']
  | '%' => ['%']
  | _ => ['?']

/-- Fill in a format. -/
def fillFormat (told : Char → Octets) : Octets → Octets
  | '%' :: letter :: rest => told letter ++ fillFormat told rest
  | c :: rest => c :: fillFormat told rest
  | [] => []

/-- Tell what is known of files. -/
def stat : Utility := fun _ arguments => do
  let switches := [
    Switch.short 'L' "dereference" .alone, Switch.short 'c' "format" .withValue,
    Switch.short 'f' "file-system" .alone, Switch.short 't' "terse" .alone,
    Switch.long "printf" .withValue]
  let call ← Act.arguments switches 1 arguments
  if call.operands.isEmpty then
    missingOperand 1
  else
    let format :=
      match call.value? "printf", call.value? "c" with
      | some format, _ => (unescaped echoEscapes format).1
      | none, some format => format ++ ['\n']
      | none, none => "  File: %n\n  Size: %s\n".toList
    let mut code := 0
    for operand in call.operands do
      match ← Act.nodeAt (if call.has "L" then .followed else .kept) operand with
      | .ok node =>
          let links ← Act.observe fun disk dir =>
            match disk.locate .kept dir (pathOf operand) with
            | .ok location => Node.links disk location node
            | .error _ => 1
          Act.print (fillFormat (toldOfFile ⟨operand, operand, node⟩ links) format)
      | .error reason =>
          code := 1
          Act.complainThat "cannot statx" operand reason
    return code

/-- What of a path must be there when its place is found. -/
inductive Existence where
  /-- Everything but the last name. -/
  | directory
  | everything
  | nothing
  deriving Repr, DecidableEq

/-- The place that a path leads to, written without links. -/
def placeOf (existence : Existence) (path : Octets) : Act (Except SystemError Octets) :=
  Act.observe fun disk dir =>
    let shown (location : Location) : Octets := octetsOf (Path.ofLocation location)
    match disk.locate .followed dir (pathOf path) with
    | .error reason =>
        match existence with
        | .nothing =>
            if path.isEmpty then .error reason
            else .ok (shown ((pathOf path).plainLocation dir))
        | _ => .error reason
    | .ok location =>
        if (disk.node? location).isSome || existence == .nothing then
          .ok (shown location)
        else if existence == .everything then
          .error .notFound
        else if (disk.node? location.dropLast) == some .directory then
          .ok (shown location)
        else
          .error .notFound

/-- Tell where links lead. -/
def readlink : Utility := fun _ arguments => do
  let switches := [
    Switch.short 'f' "canonicalize" .alone, Switch.short 'e' "canonicalize-existing" .alone,
    Switch.short 'm' "canonicalize-missing" .alone, Switch.short 'n' "no-newline" .alone,
    Switch.short 'q' "quiet" .alone, Switch.short 's' "silent" .alone,
    Switch.short 'v' "verbose" .alone, Switch.short 'z' "zero" .alone]
  let call ← Act.arguments switches 1 arguments
  if call.operands.isEmpty then
    missingOperand 1
  else
    let single := call.operands.length == 1
    if call.has "n" && !single then
      Act.complain "ignoring --no-newline with multiple arguments".toList
    let ending :=
      if call.has "n" && single then [] else if call.has "z" then ['\x00'] else ['\n']
    let existence :=
      match call.last? ["f", "e", "m"] with
      | some "f" => some Existence.directory
      | some "e" => some .everything
      | some _ => some .nothing
      | none => none
    let mut code := 0
    for operand in call.operands do
      let answer : Except SystemError Octets ←
        match existence with
        | some existence => placeOf existence operand
        | none => do
            match ← Act.nodeAt .kept operand with
            | .ok (.link target) => pure (.ok (octetsOf target))
            | .ok _ => pure (.error .invalidArgument)
            | .error reason => pure (.error reason)
      match answer with
      | .ok path => Act.print (path ++ ending)
      | .error reason =>
          code := 1
          if call.last? ["v", "q", "s"] == some "v" then
            Act.complainName operand reason
    return code

/-- The way from one place to another. -/
def wayFrom (start path : Octets) : Octets :=
  let names (path : Octets) : List Octets := (Text.splitOn '/' path).filter fun name => name != []
  let rec shared : List Octets → List Octets → Nat
    | left :: lefts, right :: rights => if left == right then shared lefts rights + 1 else 0
    | _, _ => 0
  let starts := names start
  let paths := names path
  let count := shared starts paths
  let way := List.replicate (starts.length - count) ['.', '.'] ++ paths.drop count
  if way.isEmpty then ['.'] else joined ['/'] way

/-- Tell the places of paths. -/
def realpath : Utility := fun _ arguments => do
  let switches := [
    Switch.short 'e' "canonicalize-existing" .alone,
    Switch.short 'm' "canonicalize-missing" .alone, Switch.short 'L' "logical" .alone,
    Switch.short 'P' "physical" .alone, Switch.short 'q' "quiet" .alone,
    Switch.short 's' "strip" .alone, Switch.long "no-symlinks" .alone,
    Switch.short 'z' "zero" .alone, Switch.long "relative-to" .withValue,
    Switch.long "relative-base" .withValue]
  let call ← Act.arguments switches 1 arguments
  if call.operands.isEmpty then
    missingOperand 1
  else
    let existence :=
      match call.last? ["e", "m"] with
      | some "e" => Existence.everything
      | some _ => .nothing
      | none => .directory
    let plain := call.has "s" || call.has "no-symlinks"
    let place (path : Octets) : Act (Except SystemError Octets) := do
      if plain && !path.isEmpty then
        return .ok (octetsOf
          (Path.ofLocation ((pathOf path).plainLocation (← read).directory)))
      else
        placeOf existence path
    let start? ←
      match call.value? "relative-to" with
      | some start => do pure ((← place start).toOption)
      | none => pure none
    let ending := if call.has "z" then ['\x00'] else ['\n']
    let mut code := 0
    for operand in call.operands do
      match ← place operand with
      | .ok path =>
          let shown :=
            match start? with
            | some start => wayFrom start path
            | none => path
          Act.print (shown ++ ending)
      | .error reason =>
          code := 1
          unless call.has "q" do
            Act.complainName operand reason
    return code

/-- The paths of programs that a name may call. -/
def programsNamed (name : Octets) : Act (List Octets) := do
  let isRunnable (path : Octets) : Act Bool :=
    Act.observe fun disk dir => disk.isProgram dir (pathOf path)
  if isPathName name then
    return if ← isRunnable name then [name] else []
  else if name.isEmpty then
    return []
  else
    let entries := Text.splitOn ':' ((← Act.variableNamed? "PATH").getD [])
    (entries.map fun entry => inWrittenEntry entry name).filterM isRunnable

/-- Tell where programs are found. -/
def which : Utility := fun _ arguments => do
  let letters := (arguments.takeWhile fun word =>
    word.head? == some '-' && word.length > 1 && word != ['-', '-']).flatMap (List.drop 1)
  match letters.find? fun c => c != 'a' && c != 's' with
  | some c =>
      discard (Act.writeTo 2 ("Illegal option -".toList ++ [c, '\n']))
      Act.printLine "Usage: /usr/bin/which [-as] args".toList
      return 2
  | none =>
      let names := arguments.dropWhile fun word => word.head? == some '-' && word.length > 1
      let mut code := if names.isEmpty then 1 else 0
      for name in names do
        let paths ← programsNamed name
        let shown := if letters.contains 'a' then paths else paths.take 1
        if shown.isEmpty then
          code := 1
        unless letters.contains 's' do
          Act.print (closedLines shown)
      return code

/-- Give a file a second name. -/
def link : Utility := fun launcher arguments => do
  let call ← Act.arguments [] 1 arguments
  match call.operands with
  | [] => missingOperand 1
  | [only] => Act.misused ("missing operand after ".toList ++ quotedAlways only) 1
  | [source, path] =>
      let refuse (reason : SystemError) : Act Nat := do
        Act.complain ("cannot create link ".toList ++ quotedAlways path ++ " to ".toList ++
          quotedAlways source ++ ": ".toList ++ reason.words.toList)
        return 1
      match ← Act.nodeAt .kept source, ← Act.nodeAt .kept path with
      | .error reason, _ => refuse reason
      | .ok _, .ok _ => refuse .alreadyExists
      | .ok _, .error _ => ln launcher [source, path]
  | _ :: _ :: extra :: _ => extraOperand extra 1

end Provision.Utilities
