import Provision.Host.Utilities.Processes
import Provision.Host.Utilities.Search

namespace Provision.Utilities

open Programs

/-!
# Finding files

Directories are walked, and an expression is carried out for each path: tests
that select paths, and actions for those that are selected.
-/

/-- How a number is compared with one that is asked for. -/
inductive Comparison where
  | less
  | same
  | more
  deriving Repr, DecidableEq

/-- Whether a number compares as asked. -/
def Comparison.holds (comparison : Comparison) (number asked : Nat) : Bool :=
  match comparison with
  | less => number < asked
  | same => number == asked
  | more => asked < number

/-- A part of an expression. -/
inductive FindStep where
  | name (pattern : Octets)
  | path (pattern : Octets)
  | kinds (letters : List Char)
  | empty
  | size (comparison : Comparison) (count unit : Nat)
  /-- Permission bits: exactly these, all of these, or any of these. -/
  | mode (sign : Option Char) (bits : Nat)
  | runnable
  | constant (truth : Bool)
  | print (ending : Octets)
  | printFormat (format : Octets)
  | run (words : List Octets)
  | runMany (words : List Octets)
  | delete
  | prune
  | quit
  deriving Repr, DecidableEq

/-- An expression. -/
inductive FindExpression where
  | step (step : FindStep)
  | inverted (body : FindExpression)
  | both (first second : FindExpression)
  | either (first second : FindExpression)
  | list (first second : FindExpression)
  deriving Repr, DecidableEq

namespace FindExpression

/-- Whether a step is an action that prints or runs something. -/
def isAction : FindStep → Bool
  | .print _ | .printFormat _ | .run _ | .runMany _ | .delete | .quit => true
  | _ => false

/-- Whether a step of an expression has a property. -/
def any (holds : FindStep → Bool) : FindExpression → Bool
  | .step single => holds single
  | .inverted body => body.any holds
  | .both first second | .either first second | .list first second =>
      first.any holds || second.any holds

end FindExpression

/-- How directories are walked. -/
structure FindOptions where
  least : Nat := 0
  most : Option Nat := none
  /-- Whether what is in a directory comes before it. -/
  inside : Bool := false
  deriving Repr, DecidableEq

/-- What is left of the words of an expression. -/
structure FindReader where
  rest : List Octets
  options : FindOptions := {}
  deriving Repr, DecidableEq

/-- A part of reading an expression. -/
abbrev FindReading := StateT FindReader (Except Octets)

namespace FindReading

/-- The next word. -/
def next? : FindReading (Option Octets) := do
  return (← get).rest.head?

/-- Move behind the next word. -/
def drop : FindReading Unit :=
  modify fun reader => { reader with rest := reader.rest.drop 1 }

/-- The word behind a test. -/
def argument (test : Octets) : FindReading Octets := do
  match ← next? with
  | some word =>
      drop
      return word
  | none => throw ("missing argument to \x60".toList ++ test ++ ['\''])

/-- The words of a command, up to their end, and whether it is run for many paths at once. -/
def command (test : Octets) : (fuel : Nat) → (previous : Option Octets) →
    FindReading (List Octets × Bool)
  | 0, _ => throw ("missing argument to \x60".toList ++ test ++ ['\''])
  | fuel + 1, previous => do
      match ← next? with
      | none => throw ("missing argument to \x60".toList ++ test ++ ['\''])
      | some word =>
          drop
          if word == [';'] then
            return ([], false)
          else if word == ['+'] && previous == some ['\x7b', '\x7d'] then
            return ([], true)
          else
            let (words, many) ← command test fuel (some word)
            return (word :: words, many)

/-- Read a number with a sign that tells how it is compared. -/
def compared (text : Octets) : Comparison × Octets :=
  match text with
  | '+' :: rest => (.more, rest)
  | '-' :: rest => (.less, rest)
  | rest => (.same, rest)

/-- Read a depth. -/
def depth (test : Octets) : FindReading Nat := do
  let text ← argument test
  match count? text with
  | some number => return number
  | none =>
      throw ("Expected a positive decimal integer argument to ".toList ++ test ++
        ", but got ".toList ++ quotedAlways text)

/-- Read a size. -/
def size (text : Octets) : FindReading FindStep := do
  let (comparison, text) := compared text
  let digits := text.takeWhile Char.isDigit
  let units := [("", 512), ("b", 512), ("c", 1), ("w", 2), ("k", 1024), ("M", 1048576),
    ("G", 1073741824)]
  match count? digits, units.lookup (String.ofList (text.drop digits.length)) with
  | some count, some unit => return .size comparison count unit
  | _, _ =>
      let last := text.getLast?.toList
      throw ("invalid -size type \x60".toList ++ last ++ ['\''])

/-- Read permissions. -/
def mode (text : Octets) : FindReading FindStep := do
  let sign := text.head?.filter fun c => c == '-' || c == '/'
  let written := if sign.isSome then text.drop 1 else text
  match Permissions.changed 0 false written 0 with
  | .ok bits => return .mode sign bits
  | .error _ => throw ("invalid mode ".toList ++ quotedAlways text)

/-- Read the kinds of files that letters name. -/
def kinds (text : Octets) : FindReading FindStep := do
  let letters := (Text.splitOn ',' text).flatten
  match letters.find? fun c => !"bcdflps".toList.contains c with
  | some c => throw ("Unknown argument to -type: ".toList ++ [c])
  | none => return .kinds letters

/-- Read a test or an action behind its word. -/
def readStep (word : Octets) : FindReading FindStep := do
  let fold (pattern : Octets) : Octets := pattern.map Char.toLower
  match String.ofList word with
  | "-name" => return .name (← argument word)
  | "-iname" => return .name ('\x00' :: fold (← argument word))
  | "-path" | "-wholename" => return .path (← argument word)
  | "-ipath" => return .path ('\x00' :: fold (← argument word))
  | "-type" | "-xtype" => kinds (← argument word)
  | "-empty" => return .empty
  | "-size" => size (← argument word)
  | "-perm" => mode (← argument word)
  | "-executable" => return .runnable
  | "-readable" | "-writable" | "-true" | "-mount" | "-xdev" | "-follow" | "-noleaf" =>
      return .constant true
  | "-false" => return .constant false
  | "-user" | "-group" | "-mtime" | "-mmin" | "-ctime" | "-atime" | "-uid" | "-gid" =>
      discard (argument word)
      return .constant true
  | "-newer" =>
      discard (argument word)
      return .constant false
  | "-print" => return .print ['\n']
  | "-print0" => return .print ['\x00']
  | "-printf" => return .printFormat (← argument word)
  | "-exec" | "-execdir" => do
      let (words, many) ← command word ((← get).rest.length + 1) none
      if words.isEmpty then
        throw ("missing argument to \x60".toList ++ word ++ ['\''])
      else
        return if many then .runMany words.dropLast else .run words
  | "-delete" =>
      modify fun reader => { reader with options := { reader.options with inside := true } }
      return .delete
  | "-prune" => return .prune
  | "-quit" => return .quit
  | "-depth" | "-d" =>
      modify fun reader => { reader with options := { reader.options with inside := true } }
      return .constant true
  | "-maxdepth" =>
      let most ← depth word
      modify fun reader => { reader with options := { reader.options with most := some most } }
      return .constant true
  | "-mindepth" =>
      let least ← depth word
      modify fun reader => { reader with options := { reader.options with least := least } }
      return .constant true
  | _ =>
      if word.head? == some '-' then
        throw ("unknown predicate \x60".toList ++ word ++ ['\''])
      else
        throw ("paths must precede expression: \x60".toList ++ word ++ ['\''])

mutual

/-- Read expressions of which each is carried out. -/
def readList : (fuel : Nat) → FindReading FindExpression
  | 0 => throw []
  | fuel + 1 => do
      let first ← readEither fuel
      if (← next?) == some [','] then
        drop
        return .list first (← readList fuel)
      else
        return first

/-- Read expressions of which one must hold. -/
def readEither : (fuel : Nat) → FindReading FindExpression
  | 0 => throw []
  | fuel + 1 => do
      let first ← readBoth fuel
      match ← next? with
      | some word =>
          if word == "-o".toList || word == "-or".toList then
            drop
            if (← next?).isNone then
              throw ("expected an expression after ".toList ++ quotedAlways word)
            else
              return .either first (← readEither fuel)
          else
            return first
      | none => return first

/-- Read expressions that must all hold. -/
def readBoth : (fuel : Nat) → FindReading FindExpression
  | 0 => throw []
  | fuel + 1 => do
      let first ← readTerm fuel
      match ← next? with
      | none => return first
      | some word =>
          if word == "-a".toList || word == "-and".toList then
            drop
            if (← next?).isNone then
              throw ("expected an expression after ".toList ++ quotedAlways word)
            else
              return .both first (← readBoth fuel)
          else if ["-o", "-or", ",", ")"].any fun other => other.toList == word then
            return first
          else
            return .both first (← readBoth fuel)

/-- Read a test, an action, or an expression in parentheses. -/
def readTerm : (fuel : Nat) → FindReading FindExpression
  | 0 => throw []
  | fuel + 1 => do
      match ← next? with
      | none => return .step (.constant true)
      | some word =>
          drop
          match String.ofList word with
          | "!" | "-not" =>
              if (← next?).isNone then
                throw ("expected an expression after ".toList ++ quotedAlways word)
              else
                return .inverted (← readTerm fuel)
          | "(" =>
              if (← next?) == some [')'] then
                throw "invalid expression; empty parentheses are not allowed.".toList
              else if (← next?).isNone then
                throw ("invalid expression; expected to find a ')' but didn't see one. " ++
                  "Perhaps you need an extra predicate after '('").toList
              else
                let body ← readList fuel
                if (← next?) == some [')'] then
                  drop
                  return body
                else
                  throw ("invalid expression; I was expecting to find a ')' somewhere " ++
                    "but did not see one.").toList
          | "-o" | "-or" | "-a" | "-and" | "," =>
              throw ("invalid expression; you have used a binary operator ".toList ++
                quotedAlways word ++ " with nothing before it.".toList)
          | _ => return .step (← readStep word)

end

/-- Read a whole expression. -/
def whole : FindReading FindExpression := do
  let words := (← get).rest
  if words.isEmpty then
    return .step (.print ['\n'])
  else
    let expression ← readList (4 * words.length + 8)
    if (← next?).isSome then
      throw "you have too many ')'".toList
    else if expression.any FindExpression.isAction then
      return expression
    else
      return .both expression (.step (.print ['\n']))

end FindReading

/-- A path that is visited. -/
structure FoundEntry where
  path : Octets
  node : Node
  depth : Nat
  /-- Where the walk began. -/
  start : Octets
  deriving Repr, DecidableEq

/-- What a walk has come to. -/
structure FindState where
  code : Nat := 0
  /-- Whether what is in the present directory is left out. -/
  prunes : Bool := false
  isDone : Bool := false
  /-- Commands with the paths that they are to be run for. -/
  waiting : List (List Octets × List Octets) := []

/-- A part of a walk. -/
abbrev Finding := StateT FindState Act

namespace Finding

/-- Whether a text fits a pattern; a NUL in front of it lets the case not count. -/
def fits (pattern text : Octets) : Bool :=
  match pattern with
  | '\x00' :: pattern => fitsAny [pattern] (text.map Char.toLower)
  | pattern => fitsAny [pattern] text

/-- The name of a path that is visited. -/
def nameOf (entry : FoundEntry) : Octets :=
  let trimmed := (entry.path.reverse.dropWhile (· == '/')).reverse
  if trimmed.isEmpty then ['/'] else baseName trimmed []

/-- Whether nothing is in a file or a directory. -/
def isEmpty (entry : FoundEntry) : Act Bool := do
  match entry.node with
  | .file content _ => return content.isEmpty
  | .directory =>
      Act.observe fun disk dir =>
        match disk.locate .followed dir (pathOf entry.path) with
        | .ok location => (disk.names location).isEmpty
        | .error _ => false
  | _ => return false

/-- What a letter of a format tells of a path. -/
def told (entry : FoundEntry) : Char → Octets
  | 'p' => entry.path
  | 'f' => nameOf entry
  | 'h' => directoryName entry.path
  | 's' => (toString (Node.size entry.node)).toList
  | 'y' => [if Node.kindLetter entry.node == '-' then 'f' else Node.kindLetter entry.node]
  | 'd' => (toString entry.depth).toList
  | 'm' => Nat.toDigits 8 entry.node.mode
  | 'P' => (entry.path.drop entry.start.length).dropWhile (· == '/')
  | 'H' => entry.start
  | 'u' | 'g' => "root".toList
  | 'l' =>
      match entry.node with
      | .link target => octetsOf target
      | _ => []
  | '%' => ['%']
  | c => ['%', c]

/-- Put a path in place of marks. -/
def withPath (path : Octets) (words : List Octets) : List Octets :=
  words.map fun word => replaceMark ['\x7b', '\x7d'] path (word.length + 1) word

/-- Run a command. Answers whether it succeeded. -/
def runCommand (launcher : Launcher) (words : List Octets) : Act Bool := do
  let process ← read
  let child := { process with number := ← Act.newProcess, parent := process.number }
  match ← startWords launcher child words with
  | .ok ending => return ending == .exited 0
  | .error reason => do
      Act.complain (quotedAlways (words.head?.getD []) ++ ": ".toList ++ reason.words.toList)
      return false

/-- Carry out a step for a path. -/
def runStep (launcher : Launcher) (entry : FoundEntry) : FindStep → Finding Bool
  | .name pattern => return fits pattern (nameOf entry)
  | .path pattern => return fits pattern entry.path
  | .kinds letters =>
      let letter := Node.kindLetter entry.node
      return letters.contains (if letter == '-' then 'f' else letter)
  | .empty => isEmpty entry
  | .size comparison count unit =>
      return comparison.holds ((Node.size entry.node + unit - 1) / unit) count
  | .mode sign bits =>
      let mode := entry.node.mode
      return match sign with
        | some '-' => mode &&& bits == bits
        | some _ => bits == 0 || mode &&& bits != 0
        | none => mode == bits
  | .runnable => return entry.node == .directory || isExecutableMode entry.node.mode
  | .constant truth => return truth
  | .print ending => do
      Act.print (entry.path ++ ending)
      return true
  | .printFormat format => do
      Act.print (fillFormat (told entry) (unescaped echoEscapes format).1)
      return true
  | .run words => runCommand launcher (withPath entry.path words)
  | .runMany words => do
      modify fun state =>
        let (mine, others) := state.waiting.partition fun waiting => waiting.1 == words
        let paths := mine.flatMap fun (waiting : List Octets × List Octets) => waiting.2
        { state with waiting := others ++ [(words, paths ++ [entry.path])] }
      return true
  | .delete => do
      let isDirectory := entry.node == .directory
      let answer ← Act.change fun disk dir =>
        if isDirectory then disk.removeDirectory dir (pathOf entry.path)
        else disk.removeFile dir (pathOf entry.path)
      match answer with
      | .ok () => return true
      | .error reason => do
          Act.complainThat "cannot delete" entry.path reason
          modify fun state => { state with code := 1 }
          return false
  | .prune => do
      modify fun state => { state with prunes := true }
      return true
  | .quit => do
      modify fun state => { state with isDone := true }
      return true

/-- Carry out an expression for a path. -/
def runExpression (launcher : Launcher) (entry : FoundEntry) : FindExpression → Finding Bool
  | .step step => do
      if (← get).isDone then return false else runStep launcher entry step
  | .inverted body => return !(← runExpression launcher entry body)
  | .both first second => do
      if ← runExpression launcher entry first then
        runExpression launcher entry second
      else
        return false
  | .either first second => do
      if ← runExpression launcher entry first then
        return true
      else
        runExpression launcher entry second
  | .list first second => do
      discard (runExpression launcher entry first)
      runExpression launcher entry second

/-- Walk through a path and what is below it. -/
def walk (launcher : Launcher) (options : FindOptions) (expression : FindExpression)
    (start : Octets) : (fuel : Nat) → (depth : Nat) → (path : Octets) → Finding Unit
  | 0, _, _ => return ()
  | fuel + 1, depth, path => do
      unless (← get).isDone do
        match ← Act.nodeAt .kept path with
        | .error reason =>
            Act.complain (quotedAlways path ++ ": ".toList ++ reason.words.toList)
            modify fun state => { state with code := 1 }
        | .ok node =>
            let visit : Finding Unit := do
              if options.least ≤ depth then
                discard (runExpression launcher ⟨path, node, depth, start⟩ expression)
            modify fun state => { state with prunes := false }
            unless options.inside do
              visit
            let prunes := (← get).prunes && !options.inside
            if node == .directory && !prunes && options.most.all fun most => depth < most then
              let entries ← entriesOf { options := [{ key := "A" }] } path
              for entry in orderEntries {} entries do
                walk launcher options expression start fuel (depth + 1) entry.path
            if options.inside then
              visit

end Finding

/-- Whether a word begins an expression. -/
def beginsExpression (word : Octets) : Bool :=
  (word.head? == some '-' && 1 < word.length) || word == ['('] || word == ['!']

/-- Find files below directories. -/
def find : Utility := fun launcher arguments => do
  let words := arguments.dropWhile fun word => ["-L", "-H", "-P"].any (·.toList == word)
  let starts := words.takeWhile fun word => !beginsExpression word
  let reader : FindReader := { rest := words.drop starts.length }
  match FindReading.whole.run reader with
  | .error message => Act.fail message 1
  | .ok (expression, reader) => do
      let fuel := (← Act.system).disk.depth + 2
      let walks : Finding Unit := do
        for start in if starts.isEmpty then [['.']] else starts do
          Finding.walk launcher reader.options expression start fuel 0 start
      let ((), state) ← walks.run {}
      let mut code := state.code
      for (words, paths) in state.waiting do
        unless ← Finding.runCommand launcher (words ++ paths) do
          code := 1
      return code

end Provision.Utilities
