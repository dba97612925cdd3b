import Provision.Host.Rearrange
import Provision.Host.Utilities.Print
import Provision.Host.Utilities.Permissions

namespace Provision.Utilities

open Programs

/-!
# Utilities that change files

They create, remove and link files and directories, and change permissions.
-/

/-- Change the disk for each operand, and report what is refused. -/
def forEachChange (operands : List Octets) (words : String)
    (change : Octets → Disk → Location → Except SystemError Disk)
    (done : Octets → Act Unit) : Act Nat := do
  let mut code := 0
  for operand in operands do
    match ← Act.change (change operand) with
    | .ok () => done operand
    | .error reason =>
        code := 1
        Act.complainThat words operand reason
  return code

/-- The mode that a text writes for something new. -/
def writtenMode (text : Octets) (usual : Nat) : Act Nat := do
  match Permissions.changed (← read).mask false text usual with
  | .ok mode => return mode
  | .error _ => Act.fail ("invalid mode ".toList ++ quotedAlways text) 1

/-- The directories that lead to a path, each as the beginning of the path. -/
def leadingPaths (path : Octets) : List Octets :=
  let names := Text.splitOn '/' path
  let beginnings := (List.range names.length).map fun (index : Nat) =>
    joined ['/'] (names.take (index + 1))
  beginnings.filter fun beginning => !beginning.isEmpty && beginning.getLast? != some '/'

/-- Create a directory with those that lead to it. -/
def makePath (verbose : Bool) (path : Octets) : Act Bool := do
  for beginning in leadingPaths path do
    if !(← Act.isDirectory beginning) then
      match ← Act.change fun disk dir => disk.makeDirectory dir (pathOf beginning) with
      | .ok () =>
          if verbose then
            Act.print ((← read).name ++ ": created directory ".toList ++
              quotedAlways beginning ++ ['\n'])
      | .error reason =>
          Act.complainThat "cannot create directory" beginning reason
          return false
  return true

/-- Create directories. -/
def mkdir : Utility := fun _ arguments => do
  let switches := [
    Switch.short 'm' "mode" .withValue, Switch.short 'p' "parents" .alone,
    Switch.short 'v' "verbose" .alone, Switch.short 'Z' "" .alone]
  let call ← Act.arguments switches 1 arguments
  if call.operands.isEmpty then
    missingOperand 1
  else
    match call.value? "m" with
    | some text => discard (writtenMode text 0o777)
    | none => pure ()
    let name := (← read).name
    if call.has "p" then
      let made ← call.operands.mapM (makePath (call.has "v"))
      return if made.all id then 0 else 1
    else
      forEachChange call.operands "cannot create directory"
        (fun operand disk dir => disk.makeDirectory dir (pathOf operand))
        (fun operand => do
          if call.has "v" then
            Act.print (name ++ ": created directory ".toList ++ quotedAlways operand ++ ['\n']))

/-- Remove directories that hold nothing. -/
def rmdir : Utility := fun _ arguments => do
  let switches := [
    Switch.short 'p' "parents" .alone, Switch.short 'v' "verbose" .alone,
    Switch.long "ignore-fail-on-non-empty" .alone]
  let call ← Act.arguments switches 1 arguments
  if call.operands.isEmpty then
    missingOperand 1
  else
    let mut code := 0
    for operand in call.operands do
      let paths := if call.has "p" then (leadingPaths operand).reverse else [operand]
      let mut goesOn := true
      for path in paths do
        if goesOn then
          match ← Act.change fun disk dir => disk.removeDirectory dir (pathOf path) with
          | .ok () => pure ()
          | .error reason =>
              goesOn := false
              unless call.has "ignore-fail-on-non-empty" && reason == .notEmpty do
                code := 1
                Act.complainThat "failed to remove" path reason
    return code

/-- Whether a path ends in the directory itself or the one above it. -/
def endsInDots (path : Octets) : Bool :=
  let name := baseName path []
  name == ['.'] || name == ['.', '.']

/-- What is removed, in the order in which it is: what lies in a directory comes before it. -/
def removalOrder (disk : Disk) (dir : Location) (path : Octets) : List Octets :=
  match disk.locate .kept dir (pathOf path) with
  | .error _ => [path]
  | .ok location =>
      let ways := (disk.below location).map fun entry => entry.1.map nameOctets
      let paths := ways.map fun way => joined ['/'] (path :: way)
      (Octets.sort paths).reverse

/-- Remove files, and directories if that is asked for. -/
def rm : Utility := fun _ arguments => do
  let switches := plainSwitches "iI" ++ [
    Switch.short 'd' "dir" .alone, Switch.short 'f' "force" .alone,
    Switch.short 'r' "recursive" .alone, Switch.short 'R' "" .alone,
    Switch.short 'v' "verbose" .alone, Switch.long "preserve-root" .maybeValue,
    Switch.long "no-preserve-root" .alone, Switch.long "one-file-system" .alone]
  let call ← Act.arguments switches 1 arguments
  let recursive := call.has "r" || call.has "R"
  let forced := call.last? ["f", "i"] == some "f"
  if call.operands.isEmpty then
    if forced then return 0 else missingOperand 1
  else
    let mut code := 0
    for operand in call.operands do
      let refuse (reason : SystemError) : Act Unit :=
        Act.complainThat "cannot remove" operand reason
      let tell (what : String) (path : Octets) : Act Unit := do
        if call.has "v" then
          Act.print (("removed " ++ what).toList ++ quotedAlways path ++ ['\n'])
      if recursive && operand.all (· == '/') && !operand.isEmpty then
        code := 1
        Act.complain "it is dangerous to operate recursively on '/'".toList
        Act.complain "use --no-preserve-root to override this failsafe".toList
      else if recursive && endsInDots operand then
        code := 1
        Act.complain ("refusing to remove '.' or '..' directory: skipping ".toList ++
          quotedAlways operand)
      else
        match ← Act.nodeAt .kept operand with
        | .error reason =>
            unless forced && (reason == .notFound || reason == .notADirectory) do
              code := 1
              refuse reason
        | .ok .directory =>
            if recursive then
              let order ← Act.observe fun disk dir => removalOrder disk dir operand
              for path in order do
                let isDirectory := (← Act.nodeAt .kept path) matches .ok .directory
                tell (if isDirectory then "directory " else "") path
              match ← Act.change fun disk dir => disk.removeTree dir (pathOf operand) with
              | .ok () => pure ()
              | .error reason =>
                  code := 1
                  refuse reason
            else if call.has "d" then
              match ← Act.change fun disk dir => disk.removeDirectory dir (pathOf operand) with
              | .ok () => tell "directory " operand
              | .error reason =>
                  code := 1
                  refuse reason
            else
              code := 1
              refuse .isADirectory
        | .ok _ =>
            match ← Act.change fun disk dir => disk.removeFile dir (pathOf operand) with
            | .ok () => tell "" operand
            | .error reason =>
                code := 1
                refuse reason
    return code

/-- Remove a file. -/
def unlink : Utility := fun _ arguments => do
  let call ← Act.arguments [] 1 arguments
  match call.operands with
  | [] => missingOperand 1
  | [path] =>
      forEachChange [path] "cannot unlink"
        (fun operand disk dir => disk.removeFile dir (pathOf operand))
        (fun _ => return ())
  | _ :: extra :: _ => extraOperand extra 1

/-- Create files that are missing. -/
def touch : Utility := fun _ arguments => do
  let switches := plainSwitches "afm" ++ [
    Switch.short 'c' "no-create" .alone, Switch.short 'h' "no-dereference" .alone,
    Switch.short 'd' "date" .withValue, Switch.short 'r' "reference" .withValue,
    Switch.short 't' "" .withValue, Switch.long "time" .withValue]
  let call ← Act.arguments switches 1 arguments
  if call.operands.isEmpty then
    Act.misused "missing file operand".toList 1
  else
    let mut code := 0
    for operand in call.operands do
      let process ← read
      if ← Act.isDirectory operand then
        pure ()
      else if operand.getLast? == some '/' then
        code := 1
        let words := if call.has "c" then "cannot touch" else "setting times of"
        Act.complainThat words operand .notFound
      else
        let isThere := (← Act.nodeAt .followed operand) matches .ok _
        unless isThere || call.has "c" do
          match process.openFile (← Act.system) operand .updating with
          | .ok (_, system) => set system
          | .error reason =>
              code := 1
              Act.complainThat "cannot touch" operand reason
    return code

/-- Where an operand leads when it is put into a directory or in place of a path. -/
def placeIn (isDirectory : Bool) (target source : Octets) : Octets :=
  if isDirectory then
    let front := if target.getLast? == some '/' then target else target ++ ['/']
    front ++ baseName source []
  else
    target

/-- Create links. -/
def ln : Utility := fun _ arguments => do
  let switches := plainSwitches "LPr" ++ [
    Switch.short 's' "symbolic" .alone, Switch.short 'f' "force" .alone,
    Switch.short 'n' "no-dereference" .alone, Switch.short 'v' "verbose" .alone,
    Switch.short 'T' "no-target-directory" .alone,
    Switch.short 't' "target-directory" .withValue, Switch.short 'i' "interactive" .alone]
  let call ← Act.arguments switches 1 arguments
  match call.operands with
  | [] => Act.misused "missing file operand".toList 1
  | operands =>
      let (sources, target) :=
        match call.value? "t", operands with
        | some target, operands => (operands, target)
        | none, [only] => ([only], ['.'])
        | none, operands => (operands.dropLast, operands.getLast?.getD [])
      let leads ← do
        if call.has "n" then do pure ((← Act.nodeAt .kept target) matches .ok .directory)
        else Act.isDirectory target
      let isDirectory := leads && !call.has "T"
      if 1 < sources.length && !isDirectory then
        Act.fail ("target ".toList ++ quotedAlways target ++ " is not a directory".toList) 1
      else
        let mut code := 0
        for source in sources do
          let path := placeIn isDirectory target source
          if call.has "f" then
            discard (Act.change fun disk dir => disk.removeFile dir (pathOf path))
          if call.has "s" then
            match ← Act.change fun disk dir => disk.makeLink dir (pathOf source) (pathOf path) with
            | .ok () =>
                if call.has "v" then
                  Act.print (quotedAlways path ++ " -> ".toList ++ quotedAlways source ++ ['\n'])
            | .error reason =>
                code := 1
                Act.complainThat "failed to create symbolic link" path reason
          else
            match ← Act.nodeAt .kept source with
            | .error reason =>
                code := 1
                Act.complainThat "failed to access" source reason
            | .ok .directory =>
                code := 1
                Act.complain (quotedName source ++
                  ": hard link not allowed for directory".toList)
            | .ok node =>
                match ← Act.change fun disk dir => do
                    return disk.put (← disk.newLocation dir (pathOf path)) node with
                | .ok () =>
                    if call.has "v" then
                      Act.print
                        (quotedAlways path ++ " => ".toList ++ quotedAlways source ++ ['\n'])
                | .error reason =>
                    code := 1
                    Act.complainThat "failed to create hard link" path reason
        return code

/-- Whether two paths lead to the same place. -/
def areSame (left right : Octets) : Act Bool :=
  Act.observe fun disk dir =>
    match disk.locate .followed dir (pathOf left), disk.locate .followed dir (pathOf right) with
    | .ok left, .ok right => left == right
    | _, _ => false

/-- Options of the utilities that copy and move. -/
def transferSwitches : List Switch :=
  plainSwitches "bHLPux" ++ [
    Switch.short 'a' "archive" .alone, Switch.short 'f' "force" .alone,
    Switch.short 'i' "interactive" .alone, Switch.short 'n' "no-clobber" .alone,
    Switch.short 'p' "" .alone, Switch.short 'r' "recursive" .alone,
    Switch.short 'R' "" .alone, Switch.short 'v' "verbose" .alone, Switch.short 'd' "" .alone,
    Switch.short 's' "symbolic-link" .alone, Switch.short 'l' "link" .alone,
    Switch.short 'T' "no-target-directory" .alone,
    Switch.short 't' "target-directory" .withValue, Switch.long "preserve" .maybeValue,
    Switch.long "parents" .alone, Switch.long "update" .maybeValue,
    Switch.long "no-preserve" .withValue]

/-- The sources and the target that operands tell, and whether the target is a directory. -/
def transferOperands (call : Arguments) : Act (List Octets × Octets × Bool) := do
  match call.value? "t", call.operands with
  | some target, operands => return (operands, target, true)
  | none, [] => Act.misused "missing file operand".toList 1
  | none, [only] =>
      Act.misused ("missing destination file operand after ".toList ++ quotedAlways only) 1
  | none, operands =>
      let sources := operands.dropLast
      let target := operands.getLast?.getD []
      let isDirectory ← Act.isDirectory target
      if 1 < sources.length && !isDirectory then
        let reason :=
          match ← Act.nodeAt .followed target with
          | .ok _ => SystemError.notADirectory
          | .error reason => reason
        Act.fail ("target ".toList ++ quotedAlways target ++ ": ".toList ++
          reason.words.toList) 1
      else
        return (sources, target, isDirectory && !call.has "T")

/-- Whether one location lies in another one. -/
def liesIn (inner outer : Octets) : Act Bool :=
  Act.observe fun disk dir =>
    match disk.locate .followed dir (pathOf inner), disk.locate .kept dir (pathOf outer) with
    | .ok inner, .ok outer => outer.isPrefixOf inner
    | _, _ => false

/-- Copy a file. -/
def copyFile (keepsMode : Bool) (source path : Octets) : Act (Except SystemError Unit) := do
  match ← Act.observe fun disk dir => disk.file dir (pathOf source) with
  | .error reason => return .error reason
  | .ok (content, mode) =>
      let mask := (← read).mask
      let isNew := !((← Act.nodeAt .followed path) matches .ok _)
      Act.change fun disk dir => do
        let disk ← disk.write dir (pathOf path) content
        let kept := if keepsMode then mode else Permissions.without mode (mask ||| 0o7000)
        if isNew || keepsMode then disk.setMode dir (pathOf path) kept else return disk

/-- Copy a directory with all that is in it. -/
def copyTree (source path : Octets) : Act (Except SystemError Unit) := do
  let mask := (← read).mask
  Act.change fun disk dir => do
    let from_ ← disk.locate .followed dir (pathOf source)
    let place ← disk.locate .followed dir (pathOf path)
    let nodes := (disk.below from_).map fun (way, node) =>
      match node with
      | .file content mode => (way, Node.file content (Permissions.without mode (mask &&& 0o7000)))
      | node => (way, node)
    match disk.node? place.dropLast with
    | some .directory => return disk.plant place nodes
    | some _ => .error .notADirectory
    | none => .error .notFound

/-- Copy files and directories. -/
def cp : Utility := fun _ arguments => do
  let call ← Act.arguments transferSwitches 1 arguments
  let recursive := call.has "r" || call.has "R" || call.has "a"
  let keepsLinks := recursive || call.has "P" || call.has "d"
  let (sources, target, isDirectory) ← transferOperands call
  let mut code := 0
  let mut done : List Octets := []
  for source in sources do
    let path := placeIn isDirectory target source
    let keeps := keepsLinks && !call.has "L"
    let refuse (words : String) (name : Octets) (reason : SystemError) : Act Unit :=
      Act.complainThat words name reason
    let tell : Act Unit := do
      if call.has "v" then
        Act.print (quotedAlways source ++ " -> ".toList ++ quotedAlways path ++ ['\n'])
    if done.contains source then
      Act.complain ("warning: source file ".toList ++ quotedAlways source ++
        " specified more than once".toList)
    else
      done := source :: done
      match ← Act.nodeAt (if keeps then .kept else .followed) source with
      | .error reason =>
          code := 1
          refuse "cannot stat" source reason
      | .ok .directory =>
          if !recursive then
            code := 1
            Act.complain ("-r not specified; omitting directory ".toList ++ quotedName source)
          else if ← liesIn path source then
            code := 1
            Act.complain ("cannot copy a directory, ".toList ++ quotedAlways source ++
              ", into itself, ".toList ++ quotedAlways path)
          else if (← Act.nodeAt .kept path) matches .ok (.file ..) then
            code := 1
            Act.complain ("cannot overwrite non-directory ".toList ++ quotedAlways path ++
              " with directory ".toList ++ quotedAlways source)
          else
            match ← copyTree source path with
            | .ok () => tell
            | .error reason =>
                code := 1
                refuse "cannot create directory" path reason
      | .ok (.link goal) =>
          match ← Act.change fun disk dir => disk.makeLink dir goal (pathOf path) with
          | .ok () => tell
          | .error reason =>
              code := 1
              refuse "cannot create symbolic link" path reason
      | .ok _ =>
          if path.getLast? == some '/' && !(← Act.isDirectory path) then
            code := 1
            match ← Act.nodeAt .followed path with
            | .error .notADirectory => refuse "cannot stat" path .notADirectory
            | _ => refuse "cannot create regular file" path .notADirectory
          else if ← Act.isDirectory path then
            code := 1
            Act.complain ("cannot overwrite directory ".toList ++ quotedAlways path ++
              " with non-directory".toList)
          else if ← areSame source path then
            code := 1
            Act.complain (quotedAlways source ++ " and ".toList ++ quotedAlways path ++
              " are the same file".toList)
          else if call.has "n" && ((← Act.nodeAt .kept path) matches .ok _) then
            pure ()
          else
            if call.has "f" && ((← Act.nodeAt .followed path) matches .error .notFound) then
              discard (Act.change fun disk dir => disk.removeFile dir (pathOf path))
            let preserves := call.has "p" || call.has "a" || call.has "preserve"
            match ← copyFile preserves source path with
            | .ok () => tell
            | .error reason =>
                code := 1
                refuse "cannot create regular file" path reason
  return code

/-- Move files and directories. -/
def mv : Utility := fun _ arguments => do
  let call ← Act.arguments transferSwitches 1 arguments
  let (sources, target, isDirectory) ← transferOperands call
  let mut code := 0
  for source in sources do
    let path := placeIn isDirectory target source
    let places ← Act.observe fun disk dir => do
      let place ← disk.locate .kept dir (pathOf source)
      match disk.node? place with
      | none => .error .notFound
      | some node => .ok (place, node)
    match (places : Except SystemError (Location × Node)) with
    | .error reason =>
        code := 1
        Act.complainThat "cannot stat" source reason
    | .ok (place, node) =>
        let goal ← Act.observe fun disk dir =>
          disk.locate .kept dir (pathOf path).withoutEndSeparators
        let refuse (reason : SystemError) : Act Unit :=
          Act.complain ("cannot move ".toList ++ quotedAlways source ++ " to ".toList ++
            quotedAlways path ++ ": ".toList ++ reason.words.toList)
        match goal with
        | .error reason =>
            code := 1
            refuse reason
        | .ok goal =>
            let disk := (← Act.system).disk
            let present := disk.node? goal
            if place == goal then
              code := 1
              Act.complain (quotedAlways source ++ " and ".toList ++ quotedAlways path ++
                " are the same file".toList)
            else if node == .directory && place.isPrefixOf goal then
              code := 1
              Act.complain ("cannot move ".toList ++ quotedAlways source ++
                " to a subdirectory of itself, ".toList ++ quotedAlways path)
            else if call.has "n" && present.isSome then
              pure ()
            else if disk.node? goal.dropLast != some .directory then
              code := 1
              refuse (if (disk.node? goal.dropLast).isNone then .notFound else .notADirectory)
            else if node == .directory && (present.any fun node => node != .directory) then
              code := 1
              Act.complain ("cannot overwrite non-directory ".toList ++ quotedAlways path ++
                " with directory ".toList ++ quotedAlways source)
            else if node != .directory && present == some .directory then
              code := 1
              Act.complain ("cannot overwrite directory ".toList ++ quotedAlways path ++
                " with non-directory".toList)
            else if present == some .directory && !(disk.names goal).isEmpty then
              code := 1
              refuse .notEmpty
            else if node != .directory && path.getLast? == some '/' then
              code := 1
              refuse .notADirectory
            else
              modify fun system => { system with disk := disk.moveTree place goal }
              if call.has "v" then
                Act.print ("renamed ".toList ++ quotedAlways source ++ " -> ".toList ++
                  quotedAlways path ++ ['\n'])
  return code

/-- The mode in digits and letters, as changes of it are reported. -/
def reportedMode (mode : Nat) : Octets :=
  let digits := Nat.toDigits 8 mode
  List.replicate (4 - digits.length) '0' ++ digits ++ " (".toList ++
    Permissions.modeLetters mode ++ [')']

/-- The files at a path and below it, as paths. -/
def treePaths (path : Octets) : Act (List Octets) := do
  let order ← Act.observe fun disk dir => removalOrder disk dir path
  return order.reverse

/-- Whether a word tells permissions although it looks like an option. -/
def isModeWord (word : Octets) : Bool :=
  match word with
  | '-' :: letter :: letters =>
      (letter :: letters).all fun c => "rwxXstugo,+=-01234567".toList.contains c
  | _ => false

/-- Change permissions. -/
def chmod : Utility := fun _ arguments => do
  let switches := [
    Switch.short 'c' "changes" .alone, Switch.short 'f' "silent" .alone,
    Switch.short 'v' "verbose" .alone, Switch.short 'R' "recursive" .alone,
    Switch.long "quiet" .alone, Switch.long "reference" .withValue]
  let modeWord := arguments.find? isModeWord
  let others := match modeWord with
    | some word => arguments.erase word
    | none => arguments
  let call ← Act.arguments switches 1 others
  let silent := call.has "f" || call.has "quiet"
  let (written, operands) :=
    match modeWord, call.value? "reference", call.operands with
    | some word, _, operands => (some word, operands)
    | none, some _, operands => (none, operands)
    | none, none, word :: operands => (some word, operands)
    | none, none, [] => (none, [])
  let mask := (← read).mask
  let usual ←
    match call.value? "reference" with
    | some path => do
        match ← Act.observe fun disk dir => disk.mode dir (pathOf path) with
        | .ok mode => pure mode
        | .error _ => pure 0o755
    | none => pure 0
  let changed (isDirectory : Bool) (mode : Nat) : Except PermissionProblem Nat :=
    match written with
    | some text => Permissions.changed mask isDirectory text mode
    | none => .ok usual
  match written, operands with
  | none, [] => missingOperand 1
  | some word, [] =>
      Act.misused ("missing operand after ".toList ++ quotedAlways word) 1
  | _, operands =>
      if (changed false 0).toOption.isNone then
        Act.misused ("invalid mode: ".toList ++ quotedAlways (written.getD [])) 1
      else
        let mut code := 0
        for operand in operands do
          let paths ← if call.has "R" then treePaths operand else pure [operand]
          for path in paths do
            match ← Act.nodeAt .followed path, ← Act.nodeAt .kept path with
            | .error _, .ok (.link _) =>
                code := 1
                unless silent do
                  Act.complain ("cannot operate on dangling symlink ".toList ++ quotedAlways path)
            | .error reason, _ =>
                code := 1
                unless silent do
                  Act.complainThat "cannot access" path reason
            | .ok node, _ =>
                let mode := node.mode
                let after := (changed (node == .directory) mode).toOption.getD mode
                discard (Act.change fun disk dir => disk.setMode dir (pathOf path) after)
                if mode != after && (call.has "v" || call.has "c") then
                  Act.print ("mode of ".toList ++ quotedAlways path ++ " changed from ".toList ++
                    reportedMode mode ++ " to ".toList ++ reportedMode after ++ ['\n'])
                else if call.has "v" then
                  Act.print ("mode of ".toList ++ quotedAlways path ++ " retained as ".toList ++
                    reportedMode mode ++ ['\n'])
        return code

/-- Copy files with permissions of their own, or create directories. -/
def install : Utility := fun _ arguments => do
  let switches := plainSwitches "bcCps" ++ [
    Switch.short 'd' "directory" .alone, Switch.short 'D' "" .alone,
    Switch.short 'm' "mode" .withValue, Switch.short 'v' "verbose" .alone,
    Switch.short 'o' "owner" .withValue, Switch.short 'g' "group" .withValue,
    Switch.short 't' "target-directory" .withValue,
    Switch.short 'T' "no-target-directory" .alone]
  let call ← Act.arguments switches 1 arguments
  let mode ←
    match call.value? "m" with
    | some text => writtenMode text 0
    | none => pure 0o755
  if call.has "d" then
    if call.operands.isEmpty then
      Act.misused "missing file operand".toList 1
    else
      let made ← call.operands.mapM (makePath false)
      return if made.all id then 0 else 1
  else
    let (sources, target, isDirectory) ← transferOperands call
    let mut code := 0
    for source in sources do
      let path := placeIn isDirectory target source
      if call.has "D" then
        discard (makePath false (directoryName path))
      match ← Act.observe fun disk dir => disk.file dir (pathOf source) with
      | .error .isADirectory =>
          code := 1
          Act.complain ("omitting directory ".toList ++ quotedAlways source)
      | .error reason =>
          code := 1
          Act.complainThat "cannot stat" source reason
      | .ok (content, _) =>
          discard (Act.change fun disk dir => disk.removeFile dir (pathOf path))
          match ← Act.change fun disk dir => do
              let disk ← disk.write dir (pathOf path) content
              disk.setMode dir (pathOf path) mode with
          | .ok () =>
              if call.has "v" then
                Act.print (quotedAlways source ++ " -> ".toList ++ quotedAlways path ++ ['\n'])
          | .error reason =>
              code := 1
              Act.complainThat "cannot create regular file" path reason
    return code

/-- Give files another length. -/
def truncate : Utility := fun _ arguments => do
  let switches := [
    Switch.short 's' "size" .withValue, Switch.short 'c' "no-create" .alone,
    Switch.short 'o' "" .alone, Switch.short 'r' "reference" .withValue]
  let call ← Act.arguments switches 1 arguments
  match call.value? "s", call.operands with
  | none, _ => Act.misused "you must specify either '--size' or '--reference'".toList 1
  | some _, [] => Act.misused "missing file operand".toList 1
  | some text, operands =>
      let sign := text.head?.filter fun c => c == '+' || c == '-'
      match scaledCount? (if sign.isSome then text.drop 1 else text) with
      | none => Act.fail ("Invalid number: ".toList ++ quotedAlways text) 1
      | some count =>
          let size (present : Nat) : Nat :=
            if sign == some '+' then present + count
            else if sign == some '-' then present - count
            else count
          forEachChange operands "cannot open"
            (fun operand disk dir => disk.update dir (pathOf operand) fun content =>
              let size := size content.length
              content.take size ++ List.replicate (size - content.length) (0 : UInt8))
            fun _ => return ()

/-- The directory for files that are needed for a while. -/
def temporaryDirectory : Act Octets := do
  return ((← Act.variableNamed? "TMPDIR").filter fun path => !path.isEmpty).getD "/tmp".toList

/-- The letters with which a number fills the open places of a name. -/
def fillPlaces (count number : Nat) : Octets :=
  let digits := (toString number).toList
  List.replicate (count - digits.length) 'a' ++ digits.drop (digits.length - count)

/-- Create a file or a directory with a new name. -/
def mktemp : Utility := fun _ arguments => do
  let switches := [
    Switch.short 'd' "directory" .alone, Switch.short 'u' "dry-run" .alone,
    Switch.short 'q' "quiet" .alone, Switch.short 'p' "tmpdir" .withValue,
    Switch.short 't' "" .alone, Switch.long "suffix" .withValue]
  let call ← Act.arguments switches 1 arguments
  match call.operands with
  | _ :: _ :: _ => Act.misused "too many templates".toList 1
  | operands =>
      let usual := operands.isEmpty
      let template := operands.head?.getD "tmp.XXXXXXXXXX".toList
      let ending := (template.reverse.dropWhile (· == 'X')).reverse
      let count := template.length - ending.length
      if count < 3 then
        Act.fail ("too few X's in template ".toList ++ quotedAlways template) 1
      else
        let directory ←
          match call.value? "p" with
          | some directory => pure (some directory)
          | none =>
              if usual || call.has "t" then do pure (some (← temporaryDirectory)) else pure none
        let placed :=
          match directory with
          | some directory => placeIn true directory template
          | none => template
        let front := placed.take (placed.length - count)
        let number ← Act.newProcess
        let path := front ++ fillPlaces count number ++ (call.value? "suffix").getD []
        if call.has "u" then
          Act.printLine path
          return 0
        else
          let change : Disk → Location → Except SystemError Disk := fun disk dir => do
            let location ← disk.newLocation dir (pathOf path)
            let node := if call.has "d" then Node.directory else .file [] Disk.temporaryMode
            return disk.put location node
          match ← Act.change change with
          | .ok () =>
              Act.printLine path
              return 0
          | .error reason =>
              let kind := if call.has "d" then "directory" else "file"
              let words := ("failed to create " ++ kind ++ " via template").toList
              let shown := placed
              unless call.has "q" do
                Act.complain (words ++ ' ' :: quotedAlways shown ++ ": ".toList ++
                  reason.words.toList)
              return 1

end Provision.Utilities
