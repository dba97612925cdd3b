import Provision.LaunchScript.Write
import Provision.Proofs.LaunchScript.Lines
import Provision.Proofs.LaunchScript.Quoting

namespace Provision.LaunchScript.Shell

/-!
# Paths in the Unix launch script

The script is read line by line. Where the paths are inert and the project
directory has no single quote, every line ends between two words, and the words
behind `exec` and `-d` are the executable and the build directory as they are.
-/

open ShellText ShellText.Reader

/-- The word that follows a token if the token is a certain bare word. -/
def nextWord? (name : String) : Token → Option Token → Option (List Mark)
  | .word marks, some (.word next) => if marks = name.toList.map .bare then some next else none
  | _, _ => none

/-- The words that stand right behind a bare word. -/
def following (name : String) : List Token → List (List Mark)
  | [] => []
  | token :: rest => (nextWord? name token rest.head?).toList ++ following name rest

/-- Whether the last token is a certain bare word. -/
def announces (name : String) (tokens : List Token) : Bool :=
  tokens.getLast? = some (.word (name.toList.map .bare))

/-- Behind another bare word there is nothing to be found. -/
theorem following_bare
    {name other : String}
    (different : other.toList.map Mark.bare ≠ name.toList.map .bare)
    (rest : List Token) :
    following name (.word (other.toList.map .bare) :: rest) = following name rest := by
  have noNext : nextWord? name (.word (other.toList.map .bare)) rest.head? = none := by
    rcases rest with _ | ⟨token, rest⟩
    · rfl
    · cases token with
      | word next => exact if_neg different
      | sign c => rfl
  rw [following.eq_2, noNext]
  rfl

/-- A sign parts a word from what comes behind it. -/
theorem following_append_sign
    (name : String)
    (c : Char)
    (first second : List Token) :
    following name (first ++ .sign c :: second) =
      following name first ++ following name second := by
  induction first with
  | nil =>
      rfl
  | cons token first inductionHypothesis =>
      have sameNext :
          nextWord? name token (first ++ .sign c :: second).head? =
            nextWord? name token first.head? := by
        cases first with
        | nil => cases token <;> rfl
        | cons next first => rfl
      rw [List.cons_append, following, following, inductionHypothesis, sameNext,
        List.append_assoc]

/-- A quoted word stands behind a bare word, and is none itself. -/
theorem following_append_literal
    {name : String}
    (named : name.toList ≠ [])
    (text : Text)
    (first second : List Token) :
    following name (first ++ .word (literal text) :: second) =
      following name first ++ (if announces name first then [literal text] else []) ++
        following name second := by
  induction first with
  | nil =>
      have different : literal text ≠ name.toList.map .bare := by
        cases shape : name.toList with
        | nil => exact (named shape).elim
        | cons d rest => cases text <;> simp [literal]
      have noNext : nextWord? name (.word (literal text)) second.head? = none := by
        rcases second with _ | ⟨token, second⟩
        · rfl
        · cases token with
          | word next => exact if_neg different
          | sign c => rfl
      rw [List.nil_append, following.eq_2, noNext]
      rfl
  | cons token first inductionHypothesis =>
      cases first with
      | nil =>
          rw [List.nil_append] at inductionHypothesis
          rw [List.singleton_append, following, inductionHypothesis]
          cases token with
          | sign c => simp [following, nextWord?, announces]
          | word marks =>
              by_cases isName : marks = name.toList.map .bare <;>
                simp [following, nextWord?, announces, isName]
      | cons next first =>
          rw [List.cons_append, following.eq_2, inductionHypothesis,
            following.eq_2 name token]
          simp [announces]

/--
A line is read from between two words to between two words; some words stand
behind `exec`, and some behind `-d`.
-/
def ReadsAs (line : String) (executed tested : List (List Mark)) : Prop :=
  ∃ tokens,
    start.readAll (line.toList ++ ['\n']) = (start, tokens ++ [.sign '\n']) ∧
      following "exec" tokens = executed ∧
      following "-d" tokens = tested

/-- Lines that are read one by one. -/
inductive Reads : List String → (executed tested : List (List Mark)) → Prop where
  | nil : Reads [] [] []
  | cons {line : String} {lines : List String}
      {executed tested moreExecuted moreTested : List (List Mark)} :
      ReadsAs line executed tested →
      Reads lines moreExecuted moreTested →
      Reads (line :: lines) (executed ++ moreExecuted) (tested ++ moreTested)

namespace Reads

variable {lines : List String} {executed tested : List (List Mark)}

theorem append
    {more : List String}
    {moreExecuted moreTested : List (List Mark)}
    (reads : Reads lines executed tested)
    (readsMore : Reads more moreExecuted moreTested) :
    Reads (lines ++ more) (executed ++ moreExecuted) (tested ++ moreTested) := by
  induction reads with
  | nil =>
      exact readsMore
  | cons readsAs _ inductionHypothesis =>
      rw [List.append_assoc, List.append_assoc]
      exact .cons readsAs inductionHypothesis

/-- A text is read as its lines are. -/
theorem readAll_textOfLines
    (reads : Reads lines executed tested) :
    ∃ tokens,
      start.readAll (textOfLines "\n" lines).toList = (start, tokens) ∧
        following "exec" tokens = executed ∧
        following "-d" tokens = tested := by
  have lineEnd : "\n".toList = ['\n'] := by decide +kernel
  rw [toList_textOfLines, lineEnd]
  induction reads with
  | nil =>
      exact ⟨[], rfl, rfl, rfl⟩
  | cons readsAs _ inductionHypothesis =>
      obtain ⟨tokens, ends, rfl, rfl⟩ := readsAs
      obtain ⟨more, onward, rfl, rfl⟩ := inductionHypothesis
      refine
        ⟨tokens ++ .sign '\n' :: more, ?_, following_append_sign _ _ _ _,
          following_append_sign _ _ _ _⟩
      rw [List.flatMap_cons, readAll_append, ends, onward, List.append_assoc]
      rfl

end Reads

/-- Whether a text is read up to between two words, with no word behind `exec` or `-d`. -/
def isSilent (text : Text) : Bool :=
  let reading := start.readAll text
  reading.1 = start && following "exec" reading.2 = [] && following "-d" reading.2 = []

/-- Whether a line is silent, and ends outside of quotes. -/
def isSilentLine (line : String) : Bool :=
  let text := line.toList ++ ['\n']
  isSilent text && (start.readAll text).2.getLast? = some (.sign '\n')

/-- Whether a text is silent, and whether its last word is `exec` and `-d`. -/
def announcesIn (text : Text) (executes tests : Bool) : Bool :=
  let tokens := (start.readAll text).2
  isSilent text && announces "exec" tokens = executes && announces "-d" tokens = tests

namespace ReadsAs

variable {line front text back : String} {executed tested : List (List Mark)}

theorem silent
    (lineSilent : isSilentLine line = true) :
    ReadsAs line [] [] := by
  simp only [isSilentLine, isSilent, Bool.and_eq_true, decide_eq_true_eq] at lineSilent
  obtain ⟨⟨⟨gap, noExecuted⟩, noTested⟩, ends⟩ := lineSilent
  obtain ⟨tokens, shape⟩ := List.getLast?_eq_some_iff.mp ends
  have beforeSign (name : String) :
      following name tokens = following name (start.readAll (line.toList ++ ['\n'])).2 := by
    rw [shape, following_append_sign]
    exact (List.append_nil _).symm
  exact ⟨tokens, Prod.ext gap shape, (beforeSign _).trans noExecuted,
    (beforeSign _).trans noTested⟩

/-- A margin makes no difference. -/
theorem indented
    (reads : ReadsAs line executed tested) :
    ReadsAs (indented line) executed tested := by
  obtain ⟨tokens, ends, isExecuted, isTested⟩ := reads
  refine ⟨tokens, ?_, isExecuted, isTested⟩
  rw [LaunchScript.indented, String.toList_append, List.append_assoc]
  exact ends

/-- A comment ends with its line. -/
theorem comment
    (marked : line.toList.head? = some '#')
    (oneLine : '\n' ∉ line.toList) :
    ReadsAs line [] [] := by
  obtain ⟨rest, shape⟩ := List.head?_eq_some_iff.mp marked
  rw [shape, List.mem_cons, not_or] at oneLine
  refine ⟨[], ?_, rfl, rfl⟩
  have opens :
      start.readAll (line.toList ++ ['\n']) = readAll ⟨.comment, []⟩ (rest ++ ['\n']) := by
    rw [shape]
    rfl
  rw [opens, readAll_append, readAll_comment oneLine.2]
  rfl

/-- An inert text between double quotes is a word of its line. -/
theorem argument
    (executes tests : Bool)
    (announced : announcesIn front.toList executes tests = true)
    (inert : isInert text.toList = true)
    (ends : (back.toList ++ ['\n']).head?.any Provision.Shell.endsWord = true)
    (onward : ReadsAs back executed tested) :
    ReadsAs (front ++ (quoted text ++ back))
      ((if executes then [literal text.toList] else []) ++ executed)
      ((if tests then [literal text.toList] else []) ++ tested) := by
  obtain ⟨tokens, reads, rfl, rfl⟩ := onward
  simp only [announcesIn, isSilent, Bool.and_eq_true, decide_eq_true_eq] at announced
  obtain ⟨⟨⟨⟨gap, noExecuted⟩, noTested⟩, isExecutes⟩, isTests⟩ := announced
  refine ⟨(start.readAll front.toList).2 ++ .word (literal text.toList) :: tokens, ?_, ?_, ?_⟩
  · have shape :
        (front ++ (quoted text ++ back)).toList ++ ['\n'] =
          front.toList ++ '"' :: (text.toList ++ '"' :: (back.toList ++ ['\n'])) := by
      simp [quoted]
    have inQuotes (rest : Text) :
        start.readAll ('"' :: (text.toList ++ '"' :: rest)) =
          readAll ⟨.bare, literal text.toList⟩ rest :=
      readAll_quoted (.inl rfl) inert rest
    rw [shape, readAll_append, gap, inQuotes]
    generalize back.toList ++ ['\n'] = behind at ends reads
    cases behind with
    | nil => cases ends
    | cons c rest =>
        rw [readAll_bare (by simpa using ends), reads]
        simp
  · rw [following_append_literal (by decide), noExecuted, isExecutes, List.nil_append]
  · rw [following_append_literal (by decide), noTested, isTests, List.nil_append]

/-- An inert text between double quotes ends its line. -/
theorem lastArgument
    (announced : announcesIn front.toList false false = true)
    (inert : isInert text.toList = true) :
    ReadsAs (front ++ quoted text) [] [] := by
  have emptyEnd : ReadsAs "" [] [] := .silent (by decide +kernel)
  have whole := argument false false announced inert (by decide) emptyEnd
  rwa [String.append_empty] at whole

/-- The pattern that finds a directory on the search path. -/
theorem pattern
    (inert : isInert text.toList = true) :
    ReadsAs ("*" ++ quoted text ++ "*) ;;") [] [] := by
  have shape :
      ("*" ++ quoted text ++ "*) ;;").toList ++ ['\n'] =
        '*' :: '"' :: (text.toList ++ '"' :: ("*) ;;".toList ++ ['\n'])) := by
    simp [quoted]
  have opens (rest : Text) :
      start.readAll ('*' :: '"' :: (text.toList ++ '"' :: rest)) =
        readAll ⟨.bare, [.active '*'] ++ literal text.toList⟩ rest :=
    readAll_quoted (.inr rfl) inert rest
  refine
    ⟨[.word ([.active '*'] ++ literal text.toList ++ [.active '*']), .sign ')', .sign ';',
      .sign ';'], ?_, rfl, rfl⟩
  rw [shape, opens]
  rfl

end ReadsAs

theorem Reads.silent
    {lines : List String}
    (allSilent : lines.all isSilentLine = true) :
    Reads lines [] [] := by
  induction lines with
  | nil =>
      exact .nil
  | cons line lines inductionHypothesis =>
      rw [List.all_cons, Bool.and_eq_true] at allSilent
      exact .cons (ReadsAs.silent allSilent.1) (inductionHypothesis allSilent.2)

/-- Whether a text between two others is inert if it is so alone. -/
def isFrame (before after : String) : Bool :=
  isInert before.toList && before.toList.getLast? != some '$' && isInert after.toList &&
    !after.toList.head?.any opensExpansion

theorem isInert_framed
    {before text after : String}
    (frame : isFrame before after = true)
    (inert : isInert text.toList = true) :
    isInert (before ++ text ++ after).toList = true := by
  simp only [isFrame, Bool.and_eq_true, bne_iff_ne, Bool.not_eq_true',
    Option.any_eq_false] at frame
  obtain ⟨⟨⟨beforeInert, notDollar⟩, afterInert⟩, closed⟩ := frame
  rw [String.toList_append, String.toList_append]
  refine isInert_append (isInert_append beforeInert inert ?_) afterInert ?_
  · intro isDollar
    exact (notDollar isDollar).elim
  · intro _ next isNext
    simpa using closed next isNext

/-- The command that puts a directory on the search path. -/
def exportCommand (bin : String) : String :=
  "export PATH=" ++ quoted ("$PATH:" ++ bin)

/-- An assignment up to the directory; the search path so far is expanded. -/
def pathMarks : List Mark :=
  "PATH=".toList.map .bare ++ .active '$' :: literal "PATH:".toList

namespace ReadsAs

variable {bin : String}

/-- The command that puts a directory on the search path now. -/
theorem exported
    (inert : isInert bin.toList = true) :
    ReadsAs (exportCommand bin) [] [] := by
  have shape :
      (exportCommand bin).toList ++ ['\n'] =
        "export PATH=\"$PATH:".toList ++ (bin.toList ++ '"' :: ['\n']) := by
    simp [exportCommand, quoted]
  have opens :
      start.readAll "export PATH=\"$PATH:".toList =
        (⟨.doubled, pathMarks⟩, [.word ("export".toList.map .bare)]) := by
    decide +kernel
  have closed : opensExpansion '"' = false := by decide
  refine
    ⟨[.word ("export".toList.map .bare), .word (pathMarks ++ literal bin.toList)], ?_,
      following_bare (by decide) _, following_bare (by decide) _⟩
  rw [shape, readAll_append, opens, readAll_inert inert closed]
  rfl

/-- The line that puts a directory on the search path of future shells. -/
theorem persisted
    {command : String}
    (kept : IsKeptBy '\'' command.toList) :
    ReadsAs ("echo '" ++ command ++ "' >> ~/.bashrc") [] [] := by
  have shape :
      ("echo '" ++ command ++ "' >> ~/.bashrc").toList ++ ['\n'] =
        "echo '".toList ++
          (command.toList ++ '\'' :: ' ' :: ">> ~/.bashrc\n".toList) := by
    simp
  have opens :
      start.readAll "echo '".toList = (⟨.single, []⟩, [.word ("echo".toList.map .bare)]) := by
    decide +kernel
  have behind :
      start.readAll (' ' :: ">> ~/.bashrc\n".toList) =
        (start, [.sign '>', .sign '>', .word (.active '~' :: "/.bashrc".toList.map .bare),
          .sign '\n']) := by
    decide +kernel
  have closes (rest : Text) :
      readAll ⟨.single, literal command.toList⟩ ('\'' :: rest) =
        readAll ⟨.bare, literal command.toList⟩ rest :=
    rfl
  refine
    ⟨[.word ("echo".toList.map .bare), .word (literal command.toList), .sign '>', .sign '>',
        .word (.active '~' :: "/.bashrc".toList.map .bare)], ?_,
      following_bare (by decide) _, following_bare (by decide) _⟩
  rw [shape, readAll_append, opens, readAll_append,
    readAll_single (isKeptBy_singleQuotes_iff.mp kept)]
  dsimp only [List.nil_append]
  rw [closes, readAll_bare (by decide), behind]
  rfl

end ReadsAs

variable {paths : Paths}

/-- What is put on the search path, now and for future shells. -/
theorem reads_extendPath
    (oneLine : '\n' ∉ paths.projectName.toList)
    (binInert : isInert paths.binDir.chars = true)
    (commandKept : IsKeptBy '\'' (exportCommand paths.binDir.text).toList) :
    Reads (extendPath paths) [] [] := by
  have adds : ReadsAs ("# Add " ++ paths.projectName ++ " to PATH once") [] [] := by
    refine .comment (by simp) ?_
    simp [oneLine]
  have found :
      ReadsAs ("*" ++ quoted (":" ++ paths.binDir.text ++ ":") ++ "*) ;;") [] [] :=
    .pattern (isInert_framed (by decide +kernel) binInert)
  have tells :
      ReadsAs ("echo " ++ quoted ("Adding " ++ paths.binDir.text ++ " to PATH...")) [] [] :=
    .lastArgument (by decide +kernel) (isInert_framed (by decide +kernel) binInert)
  have exports : ReadsAs (exportCommand paths.binDir.text) [] [] :=
    .exported binInert
  have seeks :
      ReadsAs
        ("if ! grep -qF " ++ quoted paths.binDir.text ++ " ~/.bashrc 2>/dev/null; then") []
        [] := by
    rw [String.append_assoc]
    exact .argument false false (by decide +kernel) binInert (by decide +kernel)
      (.silent (by decide +kernel))
  have persists :
      ReadsAs ("echo '" ++ exportCommand paths.binDir.text ++ "' >> ~/.bashrc") [] [] :=
    .persisted commandKept
  exact .cons adds (.cons (.silent (by decide +kernel)) (.cons found.indented
    (.cons (.silent (by decide +kernel)) (.cons tells.indented.indented
      (.cons exports.indented.indented (.cons (.silent (by decide +kernel))
        (.cons (.silent (by decide +kernel)) (.cons seeks (.cons persists.indented
          (.silent (by decide +kernel)))))))))))

theorem reads_build
    (buildInert : isInert paths.buildDir.chars = true)
    (projectInert : isInert paths.projectDir.chars = true) :
    Reads (build paths) [] [] := by
  have builds :
      ReadsAs
        ("(cd " ++ quoted paths.buildDir.text ++ " && cmake " ++
          quoted paths.projectDir.text ++ " -G " ++ quoted "Ninja" ++ " && ninja)")
        [] [] := by
    simp only [String.append_assoc]
    refine .argument false false (by decide +kernel) buildInert
      (by rw [String.toList_append]; rfl) ?_
    exact .argument false false (by decide +kernel) projectInert (by decide +kernel)
      (.silent (by decide +kernel))
  exact .cons (.silent (by decide +kernel))
    (.cons builds.indented (.silent (by decide +kernel)))

theorem reads_firstBuild
    (inert : isInert paths.buildDir.chars = true) :
    Reads (firstBuild paths) [] [literal paths.buildDir.chars] := by
  have tests :
      ReadsAs ("if [ ! -d " ++ quoted paths.buildDir.text ++ " ]; then") []
        [literal paths.buildDir.chars] := by
    rw [String.append_assoc]
    exact .argument false true (by decide +kernel) inert (by decide +kernel)
      (.silent (by decide +kernel))
  have makes : ReadsAs ("mkdir -p " ++ quoted paths.buildDir.text) [] [] :=
    .lastArgument (by decide +kernel) inert
  exact .cons tests (.cons (.silent (by decide +kernel))
    (.cons makes.indented (.silent (by decide +kernel))))

theorem reads_laterBuild
    (executableInert : isInert paths.executable.chars = true)
    (nameInert : isInert paths.projectName.toList = true) :
    Reads (laterBuild paths) [] [] := by
  have tests :
      ReadsAs ("if [ ! -f " ++ quoted paths.executable.text ++ " ]; then") [] [] := by
    rw [String.append_assoc]
    exact .argument false false (by decide +kernel) executableInert (by decide +kernel)
      (.silent (by decide +kernel))
  have tells :
      ReadsAs ("echo " ++ quoted ("Building " ++ paths.projectName ++ "...")) [] [] :=
    .lastArgument (by decide +kernel) (isInert_framed (by decide +kernel) nameInert)
  exact .cons tests (.cons tells.indented (.silent (by decide +kernel)))

theorem reads_launch
    (executableInert : isInert paths.executable.chars = true)
    (nameInert : isInert paths.projectName.toList = true) :
    Reads (launch paths) [literal paths.executable.chars] [] := by
  have tests :
      ReadsAs ("if [ -f " ++ quoted paths.executable.text ++ " ]; then") [] [] := by
    rw [String.append_assoc]
    exact .argument false false (by decide +kernel) executableInert (by decide +kernel)
      (.silent (by decide +kernel))
  have tells :
      ReadsAs ("echo " ++ quoted ("Running " ++ paths.projectName ++ "...")) [] [] :=
    .lastArgument (by decide +kernel) (isInert_framed (by decide +kernel) nameInert)
  have executes :
      ReadsAs ("exec " ++ quoted paths.executable.text ++ " \"$@\"")
        [literal paths.executable.chars] [] := by
    rw [String.append_assoc]
    exact .argument true false (by decide +kernel) executableInert (by decide +kernel)
      (.silent (by decide +kernel))
  exact .cons tests (.cons tells.indented (.cons executes.indented
    (.silent (by decide +kernel))))

/-- The quotes of the script keep all that is put between them. -/
structure AreKept (paths : Paths) : Prop where
  name : IsKeptBy '"' paths.projectName.toList
  projectDir : IsKeptBy '"' paths.projectDir.chars
  buildDir : IsKeptBy '"' paths.buildDir.chars
  executable : IsKeptBy '"' paths.executable.chars
  binDir : IsKeptBy '"' paths.binDir.chars
  command : IsKeptBy '\'' (exportCommand paths.binDir.text).toList

/-- The line for future shells has a single quote exactly if its directory has one. -/
theorem quote_mem_exportCommand_iff
    (bin : String) :
    '\'' ∈ (exportCommand bin).toList ↔ '\'' ∈ bin.toList := by
  simp [exportCommand, quoted]

theorem reads_lines
    (kept : AreKept paths)
    (oneLine : '\n' ∉ paths.projectName.toList) :
    Reads (lines paths) [literal paths.executable.chars] [literal paths.buildDir.chars] := by
  have nameInert := isKeptBy_doubleQuotes_iff.mp kept.name
  have projectInert := isKeptBy_doubleQuotes_iff.mp kept.projectDir
  have buildInert := isKeptBy_doubleQuotes_iff.mp kept.buildDir
  have executableInert := isKeptBy_doubleQuotes_iff.mp kept.executable
  have binInert := isKeptBy_doubleQuotes_iff.mp kept.binDir
  have starts : Reads ["#!/bin/bash", ""] [] [] := .silent (by decide +kernel)
  have parts : Reads [""] [] [] := .silent (by decide +kernel)
  have fails :
      Reads ["", "echo " ++ quoted ("Failed to build " ++ paths.projectName), "exit 1"] []
        [] := by
    have framed : isInert ("Failed to build " ++ paths.projectName ++ "").toList = true :=
      isInert_framed (by decide +kernel) nameInert
    rw [String.append_empty] at framed
    exact .cons (.silent (by decide +kernel)) (.cons (.lastArgument (by decide +kernel) framed)
      (.silent (by decide +kernel)))
  exact starts.append (reads_extendPath oneLine binInert kept.command)
    |>.append parts
    |>.append (reads_build buildInert projectInert)
    |>.append parts
    |>.append (reads_firstBuild buildInert)
    |>.append parts
    |>.append (reads_laterBuild executableInert nameInert)
    |>.append parts
    |>.append (reads_launch executableInert nameInert)
    |>.append fails

theorem isInert_child
    {base : Path}
    {name : String}
    (relative : (Path.ofText name).isAbsolute = false)
    (baseInert : isInert base.chars = true)
    (nameInert : isInert name.toList = true) :
    isInert (base.child name).chars = true := by
  rcases chars_child relative with ⟨shape, notDollar⟩ | shape
  · rw [shape]
    exact isInert_append baseInert nameInert fun isDollar => (notDollar isDollar).elim
  · rw [shape]
    refine isInert_append baseInert ?_ ?_
    · exact isInert_cons_iff.mpr ⟨.inl (by simp [IsPlain]), nameInert⟩
    · rintro _ next ⟨⟩
      decide

/-- The quotes keep all that comes from a project exactly if they keep its paths. -/
theorem areKept_ofProject_iff
    {projectDir : Path}
    {settings : Settings}
    {activation : Option Path} :
    let paths := Paths.ofProject projectDir settings .unix activation
    AreKept paths ↔
      isInert projectDir.chars = true ∧
        isInert paths.buildDir.chars = true ∧
        isInert paths.executable.chars = true ∧
        '\'' ∉ projectDir.chars := by
  intro paths
  have quotes : '\'' ∈ (exportCommand paths.binDir.text).toList ↔ '\'' ∈ projectDir.chars :=
    (quote_mem_exportCommand_iff _).trans <|
      (mem_chars_child_iff (by decide) (by decide)).trans <|
        mem_chars_child_iff (by decide) (by decide)
  constructor
  · intro kept
    exact
      ⟨isKeptBy_doubleQuotes_iff.mp kept.projectDir,
        isKeptBy_doubleQuotes_iff.mp kept.buildDir,
        isKeptBy_doubleQuotes_iff.mp kept.executable,
        fun inProject =>
          isKeptBy_singleQuotes_iff.mp kept.command (quotes.mpr inProject)⟩
  · rintro ⟨projectInert, buildInert, executableInert, noQuote⟩
    have nameInert : isInert paths.projectName.toList = true := by
      obtain ⟨front, shape⟩ :=
        exists_chars_child paths.buildDir (settings.projectName ++ programSuffix .unix)
      have inertEnd :
          isInert (front ++ (settings.projectName ++ programSuffix .unix).toList) = true :=
        shape ▸ executableInert
      rw [programSuffix, String.append_empty] at inertEnd
      exact isInert_of_append inertEnd
    have binInert : isInert paths.binDir.chars = true :=
      isInert_child (by decide) (isInert_child (by decide) projectInert (by decide))
        (by decide)
    exact {
      name := isKeptBy_doubleQuotes_iff.mpr nameInert
      projectDir := isKeptBy_doubleQuotes_iff.mpr projectInert
      buildDir := isKeptBy_doubleQuotes_iff.mpr buildInert
      executable := isKeptBy_doubleQuotes_iff.mpr executableInert
      binDir := isKeptBy_doubleQuotes_iff.mpr binInert
      command := isKeptBy_singleQuotes_iff.mpr (mt quotes.mp noQuote)
    }

/--
Each text that is put between quotes of the Unix launch script is kept by these
quotes exactly if the project directory, the build directory and the executable
are inert and the project directory has no single quote. Where that is so, the
script ends outside of quotes, and it runs the executable and looks for the build
directory that it was written for. The first part tells of every text by itself,
and not when the whole script reads well: two single quotes in the project
directory end the quotes of their line and open them again, and the words behind
`exec` and `-d` are still those that were meant.
-/
theorem text_keeps_paths
    (projectDir : Path)
    (settings : Settings)
    (activation : Option Path)
    (oneLine : '\n' ∉ settings.projectName.toList) :
    let paths := Paths.ofProject projectDir settings .unix activation
    (AreKept paths ↔
        isInert projectDir.chars = true ∧
          isInert paths.buildDir.chars = true ∧
          isInert paths.executable.chars = true ∧
          '\'' ∉ projectDir.chars) ∧
      (AreKept paths →
        ∃ tokens,
          start.readAll (LaunchScript.text .unix paths).toList = (start, tokens) ∧
            following "exec" tokens = [literal paths.executable.chars] ∧
            following "-d" tokens = [literal paths.buildDir.chars]) := by
  refine ⟨areKept_ofProject_iff, ?_⟩
  intro kept
  exact (reads_lines kept oneLine).readAll_textOfLines

/-- A project whose directory has a blank, and a dollar sign that opens nothing. -/
def plainProject : Path :=
  "/home/dev/my $ project"

/-- The script of the project names its executable and its build directory. -/
theorem plainProject_kept :
    let paths := Paths.ofProject plainProject {} .unix none
    ∃ tokens,
      start.readAll (LaunchScript.text .unix paths).toList = (start, tokens) ∧
        following "exec" tokens =
          [literal "/home/dev/my $ project/build/Netter".toList] ∧
        following "-d" tokens = [literal "/home/dev/my $ project/build".toList] :=
  have ⟨keeps, reads⟩ := text_keeps_paths plainProject {} none (by decide +kernel)
  reads (keeps.mpr (by decide +kernel))

/-- A project whose directory has a single quote. -/
def quotedProject : Path :=
  "/home/o'brien/netter"

/--
The single quote ends the quotes around the line for future shells. The script
comes to its end between quotes, and no word stands behind `exec` or `-d`.
-/
theorem quotedProject_not_kept :
    let reading :=
      start.readAll
        (LaunchScript.text .unix (Paths.ofProject quotedProject {} .unix none)).toList
    (reading.1.place, following "exec" reading.2, following "-d" reading.2) =
      (.single, [], []) := by
  rw [LaunchScript.text, text, toList_textOfLines]
  decide +kernel

end Provision.LaunchScript.Shell
