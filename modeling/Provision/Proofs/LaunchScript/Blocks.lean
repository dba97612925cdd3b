import Provision.LaunchScript.Write
import Provision.Proofs.LaunchScript.Lines

namespace Provision.LaunchScript.Batch

/-!
# Blocks of the Windows launch script

A batch file is read line by line. An opening parenthesis at the end of a line
opens a block; inside of it the first line with a closing parenthesis outside of
double quotes closes it. The script tells of two of its texts inside a block and
outside of quotes: of the program directory and of the project name. Its blocks
are read as they were written exactly if neither has a closing parenthesis.
-/

/-- Whether double quotes are open behind a text. -/
def quotedAfter : (inQuotes : Bool) → Text → Bool
  | inQuotes, [] => inQuotes
  | inQuotes, c :: rest => quotedAfter (inQuotes != (c == '"')) rest

/-- Whether a text has a closing parenthesis outside of double quotes. -/
def closesFrom : (inQuotes : Bool) → Text → Bool
  | _, [] => false
  | inQuotes, c :: rest => c == ')' && !inQuotes || closesFrom (inQuotes != (c == '"')) rest

/-- Whether a line closes the block that it stands in. -/
def closesBlock (line : Text) : Bool :=
  closesFrom false line

/-- Whether a line opens a block that goes on with the next line. -/
def opensBlock (line : Text) : Bool :=
  line.getLast? == some '(' && !quotedAfter false line

/--
Blocks of a text, each with the lines that open and close it. The lines of a block
that is still open have been read; if nothing closes it, it goes to the end.
-/
def blocksFrom : (openBlock : Option (List Text)) → List Text → List (List Text)
  | openBlock, [] => openBlock.toList
  | none, line :: rest =>
      if opensBlock line then blocksFrom (some [line]) rest else blocksFrom none rest
  | some read, line :: rest =>
      if closesBlock line then
        (read ++ [line]) :: blocksFrom none rest
      else
        blocksFrom (some (read ++ [line])) rest

/-- Blocks of a text outside of any block. -/
def blocks (lines : List Text) : List (List Text) :=
  blocksFrom none lines

section Reading

variable {head last : Text} {front rest : List Text}

/-- Outside of blocks, lines that open none are passed over. -/
theorem blocks_append_of_opensNothing
    (opensNothing : ∀ line ∈ front, opensBlock line = false) :
    blocks (front ++ rest) = blocks rest := by
  induction front with
  | nil =>
      rfl
  | cons line front inductionHypothesis =>
      rw [List.forall_mem_cons] at opensNothing
      rw [List.cons_append, blocks, blocksFrom, opensNothing.1]
      exact inductionHypothesis opensNothing.2

/-- An open block goes up to the first line that closes it. -/
theorem blocksFrom_some_append
    (closesNothing : ∀ line ∈ front, closesBlock line = false)
    (closes : closesBlock last = true)
    (read : List Text) :
    blocksFrom (some read) (front ++ last :: rest) =
      (read ++ (front ++ [last])) :: blocks rest := by
  induction front generalizing read with
  | nil =>
      rw [List.nil_append, blocksFrom, closes]
      rfl
  | cons line front inductionHypothesis =>
      rw [List.forall_mem_cons] at closesNothing
      rw [List.cons_append, blocksFrom, closesNothing.1]
      simpa using inductionHypothesis closesNothing.2 (read ++ [line])

/-- A block goes from the line that opens it up to the first line that closes it. -/
theorem blocks_block
    (opens : opensBlock head = true)
    (closesNothing : ∀ line ∈ front, closesBlock line = false)
    (closes : closesBlock last = true) :
    blocks (head :: (front ++ last :: rest)) = (head :: (front ++ [last])) :: blocks rest := by
  rw [blocks, blocksFrom, opens]
  exact blocksFrom_some_append closesNothing closes [head]

end Reading

section Parts

variable {text front back : Text}

theorem quotedAfter_append
    (inQuotes : Bool)
    (front back : Text) :
    quotedAfter inQuotes (front ++ back) = quotedAfter (quotedAfter inQuotes front) back := by
  induction front generalizing inQuotes with
  | nil => rfl
  | cons c front inductionHypothesis => exact inductionHypothesis _

theorem closesFrom_append
    (inQuotes : Bool)
    (front back : Text) :
    closesFrom inQuotes (front ++ back) =
      (closesFrom inQuotes front || closesFrom (quotedAfter inQuotes front) back) := by
  induction front generalizing inQuotes with
  | nil =>
      rfl
  | cons c front inductionHypothesis =>
      rw [List.cons_append, closesFrom, inductionHypothesis, closesFrom, quotedAfter,
        Bool.or_assoc]

/-- Without double quotes, a text leaves them as they are. -/
theorem quotedAfter_of_notMem
    (noQuotes : '"' ∉ text)
    (inQuotes : Bool) :
    quotedAfter inQuotes text = inQuotes := by
  induction text with
  | nil =>
      rfl
  | cons c rest inductionHypothesis =>
      rw [List.mem_cons, not_or] at noQuotes
      have noQuote : (c == '"') = false := beq_false_of_ne (Ne.symm noQuotes.1)
      rw [quotedAfter, noQuote, Bool.bne_false, inductionHypothesis noQuotes.2]

/-- Without double quotes, every closing parenthesis of a text counts, or none does. -/
theorem closesFrom_of_notMem
    (noQuotes : '"' ∉ text)
    (inQuotes : Bool) :
    closesFrom inQuotes text = (!inQuotes && decide (')' ∈ text)) := by
  induction text with
  | nil =>
      simp [closesFrom]
  | cons c rest inductionHypothesis =>
      rw [List.mem_cons, not_or] at noQuotes
      have noQuote : (c == '"') = false := beq_false_of_ne (Ne.symm noQuotes.1)
      rw [closesFrom, noQuote, Bool.bne_false, inductionHypothesis noQuotes.2]
      cases inQuotes <;> simp [Bool.beq_eq_decide_eq, eq_comm]

end Parts

/-- Whether a part of a line ends in something else than an opening parenthesis. -/
def endsPlain (part : String) : Bool :=
  part.toList.getLast?.any (· != '(')

theorem endsPlain_ofList
    {chars : Text}
    (plain : chars.getLast?.any (· != '(') = true) :
    endsPlain (String.ofList chars) = true := by
  rwa [endsPlain, String.toList_ofList]

theorem endsPlain_append
    {back : String}
    (front : String)
    (plain : endsPlain back = true) :
    endsPlain (front ++ back) = true := by
  rw [endsPlain, Option.any_eq_true] at plain ⊢
  obtain ⟨c, isLast, isPlain⟩ := plain
  refine ⟨c, ?_, isPlain⟩
  rw [String.toList_append, List.getLast?_append, isLast]
  rfl

theorem opensBlock_of_endsPlain
    {line : String}
    (plain : endsPlain line = true) :
    opensBlock line.toList = false := by
  rw [endsPlain, Option.any_eq_true] at plain
  obtain ⟨c, isLast, isPlain⟩ := plain
  have noParenthesis : (some c == some '(') = false := by
    simpa using isPlain
  rw [opensBlock, isLast, noParenthesis, Bool.false_and]

/-- A part of a line with no line break in it. -/
def IsUnbroken (part : String) : Prop :=
  '\n' ∉ part.toList

namespace IsUnbroken

variable {front back text : String}

theorem ofList
    {chars : Text}
    (noBreak : '\n' ∉ chars) :
    IsUnbroken (String.ofList chars) := by
  rwa [IsUnbroken, String.toList_ofList]

theorem append
    (frontUnbroken : IsUnbroken front)
    (backUnbroken : IsUnbroken back) :
    IsUnbroken (front ++ back) := by
  rw [IsUnbroken, String.toList_append, List.mem_append, not_or]
  exact ⟨frontUnbroken, backUnbroken⟩

theorem quoted
    (unbroken : IsUnbroken text) :
    IsUnbroken (quoted text) :=
  ((ofList (by decide)).append unbroken).append (ofList (by decide))

end IsUnbroken

/-- A text that can stand between double quotes in a line. -/
structure IsQuotable (text : String) : Prop where
  noQuotes : '"' ∉ text.toList
  unbroken : IsUnbroken text

namespace IsQuotable

variable {front back : String}

theorem ofList
    {chars : Text}
    (free : '"' ∉ chars ∧ '\n' ∉ chars) :
    IsQuotable (String.ofList chars) where
  noQuotes := by rw [String.toList_ofList]; exact free.1
  unbroken := .ofList free.2

theorem append
    (frontQuotable : IsQuotable front)
    (backQuotable : IsQuotable back) :
    IsQuotable (front ++ back) where
  noQuotes := by
    rw [String.toList_append, List.mem_append, not_or]
    exact ⟨frontQuotable.noQuotes, backQuotable.noQuotes⟩
  unbroken := frontQuotable.unbroken.append backQuotable.unbroken

theorem ofText
    {text : String}
    (quotable : IsQuotable text) :
    IsQuotable (Path.ofText text).text := by
  rwa [Path.text_ofText]

theorem join
    {base part : Path}
    (baseQuotable : IsQuotable base.text)
    (partQuotable : IsQuotable part.text) :
    IsQuotable (base.join part).text := by
  have comesFrom
      {c : Char}
      (notInBase : c ∉ base.chars)
      (notInPart : c ∉ part.chars)
      (noSeparator : c ≠ '/') :
      c ∉ (base.join part).chars := by
    intro member
    rcases mem_chars_join member with inBase | isSeparator | inPart
    · exact notInBase inBase
    · exact noSeparator isSeparator
    · exact notInPart inPart
  exact {
    noQuotes := comesFrom baseQuotable.noQuotes partQuotable.noQuotes (by decide)
    unbroken := comesFrom baseQuotable.unbroken partQuotable.unbroken (by decide)
  }

end IsQuotable

/-- A part of a line that closes no block, and leaves no double quotes open. -/
structure Passes (part : String) : Prop where
  balanced : quotedAfter false part.toList = false
  closesNothing : closesFrom false part.toList = false
  unbroken : IsUnbroken part

namespace Passes

variable {front back text line : String}

/-- A literal passes if its characters do; it need not be decoded for that. -/
theorem ofList
    {chars : Text}
    (noEffect :
      quotedAfter false chars = false ∧ closesFrom false chars = false ∧ '\n' ∉ chars) :
    Passes (String.ofList chars) where
  balanced := by rw [String.toList_ofList]; exact noEffect.1
  closesNothing := by rw [String.toList_ofList]; exact noEffect.2.1
  unbroken := .ofList noEffect.2.2

theorem append
    (frontPasses : Passes front)
    (backPasses : Passes back) :
    Passes (front ++ back) where
  balanced := by
    rw [String.toList_append, quotedAfter_append, frontPasses.balanced]
    exact backPasses.balanced
  closesNothing := by
    rw [String.toList_append, closesFrom_append, frontPasses.balanced,
      frontPasses.closesNothing]
    exact backPasses.closesNothing
  unbroken := frontPasses.unbroken.append backPasses.unbroken

/-- Between double quotes, parentheses do not count. -/
theorem quoted
    (quotable : IsQuotable text) :
    Passes (quoted text) := by
  have shape : (Batch.quoted text).toList = '"' :: (text.toList ++ ['"']) := by
    simp [Batch.quoted]
  refine ⟨?_, ?_, quotable.unbroken.quoted⟩
  · rw [shape, quotedAfter, quotedAfter_append, quotedAfter_of_notMem quotable.noQuotes]
    rfl
  · rw [shape, closesFrom, closesFrom_append, quotedAfter_of_notMem quotable.noQuotes,
      closesFrom_of_notMem quotable.noQuotes]
    rfl

/-- A line that passes opens a block with a parenthesis behind it. -/
theorem opensBlock
    (linePasses : Passes line) :
    opensBlock (line ++ " (").toList = true := by
  have opening : " (".toList = [' ', '('] := String.toList_ofList
  rw [String.toList_append, opening, Batch.opensBlock, quotedAfter_append,
    linePasses.balanced, List.getLast?_append]
  rfl

end Passes

/-- A line that neither closes the block around it nor opens one. -/
structure IsInner (line : String) : Prop extends Passes line where
  plain : endsPlain line = true

namespace IsInner

variable {front back line text : String}

theorem ofList
    {chars : Text}
    (noEffect :
      quotedAfter false chars = false ∧ closesFrom false chars = false ∧ '\n' ∉ chars)
    (plain : chars.getLast?.any (· != '(') = true) :
    IsInner (String.ofList chars) where
  toPasses := .ofList noEffect
  plain := endsPlain_ofList plain

theorem append
    (frontPasses : Passes front)
    (inner : IsInner back) :
    IsInner (front ++ back) where
  toPasses := frontPasses.append inner.toPasses
  plain := endsPlain_append front inner.plain

theorem quoted
    (quotable : IsQuotable text) :
    IsInner (quoted text) where
  toPasses := .quoted quotable
  plain := endsPlain_append _ (endsPlain_ofList (by decide))

/-- A margin makes no difference. -/
theorem indented
    (inner : IsInner line) :
    IsInner (indented line) :=
  inner.append (.ofList (by decide))

end IsInner

/-- Lines as they are read. -/
def texts (lines : List String) : List Text :=
  lines.map String.toList

/-- Lines that are read from outside of blocks to outside of blocks, and the blocks in them. -/
structure Reads (lines : List String) (found : List (List String)) : Prop where
  unbroken : ∀ line ∈ lines, IsUnbroken line
  blocks : ∀ rest, blocks (texts lines ++ rest) = found.map texts ++ blocks rest

/--
What is read of a block whose first line inside tells of a text outside of quotes:
a closing parenthesis in the text closes the block there.
-/
def readBlock (told : String) (written : List String) : List String :=
  if ')' ∈ told.toList then written.take 2 else written

namespace Reads

theorem append
    {first second : List String}
    {found more : List (List String)}
    (reads : Reads first found)
    (readsMore : Reads second more) :
    Reads (first ++ second) (found ++ more) where
  unbroken := List.forall_mem_append.mpr ⟨reads.unbroken, readsMore.unbroken⟩
  blocks := by
    intro rest
    rw [texts, List.map_append, List.append_assoc, ← texts, ← texts, reads.blocks,
      readsMore.blocks, List.map_append, List.append_assoc]

/-- Lines that open no block are passed over. -/
theorem skip
    {lines : List String}
    (unbroken : ∀ line ∈ lines, IsUnbroken line)
    (opensNothing : ∀ line ∈ lines, opensBlock line.toList = false) :
    Reads lines [] where
  unbroken := unbroken
  blocks := by
    intro rest
    exact blocks_append_of_opensNothing (List.forall_mem_map.mpr opensNothing)

/-- A line that is written out. -/
theorem literal
    {chars : Text}
    (noEffect : '\n' ∉ chars ∧ opensBlock chars = false) :
    Reads [String.ofList chars] [] := by
  refine skip (List.forall_mem_singleton.mpr (.ofList noEffect.1))
    (List.forall_mem_singleton.mpr ?_)
  rw [String.toList_ofList]
  exact noEffect.2

/-- A line whose end is written out. -/
theorem ending
    {front : String}
    {chars : Text}
    (unbroken : IsUnbroken front)
    (noEffect : '\n' ∉ chars ∧ chars.getLast?.any (· != '(') = true) :
    Reads [front ++ String.ofList chars] [] :=
  skip (List.forall_mem_singleton.mpr (unbroken.append (.ofList noEffect.1)))
    (List.forall_mem_singleton.mpr <|
      opensBlock_of_endsPlain (endsPlain_append front (endsPlain_ofList noEffect.2)))

section Blocks

variable {head before after told : String} {body : List String}

/-- The lines of a block are not broken if those are not that it was made from. -/
theorem unbroken_block
    (headUnbroken : IsUnbroken head)
    (bodyUnbroken : ∀ line ∈ body, IsUnbroken line) :
    ∀ line ∈ block head body, IsUnbroken line := by
  simp only [block, List.forall_mem_append, List.forall_mem_singleton,
    List.forall_mem_map]
  exact
    ⟨⟨headUnbroken.append (.ofList (by decide)), fun line member =>
      (IsUnbroken.ofList (by decide)).append (bodyUnbroken line member)⟩,
      .ofList (by decide)⟩

/-- A block of inner lines is read as it was written. -/
theorem block
    (headPasses : Passes head)
    (inner : ∀ line ∈ body, IsInner line) :
    Reads (block head body) [block head body] where
  unbroken := unbroken_block headPasses.unbroken fun line member => (inner line member).unbroken
  blocks := by
    intro rest
    have shape (behind : List Text) :
        texts (Batch.block head body) ++ behind =
          (head ++ " (").toList :: (texts (body.map indented) ++ [')'] :: behind) := by
      simp [texts, Batch.block]
    have whole :
        texts (Batch.block head body) =
          (head ++ " (").toList :: (texts (body.map indented) ++ [[')']]) := by
      rw [← shape, List.append_nil]
    rw [List.map_singleton, shape, whole]
    refine blocks_block headPasses.opensBlock ?_ (by decide)
    simp only [texts, List.map_map, List.forall_mem_map]
    exact fun line member => (inner line member).indented.closesNothing

/-- A closing parenthesis in a text outside of quotes closes the block. -/
theorem closesBlock_of_told
    (beforePasses : Passes before)
    (toldQuotable : IsQuotable told)
    (closing : ')' ∈ told.toList)
    (after : String) :
    closesBlock (indented (before ++ told ++ after)).toList = true := by
  have marginPasses : Passes ("    " ++ before) :=
    .append (.ofList (by decide)) beforePasses
  have shape :
      (indented (before ++ told ++ after)).toList =
        ("    " ++ before).toList ++ (told.toList ++ after.toList) := by
    simp [indented]
  rw [closesBlock, shape, closesFrom_append, marginPasses.balanced, closesFrom_append,
    closesFrom_of_notMem toldQuotable.noQuotes, decide_eq_true closing]
  simp

/--
A block that tells of a text outside of quotes is read up to where the text closes
it; the lines behind open no other block.
-/
theorem tellingBlock
    (headPasses : Passes head)
    (beforePasses : Passes before)
    (toldQuotable : IsQuotable told)
    (afterInner : IsInner after)
    (inner : ∀ line ∈ body, IsInner line) :
    let written := Batch.block head ((before ++ told ++ after) :: body)
    Reads written [readBlock told written] := by
  intro written
  by_cases closing : ')' ∈ told.toList
  · refine ⟨unbroken_block headPasses.unbroken (List.forall_mem_cons.mpr ⟨?_, ?_⟩), ?_⟩
    · exact (beforePasses.unbroken.append toldQuotable.unbroken).append afterInner.unbroken
    · exact fun line member => (inner line member).unbroken
    · intro rest
      have closes : closesBlock (indented (before ++ told ++ after)).toList = true :=
        closesBlock_of_told beforePasses toldQuotable closing after
      have opensNothing :
          ∀ line ∈ texts (body.map indented) ++ [[')']], opensBlock line = false := by
        simp only [texts, List.map_map, List.forall_mem_append, List.forall_mem_map,
          List.forall_mem_singleton]
        exact
          ⟨fun line member => opensBlock_of_endsPlain (inner line member).indented.plain,
            by decide⟩
      have shape :
          texts written ++ rest =
            (head ++ " (").toList ::
              ([] ++ (indented (before ++ told ++ after)).toList ::
                (texts (body.map indented) ++ [[')']] ++ rest)) := by
        simp [written, texts, Batch.block]
      rw [shape, blocks_block headPasses.opensBlock (by simp) closes,
        blocks_append_of_opensNothing opensNothing, readBlock, if_pos closing]
      rfl
  · have toldPasses : Passes told := by
      refine ⟨quotedAfter_of_notMem toldQuotable.noQuotes false, ?_, toldQuotable.unbroken⟩
      rw [closesFrom_of_notMem toldQuotable.noQuotes, decide_eq_false closing]
      rfl
    have tellsInner : IsInner (before ++ told ++ after) :=
      .append (beforePasses.append toldPasses) afterInner
    rw [readBlock, if_neg closing]
    exact .block headPasses (List.forall_mem_cons.mpr ⟨tellsInner, inner⟩)

end Blocks

end Reads

/-- All that the script pastes can stand between double quotes in a line. -/
structure AreQuotable (paths : Paths) : Prop where
  name : IsQuotable paths.projectName
  projectDir : IsQuotable paths.projectDir.text
  buildDir : IsQuotable paths.buildDir.text
  binDir : IsQuotable paths.binDir.text
  executable : IsQuotable paths.executable.text
  activation : ∀ script ∈ paths.activation, IsQuotable script.text

variable {paths : Paths}

theorem isInner_build
    (quotable : AreQuotable paths) :
    ∀ line ∈ build paths, IsInner line := by
  have enters : IsInner ("pushd " ++ quoted paths.buildDir.text) :=
    .append (.ofList (by decide)) (.quoted quotable.buildDir)
  have configures :
      Passes ("cmake " ++ quoted paths.projectDir.text ++ " -G " ++ quoted "Ninja") :=
    Passes.ofList (by decide)
      |>.append (.quoted quotable.projectDir)
      |>.append (.ofList (by decide))
      |>.append (.quoted (.ofList (by decide)))
  have builds :
      IsInner
        ("cmake " ++ quoted paths.projectDir.text ++ " -G " ++ quoted "Ninja" ++
          " && ninja") :=
    .append configures (.ofList (by decide) (by decide))
  have leaves : IsInner "popd" :=
    .ofList (by decide) (by decide)
  simpa [build] using ⟨enters, builds, leaves⟩

/-- The setup of the vendor's compiler has no block. -/
theorem reads_activation
    {script : Option Path}
    (quotable : ∀ path ∈ script, IsQuotable path.text) :
    Reads (activation script) [] := by
  cases script with
  | none =>
      exact .ending (.append (.ofList (by decide)) (.ofList (by decide))) (by decide +kernel)
  | some path =>
      have calls :
          Reads
            ["call " ++ quoted path.text ++ " " ++ Toolchain.hostArchitecture ++ " >nul"]
            [] := by
        refine .ending (.append (.append (.append (.ofList (by decide)) ?_) ?_) ?_) (by decide)
        · exact (quotable path rfl).unbroken.quoted
        · exact .ofList (by decide)
        · exact .ofList (by decide)
      exact Reads.literal (by decide +kernel)
        |>.append (.literal (by decide +kernel))
        |>.append calls
        |>.append (.literal (by decide +kernel))

/-- The block that extends the search path tells of the program directory. -/
theorem reads_extendPath
    (quotable : AreQuotable paths) :
    Reads (extendPath paths) [readBlock paths.binDir.text (extendPath paths).tail] := by
  have adds : Reads [":: Add " ++ paths.projectName ++ " to PATH once"] [] :=
    .ending ((IsUnbroken.ofList (by decide)).append quotable.name.unbroken) (by decide)
  have sought : IsQuotable (";" ++ paths.binDir.text ++ ";") :=
    .append (.append (.ofList (by decide)) quotable.binDir) (.ofList (by decide))
  have seeks :
      Passes
        ("echo ;%PATH%; | find /I " ++ quoted (";" ++ paths.binDir.text ++ ";") ++
          " >nul ||") :=
    .append (.append (.ofList (by decide)) (.quoted sought)) (.ofList (by decide))
  have persists :
      IsInner ("setx PATH " ++ quoted ("%PATH%;" ++ paths.binDir.text) ++ " >nul") :=
    .append
      (.append (.ofList (by decide)) (.quoted (.append (.ofList (by decide)) quotable.binDir)))
      (.ofList (by decide) (by decide))
  have sets : IsInner ("set " ++ quoted ("PATH=%PATH%;" ++ paths.binDir.text)) :=
    .append (.ofList (by decide))
      (.quoted (.append (.ofList (by decide)) quotable.binDir))
  exact adds.append <|
    .tellingBlock seeks (.ofList (by decide)) quotable.binDir (.ofList (by decide) (by decide))
      (by simpa using ⟨persists, sets⟩)

/-- The block that builds the project for the first time is read as it was written. -/
theorem reads_firstBuild
    (quotable : AreQuotable paths) :
    Reads (firstBuild paths) [firstBuild paths] := by
  have tests : Passes ("if not exist " ++ quoted paths.buildDir.text) :=
    .append (.ofList (by decide)) (.quoted quotable.buildDir)
  have tells : IsInner "echo Creating build directory and building project..." :=
    .ofList (by decide +kernel) (by decide +kernel)
  have makes : IsInner ("mkdir " ++ quoted paths.buildDir.text) :=
    .append (.ofList (by decide)) (.quoted quotable.buildDir)
  refine .block tests (List.forall_mem_append.mpr ⟨?_, isInner_build quotable⟩)
  simpa using ⟨tells, makes⟩

/-- The block that builds the project later tells of its name. -/
theorem reads_laterBuild
    (quotable : AreQuotable paths) :
    Reads (laterBuild paths) [readBlock paths.projectName (laterBuild paths)] := by
  have tests : Passes ("if not exist " ++ quoted paths.executable.text) :=
    .append (.ofList (by decide)) (.quoted quotable.executable)
  exact .tellingBlock tests (.ofList (by decide)) quotable.name
    (.ofList (by decide) (by decide)) (isInner_build quotable)

/-- The lines that run the executable. The last echo may open a block that nothing closes. -/
theorem unbroken_launch
    (quotable : AreQuotable paths) :
    ∀ line ∈ launch paths, IsUnbroken line := by
  have executable := quotable.executable.unbroken.quoted
  have name := quotable.name.unbroken
  simp only [launch, List.forall_mem_cons]
  exact
    ⟨((IsUnbroken.ofList (by decide)).append executable).append (.ofList (by decide)),
      ((IsUnbroken.ofList (by decide)).append name).append (.ofList (by decide)),
      executable.append (.ofList (by decide)), .ofList (by decide), .ofList (by decide),
      .ofList (by decide), (IsUnbroken.ofList (by decide)).append name,
      .ofList (by decide), by simp⟩

/-- The script has three blocks before it comes to run the executable. -/
theorem blocks_text
    (quotable : AreQuotable paths) :
    blocks (Text.lines (LaunchScript.text .windows paths).toList) =
      texts (readBlock paths.binDir.text (extendPath paths).tail) ::
        texts (firstBuild paths) ::
          texts (readBlock paths.projectName (laterBuild paths)) ::
            blocks (texts (launch paths)) := by
  have parts : Reads [""] [] :=
    .literal (by decide)
  have starts : Reads ["@echo off", "setlocal", ""] [] :=
    Reads.literal (by decide) |>.append (.literal (by decide)) |>.append parts
  have reads :=
    starts.append (reads_activation quotable.activation)
      |>.append parts
      |>.append (reads_extendPath quotable)
      |>.append parts
      |>.append (reads_firstBuild quotable)
      |>.append parts
      |>.append (reads_laterBuild quotable)
      |>.append parts
  have unbroken : ∀ line ∈ lines paths, '\n' ∉ line.toList :=
    List.forall_mem_append.mpr ⟨reads.unbroken, unbroken_launch quotable⟩
  have readBack :
      Text.lines (LaunchScript.text .windows paths).toList = texts (lines paths) :=
    lines_textOfLines unbroken
  rw [readBack, lines, texts, List.map_append]
  exact reads.blocks (texts (launch paths))

/-- The blocks of the script, as they were written. -/
def writtenBlocks (paths : Paths) : List (List String) :=
  [(extendPath paths).tail, firstBuild paths, laterBuild paths]

/--
The first blocks of the script are the ones that were written: each is closed by its
own last line, and by nothing earlier. What comes behind them is left open, since a
project name that ends in a parenthesis opens one more block in the line that tells
of a failed build.
-/
def KeepsBlocks (paths : Paths) : Prop :=
  (writtenBlocks paths).map texts <+:
    blocks (Text.lines (LaunchScript.text .windows paths).toList)

/-- A block of more than two lines is read as it was written if nothing closes it. -/
theorem texts_readBlock_eq_iff
    {told : String}
    {written : List String}
    (long : 2 < written.length) :
    texts written = texts (readBlock told written) ↔ ')' ∉ told.toList := by
  rw [readBlock]
  split
  · rename_i closing
    refine iff_of_false (fun same => ?_) (not_not_intro closing)
    have sameLength := congrArg List.length same
    rw [texts, texts, List.length_map, List.length_map, List.length_take] at sameLength
    omega
  · rename_i notClosing
    exact iff_of_true rfl notClosing

/-- Only what stands inside of a block outside of quotes can close it. -/
theorem keepsBlocks_iff_of_areQuotable
    (quotable : AreQuotable paths) :
    KeepsBlocks paths ↔ ')' ∉ paths.binDir.chars ∧ ')' ∉ paths.projectName.toList := by
  have pathBlock :
      texts (extendPath paths).tail =
          texts (readBlock paths.binDir.text (extendPath paths).tail) ↔
        ')' ∉ paths.binDir.chars :=
    texts_readBlock_eq_iff (by decide : 2 < 5)
  have nameBlock :
      texts (laterBuild paths) = texts (readBlock paths.projectName (laterBuild paths)) ↔
        ')' ∉ paths.projectName.toList :=
    texts_readBlock_eq_iff (by decide : 2 < 6)
  rw [KeepsBlocks, writtenBlocks, blocks_text quotable, List.map_cons, List.map_cons,
    List.map_singleton, List.cons_prefix_cons, List.cons_prefix_cons,
    List.cons_prefix_cons, pathBlock, nameBlock]
  simp

/-- All that the script of a project pastes comes from the project and its settings. -/
theorem areQuotable_ofProject
    {projectDir : Path}
    {settings : Settings}
    {activation : Option Path}
    (projectQuotable : IsQuotable projectDir.text)
    (buildQuotable : IsQuotable settings.buildDir.text)
    (nameQuotable : IsQuotable settings.projectName)
    (activationQuotable : ∀ script ∈ activation, IsQuotable script.text) :
    AreQuotable (Paths.ofProject projectDir settings .windows activation) where
  name := nameQuotable
  projectDir := projectQuotable
  buildDir := projectQuotable.join buildQuotable
  binDir :=
    (projectQuotable.join (.ofList (by decide))).join (.ofList (by decide))
  executable :=
    (projectQuotable.join buildQuotable).join
      (.ofText (nameQuotable.append (.ofList (by decide))))
  activation := activationQuotable

/--
The three blocks of the Windows launch script are each closed by their own last line,
and by nothing earlier, exactly if neither the project directory nor the project name
has a closing parenthesis; nothing else that the script pastes can close a block.
-/
theorem keepsBlocks_ofProject_iff
    {projectDir : Path}
    {settings : Settings}
    {activation : Option Path}
    (projectQuotable : IsQuotable projectDir.text)
    (buildQuotable : IsQuotable settings.buildDir.text)
    (nameQuotable : IsQuotable settings.projectName)
    (activationQuotable : ∀ script ∈ activation, IsQuotable script.text) :
    KeepsBlocks (Paths.ofProject projectDir settings .windows activation) ↔
      ')' ∉ projectDir.chars ∧ ')' ∉ settings.projectName.toList := by
  have quotable :=
    areQuotable_ofProject projectQuotable buildQuotable nameQuotable activationQuotable
  have fromProject :
      ')' ∈ ((projectDir.child "target").child "release").chars ↔ ')' ∈ projectDir.chars :=
    (mem_chars_child_iff (by decide) (by decide)).trans <|
      mem_chars_child_iff (by decide) (by decide)
  rw [keepsBlocks_iff_of_areQuotable quotable]
  exact and_congr_left' (not_congr fromProject)

/-- A project whose directory has a blank, and a parenthesis that it does not close. -/
def plainProject : Path :=
  "C:/work/my (old project"

/-- The activation script and the build directory may have parentheses. -/
theorem plainProject_keepsBlocks :
    let settings : Settings := { buildDir := "out (debug)" }
    let script : Path := "C:/Program Files (x86)/vcvarsall.bat"
    KeepsBlocks (Paths.ofProject plainProject settings .windows (some script)) := by
  intro settings script
  have scriptQuotable : ∀ path ∈ some script, IsQuotable path.text := by
    rintro path ⟨⟩
    exact .ofList (by decide)
  have name : ')' ∉ settings.projectName.toList := by
    decide +kernel
  have directory : ')' ∉ plainProject.chars := by
    decide +kernel
  exact (keepsBlocks_ofProject_iff (.ofList (by decide)) (.ofList (by decide))
    (.ofList (by decide)) scriptQuotable).mpr ⟨directory, name⟩

/-- A project below the directory of 32-bit programs. -/
def programFilesProject : Path :=
  "C:/Program Files (x86)/netter"

/-- The line that tells of the program directory closes the block around it. -/
theorem programFilesProject_not_keepsBlocks :
    let paths := Paths.ofProject programFilesProject {} .windows none
    ¬ KeepsBlocks paths ∧
      (blocks (Text.lines (LaunchScript.text .windows paths).toList)).head? =
        some (texts [
          "echo ;%PATH%; | find /I \";C:/Program Files (x86)/netter/target/release;\" >nul || (",
          "    echo Adding C:/Program Files (x86)/netter/target/release to PATH..."
        ]) := by
  intro paths
  have quotable : AreQuotable paths :=
    areQuotable_ofProject (.ofList (by decide)) (.ofList (by decide)) (.ofList (by decide))
      (by simp)
  have closing : ')' ∈ paths.binDir.text.toList := by
    decide +kernel
  have read :
      readBlock paths.binDir.text (extendPath paths).tail = [
        "echo ;%PATH%; | find /I \";C:/Program Files (x86)/netter/target/release;\" >nul || (",
        "    echo Adding C:/Program Files (x86)/netter/target/release to PATH..."
      ] := by
    rw [readBlock, if_pos closing]
    decide +kernel
  constructor
  · rw [keepsBlocks_iff_of_areQuotable quotable]
    exact fun kept => kept.1 closing
  · rw [blocks_text quotable, read, List.head?_cons]

end Provision.LaunchScript.Batch
