import Provision.Descriptor.Patch
import Provision.Proofs.Descriptor.Calls
import Provision.Proofs.Text.Occurrences
import Provision.Proofs.Unicode.LetterCase

namespace Provision.Descriptor

/-!
# Taking out a deployment command

What is taken out of a descriptor is one stretch of text: a call of the former
deployment command, the blanks before it if nothing else stands in its line
there, and the line break behind it. The stretch is described by its parts, and
everything before and behind it stays.
-/

/-- The parts of the stretch that is taken out. -/
structure FormerLine where
  indent : Text
  blanks : Text
  group : Text
  lineBreak : Text

namespace FormerLine

/-- The call among the parts. -/
def command (line : FormerLine) : Text :=
  formerKeyword ++ (line.blanks ++ line.group)

/-- All parts in order. -/
def text (line : FormerLine) : Text :=
  line.indent ++ (line.command ++ line.lineBreak)

/-- The bytes of the call, when the parts stand behind some text. -/
def range (line : FormerLine) (before : Text) : ByteRange :=
  callRange formerKeyword (before ++ line.indent)
    (line.blanks ++ line.group)

/-- The parts are those of a former deployment command between two other parts of a text. -/
structure StandsBetween
    (line : FormerLine)
    (before after : Text) : Prop where
  indentBlank : ∀ c ∈ line.indent, isLineBlank c = true
  indentReaches :
    line.indent ≠ [] → before = [] ∨ before.getLast? = some '\n'
  live :
    LiveWord (before ++ line.indent)
      (line.blanks ++ (line.group ++ (line.lineBreak ++ after)))
  blanksBlank : ∀ c ∈ line.blanks, isLineBlank c = true
  closed : Group '(' ')' line.group
  mentions : formerNeedle <:+: line.group.map Char.toLower
  shortBreak : line.lineBreak ∈ [[], ['\n'], ['\r', '\n']]

end FormerLine

theorem isWord_linkKeyword : IsWord linkKeyword where
  nonempty := by decide +kernel
  identifier := List.all_eq_true.mp (by decide +kernel)

theorem isWord_formerKeyword : IsWord formerKeyword where
  nonempty := by decide +kernel
  identifier := List.all_eq_true.mp (by decide +kernel)

/-- Removing what stands between two cuts joins what is left. -/
theorem remove?_append
    (before middle after : Text) :
    remove? (before ++ (middle ++ after))
        ⟨Text.byteLength before, Text.byteLength (before ++ middle)⟩ =
      some (before ++ after) := by
  simp only [remove?, Text.before?_append, Text.after?_append_middle,
    Option.bind_eq_bind, Option.bind_some]

/-- The line break at the start of a text, as a part of it. -/
private theorem exists_lineBreak
    (text : Text) :
    ∃ lineBreak rest,
      text = lineBreak ++ rest ∧
        Text.byteLength lineBreak = lineBreakLength text ∧
        lineBreak ∈ [[], ['\n'], ['\r', '\n']] := by
  rw [lineBreakLength.eq_def]
  split
  · exact ⟨['\r', '\n'], _, rfl, by decide, by simp⟩
  · exact ⟨['\n'], _, rfl, by decide, by simp⟩
  · exact ⟨[], text, rfl, rfl, by simp⟩

/-- The blanks at the end of a text, as a part of it, and as many bytes as blanks. -/
theorem exists_indent
    (text : Text) :
    ∃ lead,
      text = lead ++ (text.reverse.takeWhile isLineBlank).reverse ∧
        lead.reverse = text.reverse.dropWhile isLineBlank ∧
        Text.byteLength text =
          Text.byteLength lead +
            (text.reverse.takeWhile isLineBlank).length := by
  have shape :
      text =
        (text.reverse.dropWhile isLineBlank).reverse ++
          (text.reverse.takeWhile isLineBlank).reverse := by
    rw [← List.reverse_append, List.takeWhile_append_dropWhile,
      List.reverse_reverse]
  have indentLength :
      Text.byteLength (text.reverse.takeWhile isLineBlank).reverse =
        (text.reverse.takeWhile isLineBlank).length := by
    rw [Text.byteLength_eq_length, List.length_reverse]
    intro c member
    have blank := List.mem_takeWhile_imp (List.mem_reverse.mp member)
    simp only [isLineBlank, Bool.or_eq_true, beq_iff_eq] at blank
    rcases blank with rfl | rfl <;> decide
  refine ⟨_, shape, List.reverse_reverse _, ?_⟩
  rw [← indentLength, ← Text.byteLength_append, ← shape]

/-- Widening a range takes in an indentation that reaches the line start, and a line break. -/
theorem withLine?_append
    (before command after : Text) :
    ∃ kept indent lineBreak rest,
      before = kept ++ indent ∧
        after = lineBreak ++ rest ∧
        (∀ c ∈ indent, isLineBlank c = true) ∧
        (indent ≠ [] → kept = [] ∨ kept.getLast? = some '\n') ∧
        lineBreak ∈ [[], ['\n'], ['\r', '\n']] ∧
        withLine? (before ++ (command ++ after))
            ⟨Text.byteLength before, Text.byteLength (before ++ command)⟩ =
          some
            ⟨Text.byteLength kept,
              Text.byteLength (before ++ (command ++ lineBreak))⟩ := by
  obtain ⟨lineBreak, rest, afterShape, breakLength, shortBreak⟩ :=
    exists_lineBreak after
  obtain ⟨lead, beforeShape, leadReverse, beforeLength⟩ :=
    exists_indent before
  have stopSum :
      Text.byteLength (before ++ command) + lineBreakLength after =
        Text.byteLength (before ++ (command ++ lineBreak)) := by
    rw [← breakLength, ← List.append_assoc,
      Text.byteLength_append (before ++ command)]
  have indentBlank :
      ∀ c ∈ (before.reverse.takeWhile isLineBlank).reverse,
        isLineBlank c = true := by
    intro c member
    exact List.mem_takeWhile_imp (List.mem_reverse.mp member)
  simp only [withLine?, Text.before?_append, Text.after?_append_middle, stopSum,
    Option.bind_eq_bind, Option.bind_some, ← leadReverse,
    List.head?_reverse]
  by_cases opensLine : lead.getLast?.all (· == '\n') = true
  · have startShift :
        Text.byteLength before -
            (before.reverse.takeWhile isLineBlank).length =
          Text.byteLength lead := by
      omega
    refine ⟨lead, _, lineBreak, rest, beforeShape, afterShape, indentBlank,
      ?_, shortBreak, ?_⟩
    · intro _
      cases leadLast : lead.getLast? with
      | none =>
          exact Or.inl (List.getLast?_eq_none_iff.mp leadLast)
      | some c =>
          have lineFeed : c = '\n' := by simpa [leadLast] using opensLine
          exact Or.inr (by rw [lineFeed])
    · rw [if_pos opensLine, startShift]
  · refine ⟨before, [], lineBreak, rest, by simp, afterShape, by simp,
      fun nonempty => (nonempty rfl).elim, shortBreak, ?_⟩
    rw [if_neg opensLine]

/-- A word of plain letters that a call mentions stands in its arguments. -/
private theorem mentions_group
    {blanks group : Text}
    (blank : ∀ c ∈ blanks, isLineBlank c = true)
    (isGroup : Group '(' ')' group)
    (mentions :
      formerNeedle <:+:
        (formerKeyword ++ (blanks ++ group)).map Char.toLower) :
    formerNeedle <:+: group.map Char.toLower := by
  obtain ⟨inner, rfl⟩ := List.head?_eq_some_iff.mp isGroup.opens
  have blankOrOpening :
      ∀ c ∈ (blanks ++ ['(']).map Char.toLower, c ∉ formerNeedle := by
    intro c member
    obtain ⟨d, dMember, rfl⟩ := List.mem_map.mp member
    rcases List.mem_append.mp dMember with inBlanks | isOpening
    · have dBlank := blank d inBlanks
      simp only [isLineBlank, Bool.or_eq_true, beq_iff_eq] at dBlank
      rcases dBlank with rfl | rfl <;> decide +kernel
    · obtain rfl := List.mem_singleton.mp isOpening
      decide +kernel
  have keywordSilent :
      ¬ formerNeedle <:+: formerKeyword.map Char.toLower := by
    rw [← Text.hasInfix_iff_infix]
    decide +kernel
  have shape :
      (formerKeyword ++ (blanks ++ '(' :: inner)).map Char.toLower =
        formerKeyword.map Char.toLower ++
          ((blanks ++ ['(']).map Char.toLower ++ inner.map Char.toLower) := by
    simp
  have behindKeyword :
      formerNeedle <:+:
        (blanks ++ ['(']).map Char.toLower ++ inner.map Char.toLower := by
    have head :
        ((blanks ++ ['(']).map Char.toLower ++
            inner.map Char.toLower).head? =
          some (((blanks ++ ['(']).map Char.toLower).head (by simp)) := by
      rw [List.head?_append, List.head?_eq_some_head (by simp)]
      rfl
    rw [shape, (Text.Parted.of_head head
      (blankOrOpening _ (List.head_mem _))).infix_append_iff] at mentions
    exact mentions.resolve_left keywordSilent
  rw [Text.infix_append_iff_of_foreign (by decide +kernel)
    blankOrOpening] at behindKeyword
  rw [List.map_cons]
  exact behindKeyword.trans (List.suffix_cons _ _).isInfix

/-- The former deployment commands are calls of their keyword that mention the tool. -/
private theorem exists_call_of_mem_formerDeployments
    {text : Text}
    {call : ByteRange}
    (member : call ∈ formerDeployments text) :
    ∃ before blanks group after,
      text = before ++ (formerKeyword ++ (blanks ++ (group ++ after))) ∧
        LiveWord before (blanks ++ (group ++ after)) ∧
        (∀ c ∈ blanks, isLineBlank c = true) ∧
        Group '(' ')' group ∧
        formerNeedle <:+: group.map Char.toLower ∧
        call = callRange formerKeyword before (blanks ++ group) := by
  obtain ⟨inCalls, mentioned⟩ := List.mem_filter.mp member
  obtain ⟨before, arguments, after, rfl,
      ⟨live, blanks, group, rfl, blank, isGroup⟩, rfl⟩ :=
    exists_isCall_of_mem_calls isWord_formerKeyword inCalls
  have sliced :
      Text.slice?
          (before ++ (formerKeyword ++ ((blanks ++ group) ++ after)))
          (callRange formerKeyword before (blanks ++ group)) =
        some (formerKeyword ++ (blanks ++ group)) := by
    rw [← List.append_assoc formerKeyword]
    exact Text.slice?_append before (formerKeyword ++ (blanks ++ group)) after
  have needlePlain :
      ∀ c ∈ formerNeedle, Unicode.isPlainLetter c = true :=
    List.all_eq_true.mp (by decide +kernel)
  rw [mentionsDeployment, sliced, Option.any_some, Text.hasInfix_iff_infix,
    Unicode.infix_lowercase_iff needlePlain] at mentioned
  refine ⟨before, blanks, group, after, by rw [List.append_assoc], ?_, blank,
    isGroup, mentions_group blank isGroup mentioned, rfl⟩
  rw [← List.append_assoc]
  exact live

/-- Without a former deployment command, a text is its own cleaned form. -/
theorem cleaned_eq_self
    {text : Text}
    (absent : formerDeployments text = []) :
    cleaned text = text := by
  simp [cleaned, excision?, absent]

/-- With one, the cleaned form is the text without the stretch of the last one. -/
theorem exists_formerLine
    {text : Text}
    (present : formerDeployments text ≠ []) :
    ∃ (line : FormerLine) (before after : Text),
      text = before ++ (line.text ++ after) ∧
        cleaned text = before ++ after ∧
        line.StandsBetween before after ∧
        (formerDeployments text).getLast? = some (line.range before) := by
  have lastFound := List.getLast?_eq_some_getLast present
  obtain ⟨front, blanks, group, behind, shape, live, blank, isGroup,
      mentions, range⟩ :=
    exists_call_of_mem_formerDeployments (List.getLast_mem present)
  obtain ⟨before, indent, lineBreak, after, rfl, rfl, indentBlank,
      indentReaches, shortBreak, widened⟩ :=
    withLine?_append front (formerKeyword ++ (blanks ++ group)) behind
  rw [range] at lastFound
  have callShape :
      text =
        (before ++ indent) ++
          ((formerKeyword ++ (blanks ++ group)) ++ (lineBreak ++ after)) := by
    simp only [shape, List.append_assoc]
  have stretchShape :
      text =
        before ++
          ((indent ++ ((formerKeyword ++ (blanks ++ group)) ++ lineBreak)) ++
            after) := by
    simp only [shape, List.append_assoc]
  rw [← callShape, List.append_assoc before indent
    ((formerKeyword ++ (blanks ++ group)) ++ lineBreak)] at widened
  have isExcision :
      excision? text =
        some
          ⟨Text.byteLength before,
            Text.byteLength
              (before ++
                (indent ++
                  ((formerKeyword ++ (blanks ++ group)) ++ lineBreak)))⟩ := by
    rw [excision?, lastFound]
    exact widened
  refine ⟨⟨indent, blanks, group, lineBreak⟩, before, after, stretchShape, ?_,
    ⟨indentBlank, indentReaches, live, blank, isGroup, mentions,
      shortBreak⟩, lastFound⟩
  rw [cleaned, isExcision, Option.bind_some]
  conv_lhs => rw [stretchShape]
  rw [remove?_append, Option.getD_some]

end Provision.Descriptor
