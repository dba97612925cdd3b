import Provision.Yaml.Token
import Provision.Yaml.Token.Scalar

namespace Provision.Yaml

/-!
# Finding tokens

Tokens are found from left to right. A block starts where a line is indented
deeper than the block around it, and ends where a line is indented less. A
scalar may turn out to be the key of a mapping only when a colon follows it; so
places where a key is possible are remembered until then.
-/

/-- A token that may be the first one of a key. -/
structure PossibleKey where
  /-- Whether the text has an error if it is no key. -/
  required : Bool
  /-- How many tokens come before it. -/
  position : Nat
  index : Nat
  line : Nat
  column : Nat
  deriving Repr, DecidableEq

/-- Tokens found so far, and what decides about the next one. -/
structure Scanner where
  cursor : Cursor
  tokens : List Token := []
  /-- Columns of the open blocks, innermost first. -/
  blocks : List Nat := []
  /-- The possible key outside of all brackets. -/
  key : Option PossibleKey := none
  /-- The possible keys inside the open brackets, innermost first. -/
  flowKeys : List (Option PossibleKey) := []
  /-- Whether a key may start at the next token. -/
  keyAllowed : Bool := true
  deriving Repr, DecidableEq

namespace Scanner

/-- Whether a bracket is open. -/
def inFlow (scanner : Scanner) : Bool :=
  !scanner.flowKeys.isEmpty

/-- The column of the innermost block. -/
def indent (scanner : Scanner) : Option Nat :=
  scanner.blocks.head?

/-- The least column of what stands inside the innermost block. -/
def innerColumn (scanner : Scanner) : Nat :=
  (scanner.indent.map (· + 1)).getD 0

/-- The scanner with one more token. -/
def emit (scanner : Scanner) (token : Token) : Scanner :=
  { scanner with tokens := scanner.tokens ++ [token] }

/-- The scanner with one more token of some characters. -/
def emitSkipping (scanner : Scanner) (token : Token) (width : Nat) : Scanner :=
  { scanner.emit token with cursor := scanner.cursor.skip width }

/-- The possible key of the innermost bracket. -/
def currentKey (scanner : Scanner) : Option PossibleKey :=
  match scanner.flowKeys with
  | key :: _ => key
  | [] => scanner.key

/-- The scanner with another possible key in the innermost bracket. -/
def setKey (scanner : Scanner) (key : Option PossibleKey) : Scanner :=
  match scanner.flowKeys with
  | _ :: rest => { scanner with flowKeys := key :: rest }
  | [] => { scanner with key := key }

/-- Whether a key may start at the next token. -/
def allowKey (scanner : Scanner) (allowed : Bool) : Scanner :=
  { scanner with keyAllowed := allowed }

/-- Give up the possible key; it is an error if the key was required. -/
def dropKey (scanner : Scanner) : Option Scanner :=
  if scanner.currentKey.any (·.required) then none else some (scanner.setKey none)

/-- Remember that a key may start at the next token. -/
def saveKey (scanner : Scanner) : Option Scanner :=
  if scanner.keyAllowed then do
    let scanner ← scanner.dropKey
    let cursor := scanner.cursor
    return scanner.setKey (some {
      required := !scanner.inFlow && scanner.indent == some cursor.column
      position := scanner.tokens.length
      index := cursor.index
      line := cursor.line
      column := cursor.column })
  else
    some scanner

/-- How many characters a key has at most. -/
def keyLimit : Nat := 1024

/-- Whether a possible key is too long, or on another line than the cursor. -/
def isStale (cursor : Cursor) (key : PossibleKey) : Bool :=
  key.line < cursor.line || key.index + keyLimit < cursor.index

/-- A possible key, unless it is stale; it is an error if a stale key was required. -/
def refreshKey (cursor : Cursor) (key : Option PossibleKey) : Option (Option PossibleKey) :=
  match key with
  | none => some none
  | some key =>
      if isStale cursor key then
        if key.required then none else some none
      else
        some (some key)

/-- Give up the possible keys that are stale. -/
def refreshKeys (scanner : Scanner) : Option Scanner := do
  return { scanner with
    key := ← refreshKey scanner.cursor scanner.key
    flowKeys := ← scanner.flowKeys.mapM (refreshKey scanner.cursor) }

/-- Start a block at a column, unless one is open that is as deep. -/
def openBlock (scanner : Scanner) (column position : Nat) (start : Token) : Scanner :=
  if scanner.inFlow || column < scanner.innerColumn then
    scanner
  else
    { scanner with
      blocks := column :: scanner.blocks
      tokens := scanner.tokens.insertIdx position start }

/-- Close the blocks that are deeper than a column. -/
def closeBlocks (scanner : Scanner) (column : Nat) : Scanner :=
  if scanner.inFlow then
    scanner
  else
    let deeper := scanner.blocks.takeWhile (column < ·)
    { scanner with
      blocks := scanner.blocks.drop deeper.length
      tokens := scanner.tokens ++ deeper.map fun _ => .blockEnd }

/-- Close every block. -/
def closeAllBlocks (scanner : Scanner) : Scanner :=
  if scanner.inFlow then
    scanner
  else
    { scanner with
      blocks := []
      tokens := scanner.tokens ++ scanner.blocks.map fun _ => .blockEnd }

/-- A mark that may stand at the start of a line between tokens. -/
def byteOrderMark : Char := '\uFEFF'

/-- Move over blanks, comments and line breaks. -/
def skipGapFrom : (fuel : Nat) → Scanner → Scanner
  | 0, scanner => scanner
  | fuel + 1, scanner =>
      let cursor := scanner.cursor
      let cursor :=
        if cursor.column == 0 && cursor.isAt byteOrderMark then cursor.skip 1 else cursor
      let tabs := scanner.inFlow || !scanner.keyAllowed
      let cursor := cursor.skipWhile fun c => c == ' ' || (tabs && c == '\t')
      let cursor := if cursor.isAt '#' then cursor.skipToBreak else cursor
      if cursor.next.any isBreak then
        skipGapFrom fuel { scanner with
          cursor := cursor.skipBreak
          keyAllowed := scanner.keyAllowed || !scanner.inFlow }
      else
        { scanner with cursor := cursor }

/-- Move to the next token. -/
def skipGap (scanner : Scanner) : Scanner :=
  skipGapFrom (scanner.cursor.rest.length + 1) scanner

/-- A number of a version. -/
def readNumber (cursor : Cursor) : Option (Nat × Cursor) :=
  let (digits, cursor) := cursor.takeWhile Char.isDigit
  if digits.isEmpty || 9 < digits.length then
    none
  else
    some (digits.foldl (fun value digit => value * 10 + (digit.toNat - '0'.toNat)) 0, cursor)

/-- A handle of tags: a name between exclamation marks, or one or two of them. -/
def readHandle (inDirective : Bool) (cursor : Cursor) : Option (Text × Cursor) :=
  if cursor.isAt '!' then
    let (name, cursor) := (cursor.skip 1).takeWhile isNameChar
    if cursor.isAt '!' then
      some ('!' :: name ++ ['!'], cursor.skip 1)
    else if inDirective && !name.isEmpty then
      none
    else
      some ('!' :: name, cursor)
  else
    none

/-- Characters of tags. -/
def isTagChar (verbatim : Bool) (c : Char) : Bool :=
  isNameChar c || ";/?:@&=+$.!~*'()%".toList.contains c ||
    (verbatim && [',', '[', ']'].contains c)

/--
How many more bytes follow an escaped byte in its character. Only the leading
bits of the bytes are looked at, so they need not make up a character.
-/
def bytesAfter? (pending byte : Nat) : Option Nat :=
  match pending with
  | 0 =>
      if byte < 0x80 then some 0
      else if byte < 0xC0 then none
      else if byte < 0xE0 then some 1
      else if byte < 0xF0 then some 2
      else if byte < 0xF8 then some 3
      else none
  | pending + 1 => if byte / 0x40 = 2 then some pending else none

/--
The bytes that the characters of a tag stand for. A percent sign and two digits
write one byte; where `pending` bytes of a character are missing, nothing but
escapes may follow.
-/
def tagBytes? : (pending : Nat) → Text → Option Bytes
  | 0, [] => some []
  | _ + 1, [] => none
  | pending, '%' :: high :: low :: rest => do
      let byte := (← Quoted.hexDigit? high) * 16 + (← Quoted.hexDigit? low)
      return UInt8.ofNat byte :: (← tagBytes? (← bytesAfter? pending byte) rest)
  | 0, c :: rest =>
      if c == '%' then none else do return Utf8.encodeChar c ++ (← tagBytes? 0 rest)
  | _ + 1, _ => none

/-- Read the rest of the name of a tag. -/
def readTagRest (verbatim : Bool) (cursor : Cursor) : Option (TagName × Cursor) := do
  let (written, cursor) := cursor.takeWhile (isTagChar verbatim)
  return ((← tagBytes? 0 written).takeWhile (· != 0), cursor)

/-- Read the name of a tag, of which something has to be written. -/
def readTagName (verbatim : Bool) (cursor : Cursor) : Option (TagName × Cursor) :=
  if cursor.next.any (isTagChar verbatim) then readTagRest verbatim cursor else none

/-- Read a tag: handle and suffix. The tag of a lone mark has an empty handle. -/
def readTag (cursor : Cursor) : Option (Token × Cursor) :=
  if cursor.ahead 1 == some '<' then do
    let (suffix, cursor) ← readTagName true (cursor.skip 2)
    if cursor.isAt '>' then return (.tag [] suffix, cursor.skip 1) else none
  else do
    let (handle, cursor) ← readHandle false cursor
    if 1 < handle.length && handle.getLast? == some '!' then
      let (suffix, cursor) ← readTagName false cursor
      return (.tag handle suffix, cursor)
    else
      let (more, cursor) ← readTagRest false cursor
      let suffix := Utf8.encode (handle.drop 1) ++ more
      if suffix.isEmpty then
        return (.tag [] (Utf8.encode ['!']), cursor)
      else
        return (.tag ['!'] suffix, cursor)

/-- Read the rest of the line of a directive, which may be a comment. -/
def finishDirective (cursor : Cursor) : Option Cursor :=
  let cursor := cursor.skipWhile isBlank
  let cursor := if cursor.isAt '#' then cursor.skipToBreak else cursor
  if isLineOver cursor.next then some cursor.skipBreak else none

/-- Read a directive from its sign on. -/
def readDirective (cursor : Cursor) : Option (Token × Cursor) := do
  let (name, cursor) := (cursor.skip 1).takeWhile isNameChar
  if !isGapNext cursor.next then
    none
  let cursor := cursor.skipWhile isBlank
  if name == "YAML".toList then
    let (major, cursor) ← readNumber cursor
    if !cursor.isAt '.' then
      none
    let (minor, cursor) ← readNumber (cursor.skip 1)
    return (.versionDirective major minor, ← finishDirective cursor)
  else if name == "TAG".toList then
    let (handle, cursor) ← readHandle true cursor
    if !cursor.next.any isBlank then
      none
    let (expansion, cursor) ← readTagName true (cursor.skipWhile isBlank)
    if !isGapNext cursor.next then
      none
    return (.tagDirective handle expansion, ← finishDirective cursor)
  else
    none

/-- Read a directive; it ends every block. -/
def scanDirective (scanner : Scanner) : Option Scanner := do
  let scanner ← scanner.closeAllBlocks.dropKey
  let (token, cursor) ← readDirective scanner.cursor
  return { (scanner.allowKey false).emit token with cursor := cursor }

/-- Read a mark between documents; it ends every block. -/
def scanDocumentMark (scanner : Scanner) (token : Token) : Option Scanner := do
  let scanner ← scanner.closeAllBlocks.dropKey
  return (scanner.allowKey false).emitSkipping token 3

/-- Read an opening bracket. -/
def scanFlowStart (scanner : Scanner) (token : Token) : Option Scanner := do
  let scanner ← scanner.saveKey
  let scanner := { scanner with flowKeys := none :: scanner.flowKeys }
  return (scanner.allowKey true).emitSkipping token 1

/-- Read a closing bracket. -/
def scanFlowEnd (scanner : Scanner) (token : Token) : Option Scanner := do
  let scanner ← scanner.dropKey
  let scanner := { scanner with flowKeys := scanner.flowKeys.drop 1 }
  return (scanner.allowKey false).emitSkipping token 1

/-- Read a comma. -/
def scanFlowEntry (scanner : Scanner) : Option Scanner := do
  let scanner ← scanner.dropKey
  return (scanner.allowKey true).emitSkipping .flowEntry 1

/-- Start a block at the cursor, where one can start. -/
def openBlockHere (scanner : Scanner) (start : Token) : Option Scanner :=
  if scanner.inFlow then
    some scanner
  else if scanner.keyAllowed then
    some (scanner.openBlock scanner.cursor.column scanner.tokens.length start)
  else
    none

/-- Read the dash of an entry. -/
def scanBlockEntry (scanner : Scanner) : Option Scanner := do
  let scanner ← (← scanner.openBlockHere .blockSequenceStart).dropKey
  return (scanner.allowKey true).emitSkipping .blockEntry 1

/-- Read the question mark of a key. -/
def scanKey (scanner : Scanner) : Option Scanner := do
  let scanner ← (← scanner.openBlockHere .blockMappingStart).dropKey
  return (scanner.allowKey !scanner.inFlow).emitSkipping .key 1

/-- Read the colon of a value; a possible key before it is one now. -/
def scanValue (scanner : Scanner) : Option Scanner :=
  match scanner.currentKey with
  | some key => do
      let scanner := { scanner with tokens := scanner.tokens.insertIdx key.position .key }
      let scanner := scanner.openBlock key.column key.position .blockMappingStart
      return ((scanner.setKey none).allowKey false).emitSkipping .value 1
  | none => do
      let scanner ← scanner.openBlockHere .blockMappingStart
      return (scanner.allowKey !scanner.inFlow).emitSkipping .value 1

/-- Read a name behind a sign. Only some characters may follow it. -/
def scanName (scanner : Scanner) (token : Text → Token) : Option Scanner := do
  let scanner ← scanner.saveKey
  let (name, cursor) := (scanner.cursor.skip 1).takeWhile isNameChar
  let ends (c : Char) : Bool := ['?', ':', ',', ']', '}', '%', '@', '\u0060'].contains c
  if name.isEmpty || !(isGapNext cursor.next || cursor.next.any ends) then
    none
  return { (scanner.allowKey false).emit (token name) with cursor := cursor }

/-- Read a tag. -/
def scanTag (scanner : Scanner) : Option Scanner := do
  let scanner ← scanner.saveKey
  let (token, cursor) ← readTag scanner.cursor
  if !(isGapNext cursor.next || (scanner.inFlow && cursor.isAt ',')) then
    none
  return { (scanner.allowKey false).emit token with cursor := cursor }

/-- Read a block scalar. -/
def scanBlockScalar (scanner : Scanner) (literal : Bool) : Option Scanner := do
  let scanner ← scanner.dropKey
  let (value, cursor) ← Block.read literal scanner.indent scanner.cursor
  let style := if literal then .literal else .folded
  return { (scanner.allowKey true).emit (.scalar ⟨value, style⟩) with cursor := cursor }

/-- Read a quoted scalar. -/
def scanQuoted (scanner : Scanner) (style : Quoted.Style) : Option Scanner := do
  let scanner ← scanner.saveKey
  let (value, cursor) ← Quoted.read style scanner.cursor
  return { (scanner.allowKey false).emit (.scalar ⟨value, .quoted⟩) with cursor := cursor }

/-- Read a plain scalar. A key may follow it on another line. -/
def scanPlain (scanner : Scanner) : Option Scanner := do
  let scanner ← scanner.saveKey
  let (value, broken, cursor) ←
    Plain.read scanner.inFlow scanner.innerColumn scanner.cursor
  return { (scanner.allowKey broken).emit (.scalar ⟨value, .plain⟩) with cursor := cursor }

/-- Whether a plain scalar can start with a character, given the next one. -/
def startsPlain (inFlow : Bool) (c : Char) (next : Option Char) : Bool :=
  if c == '-' then
    !next.any isBlank
  else if c == '?' || c == ':' then
    !inFlow && !isGapNext next
  else
    !(isBlank c || isBreak c || ",[]\x7b\x7d#&*!|>'\"%@\x60".toList.contains c)

/-- Read the token that starts with a character. -/
def scanToken (scanner : Scanner) (c : Char) : Option Scanner :=
  let cursor := scanner.cursor
  let gapFollows := isGapNext (cursor.ahead 1)
  if cursor.column == 0 && c == '%' then scanner.scanDirective
  else if cursor.isAtMark Cursor.startMark then scanner.scanDocumentMark .documentStart
  else if cursor.isAtMark Cursor.endMark then scanner.scanDocumentMark .documentEnd
  else if c == '[' then scanner.scanFlowStart .flowSequenceStart
  else if c == '{' then scanner.scanFlowStart .flowMappingStart
  else if c == ']' then scanner.scanFlowEnd .flowSequenceEnd
  else if c == '}' then scanner.scanFlowEnd .flowMappingEnd
  else if c == ',' then scanner.scanFlowEntry
  else if c == '-' && gapFollows then scanner.scanBlockEntry
  else if c == '?' && (scanner.inFlow || gapFollows) then scanner.scanKey
  else if c == ':' && (scanner.inFlow || gapFollows) then scanner.scanValue
  else if c == '*' then scanner.scanName .reference
  else if c == '&' then scanner.scanName .anchor
  else if c == '!' then scanner.scanTag
  else if c == '|' && !scanner.inFlow then scanner.scanBlockScalar true
  else if c == '>' && !scanner.inFlow then scanner.scanBlockScalar false
  else if c == '\'' then scanner.scanQuoted .single
  else if c == '"' then scanner.scanQuoted .double
  else if startsPlain scanner.inFlow c (cursor.ahead 1) then scanner.scanPlain
  else none

/-- End the last line, and with it every block. -/
def finish (scanner : Scanner) : Option (List Token) := do
  return (← scanner.closeAllBlocks.dropKey).tokens

/-- Read tokens to the end of the text. -/
def run : (fuel : Nat) → Scanner → Option (List Token)
  | 0, _ => none
  | fuel + 1, scanner => do
      let scanner ← scanner.skipGap.refreshKeys
      match scanner.cursor.next with
      | none => scanner.finish
      | some c => run fuel (← (scanner.closeBlocks scanner.cursor.column).scanToken c)

end Scanner

/-- The tokens of a text, if it has a reading. -/
def tokens? (text : Text) : Option (List Token) :=
  if text.all isAllowed then
    Scanner.run (text.length + 1) { cursor := { rest := text } }
  else
    none

end Provision.Yaml
