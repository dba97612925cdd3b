import Provision.Text.Basic

namespace Provision

/-!
# JSON reports

Reports for other programs are written as JSON, one item to a line. Items are
indented by two blanks for every value that they stand in.
-/

/-- A value of a report. -/
inductive Json where
  | text (value : String)
  | list (items : List Json)
  | object (fields : List (String × Json))

namespace Json

/-- The hexadecimal digit of a number below sixteen. -/
def hexDigit (value : Nat) : Char :=
  Char.ofNat (if value < 10 then '0'.toNat + value else 'a'.toNat + (value - 10))

/-- A character as it stands in a quoted text. -/
def escaped (c : Char) : Text :=
  match c with
  | '"' => ['\\', '"']
  | '\\' => ['\\', '\\']
  | '\n' => ['\\', 'n']
  | '\r' => ['\\', 'r']
  | '\t' => ['\\', 't']
  | '\x08' => ['\\', 'b']
  | '\x0c' => ['\\', 'f']
  | c =>
      if c.toNat < 0x20 then
        ['\\', 'u', '0', '0', hexDigit (c.toNat / 16), hexDigit (c.toNat % 16)]
      else
        [c]

/-- A text in quotes. -/
def quoted (value : String) : String :=
  String.ofList ('"' :: (value.toList.flatMap escaped ++ ['"']))

/-- The start of a line at a depth. -/
def newLine (depth : Nat) : String :=
  String.ofList ('\n' :: List.replicate (2 * depth) ' ')

/-- Items between an opening and a closing mark; without items there is one line. -/
def enclosed (depth : Nat) (opening closing : String) : List String → String
  | [] => opening ++ closing
  | first :: rest =>
      let line := newLine (depth + 1)
      opening ++ line ++ String.intercalate ("," ++ line) (first :: rest) ++
        newLine depth ++ closing

mutual

/-- A value that stands at a depth. -/
def shownAt (depth : Nat) : Json → String
  | .text value => quoted value
  | .list items => enclosed depth "[" "]" (shownItems (depth + 1) items)
  | .object fields => enclosed depth "\x7b" "\x7d" (shownFields (depth + 1) fields)

/-- The items of a list. -/
def shownItems (depth : Nat) : List Json → List String
  | [] => []
  | item :: rest => shownAt depth item :: shownItems depth rest

/-- The fields of an object with their names. -/
def shownFields (depth : Nat) : List (String × Json) → List String
  | [] => []
  | (name, value) :: rest =>
      (quoted name ++ ": " ++ shownAt depth value) :: shownFields depth rest

end

/-- The text of a report. -/
def shown (value : Json) : String :=
  shownAt 0 value

/-- A list of texts. -/
def texts (values : List String) : Json :=
  .list (values.map .text)

end Json

end Provision
