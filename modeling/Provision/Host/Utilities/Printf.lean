import Provision.Host.Utilities.Numerals

namespace Provision.Utilities

/-!
# Formatted printing

A format is printed once, and again as long as arguments are left. Missing
arguments count as empty. The shells' own printers and the system's know
different escapes and complain in different words.
-/

/-!
## Escapes

A backslash stands in front of signs for characters that are hard to write. Each
program knows some of them; a text may also say that the output ends.
-/

/-- Which escapes a program knows. -/
structure EscapeStyle where
  /-- Octal digits behind the backslash. -/
  octal : Bool := true
  /-- Octal digits behind a zero may be three more. -/
  zeroOctal : Bool := false
  /-- Hexadecimal digits. -/
  hexadecimal : Bool := false
  /-- Code points. -/
  unicode : Bool := false
  /-- The escape character. -/
  escape : Bool := false
  /-- The escape character, written with a capital letter. -/
  capitalEscape : Bool := false
  quotes : Bool := false
  /-- The end of the output. -/
  stops : Bool := false
  deriving Repr, DecidableEq

/-- Signs for control characters. -/
def controlSigns : List (Char × Char) := [
  ('a', '\x07'),
  ('b', '\x08'),
  ('f', '\x0c'),
  ('n', '\n'),
  ('r', '\r'),
  ('t', '\t'),
  ('v', '\x0b'),
  ('\\', '\\')
]

/-- What an escape stands for. -/
inductive Escaped where
  | text (text : Octets)
  | stop
  deriving Repr, DecidableEq

/-- Digits of a base in front of a text, at most so many. -/
def leadingDigits (base count : Nat) (text : Octets) : Octets :=
  (text.takeWhile fun c => (digitValue? base c).isSome).take count

/-- The octet whose number digits write. -/
def octetOf (base : Nat) (digits : Octets) : Octets :=
  [Char.ofNat ((spanDigits base digits).1 % 256)]

/-- Read an escape behind its backslash. -/
def readEscape (style : EscapeStyle) (text : Octets) : Escaped × Octets :=
  match text with
  | [] => (.text ['\\'], [])
  | c :: rest =>
      match controlSigns.lookup c with
      | some control => (.text [control], rest)
      | none =>
          let octal := leadingDigits 8 3 text
          let further := leadingDigits 8 3 rest
          let hexadecimal := leadingDigits 16 2 rest
          let point := leadingDigits 16 (if c == 'u' then 4 else 8) rest
          if style.stops && c == 'c' then
            (.stop, rest)
          else if (style.escape && c == 'e') || (style.capitalEscape && c == 'E') then
            (.text ['\x1b'], rest)
          else if style.quotes && (c == '"' || c == '\'') then
            (.text [c], rest)
          else if style.zeroOctal && c == '0' then
            (.text (octetOf 8 further), rest.drop further.length)
          else if style.octal && !octal.isEmpty then
            (.text (octetOf 8 octal), text.drop octal.length)
          else if style.hexadecimal && c == 'x' && !hexadecimal.isEmpty then
            (.text (octetOf 16 hexadecimal), rest.drop hexadecimal.length)
          else if style.unicode && (c == 'u' || c == 'U') && !point.isEmpty then
            let number := (spanDigits 16 point).1
            let text :=
              if number < 128 then
                [Char.ofNat number]
              else
                '\\' :: c :: (point.map Char.toUpper)
            (.text text, rest.drop point.length)
          else
            (.text ['\\', c], rest)

/-- The text in which escapes are replaced, and whether it says that the output ends. -/
def unescape (style : EscapeStyle) : (fuel : Nat) → Octets → Octets × Bool
  | 0, _ => ([], false)
  | _ + 1, [] => ([], false)
  | fuel + 1, '\\' :: rest =>
      match readEscape style rest with
      | (.stop, _) => ([], true)
      | (.text text, rest) =>
          let (behind, stopped) := unescape style fuel rest
          (text ++ behind, stopped)
  | fuel + 1, c :: rest =>
      let (behind, stopped) := unescape style fuel rest
      (c :: behind, stopped)

/-- Replace the escapes in a text. -/
def unescaped (style : EscapeStyle) (text : Octets) : Octets × Bool :=
  unescape style (text.length + 1) text

/-! ## Printers and formats -/

/-- Who prints. -/
inductive Printer where
  /-- The builtin of the small shell. -/
  | plain
  /-- The builtin of the large shell. -/
  | rich
  /-- The program of the system. -/
  | system
  deriving Repr, DecidableEq

namespace Printer

/-- The escapes in formats. -/
def formatEscapes : Printer → EscapeStyle
  | plain => { escape := true }
  | rich =>
      { escape := true, capitalEscape := true, hexadecimal := true, unicode := true,
        quotes := true }
  | system =>
      { escape := true, hexadecimal := true, unicode := true, quotes := true, stops := true }

/-- The escapes in arguments that have them. -/
def argumentEscapes : Printer → EscapeStyle
  | plain => { escape := true, zeroOctal := true, stops := true }
  | rich =>
      { escape := true, capitalEscape := true, zeroOctal := true, hexadecimal := true,
        unicode := true, stops := true }
  | system =>
      { escape := true, zeroOctal := true, hexadecimal := true, unicode := true, quotes := true,
        stops := true }

/-- How many binary digits numbers with a point have. -/
def fractionDigits : Printer → Nat
  | plain => 53
  | rich | system => 64

/-- Signs in a conversion that tell the size of a number. -/
def sizeSigns : Printer → List Char
  | plain => []
  | rich | system => ['h', 'l', 'L', 'j', 't', 'z']

end Printer

/-- What has been printed so far. -/
structure Printing where
  printer : Printer
  out : Octets := []
  complaints : List Octets := []
  status : Nat := 0
  arguments : List Octets := []
  /-- Whether an argument was used since the format began. -/
  used : Bool := false
  stopped : Bool := false

/-- A conversion in a format. -/
structure Conversion where
  leftAligned : Bool := false
  plus : Bool := false
  blank : Bool := false
  alternative : Bool := false
  zeros : Bool := false
  width : Nat := 0
  precision : Option Nat := none
  deriving Repr, DecidableEq

namespace Conversion

/-- Fill a text with blanks up to the width. -/
def pad (conversion : Conversion) (text : Octets) : Octets :=
  let blanks := List.replicate (conversion.width - text.length) ' '
  if conversion.leftAligned then text ++ blanks else blanks ++ text

/-- Fill a number with blanks or zeros up to the width. -/
def padNumber (conversion : Conversion) (zeros : Bool) (sign digits : Octets) : Octets :=
  if zeros && conversion.zeros && !conversion.leftAligned then
    let missing := conversion.width - sign.length - digits.length
    sign ++ List.replicate missing '0' ++ digits
  else
    conversion.pad (sign ++ digits)

/-- The sign in front of a number. -/
def sign (conversion : Conversion) (negative : Bool) : Octets :=
  if negative then ['-']
  else if conversion.plus then ['+']
  else if conversion.blank then [' ']
  else []

end Conversion

/-- The digits of a number in a base. -/
def digitsIn (base : Nat) (number : Nat) : Octets :=
  Nat.toDigits base number

namespace Printing

/-- Print a text. -/
def put (printing : Printing) (text : Octets) : Printing :=
  { printing with out := printing.out ++ text }

/-- Complain, and remember a status. -/
def complain (printing : Printing) (message : Octets) (status : Nat) : Printing :=
  { printing with
    complaints := printing.complaints ++ [message]
    status := max printing.status status }

/-- Take the next argument. -/
def take (printing : Printing) : Octets × Printing :=
  match printing.arguments with
  | [] => ([], printing)
  | argument :: rest => (argument, { printing with arguments := rest, used := true })

/-- A text between single quotes. -/
def quoted (text : Octets) : Octets :=
  '\'' :: text ++ ['\'']

/-- Complain about an argument that does not begin with a number. -/
def complainNoNumber (printing : Printing) (argument : Octets) : Printing :=
  match printing.printer with
  | .plain => printing.complain (argument ++ ": expected numeric value".toList) 1
  | .rich => printing.complain (argument ++ ": invalid number".toList) 1
  | .system => printing.complain (quoted argument ++ ": expected a numeric value".toList) 1

/-- Complain about what stands behind a number. -/
def complainRest (printing : Printing) (argument : Octets) : Printing :=
  match printing.printer with
  | .plain => printing.complain (argument ++ ": not completely converted".toList) 1
  | .rich =>
      let kind :=
        match argument with
        | '0' :: 'x' :: _ => "hex "
        | '0' :: _ => "octal "
        | _ => ""
      printing.complain (argument ++ (": invalid " ++ kind ++ "number").toList) 1
  | .system =>
      printing.complain (quoted argument ++ ": value not completely converted".toList) 1

/-- Complain about a number that is too large. -/
def complainRange (printing : Printing) (argument : Octets) : Printing :=
  let words := ": Numerical result out of range".toList
  match printing.printer with
  | .plain => printing.complain (argument ++ words) 1
  | .rich => printing.complain ("warning: ".toList ++ argument ++ words) 0
  | .system => printing.complain (quoted argument ++ words) 1

/-- The number of the character behind a quote, if an argument is one. -/
def characterNumber? : Octets → Option Nat
  | '\'' :: c :: _ => some c.toNat
  | '"' :: c :: _ => some c.toNat
  | ['\''] => some 0
  | ['"'] => some 0
  | _ => none

/-- Take a whole number between limits. -/
def takeNumber (printing : Printing) (least greatest : Int) : Int × Printing :=
  let (argument, printing) := printing.take
  match characterNumber? argument with
  | some number =>
      let printing :=
        if printing.printer == .system && argument.length > 2 then
          let rest := argument.drop 2
          printing.complain ("warning: ".toList ++ rest ++
            ": character(s) following character constant have been ignored".toList) 0
        else
          printing
      (number, printing)
  | none =>
      match basedNumeral? argument with
      | none =>
          (0, if argument.isEmpty then printing else printing.complainNoNumber argument)
      | some numeral =>
          let value := numeral.value
          let value := if least == 0 && value < 0 then value + (greatest + 1) else value
          let held := min greatest (max least value)
          let printing :=
            if !numeral.rest.isEmpty then printing.complainRest argument
            else if held != value then printing.complainRange argument
            else printing
          (held, printing)

/-- Take a number with a point. -/
def takeFraction (printing : Printing) : Fraction × Printing :=
  let bits := printing.printer.fractionDigits
  let (argument, printing) := printing.take
  match characterNumber? argument with
  | some number => (Fraction.ofDecimal bits false number 0, printing)
  | none =>
      match spanFraction bits argument with
      | none =>
          let printing := if argument.isEmpty then printing else printing.complainNoNumber argument
          (.finite false 0 0, printing)
      | some (fraction, rest) =>
          (fraction, if rest.isEmpty then printing else printing.complainRest argument)

/-- Print a whole number with a sign. -/
def putSigned (printing : Printing) (conversion : Conversion) : Printing :=
  let (number, printing) := printing.takeNumber (-Int.pow 2 63) (Int.pow 2 63 - 1)
  let digits := digitsIn 10 number.natAbs
  let digits :=
    match conversion.precision with
    | some 0 => if number == 0 then [] else digits
    | some precision => List.replicate (precision - digits.length) '0' ++ digits
    | none => digits
  let sign := conversion.sign (number < 0)
  printing.put (conversion.padNumber conversion.precision.isNone sign digits)

/-- Print a whole number without a sign. -/
def putUnsigned (printing : Printing) (conversion : Conversion) (letter : Char) : Printing :=
  let (number, printing) := printing.takeNumber 0 (Int.pow 2 64 - 1)
  let number := number.toNat
  let digits :=
    match letter with
    | 'o' => digitsIn 8 number
    | 'x' => digitsIn 16 number
    | 'X' => (digitsIn 16 number).map Char.toUpper
    | _ => digitsIn 10 number
  let digits :=
    match conversion.precision with
    | some 0 => if number == 0 then [] else digits
    | some precision => List.replicate (precision - digits.length) '0' ++ digits
    | none => digits
  let front :=
    if !conversion.alternative || number == 0 then []
    else
      match letter with
      | 'o' => if digits.head? == some '0' then [] else ['0']
      | 'x' => ['0', 'x']
      | 'X' => ['0', 'X']
      | _ => []
  printing.put (conversion.padNumber conversion.precision.isNone front digits)

/-- The digits of a fraction in a notation. -/
def fractionText (conversion : Conversion) (letter : Char) (mantissa : Nat) (exponent : Int) :
    Octets :=
  let places := conversion.precision.getD 6
  match letter.toLower with
  | 'f' => Fraction.fixed places conversion.alternative mantissa exponent
  | 'e' =>
      Fraction.scientific places conversion.alternative letter mantissa exponent
  | _ =>
      let power := if letter.isUpper then 'E' else 'e'
      Fraction.general places conversion.alternative power mantissa exponent

/-- A fraction as a conversion writes it. -/
def formatFraction (conversion : Conversion) (letter : Char) (fraction : Fraction) : Octets :=
  let cased (text : String) : Octets :=
    if letter.isUpper then text.toList.map Char.toUpper else text.toList
  match fraction with
  | .finite negative mantissa exponent =>
      conversion.padNumber true (conversion.sign negative)
        (fractionText conversion letter mantissa exponent)
  | .infinite negative => conversion.pad (conversion.sign negative ++ cased "inf")
  | .notANumber => conversion.pad (cased "nan")

/-- A text in which the shell sees nothing special. -/
def protectedText (printer : Printer) (text : Octets) : Octets :=
  let isSafe (c : Char) : Bool :=
    c.isAlphanum || ['_', '-', '.', '/', '+', ':', '@', ',', '%', '='].contains c
  if text.isEmpty then
    ['\'', '\'']
  else if text.all isSafe then
    text
  else
    match printer with
    | .system =>
        if text.contains '\'' && !text.contains '"' then
          '"' :: text ++ ['"']
        else
          quoted (text.flatMap fun c => if c == '\'' then "'\\''".toList else [c])
    | _ =>
        if text.any fun c => c < ' ' || c ≥ '\x7f' then
          let shown (c : Char) : Octets :=
            match c with
            | '\n' => "\\n".toList
            | '\t' => "\\t".toList
            | '\'' => "\\'".toList
            | '\\' => "\\\\".toList
            | c =>
                if c < ' ' || c ≥ '\x7f' then
                  let digits := digitsIn 8 c.toNat
                  '\\' :: List.replicate (3 - digits.length) '0' ++ digits
                else
                  [c]
          "$'".toList ++ text.flatMap shown ++ ['\'']
        else
          text.flatMap fun c => if isSafe c then [c] else ['\\', c]

/-- Carry out a conversion; answers nothing if its letter is unknown. -/
def convert (printing : Printing) (conversion : Conversion) (letter : Char) :
    Option Printing :=
  let cut (text : Octets) : Octets :=
    match conversion.precision with
    | some precision => text.take precision
    | none => text
  match letter with
  | 'd' | 'i' => some (printing.putSigned conversion)
  | 'o' | 'u' | 'x' | 'X' => some (printing.putUnsigned conversion letter)
  | 'e' | 'E' | 'f' | 'F' | 'g' | 'G' =>
      let (fraction, printing) := printing.takeFraction
      some (printing.put (formatFraction conversion letter fraction))
  | 'c' =>
      let (argument, printing) := printing.take
      let text := if argument.isEmpty then ['\x00'] else argument.take 1
      some (printing.put (conversion.pad text))
  | 's' =>
      let (argument, printing) := printing.take
      some (printing.put (conversion.pad (cut argument)))
  | 'b' =>
      let (argument, printing) := printing.take
      let (text, stopped) := unescaped printing.printer.argumentEscapes argument
      some { printing.put (conversion.pad (cut text)) with stopped := stopped }
  | 'q' =>
      if printing.printer == .plain then
        none
      else
        let (argument, printing) := printing.take
        some (printing.put (conversion.pad (protectedText printing.printer argument)))
  | _ => none

/-- Complain about a conversion that is unknown; printing ends. -/
def refuse (printing : Printing) (written : Octets) (letter : Char) : Printing :=
  let printing :=
    match printing.printer with
    | .plain => printing.complain (written ++ ": invalid directive".toList) 2
    | .rich =>
        printing.complain ('\x60' :: letter :: "': invalid format character".toList) 1
    | .system => printing.complain (written ++ ": invalid conversion specification".toList) 1
  { printing with stopped := true }

/-- Complain about a conversion without a letter; printing ends. -/
def refuseEnd (printing : Printing) (written : Octets) : Printing :=
  let printing :=
    match printing.printer with
    | .plain => printing.complain "missing format character".toList 2
    | .rich =>
        printing.complain ('\x60' :: written ++ "': missing format character".toList) 1
    | .system => printing.complain (written ++ ": invalid conversion specification".toList) 1
  { printing with stopped := true }

/-- Take a width or a precision from the arguments. -/
def takeSize (printing : Printing) : Int × Printing :=
  printing.takeNumber (-Int.pow 2 31) (Int.pow 2 31 - 1)

/-- Read the width or the precision of a conversion. -/
def readSize (printing : Printing) (format : Octets) : Option Int × Octets × Printing :=
  match format with
  | '*' :: rest =>
      let (size, printing) := printing.takeSize
      (some size, rest, printing)
  | format =>
      let digits := format.takeWhile Char.isDigit
      let size := if digits.isEmpty then none else some ((spanDigits 10 digits).1 : Int)
      (size, format.drop digits.length, printing)

/-- The flags that stand in a conversion. -/
def readFlags (conversion : Conversion) : Octets → Conversion × Octets
  | [] => (conversion, [])
  | c :: rest =>
      match c with
      | '-' => readFlags { conversion with leftAligned := true } rest
      | '+' => readFlags { conversion with plus := true } rest
      | ' ' => readFlags { conversion with blank := true } rest
      | '#' => readFlags { conversion with alternative := true } rest
      | '0' => readFlags { conversion with zeros := true } rest
      | _ => (conversion, c :: rest)

/-- Print a conversion behind its percent sign. Answers what is left of the format. -/
def putConversion (printing : Printing) (format : Octets) : Printing × Octets :=
  let (conversion, rest) := readFlags {} format
  let (width, rest, printing) := printing.readSize rest
  let conversion :=
    match width with
    | some width =>
        { conversion with
          width := width.natAbs
          leftAligned := conversion.leftAligned || width < 0 }
    | none => conversion
  let (conversion, rest, printing) :=
    match rest with
    | '.' :: rest =>
        let (precision, rest, printing) := printing.readSize rest
        let precision := precision.getD 0
        let precision := if precision < 0 then none else some precision.toNat
        ({ conversion with precision := precision }, rest, printing)
    | rest => (conversion, rest, printing)
  let rest := rest.dropWhile fun c => printing.printer.sizeSigns.contains c
  let written (count : Nat) : Octets := '%' :: format.take (format.length - count)
  match rest with
  | [] => (printing.refuseEnd (written 0), [])
  | letter :: rest =>
      match printing.convert conversion letter with
      | some printing => (printing, rest)
      | none => (printing.refuse (written rest.length) letter, rest)

/-- Print a format once. -/
def putFormat : (fuel : Nat) → Printing → Octets → Printing
  | 0, printing, _ => printing
  | _ + 1, printing, [] => printing
  | fuel + 1, printing, c :: rest =>
      if printing.stopped then
        printing
      else
        match c, rest with
        | '%', '%' :: rest => putFormat fuel (printing.put ['%']) rest
        | '%', rest =>
            let (printing, rest) := printing.putConversion rest
            putFormat fuel printing rest
        | '\\', rest =>
            match readEscape printing.printer.formatEscapes rest with
            | (.stop, _) => { printing with stopped := true }
            | (.text text, rest) => putFormat fuel (printing.put text) rest
        | c, rest => putFormat fuel (printing.put [c]) rest

/-- Print a format as long as arguments are left. -/
def putAll (format : Octets) : (fuel : Nat) → Printing → Printing
  | 0, printing => printing
  | fuel + 1, printing =>
      let printing := putFormat (format.length + 1) { printing with used := false } format
      if printing.stopped || printing.arguments.isEmpty then
        printing
      else if !printing.used then
        match printing.printer, printing.arguments with
        | .system, argument :: _ =>
            printing.complain ("warning: ignoring excess arguments, starting with ".toList ++
              quoted argument) 0
        | _, _ => printing
      else
        putAll format fuel printing

end Printing

/-- Print a format with arguments. -/
def printFormat (printer : Printer) (format : Octets) (arguments : List Octets) : Printing :=
  Printing.putAll format (arguments.length + 1) { printer := printer, arguments := arguments }

end Provision.Utilities
