/-
  Yaml/Printer.lean --- the text of YAML values in block form.

  WHAT THIS FILE IS FOR.  A message shows a configuration entry as it would be written.
  A string is quoted where it could be taken for something else; one with line breaks
  is written line by line.
-/
import RouteAudit.Text.Blank
import RouteAudit.Text.Split
import RouteAudit.Yaml.Scalar
import RouteAudit.Yaml.Text

set_option autoImplicit false

namespace RouteAudit.Yaml

/-! ## Strings -/

/-- Whether a character can be written as it is. -/
def isPrintable (c : Char) : Bool :=
  c == '\n' || ' ' ≤ c && c ≤ '~' ||
    '\u00a0' ≤ c && c.toNat ≤ 0xFFFF && c ∉ ['\ufeff', '\ufffe', '\uffff']

/-- Whether the word alone would be read as something else than a string, or as a number
by a reader that allows spare zeros. -/
def isAmbiguous (word : String) : Bool :=
  let unsigned := match word.toList with
    | '+' :: cs | '-' :: cs => cs
    | cs => cs
  hasSpareZero unsigned ||
    match ofWord word with
    | .ok (.string _) => false
    | _ => true

/-- Whether a colon before a blank, or a number sign behind one, occurs among
characters; `before` is the character in front of them. -/
def hasSign (before : Char) : List Char → Bool
  | [] => false
  | c :: rest =>
    c == ':' && endsWord rest.head? || c == '#' && endsWord (some before) || hasSign c rest

/-- Whether the characters could be taken for more than a scalar without quotes. -/
def needsQuotes (cs : List Char) : Bool :=
  let k : Cursor := ⟨cs, 1, 0⟩
  !k.startsPlain false || [['-', '-', '-'], ['.', '.', '.']].contains (cs.take 3) ||
    cs.head? == some ' ' || cs.getLast? == some ' ' || hasSign 'x' cs

/-- The escape of a character in double quotes. -/
def escapeChar (c : Char) : List Char :=
  match escapeLetters.find? fun entry => entry.2 = c && entry.1 ≠ '\t' && entry.1 ≠ '/' with
  | some (letter, _) => if isPrintable c && c ≠ '"' && c ≠ '\\' && c ≠ '\n' then [c] else ['\\', letter]
  | none =>
    if isPrintable c then [c]
    else
      let digits (width : Nat) :=
        (List.range width).reverse.map fun i => (Text.hexDigit ((c.toNat >>> (4 * i)) % 16)).toUpper
      if c.toNat < 0x100 then '\\' :: 'x' :: digits 2
      else if c.toNat < 0x10000 then '\\' :: 'u' :: digits 4
      else '\\' :: 'U' :: digits 8

/-- A string in double quotes. -/
def doubleQuoted (cs : List Char) : String :=
  String.ofList ('"' :: cs.flatMap escapeChar ++ ['"'])

/-- A string in single quotes. -/
def singleQuoted (cs : List Char) : String :=
  String.ofList ('\'' :: cs.flatMap (fun c => if c = '\'' then ['\'', '\''] else [c]) ++ ['\''])

/-- Whether a blank stands at the end or before a line break. -/
def hasTrailingBlank : List Char → Bool
  | [] => false
  | [c] => c == ' '
  | ' ' :: '\n' :: _ => true
  | _ :: rest => hasTrailingBlank rest

/-- The first line of a string that is written line by line: how the breaks at its end
count, and the depth of the lines where it cannot be seen. -/
def literalHead (cs : List Char) : String :=
  let depth := if cs.head? = some ' ' ∨ cs.head? = some '\n' then "2" else ""
  let ending := match cs.reverse with
    | '\n' :: c :: _ => if c = '\n' then "+" else ""
    | '\n' :: [] => "+"
    | _ => "-"
  "|" ++ depth ++ ending

/-- The lines of a string; all but the first one belong further right. -/
def stringLines (s : String) : List String :=
  let cs := s.toList
  if !cs.all isPrintable then [doubleQuoted cs]
  else if cs.contains '\n' then
    if hasTrailingBlank cs then [doubleQuoted cs]
    else
      let body := if cs.getLast? = some '\n' then cs.dropLast else cs
      literalHead cs :: (Text.splitAll '\n' body).map String.ofList
  else if isAmbiguous s || needsQuotes cs then [singleQuoted cs]
  else [s]

/-! ## Values -/

/-- A line further right, unless it is empty. -/
def shiftLine (line : String) : String := if line.isEmpty then line else "  " ++ line

/-- Lines behind a mark that takes two columns. -/
def behind (mark : String) : List String → List String
  | [] => [mark]
  | first :: rest => (mark ++ first) :: rest.map shiftLine

/-- The greatest size of a key that stands before its colon, in bytes. -/
def maxKeySize : Nat := 128

/-- The key of an entry, if it fits before its colon. -/
def simpleKey? (key : Yaml) (lines : List String) : Option String :=
  match key, lines with
  | .list (_ :: _), _ | .map (_ :: _), _ => none
  | .string s, [line] => if s.utf8ByteSize ≤ maxKeySize then some line else none
  | _, [line] => some line
  | _, _ => none

mutual

/-- The lines of a value. -/
def lines : Yaml → List String
  | .null => ["null"]
  | .bool b => [if b then "true" else "false"]
  | .int n => [toString n]
  | .float x => [floatText x]
  | .string s => stringLines s
  | .list [] => ["[]"]
  | .list (item :: rest) => itemLines (item :: rest)
  | .map [] => ["\x7b\x7d"]
  | .map (entry :: rest) => entryLines (entry :: rest)

/-- The lines of the items of a list. -/
def itemLines : List Yaml → List String
  | [] => []
  | item :: rest => behind "- " item.lines ++ itemLines rest

/-- The lines of the entries of a mapping.  Lists stand at the column of their keys,
mappings further right. -/
def entryLines : List (Yaml × Yaml) → List String
  | [] => []
  | (key, value) :: rest =>
    let written :=
      match simpleKey? key key.lines, value with
      | some word, .list (_ :: _) => (word ++ ":") :: value.lines
      | some word, .map (_ :: _) => (word ++ ":") :: value.lines.map shiftLine
      | some word, _ => behind (word ++ ": ") value.lines
      | none, _ => behind "? " key.lines ++ behind ": " value.lines
    written ++ entryLines rest

end

/-- A value as it would be written; a string stands for itself. -/
def text : Yaml → String
  | .string s => s
  | value => Text.trim ("\n".intercalate value.lines)

end RouteAudit.Yaml
