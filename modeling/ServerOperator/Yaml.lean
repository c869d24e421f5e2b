import ServerOperator.Json.Printer
import ServerOperator.Text.Blank

/-!
# YAML

Values in the block style of YAML: a member or an item per line, nested lines indented by two spaces,
lists not indented under their name. Texts stand as they are where they read back so, between single
quotes otherwise, and as a literal block if they have several lines.
-/

namespace ServerOperator.Yaml

/-! ## Texts -/

/-- Texts that a reader takes for something else than a text. -/
def reserved : List String :=
  ["null", "Null", "NULL", "~", "true", "True", "TRUE", "false", "False", "FALSE", "y", "Y", "yes", "Yes",
   "YES", "n", "N", "no", "No", "NO", "on", "On", "ON", "off", "Off", "OFF", ".inf", ".Inf", ".INF", "+.inf",
   "+.Inf", "+.INF", "-.inf", "-.Inf", "-.INF", ".nan", ".NaN", ".NAN"]

/-- Whether a text begins like a number. -/
def looksNumeric : List Char → Bool
  | '+' :: c :: _ | '-' :: c :: _ | '.' :: c :: _ => c.isDigit || c == '.'
  | c :: _ => c.isDigit
  | [] => false

/-- Characters that mean something at the start of a text. -/
def isIndicator (c : Char) : Bool :=
  ",[]{}#&*!|>'\"%@`".toList.contains c

/-- Characters that mean something at the start of a text before a blank or the end. -/
def isOpenIndicator (c : Char) : Bool := c == '-' || c == '?' || c == ':'

def startsPlain : List Char → Bool
  | [] => false
  | c :: rest =>
    !isIndicator c && !(isOpenIndicator c && (rest.isEmpty || rest.head? == some ' ')) && c != ' '

/-- A colon before a blank ends a name, and a hash after a blank begins a comment. -/
def continuesPlain : List Char → Bool
  | [] => true
  | [c] => c != ':' && c != ' '
  | ':' :: ' ' :: _ | ' ' :: '#' :: _ => false
  | _ :: rest => continuesPlain rest

def isPlain (s : String) : Bool :=
  let cs := s.toList
  startsPlain cs && continuesPlain cs && !looksNumeric cs && !reserved.contains s

def quoteChar (c : Char) : List Char := if c = '\'' then ['\'', '\''] else [c]

/-- A text of one line. -/
def scalarText (s : String) : String :=
  if isPlain s then s else "'" ++ String.ofList (s.toList.flatMap quoteChar) ++ "'"

/-- The lines of a text, which are divided by line feeds. -/
def linesOf : List Char → List (List Char)
  | [] => [[]]
  | c :: cs =>
    if c = '\n' then [] :: linesOf cs
    else
      match linesOf cs with
      | [] => [[c]]
      | line :: rest => (c :: line) :: rest

/-- How the line feeds at the end of a literal block are kept: none, one, or all. -/
def chomping (s : String) : String :=
  match s.toList.reverse with
  | '\n' :: '\n' :: _ => "|+"
  | '\n' :: _ => "|"
  | _ => "|-"

/-- The lines of a literal block; the line feed at the end is not a line of its own. -/
def literalLines (s : String) : List String :=
  let lines := (linesOf s.toList).map String.ofList
  if chomping s == "|-" then lines else lines.dropLast

/-! ## Values -/

/-- A value after a name or a dash: what stands on the same line, and the lines below it. -/
structure Layout where
  inLine : String
  below : List String

def indented (line : String) : String := if line.isEmpty then line else "  " ++ line

/-- A text takes one line or several. -/
def textLayout (s : String) : Layout :=
  if s.toList.contains '\n' then ⟨chomping s, (literalLines s).map indented⟩ else ⟨scalarText s, []⟩

/-- Put the first of some lines behind a dash and the others below it. -/
def itemLines : List String → List String
  | [] => ["-"]
  | first :: rest => ("- " ++ first) :: rest.map indented

def memberLines (name : String) (v : Layout) : List String :=
  (if v.inLine.isEmpty then scalarText name ++ ":" else scalarText name ++ ": " ++ v.inLine) :: v.below

mutual

/-- The lines of a value that stands on its own. -/
def lines : Json → List String
  | .object (m :: ms) => membersLines (m :: ms)
  | .array (v :: vs) => itemsLines (v :: vs)
  | .object [] => ["{}"]
  | .array [] => ["[]"]
  | .string s => let l := textLayout s; l.inLine :: l.below
  | v => [v.render]

def membersLines : List (String × Json) → List String
  | [] => []
  | (name, v) :: rest => memberLines name (layout v) ++ membersLines rest

def itemsLines : List Json → List String
  | [] => []
  | .string s :: rest => let l := textLayout s; ("- " ++ l.inLine) :: l.below ++ itemsLines rest
  | v :: rest => itemLines (lines v) ++ itemsLines rest

def layout : Json → Layout
  | .object (m :: ms) => ⟨"", (membersLines (m :: ms)).map indented⟩
  | .array (v :: vs) => ⟨"", itemsLines (v :: vs)⟩
  | .object [] => ⟨"{}", []⟩
  | .array [] => ⟨"[]", []⟩
  | .string s => textLayout s
  | v => ⟨v.render, []⟩

end

/-- A document of one value. -/
def render (v : Json) : String := String.join ((lines v).map (· ++ "\n"))

end ServerOperator.Yaml
