/-!
# Text for a terminal

What a terminal shows of a text, and what it takes as a control: single control characters, escape
sequences, and strings of commands (ECMA-48). Where text does not go to a terminal the controls are
taken out of it.
-/

namespace ServerOperator.Text.Terminal

/-- Where in a control a terminal is. -/
inductive Mode where
  | ground
  | escape
  | escapeIntermediate
  | sequenceEntry
  | sequenceParameter
  | sequenceIntermediate
  | sequenceIgnored
  | deviceEntry
  | deviceParameter
  | deviceIntermediate
  | deviceIgnored
  | deviceString
  | commandString
  /-- A string of another kind, of which nothing is used. -/
  | ignoredString
  deriving DecidableEq, Repr

/-- What becomes of a character: the mode after it, if that changes, and whether it is shown. -/
structure Effect where
  next : Option Mode := none
  shown : Bool := false
  deriving DecidableEq, Repr

def enter (m : Mode) : Effect := { next := some m }

def ignored : Effect := {}

/-- White space that controls the cursor only. -/
def isBlankControl (c : Char) : Bool :=
  c == '\t' || c == '\n' || c == '\x0c' || c == '\r'

/-- The parts of a sequence by the columns of the code table: `0x20` to `0x2f` are intermediate, `0x30` to
`0x3b` parameters, `0x3c` to `0x3f` private ones, and what comes then ends it. -/
def part (c : Char) (intermediate parameter privateUse final : Effect) : Effect :=
  let n := c.toNat
  if n < 0x30 then intermediate
  else if n < 0x3C then parameter
  else if n < 0x40 then privateUse
  else if n < 0x7F then final
  else ignored

/-- The character after an escape tells what kind of control begins. -/
def introduce (c : Char) : Effect :=
  if c == '[' then enter .sequenceEntry
  else if c == ']' then enter .commandString
  else if c == 'P' then enter .deviceEntry
  else if c == 'X' || c == '^' || c == '_' then enter .ignoredString
  else part c (enter .escapeIntermediate) (enter .ground) (enter .ground) (enter .ground)

/-- A printable ASCII character or a delete, in any mode. -/
def onPrintable : Mode → Char → Effect
  | .ground, c => { shown := c ≠ '\x7f' }
  | .escape, c => introduce c
  | .escapeIntermediate, c => part c ignored (enter .ground) (enter .ground) (enter .ground)
  | .sequenceEntry, c =>
    part c (enter .sequenceIntermediate) (enter .sequenceParameter) (enter .sequenceParameter) (enter .ground)
  | .sequenceParameter, c =>
    part c (enter .sequenceIntermediate) ignored (enter .sequenceIgnored) (enter .ground)
  | .sequenceIntermediate, c =>
    part c ignored (enter .sequenceIgnored) (enter .sequenceIgnored) (enter .ground)
  | .sequenceIgnored, c => part c ignored ignored ignored (enter .ground)
  | .deviceEntry, c =>
    part c (enter .deviceIntermediate) (enter .deviceParameter) (enter .deviceParameter) (enter .deviceString)
  | .deviceParameter, c =>
    part c (enter .deviceIntermediate) ignored (enter .deviceIgnored) (enter .deviceString)
  | .deviceIntermediate, c =>
    part c ignored (enter .deviceIgnored) (enter .deviceIgnored) (enter .deviceString)
  | .deviceIgnored, _ | .deviceString, _ | .commandString, _ | .ignoredString, _ => ignored

/-- A control character that is acted upon at once, or is part of a string. -/
def onControl : Mode → Char → Effect
  | .commandString, c => if c == '\x07' then enter .ground else ignored
  | .deviceEntry, _ | .deviceParameter, _ | .deviceIntermediate, _ | .deviceIgnored, _ | .deviceString, _
  | .ignoredString, _ => ignored
  | .ground, c | .escape, c | .escapeIntermediate, c | .sequenceEntry, c | .sequenceParameter, c
  | .sequenceIntermediate, c | .sequenceIgnored, c => { shown := isBlankControl c }

/-- A character of several bytes is shown as a whole. Inside a string the byte `0x9c` is its end, wherever
it comes from. -/
def onWide : Mode → Char → Effect
  | .ground, _ => { next := some .ground, shown := true }
  | .deviceIgnored, c | .deviceString, c | .ignoredString, c =>
    if c.toString.toUTF8.toList.contains 0x9C then enter .ground else ignored
  | .escape, _ | .escapeIntermediate, _ | .sequenceEntry, _ | .sequenceParameter, _
  | .sequenceIntermediate, _ | .sequenceIgnored, _ | .deviceEntry, _ | .deviceParameter, _
  | .deviceIntermediate, _ | .commandString, _ => ignored

/-- Cancel and substitute break a control off, an escape begins one, in every mode. -/
def effect (m : Mode) (c : Char) : Effect :=
  if c == '\x18' || c == '\x1a' then enter .ground
  else if c == '\x1b' then enter .escape
  else if c.toNat < 0x20 then onControl m c
  else if c.toNat < 0x80 then onPrintable m c
  else onWide m c

/-- The characters shown. White space inside a sequence is shown at once; what follows it counts as text up
to the next control, and after that the sequence goes on. -/
def shownFrom (showing : Bool) (m : Mode) : List Char → List Char
  | [] => []
  | c :: cs =>
    let e := effect (if showing then .ground else m) c
    let rest := shownFrom e.shown (e.next.getD m) cs
    if e.shown then c :: rest else rest

/-- The text without its controls. -/
def shown (s : String) : String := String.ofList (shownFrom false .ground s.toList)

/-- The text in a colour of its own, with which the one before is forgotten. -/
def highlighted (s : String) : String := "\x1b[33m" ++ s ++ "\x1b[0m"

end ServerOperator.Text.Terminal
