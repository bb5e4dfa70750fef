import Parley.Settings.Environment
import Parley.Text.Ascii
import Parley.Text.Blank
import Parley.Text.Mark

/-!
# Settings in a file

A file of settings holds assignments `NAME=value`, one on a line, with `export` in front of
them or not. What stands behind `#` at the start of a line or behind a blank is a comment. A
value may be quoted as a whole or in part: nothing but the closing quote counts inside of
single quotes, while everywhere else `$NAME`, or the same with the name in braces, stands for
a variable, and a backslash takes away the meaning of the character behind it. A quoted value
may run over the end of its line.

A file is read from its start and changes the environment line by line, so a value can refer
to a line above it. A variable that has a value already keeps it. The first line that is no
assignment ends the reading; what stands above it has been taken in.
-/

namespace Parley.Dotenv

open Text

/-! ### Lines -/

/-- Where one is in a line that is being looked through for its end. -/
inductive Scan where
  | plain
  | escaped
  | single
  | singleEscaped
  | double
  | doubleEscaped
  /-- Behind a blank that is not quoted, where a comment may start. -/
  | blank
  deriving DecidableEq, Repr

/-- What follows a character outside of quotes. -/
def Scan.enter (c : Char) : Scan :=
  if c = '\\' then .escaped else if c = '"' then .double else if c = '\'' then .single
  else .plain

/-- What follows a character, unless a comment starts with it. -/
def Scan.next (c : Char) : Scan → Option Scan
  | .blank => if c = '#' then none else some (enter c)
  | .plain => if isBlank c && c ≠ '\n' && c ≠ '\r' then some .blank else some (enter c)
  | .escaped => some .plain
  | .double => some (if c = '\\' then .doubleEscaped else if c = '"' then .plain else .double)
  | .doubleEscaped => some .double
  | .single => some (if c = '\\' then .singleEscaped else if c = '\'' then .plain else .single)
  | .singleEscaped => some .single

/-- Looks through a line: what stands before a comment, if there is one, or else where one is
at its end. -/
def scanLine : Scan → List Char → List Char ⊕ Scan
  | s, [] => .inr s
  | s, c :: cs =>
    match s.next c with
    | none => .inl []
    | some s =>
      match scanLine s cs with
      | .inl before => .inl (c :: before)
      | .inr s => .inr s

/-- The lines of a text, each with the line break at its end. -/
def brokenLines : List Char → List (List Char)
  | [] => []
  | c :: cs =>
    if c = '\n' then [c] :: brokenLines cs
    else match brokenLines cs with
      | [] => [[c]]
      | l :: ls => (c :: l) :: ls

/-- A line without the line break at its end. -/
def withoutBreak (l : List Char) : List Char :=
  match l.reverse with
  | '\n' :: '\r' :: r => r.reverse
  | '\n' :: r => r.reverse
  | _ => l

/-- The lines that belong together are joined; one that is still open at the end of the text
is nothing. `before` is what a line continues, and where one is at its end. -/
def logicalLines : Scan → List Char → List (List Char) → List (Option (List Char))
  | .plain, _, [] => []
  | _, _, [] => [none]
  | s, before, l :: ls =>
    let whole := before ++ l
    if (trimStartChars whole).head? = some '#' then some [] :: logicalLines .plain [] ls
    else match scanLine s l with
      | .inl kept => some (before ++ kept) :: logicalLines .plain [] ls
      | .inr .plain => some (withoutBreak whole) :: logicalLines .plain [] ls
      | .inr s => logicalLines s whole ls

/-! ### Values -/

/-- The reading of a variable's name inside of a value. -/
inductive Reference where
  | none
  /-- Behind `$`; the name read so far, its last character first. -/
  | bare (name : List Char)
  /-- Behind `$` and a brace. -/
  | braced (name : List Char)
  deriving DecidableEq, Repr

/-- Where one is in a value. -/
structure Progress where
  single : Bool := false
  double : Bool := false
  escaped : Bool := false
  /-- Behind a blank that is not quoted: only a comment may follow. -/
  ended : Bool := false
  reference : Reference := .none
  /-- The value so far, its last character first. -/
  value : List Char := []
  deriving Repr

/-- Appends a character to the value. -/
def Progress.push (p : Progress) (c : Char) : Progress := { p with value := c :: p.value }

/-- Appends the value of a variable to the value. -/
def Progress.expand (env : Environment) (p : Progress) (name : List Char) : Progress :=
  let text := (env.get? (String.ofList name.reverse)).getD ""
  { p with value := text.toList.reverse ++ p.value, reference := .none }

/-- A letter or a digit of any script. -/
def isNameChar (c : Char) : Bool :=
  isLetterOrDigit c || (0x80 ≤ c.toNat && !isBlank c && !isMark c)

/-- The characters that a backslash may stand before. -/
def escapable : List Char := ['\\', '\'', '"', '$', ' ']

/-- Takes in one character of a value; nothing if it cannot stand there. A comment ends the
value. -/
def Progress.step (env : Environment) (p : Progress) (c : Char) : Option (Progress × Bool) :=
  if p.ended then
    if c = ' ' || c = '\t' then some (p, true) else if c = '#' then some (p, false) else none
  else if p.escaped then
    if escapable.contains c then some ({ p with escaped := false }.push c, true)
    else if c = 'n' then some ({ p with escaped := false }.push '\n', true)
    else none
  else if p.single then
    some (if c = '\'' then { p with single := false } else p.push c, true)
  else
    match p.reference with
    | .bare name =>
      if isNameChar c then some ({ p with reference := .bare (c :: name) }, true)
      else if c = '\x7b' && name.isEmpty then some ({ p with reference := .braced [] }, true)
      else
        let p := p.expand env name
        some (if c = '$' then { p with reference := .bare [] } else p.push c, true)
    | .braced name =>
      some (if c = '\x7d' then p.expand env name
        else { p with reference := .braced (c :: name) }, true)
    | .none =>
      some (if c = '$' then { p with reference := .bare [] }
        else if c = '\\' then { p with escaped := true }
        else if p.double then
          if c = '"' then { p with double := false } else p.push c
        else if c = '\'' then { p with single := true }
        else if c = '"' then { p with double := true }
        else if c = ' ' || c = '\t' then { p with ended := true }
        else p.push c, true)

/-- Takes in the characters of a value up to its end or a comment. -/
def Progress.steps (env : Environment) : Progress → List Char → Option Progress
  | p, [] => some p
  | p, c :: cs =>
    match p.step env c with
    | none => none
    | some (p, false) => some p
    | some (p, true) => steps env p cs

/-- Reads a value. -/
def readValue (env : Environment) (cs : List Char) : Option String := do
  let p ← Progress.steps env {} cs
  if p.single || p.double then none
  else
    match p.reference with
    | .braced _ => none
    | .bare name => some (String.ofList (p.expand env name).value.reverse)
    | .none => some (String.ofList p.value.reverse)

/-! ### Assignments -/

/-- A character that a name may go on with. -/
def continuesName (c : Char) : Bool := isLetterOrDigit c || c = '_' || c = '.'

/-- Reads a name: what it is and what stands behind it and the blanks after it. -/
def readName (cs : List Char) : Option (List Char × List Char) :=
  match cs with
  | c :: _ =>
    if isLetter c || c = '_' then
      some (cs.takeWhile continuesName, trimStartChars (cs.dropWhile continuesName))
    else none
  | [] => none

/-- Steps over an equals sign. -/
def afterEquals : List Char → Option (List Char)
  | '=' :: cs => some cs
  | _ => none

/-- Reads a name and an equals sign; `export` may stand in front of the name, or be it. -/
def readTarget (cs : List Char) : Option (List Char × List Char) := do
  let (name, rest) ← readName cs
  if name = "export".toList then
    match afterEquals rest with
    | some value => some (name, value)
    | none => do
      let (name, rest) ← readName rest
      return (name, ← afterEquals rest)
  else return (name, ← afterEquals rest)

/-- Takes in a line; nothing if it is neither an assignment nor empty. -/
def assign (env : Environment) (line : List Char) : Option Environment := do
  let cs := trimChars line
  if cs.isEmpty || cs.head? = some '#' then return env
  else
    let (name, rest) ← readTarget cs
    let rest := trimStartChars rest
    let value ← if rest.isEmpty || rest.head? = some '#' then some "" else readValue env rest
    return env.insertNew (String.ofList name) value

/-- Takes in lines up to the first that is no assignment. -/
def assignAll (env : Environment) : List (Option (List Char)) → Environment
  | some l :: ls =>
    match assign env l with
    | some env => assignAll env ls
    | none => env
  | _ => env

/-- Takes in a file of settings. -/
def load (env : Environment) (text : String) : Environment :=
  let cs := match text.toList with
    | '\uFEFF' :: cs => cs
    | cs => cs
  assignAll env (logicalLines .plain [] (brokenLines cs))

end Parley.Dotenv
