import Parley.Numeral.Whole
import Parley.Text.Blank

/-!
# What a typed line means

A line that starts with a slash is a command; everything else is a message, with the blanks at
its end removed. A command may have an argument, behind the first space.
-/

namespace Parley.Shell

open Numeral

/-- What is to be shown on the canvas. -/
inductive Choice where
  /-- The artifact at a place of the list, counted from one. -/
  | position (n : Nat)
  | id (s : String)
  deriving DecidableEq, Repr

/-- The choice an argument stands for: a place, if it is a number from one on. -/
def Choice.ofText (s : String) : Choice :=
  match whole? .word64 s with
  | some n => if 1 ≤ n then .position n.toNat else .id s
  | none => .id s

/-- A typed line. -/
inductive Line where
  | blank
  | quit
  | message (text : String)
  | retry
  | fresh
  | history
  /-- Load a conversation; nothing if its number cannot be read. -/
  | load (id : Option Int)
  | list
  /-- Show an artifact; the argument as it was typed. -/
  | view (arg : String)
  | back
  | canvas
  | cycle
  | close
  /-- Any other command. -/
  | unknown
  deriving DecidableEq, Repr

/-- The word a command starts with, and its argument. -/
def splitCommand (line : List Char) : String × String :=
  (String.ofList (line.takeWhile (· ≠ ' ')),
    Text.trim (String.ofList ((line.dropWhile (· ≠ ' ')).drop 1)))

/-- The command of a word and an argument. -/
def commandLine (word arg : String) : Line :=
  match word with
  | "/retry" => .retry
  | "/new" => .fresh
  | "/history" => .history
  | "/load" => .load (whole? .int64 arg)
  | "/list" => .list
  | "/open" => .view arg
  | "/back" => .back
  | "/canvas" => .canvas
  | "/cycle" => .cycle
  | "/close" => .close
  | _ => .unknown

/-- What a line means. -/
def Line.ofText (text : String) : Line :=
  let line := Text.trimEndChars text.toList
  if line.isEmpty then .blank
  else if line = "/quit".toList then .quit
  else if line.head? = some '/' then
    let (word, arg) := splitCommand line
    commandLine word arg
  else .message (String.ofList line)

end Parley.Shell
