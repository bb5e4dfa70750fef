import Parley.Json.Reader
import Parley.Numeral.Whole

/-!
# Reading JSON text as a known kind of thing

A decoder reads the text of one kind of thing directly, so that a text of the wrong shape
is refused at the first place where it goes wrong. Decoders are built from those for
strings, bounded whole numbers, names out of a list and records.

A record may be written as an object or as an array of its fields in the order of their
declaration. In an object unknown keys are skipped without being looked at closely, a key
given twice is refused, and the fields that must be there are asked for in order. In an
array only fields that need not be there may be left out, at the end.
-/

namespace Parley.Json

open Numeral Reading

/-- A decoder, given how many more levels of nesting it may open. -/
abbrev Decoder (α : Type) := Nat → Reading α

/-- Refuses what is ahead because it is not what was expected. -/
def refuseType {α : Type} (expected : String) : Reading α := do
  match ← peek with
  | some 'n' => do
    advance
    word ['u', 'l', 'l']
    failHere (.invalidType .null expected)
  | some 't' => do
    advance
    word ['r', 'u', 'e']
    failHere (.invalidType (.bool true) expected)
  | some 'f' => do
    advance
    word ['a', 'l', 's', 'e']
    failHere (.invalidType (.bool false) expected)
  | some '"' => do
    advance
    let s ← stringTail
    failHere (.invalidType (.string s) expected)
  | some '[' => failHere (.invalidType .sequence expected)
  | some '\x7b' => failHere (.invalidType .map expected)
  | some c =>
    if c = '-' || Text.isDigit c then do
      let n ← number
      failHere (.invalidType (.number n) expected)
    else failNext .expectedValue
  | none => failHere .expectedValue

/-- Fails if nothing but blanks is ahead. -/
def somethingAhead : Reading Unit := do
  match ← peekPastSpace with
  | none => failHere .endInValue
  | some _ => pure ()

/-- A string. -/
def stringAs (expected : String) : Reading String := do
  somethingAhead
  match ← peek with
  | some '"' => do
    advance
    stringTail
  | _ => refuseType expected

/-- A string in which a thing is written; a text that `read` refuses is refused with its
reason. -/
def writtenAs {α : Type} (expected : String) (read : String → Except String α) :
    Decoder α := fun _ => do
  match read (← stringAs expected) with
  | .ok x => pure x
  | .error reason => failHere (.refused reason)

/-- Any string. -/
def text : Decoder String := fun _ => stringAs "a string"

/-- A whole number of a range. -/
def wholeIn (range : Range) (expected : String) : Decoder Int := fun _ => do
  somethingAhead
  match ← peek with
  | some c =>
    if c = '-' || Text.isDigit c then do
      match ← number with
      | .integer i =>
        if range.holds i then pure i
        else failHere (.invalidValue (.number (.integer i)) expected)
      | .real x => failHere (.invalidType (.number (.real x)) expected)
    else refuseType expected
  | none => refuseType expected

/-- A whole number of 64 bits with a sign. -/
def int64 : Decoder Int := wholeIn .int64 "i64"

/-- A whole number of 32 bits without sign. -/
def word32 : Decoder Nat := fun room => do return (← wholeIn .word32 "u32" room).toNat

/-- Any value. -/
def anyValue : Decoder Value := value

/-- `null` for nothing, or a thing. -/
def optional {α : Type} (read : Decoder α) : Decoder (Option α) := fun room => do
  match ← peekPastSpace with
  | some 'n' => do
    advance
    word ['u', 'l', 'l']
    pure none
  | _ => return some (← read room)

/-- A list of things. -/
def listOf {α : Type} (read : Decoder α) : Decoder (List α) := fun room => do
  somethingAhead
  match ← peek with
  | some '[' =>
    match room with
    | 0 => failNext .tooDeep
    | room + 1 => do
      advance
      let xs ← items (read room) (← roundBound) true []
      closeArray
      pure xs
  | _ => refuseType "a sequence"

/-- A name out of a list, as a string or as the only key of an object that holds `null`. -/
def nameOf {α : Type} (known : List (String × α)) : Decoder α := fun room => do
  match ← peekPastSpace with
  | none => failHere .endInValue
  | some '"' => do choose (← stringAs "variant identifier")
  | some '\x7b' =>
    match room with
    | 0 => failNext .tooDeep
    | _ + 1 => do
      advance
      somethingAhead
      let x ← choose (← stringAs "variant identifier")
      colon
      somethingAhead
      match ← peek with
      | some 'n' => do
        advance
        word ['u', 'l', 'l']
      | _ => refuseType "unit"
      match ← peekPastSpace with
      | some '\x7d' => do
        advance
        pure x
      | some _ => failHere .expectedValue
      | none => failHere .endInObject
  | some _ => failNext .expectedValue
where
  /-- The thing a name stands for. -/
  choose (name : String) : Reading α :=
    match known.find? (·.1 == name) with
    | some (_, x) => pure x
    | none => failHere (.unknownVariant name (known.map (·.1)))

/-! ### Skipping -/

/-- Steps over a number without looking at its size; a sign has been passed. -/
def skipNumber : Reading Unit := do
  match ← peek with
  | some '0' => do
    advance
    match ← peek with
    | some d => if Text.isDigit d then failNext .invalidNumber else fraction
    | none => pure ()
  | some d =>
    if Text.isDigit d then do
      let _ ← digitRun
      fraction
    else failNext .invalidNumber
  | none => failHere .invalidNumber
where
  /-- A fraction and an exponent, if they are ahead. -/
  fraction : Reading Unit := do
    match ← peek with
    | some '.' => do
      advance
      let ds ← digitRun
      if ds.isEmpty then failNext .invalidNumber
      else exponent
    | _ => exponent
  /-- An exponent, if it is ahead. -/
  exponent : Reading Unit := do
    match ← peek with
    | some c =>
      if c = 'e' || c = 'E' then do
        advance
        match ← peek with
        | some '+' => advance
        | some '-' => advance
        | _ => pure ()
        let ds ← digitRun
        if ds.isEmpty then failNext .invalidNumber
      else pure ()
    | none => pure ()

/-- What is open around the place reached while a value is skipped. -/
inductive Frame
  | list
  | object
  deriving DecidableEq, Repr

/-- Steps from behind a value, or from behind an opening bracket if `opened`, to the next
value inside the innermost frame that is still open; closing brackets are passed. The result
is nothing if all frames are closed. -/
def skipToNext : Nat → Bool → List Frame → Reading (Option (List Frame))
  | _, _, [] => pure none
  | 0, _, _ => failHere .endInValue
  | fuel + 1, opened, frame :: outer => do
    match ← peekPastSpace with
    | none => failHere (match frame with | .list => .endInList | .object => .endInObject)
    | some c =>
      let closes := c == (match frame with | .list => ']' | .object => '\x7d')
      if closes then do
        advance
        skipToNext fuel false outer
      else if opened then intoFrame frame outer
      else if c = ',' then do
        advance
        intoFrame frame outer
      else failNext (match frame with
        | .list => .expectedCommaOrBracket
        | .object => .expectedCommaOrBrace)
where
  /-- Steps over the key and the colon, if the frame is an object. -/
  intoFrame (frame : Frame) (outer : List Frame) : Reading (Option (List Frame)) := do
    match frame with
    | .list => pure (some (frame :: outer))
    | .object => do
      match ← peekPastSpace with
      | some '"' => do
        advance
        skipStringTail
        colon
        pure (some (frame :: outer))
      | some _ => failNext .keyNotString
      | none => failHere .endInObject

/-- Steps over one value, however deeply nested, inside of the given frames. -/
def skipWithin : Nat → List Frame → Reading Unit
  | 0, _ => failHere .endInValue
  | fuel + 1, frames => do
    let onward (opened : Bool) (frames : List Frame) : Reading Unit := do
      match ← skipToNext (fuel + 1) opened frames with
      | none => pure ()
      | some frames => skipWithin fuel frames
    match ← peekPastSpace with
    | none => failHere .endInValue
    | some 'n' => do
      advance
      word ['u', 'l', 'l']
      onward false frames
    | some 't' => do
      advance
      word ['r', 'u', 'e']
      onward false frames
    | some 'f' => do
      advance
      word ['a', 'l', 's', 'e']
      onward false frames
    | some '"' => do
      advance
      skipStringTail
      onward false frames
    | some '[' => do
      advance
      onward true (.list :: frames)
    | some '\x7b' => do
      advance
      onward true (.object :: frames)
    | some '-' => do
      advance
      skipNumber
      onward false frames
    | some c =>
      if Text.isDigit c then do
        skipNumber
        onward false frames
      else failNext .expectedValue

/-- Steps over one value. -/
def skipValue : Reading Unit := do skipWithin (← roundBound) []

/-! ### Records -/

/-- A field of a record that is being read into a draft of type `σ`. -/
structure Field (σ : Type) where
  /-- The key of the field. -/
  name : String
  /-- The field may be left out. -/
  spare : Bool
  /-- Reads the value of the field into the draft. -/
  read : Nat → σ → Reading σ

/-- How a record is read: its name, its fields in order, an empty draft, and the record made
of a full draft. -/
structure Layout (σ α : Type) where
  name : String
  fields : List (Field σ)
  draft : σ
  finish : σ → Option α

namespace Layout

variable {σ α : Type} (layout : Layout σ α)

/-- What an array of the wrong length should have been. -/
def lengthText : String :=
  "struct " ++ layout.name ++ " with " ++ String.ofList (Text.decimal layout.fields.length) ++
    (if layout.fields.length = 1 then " element" else " elements")

/-- Reads the fields of an object until its end; `seen` are the keys met so far. -/
def readFields (room : Nat) : Nat → Bool → List String → σ → Reading (σ × List String)
  | 0, _, _, _ => failHere .endInObject
  | fuel + 1, first, seen, draft => do
    if ← nextKey first then do
      let k ← key
      match layout.fields.find? (·.name == k) with
      | some field =>
        if seen.contains k then
          failAt (.duplicateField k) (← placeAfterClosing closeObject)
        else do
          colon
          let draft ← field.read room draft
          readFields room fuel false (k :: seen) draft
      | none => do
        colon
        skipValue
        readFields room fuel false seen draft
    else pure (draft, seen)

/-- Reads the items of an array as the fields in order; `index` is the number read. -/
def readItems (room : Nat) : List (Field σ) → Nat → σ → Reading σ
  | [], _, draft => pure draft
  | field :: more, index, draft => do
    if ← nextItem (index = 0) then do
      let draft ← field.read room draft
      readItems room more (index + 1) draft
    else if field.spare then readItems room more index draft
    else failAt (.invalidLength index layout.lengthText) (← placeAfterClosing closeArray)

/-- The record of a draft. -/
def complete (draft : σ) : Reading α :=
  match layout.finish draft with
  | some x => pure x
  | none => failHere .endInObject

/-- Reads a record. -/
def decoder : Decoder α := fun room => do
  somethingAhead
  match ← peek with
  | some '[' =>
    match room with
    | 0 => failNext .tooDeep
    | room + 1 => do
      advance
      let draft ← layout.readItems room layout.fields 0 layout.draft
      closeArray
      layout.complete draft
  | some '\x7b' =>
    match room with
    | 0 => failNext .tooDeep
    | room + 1 => do
      advance
      let (draft, seen) ← layout.readFields room (← roundBound) true [] layout.draft
      match layout.fields.find? (fun f => !f.spare && !seen.contains f.name) with
      | some f => failAt (.missingField f.name) (← placeAfterClosing closeObject)
      | none => do
        closeObject
        layout.complete draft
  | _ => refuseType ("struct " ++ layout.name)

end Layout

/-- Reads a text as one thing. -/
def decode {α : Type} (read : Decoder α) (text : String) : Except ReadError α :=
  whole (read maxDepth) text

end Parley.Json
