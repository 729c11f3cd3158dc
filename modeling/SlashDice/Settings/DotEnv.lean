import SlashDice.Text.Alphanumeric
import SlashDice.Text.Blank
import SlashDice.Text.Pieces

/-!
# Assignments in a file

A file of assignments, one on each line: a name, an equals sign and a value,
which may be quoted and may refer to variables.  Blank lines and lines that begin
with a number sign are skipped.  An assignment never changes a variable that is set
already, and the first line that cannot be read ends the file.  A variable can hold
no NUL character, and its name is not empty and has no equals sign.
-/

namespace SlashDice

open Text

/-- Variables with their values; a name that occurs again is not looked at. -/
abbrev Variables := List (String × String)

/-- Whether there can be a variable with a name and a value. -/
def Variables.canHold (name value : String) : Bool :=
  !name.isEmpty && !name.toList.contains '=' &&
    !name.toList.contains '\x00' && !value.toList.contains '\x00'

namespace DotEnv

def physicalLines : List Char → List (List Char)
  | [] => []
  | '\n' :: rest => ['\n'] :: physicalLines rest
  | c :: rest =>
    match physicalLines rest with
    | [] => [[c]]
    | line :: more => (c :: line) :: more

/-- Where a line stands between two characters: outside quotes, after blanks,
inside one of the two kinds of quotes, or after a backslash in each of these. -/
inductive QuoteState
  | plain
  | afterBlank
  | escaped
  | weak
  | weakEscaped
  | strong
  | strongEscaped
  deriving DecidableEq, Repr

def QuoteState.next : QuoteState → Char → QuoteState
  | escaped, _ => plain
  | weakEscaped, _ => weak
  | strongEscaped, _ => strong
  | weak, c => if c = '\\' then weakEscaped else if c = '"' then plain else weak
  | strong, c => if c = '\\' then strongEscaped else if c = '\x27' then plain else strong
  | state, c =>
    if c = '\\' then escaped
    else if c = '"' then weak
    else if c = '\x27' then strong
    else if state = plain ∧ isBlank c = true ∧ c ≠ '\n' ∧ c ≠ '\r' then afterBlank
    else plain

/-- Runs through a line.  A number sign after a blank begins a comment: then the
part of the line before it is given, else the state at the end. -/
def runLine : QuoteState → List Char → List Char ⊕ QuoteState
  | state, [] => .inr state
  | state, c :: rest =>
    if state = .afterBlank ∧ c = '#' then
      .inl []
    else
      match runLine (state.next c) rest with
      | .inl before => .inl (c :: before)
      | .inr final => .inr final

def dropLineEnd (line : List Char) : List Char :=
  match line.reverse with
  | '\n' :: '\r' :: rest => rest.reverse
  | '\n' :: rest => rest.reverse
  | _ => line

def isCommentLine (line : List Char) : Bool :=
  (trimStart line).head? == some '#'

/-- Puts the lines together that one quoted value spans.  What is left open at
the end of the file is no line. -/
def joinLines : QuoteState → List Char → List (List Char) → List (Option (List Char))
  | state, _, [] => if state = .plain then [] else [none]
  | state, opened, line :: rest =>
    if isCommentLine (opened ++ line) then
      some [] :: joinLines .plain [] rest
    else
      match runLine state line with
      | .inl before => some (opened ++ before) :: joinLines .plain [] rest
      | .inr .plain => some (dropLineEnd (opened ++ line)) :: joinLines .plain [] rest
      | .inr open_ => joinLines open_ (opened ++ line) rest

/-- What the reader of a value is in the middle of. -/
inductive ValueState
  | plain
  | ended
  | escaped (weak : Bool)
  | strong
  | weak
  | name (weak : Bool) (characters : List Char)
  | bracedName (weak : Bool) (characters : List Char)
  deriving DecidableEq, Repr

/-- A part of a value: a character, or a reference to a variable. -/
inductive Part
  | char (c : Char)
  | reference (name : List Char)
  deriving DecidableEq, Repr

def ValueState.resume (insideQuotes : Bool) : ValueState :=
  if insideQuotes then weak else plain

/-- The characters that may follow a backslash, and what they stand for. -/
def escapedChar? (c : Char) : Option Char :=
  if c = 'n' then some '\n'
  else if c = '\\' ∨ c = '\x27' ∨ c = '"' ∨ c = '$' ∨ c = ' ' then some c
  else none

/-- The parts of a value from its characters, from a state on.  A dollar sign with a
name, or with a name in braces, refers to that variable.  After a blank outside
quotes only a comment may follow. -/
def readValue : ValueState → List Char → Option (List Part)
  | state, [] =>
    match state with
    | .plain | .ended | .escaped false => some []
    | .name false characters => some [.reference characters.reverse]
    | _ => none
  | state, c :: rest =>
    match state with
    | .ended =>
      if c = ' ' ∨ c = '\t' then readValue .ended rest
      else if c = '#' then some []
      else none
    | .escaped inWeak =>
      match escapedChar? c with
      | some character => (readValue (.resume inWeak) rest).map (.char character :: ·)
      | none => none
    | .strong =>
      if c = '\x27' then readValue .plain rest
      else (readValue .strong rest).map (.char c :: ·)
    | .name inWeak characters =>
      if isAlphanumeric c then
        readValue (.name inWeak (c :: characters)) rest
      else if c = '\x7b' ∧ characters = [] then
        readValue (.bracedName inWeak []) rest
      else if c = '$' then
        (readValue (.name inWeak []) rest).map (.reference characters.reverse :: ·)
      else
        (readValue (.resume inWeak) rest).map fun more =>
          .reference characters.reverse :: .char c :: more
    | .bracedName inWeak characters =>
      if c = '\x7d' then
        (readValue (.resume inWeak) rest).map (.reference characters.reverse :: ·)
      else
        readValue (.bracedName inWeak (c :: characters)) rest
    | .weak =>
      if c = '$' then readValue (.name true []) rest
      else if c = '"' then readValue .plain rest
      else if c = '\\' then readValue (.escaped true) rest
      else (readValue .weak rest).map (.char c :: ·)
    | .plain =>
      if c = '$' then readValue (.name false []) rest
      else if c = '\x27' then readValue .strong rest
      else if c = '"' then readValue .weak rest
      else if c = '\\' then readValue (.escaped false) rest
      else if c = ' ' ∨ c = '\t' then readValue .ended rest
      else (readValue .plain rest).map (.char c :: ·)

/-- The text of a part.  A variable that is not set stands for the empty text. -/
def Part.expand (bindings : Variables) : Part → List Char
  | char c => [c]
  | reference name => ((bindings.lookup (String.ofList name)).getD "").toList

def isNameStart (c : Char) : Bool :=
  c.isAlpha || c == '_'

def isNameChar (c : Char) : Bool :=
  c.isAlphanum || c == '_' || c == '.'

/-- A name at the start of a line, and the line after it and blanks. -/
def readName? (line : List Char) : Option (List Char × List Char) :=
  match line with
  | [] => none
  | c :: _ =>
    if isNameStart c then
      some (line.takeWhile isNameChar, trimStart (line.dropWhile isNameChar))
    else
      none

/-- The name of an assignment and what follows its equals sign.  The word export
may stand before the name. -/
def readAssignment? (line : List Char) : Option (List Char × List Char) :=
  match readName? line with
  | some (name, '=' :: value) => some (name, trimStart value)
  | some (name, rest) =>
    if name = "export".toList then
      match readName? rest with
      | some (exported, '=' :: value) => some (exported, trimStart value)
      | _ => none
    else
      none
  | none => none

structure Assignment where
  name : String
  value : List Part
  deriving DecidableEq, Repr

/-- What a line does: nothing, or one assignment; a line may also be unreadable. -/
def readLine (line : List Char) : Option (Option Assignment) :=
  let text := trimStart (trimEnd line)
  if text = [] ∨ text.head? = some '#' then
    some none
  else
    match readAssignment? text with
    | none => none
    | some (name, value) =>
      if value = [] ∨ value.head? = some '#' then
        some (some ⟨String.ofList name, []⟩)
      else
        (readValue .plain value).map fun parts => some ⟨String.ofList name, parts⟩

/-- The assignments of some lines in order, up to the first one that cannot be read. -/
def readLines : List (Option (List Char)) → List Assignment
  | [] | none :: _ => []
  | some line :: rest =>
    match readLine line with
    | none => []
    | some none => readLines rest
    | some (some assignment) => assignment :: readLines rest

def assign (bindings : Variables) (name value : String) : Variables :=
  if (bindings.lookup name).isSome then bindings else bindings ++ [(name, value)]

def Assignment.expand (bindings : Variables) (assignment : Assignment) : String :=
  String.ofList (assignment.value.flatMap (Part.expand bindings))

/-- What some assignments assign.  A value may refer to the variables that are set and
to those of the assignments before it. -/
def expandAll : Variables → List Assignment → List (String × String)
  | _, [] => []
  | bindings, assignment :: rest =>
    let value := assignment.expand bindings
    (assignment.name, value) :: expandAll (assign bindings assignment.name value) rest

def dropMark : List Char → List Char
  | '\ufeff' :: rest => rest
  | text => text

def spelled (file : String) : List Assignment :=
  readLines (joinLines .plain [] (physicalLines (dropMark file.toList)))

/-- What a file assigns if it is read while the variables are set. -/
def assignments (bindings : Variables) (file : String) : List (String × String) :=
  expandAll bindings (spelled file)

/-- Makes assignments in order, or gives the name of the first variable that cannot
hold its value. -/
def assignAll : Variables → List (String × String) → Except String Variables
  | bindings, [] => .ok bindings
  | bindings, (name, value) :: rest =>
    if (bindings.lookup name).isNone && !Variables.canHold name value then .error name
    else assignAll (assign bindings name value) rest

def load (bindings : Variables) (file : String) : Except String Variables :=
  assignAll bindings (assignments bindings file)

end DotEnv
end SlashDice
