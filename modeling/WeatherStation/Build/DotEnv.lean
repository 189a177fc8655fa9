import WeatherStation.Text.Alphanumeric
import WeatherStation.Text.Blank

/-!
# `WeatherStation.Build.DotEnv`: files of environment variables

A file holds lines `NAME=value`. Blank lines and comments are skipped, the word `export` may
stand before a name, and a value can be quoted: between single quotes everything stands for
itself, between double quotes and outside of quotes a backslash escapes and `$NAME` or
`${NAME}` stands for a variable. A quoted value can go on over several lines.

The file is read in two stages. `logicalLines` joins the lines that belong together, and
`assignment?` reads one of them. Variables are not looked up here: a value is a list of
characters and names (`Piece`), and `load` looks them up line after line, because a line can
refer to one before it. A variable that is set already keeps its value.

The first line that cannot be read ends the file. What came before it counts.
-/

set_option autoImplicit false

namespace WeatherStation.Build.DotEnv

/-- A line that cannot be read. -/
structure LineError where
  line : String
  index : Nat
  deriving DecidableEq, Repr

/-- The error in words. -/
def LineError.message (e : LineError) : String :=
  "Error parsing line: '" ++ e.line ++ "', error at line index: " ++ toString e.index

/-- Number of bytes of a text. -/
def byteLength (text : List Char) : Nat := (String.ofList text).utf8ByteSize

/-! ### Logical lines -/

/-- What surrounds the next character, as far as the end of the line depends on it. -/
inductive Scan where
  | complete
  | escape
  | strong
  | strongEscape
  | weak
  | weakEscape
  /-- After a blank, where a comment can begin. -/
  | blank
  deriving DecidableEq, Repr

/-- The surroundings after a character outside of quotes that is no blank. -/
def Scan.afterPlain (c : Char) : Scan :=
  if c = '\\' then escape
  else if c = '"' then weak
  else if c = '\'' then strong
  else complete

/-- The surroundings after a character; none if it begins a comment. -/
def Scan.next : Scan → Char → Option Scan
  | blank, c => if c = '#' then none else some (afterPlain c)
  | escape, _ => some complete
  | complete, c =>
    if Text.isBlank c ∧ c ≠ '\n' ∧ c ≠ '\r' then some blank else some (afterPlain c)
  | weak, c => some (if c = '\\' then weakEscape else if c = '"' then complete else weak)
  | weakEscape, _ => some weak
  | strong, c => some (if c = '\\' then strongEscape else if c = '\'' then complete else strong)
  | strongEscape, _ => some strong

/-- How a line of the file ends. -/
inductive LineEnd where
  /-- In a comment, before which this stands. -/
  | comment (kept : List Char)
  | within (scan : Scan)

/-- Scan a line of the file. -/
def Scan.line (s : Scan) : List Char → LineEnd
  | [] => .within s
  | c :: rest =>
    match s.next c with
    | none => .comment []
    | some s =>
      match s.line rest with
      | .comment kept => .comment (c :: kept)
      | ending => ending

/-- The lines of a file, each with its line feed. -/
def fileLines : List Char → List (List Char)
  | [] => []
  | c :: rest =>
    if c = '\n' then [c] :: fileLines rest
    else
      match fileLines rest with
      | [] => [[c]]
      | line :: lines => (c :: line) :: lines

/-- A line without its line feed, and without the carriage return before it. -/
def withoutLineEnd (line : List Char) : List Char :=
  match line.reverse with
  | '\n' :: '\r' :: rest => rest.reverse
  | '\n' :: rest => rest.reverse
  | _ => line

/-- Join lines as long as a quote or an escape is open, or the last character is a blank that
no line feed follows. A line that is a comment as a whole counts as empty. -/
def joinLines : List (List Char) → List Char → Scan → List (Except LineError (List Char))
  | [], _, .complete => []
  | [], held, _ => [.error ⟨String.ofList held, byteLength held⟩]
  | line :: rest, held, scan =>
    let all := held ++ line
    if (Text.trimStart all).head? = some '#' then .ok [] :: joinLines rest [] .complete
    else
      match scan.line line with
      | .comment kept => .ok (held ++ kept) :: joinLines rest [] .complete
      | .within .complete => .ok (withoutLineEnd all) :: joinLines rest [] .complete
      | .within scan => joinLines rest all scan

/-- The lines that are read one by one, up to the end of the file or an open quote. -/
def logicalLines (file : List Char) : List (Except LineError (List Char)) :=
  joinLines (fileLines file) [] .complete

/-! ### Values -/

/-- A part of a value. -/
inductive Piece where
  | char (c : Char)
  | variable (name : String)
  deriving DecidableEq, Repr

/-- What the next character of a value means. -/
inductive Mode where
  | plain
  | escaped
  /-- Between single quotes. -/
  | strong
  /-- In a name after a dollar sign; the letters so far, latest first. -/
  | name (letters : List Char)
  /-- In a name between braces. -/
  | braced (letters : List Char)
  /-- After the value, where only a comment can follow. -/
  | ended
  | comment
  deriving DecidableEq, Repr

/-- A value that is read up to some character. -/
structure ValueReader where
  mode : Mode := .plain
  /-- Whether a double quote is open. -/
  weak : Bool := false
  /-- The pieces so far, latest first. -/
  pieces : List Piece := []
  deriving DecidableEq, Repr

namespace ValueReader

/-- A character that stands for itself. -/
def push (r : ValueReader) (c : Char) : ValueReader :=
  { r with mode := .plain, pieces := .char c :: r.pieces }

/-- The end of a name. A name without letters stands for nothing. -/
def pushName (r : ValueReader) (letters : List Char) : ValueReader :=
  { r with
    mode := .plain
    pieces :=
      if letters.isEmpty then r.pieces
      else .variable (String.ofList letters.reverse) :: r.pieces }

/-- The next character, outside of single quotes and names. -/
def stepPlain (r : ValueReader) (c : Char) : ValueReader :=
  if c = '$' then { r with mode := .name [] }
  else if c = '\\' then { r with mode := .escaped }
  else if c = '"' then { r with weak := !r.weak }
  else if r.weak then r.push c
  else if c = '\'' then { r with mode := .strong }
  else if c = ' ' ∨ c = '\t' then { r with mode := .ended }
  else r.push c

/-- The next character; none if it must not stand there. A name without braces ends at the
first character that is no letter and no digit, and that character stands for itself. -/
def step (r : ValueReader) (c : Char) : Option ValueReader :=
  match r.mode with
  | .plain => some (r.stepPlain c)
  | .escaped =>
    if c = 'n' then some (r.push '\n')
    else if c = '\\' ∨ c = '\'' ∨ c = '"' ∨ c = '$' ∨ c = ' ' then some (r.push c)
    else none
  | .strong => some (if c = '\'' then { r with mode := .plain } else
      { r with pieces := .char c :: r.pieces })
  | .name letters =>
    if Text.isAlphanumeric c then some { r with mode := .name (c :: letters) }
    else if c.toNat = 0x7b ∧ letters = [] then some { r with mode := .braced [] }
    else if c = '$' then some { r.pushName letters with mode := .name [] }
    else some ((r.pushName letters).push c)
  | .braced letters =>
    if c.toNat = 0x7d then some (r.pushName letters)
    else some { r with mode := .braced (c :: letters) }
  | .ended =>
    if c = ' ' ∨ c = '\t' then some r
    else if c = '#' then some { r with mode := .comment }
    else none
  | .comment => some r

/-- Read on from a character with an index; the index of the first that must not stand there
if there is one. -/
def run (r : ValueReader) (index : Nat) : List Char → Except Nat ValueReader
  | [] => .ok r
  | c :: rest =>
    match r.step c with
    | none => .error index
    | some r => r.run (index + 1) rest

/-- The pieces at the end of the text; none if a quote or a brace is open. -/
def pieces? (r : ValueReader) : Option (List Piece) :=
  if r.weak then none
  else
    match r.mode with
    | .strong => none
    | .braced _ => none
    | .name letters => some (r.pushName letters).pieces.reverse
    | _ => some r.pieces.reverse

end ValueReader

/-- The value that a text writes. An open quote or brace is reported at the last byte. -/
def value? (text : List Char) : Except LineError (List Piece) :=
  match ValueReader.run {} 0 text with
  | .error index => .error ⟨String.ofList text, index⟩
  | .ok r =>
    match r.pieces? with
    | some pieces => .ok pieces
    | none => .error ⟨String.ofList text, byteLength text - 1⟩

/-! ### Assignments -/

/-- A line that sets a variable. -/
structure Assignment where
  key : String
  value : List Piece
  deriving DecidableEq, Repr

/-- Whether a character can stand in a name after its first. -/
def isKeyChar (c : Char) : Bool := c.isAlphanum || c == '_' || c == '.'

/-- The name at the start of a text, and what follows it. -/
def key? (text : List Char) : Option (List Char × List Char) :=
  match text with
  | c :: _ =>
    if c.isAlpha || c == '_' then some (text.takeWhile isKeyChar, text.dropWhile isKeyChar)
    else none
  | [] => none

/-- What follows an equals sign at the start of a text. -/
def afterEquals? : List Char → Option (List Char)
  | '=' :: rest => some rest
  | _ => none

/-- The name and what follows the equals sign; what is left of the text at the first fault.
After the word `export` a name is expected, unless the word is the name. -/
def keyAndRest? (text : List Char) : Except (List Char) (List Char × List Char) := do
  let some (key, rest) := key? text | throw text
  let rest := Text.trimStart rest
  match afterEquals? rest with
  | some value => return (key, value)
  | none =>
    if key = ['e', 'x', 'p', 'o', 'r', 't'] then
      let some (key, rest) := key? rest | throw rest
      let rest := Text.trimStart rest
      let some value := afterEquals? rest | throw rest
      return (key, value)
    else throw rest

/-- The assignment that a logical line makes, if it makes one. -/
def assignment? (line : List Char) : Except LineError (Option Assignment) :=
  let body := Text.trimEnd line
  let text := Text.trimStart body
  if text.isEmpty ∨ text.head? = some '#' then .ok none
  else
    match keyAndRest? text with
    | .error rest => .error ⟨String.ofList line, byteLength body - byteLength rest⟩
    | .ok (key, rest) =>
      let value := Text.trimStart rest
      if value.isEmpty ∨ value.head? = some '#' then .ok (some ⟨String.ofList key, []⟩)
      else (value? value).map fun pieces => some ⟨String.ofList key, pieces⟩

/-- The assignments of lines up to the first one that cannot be read, and its error. -/
def assignments : List (Except LineError (List Char)) → List Assignment × Option LineError
  | [] => ([], none)
  | .error e :: _ => ([], some e)
  | .ok line :: rest =>
    match assignment? line with
    | .error e => ([], some e)
    | .ok none => assignments rest
    | .ok (some a) =>
      let (more, error) := assignments rest
      (a :: more, error)

/-- The assignments of a file up to the first line that cannot be read, and its error. A byte
order mark at the start is skipped. -/
def parse (file : String) : List Assignment × Option LineError :=
  let text :=
    match file.toList with
    | '\ufeff' :: rest => rest
    | text => text
  assignments (logicalLines text)

/-! ### The environment -/

/-- Variables and their values. -/
abbrev Environment := List (String × String)

/-- A value in an environment. A variable that is not set stands for nothing. -/
def expand (env : Environment) (value : List Piece) : String :=
  String.join (value.map fun piece =>
    match piece with
    | .char c => String.singleton c
    | .variable name => (env.lookup name).getD "")

/-- The environment after an assignment. A variable that is set keeps its value. -/
def assign (env : Environment) (a : Assignment) : Environment :=
  if (env.lookup a.key).isSome then env else env ++ [(a.key, expand env a.value)]

/-- The environment after all the assignments, one after the other. -/
def load (env : Environment) (assignments : List Assignment) : Environment :=
  assignments.foldl assign env

/-- The names that assignments set or refer to. -/
def names (assignments : List Assignment) : List String :=
  assignments.flatMap fun a =>
    a.key :: a.value.filterMap fun piece =>
      match piece with
      | .char _ => none
      | .variable name => some name

end WeatherStation.Build.DotEnv
