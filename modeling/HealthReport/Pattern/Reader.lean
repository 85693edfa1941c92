import HealthReport.Pattern.Usable
import HealthReport.Text.Alphanumeric
import HealthReport.Text.Blank
import HealthReport.Text.Hexadecimal

/-!
Reading patterns. Counted repetitions, references to groups, classes by a property of characters
and groups that look ahead or behind are refused with everything that is not well formed.
-/
namespace HealthReport

namespace Pattern

namespace Reader

/-- What is left of a pattern, whether blanks and comments in it do not count, and the names of
the groups so far. -/
structure Cursor where
  rest : List Char
  spaced : Bool
  names : List String

/-- What was read, and the cursor after it. -/
abbrev Found (α : Type) := Option (α × Cursor)

/-- `chars` without the blanks and comments at the beginning. -/
def afterSpace (inComment : Bool) : List Char → List Char
  | [] => []
  | c :: rest =>
    if inComment then afterSpace (c != '\n') rest
    else if isBlank c then afterSpace false rest
    else if c = '#' then afterSpace true rest
    else c :: rest

namespace Cursor

def start (chars : List Char) : Cursor := ⟨chars, false, []⟩

def leaving (c : Cursor) (rest : List Char) : Cursor := { c with rest := rest }

def skip (c : Cursor) : Cursor := if c.spaced then c.leaving (afterSpace false c.rest) else c

/-- The character that counts next, blanks and one `#` apart. -/
def glance? (c : Cursor) : Option Char :=
  if c.spaced then
    match c.rest.dropWhile isBlank with
    | '#' :: rest => (rest.dropWhile isBlank).head?
    | rest => rest.head?
  else c.rest.head?

/-- The cursor with the modes that matter to reading. -/
def switch (c : Cursor) (changes : List ModeChange) : Cursor :=
  match changes.find? fun change => change.mode = .spaced with
  | some change => { c with spaced := change.on }
  | none => c

end Cursor

/-- Hexadecimal digits, with the blanks between and after them. -/
def hexDigitsAt? (c : Cursor) : Nat → Found (List Char)
  | 0 => some ([], c)
  | count + 1 =>
    match c.rest with
    | [] => none
    | digit :: rest =>
      if (hexValue? digit).isNone then none
      else
        (hexDigitsAt? (c.leaving rest).skip count).map fun (digits, after) =>
          (digit :: digits, after)

/-- A character by its number, in some hexadecimal digits. -/
def numbered? (c : Cursor) (count : Nat) : Found Atom :=
  match hexDigitsAt? c.skip count with
  | none => none
  | some (digits, after) =>
    match hexNumber? digits with
    | none => none
    | some n => if n.isValidChar then some (.letter ⟨Char.ofNat n, count == 2⟩, after) else none

/-- The control characters that letters stand for. -/
def controlLetters : List (Char × Char) :=
  [('a', '\x07'), ('f', '\x0c'), ('t', '\t'), ('n', '\n'), ('r', '\r'), ('v', '\x0b')]

/-- An ASCII character that stands for itself after a backslash. -/
def isEscapable (c : Char) : Bool :=
  c.toNat < 0x80 && !c.isAlphanum && c != '<' && c != '>'

/-- What a letter after a backslash stands for, if nothing else belongs to it. -/
def escaped? (c : Char) : Option Atom :=
  match c with
  | 'd' => some (.shorthand .digits false)
  | 'D' => some (.shorthand .digits true)
  | 's' => some (.shorthand .blanks false)
  | 'S' => some (.shorthand .blanks true)
  | 'w' => some (.shorthand .words false)
  | 'W' => some (.shorthand .words true)
  | 'A' | 'z' => some .anchor
  | 'b' | 'B' | '<' | '>' => some .wordBoundary
  | _ =>
    if isEscapable c then some (.letter ⟨c, false⟩)
    else (controlLetters.lookup c).map fun control => .letter ⟨control, false⟩

/-- What stands after a backslash. A brace after the sign of a word boundary begins nothing that
ends. -/
def escape? (c : Cursor) : Found Atom :=
  match c.rest with
  | [] => none
  | 'x' :: rest => numbered? (c.leaving rest) 2
  | 'u' :: rest => numbered? (c.leaving rest) 4
  | 'U' :: rest => numbered? (c.leaving rest) 8
  | 'b' :: '{' :: _ => none
  | letter :: rest => (escaped? letter).map fun atom => (atom, c.leaving rest)

/-- A character within a set, which may be escaped. -/
def setAtom? (c : Cursor) : Found Atom :=
  match c.rest with
  | [] => none
  | '\\' :: rest => escape? (c.leaving rest)
  | letter :: rest => some (.letter ⟨letter, false⟩, c.leaving rest)

/-- A part of a set that is one atom. -/
def setPart? : Atom → Option CharSet
  | .letter l => some (.letter l)
  | .shorthand kind negated => some (.shorthand kind negated)
  | _ => none

/-- The range between two atoms. -/
def range? : Atom → Atom → Option CharSet
  | .letter first, .letter last => if first.char ≤ last.char then some (.range first last) else none
  | _, _ => none

/-- An atom of a set or a range. A minus before a bracket or another minus makes no range. -/
def setItem? (c : Cursor) : Option (CharSet × Cursor) := do
  let (first, after) ← setAtom? c
  let after := after.skip
  match after.rest with
  | '-' :: rest =>
    let next := after.leaving rest
    if next.glance? = some ']' || next.glance? = some '-' then
      return (← setPart? first, after)
    else
      let (last, next) ← setAtom? next.skip
      return (← range? first last, next)
  | _ => return (← setPart? first, after)

/-- The classes of ASCII characters that have a name. -/
def classNames : List String :=
  ["alnum", "alpha", "ascii", "blank", "cntrl", "digit", "graph", "lower", "print", "punct",
    "space", "upper", "word", "xdigit"]

/-- A class in a set after its opening bracket: a name between colons, and a bracket. -/
def class? (chars : List Char) : Option (CharSet × List Char) :=
  match chars with
  | ':' :: rest =>
    let (negated, body) : Bool × List Char :=
      match rest with
      | '^' :: body => (true, body)
      | body => (false, body)
    let name := String.ofList (body.takeWhile (· != ':'))
    match body.dropWhile (· != ':') with
    | ':' :: ']' :: after =>
      if classNames.contains name then some (.named name negated, after) else none
    | _ => none
  | _ => none

/-- The operation that two signs stand for. -/
def setOperation? : Char → Char → Option SetOperation
  | '&', '&' => some .intersection
  | '-', '-' => some .difference
  | '~', '~' => some .symmetricDifference
  | _, _ => none

/-- The left side of an operation, which waits for the right one. -/
abbrev LeftSide := Option (CharSet × SetOperation)

/-- The parts of a set, the last one first, as the right side of an operation before them. -/
def joined (left : LeftSide) (parts : List CharSet) : CharSet :=
  let right := CharSet.ofParts parts.reverse
  match left with
  | none => right
  | some (first, operation) => .combined operation first right

mutual
/-- A set after its opening bracket. -/
def bracketed? : Nat → Cursor → Found CharSet
  | 0, _ => none
  | fuel + 1, c =>
    let c := c.skip
    let (negated, inside) : Bool × Cursor :=
      match c.rest with
      | '^' :: rest => (true, c.leaving rest)
      | _ => (false, c)
    (setParts? fuel true none [] inside).map fun (s, after) => (.bracketed negated s, after)

/-- The rest of a set with its closing bracket. At the beginning of a set each minus is a letter,
and so is a bracket that comes first. -/
def setParts? : Nat → Bool → LeftSide → List CharSet → Cursor → Found CharSet
  | 0, _, _, _, _ => none
  | fuel + 1, start, left, parts, c =>
    let c := c.skip
    match c.rest with
    | [] => none
    | first :: rest =>
      let letter : CharSet := .letter ⟨first, false⟩
      if start && first = '-' then setParts? fuel true left (letter :: parts) (c.leaving rest)
      else if start && first = ']' && parts.isEmpty then
        setParts? fuel false left [letter] (c.leaving rest)
      else if first = ']' then some (joined left parts, c.leaving rest)
      else match rest.head?.bind (setOperation? first) with
        | some operation =>
          setParts? fuel false (some (joined left parts, operation)) [] (c.leaving (rest.drop 1))
        | none =>
          if first = '[' then
            match class? rest with
            | some (named, after) => setParts? fuel false left (named :: parts) (c.leaving after)
            | none =>
              match bracketed? fuel (c.leaving rest) with
              | some (inner, after) => setParts? fuel false left (inner :: parts) after
              | none => none
          else match setItem? c with
            | some (item, after) => setParts? fuel false left (item :: parts) after
            | none => none
end

/-- The mode that a letter stands for. -/
def modeOf? : Char → Option Mode
  | 'i' => some .caseless
  | 'm' => some .multiline
  | 's' => some .wholeText
  | 'U' => some .reluctant
  | 'u' => some .unicode
  | 'R' => some .returns
  | 'x' => some .spaced
  | _ => none

/-- Mode changes up to a colon or a closing parenthesis, which is left. Each mode occurs once, and
a minus, which switches the modes after it off, is followed by one. -/
def modeChanges? (on : Bool) (seen : List ModeChange) :
    List Char → Option (List ModeChange × List Char)
  | [] => none
  | c :: rest =>
    if c = ':' || c = ')' then some (seen.reverse, c :: rest)
    else if c = '-' then
      if on && rest.head? != some ':' && rest.head? != some ')' then modeChanges? false seen rest
      else none
    else match modeOf? c with
      | none => none
      | some mode =>
        if seen.any fun change => change.mode = mode then none
        else modeChanges? on (⟨mode, on⟩ :: seen) rest

/-- What an opening parenthesis begins: a group with modes of its own, or no group but a change of
modes. -/
inductive Opening where
  | group (changes : List ModeChange)
  | modes (changes : List ModeChange)

def isNameInitial (c : Char) : Bool := c == '_' || isAlphabetic c

def isNamePart (c : Char) : Bool :=
  c == '_' || c == '.' || c == '[' || c == ']' || isAlphanumeric c

/-- A group's name up to an angle bracket. A pattern has no two groups of one name. -/
def named? (c : Cursor) (chars : List Char) : Found Opening :=
  let name := chars.takeWhile (· != '>')
  match name, chars.dropWhile (· != '>') with
  | first :: others, _ :: rest =>
    let text := String.ofList name
    if isNameInitial first && others.all isNamePart && !c.names.contains text then
      some (.group [], { c with rest := rest, names := text :: c.names })
    else none
  | _, _ => none

/-- What follows an opening parenthesis. -/
def opening? (c : Cursor) : Found Opening :=
  let c := c.skip
  match c.rest with
  | '?' :: '=' :: _ | '?' :: '!' :: _ | '?' :: '<' :: '=' :: _ | '?' :: '<' :: '!' :: _ => none
  | '?' :: 'P' :: '<' :: rest | '?' :: '<' :: rest => named? c rest
  | '?' :: rest =>
    match modeChanges? true [] rest with
    | some (changes, ':' :: after) => some (.group changes, c.leaving after)
    | some (changes, _ :: after) =>
      if changes.isEmpty then none else some (.modes changes, c.leaving after)
    | _ => none
  | _ => some (.group [], c)

/-- The signs of a repetition of any number, of some, or of one at most. -/
def isRepetition (c : Char) : Bool := c == '*' || c == '+' || c == '?'

/-- A character outside of sets and the signs that build patterns. -/
def atom? (c : Cursor) : Found Atom :=
  match c.rest with
  | [] => none
  | '\\' :: rest => escape? (c.leaving rest)
  | '{' :: _ => none
  | '.' :: rest => some (.any, c.leaving rest)
  | '^' :: rest | '$' :: rest => some (.anchor, c.leaving rest)
  | letter :: rest => some (.letter ⟨letter, false⟩, c.leaving rest)

/-- The items with the last one, which comes first, repeated. -/
def repeatLast? : List Pattern → Option (List Pattern)
  | [] => none
  | .modes _ :: _ => none
  | item :: earlier => some (.repeated item :: earlier)

mutual
/-- The branches up to the end of a group. -/
def branches? : Nat → Cursor → Found (List Pattern)
  | 0, _ => none
  | fuel + 1, c =>
    match items? fuel [] c with
    | none => none
    | some (branch, after) =>
      match after.rest with
      | '|' :: rest =>
        (branches? fuel (after.leaving rest)).map fun (others, last) => (branch :: others, last)
      | _ => some ([branch], after)

/-- A branch, of which some items have been read, the last one first. -/
def items? : Nat → List Pattern → Cursor → Found Pattern
  | 0, _, _ => none
  | fuel + 1, before, c =>
    let c := c.skip
    match c.rest with
    | [] | '|' :: _ | ')' :: _ => some (ofItems before.reverse, c)
    | '(' :: rest =>
      match opening? (c.leaving rest) with
      | none => none
      | some (.modes changes, after) =>
        items? fuel (.modes changes :: before) (after.switch changes)
      | some (.group changes, inside) =>
        match branches? fuel (inside.switch changes) with
        | some (branches, last) =>
          match last.rest with
          | ')' :: rest =>
            items? fuel (.group changes (ofBranches branches) :: before)
              { last with rest := rest, spaced := c.spaced }
          | _ => none
        | none => none
    | '[' :: rest =>
      match bracketed? fuel (c.leaving rest) with
      | some (s, after) => items? fuel (.set s :: before) after
      | none => none
    | first :: rest =>
      if isRepetition first then
        match repeatLast? before with
        | some items =>
          let after := if rest.head? = some '?' then rest.drop 1 else rest
          items? fuel items (c.leaving after)
        | none => none
      else match atom? c with
        | some (a, after) => items? fuel (.atom a :: before) after
        | none => none
end

end Reader

/-- The pattern that a text spells. Each step takes a character or ends a branch or a set. -/
def ofChars? (chars : List Char) : Option Pattern :=
  match Reader.branches? (2 * chars.length + 3) (.start chars) with
  | some (branches, after) => if after.rest.isEmpty then some (ofBranches branches) else none
  | none => none

/-- Whether a text spells a pattern that can be used. -/
def accepts (chars : List Char) : Bool := (ofChars? chars).any isUsable

end Pattern

end HealthReport
