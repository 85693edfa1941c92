import HealthReport.Binary64.Decimal
import HealthReport.Log.Record
import HealthReport.Pattern.Reader
import HealthReport.Text.Alphanumeric
import HealthReport.Text.Blank
import HealthReport.Text.Utf8

/-!
Filters for log records. A filter is a list of directives such as `warn`, `target=debug` or
`target[span{field}]=info`, with commas between them. Of the directives that apply to a record the
most specific one decides: the longest target, then the most fields, and of equals the last.
-/
namespace HealthReport

namespace Log

/-- The least level that passes, if any does. -/
inductive Threshold where
  | off
  | least (level : Level)
deriving DecidableEq

namespace Threshold

def admits (t : Threshold) (level : Level) : Bool :=
  match t with
  | .off => false
  | .least m => m.rank ≤ level.rank

/-- The value of a decimal numeral, which may have a plus sign. -/
def numeral? (chars : List Char) : Option Nat :=
  let digits :=
    match chars with
    | '+' :: rest => rest
    | _ => chars
  if digits.isEmpty || !digits.all Char.isDigit then none else some (Nat.ofDigitChars 10 digits 0)

/-- The threshold that a word names, in any case of ASCII letters, or that a numeral from 0 to 5
stands for. -/
def ofChars? (chars : List Char) : Option Threshold :=
  match numeral? chars with
  | some 0 => some .off
  | some 1 => some (.least .error)
  | some 2 => some (.least .warn)
  | some 3 => some (.least .info)
  | some 4 => some (.least .debug)
  | some 5 => some (.least .trace)
  | _ =>
    let word := String.ofList (chars.map Char.toLower)
    if word = "off" then some .off
    else if word = "error" || word = "" then some (.least .error)
    else if word = "warn" then some (.least .warn)
    else if word = "info" then some (.least .info)
    else if word = "debug" then some (.least .debug)
    else if word = "trace" then some (.least .trace)
    else none

end Threshold

/-- A directive: the threshold, the beginning of the targets it applies to, the name of a span,
and fields with or without a value. -/
structure Directive where
  threshold : Threshold
  target : Option String
  span : Option String
  fields : List (String × Option String)
deriving DecidableEq

namespace Directive

/-- The bytes of a directive, as it is given and without the blanks around it. Places are counted
in the trimmed text, but what stands there is taken from the text as given. -/
structure Source where
  given : Bytes
  trimmed : Bytes

def encodeChars (chars : List Char) : Bytes := chars.flatMap Utf8.encodeChar

def Source.ofChars (given : List Char) : Source :=
  ⟨encodeChars given, encodeChars (trimBlanks given)⟩

namespace Source

/-- The text from one place up to another. Behind a blank that is not ASCII a place can fall within
a character. No text can be cut there, and a program that tries to is stopped; here `U+FFFD` stands
for what is left of the character. -/
def slice (s : Source) (first last : Nat) : String :=
  Utf8.decodeLossy ((s.given.drop first).take (last - first))

def tail (s : Source) (first : Nat) : List Char :=
  (Utf8.decodeLossy (s.given.drop first)).toList

/-- Whether an ASCII character stands at a place. -/
def holds (s : Source) (place : Nat) (mark : Char) : Bool :=
  s.trimmed[place]? == some mark.toUInt8

/-- The first place from `first` on with one of some ASCII characters. -/
def next? (s : Source) (first : Nat) (marks : List Char) : Option Nat :=
  ((s.trimmed.drop first).findIdx? fun b => marks.any fun mark => mark.toUInt8 == b).map (· + first)

end Source

/-- The threshold after an equals sign; every level if nothing stands there. -/
def thresholdAt? (s : Source) (first : Nat) : Option Threshold :=
  match s.tail first with
  | [] => some (.least .trace)
  | chars => Threshold.ofChars? chars

/-- What stands after a closing bracket: nothing, or a threshold. -/
def afterBracket? (s : Source) (first : Nat) (d : Directive) : Option Directive :=
  if s.trimmed.length ≤ first then some d
  else if s.holds first '=' then
    (thresholdAt? s (first + 1)).map fun t => { d with threshold := t }
  else none

/-- Whether a field can be compared with a value: a number, or a pattern for its text. -/
def isComparable (value : List Char) : Bool :=
  (Binary64.ofText? value).isSome || Pattern.accepts value

/-- A field, with its value between an equals sign and the next one. -/
def field? (text : String) : Option (String × Option String) :=
  let chars := text.toList
  let name := String.ofList (chars.takeWhile (· != '='))
  match chars.dropWhile (· != '=') with
  | [] => some (name, none)
  | _ :: rest =>
    let value := rest.takeWhile (· != '=')
    if isComparable value then some (name, some (String.ofList value)) else none

/-- What stands after an opening bracket: a span, a field in braces, or both. -/
def bracket? (s : Source) (first : Nat) (target : Option String) : Option Directive :=
  match s.next? first [']', '\x7b'] with
  | none => none
  | some close =>
    let span := s.slice first close
    if s.holds close ']' then
      afterBracket? s (close + 1) ⟨.least .trace, target, some span, []⟩
    else match s.next? (close + 1) ['\x7d'] with
      | none => none
      | some brace =>
        let inside := s.slice (close + 1) brace
        if inside.isEmpty || !s.holds (brace + 1) ']' then none
        else
          let named := if span.isEmpty then none else some span
          match field? inside with
          | some field => afterBracket? s (brace + 2) ⟨.least .trace, target, named, [field]⟩
          | none => none

/-- A word alone is a threshold if it names one, else a target. -/
def word (given : List Char) : Directive :=
  match Threshold.ofChars? given with
  | some t => ⟨t, none, none, []⟩
  | none => ⟨.least .trace, some (String.ofList given), none, []⟩

/-- Whether a directive may begin with a character, an opening bracket apart. -/
def isInitial (c : Char) : Bool := c == '-' || c == ':' || c == '_' || isAlphanumeric c

/-- Reads one directive, without commas in it. -/
def ofChars? (given : List Char) : Option Directive :=
  let s := Source.ofChars given
  match trimBlanks given with
  | [] => none
  | '[' :: _ => bracket? s 1 none
  | c :: _ =>
    if !isInitial c then none
    else match s.next? 0 ['=', '['] with
      | none => some (word given)
      | some place =>
        let target := some (s.slice 0 place)
        if s.holds place '=' then
          (thresholdAt? s (place + 1)).map fun t => ⟨t, target, none, []⟩
        else bracket? s (place + 1) target

/-- Whether the directive speaks about records outside of spans. -/
def isStatic (d : Directive) : Bool := d.span.isNone && d.fields.all fun f => f.2.isNone

def appliesTo (d : Directive) (r : Record) : Bool :=
  (d.target.getD "").toList.isPrefixOf r.target.toList &&
    d.fields.all fun f => f.1 == "message" || r.fields.any fun held => held.1 == f.1

/-- Whether a directive is at least as specific as another that applies to the same record. -/
def isAsSpecific (d other : Directive) : Bool :=
  let size (x : Directive) : Nat := (x.target.map fun t => t.utf8ByteSize + 1).getD 0
  let names (x : Directive) : List String := x.fields.map (·.1)
  if size d ≠ size other then size other < size d
  else if d.fields.length ≠ other.fields.length then other.fields.length < d.fields.length
  else !(names d).lex (names other) (· < ·)

end Directive

/-- The directives that decide about records. -/
structure Filter where
  directives : List Directive
deriving DecidableEq

namespace Filter

/-- Characters cut at the commas. -/
def cutAtCommas : List Char → List (List Char)
  | [] => [[]]
  | c :: rest =>
    if c = ',' then [] :: cutAtCommas rest
    else match cutAtCommas rest with
      | [] => [[c]]
      | first :: others => (c :: first) :: others

/-- A filter from its text. Without any directive only errors pass. -/
def ofText? (text : String) : Option Filter :=
  match ((cutAtCommas text.toList).filter fun part => !part.isEmpty).mapM Directive.ofChars? with
  | none => none
  | some [] => some ⟨[⟨.least .error, none, none, []⟩]⟩
  | some directives => some ⟨directives⟩

/-- The directive that decides about a record. Those with fields come after those without. -/
def decisive? (f : Filter) (r : Record) : Option Directive :=
  let statics := f.directives.filter Directive.isStatic
  let (plain, fielded) := statics.partition fun d => d.fields.isEmpty
  ((plain ++ fielded).filter fun d => d.appliesTo r).foldl
    (fun best d =>
      match best with
      | none => some d
      | some held => if d.isAsSpecific held then some d else some held)
    none

/-- Whether a record passes. -/
def admits (f : Filter) (r : Record) : Bool :=
  match f.decisive? r with
  | some d => d.threshold.admits r.level
  | none => false

/-- The filter that lets a level and those above it pass. -/
def ofLevel (level : Level) : Filter := ⟨[⟨.least level, none, none, []⟩]⟩

end Filter

end Log

end HealthReport
