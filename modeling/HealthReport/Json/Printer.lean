import HealthReport.Json.Basic
import HealthReport.Text.Hexadecimal

/-!
The compact text of a JSON value: no space between the parts, members in the order in which the
object holds them.
-/
namespace HealthReport

namespace Json

/-- A character within quotes. The quote, the backslash and the control characters are escaped,
five of the latter by a letter; every other character stands for itself. -/
def escapeChar (c : Char) : List Char :=
  if c = '"' then ['\\', '"']
  else if c = '\\' then ['\\', '\\']
  else if c = '\n' then ['\\', 'n']
  else if c = '\r' then ['\\', 'r']
  else if c = '\t' then ['\\', 't']
  else if c = '\x08' then ['\\', 'b']
  else if c = '\x0c' then ['\\', 'f']
  else if c.toNat < 0x20 then
    ['\\', 'u', '0', '0', hexDigit (c.toNat / 16), hexDigit (c.toNat % 16)]
  else [c]

def quoted (s : String) : List Char :=
  '"' :: s.toList.flatMap escapeChar ++ ['"']

mutual
def chars : Json → List Char
  | .null => ['n', 'u', 'l', 'l']
  | .bool true => ['t', 'r', 'u', 'e']
  | .bool false => ['f', 'a', 'l', 's', 'e']
  | .number n => n.chars
  | .string s => quoted s
  | .array [] => ['[', ']']
  | .array (item :: rest) => '[' :: chars item ++ itemsChars rest ++ [']']
  | .object [] => ['{', '}']
  | .object ((name, value) :: rest) =>
    '{' :: quoted name ++ ':' :: chars value ++ membersChars rest ++ ['}']

/-- The items after the first, each with a comma before it. -/
def itemsChars : List Json → List Char
  | [] => []
  | item :: rest => ',' :: chars item ++ itemsChars rest

/-- The members after the first, each with a comma before it. -/
def membersChars : List (String × Json) → List Char
  | [] => []
  | (name, value) :: rest => ',' :: quoted name ++ ':' :: chars value ++ membersChars rest
end

def text (value : Json) : String := String.ofList value.chars

end Json

end HealthReport
