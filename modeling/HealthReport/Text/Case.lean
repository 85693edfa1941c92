import HealthReport.Text.CaseTable

/-!
Lower and upper case of text, for every script. One character may become several, and a capital
sigma becomes the final small sigma where it ends a word.
-/
namespace HealthReport

namespace Case

def within (ranges : List (Nat × Nat)) (c : Char) : Bool :=
  ranges.any fun (first, last) => first ≤ c.toNat && c.toNat ≤ last

def isIgnorable (c : Char) : Bool := within ignorableRanges c

def isCased (c : Char) : Bool := within casedRanges c

def expand (table : List (Nat × List Nat)) (runs : List Run) (c : Char) : List Char :=
  match table.lookup c.toNat with
  | some forms => forms.map Char.ofNat
  | none => [(runs.findSome? (·.image? c)).getD c]

/-- The lower-case form of one character that does not depend on its neighbours. -/
def lower (c : Char) : List Char := expand lowerExpansions lowerRuns c

/-- The upper-case form of one character. -/
def upper (c : Char) : List Char := expand upperExpansions upperRuns c

/-- Whether the nearest character that is not ignorable is a cased letter. -/
def meetsCased (chars : List Char) : Bool :=
  match chars.dropWhile isIgnorable with
  | c :: _ => isCased c
  | [] => false

/-- Lower case of `chars`, which come after the characters `before`, nearest first. A capital sigma
ends a word when a cased letter stands before it and none after it. -/
def lowerFrom (before : List Char) : List Char → List Char
  | [] => []
  | c :: rest =>
    let form :=
      if c = 'Σ' then
        if meetsCased before && !meetsCased rest then ['ς'] else ['σ']
      else lower c
    form ++ lowerFrom (c :: before) rest

end Case

/-- The text in lower case. -/
def lowercase (text : String) : String :=
  String.ofList (Case.lowerFrom [] text.toList)

/-- The text in upper case. -/
def uppercase (text : String) : String :=
  String.ofList (text.toList.flatMap Case.upper)

end HealthReport
