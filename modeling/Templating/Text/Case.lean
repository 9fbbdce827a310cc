import Templating.Text.CaseTable

/-!
# Upper and lower case

The full Unicode mappings: one character may become several. A capital sigma becomes the final
sigma when a cased letter comes before it and none after it, with case-ignorable characters passed
over on both sides.
-/

namespace Templating.Text

def CaseRun.covers (run : CaseRun) (code : Nat) : Bool :=
  run.first ≤ code && code ≤ run.last && (code - run.first) % run.step == 0

/-- The form of `c` by the two parts of a mapping; a character in neither stands for itself. -/
def caseForm (runs : List CaseRun) (expansions : List (Nat × List Nat)) (c : Char) : List Char :=
  match expansions.find? (fun expansion => expansion.1 == c.toNat) with
  | some expansion => expansion.2.map Char.ofNat
  | none =>
      match runs.find? (fun run => run.covers c.toNat) with
      | some run => [Char.ofNat (c.toNat + run.shift).toNat]
      | none => [c]

def upperForm (c : Char) : List Char :=
  if c.toNat < 0x80 then [c.toUpper] else caseForm upperRuns upperExpansions c

def lowerForm (c : Char) : List Char :=
  if c.toNat < 0x80 then [c.toLower] else caseForm lowerRuns lowerExpansions c

def isAsciiLetter (c : Char) : Bool :=
  (0x41 ≤ c.toNat && c.toNat ≤ 0x5a) || (0x61 ≤ c.toNat && c.toNat ≤ 0x7a)

def isCased (c : Char) : Bool :=
  if c.toNat < 0x80 then isAsciiLetter c
  else casedRanges.any fun range => range.1 ≤ c.toNat && c.toNat ≤ range.2

def isCaseIgnorable (c : Char) : Bool :=
  caseIgnorableRanges.any fun range => range.1 ≤ c.toNat && c.toNat ≤ range.2

/-- Whether the first character that is not case-ignorable is cased. -/
def meetsCased : List Char → Bool
  | [] => false
  | c :: rest => if isCaseIgnorable c then meetsCased rest else isCased c

def upper (text : List Char) : List Char := text.flatMap upperForm

/-- Lower case of a text that follows `before`, which is given backwards. -/
def lowerAfter (before : List Char) : List Char → List Char
  | [] => []
  | c :: rest =>
      let form :=
        if c = 'Σ' then
          [if meetsCased before && !meetsCased rest then 'ς' else 'σ']
        else lowerForm c
      form ++ lowerAfter (c :: before) rest

def lower (text : List Char) : List Char := lowerAfter [] text

/-- Puts the first character in upper case and leaves the others. -/
def capitalize : List Char → List Char
  | [] => []
  | c :: rest => upperForm c ++ rest

/-- Whether the texts are equal once ASCII letters are in lower case. -/
def sameIgnoringAsciiCase (first second : List Char) : Bool :=
  first.map Char.toLower == second.map Char.toLower

end Templating.Text
