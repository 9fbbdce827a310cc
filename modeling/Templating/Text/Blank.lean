/-!
# Blank characters

A character is blank when Unicode gives it the property `White_Space`. Trimming and splitting into
words go by this set.
-/

namespace Templating.Text

/-- The twenty-five characters with the property `White_Space`. -/
def isBlank (c : Char) : Bool :=
  let code := c.toNat
  (0x09 ≤ code && code ≤ 0x0d) || code == 0x20 || code == 0x85 || code == 0xa0 ||
    code == 0x1680 || (0x2000 ≤ code && code ≤ 0x200a) || code == 0x2028 || code == 0x2029 ||
    code == 0x202f || code == 0x205f || code == 0x3000

/-- Drops the characters at both ends that satisfy `drop`. -/
def trimWhere (drop : Char → Bool) (text : List Char) : List Char :=
  ((text.dropWhile drop).reverse.dropWhile drop).reverse

/-- Drops the blanks at both ends. -/
def trim (text : List Char) : List Char := trimWhere isBlank text

def trimText (text : String) : String := String.ofList (trim text.toList)

/-- The maximal runs of characters that are not blank. -/
def words : List Char → List (List Char)
  | [] => []
  | c :: rest =>
      if isBlank c then words rest
      else if rest.head?.all isBlank then [c] :: words rest
      else
        match words rest with
        | [] => [[c]]
        | word :: others => (c :: word) :: others

end Templating.Text
