/-!
# Blanks and comments

What may stand between the words of a text: blanks, comments after two slashes up to the end of
their line, and comments between a slash with a star and a star with a slash.
-/

namespace Templating.Text

/-- How a notation sets its comments apart. -/
structure GapRules where
  isBlank : Char → Bool
  endsLine : Char → Bool
  /-- Whether comments may stand inside comments. -/
  nested : Bool

/-- Where a text is read that says nothing. -/
inductive GapPlace where
  | between
  | inLine
  /-- Inside a comment, and inside `depth` others around it. -/
  | inBlock (depth : Nat)

/-- The text after a comment of the given depth, which has just been closed. -/
def GapPlace.outside : Nat → GapPlace
  | 0 => .between
  | depth + 1 => .inBlock depth

def afterGapFrom? (rules : GapRules) : GapPlace → List Char → Option (List Char)
  | .inBlock _, [] => none
  | _, [] => some []
  | .between, '/' :: '/' :: rest => afterGapFrom? rules .inLine rest
  | .between, '/' :: '*' :: rest => afterGapFrom? rules (.inBlock 0) rest
  | .between, c :: rest =>
      if rules.isBlank c then afterGapFrom? rules .between rest else some (c :: rest)
  | .inLine, c :: rest =>
      afterGapFrom? rules (if rules.endsLine c then .between else .inLine) rest
  | .inBlock depth, '*' :: '/' :: rest => afterGapFrom? rules (.outside depth) rest
  | .inBlock depth, '/' :: '*' :: rest =>
      if rules.nested then afterGapFrom? rules (.inBlock (depth + 1)) rest
      else afterGapFrom? rules (.inBlock depth) ('*' :: rest)
  | .inBlock depth, _ :: rest => afterGapFrom? rules (.inBlock depth) rest
termination_by _ text => text.length

/-- The text after blanks and comments; a comment that is not closed is refused. -/
def afterGap? (rules : GapRules) (text : List Char) : Option (List Char) :=
  afterGapFrom? rules .between text

end Templating.Text
