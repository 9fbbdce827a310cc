import Templating.Yaml.Blank
import Templating.Yaml.Plain

/-!
# Scalar styles

Text is written plain where that style can hold it and it would read back as text. Otherwise it
goes between single quotes, and between double quotes with escapes where single quotes cannot hold
it; text of several lines is a literal block.
-/

namespace Templating.Yaml

/-- Whether a character may stand in a text without an escape. -/
def isPrintable (c : Char) : Bool :=
  let code := c.toNat
  code == 0x0a || (0x20 ≤ code && code ≤ 0x7e) ||
    (0xa0 ≤ code && code ≠ 0xfeff && code ≠ 0xfffe && code ≠ 0xffff)

/-- What a text holds that some style cannot. -/
structure Features where
  /-- A mark of block syntax. -/
  indicator : Bool := false
  lineBreak : Bool := false
  /-- A character that needs an escape. -/
  special : Bool := false
  /-- A space or break at the start or at the end. -/
  loose : Bool := false
  /-- A space at the end. -/
  trailingSpace : Bool := false
  /-- A break right before a space. -/
  breakSpace : Bool := false
  /-- A space right before a break. -/
  spaceBreak : Bool := false

/-- Whether `c` at the start of a text, with `rest` after it, is a mark of block syntax. -/
def isLeadingIndicator (c : Char) (rest : List Char) : Bool :=
  let always := [0x23, 0x2c, 0x5b, 0x5d, 0x7b, 0x7d, 0x26, 0x2a, 0x21, 0x7c, 0x3e, 0x27, 0x22,
    0x25, 0x40, 0x60]
  if always.contains c.toNat then true
  else (c == '?' || c == ':' || c == '-') && startsBlank rest

/-- Whether `c` inside a text is a mark of block syntax. -/
def isInnerIndicator (afterBlank : Bool) (c : Char) (rest : List Char) : Bool :=
  (c == ':' && startsBlank rest) || (c == '#' && afterBlank)

/-- Goes through the characters after `previous`. -/
def featuresAfter (previous : Char) (features : Features) : List Char → Features
  | [] =>
      { features with
        loose := features.loose || previous == ' ' || isBreak previous
        trailingSpace := previous == ' ' }
  | c :: rest =>
      let afterBlank := isSpaceOrTab previous || isBreak previous
      featuresAfter c
        { features with
          indicator := features.indicator || isInnerIndicator afterBlank c rest
          lineBreak := features.lineBreak || isBreak c
          special := features.special || !isPrintable c
          breakSpace := features.breakSpace || (isBreak previous && c == ' ')
          spaceBreak := features.spaceBreak || (previous == ' ' && isBreak c) }
        rest

def features : List Char → Features
  | [] => {}
  | c :: rest =>
      let marker := [c] ++ rest.take 2
      featuresAfter c
        { indicator := isLeadingIndicator c rest || marker == ['-', '-', '-'] ||
            marker == ['.', '.', '.']
          lineBreak := isBreak c
          special := !isPrintable c
          loose := c == ' ' || isBreak c }
        rest

inductive Style where
  | plain
  | single
  | double
  | literal
  deriving DecidableEq

namespace Features

def allowsPlain (features : Features) : Bool :=
  !(features.loose || features.breakSpace || features.spaceBreak || features.special ||
    features.lineBreak || features.indicator)

def allowsSingle (features : Features) : Bool :=
  !(features.breakSpace || features.spaceBreak || features.special)

def allowsBlock (features : Features) : Bool :=
  !(features.trailingSpace || features.spaceBreak || features.special)

end Features

/-- The style in which a text is wanted before its features are looked at. -/
def wantedStyle (text : String) : Style :=
  if text.toList.contains '\n' then .literal
  else
    match plain text with
    | .text => if isZeroPadded text.toList then .single else .plain
    | _ => .single

/-- The style in which a text is written; `asKey` says that it stands before a colon in one line. -/
def style (asKey : Bool) (text : String) : Style :=
  let features := features text.toList
  let wanted := if asKey && features.lineBreak then .double else wantedStyle text
  let quoted := if features.allowsSingle then Style.single else .double
  match wanted with
  | .plain => if features.allowsPlain then .plain else quoted
  | .single => quoted
  | .double => .double
  | .literal => if features.allowsBlock && !asKey && text ≠ "" then .literal else .double

end Templating.Yaml
