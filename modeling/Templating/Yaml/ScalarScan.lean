import Templating.Text.Digit
import Templating.Yaml.Cursor

/-!
# Scanning scalars

The four ways in which a scalar stands in a text: plain, between single quotes, between double
quotes, and as a block. A line break inside a scalar folds to a space, and further ones are kept;
literal blocks keep all of them.
-/

namespace Templating.Yaml

/-- The blanks and breaks between two parts of a scalar. -/
structure Gap where
  /-- Blanks of the line, when no break follows them. -/
  blanks : List Char := []
  /-- The first break and those after it. -/
  firstBreak : List Char := []
  laterBreaks : List Char := []
  hasBreak : Bool := false

/-- What a gap leaves in the scalar. -/
def Gap.folded (gap : Gap) : List Char :=
  if !gap.hasBreak then gap.blanks
  else if gap.firstBreak == ['\n'] then
    if gap.laterBreaks.isEmpty then [' '] else gap.laterBreaks
  else gap.firstBreak ++ gap.laterBreaks

/-- Moves over blanks and breaks. After a break a tab left of column `tabLimit` is refused. -/
def scanGap? (tabLimit : Nat) : Nat → Gap → Cursor → Option (Gap × Cursor)
  | 0, gap, cursor => some (gap, cursor)
  | fuel + 1, gap, cursor =>
      match cursor.rest with
      | [] => some (gap, cursor)
      | c :: _ =>
          if isSpaceOrTab c then
            if gap.hasBreak then
              if c == '\t' && cursor.column < tabLimit then none
              else scanGap? tabLimit fuel gap (cursor.skip 1)
            else scanGap? tabLimit fuel { gap with blanks := gap.blanks ++ [c] } (cursor.skip 1)
          else if isBreak c then
            let (text, next) := cursor.takeBreak
            if gap.hasBreak then
              scanGap? tabLimit fuel { gap with laterBreaks := gap.laterBreaks ++ text } next
            else
              scanGap? tabLimit fuel { gap with blanks := [], firstBreak := text, hasBreak := true }
                next
          else some (gap, cursor)

def isFlowMark (c : Char) : Bool :=
  c == ',' || c.toNat == 0x5b || c.toNat == 0x5d || c.toNat == 0x7b || c.toNat == 0x7d

/-- The characters of a plain scalar up to a blank or a mark that ends it. A colon before a flow
mark inside a flow collection is refused. -/
def plainRun? (inFlow : Bool) : List Char → Option (List Char)
  | [] => some []
  | c :: rest =>
      if startsBlank [c] then some []
      else if inFlow && c == ':' && rest.head?.any (fun d => isFlowMark d || d == '?') then none
      else if (c == ':' && startsBlank rest) || (inFlow && isFlowMark c) then some []
      else (plainRun? inFlow rest).map (c :: ·)

/-- A plain scalar, whether a break follows it, and the place after it. `gap` is what was passed
since the last character taken in. -/
def scanPlainFrom? (inFlow : Bool) (indent : Nat) :
    Nat → Gap → Cursor → Option (List Char × Bool × Cursor)
  | 0, _, _ => none
  | fuel + 1, gap, cursor =>
      if cursor.atDocumentMark || cursor.rest.head? == some '#' then
        some ([], gap.hasBreak, cursor)
      else do
        let run ← plainRun? inFlow cursor.rest
        let cursor := cursor.skip run.length
        let (text, gap) := if run.isEmpty then ([], gap) else (gap.folded ++ run, {})
        match cursor.rest with
        | [] => some (text, gap.hasBreak, cursor)
        | c :: _ =>
            if !(isSpaceOrTab c || isBreak c) then some (text, gap.hasBreak, cursor)
            else do
              let (gap, next) ← scanGap? indent cursor.ahead gap cursor
              if !inFlow && next.column < indent then some (text, gap.hasBreak, next)
              else
                let (others, broken, next) ← scanPlainFrom? inFlow indent fuel gap next
                return (text ++ others, broken, next)

def scanPlain? (inFlow : Bool) (indent : Nat) (cursor : Cursor) :
    Option (List Char × Bool × Cursor) :=
  scanPlainFrom? inFlow indent (cursor.ahead + 1) {} cursor

/-- The character whose code stands in the first `width` hexadecimal digits. -/
def codeEscape? (width : Nat) (rest : List Char) : Option Char := do
  let digits := rest.take width
  if digits.length ≠ width then none
  else (Text.readBase? 16 digits).bind Text.charOf?

/-- The character of an escape between double quotes and how many characters it takes after the
backslash. -/
def escape? : List Char → Option (Char × Nat)
  | [] => none
  | letter :: rest =>
      let one := fun (code : Nat) => some (Char.ofNat code, 1)
      match letter with
      | '0' => one 0x00
      | 'a' => one 0x07
      | 'b' => one 0x08
      | 't' => one 0x09
      | '\t' => one 0x09
      | 'n' => one 0x0a
      | 'v' => one 0x0b
      | 'f' => one 0x0c
      | 'r' => one 0x0d
      | 'e' => one 0x1b
      | ' ' => one 0x20
      | '"' => one 0x22
      | '/' => one 0x2f
      | '\\' => one 0x5c
      | 'N' => one 0x85
      | '_' => one 0xa0
      | 'L' => one 0x2028
      | 'P' => one 0x2029
      | 'x' => (codeEscape? 2 rest).map fun c => (c, 3)
      | 'u' => (codeEscape? 4 rest).map fun c => (c, 5)
      | 'U' => (codeEscape? 8 rest).map fun c => (c, 9)
      | _ => none

/-- The characters of a quoted scalar up to a blank or the closing quote, how many characters they
take, and whether a break that is escaped ended them. `isBreak` tells the breaks. -/
def quotedRun? (isBreak : Char → Bool) (single : Bool) :
    Nat → List Char → Option (List Char × Nat × Bool)
  | 0, _ => some ([], 0, false)
  | _ + 1, [] => some ([], 0, false)
  | fuel + 1, c :: rest =>
      let go := fun (c : Char) (width : Nat) (rest : List Char) =>
        (quotedRun? isBreak single fuel rest).map fun parts =>
          (c :: parts.1, width + parts.2.1, parts.2.2)
      if isSpaceOrTab c || isBreak c then some ([], 0, false)
      else if single then
        if c ≠ '\'' then go c 1 rest
        else if rest.head? == some '\'' then go c 2 (rest.drop 1)
        else some ([], 0, false)
      else if c == '"' then some ([], 0, false)
      else if c ≠ '\\' then go c 1 rest
      else if rest.head?.any isBreak then some ([], 1, true)
      else
        match escape? rest with
        | none => none
        | some (character, width) => go character (width + 1) (rest.drop width)

/-- The rest of a quoted scalar and the place after its closing quote. -/
def scanQuotedFrom? (single : Bool) : Nat → Cursor → Option (List Char × Cursor)
  | 0, _ => none
  | fuel + 1, cursor =>
      if cursor.atDocumentMark || cursor.rest.isEmpty then none
      else do
        let (run, width, broken) ← quotedRun? isBreak single cursor.ahead cursor.rest
        let next := cursor.skip width
        let next := if broken then next.skipBreak else next
        if next.rest.head? == some (if single then '\'' else '"') then some (run, next.skip 1)
        else
          let (gap, next) ← scanGap? 0 next.ahead { hasBreak := broken } next
          let (others, next) ← scanQuotedFrom? single fuel next
          return (run ++ gap.folded ++ others, next)

def scanQuoted? (single : Bool) (cursor : Cursor) : Option (List Char × Cursor) :=
  scanQuotedFrom? single (cursor.ahead + 1) (cursor.skip 1)

/-- What the end of a block keeps of its line breaks. -/
inductive Chomp where
  | strip
  | clip
  | keep
  deriving DecidableEq

def chomp? : Char → Option Chomp
  | '+' => some .keep
  | '-' => some .strip
  | _ => none

/-- The head of a block: how its end is chomped, its indentation if it is said, and how many
characters say so. -/
def blockHead? (text : List Char) : Option (Chomp × Option Nat × Nat) :=
  let digit := fun (c : Char) => if c.isDigit then some (c.toNat - 0x30) else none
  match text with
  | [] => some (.clip, none, 0)
  | first :: rest =>
      let second := rest.head?
      match chomp? first, digit first with
      | some chomp, _ =>
          match second.bind digit with
          | some 0 => none
          | some width => some (chomp, some width, 2)
          | none => some (chomp, none, 1)
      | none, some 0 => none
      | none, some width =>
          match second.bind chomp? with
          | some chomp => some (chomp, some width, 2)
          | none => some (.clip, some width, 1)
      | none, none => some (.clip, none, 0)

/-- The empty lines before a line of a block. Without a known indentation the widest of them is
measured. A tab in place of an indentation is refused. -/
def blockBreaks? (indent : Option Nat) :
    Nat → Nat → List Char → Cursor → Option (Nat × List Char × Cursor)
  | 0, _, _, _ => none
  | fuel + 1, widest, breaks, cursor =>
      let room := match indent with
        | some indent => indent - cursor.column
        | none => cursor.ahead
      let cursor := cursor.skip ((cursor.rest.take room).takeWhile (· == ' ')).length
      let widest := max widest cursor.column
      let inside := match indent with
        | some indent => cursor.column < indent
        | none => true
      if inside && cursor.rest.head? == some '\t' then none
      else if !cursor.rest.isEmpty && startsBreak cursor.rest then
        let (text, next) := cursor.takeBreak
        blockBreaks? indent fuel widest (breaks ++ text) next
      else some (widest, breaks, cursor)

/-- What stands between two lines of a folded block. -/
def blockJoin (literal blankBefore blankAfter : Bool) (lineBreak breaks : List Char) :
    List Char :=
  if !literal && lineBreak == ['\n'] && !blankBefore && !blankAfter then
    if breaks.isEmpty then [' '] else breaks
  else lineBreak ++ breaks

/-- The lines of a block, with the break after the last line and the empty lines after it. -/
def blockLines? (literal : Bool) (indent : Nat) :
    Nat → Bool → List Char → List Char → Cursor →
      Option (List Char × List Char × List Char × Cursor)
  | 0, _, _, _, _ => none
  | fuel + 1, blankBefore, lineBreak, breaks, cursor =>
      if cursor.column ≠ indent || cursor.rest.isEmpty then some ([], lineBreak, breaks, cursor)
      else do
        let blank := cursor.rest.head?.any isSpaceOrTab
        let line := cursor.rest.takeWhile fun c => !isBreak c
        let text := blockJoin literal blankBefore blank lineBreak breaks ++ line
        let (lineBreak, cursor) := (cursor.skip line.length).takeBreak
        let (_, breaks, cursor) ← blockBreaks? (some indent) (cursor.ahead + 1) 0 [] cursor
        let (others, after) ← blockLines? literal indent fuel blank lineBreak breaks cursor
        return (text ++ others, after)

/-- A block scalar inside a level of the given column, which is -1 around the whole text. -/
def scanBlock? (literal : Bool) (level : Int) (cursor : Cursor) : Option (List Char × Cursor) := do
  let (chomp, width, taken) ← blockHead? (cursor.rest.drop 1)
  let cursor := (cursor.skip (taken + 1)).skipWhile isSpaceOrTab
  let cursor :=
    if cursor.rest.head? == some '#' then cursor.skipWhile fun c => !isBreak c else cursor
  if !startsBreak cursor.rest then none
  else
    let cursor := cursor.skipBreak
    let said := width.map fun width => level.toNat + width
    let (widest, breaks, cursor) ← blockBreaks? said (cursor.ahead + 1) 0 [] cursor
    let indent := said.getD (max widest (max (level + 1).toNat 1))
    let (text, lineBreak, breaks, cursor) ←
      blockLines? literal indent (cursor.ahead + 1) false [] breaks cursor
    let tail := match chomp with
      | .strip => []
      | .clip => lineBreak
      | .keep => lineBreak ++ breaks
    return (text ++ tail, cursor)

end Templating.Yaml
