import Templating.Yaml.ScalarScan
import Templating.Yaml12.Cursor

/-!
# Scanning YAML 1.2 scalars

The four ways in which a scalar stands in a text. Lines of a scalar must be indented more than the
block around it; a tab does not indent, though lines of nothing but blanks may hold one.
-/

namespace Templating.Yaml12

open Yaml (isSpaceOrTab isFlowMark Gap Chomp quotedRun? blockHead? blockJoin)

/-- Moves over blanks and breaks. After a break a tab left of column `limit` is refused, unless
`blankLines` allows it where nothing else follows in its line. -/
def scanGap? (limit : Int) (blankLines : Bool) : Nat → Gap → Cursor → Option (Gap × Cursor)
  | 0, gap, cursor => some (gap, cursor)
  | fuel + 1, gap, cursor =>
      match cursor.rest with
      | [] => some (gap, cursor)
      | c :: _ =>
          if isSpaceOrTab c then
            if !gap.hasBreak then
              scanGap? limit blankLines fuel { gap with blanks := gap.blanks ++ [c] }
                (cursor.skipBlanks 1)
            else if c == '\t' && cursor.column < limit then
              if !blankLines then none
              else do
                let next ← cursor.skipComment? true
                if startsBreak next.rest then scanGap? limit blankLines fuel gap next else none
            else scanGap? limit blankLines fuel gap (cursor.skipBlanks 1)
          else if isBreak c then
            let gap :=
              if gap.hasBreak then { gap with laterBreaks := gap.laterBreaks ++ ['\n'] }
              else { gap with blanks := [], firstBreak := ['\n'], hasBreak := true }
            scanGap? limit blankLines fuel gap cursor.skipBreak
          else some (gap, cursor)

/-- The characters of a plain scalar up to a blank or a mark that ends it. -/
def plainRun (inFlow : Bool) : List Char → List Char
  | [] => []
  | c :: rest =>
      let colon := c == ':' && (startsBlank rest || (inFlow && rest.head?.any isFlowMark))
      if startsBlank [c] || colon || (inFlow && isFlowMark c) then []
      else c :: plainRun inFlow rest

def scanPlainFrom? (inFlow : Bool) (indent : Int) :
    Nat → Gap → Cursor → Option (List Char × Cursor)
  | 0, _, _ => none
  | fuel + 1, gap, cursor =>
      let dash := cursor.rest.head? == some '-' && (cursor.rest.drop 1).head?.any isFlowMark
      if cursor.atDocumentMark || cursor.rest.head? == some '#' then some ([], cursor)
      else if inFlow && dash then none
      else do
        let run := plainRun inFlow cursor.rest
        let cursor := cursor.skip run.length
        let (text, gap) := if run.isEmpty then ([], gap) else (gap.folded ++ run, {})
        if cursor.rest.isEmpty || !startsBlank cursor.rest then some (text, cursor)
        else do
          let (gap, next) ← scanGap? indent true cursor.ahead gap cursor
          if !inFlow && next.column < indent then some (text, next)
          else
            let (others, next) ← scanPlainFrom? inFlow indent fuel gap next
            return (text ++ others, next)

/-- A plain scalar whose lines stand at column `indent` or to the right of it, and the place after
it. -/
def scanPlain? (inFlow : Bool) (indent : Int) (cursor : Cursor) : Option (List Char × Cursor) :=
  if inFlow && cursor.column < indent then none
  else scanPlainFrom? inFlow indent (cursor.ahead + 1) {} cursor

/-- The rest of a quoted scalar and the place after its closing quote. -/
def scanQuotedFrom? (single : Bool) (indent : Int) : Nat → Cursor → Option (List Char × Cursor)
  | 0, _ => none
  | fuel + 1, cursor =>
      if cursor.atDocumentMark || cursor.rest.isEmpty || cursor.column < indent then none
      else do
        let (run, width, broken) ← quotedRun? isBreak single cursor.ahead cursor.rest
        let next := cursor.skip width
        let next := if broken then next.skipBreak else next
        if next.rest.head? == some (if single then '\'' else '"') then some (run, next.skip 1)
        else
          let (gap, next) ← scanGap? indent false next.ahead { hasBreak := broken } next
          let (others, next) ← scanQuotedFrom? single indent fuel next
          return (run ++ gap.folded ++ others, next)

/-- A quoted scalar and the place after it. Only a colon, an end of the line, or inside brackets
the next mark may follow it. -/
def scanQuoted? (single inFlow : Bool) (indent : Int) (cursor : Cursor) :
    Option (List Char × Cursor) := do
  let (text, next) ← scanQuotedFrom? single indent (cursor.ahead + 1) (cursor.skip 1)
  let next ← next.skipComment? true
  let follows := fun (c : Char) =>
    if c == ':' then inFlow || cursor.line = next.line
    else inFlow && (c == ',' || c == ']' || c.toNat == 0x7d)
  if startsBreak next.rest || next.rest.head?.any follows then some (text, next) else none

/-- Moves over the indentation of the next line of a block, and over the blank lines before it;
gives the breaks of those. -/
def skipIndent (indent : Nat) : Nat → List Char → Cursor → List Char × Cursor
  | 0, breaks, cursor => (breaks, cursor)
  | fuel + 1, breaks, cursor =>
      let room := cursor.rest.take (indent - cursor.column)
      let cursor := cursor.skipBlanks (room.takeWhile (· == ' ')).length
      if !cursor.rest.isEmpty && startsBreak cursor.rest then
        skipIndent indent fuel (breaks ++ ['\n']) cursor.skipBreak
      else (breaks, cursor)

/-- The same where the indentation is not known: the widest of the lines is measured too. -/
def measureIndent : Nat → Nat → List Char → Cursor → Nat × List Char × Cursor
  | 0, widest, breaks, cursor => (widest, breaks, cursor)
  | fuel + 1, widest, breaks, cursor =>
      let cursor := cursor.skipBlanks (cursor.rest.takeWhile (· == ' ')).length
      let widest := max widest cursor.column
      if !cursor.rest.isEmpty && startsBreak cursor.rest then
        measureIndent fuel widest (breaks ++ ['\n']) cursor.skipBreak
      else (widest, breaks, cursor)

/-- The lines of a block, with the break after the last line and the blank lines after it. -/
def blockLines (literal : Bool) (indent : Nat) :
    Nat → Bool → List Char → List Char → Cursor → List Char × List Char × List Char × Cursor
  | 0, _, lineBreak, breaks, cursor => ([], lineBreak, breaks, cursor)
  | fuel + 1, blankBefore, lineBreak, breaks, cursor =>
      if cursor.column ≠ indent || cursor.rest.isEmpty || (indent = 0 && cursor.atDocumentEnd) then
        ([], lineBreak, breaks, cursor)
      else
        let blank := cursor.rest.head?.any isSpaceOrTab
        let line := cursor.rest.takeWhile fun c => !isBreak c
        let text := blockJoin literal blankBefore blank lineBreak breaks ++ line
        let cursor := cursor.skip line.length
        if cursor.rest.isEmpty then (text, [], [], cursor)
        else
          let (breaks, cursor) := skipIndent indent (cursor.ahead + 1) [] cursor.skipBreak
          let (others, after) := blockLines literal indent fuel blank ['\n'] breaks cursor
          (text ++ others, after)

/-- What a block without lines leaves; `broken` says that its head had a break after it. -/
def emptyBlock (chomp : Chomp) (broken : Bool) (breaks : List Char) : List Char :=
  match chomp with
  | .strip => []
  | .clip => if broken then ['\n'] else []
  | .keep => if !breaks.isEmpty then breaks else if broken then ['\n'] else []

/-- A block scalar inside a level of the given column, which is -1 around the whole text. -/
def scanBlock? (literal : Bool) (level : Int) (cursor : Cursor) : Option (List Char × Cursor) := do
  let (chomp, width, taken) ← blockHead? (cursor.rest.drop 1)
  let head ← (cursor.skip (taken + 1)).skipComment? true
  let start := head.skipBreak
  if !startsBreak head.rest || start.rest.head? == some '\t' then none
  else
    let fuel := start.ahead + 1
    let (indent, breaks, next) := match width with
      | some width =>
          let indent := level.toNat + width
          (indent, skipIndent indent fuel [] start)
      | none =>
          let (widest, breaks, next) := measureIndent fuel 0 [] start
          (max widest (level + 1).toNat, breaks, next)
    if next.rest.isEmpty then
      return (emptyBlock chomp (next.line ≠ cursor.line) breaks, next)
    else if next.column < indent && level < next.column then none
    else
      let (text, lineBreak, breaks, next) := blockLines literal indent fuel false [] breaks next
      let final := if next.rest.isEmpty && max indent 1 ≤ next.column then ['\n'] else []
      let tail := match chomp with
        | .strip => []
        | .clip => lineBreak ++ final
        | .keep => lineBreak ++ final ++ breaks
      return (text ++ tail, next)

end Templating.Yaml12
