import Templating.Ron.Scalar
import Templating.Text.Comment

/-!
# Reading RON

A value is a scalar, a list, a map, or a structure, whose fields are named or stand in order. A name
alone stands for nothing, and so does a pair of brackets; what `Some` holds stands for itself. A
text may ask for extensions before its value. Here the value must be a map or a structure with
names, in which the last value of a name counts.
-/

namespace Templating.Ron

def isBlank (c : Char) : Bool :=
  let code := c.toNat
  c = ' ' || (0x9 ≤ code && code ≤ 0xd) || code = 0x85 || code = 0x200e || code = 0x200f ||
    code = 0x2028 || code = 0x2029

def afterGap? (text : List Char) : Option (List Char) :=
  Text.afterGap? { isBlank := isBlank, endsLine := (· = '\n'), nested := true } text

/-- The text after a mark that must come next. -/
def mark? (mark : Char) : List Char → Option (List Char)
  | c :: rest => if c = mark then some rest else none
  | [] => none

def extensions : List String :=
  ["unwrap_newtypes", "implicit_some", "unwrap_variant_newtypes", "explicit_struct_names"]

/-- Names of extensions up to the closing bracket. -/
def extensionNames? : Nat → List Char → Option (List Char)
  | 0, _ => none
  | fuel + 1, text => do
      let (name, rest) ← name? text
      if !extensions.contains (String.ofList name) then none
      else
        match ← afterGap? rest with
        | ',' :: rest => do
            let rest ← afterGap? rest
            if (mark? ')' rest).isSome then some rest else extensionNames? fuel rest
        | rest => some rest

/-- The text after the requests for extensions, each of which takes a line of its own as a rule. -/
def afterExtensions? : Nat → List Char → Option (List Char)
  | 0, _ => none
  | fuel + 1, text => do
      let text ← afterGap? text
      match text with
      | '#' :: rest => do
          let rest ← mark? '!' (← afterGap? rest)
          let rest ← mark? '[' (← afterGap? rest)
          let rest ← Text.after? "enable".toList (← afterGap? rest)
          let rest ← mark? '(' (← afterGap? rest)
          let rest ← extensionNames? (rest.length + 1) (← afterGap? rest)
          let rest ← mark? ')' (← afterGap? rest)
          let rest ← mark? ']' (← afterGap? rest)
          afterExtensions? fuel rest
      | text => some text

/-- The name of a field, if one comes next; the text after its colon. -/
def field? (text : List Char) : Option (List Char × List Char) := do
  let (name, rest) ← name? text
  return (name, ← mark? ':' (← afterGap? rest))

/-- A scalar that is written as a name. -/
def word? (name : List Char) : Option Value :=
  if name = "true".toList then some (.bool true)
  else if name = "false".toList then some (.bool false)
  else if name = "None".toList then some .nil
  else if isFloatWord name then (Decimal.readFloat? name).map Value.float
  else none

mutual

/-- One value. `depth` bounds the steps from here into collections and from them to their parts. -/
def value? : Nat → Nat → List Char → Option (Value × List Char)
  | 0, _, _ => none
  | fuel + 1, depth, text =>
      match name? text with
      | some (name, rest) => do
          let rest ← afterGap? rest
          match word? name, rest with
          | some value, rest => some (value, rest)
          | none, '(' :: rest =>
              if name = "Some".toList then held? fuel depth rest else structure? fuel depth rest
          | none, rest => if name = "Some".toList then none else some (.nil, rest)
      | none =>
          match text with
          | '(' :: ')' :: rest => some (.nil, rest)
          | '(' :: rest => structure? fuel depth rest
          | '[' :: rest =>
              match depth with
              | 0 => none
              | depth + 1 => (items? fuel depth ']' rest).map fun parts => (.list parts.1, parts.2)
          | 'b' :: '\'' :: rest => byte? rest
          | c :: rest =>
              if c.toNat = 0x7b then
                match depth with
                | 0 => none
                | depth + 1 =>
                    (members? fuel depth false (Char.ofNat 0x7d) rest).map fun parts =>
                      (.map (Entries.ofPairs parts.1), parts.2)
              else if c.isDigit || isSign c || c = '.' then number? text
              else (text? text).map fun parts => (.string parts.1, parts.2)
          | [] => none

/-- The value in the brackets after `Some`. -/
def held? : Nat → Nat → List Char → Option (Value × List Char)
  | 0, _, _ => none
  | _ + 1, 0, _ => none
  | fuel + 1, depth + 1, text => do
      let (value, rest) ← value? fuel depth (← afterGap? text)
      match ← afterGap? rest with
      | ',' :: rest => return (value, ← mark? ')' (← afterGap? rest))
      | rest => return (value, ← mark? ')' rest)

/-- The fields of a structure after its opening bracket: a colon after a name tells that they are
named. -/
def structure? : Nat → Nat → List Char → Option (Value × List Char)
  | 0, _, _ => none
  | _ + 1, 0, _ => none
  | fuel + 1, depth + 1, text => do
      let text ← afterGap? text
      if (field? text).isSome then
        (members? fuel depth true ')' text).map fun parts =>
          (.map (Entries.ofPairs parts.1), parts.2)
      else (items? fuel depth ')' text).map fun parts => (.list parts.1, parts.2)

/-- Values up to the mark that closes them; a comma may stand after the last one. -/
def items? : Nat → Nat → Char → List Char → Option (List Value × List Char)
  | 0, _, _, _ => none
  | fuel + 1, depth, close, text => do
      let text ← afterGap? text
      match mark? close text, depth with
      | some rest, _ => some ([], rest)
      | none, 0 => none
      | none, inner + 1 =>
          let (item, rest) ← value? fuel inner text
          let rest ← afterGap? rest
          match rest with
          | ',' :: rest =>
              (items? fuel depth close rest).map fun parts => (item :: parts.1, parts.2)
          | rest => return ([item], ← mark? close rest)

/-- Keys with their values up to the mark that closes them. Keys are names in a structure and quoted
text in a map. -/
def members? : Nat → Nat → Bool → Char → List Char → Option (Entries Value × List Char)
  | 0, _, _, _, _ => none
  | fuel + 1, depth, named, close, text => do
      let text ← afterGap? text
      match mark? close text, depth with
      | some rest, _ => some ([], rest)
      | none, 0 => none
      | none, inner + 1 =>
          let (key, rest) ←
            if named then (name? text).map fun parts => (String.ofList parts.1, parts.2)
            else text? text
          let rest ← mark? ':' (← afterGap? rest)
          let (value, rest) ← value? fuel inner (← afterGap? rest)
          let rest ← afterGap? rest
          match rest with
          | ',' :: rest =>
              (members? fuel depth named close rest).map fun parts =>
                ((key, value) :: parts.1, parts.2)
          | rest => return ([(key, value)], ← mark? close rest)

end

def maxDepth : Nat := 128

/-- The entries of a text that is one map or structure. At most two calls stand before the same
character. -/
def entries? (text : String) : Option (Entries Value) := do
  let chars := text.toList
  let start ← afterExtensions? (chars.length + 1) chars
  let (value, rest) ← value? (2 * chars.length + 2) maxDepth start
  let rest ← afterGap? rest
  match value with
  | .map entries => if rest.isEmpty then some entries else none
  | _ => none

end Templating.Ron
