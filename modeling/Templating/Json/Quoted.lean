import Templating.Text.Digit

/-!
# Quoted JSON text

Inside quotes a quote, a backslash and the controls are written with a backslash. Reading accepts
every escape of the format; a code beyond sixteen bits is written as two halves, and a half alone
is refused.
-/

namespace Templating.Json

def hexDigit (value : Nat) : Char := Nat.digitChar value

def quotedChar (c : Char) : List Char :=
  if c = '"' then ['\\', '"']
  else if c = '\\' then ['\\', '\\']
  else if c = '\x08' then ['\\', 'b']
  else if c = '\x0c' then ['\\', 'f']
  else if c = '\n' then ['\\', 'n']
  else if c = '\r' then ['\\', 'r']
  else if c = '\t' then ['\\', 't']
  else if c.toNat < 0x20 then
    ['\\', 'u', '0', '0', hexDigit (c.toNat / 16), hexDigit (c.toNat % 16)]
  else [c]

def quoted (text : List Char) : List Char := '"' :: text.flatMap quotedChar ++ ['"']

/-- The text up to the closing quote, escapes untouched, and what follows the quote. -/
def body? : List Char → Option (List Char × List Char)
  | [] => none
  | '"' :: rest => some ([], rest)
  | '\\' :: c :: rest => (body? rest).map fun parts => ('\\' :: c :: parts.1, parts.2)
  | c :: rest => (body? rest).map fun parts => (c :: parts.1, parts.2)

theorem length_body?_lt {text body rest : List Char} (found : body? text = some (body, rest)) :
    rest.length < text.length := by
  fun_induction body? text generalizing body rest with
  | case1 => simp at found
  | case2 => simp at found; simp [found.2]
  | case3 c tail ih =>
      simp only [Option.map_eq_some_iff] at found
      obtain ⟨parts, inner, equal⟩ := found
      cases equal
      have := ih inner
      simp only [List.length_cons]; omega
  | case4 c tail _ _ ih =>
      simp only [Option.map_eq_some_iff] at found
      obtain ⟨parts, inner, equal⟩ := found
      cases equal
      have := ih inner
      simp only [List.length_cons]; omega

/-- The number that four digits of an escape stand for. -/
def unit? (a b c d : Char) : Option Nat := Text.readBase? 16 [a, b, c, d]

def isHighHalf (code : Nat) : Bool := 0xd800 ≤ code && code ≤ 0xdbff

def isLowHalf (code : Nat) : Bool := 0xdc00 ≤ code && code ≤ 0xdfff

/-- The character of an escape letter. -/
def escapeLetter? : Char → Option Char
  | '"' => some '"'
  | '\\' => some '\\'
  | '/' => some '/'
  | 'b' => some '\x08'
  | 'f' => some '\x0c'
  | 'n' => some '\n'
  | 'r' => some '\r'
  | 't' => some '\t'
  | _ => none

/-- The text between two quotes. -/
def unquote? : List Char → Option (List Char)
  | [] => some []
  | '\\' :: 'u' :: a :: b :: c :: d :: '\\' :: 'u' :: e :: f :: g :: h :: rest => do
      let first ← unit? a b c d
      if isHighHalf first then
        let second ← unit? e f g h
        if isLowHalf second then
          let code := 0x10000 + (first - 0xd800) * 0x400 + (second - 0xdc00)
          (unquote? rest).map (Char.ofNat code :: ·)
        else none
      else if isLowHalf first then none
      else (unquote? ('\\' :: 'u' :: e :: f :: g :: h :: rest)).map (Char.ofNat first :: ·)
  | '\\' :: 'u' :: a :: b :: c :: d :: rest => do
      let code ← unit? a b c d
      if isHighHalf code || isLowHalf code then none
      else (unquote? rest).map (Char.ofNat code :: ·)
  | '\\' :: letter :: rest => do
      let c ← escapeLetter? letter
      (unquote? rest).map (c :: ·)
  | c :: rest => if c.toNat < 0x20 || c = '\\' then none else (unquote? rest).map (c :: ·)

end Templating.Json
