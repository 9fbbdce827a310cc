/-!
# Text and bytes

The length of a text is also counted in bytes of UTF-8. UTF-8 is read byte by byte. A sequence that
breaks off, and a byte that starts none, leave one replacement character each, so every byte list
has a text; the strict reader gives none to such bytes.
-/

namespace Templating.Text

/-- The bytes of a text in UTF-8. -/
def byteLength (text : List Char) : Nat :=
  text.foldr (fun c length => c.utf8Size + length) 0

theorem byteLength_append (first second : List Char) :
    byteLength (first ++ second) = byteLength first + byteLength second := by
  induction first with
  | nil => exact (Nat.zero_add _).symm
  | cons c first ih =>
      change c.utf8Size + byteLength (first ++ second) = c.utf8Size + byteLength first + _
      rw [ih, Nat.add_assoc]

theorem utf8ByteSize_ofList (text : List Char) :
    (String.ofList text).utf8ByteSize = byteLength text := by
  induction text with
  | nil => rfl
  | cons c text ih =>
      rw [String.ofList_cons, String.utf8ByteSize_append, String.utf8ByteSize_singleton, ih]
      rfl

def replacement : Char := Char.ofNat 0xfffd

/-- A sequence whose first bytes were read: their bits, how many bytes are missing, and where the
next of them may lie. -/
structure Unfinished where
  code : Nat
  missing : Nat
  low : Nat := 0x80
  high : Nat := 0xbf

/-- The sequence that a byte starts. Ranges of the second byte keep out what has a shorter form,
surrogates, and numbers beyond the last character. -/
def leading? (byte : Nat) : Option Unfinished :=
  if byte < 0xc2 then none
  else if byte < 0xe0 then some { code := byte - 0xc0, missing := 1 }
  else if byte = 0xe0 then some { code := 0, missing := 2, low := 0xa0 }
  else if byte = 0xed then some { code := 13, missing := 2, high := 0x9f }
  else if byte < 0xf0 then some { code := byte - 0xe0, missing := 2 }
  else if byte = 0xf0 then some { code := 0, missing := 3, low := 0x90 }
  else if byte < 0xf4 then some { code := byte - 0xf0, missing := 3 }
  else if byte = 0xf4 then some { code := 4, missing := 3, high := 0x8f }
  else none

/-- A byte between sequences: the characters that are done, and the sequence that was started. -/
def firstByte (byte : Nat) : List Char × Option Unfinished :=
  if byte < 0x80 then ([Char.ofNat byte], none)
  else
    match leading? byte with
    | some sequence => ([], some sequence)
    | none => ([replacement], none)

def nextByte (sequence : Unfinished) (byte : Nat) : List Char × Option Unfinished :=
  if sequence.low ≤ byte && byte ≤ sequence.high then
    let code := sequence.code * 64 + byte % 64
    if sequence.missing = 1 then ([Char.ofNat code], none)
    else ([], some { code := code, missing := sequence.missing - 1 })
  else
    let (characters, started) := firstByte byte
    (replacement :: characters, started)

def decodeFrom (pending : Option Unfinished) : List Nat → List Char
  | [] => if pending.isSome then [replacement] else []
  | byte :: rest =>
      let (characters, next) := match pending with
        | some sequence => nextByte sequence byte
        | none => firstByte byte
      characters ++ decodeFrom next rest

/-- The text of bytes. -/
def decode (bytes : List Nat) : List Char := decodeFrom none bytes

/-- The text of bytes that are UTF-8 throughout. -/
def decodeStrictly? (bytes : List Nat) : Option String :=
  String.fromUTF8? ⟨(bytes.map UInt8.ofNat).toArray⟩

end Templating.Text
