import Templating.Json.Reading
import Templating.Proofs.Binary64.Scaling

/-!
# Floats of a text are finite

A number too large for a float is refused, and the power of ten that scales the digits is chosen
small enough to be a float itself. So whatever is read from a text, no number in it is infinite or
no number at all.
-/

namespace Templating.Json

open Binary64

/-! ## Numbers -/

def Number.Finite : Number → Prop
  | float value => value.isFinite = true
  | _ => True

theorem gather_lt {word : Nat} (digits : List Char) (fits : word < UInt64.size) :
    (gather word digits).1 < UInt64.size := by
  induction digits generalizing word with
  | nil => exact fits
  | cons c rest ih =>
      rw [gather]
      split
      case isTrue below => exact ih below
      case isFalse => exact fits

theorem lt_limit {word : Nat} (fits : word < UInt64.size) : word < limit :=
  fits.trans_le (show 2 ^ 64 ≤ middle 970 from two_pow_le_middle (by decide))

/-- A product is looked at, and quotients are taken by at most two powers that are floats. -/
theorem isFinite_of_scale? {word : Nat} {power : Int} {value : Float} (fits : word < UInt64.size)
    (scaled : scale? word power = some value) : value.isFinite = true := by
  have start : (Float.ofNat word).isFinite = true := isFinite_ofNat (lt_limit fits)
  unfold scale? at scaled
  dsimp only at scaled
  split at scaled
  case isTrue whole =>
    split at scaled
    case isTrue few =>
      split at scaled
      case isTrue => cases scaled
      case isFalse bounded =>
        cases scaled
        exact isFinite_mul_of_not_isInf start (isFinite_powerOfTen (by omega))
          (Bool.eq_false_iff.mpr bounded)
    case isFalse =>
      -- Beyond the powers that are floats, only zero has a product.
      split at scaled
      case isTrue => cases scaled; exact start
      case isFalse => cases scaled
  case isFalse fraction =>
    split at scaled
    case isTrue near =>
      cases scaled
      exact isFinite_div_powerOfTen start (by omega) (by omega)
    case isFalse =>
      split at scaled
      case isTrue => cases scaled; exact start
      case isFalse =>
        have reduced : (Float.ofNat word / powerOfTen 308).isFinite = true :=
          isFinite_div_powerOfTen start (by decide) (by decide)
        split at scaled
        case isTrue => cases scaled; exact isFinite_div_powerOfTen reduced (by omega) (by omega)
        case isFalse => cases scaled; rfl

theorem Numeral.isFinite_of_magnitude? {numeral : Numeral} {value : Float}
    (read : numeral.magnitude? = some value) : value.isFinite = true := by
  have word : (gather 0 numeral.whole).1 < UInt64.size := gather_lt numeral.whole (by decide)
  have significand := gather_lt (numeral.fraction.getD []) word
  unfold magnitude? at read
  dsimp only at read
  split at read
  case h_1 => exact isFinite_of_scale? significand read
  case h_2 =>
    split at read
    case isTrue => cases read; rfl
    case isFalse => cases read

theorem Numeral.finite_of_value? {numeral : Numeral} {number : Number}
    (read : numeral.value? = some number) : number.Finite := by
  have asFloat : ∀ {number : Number}, (numeral.magnitude?.map fun magnitude =>
      Number.float (if numeral.negative then -magnitude else magnitude)) = some number →
        number.Finite := by
    intro number found
    obtain ⟨magnitude, some, rfl⟩ := Option.map_eq_some_iff.mp found
    have finite := isFinite_of_magnitude? some
    split
    · exact (isFinite_neg magnitude).trans finite
    · exact finite
  unfold value? at read
  dsimp only at read
  split at read
  case isTrue => exact asFloat read
  case isFalse =>
    split at read
    case isTrue => cases read; trivial
    case isFalse =>
      split at read
      case isTrue => exact asFloat read
      case isFalse => cases read; trivial

theorem finite_of_number? {text : List Char} {number : Number}
    (read : number? text = some number) : number.Finite := by
  obtain ⟨numeral, -, valued⟩ := Option.bind_eq_some_iff.mp read
  exact numeral.finite_of_value? valued

/-! ## Lexemes -/

def Lexeme.Finite : Lexeme → Prop
  | number value => value.Finite
  | _ => True

theorem finite_of_markLexeme? {c : Char} {lexeme : Lexeme} (read : markLexeme? c = some lexeme) :
    lexeme.Finite := by
  unfold markLexeme? at read
  split at read <;> cases read <;> trivial

def Lexeme.AllFinite (lexemes : List Lexeme) : Prop := ∀ lexeme ∈ lexemes, lexeme.Finite

theorem Lexeme.AllFinite.tail {first : Lexeme} {rest : List Lexeme}
    (finite : AllFinite (first :: rest)) : AllFinite rest :=
  (List.forall_mem_cons.mp finite).2

theorem allFinite_of_map_cons {first : Lexeme} {others : Option (List Lexeme)}
    {lexemes : List Lexeme} (read : others.map (first :: ·) = some lexemes)
    (later : ∀ {rest}, others = some rest → Lexeme.AllFinite rest) (finite : first.Finite) :
    Lexeme.AllFinite lexemes := by
  obtain ⟨rest, found, rfl⟩ := Option.map_eq_some_iff.mp read
  exact List.forall_mem_cons.mpr ⟨finite, later found⟩

theorem allFinite_of_lexemes? {text : List Char} {lexemes : List Lexeme}
    (read : lexemes? text = some lexemes) : Lexeme.AllFinite lexemes := by
  fun_induction lexemes? text generalizing lexemes with
  | case1 => cases read; exact fun _ member => nomatch member
  | case2 rest ih => exact allFinite_of_map_cons read ih trivial
  | case3 rest ih => exact allFinite_of_map_cons read ih trivial
  | case4 rest ih => exact allFinite_of_map_cons read ih trivial
  | case5 c rest _ _ _ space ih => exact ih read
  | case6 => cases read
  | case7 rest body tail found _ _ _ space ih =>
      obtain ⟨content, -, read⟩ := Option.bind_eq_some_iff.mp read
      obtain ⟨others, later, equal⟩ := Option.bind_eq_some_iff.mp read
      cases equal
      exact List.forall_mem_cons.mpr ⟨trivial, ih later⟩
  | case8 c rest _ _ _ space mark digit ih =>
      obtain ⟨value, number, read⟩ := Option.bind_eq_some_iff.mp read
      obtain ⟨others, later, equal⟩ := Option.bind_eq_some_iff.mp read
      cases equal
      exact List.forall_mem_cons.mpr ⟨finite_of_number? number, ih later⟩
  | case9 c rest _ _ _ space mark digit ih =>
      obtain ⟨value, single, read⟩ := Option.bind_eq_some_iff.mp read
      obtain ⟨others, later, equal⟩ := Option.bind_eq_some_iff.mp read
      cases equal
      exact List.forall_mem_cons.mpr ⟨finite_of_markLexeme? single, ih later⟩

/-! ## Trees -/

mutual

def Tree.Finite : Tree → Prop
  | .number value => value.Finite
  | .array items => FiniteItems items
  | .object members => FiniteMembers members
  | _ => True

def Tree.FiniteItems : List Tree → Prop
  | [] => True
  | item :: rest => item.Finite ∧ FiniteItems rest

def Tree.FiniteMembers : List (String × Tree) → Prop
  | [] => True
  | (_, item) :: rest => item.Finite ∧ FiniteMembers rest

end

/-- What the readers make of lexemes with finite numbers has finite numbers, and so has the rest. -/
structure KeepsFinite (fuel : Nat) : Prop where
  value : ∀ {lexemes tree rest}, value? fuel lexemes = some (tree, rest) →
    Lexeme.AllFinite lexemes → tree.Finite ∧ Lexeme.AllFinite rest
  items : ∀ {lexemes items rest}, items? fuel lexemes = some (items, rest) →
    Lexeme.AllFinite lexemes → Tree.FiniteItems items ∧ Lexeme.AllFinite rest
  members : ∀ {lexemes members rest}, members? fuel lexemes = some (members, rest) →
    Lexeme.AllFinite lexemes → Tree.FiniteMembers members ∧ Lexeme.AllFinite rest

variable {fuel : Nat} {lexemes rest : List Lexeme}

theorem keepsFinite_zero : KeepsFinite 0 where
  value read := by cases read
  items read := by cases read
  members read := by cases read

theorem KeepsFinite.value_succ (keeps : KeepsFinite fuel) {tree : Tree}
    (read : value? (fuel + 1) lexemes = some (tree, rest)) (finite : Lexeme.AllFinite lexemes) :
    tree.Finite ∧ Lexeme.AllFinite rest := by
  unfold value? at read
  split at read
  case h_1 => cases read
  case h_2 => cases read; exact ⟨trivial, finite.tail⟩
  case h_3 => cases read; exact ⟨trivial, finite.tail⟩
  case h_4 => cases read; exact ⟨finite _ List.mem_cons_self, finite.tail⟩
  case h_5 => cases read; exact ⟨trivial, finite.tail⟩
  case h_6 => cases read; exact ⟨trivial, finite.tail.tail⟩
  case h_7 same =>
    cases same
    obtain ⟨parts, some, equal⟩ := Option.map_eq_some_iff.mp read
    cases equal
    exact keeps.items some finite.tail
  case h_8 => cases read; exact ⟨trivial, finite.tail.tail⟩
  case h_9 same =>
    cases same
    obtain ⟨parts, some, equal⟩ := Option.map_eq_some_iff.mp read
    cases equal
    exact keeps.members some finite.tail
  case h_10 => cases read

theorem KeepsFinite.items_succ (keeps : KeepsFinite fuel) {items : List Tree}
    (read : items? (fuel + 1) lexemes = some (items, rest)) (finite : Lexeme.AllFinite lexemes) :
    Tree.FiniteItems items ∧ Lexeme.AllFinite rest := by
  rw [items?] at read
  split at read
  case h_1 item after found =>
    cases read
    have here := keeps.value found finite
    exact ⟨⟨here.1, trivial⟩, here.2.tail⟩
  case h_2 item after found =>
    obtain ⟨parts, some, equal⟩ := Option.map_eq_some_iff.mp read
    cases equal
    have here := keeps.value found finite
    have later := keeps.items some here.2.tail
    exact ⟨⟨here.1, later.1⟩, later.2⟩
  case h_3 => cases read

theorem KeepsFinite.members_succ (keeps : KeepsFinite fuel) {members : List (String × Tree)}
    (read : members? (fuel + 1) lexemes = some (members, rest))
    (finite : Lexeme.AllFinite lexemes) :
    Tree.FiniteMembers members ∧ Lexeme.AllFinite rest := by
  unfold members? at read
  split at read
  case h_1 => cases read
  case h_2 same =>
    cases same
    split at read
    case h_1 item after found =>
      cases read
      have here := keeps.value found finite.tail.tail
      exact ⟨⟨here.1, trivial⟩, here.2.tail⟩
    case h_2 item after found =>
      obtain ⟨parts, some, equal⟩ := Option.map_eq_some_iff.mp read
      cases equal
      have here := keeps.value found finite.tail.tail
      have later := keeps.members some here.2.tail
      exact ⟨⟨here.1, later.1⟩, later.2⟩
    case h_3 => cases read
  case h_3 => cases read

theorem keepsFinite (fuel : Nat) : KeepsFinite fuel := by
  induction fuel with
  | zero => exact keepsFinite_zero
  | succ fuel ih => exact ⟨ih.value_succ, ih.items_succ, ih.members_succ⟩

/-- No text is read as a tree with a number that is infinite or no number. -/
theorem finite_of_read? {text : String} {tree : Tree} (read : read? text = some tree) :
    tree.Finite := by
  obtain ⟨lexemes, cut, built⟩ := Option.bind_eq_some_iff.mp read
  have finite := allFinite_of_lexemes? cut
  unfold tree? at built
  split at built
  case h_1 found =>
    split at built
    · cases built
      exact ((keepsFinite _).value found finite).1
    · cases built
  case h_2 => cases built

end Templating.Json
