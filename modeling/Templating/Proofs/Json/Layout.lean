import Templating.Proofs.Json.Lexeme

/-!
# Both layouts spell the same lexemes

The compact and the indented text of a tree differ in blanks alone. A part of such a text is
spelled whatever follows it, as long as that does not go on with a character of a number; so parts
can be put together, and each layout is followed along the tree.
-/

namespace Templating.Json

theorem apart_nil : Apart [] := by
  rintro c member
  cases member

theorem apart_cons {c : Char} (other : isNumberChar c = false) (text : List Char) :
    Apart (c :: text) := by
  rintro d member
  cases member
  exact other

/-- Blanks do not stand in numbers. -/
theorem Apart.after {gap text : List Char} (blank : ∀ c ∈ gap, isSpace c = true)
    (apart : Apart text) : Apart (gap ++ text) := by
  cases gap with
  | nil => exact apart
  | cons c gap =>
      refine apart_cons (Bool.eq_false_iff.mpr fun number => ?_) _
      exact absurd (blank c List.mem_cons_self) (ne_true_of_eq_false (number_alone number).2.1)

theorem Spells.after {lexemes : List Lexeme} {gap text : List Char}
    (blank : ∀ c ∈ gap, isSpace c = true) (rest : Spells lexemes text) :
    Spells lexemes (gap ++ text) := by
  induction gap with
  | nil => exact rest
  | cons c others ih =>
      obtain ⟨first, later⟩ := List.forall_mem_cons.mp blank
      exact .blank first (ih later)

/-! ## Parts of a text -/

/-- The lexemes are spelled by `written`, whatever lexemes follow. -/
def Spelled (lexemes : List Lexeme) (written : List Char) : Prop :=
  ∀ ⦃others : List Lexeme⦄ ⦃text : List Char⦄, Apart text → Spells others text →
    Spells (lexemes ++ others) (written ++ text)

namespace Spelled

variable {first second : List Lexeme} {front back gap : List Char}

theorem lexemes?_eq (part : Spelled first front) (blank : ∀ c ∈ gap, isSpace c = true) :
    lexemes? (front ++ gap) = some first := by
  have ending := part (apart_nil.after blank) (Spells.nil.after blank)
  rw [List.append_nil, List.append_nil] at ending
  exact lexemes?_of_spells ending

theorem nil : Spelled [] [] := fun _ _ _ rest => rest

theorem after (blank : ∀ c ∈ gap, isSpace c = true) (part : Spelled first front) :
    Spelled first (gap ++ front) := by
  intro others text apart rest
  rw [List.append_assoc]
  exact (part apart rest).after blank

/-- A comma keeps two parts apart. -/
theorem comma (start : Spelled first front) (next : Spelled second back) :
    Spelled (first ++ .comma :: second) (front ++ ',' :: back) := by
  intro others text apart rest
  rw [List.append_assoc, List.append_assoc]
  exact start (apart_cons rfl _) (.mark rfl (next apart rest))

theorem member (name : String) (value : Spelled first front) :
    Spelled (.string name :: .colon :: first) (quoted name.toList ++ ':' :: front) := by
  intro others text apart rest
  rw [List.append_assoc]
  exact .string name (.mark rfl (value apart rest))

/-- A part between two marks, with blanks before the second. -/
theorem enclosed (opening closing : Char) {before after : Lexeme}
    (opens : markLexeme? opening = some before) (closes : markLexeme? closing = some after)
    (blank : ∀ c ∈ gap, isSpace c = true) (inner : Spelled first front) :
    Spelled (before :: first ++ [after]) (opening :: front ++ gap ++ [closing]) := by
  intro others text _ rest
  have ending := apart_cons (mark_alone closes).2.2.2 text
  have closed := inner (ending.after blank) ((Spells.mark closes rest).after blank)
  simpa only [List.append_assoc, List.cons_append, List.nil_append] using Spells.mark opens closed

end Spelled

namespace Tree

mutual

/-- The lexemes of a tree in order. -/
def lexemes : Tree → List Lexeme
  | null => [.null]
  | bool value => [.bool value]
  | number value => [.number value]
  | string text => [.string text]
  | array items => .openArray :: lexemesItems items ++ [.closeArray]
  | object members => .openObject :: lexemesMembers members ++ [.closeObject]

def lexemesItems : List Tree → List Lexeme
  | [] => []
  | item :: rest => item.lexemes ++ (if rest.isEmpty then [] else .comma :: lexemesItems rest)

def lexemesMembers : List (String × Tree) → List Lexeme
  | [] => []
  | (name, item) :: rest =>
      .string name :: .colon :: item.lexemes ++
        (if rest.isEmpty then [] else .comma :: lexemesMembers rest)

end

mutual

/-- No number in the tree is a float. -/
def Whole : Tree → Prop
  | number value => value.Whole
  | array items => WholeItems items
  | object members => WholeMembers members
  | _ => True

def WholeItems : List Tree → Prop
  | [] => True
  | item :: rest => item.Whole ∧ WholeItems rest

def WholeMembers : List (String × Tree) → Prop
  | [] => True
  | (_, item) :: rest => item.Whole ∧ WholeMembers rest

end

theorem no_blank : ∀ c ∈ ([] : List Char), isSpace c = true := List.forall_mem_nil _

theorem blank_space : ∀ c ∈ [' '], isSpace c = true := List.forall_mem_singleton.mpr rfl

theorem blank_newLine (level : Nat) : ∀ c ∈ newLine level, isSpace c = true := by
  intro c member
  rcases List.mem_cons.mp member with rfl | member
  · rfl
  · cases List.eq_of_mem_replicate member
    rfl

theorem spelled_writeScalar : ∀ tree : Tree, tree.Whole → tree.depth = 0 →
    Spelled tree.lexemes tree.writeScalar
  | null, _, _ => fun _ _ _ rest => .null rest
  | bool true, _, _ => fun _ _ _ rest => .yes rest
  | bool false, _, _ => fun _ _ _ rest => .no rest
  | number _, whole, _ => fun _ _ apart rest => .number whole apart rest
  | string text, _, _ => fun _ _ _ rest => .string text rest
  | array _, _, flat => by simp [depth] at flat
  | object _, _, flat => by simp [depth] at flat

/-! ## The compact text -/

mutual

theorem spelled_compact : ∀ tree : Tree, tree.Whole → Spelled tree.lexemes tree.compact
  | null, whole => spelled_writeScalar null whole rfl
  | bool value, whole => spelled_writeScalar (bool value) whole rfl
  | number value, whole => spelled_writeScalar (number value) whole rfl
  | string text, whole => spelled_writeScalar (string text) whole rfl
  | array items, whole => by
      have inner := spelled_compactItems items whole
      simpa [lexemes, compact] using inner.enclosed '[' ']' rfl rfl no_blank
  | object members, whole => by
      have inner := spelled_compactMembers members whole
      simpa [lexemes, compact] using inner.enclosed openBrace closeBrace rfl rfl no_blank

theorem spelled_compactItems : ∀ items : List Tree, WholeItems items →
    Spelled (lexemesItems items) (compactItems items)
  | [], _ => .nil
  | [item], whole => by
      simpa [lexemesItems, compactItems] using spelled_compact item whole.1
  | item :: second :: items, whole => by
      have later := spelled_compactItems (second :: items) whole.2
      simpa [lexemesItems, compactItems] using (spelled_compact item whole.1).comma later

theorem spelled_compactMembers : ∀ members : List (String × Tree), WholeMembers members →
    Spelled (lexemesMembers members) (compactMembers members)
  | [], _ => .nil
  | [(name, item)], whole => by
      simpa [lexemesMembers, compactMembers] using (spelled_compact item whole.1).member name
  | (name, item) :: second :: members, whole => by
      have first := (spelled_compact item whole.1).member name
      have later := spelled_compactMembers (second :: members) whole.2
      simpa [lexemesMembers, compactMembers] using first.comma later

end

/-! ## The indented text -/

mutual

theorem spelled_indented : ∀ (level : Nat) (tree : Tree), tree.Whole →
    Spelled tree.lexemes (tree.indented level)
  | _, null, whole => spelled_writeScalar null whole rfl
  | _, bool value, whole => spelled_writeScalar (bool value) whole rfl
  | _, number value, whole => spelled_writeScalar (number value) whole rfl
  | _, string text, whole => spelled_writeScalar (string text) whole rfl
  | _, array [], _ => Spelled.nil.enclosed '[' ']' rfl rfl no_blank
  | level, array (item :: items), whole => by
      have inner := spelled_indentedItems (level + 1) (item :: items) whole
      simpa [lexemes, indented] using inner.enclosed '[' ']' rfl rfl (blank_newLine level)
  | _, object [], _ => Spelled.nil.enclosed openBrace closeBrace rfl rfl no_blank
  | level, object (member :: members), whole => by
      have inner := spelled_indentedMembers (level + 1) (member :: members) whole
      simpa [lexemes, indented] using
        inner.enclosed openBrace closeBrace rfl rfl (blank_newLine level)

theorem spelled_indentedItems : ∀ (level : Nat) (items : List Tree), WholeItems items →
    Spelled (lexemesItems items) (indentedItems level items)
  | _, [], _ => .nil
  | level, [item], whole => by
      simpa [lexemesItems, indentedItems] using
        (spelled_indented level item whole.1).after (blank_newLine level)
  | level, item :: second :: items, whole => by
      have first := (spelled_indented level item whole.1).after (blank_newLine level)
      have later := spelled_indentedItems level (second :: items) whole.2
      simpa [lexemesItems, indentedItems] using first.comma later

theorem spelled_indentedMembers : ∀ (level : Nat) (members : List (String × Tree)),
    WholeMembers members → Spelled (lexemesMembers members) (indentedMembers level members)
  | _, [], _ => .nil
  | level, [(name, item)], whole => by
      have value := (spelled_indented level item whole.1).after blank_space
      simpa [lexemesMembers, indentedMembers] using
        (value.member name).after (blank_newLine level)
  | level, (name, item) :: second :: members, whole => by
      have value := (spelled_indented level item whole.1).after blank_space
      have first := (value.member name).after (blank_newLine level)
      have later := spelled_indentedMembers level (second :: members) whole.2
      simpa [lexemesMembers, indentedMembers] using first.comma later

end

end Tree

end Templating.Json
