import Templating.Proofs.Json.Layout

/-!
# Trees come back

Putting the lexemes of a tree together gives the tree, and the fuel that is given is enough. So a
tree without floats is read from its text in either layout, unless it is too deep to be read at all.
-/

namespace Templating.Json

open Json.Tree

variable {fuel : Nat} {lexemes : List Lexeme}

/-! ## One value -/

/-- A tree starts with a lexeme, and never with a closing bracket. -/
theorem Tree.lexemes_eq_cons (tree : Tree) :
    ∃ first others, tree.lexemes = first :: others ∧ first ≠ .closeArray := by
  cases tree with
  | array => exact ⟨_, _, rfl, Lexeme.noConfusion⟩
  | object => exact ⟨_, _, rfl, Lexeme.noConfusion⟩
  | _ => exact ⟨_, _, rfl, Lexeme.noConfusion⟩

theorem value?_openArray (full : ∀ rest, lexemes ≠ .closeArray :: rest) :
    value? (fuel + 1) (.openArray :: lexemes) =
      (items? fuel lexemes).map fun parts => (.array parts.1, parts.2) := by
  rw [value?]
  exact full

theorem value?_openObject (full : ∀ rest, lexemes ≠ .closeObject :: rest) :
    value? (fuel + 1) (.openObject :: lexemes) =
      (members? fuel lexemes).map fun parts => (.object parts.1, parts.2) := by
  rw [value?]
  exact full

/-- An array with items goes on with the first lexeme of the first item. -/
theorem lexemesItems_full (item : Tree) (items : List Tree) (rest others : List Lexeme) :
    lexemesItems (item :: items) ++ rest ≠ .closeArray :: others := by
  obtain ⟨first, later, shape, other⟩ := item.lexemes_eq_cons
  rw [lexemesItems, shape]
  exact fun equal => other (List.cons.inj equal).1

theorem lexemesMembers_full (member : String × Tree) (members : List (String × Tree))
    (rest others : List Lexeme) :
    lexemesMembers (member :: members) ++ rest ≠ .closeObject :: others :=
  fun equal => Lexeme.noConfusion (List.cons.inj equal).1

/-! ## A whole tree -/

mutual

/-- The induction is on the tree; the fuel falls by one at each bracket and at each comma. -/
theorem value?_lexemes : ∀ (tree : Tree) (rest : List Lexeme) (fuel : Nat),
    2 * tree.lexemes.length ≤ fuel + 1 → value? fuel (tree.lexemes ++ rest) = some (tree, rest)
  | tree, _, 0, enough => by
      obtain ⟨first, others, shape, -⟩ := tree.lexemes_eq_cons
      rw [shape, List.length_cons] at enough
      omega
  | .null, _, _ + 1, _ => rfl
  | .bool _, _, _ + 1, _ => rfl
  | .number _, _, _ + 1, _ => rfl
  | .string _, _, _ + 1, _ => rfl
  | .array [], _, _ + 1, _ => rfl
  | .array (item :: items), rest, fuel + 1, enough => by
      have left : 2 * (lexemesItems (item :: items)).length ≤ fuel := by
        simp only [Tree.lexemes, List.cons_append, List.length_cons, List.length_append] at enough
        omega
      have read := items?_lexemes (item :: items) rest fuel (List.cons_ne_nil _ _) left
      have shape : (array (item :: items)).lexemes ++ rest =
          .openArray :: (lexemesItems (item :: items) ++ .closeArray :: rest) := by
        simp [Tree.lexemes]
      rw [shape, value?_openArray (lexemesItems_full item items _), read, Option.map_some]
  | .object [], _, _ + 1, _ => rfl
  | .object (member :: members), rest, fuel + 1, enough => by
      have left : 2 * (lexemesMembers (member :: members)).length ≤ fuel := by
        simp only [Tree.lexemes, List.cons_append, List.length_cons, List.length_append] at enough
        omega
      have read := members?_lexemes (member :: members) rest fuel (List.cons_ne_nil _ _) left
      have shape : (object (member :: members)).lexemes ++ rest =
          .openObject :: (lexemesMembers (member :: members) ++ .closeObject :: rest) := by
        simp [Tree.lexemes]
      rw [shape, value?_openObject (lexemesMembers_full member members _), read, Option.map_some]

theorem items?_lexemes : ∀ (items : List Tree) (rest : List Lexeme) (fuel : Nat), items ≠ [] →
    2 * (lexemesItems items).length ≤ fuel →
      items? fuel (lexemesItems items ++ .closeArray :: rest) = some (items, rest)
  | [], _, _, nonempty, _ => absurd rfl nonempty
  | item :: items, _, 0, _, enough => by
      obtain ⟨first, others, shape, -⟩ := item.lexemes_eq_cons
      simp [lexemesItems, shape] at enough
  | [item], rest, fuel + 1, _, enough => by
      have read := value?_lexemes item (.closeArray :: rest) fuel
        (by simpa [lexemesItems] using enough)
      simp [lexemesItems, items?, read]
  | item :: second :: items, rest, fuel + 1, _, enough => by
      have both : 2 * (item.lexemes.length + ((lexemesItems (second :: items)).length + 1)) ≤
          fuel + 1 := by simpa [lexemesItems] using enough
      have first := value?_lexemes item
        (.comma :: (lexemesItems (second :: items) ++ .closeArray :: rest)) fuel
        (by omega)
      have later := items?_lexemes (second :: items) rest fuel (List.cons_ne_nil _ _) (by omega)
      rw [lexemesItems]
      simp [items?, first, later]

theorem members?_lexemes : ∀ (members : List (String × Tree)) (rest : List Lexeme) (fuel : Nat),
    members ≠ [] → 2 * (lexemesMembers members).length ≤ fuel →
      members? fuel (lexemesMembers members ++ .closeObject :: rest) = some (members, rest)
  | [], _, _, nonempty, _ => absurd rfl nonempty
  | (name, item) :: members, _, 0, _, enough => by simp [lexemesMembers] at enough
  | [(name, item)], rest, fuel + 1, _, enough => by
      have read := value?_lexemes item (.closeObject :: rest) fuel
        (by simp [lexemesMembers] at enough; omega)
      simp [lexemesMembers, members?, read]
  | (name, item) :: second :: members, rest, fuel + 1, _, enough => by
      have both : 2 * (item.lexemes.length + ((lexemesMembers (second :: members)).length + 1)) ≤
          fuel + 1 := by
        simp [lexemesMembers] at enough ⊢
        omega
      have first := value?_lexemes item
        (.comma :: (lexemesMembers (second :: members) ++ .closeObject :: rest)) fuel
        (by omega)
      have later := members?_lexemes (second :: members) rest fuel
        (List.cons_ne_nil _ _) (by omega)
      rw [lexemesMembers]
      simp [members?, first, later]

end

theorem tree?_lexemes (tree : Tree) :
    tree? tree.lexemes = if tree.depth ≤ maxDepth then some tree else none := by
  have read := value?_lexemes tree [] (2 * tree.lexemes.length) (by omega)
  rw [List.append_nil] at read
  rw [tree?, read]

/-! ## Both layouts -/

variable {tree : Tree} {written gap : List Char}

/-- Blanks may follow the text of a tree. -/
theorem read?_spelled (part : Spelled tree.lexemes written) (blank : ∀ c ∈ gap, isSpace c = true) :
    read? (String.ofList (written ++ gap)) =
      if tree.depth ≤ maxDepth then some tree else none := by
  rw [read?, String.toList_ofList, part.lexemes?_eq blank, Option.bind_some, tree?_lexemes]

end Templating.Json
