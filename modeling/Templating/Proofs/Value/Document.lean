import Templating.Proofs.Json.Finite
import Templating.Proofs.NameMap.Lookup
import Templating.Value.Json

/-!
# Values by way of a document

A document merges repeated names before the values are made, and it has no place for a float that is
infinite or no number. The direct route merges the names of values, and tries the kinds of values in
turn. Floats that are read from a text are finite, and merging does not look at what it merges, so
the routes meet at every tree of a text.
-/

namespace Templating.Value

open Json (Tree Number)

theorem ofDocumentMembers_eq_map (members : List (String × Tree)) :
    ofDocumentMembers members = members.map (Prod.map id ofDocument) := by
  induction members with
  | nil => rfl
  | cons member rest ih => rw [ofDocumentMembers, ih]; rfl

/-- A whole number that no signed word holds is a float on both routes. -/
theorem scalar?_number (number : Number) : scalar? (.number number) = some (ofNumber number) := by
  have inTurn : scalar? (.number number) =
      ((wholeNumber? number).map int <|> some (float (floatNumber number))) := by
    cases number <;> rfl
  rw [inTurn, ofNumber]
  cases wholeNumber? number with
  | none => rfl
  | some value => rfl

theorem document_number {number : Number} (finite : number.Finite) :
    (Tree.number number).document = .number number := by
  cases number with
  | natural => rfl
  | negative => rfl
  | float value => rw [Tree.document]; exact if_pos finite

mutual

/-- The induction is on the tree; only numbers and repeated names make a difference. -/
theorem ofTree?_eq_ofDocument : (tree : Tree) → tree.Finite →
    ofTree? tree = some (ofDocument tree.document)
  | .null, _ => rfl
  | .bool _, _ => rfl
  | .string _, _ => rfl
  | .number number, finite => by
      rw [document_number finite, ofDocument]
      exact scalar?_number number
  | .array items, finite => by
      rw [ofTree?, ofTrees?_eq_ofDocuments items finite, Tree.document, ofDocument, Option.map_some]
  | .object members, finite => by
      rw [ofTree?, ofMembers?_eq_ofDocumentMembers members finite, Tree.document, ofDocument,
        Option.map_some, ofDocumentMembers_eq_map, ofDocumentMembers_eq_map, ← Entries.ofPairs_map,
        Entries.ofPairs_ofPairs]

theorem ofTrees?_eq_ofDocuments : (items : List Tree) → Tree.FiniteItems items →
    ofTrees? items = some (ofDocuments (Tree.documentItems items))
  | [], _ => rfl
  | item :: rest, finite => by
      rw [ofTrees?, ofTree?_eq_ofDocument item finite.1, ofTrees?_eq_ofDocuments rest finite.2,
        Tree.documentItems, ofDocuments]

theorem ofMembers?_eq_ofDocumentMembers : (members : List (String × Tree)) →
    Tree.FiniteMembers members →
      ofMembers? members = some (ofDocumentMembers (Tree.documentMembers members))
  | [], _ => rfl
  | (name, item) :: rest, finite => by
      rw [ofMembers?, ofTree?_eq_ofDocument item finite.1,
        ofMembers?_eq_ofDocumentMembers rest finite.2, Tree.documentMembers, ofDocumentMembers]

end

/-- A text has the same value on both routes, and it has one whenever it can be read at all. -/
theorem json_routes_agree (text : String) :
    ofJson? text = ofJsonDocument? text ∧ (ofJson? text).isSome = (Json.read? text).isSome := by
  rw [ofJson?, ofJsonDocument?]
  cases read : Json.read? text with
  | none => exact ⟨rfl, rfl⟩
  | some tree =>
      have same := ofTree?_eq_ofDocument tree (Json.finite_of_read? read)
      rw [Option.bind_some, Option.map_some, same]
      exact ⟨rfl, rfl⟩

/-- The last value of a name stands at its first place, and a number beyond the signed words is a
float. -/
example : ofTree? (.object [("a", .number (.natural 1)), ("b", .null),
    ("a", .number (.natural 18446744073709551615))]) =
      some (map [("a", float (Float.ofNat 18446744073709551615)), ("b", nil)]) := rfl

end Templating.Value
