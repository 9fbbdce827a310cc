import Templating.Filter.Conversion
import Templating.Proofs.Json.Tree
import Templating.Proofs.NameMap.Lookup

/-!
# Values come back from JSON

A value built from nil, truth values, integers, texts, lists and maps is written as a tree without
floats, and the readers take each part of the tree for what it was: integers keep their kind and
their value, empty lists and maps stay lists and maps, and names keep their order. So writing and
reading undo each other, in both layouts, up to the depth that is read.
-/

namespace Templating

namespace Value

mutual

/-- Built without floats and timestamps. -/
def Plain : Value → Prop
  | float _ => False
  | timestamp _ => False
  | list items => PlainItems items
  | map entries => PlainEntries entries
  | _ => True

def PlainItems : List Value → Prop
  | [] => True
  | item :: rest => item.Plain ∧ PlainItems rest

def PlainEntries : List (String × Value) → Prop
  | [] => True
  | (_, value) :: rest => value.Plain ∧ PlainEntries rest

end

mutual

/-- How many lists and maps stand inside one another. -/
def depth : Value → Nat
  | list items => depthItems items + 1
  | map entries => depthEntries entries + 1
  | _ => 0

def depthItems : List Value → Nat
  | [] => 0
  | item :: rest => max item.depth (depthItems rest)

def depthEntries : List (String × Value) → Nat
  | [] => 0
  | (_, value) :: rest => max value.depth (depthEntries rest)

end

/-! ## The tree of a value -/

theorem whole_integerTree (value : Int64) : (integerTree value).Whole := by
  unfold integerTree
  split
  next below => exact below
  next => exact True.intro

mutual

theorem whole_toTree : ∀ value : Value, value.Plain → value.toTree.Whole
  | nil, _ => True.intro
  | bool _, _ => True.intro
  | int value, _ => whole_integerTree value
  | float _, plain => plain.elim
  | string _, _ => True.intro
  | list items, plain => whole_toTrees items plain
  | map entries, plain => whole_toMembers entries plain
  | timestamp _, plain => plain.elim

theorem whole_toTrees :
    ∀ items : List Value, PlainItems items → Json.Tree.WholeItems (toTrees items)
  | [], _ => True.intro
  | item :: rest, plain => ⟨whole_toTree item plain.1, whole_toTrees rest plain.2⟩

theorem whole_toMembers : ∀ entries : List (String × Value), PlainEntries entries →
    Json.Tree.WholeMembers (toMembers entries)
  | [], _ => True.intro
  | (_, value) :: rest, plain => ⟨whole_toTree value plain.1, whole_toMembers rest plain.2⟩

end

mutual

theorem depth_toTree : ∀ value : Value, value.toTree.depth = value.depth
  | nil => rfl
  | bool _ => rfl
  | int value => by
      rw [toTree, integerTree]
      split <;> rfl
  | float value => by
      rw [toTree, numberTree]
      split <;> rfl
  | string _ => rfl
  | list items => congrArg (· + 1) (depth_toTrees items)
  | map entries => congrArg (· + 1) (depth_toMembers entries)
  | timestamp _ => rfl

theorem depth_toTrees :
    ∀ items : List Value, Json.Tree.depthItems (toTrees items) = depthItems items
  | [] => rfl
  | item :: rest => congrArg₂ max (depth_toTree item) (depth_toTrees rest)

theorem depth_toMembers : ∀ entries : List (String × Value),
    Json.Tree.depthMembers (toMembers entries) = depthEntries entries
  | [] => rfl
  | (_, value) :: rest => congrArg₂ max (depth_toTree value) (depth_toMembers rest)

end

/-! ## The value of the tree -/

theorem ofTree?_integerTree (value : Int64) : ofTree? (integerTree value) = some (int value) := by
  unfold integerTree
  split
  next below => rfl
  next above =>
    have sign : 0 ≤ value := Int64.not_lt.mp above
    have magnitude : (value.toUInt64.toNat : Int) = value.toInt := by
      rw [Int64.toNat_toUInt64_of_le sign]
      exact Int.toNat_of_nonneg (Int64.le_iff_toInt_le.mp sign)
    have whole : wholeNumber? (.natural value.toUInt64) = some value := by
      rw [wholeNumber?, magnitude, Decimal.int64?_toInt]
    simp [ofTree?, scalar?, whole]

mutual

theorem ofTree?_toTree : ∀ value : Value, value.WellFormed → value.Plain →
    ofTree? value.toTree = some value
  | nil, _, _ => rfl
  | bool _, _, _ => rfl
  | int value, _, _ => ofTree?_integerTree value
  | float _, _, plain => plain.elim
  | string _, _, _ => rfl
  | list items, formed, plain => by
      rw [toTree, ofTree?, ofTrees?_toTrees items formed plain, Option.map_some]
  | map entries, formed, plain => by
      rw [toTree, ofTree?, ofMembers?_toMembers entries formed.2 plain, Option.map_some,
        Entries.ofPairs_of_nodup formed.1]
  | timestamp _, _, plain => plain.elim

theorem ofTrees?_toTrees : ∀ items : List Value, WellFormedItems items → PlainItems items →
    ofTrees? (toTrees items) = some items
  | [], _, _ => rfl
  | item :: rest, formed, plain => by
      rw [toTrees, ofTrees?, ofTree?_toTree item formed.1 plain.1,
        ofTrees?_toTrees rest formed.2 plain.2]

theorem ofMembers?_toMembers : ∀ entries : List (String × Value), WellFormedEntries entries →
    PlainEntries entries → ofMembers? (toMembers entries) = some entries
  | [], _, _ => rfl
  | (name, value) :: rest, formed, plain => by
      rw [toMembers, ofMembers?, ofTree?_toTree value formed.1 plain.1,
        ofMembers?_toMembers rest formed.2 plain.2]

end

/-! ## The text of a value -/

section Text

variable {value : Value} {written gap : List Char}

theorem ofJson?_spelled (formed : value.WellFormed) (plain : value.Plain)
    (part : Json.Spelled value.toTree.lexemes written)
    (blank : ∀ c ∈ gap, Json.isSpace c = true) :
    ofJson? (String.ofList (written ++ gap)) =
      if value.depth ≤ Json.maxDepth then some value else none := by
  rw [ofJson?, Json.read?_spelled part blank, depth_toTree]
  split
  next => exact ofTree?_toTree value formed plain
  next => rfl

theorem ofJson?_toJson (formed : value.WellFormed) (plain : value.Plain) :
    ofJson? value.toJson = if value.depth ≤ Json.maxDepth then some value else none := by
  have part := Json.Tree.spelled_compact value.toTree (whole_toTree value plain)
  have read := ofJson?_spelled formed plain part Json.Tree.no_blank
  rwa [List.append_nil] at read

theorem ofJson?_toIndentedJson (formed : value.WellFormed) (plain : value.Plain) :
    ofJson? value.toIndentedJson = if value.depth ≤ Json.maxDepth then some value else none := by
  have part := Json.Tree.spelled_indented 0 value.toTree (whole_toTree value plain)
  have read := ofJson?_spelled formed plain part Json.Tree.no_blank
  rwa [List.append_nil] at read

end Text

end Value

/-- Variables are read from a document by the same readers as values. -/
theorem Bindings.ofJson?_toJsonLines {vars : Bindings} (formed : vars.toValue.WellFormed)
    (plain : vars.toValue.Plain) :
    Bindings.ofJson? vars.toJsonLines =
      if vars.toValue.depth ≤ Json.maxDepth then some vars else none := by
  have part := Json.Tree.spelled_indented 0 vars.toValue.toTree
    (Value.whole_toTree vars.toValue plain)
  have text : vars.toJsonLines = String.ofList (vars.toValue.toTree.indented 0 ++ ['\n']) :=
    String.ofList_append.symm
  have entries := Value.ofMembers?_toMembers vars.entries formed.2 plain
  have blank : ∀ c ∈ ['\n'], Json.isSpace c = true := List.forall_mem_singleton.mpr rfl
  rw [Bindings.ofJson?, text, Json.read?_spelled part blank, Value.depth_toTree]
  by_cases shallow : vars.toValue.depth ≤ Json.maxDepth
  · rw [if_pos shallow, if_pos shallow]
    change (Value.ofMembers? (Value.toMembers vars.entries)).map NameMap.ofPairs = some vars
    rw [entries, Option.map_some, NameMap.ofPairs_entries]
  · rw [if_neg shallow, if_neg shallow]

namespace Filter

variable {value : Value}

theorem parse_of_ofJson? {text : String}
    (read : Value.ofJson? text = if value.depth ≤ Json.maxDepth then some value else none)
    (others : List Value) :
    parse (.string text) (.string "json" :: others) =
      if value.depth ≤ Json.maxDepth then .ok value
      else .error (.failed "failed to parse JSON: ") := by
  by_cases shallow : value.depth ≤ Json.maxDepth
  · rw [if_pos shallow] at read ⊢
    simp [parse, textArgument, argument, textInput, read, bind, Except.bind, pure, Except.pure]
  · rw [if_neg shallow] at read ⊢
    simp [parse, textArgument, argument, textInput, read, bind, Except.bind, throw, throwThe,
      MonadExceptOf.throw]

/-- Whatever the arguments of the writer, it writes one of the two layouts. As in `parse`, the
message of a refusal is without the parser's own words. -/
theorem parse_json (formed : value.WellFormed) (plain : value.Plain)
    (arguments others : List Value) :
    (json value arguments).bind (fun text => parse text (.string "json" :: others)) =
      if value.depth ≤ Json.maxDepth then .ok value
      else .error (.failed "failed to parse JSON: ") := by
  unfold json
  split
  next => exact parse_of_ofJson? (Value.ofJson?_toIndentedJson formed plain) others
  next => exact parse_of_ofJson? (Value.ofJson?_toJson formed plain) others

end Filter

/-- Variables without floats and timestamps come back from their document, and every such value from
its text in both layouts, if lists and maps stand at most `Json.maxDepth` deep in them; all deeper
ones are refused. The message of a refusal is given up to its colon; the parser's own words, which
follow there, are left out. -/
theorem Value.json_roundTrip :
    (∀ vars : Bindings, vars.toValue.WellFormed → vars.toValue.Plain →
      Bindings.ofJson? vars.toJsonLines =
        if vars.toValue.depth ≤ Json.maxDepth then some vars else none) ∧
    ∀ (value : Value) (arguments others : List Value), value.WellFormed → value.Plain →
      (Filter.json value arguments).bind
          (fun text => Filter.parse text (.string "json" :: others)) =
        if value.depth ≤ Json.maxDepth then .ok value
        else .error (.failed "failed to parse JSON: ") :=
  ⟨fun _ formed plain => Bindings.ofJson?_toJsonLines formed plain,
    fun _ arguments others formed plain => Filter.parse_json formed plain arguments others⟩

theorem Value.json_roundTrip_nested :
    let vars : Bindings := .ofPairs [("zone", .string "a\"b\\c\n\x01 é"),
      ("limits", .list [.int Int64.minValue, .int (-1), .int 0, .int Int64.maxValue]),
      ("empty", .map [("map", .map []), ("list", .list []), ("nil", .nil), ("on", .bool true)])]
    Bindings.ofJson? vars.toJsonLines = some vars ∧
    (Filter.json vars.toValue []).bind (fun text => Filter.parse text [.string "json"]) =
      .ok vars.toValue ∧
    (Filter.json vars.toValue [.string "pretty"]).bind
      (fun text => Filter.parse text [.string "json"]) = .ok vars.toValue := by
  intro vars
  have formed : vars.toValue.WellFormed := by
    simp [vars, Bindings.toValue, NameMap.ofPairs, Entries.ofPairs, Entries.insert,
      Value.WellFormed, Value.WellFormedEntries, Value.WellFormedItems]
  have plain : vars.toValue.Plain := by
    simp [vars, Bindings.toValue, NameMap.ofPairs, Entries.ofPairs, Entries.insert,
      Value.Plain, Value.PlainEntries, Value.PlainItems]
  have shallow : vars.toValue.depth ≤ Json.maxDepth := by decide
  have document := Value.json_roundTrip.1 vars formed plain
  have text := fun arguments => Value.json_roundTrip.2 vars.toValue arguments [] formed plain
  simp only [if_pos shallow] at document text
  exact ⟨document, text [], text [.string "pretty"]⟩

end Templating
