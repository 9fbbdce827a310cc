import Templating.Filter.Collection
import Templating.Proofs.NameMap.Lookup
import Templating.Proofs.Outcome

/-!
# Indexing and searching lists

A list is indexed by the texts that its items have under a field. The index keeps each text at the
place where it was first met, with the last item that has it; searching gives the first such item.
An index is refused because of the first item that is no map or has something else than a text
under the field.
-/

namespace Templating.Filter

/-- The text of an item under a field. -/
def identifier? (field : String) (item : Value) : Option String :=
  (item.map?.bind (Entries.get? field)).bind Value.string?

/-- Whether an item has this text under a field. -/
def identified (field id : String) (item : Value) : Bool := identifier? field item == some id

/-- An item with its text under a field. -/
def keyed? (field : String) (item : Value) : Option (String × Value) :=
  (identifier? field item).map fun name => (name, item)

/-- Why an item cannot stand in an index. -/
inductive Refused (field : String) : Value → FilterError → Prop where
  | notMap {item : Value} (other : item.map? = none) :
      Refused field item (.invalidValue "list of maps" item.kindName)
  | notText {members : List (String × Value)} {value : Value}
      (found : Entries.get? field members = some value) (other : value.string? = none) :
      Refused field (.map members) (.invalidValue "string key" value.kindName)

variable {field id : String} {items : List Value} {item : Value} {error : FilterError}
  {entries result : List (String × Value)}

/-! ## One item -/

theorem indexItem_of_refused (refused : Refused field item error) :
    indexItem field entries item = .error error := by
  cases refused with
  | notMap other =>
      cases item with
      | map members => cases other
      | _ => rfl
  | @notText members value found other =>
      rw [indexItem, found]
      cases value with
      | string text => cases other
      | _ => rfl

/-- What is not refused is a map, and has nothing under the field or a text. -/
theorem exists_map_of_not_refused (taken : ∀ error, ¬ Refused field item error) :
    ∃ members, item = .map members ∧ (Entries.get? field members = none ∨
      ∃ text, Entries.get? field members = some (.string text)) := by
  cases shape : item.map? with
  | none => exact absurd (.notMap shape) (taken _)
  | some members =>
      obtain rfl : item = .map members := by
        cases item <;> cases shape
        rfl
      refine ⟨members, rfl, ?_⟩
      cases found : Entries.get? field members with
      | none => exact .inl rfl
      | some value =>
          cases value with
          | string text => exact .inr ⟨text, rfl⟩
          | _ => exact absurd (.notText found rfl) (taken _)

theorem indexItem_of_not_refused (taken : ∀ error, ¬ Refused field item error) :
    indexItem field entries item =
      .ok ((keyed? field item).elim entries fun pair => Entries.insert pair.1 pair.2 entries) := by
  obtain ⟨members, rfl, found | ⟨text, found⟩⟩ := exists_map_of_not_refused taken
  all_goals simp [indexItem, keyed?, identifier?, Value.map?, Value.string?, found]

/-! ## All items -/

theorem indexItems_of_not_refused (taken : ∀ item ∈ items, ∀ error, ¬ Refused field item error) :
    items.foldlM (indexItem field) entries = .ok ((items.filterMap (keyed? field)).foldl
      (fun entries pair => Entries.insert pair.1 pair.2 entries) entries) := by
  induction items generalizing entries with
  | nil => rfl
  | cons item rest ih =>
      obtain ⟨here, later⟩ := List.forall_mem_cons.mp taken
      rw [List.foldlM_cons, indexItem_of_not_refused here, List.filterMap_cons]
      refine (ih later).trans ?_
      cases keyed? field item with
      | none => rfl
      | some pair => rfl

theorem indexItems_of_refused {before after : List Value}
    (taken : ∀ item ∈ before, ∀ error, ¬ Refused field item error)
    (refused : Refused field item error) :
    (before ++ item :: after).foldlM (indexItem field) entries = .error error := by
  rw [List.foldlM_append, indexItems_of_not_refused taken]
  change (item :: after).foldlM (indexItem field) _ = _
  rw [List.foldlM_cons, indexItem_of_refused refused]
  rfl

theorem exists_first_refused (field : String) (items : List Value) :
    (∀ item ∈ items, ∀ error, ¬ Refused field item error) ∨
      ∃ before item after error, items = before ++ item :: after ∧
        (∀ earlier ∈ before, ∀ error, ¬ Refused field earlier error) ∧
        Refused field item error := by
  induction items with
  | nil => exact .inl fun _ member => absurd member List.not_mem_nil
  | cons item rest ih =>
      by_cases refused : ∃ error, Refused field item error
      · obtain ⟨error, refused⟩ := refused
        exact .inr ⟨[], item, rest, error, rfl, nofun, refused⟩
      · rw [not_exists] at refused
        rcases ih with taken | ⟨before, other, after, error, split, taken, later⟩
        · exact .inl (List.forall_mem_cons.mpr ⟨refused, taken⟩)
        · refine .inr ⟨item :: before, other, after, error, ?_, ?_, later⟩
          · rw [split, List.cons_append]
          · exact List.forall_mem_cons.mpr ⟨refused, taken⟩

theorem indexItems_eq_ok_iff : items.foldlM (indexItem field) [] = .ok result ↔
    (∀ item ∈ items, ∀ error, ¬ Refused field item error) ∧
      result = Entries.ofPairs (items.filterMap (keyed? field)) := by
  rcases exists_first_refused field items with taken | ⟨_, item, _, error, rfl, taken, refused⟩
  · rw [indexItems_of_not_refused taken, Except.ok.injEq]
    exact ⟨fun same => ⟨taken, same.symm⟩, fun ⟨_, same⟩ => same.symm⟩
  · rw [indexItems_of_refused taken refused]
    refine iff_of_false nofun fun ⟨every, _⟩ => every item ?_ error refused
    exact List.mem_append_right _ List.mem_cons_self

theorem indexItems_eq_error_iff : items.foldlM (indexItem field) [] = .error error ↔
    ∃ before item after, items = before ++ item :: after ∧
      (∀ earlier ∈ before, ∀ error, ¬ Refused field earlier error) ∧ Refused field item error := by
  constructor
  · intro failed
    rcases exists_first_refused field items with
      taken | ⟨before, item, after, inside, rfl, taken, refused⟩
    · rw [indexItems_of_not_refused taken] at failed
      cases failed
    · rw [indexItems_of_refused taken refused] at failed
      cases failed
      exact ⟨before, item, after, rfl, taken, refused⟩
  · rintro ⟨before, item, after, rfl, taken, refused⟩
    exact indexItems_of_refused taken refused

/-! ## What an index holds -/

theorem names_keyed (field : String) (items : List Value) :
    Entries.names (items.filterMap (keyed? field)) = items.filterMap (identifier? field) := by
  rw [Entries.names, List.map_filterMap]
  refine List.filterMap_congr fun item _ => ?_
  rw [keyed?, Option.map_map]
  exact Option.map_id'

theorem filter_keyed (field id : String) (items : List Value) :
    (items.filterMap (keyed? field)).filter (fun pair => pair.1 = id) =
      (items.filter (identified field id)).map fun item => (id, item) := by
  induction items with
  | nil => rfl
  | cons item rest ih =>
      cases found : identifier? field item with
      | none => simp [keyed?, identified, found, ih]
      | some name =>
          by_cases same : name = id
          · simp [keyed?, identified, found, same, ih]
          · simp [keyed?, identified, found, same, ih]

theorem get?_index (field id : String) (items : List Value) :
    Entries.get? id (Entries.ofPairs (items.filterMap (keyed? field))) =
      (items.filter (identified field id)).getLast? := by
  rw [Entries.get?_ofPairs, filter_keyed, List.getLast?_map, Option.map_map]
  exact Option.map_id'

theorem mem_names_index : id ∈ Entries.names (Entries.ofPairs (items.filterMap (keyed? field))) ↔
    ∃ item ∈ items, identified field id item = true := by
  rw [Entries.names_ofPairs, names_keyed, List.mem_eraseDups, List.mem_filterMap]
  simp [identified]

/-! ## Searching -/

/-- Searching compares with any value that has the text; where nothing is refused, there are only
texts to compare with. -/
theorem matching_eq (taken : ∀ error, ¬ Refused field item error) (id : String) :
    (item.map?.map (hasField field id)).getD false = identified field id item := by
  obtain ⟨members, rfl, found | ⟨text, found⟩⟩ := exists_map_of_not_refused taken
  · simp [hasField, identified, identifier?, Value.map?, found]
  · simp [hasField, identified, identifier?, Value.map?, Value.string?, Value.toText, found]

theorem find_eq {key wanted : Value}
    (taken : ∀ item ∈ items, ∀ error, ¬ Refused key.toText item error) :
    find (.list items) [key, wanted] =
      match items.find? (identified key.toText wanted.toText) with
      | some item => .ok item
      | none => .error (.allowsDefault
          ("no entry with " ++ key.toText ++ " = '" ++ wanted.toText ++ "'")) := by
  have matching : items.find? (identified key.toText wanted.toText) =
      items.find? fun item => (item.map?.map (hasField key.toText wanted.toText)).getD false := by
    rw [← List.head?_filter, ← List.head?_filter]
    congr 1
    exact List.filter_congr fun item member => (matching_eq (taken item member) _).symm
  rw [matching]
  rfl

/-! ## Index and search -/

theorem index_list (items : List Value) (key : Value) :
    index (.list items) [key] =
      (items.foldlM (indexItem key.toText) []).bind fun entries => .ok (.map entries) := rfl

/-- An index has the texts under the field in the order in which they are first met, and under each
the last item that has it. Searching for a text of the index gives the first such item, which is
the same if there is only one; for other texts it allows a default. There is no index if an item is
refused, and the first such item is the reason. -/
theorem index_agrees_with_find (items : List Value) (key : Value) :
    (∀ out, index (.list items) [key] = .ok out → ∃ entries, out = .map entries ∧
      Entries.names entries = (items.filterMap (identifier? key.toText)).eraseDups ∧
      (∀ id, Entries.get? id entries = (items.filter (identified key.toText id)).getLast?) ∧
      (∀ wanted : Value,
        (wanted.toText ∈ Entries.names entries →
          ∃ item, items.find? (identified key.toText wanted.toText) = some item ∧
            find (.list items) [key, wanted] = .ok item) ∧
        (wanted.toText ∉ Entries.names entries →
          ∃ reason, find (.list items) [key, wanted] = .error (.allowsDefault reason))) ∧
      ∀ (wanted item : Value), items.filter (identified key.toText wanted.toText) = [item] →
        Entries.get? wanted.toText entries = some item ∧
          find (.list items) [key, wanted] = .ok item) ∧
    ∀ error, index (.list items) [key] = .error error ↔
      ∃ before item after, items = before ++ item :: after ∧
        (∀ earlier ∈ before, ∀ error, ¬ Refused key.toText earlier error) ∧
        Refused key.toText item error := by
  constructor
  · intro out indexed
    obtain ⟨entries, whole, built⟩ := Outcome.bind_eq_ok_iff.mp indexed
    obtain ⟨taken, rfl⟩ := indexItems_eq_ok_iff.mp whole
    refine ⟨_, (Except.ok.inj built).symm, ?_, fun id => get?_index _ id items, fun wanted => ?_,
      fun wanted item alone => ?_⟩
    · rw [Entries.names_ofPairs, names_keyed]
    · rw [find_eq taken, mem_names_index]
      cases found : items.find? (identified key.toText wanted.toText) with
      | some item =>
          have member := List.mem_of_find?_eq_some found
          have same := List.find?_some found
          exact ⟨fun _ => ⟨item, rfl, rfl⟩, fun absent => absurd ⟨item, member, same⟩ absent⟩
      | none =>
          have away := List.find?_eq_none.mp found
          exact ⟨fun ⟨item, member, same⟩ => absurd same (away item member), fun _ => ⟨_, rfl⟩⟩
    · have first : items.find? (identified key.toText wanted.toText) = some item := by
        rw [← List.head?_filter, alone, List.head?_cons]
      rw [get?_index, alone, find_eq taken, first]
      exact ⟨rfl, rfl⟩
  · intro error
    rw [index_list, Outcome.bind_eq_error_iff, ← indexItems_eq_error_iff]
    exact or_iff_left fun ⟨_, _, built⟩ => nomatch built

/-- Of two items with one text, the index has the later and the search gives the earlier. -/
theorem index_agrees_with_find_repeated :
    let early : Value := .map [("id", .string "a"), ("place", .int 1)]
    let other : Value := .map [("id", .string "b")]
    let late : Value := .map [("place", .int 2), ("id", .string "a")]
    let items := [early, .map [], other, late]
    (∃ entries, index (.list items) [.string "id"] = .ok (.map entries) ∧
      Entries.names entries = ["a", "b"] ∧
      Entries.get? "a" entries = some late ∧
      (∃ item, items.find? (identified "id" "a") = some item ∧
        find (.list items) [.string "id", .string "a"] = .ok item) ∧
      (∃ reason, find (.list items) [.string "id", .string "c"] = .error (.allowsDefault reason)) ∧
      Entries.get? "b" entries = some other ∧
      find (.list items) [.string "id", .string "b"] = .ok other) ∧
    index (.list (items ++ [.map [("id", .int 1)], .nil])) [.string "id"] =
      .error (.invalidValue "string key" "int") := by
  intro early other late items
  obtain ⟨agrees, -⟩ := index_agrees_with_find items (.string "id")
  obtain ⟨-, refuses⟩ :=
    index_agrees_with_find (items ++ [.map [("id", .int 1)], .nil]) (.string "id")
  have indexed : index (.list items) [.string "id"] =
      .ok (.map [("a", late), ("b", other)]) := rfl
  obtain ⟨entries, same, names, last, search, alone⟩ := agrees _ indexed
  obtain rfl := Value.map.inj same
  constructor
  · exact ⟨_, indexed, names, last "a", (search (.string "a")).1 (by decide),
      (search (.string "c")).2 (by decide), alone (.string "b") other rfl⟩
  · have whole : items.foldlM (indexItem "id") [] = .ok [("a", late), ("b", other)] := rfl
    have number : Entries.get? "id" [("id", Value.int 1)] = some (.int 1) := rfl
    exact (refuses _).mpr
      ⟨items, _, _, rfl, (indexItems_eq_ok_iff.mp whole).1, .notText number rfl⟩

end Templating.Filter
