import Mathlib.Data.List.Induction
import Mathlib.Data.List.Nodup
import Templating.NameMap

/-!
# Looking names up

Each operation on a name map is described by what it does to looking a name up. Because names are
distinct, a map is known from its names in order and the value under each of them.
-/

namespace Templating

universe u v

/-- The last name of a list is a new one unless it came before. -/
theorem eraseDups_concat (names : List String) (name : String) :
    (names ++ [name]).eraseDups =
      if name ∈ names then names.eraseDups else names.eraseDups ++ [name] := by
  rw [List.eraseDups_append]
  by_cases known : name ∈ names
  · simp [known, List.removeAll]
  · simp [known, List.removeAll, List.eraseDups_cons]

theorem nodup_eraseDups (names : List String) : names.eraseDups.Nodup := by
  induction names using List.reverseRecOn with
  | nil => exact List.nodup_nil
  | append_singleton front name ih =>
      rw [eraseDups_concat]
      split
      next => exact ih
      next fresh =>
        refine List.nodup_append.mpr ⟨ih, List.nodup_singleton name, ?_⟩
        rintro other early _ last rfl
        rw [List.mem_singleton.mp last, List.mem_eraseDups] at early
        exact fresh early

namespace Entries

variable {α : Type u}

theorem get?_eq_none_iff {name : String} {entries : Entries α} :
    get? name entries = none ↔ name ∉ names entries := by
  induction entries with
  | nil => simp [get?]
  | cons entry rest ih =>
      obtain ⟨key, value⟩ := entry
      by_cases same : key = name
      · simp [get?, same]
      · have other : ¬ name = key := fun equal => same equal.symm
        simp [get?, same, other, ih]

theorem mem_of_get? {name : String} {value : α} {entries : Entries α}
    (found : get? name entries = some value) : (name, value) ∈ entries := by
  induction entries with
  | nil => cases found
  | cons entry rest ih =>
      obtain ⟨key, old⟩ := entry
      by_cases same : key = name
      · rw [get?, if_pos same] at found
        cases found
        rw [same]
        exact List.mem_cons_self
      · rw [get?, if_neg same] at found
        exact List.mem_cons_of_mem _ (ih found)

theorem get?_of_mem {name : String} {value : α} {entries : Entries α}
    (distinct : (names entries).Nodup) (found : (name, value) ∈ entries) :
    get? name entries = some value := by
  induction entries with
  | nil => cases found
  | cons entry rest ih =>
      obtain ⟨key, old⟩ := entry
      obtain ⟨fresh, tail⟩ := List.nodup_cons.mp distinct
      rcases List.mem_cons.mp found with equal | later
      · cases equal
        rw [get?, if_pos rfl]
      · have member : name ∈ names rest := List.mem_map.mpr ⟨_, later, rfl⟩
        have other : key ≠ name := fun same => fresh (same ▸ member)
        rw [get?, if_neg other]
        exact ih tail later

theorem get?_insert {name other : String} {value : α} {entries : Entries α} :
    get? other (insert name value entries) =
      if other = name then some value else get? other entries := by
  induction entries with
  | nil =>
      by_cases same : other = name
      · simp [insert, get?, same]
      · have different : ¬ name = other := fun equal => same equal.symm
        simp [insert, get?, same, different]
  | cons entry rest ih =>
      obtain ⟨key, old⟩ := entry
      by_cases here : key = name
      · subst here
        by_cases same : other = key
        · simp [insert, get?, same]
        · have different : ¬ key = other := fun equal => same equal.symm
          simp [insert, get?, same, different]
      · by_cases same : key = other
        · subst same
          simp [insert, get?, here]
        · simp [insert, get?, here, same, ih]

/-- Of pairs with distinct names laid over entries, the pair under a name is the one found. -/
theorem get?_foldl_insert {name : String} (pairs entries : Entries α)
    (distinct : (names pairs).Nodup) :
    get? name (pairs.foldl (fun entries pair => insert pair.1 pair.2 entries) entries) =
      (get? name pairs).or (get? name entries) := by
  induction pairs generalizing entries with
  | nil => rfl
  | cons pair rest ih =>
      obtain ⟨key, value⟩ := pair
      obtain ⟨fresh, tail⟩ := List.nodup_cons.mp distinct
      rw [List.foldl_cons, ih _ tail, get?_insert]
      by_cases same : key = name
      · subst same
        simp [get?, get?_eq_none_iff.mpr fresh]
      · have other : ¬ name = key := fun equal => same equal.symm
        simp [get?, same, other]

theorem insert_of_not_mem {name : String} {value : α} {entries : Entries α}
    (fresh : name ∉ names entries) : insert name value entries = entries ++ [(name, value)] := by
  induction entries with
  | nil => rfl
  | cons entry rest ih =>
      obtain ⟨key, old⟩ := entry
      rw [names_cons, List.mem_cons, not_or] at fresh
      rw [insert, if_neg (Ne.symm fresh.1), ih fresh.2, List.cons_append]

/-- Pairs with new and distinct names are appended as they stand. -/
theorem foldl_insert_of_fresh (pairs : Entries α) {entries : Entries α}
    (distinct : (names pairs).Nodup) (fresh : ∀ name ∈ names pairs, name ∉ names entries) :
    pairs.foldl (fun entries pair => insert pair.1 pair.2 entries) entries = entries ++ pairs := by
  induction pairs generalizing entries with
  | nil => exact (List.append_nil entries).symm
  | cons pair rest ih =>
      obtain ⟨key, value⟩ := pair
      obtain ⟨unseen, tail⟩ := List.nodup_cons.mp distinct
      rw [List.foldl_cons, insert_of_not_mem (fresh key List.mem_cons_self), ih tail,
        List.append_assoc, List.singleton_append]
      intro name member
      have apart : name ∉ names entries := fresh name (List.mem_cons_of_mem _ member)
      have different : name ≠ key := fun same => unseen (same ▸ member)
      simpa [names] using ⟨by simpa [names] using apart, different⟩

/-- Pairs with distinct names are kept as they stand. -/
theorem ofPairs_of_nodup {pairs : Entries α} (distinct : (names pairs).Nodup) :
    ofPairs pairs = pairs :=
  foldl_insert_of_fresh pairs distinct fun _ _ => List.not_mem_nil

theorem ofPairs_ofPairs (pairs : List (String × α)) : ofPairs (ofPairs pairs) = ofPairs pairs :=
  ofPairs_of_nodup (nodup_names_ofPairs pairs)

theorem names_insert {name : String} {value : α} {entries : Entries α} :
    names (insert name value entries) =
      if name ∈ names entries then names entries else names entries ++ [name] := by
  split
  next member =>
    induction entries with
    | nil => cases member
    | cons entry rest ih =>
        obtain ⟨key, old⟩ := entry
        by_cases same : key = name
        · rw [insert, if_pos same, names_cons, names_cons]
        · have later := (List.mem_cons.mp member).resolve_left (Ne.symm same)
          rw [insert, if_neg same, names_cons, names_cons, ih later]
  next fresh => rw [insert_of_not_mem fresh, names, List.map_append]; rfl

theorem ofPairs_concat (pairs : List (String × α)) (name : String) (value : α) :
    ofPairs (pairs ++ [(name, value)]) = insert name value (ofPairs pairs) := by
  rw [ofPairs, List.foldl_append]
  rfl

/-- A name keeps the place where it was first met. -/
theorem names_ofPairs (pairs : List (String × α)) :
    names (ofPairs pairs) = (names pairs).eraseDups := by
  induction pairs using List.reverseRecOn with
  | nil => rfl
  | append_singleton pairs pair ih =>
      have concat : names (pairs ++ [pair]) = names pairs ++ [pair.1] := List.map_append
      rw [ofPairs_concat, names_insert, ih, concat, eraseDups_concat]
      simp only [List.mem_eraseDups]

/-- A name has the value that it was given last. -/
theorem get?_ofPairs (pairs : List (String × α)) (name : String) :
    get? name (ofPairs pairs) =
      (pairs.filter fun pair => pair.1 = name).getLast?.map Prod.snd := by
  induction pairs using List.reverseRecOn with
  | nil => rfl
  | append_singleton pairs pair ih =>
      rw [ofPairs_concat, get?_insert, List.filter_append]
      by_cases same : pair.1 = name
      · simp [same]
      · simp [same, Ne.symm same, ih]

theorem insert_map {β : Type v} (change : α → β) (name : String) (value : α) (entries : Entries α) :
    insert name (change value) (entries.map (Prod.map id change)) =
      (insert name value entries).map (Prod.map id change) := by
  induction entries with
  | nil => rfl
  | cons entry rest ih =>
      obtain ⟨key, old⟩ := entry
      by_cases same : key = name
      · simp [insert, same]
      · simp [insert, same, ih]

/-- Names are merged alike before and after the values are changed. -/
theorem ofPairs_map {β : Type v} (change : α → β) (pairs : List (String × α)) :
    ofPairs (pairs.map (Prod.map id change)) = (ofPairs pairs).map (Prod.map id change) := by
  induction pairs using List.reverseRecOn with
  | nil => rfl
  | append_singleton pairs pair ih =>
      obtain ⟨name, value⟩ := pair
      rw [List.map_append, List.map_singleton, Prod.map_apply, id, ofPairs_concat, ih, insert_map,
        ofPairs_concat]

/-- Laying pairs over entries leaves their names in place, and the new ones follow in order. -/
theorem names_foldl_insert (pairs entries : Entries α) (distinct : (names pairs).Nodup) :
    names (pairs.foldl (fun entries pair => insert pair.1 pair.2 entries) entries) =
      names entries ++ (names pairs).filter fun name => name ∉ names entries := by
  induction pairs generalizing entries with
  | nil => exact (List.append_nil _).symm
  | cons pair rest ih =>
      obtain ⟨key, value⟩ := pair
      obtain ⟨unseen, tail⟩ := List.nodup_cons.mp distinct
      rw [List.foldl_cons, ih _ tail, names_insert, names_cons]
      by_cases member : key ∈ names entries
      · rw [if_pos member, List.filter_cons_of_neg (by simpa using member)]
      · have same : (names rest).filter (fun name => decide (name ∉ names entries ++ [key])) =
            (names rest).filter fun name => decide (name ∉ names entries) := by
          refine List.filter_congr fun name later => ?_
          have different : name ≠ key := fun equal => unseen (equal ▸ later)
          simp [different]
        rw [if_neg member, same, List.filter_cons_of_pos (by simpa using member),
          List.append_assoc, List.singleton_append]

/-- Entries with the same distinct names in the same order are equal if each name has the same
value in both. -/
theorem eq_of_get? {first second : Entries α} (distinct : (names first).Nodup)
    (order : names first = names second)
    (same : ∀ name, get? name first = get? name second) : first = second := by
  induction first generalizing second with
  | nil =>
      cases second with
      | nil => rfl
      | cons entry rest => cases order
  | cons entry rest ih =>
      cases second with
      | nil => cases order
      | cons entry' rest' =>
          obtain ⟨key, value⟩ := entry
          obtain ⟨key', value'⟩ := entry'
          obtain ⟨keys, later⟩ := List.cons.inj order
          obtain rfl : key = key' := keys
          obtain ⟨fresh, tail⟩ := List.nodup_cons.mp distinct
          have head := same key
          simp only [get?, if_true, Option.some.injEq] at head
          have equal : rest = rest' := by
            refine ih tail later fun name => ?_
            by_cases here : key = name
            · subst here
              have fresh' : key ∉ names rest' := by
                intro member
                apply fresh
                rw [later]
                exact member
              rw [get?_eq_none_iff.mpr fresh, get?_eq_none_iff.mpr fresh']
            · simpa [get?, here] using same name
          rw [head, equal]

/-- Names whose values all come from elsewhere are the same names. -/
theorem names_filterMap {β : Type v} (source : String → Option β) (entries : Entries α)
    (covered : ∀ name ∈ names entries, ∃ value, source name = some value) :
    names (entries.filterMap fun entry =>
      (source entry.1).map fun value => (entry.1, value)) = names entries := by
  induction entries with
  | nil => rfl
  | cons entry rest ih =>
      obtain ⟨key, old⟩ := entry
      obtain ⟨kept, found⟩ := covered key List.mem_cons_self
      simp only [List.filterMap_cons, found, Option.map_some, names_cons]
      rw [ih fun name member => covered name (List.mem_cons_of_mem _ member)]

theorem get?_filterMap {β : Type v} {name : String} (entries : Entries α) (keep : α → Option β)
    (distinct : (names entries).Nodup) :
    get? name (entries.filterMap fun entry => (keep entry.2).map fun kept => (entry.1, kept)) =
      (get? name entries).bind keep := by
  induction entries with
  | nil => rfl
  | cons entry rest ih =>
      obtain ⟨key, value⟩ := entry
      obtain ⟨fresh, tail⟩ := List.nodup_cons.mp distinct
      have later := ih tail
      by_cases same : key = name
      · subst same
        rw [get?_eq_none_iff.mpr fresh, Option.bind_none] at later
        cases kept : keep value with
        | none => simp [kept, later, get?]
        | some found => simp [kept, get?]
      · cases kept : keep value with
        | none => simp [kept, later, get?, same]
        | some found => simp [kept, later, get?, same]

end Entries

namespace NameMap

variable {α : Type u} {β : Type v} {map other : NameMap α} {name : String} {value : α}

theorem get?_empty : (empty : NameMap α).get? name = none := rfl

theorem get?_eq_none_iff : map.get? name = none ↔ name ∉ map.names := Entries.get?_eq_none_iff

theorem contains_iff : map.contains name = true ↔ name ∈ map.names := by
  rw [contains, ← Option.ne_none_iff_isSome, Ne, get?_eq_none_iff, not_not]

theorem mem_names_iff : name ∈ map.names ↔ ∃ value, map.get? name = some value := by
  rw [← contains_iff, contains, Option.isSome_iff_exists]

theorem mem_entries_iff : (name, value) ∈ map.entries ↔ map.get? name = some value :=
  ⟨Entries.get?_of_mem map.nodup, Entries.mem_of_get?⟩

theorem ofPairs_entries (map : NameMap α) : ofPairs map.entries = map := by
  obtain ⟨entries, distinct⟩ := map
  simp only [ofPairs, Entries.ofPairs_of_nodup distinct]

theorem get?_ofPairs_iff {pairs : List (String × α)} (distinct : (Entries.names pairs).Nodup) :
    (ofPairs pairs).get? name = some value ↔ (name, value) ∈ pairs := by
  have kept : (ofPairs pairs).entries = pairs := Entries.ofPairs_of_nodup distinct
  rw [← mem_entries_iff, kept]

theorem get?_insert {key : String} :
    (map.insert key value).get? name = if name = key then some value else map.get? name :=
  Entries.get?_insert

theorem get?_insert_self : (map.insert name value).get? name = some value := by
  rw [get?_insert, if_pos rfl]

theorem get?_insert_of_ne {key : String} (different : name ≠ key) :
    (map.insert key value).get? name = map.get? name := by
  rw [get?_insert, if_neg different]

theorem get?_extend : (map.extend other).get? name = (other.get? name).or (map.get? name) :=
  Entries.get?_foldl_insert other.entries map.entries other.nodup

theorem get?_extend_of_some (found : other.get? name = some value) :
    (map.extend other).get? name = some value := by
  rw [get?_extend, found, Option.some_or]

theorem get?_extend_of_mem (member : name ∈ other.names) :
    (map.extend other).get? name = other.get? name := by
  obtain ⟨value, found⟩ := mem_names_iff.mp member
  rw [get?_extend_of_some found, found]

theorem get?_extend_of_not_mem (absent : name ∉ other.names) :
    (map.extend other).get? name = map.get? name := by
  rw [get?_extend, get?_eq_none_iff.mpr absent, Option.none_or]

theorem mem_names_extend :
    name ∈ (map.extend other).names ↔ name ∈ map.names ∨ name ∈ other.names := by
  rw [← not_iff_not, not_or, ← get?_eq_none_iff, ← get?_eq_none_iff, ← get?_eq_none_iff,
    get?_extend, Option.or_eq_none_iff, and_comm]

/-- A map with other names is appended as it stands. -/
theorem entries_extend (apart : ∀ name ∈ map.names, name ∉ other.names) :
    (map.extend other).entries = map.entries ++ other.entries :=
  Entries.foldl_insert_of_fresh other.entries other.nodup fun name late early =>
    apart name early late

theorem names_extend (apart : ∀ name ∈ map.names, name ∉ other.names) :
    (map.extend other).names = map.names ++ other.names := by
  rw [names, Entries.names, entries_extend apart, List.map_append]
  rfl

/-- The names of the map keep their places, and the new names follow in their order. -/
theorem names_extend_filter :
    (map.extend other).names = map.names ++ other.names.filter fun name => name ∉ map.names :=
  Entries.names_foldl_insert other.entries map.entries other.nodup

theorem eq_of_get? (order : map.names = other.names)
    (same : ∀ name, map.get? name = other.get? name) : map = other := by
  have equal := Entries.eq_of_get? map.nodup order same
  cases map
  cases other
  cases equal
  rfl

theorem empty_extend (map : NameMap α) : empty.extend map = map := ofPairs_entries map

/-- It does not matter which of three layers are laid over one another first. -/
theorem extend_assoc (map other last : NameMap α) :
    (map.extend other).extend last = map.extend (other.extend last) := by
  apply eq_of_get?
  · have fresh : (last.names.filter fun name => name ∉ (map.extend other).names) =
        (last.names.filter fun name => name ∉ other.names).filter fun name => name ∉ map.names := by
      rw [List.filter_filter]
      exact List.filter_congr fun name _ => by simp [mem_names_extend]
    rw [names_extend_filter, fresh, names_extend_filter, names_extend_filter, names_extend_filter,
      List.filter_append, List.append_assoc]
  · intro name
    rw [get?_extend, get?_extend, get?_extend, get?_extend, Option.or_assoc]

theorem get?_eq_of_perm (same : map.entries.Perm other.entries) (name : String) :
    map.get? name = other.get? name := by
  refine Option.ext fun value => ?_
  rw [← mem_entries_iff, ← mem_entries_iff, same.mem_iff]

theorem mem_names_iff_of_perm (same : map.entries.Perm other.entries) (name : String) :
    name ∈ map.names ↔ name ∈ other.names :=
  (same.map Prod.fst).mem_iff

theorem names_restrictTo (source : NameMap β) (covered : ∀ name ∈ map.names, name ∈ source.names) :
    (map.restrictTo source).names = map.names :=
  Entries.names_filterMap source.get? map.entries fun name member =>
    mem_names_iff.mp (covered name member)

theorem get?_restrictTo (source : NameMap β) (member : name ∈ map.names) :
    (map.restrictTo source).get? name = source.get? name := by
  cases found : source.get? name with
  | some kept =>
      obtain ⟨old, place⟩ := mem_names_iff.mp member
      refine mem_entries_iff.mp (List.mem_filterMap.mpr ⟨(name, old), ?_, ?_⟩)
      · exact mem_entries_iff.mpr place
      · rw [found]
        rfl
  | none =>
      refine get?_eq_none_iff.mpr fun kept => ?_
      obtain ⟨value, place⟩ := mem_names_iff.mp kept
      obtain ⟨entry, _, image⟩ := List.mem_filterMap.mp (mem_entries_iff.mpr place)
      obtain ⟨old, source_some, equal⟩ := Option.map_eq_some_iff.mp image
      cases equal
      rw [found] at source_some
      cases source_some

/-- A map with the names of two others, one after the other, falls into a part for each. -/
theorem eq_extend_of_names {whole back : NameMap α} (apart : ∀ name ∈ map.names, name ∉ back.names)
    (order : whole.names = map.names ++ back.names) :
    ∃ first second : NameMap α, whole = first.extend second ∧ first.names = map.names ∧
      second.names = back.names := by
  have early : ∀ name ∈ map.names, name ∈ whole.names := fun name member =>
    order ▸ List.mem_append_left _ member
  have late : ∀ name ∈ back.names, name ∈ whole.names := fun name member =>
    order ▸ List.mem_append_right _ member
  have namesFirst := names_restrictTo whole early
  have namesSecond := names_restrictTo whole late
  have apart' : ∀ name ∈ (map.restrictTo whole).names, name ∉ (back.restrictTo whole).names := by
    rw [namesFirst, namesSecond]
    exact apart
  refine ⟨map.restrictTo whole, back.restrictTo whole, ?_, namesFirst, namesSecond⟩
  apply eq_of_get?
  · rw [names_extend apart', namesFirst, namesSecond, order]
  · intro name
    by_cases inBack : name ∈ back.names
    · rw [get?_extend_of_mem (namesSecond ▸ inBack), get?_restrictTo whole inBack]
    · rw [get?_extend_of_not_mem (namesSecond ▸ inBack)]
      by_cases inFront : name ∈ map.names
      · rw [get?_restrictTo whole inFront]
      · have absent : name ∉ whole.names := by
          rw [order, List.mem_append, not_or]
          exact ⟨inFront, inBack⟩
        rw [get?_eq_none_iff.mpr absent, get?_eq_none_iff.mpr (namesFirst ▸ inFront)]

/-- Only the values under the names that are kept matter. -/
theorem restrictTo_congr {first second : NameMap β}
    (same : ∀ name ∈ map.names, first.get? name = second.get? name) :
    map.restrictTo first = map.restrictTo second := by
  have entries : ∀ entry ∈ map.entries,
      ((first.get? entry.1).map fun value => (entry.1, value)) =
        (second.get? entry.1).map fun value => (entry.1, value) := by
    intro entry member
    rw [same entry.1 (List.mem_map.mpr ⟨entry, member, rfl⟩)]
  simp only [restrictTo, List.filterMap_congr entries]

/-- A map is what it keeps of a source that has its values. -/
theorem restrictTo_eq_self {source : NameMap α}
    (same : ∀ name ∈ map.names, source.get? name = map.get? name) :
    map.restrictTo source = map := by
  have covered : ∀ name ∈ map.names, name ∈ source.names := by
    intro name member
    obtain ⟨value, found⟩ := mem_names_iff.mp member
    exact mem_names_iff.mpr ⟨value, (same name member).trans found⟩
  have names := names_restrictTo source covered
  refine eq_of_get? names fun name => ?_
  by_cases member : name ∈ map.names
  · rw [get?_restrictTo source member, same name member]
  · rw [get?_eq_none_iff.mpr member, get?_eq_none_iff.mpr (names ▸ member)]

/-- Laying a part of `source` over a map that agrees with `source` elsewhere gives back `source`. -/
theorem get?_extend_restrictTo {source : NameMap α}
    (covered : ∀ name ∈ other.names, name ∈ source.names)
    (elsewhere : ∀ name, name ∉ other.names → source.get? name = map.get? name) (name : String) :
    (map.extend (other.restrictTo source)).get? name = source.get? name := by
  by_cases member : name ∈ other.names
  · obtain ⟨value, place⟩ := mem_names_iff.mp (covered name member)
    have kept := (get?_restrictTo source member).trans place
    rw [get?_extend_of_some kept, place]
  · have absent : name ∉ (other.restrictTo source).names := by
      rw [names_restrictTo source covered]
      exact member
    rw [get?_extend_of_not_mem absent, elsewhere name member]

end NameMap

end Templating
