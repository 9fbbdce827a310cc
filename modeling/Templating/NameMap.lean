/-!
# Insertion-ordered name maps

Entries are kept in the order in which their names first arrived. Setting a name that is present
replaces its value and leaves its place; a new name goes to the end. The functions on plain entry
lists come first, because nested values carry such lists too.
-/

namespace Templating

universe u v

/-- Name and value pairs in order. -/
abbrev Entries (α : Type u) := List (String × α)

namespace Entries

variable {α : Type u}

def names (entries : Entries α) : List String := entries.map Prod.fst

/-- The value under `name` in the first entry that carries it. -/
def get? (name : String) : Entries α → Option α
  | [] => none
  | (key, value) :: rest => if key = name then some value else get? name rest

/-- Replaces the value under `name` in place, or appends a new entry. -/
def insert (name : String) (value : α) : Entries α → Entries α
  | [] => [(name, value)]
  | (key, old) :: rest =>
      if key = name then (key, value) :: rest else (key, old) :: insert name value rest

/-- Drops the entry under `name`; the others keep their order. -/
def erase (name : String) : Entries α → Entries α
  | [] => []
  | (key, value) :: rest => if key = name then rest else (key, value) :: erase name rest

/-- Inserts the pairs one after the other, so a repeated name keeps its first place and takes its
last value. -/
def ofPairs (pairs : List (String × α)) : Entries α :=
  pairs.foldl (fun entries pair => insert pair.1 pair.2 entries) []

@[simp] theorem names_nil : names ([] : Entries α) = [] := rfl

@[simp] theorem names_cons (key : String) (value : α) (rest : Entries α) :
    names ((key, value) :: rest) = key :: names rest := rfl

theorem mem_names_insert {name other : String} {value : α} {entries : Entries α} :
    other ∈ names (insert name value entries) ↔ other = name ∨ other ∈ names entries := by
  induction entries with
  | nil => simp [insert, names]
  | cons entry rest ih =>
      obtain ⟨key, old⟩ := entry
      by_cases same : key = name
      · subst same; simp [insert]
      · simp [insert, same, ih]; grind

theorem nodup_names_insert {name : String} {value : α} {entries : Entries α}
    (distinct : (names entries).Nodup) : (names (insert name value entries)).Nodup := by
  induction entries with
  | nil => simp [insert, names]
  | cons entry rest ih =>
      obtain ⟨key, old⟩ := entry
      have parts := List.nodup_cons.mp distinct
      by_cases same : key = name
      · simpa [insert, same] using distinct
      · have tail := ih parts.2
        simp only [insert, same, if_false, names_cons]
        refine List.nodup_cons.mpr ⟨?_, tail⟩
        intro found
        rcases mem_names_insert.mp found with equal | found
        · exact same equal
        · exact parts.1 found

theorem names_erase_sublist (name : String) (entries : Entries α) :
    (names (erase name entries)).Sublist (names entries) := by
  induction entries with
  | nil => simp [erase]
  | cons entry rest ih =>
      obtain ⟨key, old⟩ := entry
      by_cases same : key = name
      · simp [erase, same]
      · simpa [erase, same] using ih

theorem nodup_names_foldl (pairs : List (String × α)) (entries : Entries α)
    (distinct : (names entries).Nodup) :
    (names (pairs.foldl (fun entries pair => insert pair.1 pair.2 entries) entries)).Nodup := by
  induction pairs generalizing entries with
  | nil => simpa using distinct
  | cons pair rest ih => exact ih _ (nodup_names_insert distinct)

theorem nodup_names_ofPairs (pairs : List (String × α)) : (names (ofPairs pairs)).Nodup :=
  nodup_names_foldl pairs [] List.nodup_nil

end Entries

/-- Entries whose names are distinct. -/
structure NameMap (α : Type u) where
  entries : Entries α
  nodup : (Entries.names entries).Nodup

namespace NameMap

variable {α : Type u} {β : Type v}

def empty : NameMap α := ⟨[], List.nodup_nil⟩

instance : Inhabited (NameMap α) := ⟨empty⟩

def names (map : NameMap α) : List String := Entries.names map.entries

def size (map : NameMap α) : Nat := map.entries.length

def isEmpty (map : NameMap α) : Bool := map.entries.isEmpty

def get? (map : NameMap α) (name : String) : Option α := Entries.get? name map.entries

def contains (map : NameMap α) (name : String) : Bool := (map.get? name).isSome

def insert (map : NameMap α) (name : String) (value : α) : NameMap α :=
  ⟨Entries.insert name value map.entries, Entries.nodup_names_insert map.nodup⟩

def erase (map : NameMap α) (name : String) : NameMap α :=
  ⟨Entries.erase name map.entries, map.nodup.sublist (Entries.names_erase_sublist name map.entries)⟩

def ofPairs (pairs : List (String × α)) : NameMap α :=
  ⟨Entries.ofPairs pairs, Entries.nodup_names_ofPairs pairs⟩

/-- Lays the entries of `other` over `map`, in their order. -/
def extend (map other : NameMap α) : NameMap α :=
  ⟨other.entries.foldl (fun entries pair => Entries.insert pair.1 pair.2 entries) map.entries,
    Entries.nodup_names_foldl other.entries map.entries map.nodup⟩

/-- Keeps the names and their order and takes each value from `source`; a name that `source` does
not carry is left out. -/
def restrictTo (map : NameMap α) (source : NameMap β) : NameMap β where
  entries := map.entries.filterMap fun entry =>
    (source.get? entry.1).map fun value => (entry.1, value)
  nodup := by
    have sublist : (Entries.names (map.entries.filterMap fun entry =>
        (source.get? entry.1).map fun value => (entry.1, value))).Sublist
          (Entries.names map.entries) := by
      induction map.entries with
      | nil => simp
      | cons entry rest ih =>
          obtain ⟨key, value⟩ := entry
          cases found : source.get? key with
          | none => simpa [found] using ih.trans (List.sublist_cons_self _ _)
          | some kept => simpa [found] using ih
    exact map.nodup.sublist sublist

theorem mem_names_insert {map : NameMap α} {name other : String} {value : α} :
    other ∈ (map.insert name value).names ↔ other = name ∨ other ∈ map.names :=
  Entries.mem_names_insert

end NameMap

end Templating
