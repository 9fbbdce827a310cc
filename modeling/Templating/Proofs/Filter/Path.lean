import Templating.Filter.Collection
import Templating.Proofs.Outcome
import Templating.Proofs.Text.Splitting

/-!
# Dotted paths

A path is followed part by part: what is found under two parts with a dot between them is what is
found under the second in what is found under the first. A path that cannot be followed fails with
the error of the first segment that leads nowhere, and a later default may mend it.
-/

namespace Templating

namespace Value

theorem follow_eq_error_iff {value : Value} {path : List String} {error : PathError} :
    value.follow path = .error error ↔
      ∃ before segment after reached, path = before ++ segment :: after ∧
        value.follow before = .ok reached ∧ reached.child segment = .error error := by
  constructor
  · intro failed
    induction path generalizing value with
    | nil => cases failed
    | cons head rest ih =>
        rcases Outcome.bind_eq_error_iff.mp failed with here | ⟨next, step, later⟩
        · exact ⟨[], head, rest, value, rfl, rfl, here⟩
        · obtain ⟨before, segment, after, reached, split, start, stuck⟩ := ih later
          refine ⟨head :: before, segment, after, reached, ?_, ?_, stuck⟩
          · rw [split, List.cons_append]
          · exact Outcome.bind_eq_ok_iff.mpr ⟨next, step, start⟩
  · rintro ⟨before, segment, after, reached, rfl, start, stuck⟩
    have next : reached.follow (segment :: after) = .error error :=
      Outcome.bind_eq_error_iff.mpr (.inl stuck)
    rw [follow_append, start]
    exact next

end Value

namespace Filter

variable {value out : Value} {path : String} {error : FilterError}

theorem pathSegments_append (first second : String) :
    pathSegments (first ++ "." ++ second) = pathSegments first ++ pathSegments second := by
  have letters : (first ++ "." ++ second).toList = first.toList ++ '.' :: second.toList := by
    simp
  rw [pathSegments, letters, Text.splitAtChar_append, List.map_append]
  rfl

theorem pathSegments_of_not_mem (whole : '.' ∉ path.toList) : pathSegments path = [path] := by
  have undivided : Text.splitAtChar '.' path.toList = [path.toList] :=
    Text.splitBy_of_absent fun inside => whole (inside.subset (List.mem_singleton_self '.'))
  rw [pathSegments, undivided, List.map_singleton, String.ofList_toList]

/-- Even the empty path has a segment, so no path leads on from nil. -/
theorem exists_follow_nil (path : String) :
    ∃ error, Value.nil.follow (pathSegments path) = .error error := by
  have nonempty : pathSegments path ≠ [] :=
    mt List.map_eq_nil_iff.mp (Text.splitBy_ne_nil '.' [] path.toList)
  obtain ⟨segment, rest, split⟩ := List.exists_cons_of_ne_nil nonempty
  rw [split]
  exact ⟨_, rfl⟩

theorem key_of_not_isNil (solid : value.isNil = false) :
    key value [.string path] = (value.follow (pathSegments path)).mapError fun error =>
      FilterError.allowsDefault ("key '" ++ path ++ "': " ++ error.message) := by
  rw [key, if_neg (Bool.eq_false_iff.mp solid)]
  cases found : value.follow (pathSegments path) with
  | error error =>
      simp [argument, Value.toText, found, bind, Except.bind, Except.mapError, throw, throwThe,
        MonadExceptOf.throw]
  | ok out =>
      simp [argument, Value.toText, found, bind, Except.bind, Except.mapError, pure, Except.pure]

/-- Nil is refused before the path is looked at, which takes nothing away. -/
theorem key_eq_ok_iff :
    key value [.string path] = .ok out ↔ value.follow (pathSegments path) = .ok out := by
  by_cases nil : value.isNil = true
  · obtain ⟨error, stuck⟩ := exists_follow_nil path
    rw [Value.isNil_iff.mp nil, stuck]
    exact iff_of_false nofun nofun
  · rw [key_of_not_isNil (eq_false_of_ne_true nil), Outcome.mapError_eq_ok_iff]

theorem allowsDefault_of_key (failed : key value [.string path] = .error error) :
    ∃ reason, error = .allowsDefault reason := by
  by_cases nil : value.isNil = true
  · rw [key, if_pos nil] at failed
    exact ⟨_, (Except.error.inj failed).symm⟩
  · rw [key_of_not_isNil (eq_false_of_ne_true nil)] at failed
    obtain ⟨inside, -, rfl⟩ := Outcome.mapError_eq_error_iff.mp failed
    exact ⟨_, rfl⟩

theorem key_append_eq_ok_iff {first second : String} :
    key value [.string (first ++ "." ++ second)] = .ok out ↔
      ∃ between, key value [.string first] = .ok between ∧
        key between [.string second] = .ok out := by
  rw [key_eq_ok_iff, pathSegments_append, Value.follow_append, Outcome.bind_eq_ok_iff]
  simp only [key_eq_ok_iff]

/-- A dotted path is followed in steps of its parts, which may have dots of their own or be empty.
If it leads nowhere, the step that fails and the whole path both allow a default. Below the filter,
a list of segments is followed in steps as well, and fails as its first segment does that has
nothing under it in what the segments before it lead to. -/
theorem key_dotted (value : Value) (first second : String) :
    (∀ out, key value [.string (first ++ "." ++ second)] = .ok out ↔
      ∃ between, key value [.string first] = .ok between ∧
        key between [.string second] = .ok out) ∧
    (∀ error, key value [.string (first ++ "." ++ second)] = .error error →
      (∃ reason, error = .allowsDefault reason) ∧
      ((∃ reason, key value [.string first] = .error (.allowsDefault reason)) ∨
        ∃ between reason, key value [.string first] = .ok between ∧
          key between [.string second] = .error (.allowsDefault reason))) ∧
    (∀ front back : List String,
      value.follow (front ++ back) = (value.follow front).bind fun reached => reached.follow back) ∧
    ∀ path error, value.follow path = .error error ↔
      ∃ before segment after reached, path = before ++ segment :: after ∧
        value.follow before = .ok reached ∧ reached.child segment = .error error := by
  refine ⟨fun out => key_append_eq_ok_iff, fun error failed => ⟨allowsDefault_of_key failed, ?_⟩,
    value.follow_append, fun path error => Value.follow_eq_error_iff⟩
  cases start : key value [.string first] with
  | error inside =>
      obtain ⟨reason, rfl⟩ := allowsDefault_of_key start
      exact .inl ⟨reason, rfl⟩
  | ok between =>
      cases later : key between [.string second] with
      | error inside =>
          obtain ⟨reason, rfl⟩ := allowsDefault_of_key later
          exact .inr ⟨between, reason, rfl, later⟩
      | ok out =>
          rw [key_append_eq_ok_iff.mpr ⟨between, start, later⟩] at failed
          cases failed

/-- The name `user` leads on to an empty name, under which there is nil: the step from there finds
no value, and the whole path no container. -/
theorem key_dotted_nil :
    let tags : Value := .list [.string "admin", .string "ops"]
    let data : Value := .map [("user", .map [("tags", tags), ("", .nil)])]
    key data [.string ("user" ++ "." ++ "tags")] = .ok tags ∧
    (key data [.string ("user" ++ "." ++ "")] = .ok .nil ∧
      key data [.string ("user." ++ "." ++ "name")] =
        .error (.allowsDefault "key 'user..name': cannot look up 'name' in a nil")) ∧
    ((∃ reason, key data [.string "user."] = .error (.allowsDefault reason)) ∨
      ∃ between reason, key data [.string "user."] = .ok between ∧
        key between [.string "name"] = .error (.allowsDefault reason)) := by
  intro tags data
  have user : pathSegments "user" = ["user"] := pathSegments_of_not_mem (by decide)
  have name : pathSegments "name" = ["name"] := pathSegments_of_not_mem (by decide)
  have empty : pathSegments "" = [""] := pathSegments_of_not_mem (by decide)
  have first : key data [.string "user"] = .ok (.map [("tags", tags), ("", .nil)]) := by
    rw [key_eq_ok_iff, user]
    rfl
  have failed : key data [.string ("user." ++ "." ++ "name")] =
      .error (.allowsDefault "key 'user..name': cannot look up 'name' in a nil") := by
    have trailing : pathSegments "user." = ["user", ""] :=
      (pathSegments_append "user" "").trans (by rw [user, empty, List.singleton_append])
    rw [key_of_not_isNil rfl, pathSegments_append, trailing, name]
    rfl
  refine ⟨?_, ⟨?_, failed⟩, ?_⟩
  · refine ((key_dotted data "user" "tags").1 tags).mpr ⟨_, first, ?_⟩
    rw [key_eq_ok_iff, pathSegments_of_not_mem (by decide)]
    rfl
  · refine ((key_dotted data "user" "").1 .nil).mpr ⟨_, first, ?_⟩
    rw [key_eq_ok_iff, empty]
    rfl
  · exact ((key_dotted data "user." "name").2.1 _ failed).2

end Filter

end Templating
