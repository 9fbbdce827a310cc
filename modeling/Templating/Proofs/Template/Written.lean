import Templating.Proofs.Template.Bare

/-!
# Pipelines that are written and read

A pipeline is written as its name and its calls with bars between them. Strings stand in quotes of
a chosen kind, integers in decimal, boolean words and names as they are. Reading what was written
gives the pipeline back, whatever separators, blanks and other quotes the strings contain.
-/

namespace Templating.Template

open Text (trim join Solid)

variable {separator : Char}

/-! ## Arguments -/

/-- An argument together with the way it is written. -/
inductive WrittenArgument where
  | string (mark : Char) (isQuote : IsQuote mark) (content : String)
      (paired : BackslashesPaired mark content.toList)
  | integer (value : Int64)
  | boolean (value : Bool)
  | reference (name : String) (valid : isVariableName name.toList = true)
      (word : name ∉ ["true", "yes", "false", "no"])

namespace WrittenArgument

def text : WrittenArgument → List Char
  | string mark _ content _ => quoted mark content.toList
  | integer value => Decimal.writeInteger value.toInt
  | boolean value => (toString value).toList
  | reference name _ _ => name.toList

def argument : WrittenArgument → Argument
  | string _ _ content _ => .literal (.string content)
  | integer value => .literal (.int value)
  | boolean value => .literal (.bool value)
  | reference name _ _ => .reference name

theorem solid_text (written : WrittenArgument) : Solid written.text := by
  cases written with
  | string mark isQuote content paired => exact solid_quoted isQuote content.toList
  | integer value => exact (bare_writeInteger value.toInt).solid
  | boolean value => exact (bare_boolean value).solid
  | reference name valid word => exact (bare_of_isVariableName valid).solid

theorem sealed_text (written : WrittenArgument) (special : ¬ IsBareChar separator) :
    Sealed separator written.text := by
  cases written with
  | string mark isQuote content paired => exact sealed_quoted isQuote paired separator
  | integer value => exact (bare_writeInteger value.toInt).isSealed special
  | boolean value => exact (bare_boolean value).isSealed special
  | reference name valid word => exact (bare_of_isVariableName valid).isSealed special

theorem readArgument_text (written : WrittenArgument) :
    readArgument written.text = written.argument := by
  cases written with
  | string mark isQuote content paired =>
      rw [text, readArgument, quotedArgument?_quoted isQuote]
      exact congrArg (Argument.literal ∘ Literal.string) String.ofList_toList
  | integer value =>
      exact (bare_writeInteger value.toInt).readArgument_eq.trans (plainArgument_writeInteger value)
  | boolean value => exact (bare_boolean value).readArgument_eq.trans (plainArgument_boolean value)
  | reference name valid word =>
      exact (bare_of_isVariableName valid).readArgument_eq.trans
        (plainArgument_of_isVariableName valid word)

end WrittenArgument

/-! ## Names -/

/-- A name that is not empty, without blanks at its ends, quotes or the given separators. -/
structure IsPlain (separators : List Char) (name : String) : Prop where
  nonempty : name ≠ ""
  trimmed : trim name.toList = name.toList
  free : ∀ c ∈ name.toList, ¬ IsQuote c ∧ c ∉ separators

instance (separators : List Char) (name : String) : Decidable (IsPlain separators name) :=
  decidable_of_iff (name ≠ "" ∧ trim name.toList = name.toList ∧
    name.toList.all (fun c => decide (¬ IsQuote c ∧ c ∉ separators)) = true) <| by
    constructor
    · rintro ⟨nonempty, trimmed, free⟩
      exact ⟨nonempty, trimmed, fun c member =>
        of_decide_eq_true (List.all_eq_true.mp free c member)⟩
    · rintro ⟨nonempty, trimmed, free⟩
      exact ⟨nonempty, trimmed, List.all_eq_true.mpr fun c member =>
        decide_eq_true (free c member)⟩

namespace IsPlain

variable {separators : List Char} {name : String}

theorem solid (plain : IsPlain separators name) : Solid name.toList :=
  Solid.of_trim_eq (fun empty => plain.nonempty (String.toList_eq_nil_iff.mp empty)) plain.trimmed

theorem isSealed (plain : IsPlain separators name) (member : separator ∈ separators) :
    Sealed separator name.toList := by
  refine Sealed.of_forall fun c found => ⟨(plain.free c found).1, ?_⟩
  rintro rfl
  exact (plain.free c found).2 member

end IsPlain

/-! ## Calls -/

structure WrittenCall where
  name : String
  plain : IsPlain ['|', ':'] name
  arguments : List WrittenArgument

namespace WrittenCall

/-- The arguments without the colon before them. -/
def argumentText (written : WrittenCall) : List Char :=
  join [','] (written.arguments.map WrittenArgument.text)

def text (written : WrittenCall) : List Char :=
  if written.arguments = [] then written.name.toList
  else written.name.toList ++ ':' :: written.argumentText

def call (written : WrittenCall) : FilterCall :=
  ⟨written.name, written.arguments.map WrittenArgument.argument⟩

theorem solid_text (written : WrittenCall) : Solid written.text := by
  rw [text]
  split
  next => exact written.plain.solid
  next filled =>
    have texts : written.arguments.map WrittenArgument.text ≠ [] := fun empty =>
      filled (List.map_eq_nil_iff.mp empty)
    have each : ∀ text ∈ written.arguments.map WrittenArgument.text, Solid text :=
      List.forall_mem_map.mpr fun argument _ => argument.solid_text
    exact written.plain.solid.append (Solid.join texts each [',']) [':']

theorem sealed_text (written : WrittenCall) : Sealed '|' written.text := by
  have name : Sealed '|' written.name.toList :=
    written.plain.isSealed List.mem_cons_self
  rw [text]
  split
  next => exact name
  next =>
    have gap : Sealed '|' [','] := Sealed.cons (by decide) (by decide) Sealed.nil
    have each : ∀ text ∈ written.arguments.map WrittenArgument.text, Sealed '|' text :=
      List.forall_mem_map.mpr fun argument _ => argument.sealed_text (by decide)
    exact name.append (Sealed.cons (by decide) (by decide) (Sealed.join gap each))

theorem splitUnquoted_argumentText (written : WrittenCall) :
    (splitUnquoted ',' written.argumentText).map readArgument =
      written.arguments.map WrittenArgument.argument := by
  have each : ∀ text ∈ written.arguments.map WrittenArgument.text,
      Solid text ∧ Sealed ',' text :=
    List.forall_mem_map.mpr fun argument _ =>
      ⟨argument.solid_text, argument.sealed_text (by decide)⟩
  have split := splitUnquoted_join (by decide) (by decide) (List.forall_mem_nil _) each
  rw [argumentText]
  rw [List.nil_append] at split
  rw [split, List.map_map]
  exact List.map_congr_left fun argument _ => argument.readArgument_text

theorem readCall_text (written : WrittenCall) : readCall written.text = written.call := by
  have name : Sealed ':' written.name.toList :=
    written.plain.isSealed (List.mem_cons_of_mem _ List.mem_cons_self)
  have passes := name.passes .start rfl
  have arguments := written.splitUnquoted_argumentText
  rw [readCall, written.solid_text.trim_eq, text, call, ← arguments]
  by_cases empty : written.arguments = []
  · have cut : cutUnquoted? ':' written.name.toList = none := cutUnquotedFrom?_of_passes passes
    rw [if_pos empty, cut, argumentText, empty]
    simp [join]
  · have cut : cutUnquoted? ':' (written.name.toList ++ ':' :: written.argumentText) =
        some (written.name.toList, written.argumentText) :=
      cutUnquotedFrom?_append (by decide) passes (name.closes .start rfl) _
    rw [if_neg empty, cut]
    simp only [written.plain.solid.trim_eq, String.ofList_toList]

end WrittenCall

/-! ## Pipelines -/

structure WrittenPipeline where
  name : String
  plain : IsPlain ['|'] name
  calls : List WrittenCall

namespace WrittenPipeline

def text (written : WrittenPipeline) : List Char :=
  join [' ', '|', ' '] (written.name.toList :: written.calls.map WrittenCall.text)

def pipeline (written : WrittenPipeline) : Pipeline :=
  ⟨written.name, written.calls.map WrittenCall.call⟩

end WrittenPipeline

theorem readPipeline_text (written : WrittenPipeline) :
    readPipeline written.text = written.pipeline := by
  have each : ∀ text ∈ written.name.toList :: written.calls.map WrittenCall.text,
      Solid text ∧ Sealed '|' text := by
    refine List.forall_mem_cons.mpr ⟨⟨written.plain.solid, ?_⟩, ?_⟩
    · exact written.plain.isSealed List.mem_cons_self
    · exact List.forall_mem_map.mpr fun call _ => ⟨call.solid_text, call.sealed_text⟩
  have blank : ∀ c ∈ [' '], Text.isBlank c = true := List.forall_mem_singleton.mpr (by decide)
  have split : splitUnquoted '|' written.text =
      written.name.toList :: written.calls.map WrittenCall.text :=
    splitUnquoted_join (by decide) (by decide) blank each
  have calls : (written.calls.map WrittenCall.text).map readCall =
      written.calls.map WrittenCall.call := by
    rw [List.map_map]
    exact List.map_congr_left fun call _ => call.readCall_text
  rw [readPipeline, split]
  exact congrArg₂ Pipeline.mk String.ofList_toList calls

/-- Separators of all kinds and both quotes inside strings, backslashes at the ends of names, a
name that starts like an exponent. -/
theorem readPipeline_text_separators :
    readPipeline "a\\ | f\\:'it\\'s, \"x\" | : ',\"\\\\\\\"\",-12,e5,true,inf | g".toList =
      ⟨"a\\", [⟨"f\\", [.literal (.string "it's, \"x\" | : "), .literal (.string "\\\\\""),
        .literal (.int (-12)), .reference "e5", .literal (.bool true), .reference "inf"]⟩,
        ⟨"g", []⟩]⟩ := by
  have written := readPipeline_text
    ⟨"a\\", by decide,
      [⟨"f\\", by decide,
        [.string '\'' (.inr rfl) "it's, \"x\" | : " (by decide),
          .string '"' (.inl rfl) "\\\\\"" (by decide), .integer (-12),
          .reference "e5" (by decide) (by decide), .boolean true,
          .reference "inf" (by decide) (by decide)]⟩,
        ⟨"g", by decide, []⟩]⟩
  exact written

end Templating.Template
