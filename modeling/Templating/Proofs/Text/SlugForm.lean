import Templating.Proofs.Text.Slug
import Templating.Proofs.Text.Splitting

/-!
# The form of slugs

A slug holds small ASCII letters, digits, hyphens and dots, and no two hyphens side by side. Opening
dots brings in nothing but spaces, and the last step leaves one hyphen for every run of blanks and
hyphens, so the hyphens next to a new space do no harm. A text of this form whose dots stand between
digits is its own slug.
-/

namespace Templating.Text

structure IsSlug (text : List Char) : Prop where
  each : ∀ c ∈ text, ('a' ≤ c ∧ c ≤ 'z') ∨ ('0' ≤ c ∧ c ≤ '9') ∨ c = '-' ∨ c = '.'
  single : ¬ ['-', '-'] <:+: text

variable {c : Char} {text title : List Char}

theorem isSlugChar_iff (c : Char) : isSlugChar c = true ↔
    ('a' ≤ c ∧ c ≤ 'z') ∨ ('0' ≤ c ∧ c ≤ '9') ∨ c = '-' ∨ c = '.' := by
  have letter : ('a' ≤ c ∧ c ≤ 'z') ↔ 0x61 ≤ c.toNat ∧ c.toNat ≤ 0x7a := by
    simp only [Char.le_def, UInt32.le_iff_toNat_le]
    rfl
  have digit : ('0' ≤ c ∧ c ≤ '9') ↔ c.isDigit = true := by
    simp only [Char.isDigit_iff_toNat, Char.le_def, UInt32.le_iff_toNat_le]
    rfl
  rw [letter, digit]
  simp [isSlugChar, isSlugLetter, or_assoc]

theorem isSlug_iff : IsSlug text ↔
    (∀ c ∈ text, isSlugChar c = true) ∧ ¬ ['-', '-'] <:+: text := by
  simp only [isSlugChar_iff]
  exact ⟨fun slug => ⟨slug.each, slug.single⟩, fun ⟨each, single⟩ => ⟨each, single⟩⟩

/-! ## Characters -/

/-- The characters of a slug lie between the hyphen and the letter z, and none is a capital. -/
theorem code_of_isSlugChar (fits : isSlugChar c = true) :
    0x2d ≤ c.toNat ∧ c.toNat ≤ 0x7a ∧ ¬ (0x41 ≤ c.toNat ∧ c.toNat ≤ 0x5a) := by
  have first : '0'.toNat = 0x30 := rfl
  have last : '9'.toNat = 0x39 := rfl
  simp only [isSlugChar, isSlugLetter, Bool.or_eq_true, Bool.and_eq_true, decide_eq_true_eq,
    beq_iff_eq, Char.isDigit_iff_toNat] at fits
  rcases fits with ((letter | digit) | rfl) | rfl
  · omega
  · omega
  · decide
  · decide

theorem not_isBlank_of_isSlugChar (fits : isSlugChar c = true) : isBlank c = false := by
  have code := code_of_isSlugChar fits
  rw [← Bool.not_eq_true]
  simp [isBlank]
  omega

theorem lowerForm_of_isSlugChar (fits : isSlugChar c = true) : lowerForm c = [c] := by
  have code := code_of_isSlugChar fits
  have small : ¬ (c.val ≥ 'A'.val ∧ c.val ≤ 'Z'.val) := by
    simp only [ge_iff_le, UInt32.le_iff_toNat_le]
    exact code.2.2
  have same : c.toLower = c := dif_neg small
  rw [lowerForm, if_pos (by omega), same]

theorem mem_slugAlphabet (member : c ∈ slugAlphabet title) :
    isSlugChar c = true ∨ isBlank c = true := by
  obtain ⟨d, -, rfl⟩ := List.mem_map.mp member
  split
  next fits => exact (Bool.or_eq_true _ _).mp fits
  next => exact .inr (by decide)

theorem flatten_words (text : List Char) : (words text).flatten = text.filter (!isBlank ·) := by
  induction text with
  | nil => rfl
  | cons c rest ih =>
      rw [words, List.filter_cons]
      cases blank : isBlank c with
      | true => simpa using ih
      | false =>
          rw [if_neg Bool.false_ne_true, Bool.not_false, if_pos rfl, ← ih]
          split
          next => rfl
          next =>
            cases words rest with
            | nil => rfl
            | cons word others => rfl

theorem mem_join {separator : List Char} {pieces : List (List Char)}
    (member : c ∈ join separator pieces) : c ∈ separator ∨ c ∈ pieces.flatten := by
  induction pieces with
  | nil => exact .inr member
  | cons piece others ih =>
      by_cases last : others = []
      · subst last
        exact .inr (by simpa [join] using member)
      · rw [join_cons last, List.mem_append, List.mem_append] at member
        rw [List.flatten_cons, List.mem_append]
        rcases member with (here | between) | later
        · exact .inr (.inl here)
        · exact .inl between
        · exact (ih later).imp_right .inr

theorem mem_spaced (member : c ∈ spaced title) : isSlugChar c = true ∨ c = ' ' := by
  rcases mem_join member with space | inside
  · exact .inr (List.mem_singleton.mp space)
  · rw [flatten_words, List.mem_filter] at inside
    obtain ⟨inAlphabet, solid⟩ := inside
    refine .inl ((mem_slugAlphabet inAlphabet).resolve_right fun blank => ?_)
    rw [blank] at solid
    cases solid

section Opening

variable {left right : Char → Bool}

theorem mem_openedAfter {length : Nat} {next : Option Char}
    (member : c ∈ openedAfter right length next) : c = '.' ∨ c = ' ' := by
  unfold openedAfter at member
  split at member
  · cases member
  split at member
  · exact .inr (List.mem_singleton.mp member)
  split at member
  · simpa [or_comm] using member
  · exact .inl (List.eq_of_mem_replicate member)

theorem mem_opened {free : Bool} {length : Nat} {next : Option Char}
    (member : c ∈ opened left right free length next) : c = '.' ∨ c = ' ' := by
  unfold opened at member
  split at member
  · exact mem_openedAfter member
  cases length with
  | zero => cases member
  | succ more =>
      rcases List.mem_cons.mp member with dot | later
      · exact .inl dot
      split at later
      · exact mem_openedAfter later
      · exact .inl (List.eq_of_mem_replicate later)

theorem mem_openedFrom {free : Bool} {length : Nat}
    (member : c ∈ openedFrom left right free length text) : c ∈ text ∨ c = '.' ∨ c = ' ' := by
  induction text generalizing free length with
  | nil => exact .inr (mem_opened member)
  | cons next rest ih =>
      rw [openedFrom] at member
      split at member
      · exact (ih member).imp_left (List.mem_cons_of_mem _)
      · rcases List.mem_append.mp member with dots | later
        · exact .inr (mem_opened dots)
        · rcases List.mem_cons.mp later with rfl | beyond
          · exact .inl List.mem_cons_self
          · exact (ih beyond).imp_left (List.mem_cons_of_mem _)

/-- Opening dots leaves a text in the alphabet of slugs and spaces. -/
theorem fits_openDots (fits : ∀ c ∈ text, isSlugChar c = true ∨ c = ' ') :
    ∀ c ∈ openDots left right text, isSlugChar c = true ∨ c = ' ' := by
  intro c member
  rw [openDots_eq_openedFrom] at member
  rcases mem_openedFrom member with inside | rfl | space
  · exact fits c inside
  · exact .inl (by decide)
  · exact .inr space

end Opening

/-! ## Hyphens -/

theorem mem_hyphenate (member : c ∈ hyphenate text) : c = '-' ∨ c ∈ text ∧ isGap c = false := by
  induction text with
  | nil => cases member
  | cons first rest ih =>
      have onward : c ∈ hyphenate rest → c = '-' ∨ c ∈ first :: rest ∧ isGap c = false :=
        fun later => (ih later).imp_right (.imp_left (List.mem_cons_of_mem _))
      rw [hyphenate_cons] at member
      split at member
      next =>
        split at member
        next => exact onward member
        next => exact (List.mem_cons.mp member).elim .inl onward
      next solid =>
        rcases List.mem_cons.mp member with rfl | later
        · exact .inr ⟨List.mem_cons_self, eq_false_of_ne_true solid⟩
        · exact onward later

/-- What is left of a text begins with a hyphen only if the text begins with a gap. -/
theorem isGap_of_head?_hyphenate (first : (hyphenate text).head? = some '-') :
    text.head?.any isGap = true := by
  cases text with
  | nil => cases first
  | cons c rest =>
      cases gap : isGap c with
      | true => exact gap
      | false =>
          rw [hyphenate_cons, gap, if_neg Bool.false_ne_true] at first
          cases first
          cases gap

theorem not_double_hyphen (text : List Char) : ¬ ['-', '-'] <:+: hyphenate text := by
  induction text with
  | nil => decide
  | cons c rest ih =>
      rw [hyphenate_cons]
      split
      next =>
        split
        next => exact ih
        next alone =>
          intro double
          rcases List.infix_cons_iff.mp double with start | later
          · obtain ⟨more, whole⟩ := (List.cons_prefix_cons.mp start).2
            exact alone (isGap_of_head?_hyphenate (by rw [← whole]; rfl))
          · exact ih later
      next solid =>
        intro double
        rcases List.infix_cons_iff.mp double with start | later
        · cases (List.cons_prefix_cons.mp start).1
          exact solid rfl
        · exact ih later

/-! ## Texts that are their own slugs -/

theorem lower_of_isSlugChar (each : ∀ c ∈ text, isSlugChar c = true) : lower text = text := by
  have after : ∀ before, lowerAfter before text = text := by
    induction text with
    | nil => exact fun _ => rfl
    | cons c rest ih =>
        obtain ⟨fits, later⟩ := List.forall_mem_cons.mp each
        have small : c ≠ 'Σ' := by
          rintro rfl
          exact absurd fits (by decide)
        intro before
        rw [lowerAfter, if_neg small, lowerForm_of_isSlugChar fits, ih later]
        rfl
  exact after []

theorem words_of_not_isBlank (filled : text ≠ []) (solid : ∀ c ∈ text, isBlank c = false) :
    words text = [text] := by
  induction text with
  | nil => exact absurd rfl filled
  | cons c rest ih =>
      obtain ⟨here, later⟩ := List.forall_mem_cons.mp solid
      rw [words, here, if_neg Bool.false_ne_true]
      cases rest with
      | nil => rfl
      | cons next beyond =>
          have goesOn : ¬ (next :: beyond).head?.all isBlank = true := by
            simp [later next List.mem_cons_self]
          rw [if_neg goesOn, ih (List.cons_ne_nil _ _) later]

theorem spaced_of_isSlugChar (each : ∀ c ∈ text, isSlugChar c = true) : spaced text = text := by
  have alphabet : slugAlphabet text = text := by
    rw [slugAlphabet, lower_of_isSlugChar each]
    conv_rhs => rw [← List.map_id text]
    refine List.map_congr_left fun c member => ?_
    rw [each c member, Bool.true_or, if_pos rfl, id]
  rw [spaced, alphabet]
  by_cases empty : text = []
  · rw [empty]
    rfl
  · rw [words_of_not_isBlank empty fun c member => not_isBlank_of_isSlugChar (each c member),
      List.intercalate_singleton]

/-- A pass that asks for something else than a digit on one side leaves dots between digits. -/
theorem openDots_of_betweenFrom {left right : Char → Bool}
    (other : (∀ c, c.isDigit = true → left c = false) ∨ ∀ c, c.isDigit = true → right c = false)
    {afterDigit : Bool} (between : BetweenFrom afterDigit text) :
    openDots left right text = text := by
  induction text generalizing afterDigit with
  | nil => exact openDots_nil
  | cons c rest ih =>
      obtain ⟨-, later⟩ := between
      suffices none : dotRun? left right (c :: rest) = none by
        rw [openDots_of_none none, ih later]
      obtain ⟨length, tail, rfl, stops⟩ := exists_dots rest
      refine dotRun?_none stops ?_
      rcases length with _ | _ | more
      · exact .inr (.inl rfl)
      · obtain ⟨digit, next⟩ := later.1 rfl
        rcases other with noDigit | noDigit
        · exact .inl (noDigit c digit)
        · refine .inr (.inr ⟨?_, fun _ => Nat.le_refl 1⟩)
          obtain ⟨d, after, rfl⟩ : ∃ d after, tail = d :: after := by
            cases tail with
            | nil => cases next
            | cons d after => exact ⟨d, after, rfl⟩
          exact noDigit d next
      · cases (later.1 rfl).2

theorem hyphenate_of_single (solid : ∀ c ∈ text, isBlank c = false)
    (single : ¬ ['-', '-'] <:+: text) : hyphenate text = text := by
  induction text with
  | nil => rfl
  | cons c rest ih =>
      obtain ⟨here, later⟩ := List.forall_mem_cons.mp solid
      rw [List.infix_cons_iff, not_or] at single
      have rest_eq := ih later single.2
      rw [hyphenate_cons]
      split
      next gap =>
        have hyphen : c = '-' := by simpa [isGap, here] using gap
        subst hyphen
        have alone : ¬ rest.head?.any isGap = true := by
          cases rest with
          | nil => exact Bool.false_ne_true
          | cons next beyond =>
              intro twice
              have hyphen : next = '-' := by
                simpa [isGap, later next List.mem_cons_self] using twice
              exact single.1 ⟨beyond, by rw [hyphen]; rfl⟩
        rw [if_neg alone, rest_eq]
      next => rw [rest_eq]

theorem isSlug_slugify (title : List Char) : IsSlug (slugify title) := by
  rw [isSlug_iff]
  refine ⟨fun c member => ?_, not_double_hyphen _⟩
  rcases mem_hyphenate member with rfl | ⟨inside, solid⟩
  · decide
  · have alphabet := fits_openDots (fits_openDots (fits_openDots fun _ => mem_spaced)) c inside
    rcases alphabet with fits | rfl
    · exact fits
    · cases solid

theorem slugify_of_isSlug {slug : List Char} (form : IsSlug slug) (dots : DotsBetweenDigits slug) :
    slugify slug = slug := by
  obtain ⟨each, single⟩ := isSlug_iff.mp form
  have between := (dotsBetweenDigits_iff slug).mp dots
  have noDigit : ∀ c : Char, c.isDigit = true → isNoDigit c = false := fun _ digit => by
    rw [isNoDigit, digit]
    rfl
  change hyphenate (openDots _ _ (openDots _ _ (openDots _ _ (spaced slug)))) = slug
  rw [spaced_of_isSlugChar each, openDots_of_betweenFrom (.inl noDigit) between,
    openDots_of_betweenFrom (.inl noDigit) between, openDots_of_betweenFrom (.inr noDigit) between]
  exact hyphenate_of_single (fun c member => not_isBlank_of_isSlugChar (each c member)) single

/-- Every slug is made of small letters, digits, dots and single hyphens, and so it has no blank and
nothing to put in lower case. What has this form and dots between digits alone is its own slug. -/
theorem slugify_form (title : List Char) :
    IsSlug (slugify title) ∧ (∀ c ∈ slugify title, isBlank c = false ∧ lowerForm c = [c]) ∧
      ∀ slug, IsSlug slug → DotsBetweenDigits slug → slugify slug = slug := by
  have form := isSlug_slugify title
  refine ⟨form, fun c member => ?_, fun slug => slugify_of_isSlug⟩
  have fits := (isSlug_iff.mp form).1 c member
  exact ⟨not_isBlank_of_isSlugChar fits, lowerForm_of_isSlugChar fits⟩

/-- A letter that becomes ASCII in lower case, one that becomes two characters, and hyphens beside
dots that are opened. -/
theorem slugify_form_hyphens :
    slugify "\u212a -..- İ\u2003- 4.5".toList = "k-i-4.5".toList ∧ IsSlug "k-i-4.5".toList ∧
      DotsBetweenDigits "k-i-4.5".toList ∧ slugify "k-i-4.5".toList = "k-i-4.5".toList := by
  have result : slugify "\u212a -..- İ\u2003- 4.5".toList = "k-i-4.5".toList := by
    simp only [slugify, openDots_eq_openedFrom]
    decide
  have dots : DotsBetweenDigits "k-i-4.5".toList := by
    rw [dotsBetweenDigits_iff]
    simp [BetweenFrom]
  obtain ⟨form, -, own⟩ := slugify_form "\u212a -..- İ\u2003- 4.5".toList
  rw [result] at form
  exact ⟨result, form, dots, own _ form dots⟩

end Templating.Text
