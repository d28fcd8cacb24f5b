/-
The classes of tags.

* `BoundsOf`, `Tag.Classified`: the class of a tag, and what it says;
* `Tag.ofText_eq_ok_iff`: a tag is read exactly if it falls into a class, as what it says there;
* `feedback?_of_classified`: a tag is told exactly if it is neither a range nor a number.
-/
import Grading.Problem.Tag
import Grading.Proofs.Number.Numerals
import Grading.Proofs.Text.Between
import Grading.Proofs.Text.Pieces

namespace Grading

variable {s : Text} {bounds : List Text} {tag : Tag} {x : Float}

/-! ### Classes -/

/-- Whether the text holds the word `range`, in any case. -/
def HoldsRange (s : Text) : Prop := "range".toList <:+: s.lower

instance (s : Text) : Decidable (HoldsRange s) := decidable_of_iff _ Text.holds_iff

/-- The words of a text in lower case that follow the first `range`. -/
def BoundsOf (s : Text) (bounds : List Text) : Prop :=
  ∃ before after, Text.Leftmost "range".toList before after s.lower ∧ after.words = bounds

/-- Whether the text is feedback: neither a range nor a number. -/
def Told (s : Text) : Prop := ¬ HoldsRange s ∧ ¬ ∃ x, WritesNumber s x

instance (s : Text) : Decidable (Told s) := inferInstanceAs (Decidable (_ ∧ _))

/-- The class of a tag, and what the tag says. The numbers that are taken and compared are the
floating-point numbers nearest to those that are written. -/
inductive Tag.Classified : Text → Tag → Prop
  /-- A tag with `range` and one number after it. -/
  | upTo {s high : Text} {y : Float} (bounds : BoundsOf s [high]) (high : WritesNumber high y) :
      Classified s (.range 0 y)
  /-- A tag with `range` and two numbers after it, with `to` between them. -/
  | between {s low high : Text} {x y : Float} (bounds : BoundsOf s [low, "to".toList, high])
      (low : WritesNumber low x) (high : WritesNumber high y) : Classified s (.range x y)
  /-- Any other tag that is a number between minus one and one. -/
  | credit {s : Text} {x : Float} (range : ¬ HoldsRange s) (number : WritesNumber s x)
      (low : -1 < x) (high : x < 1) : Classified s (.ratio x)
  /-- Any other tag that is no number. -/
  | told {s : Text} (told : Told s) : Classified s (.feedback s)

lemma after?_range_eq_none_iff : Text.after? "range".toList s.lower = none ↔ ¬ HoldsRange s := by
  rw [HoldsRange, ← Text.holds_iff, Text.holds, Bool.not_eq_true, Option.isSome_eq_false_iff,
    Option.isNone_iff_eq_none]

/-! ### Reading tags -/

lemma readBound_eq_ok_iff {bound : Text} : Tag.readBound bound = .ok x ↔ WritesNumber bound x := by
  rw [← readNumber?_eq_some_iff, Tag.readBound]
  cases readNumber? bound <;> simp

lemma ofBounds_eq_ok_iff :
    Tag.ofBounds bounds = .ok tag
      ↔ (∃ high y, bounds = [high] ∧ WritesNumber high y ∧ tag = .range 0 y)
        ∨ ∃ low high x y, bounds = [low, "to".toList, high] ∧ WritesNumber low x
            ∧ WritesNumber high y ∧ tag = .range x y := by
  constructor
  · intro h
    rw [Tag.ofBounds.eq_def] at h
    split at h
    case h_1 => cases h
    case h_2 high =>
      -- one bound, the upper one
      cases hhigh : Tag.readBound high with
      | error e => rw [hhigh] at h; cases h
      | ok y =>
          rw [hhigh] at h
          exact Or.inl ⟨high, y, rfl, readBound_eq_ok_iff.mp hhigh, (Except.ok.inj h).symm⟩
    case h_3 low between high =>
      split at h
      case isTrue hto =>
        -- two bounds, with the word between them
        cases hlow : Tag.readBound low with
        | error e => rw [hlow] at h; cases h
        | ok x =>
            cases hhigh : Tag.readBound high with
            | error e => rw [hlow, hhigh] at h; cases h
            | ok y =>
                rw [hlow, hhigh] at h
                exact Or.inr ⟨low, high, x, y, hto ▸ rfl, readBound_eq_ok_iff.mp hlow,
                  readBound_eq_ok_iff.mp hhigh, (Except.ok.inj h).symm⟩
      case isFalse => cases h
    case h_4 => cases h
  · rintro (⟨high, y, rfl, hhigh, rfl⟩ | ⟨low, high, x, y, rfl, hlow, hhigh, rfl⟩)
    · rw [Tag.ofBounds, readBound_eq_ok_iff.mpr hhigh]
      rfl
    · rw [Tag.ofBounds, if_pos rfl, readBound_eq_ok_iff.mpr hlow, readBound_eq_ok_iff.mpr hhigh]
      rfl

lemma ofNumber_eq_ok_iff : Tag.ofNumber x = .ok tag ↔ -1 < x ∧ x < 1 ∧ tag = .ratio x := by
  rw [Tag.ofNumber]
  constructor
  · intro h
    split at h
    case isTrue hx =>
      rw [Bool.and_eq_true, decide_eq_true_eq, decide_eq_true_eq] at hx
      exact ⟨hx.1, hx.2, (Except.ok.inj h).symm⟩
    case isFalse => cases h
  · rintro ⟨hlow, hhigh, rfl⟩
    exact if_pos (by simp [hlow, hhigh])

/-- A tag is read exactly if it falls into a class, as what it says there. -/
lemma Tag.ofText_eq_ok_iff : Tag.ofText s = .ok tag ↔ Classified s tag := by
  constructor
  · intro h
    rw [ofText] at h
    split at h
    case h_1 after hafter =>
      -- a range, with its bounds after the word
      obtain ⟨before, hrange⟩ := Text.after?_eq_some_iff.mp hafter
      rcases ofBounds_eq_ok_iff.mp h with
        ⟨high, y, hwords, hhigh, rfl⟩ | ⟨low, high, x, y, hwords, hlow, hhigh, rfl⟩
      · exact .upTo ⟨before, after, hrange, hwords⟩ hhigh
      · exact .between ⟨before, after, hrange, hwords⟩ hlow hhigh
    case h_2 hnone =>
      -- no range: a number or feedback
      have hrange := after?_range_eq_none_iff.mp hnone
      split at h
      case h_1 x hx =>
        obtain ⟨hlow, hhigh, rfl⟩ := ofNumber_eq_ok_iff.mp h
        exact .credit hrange (readNumber?_eq_some_iff.mp hx) hlow hhigh
      case h_2 hx =>
        obtain rfl := Except.ok.inj h
        exact .told ⟨hrange, not_exists.mpr (readNumber?_eq_none_iff.mp hx)⟩
  · intro h
    rw [ofText]
    cases h with
    | upTo hbounds hhigh =>
        obtain ⟨before, after, hrange, hwords⟩ := hbounds
        rw [Text.after?_eq_some_iff.mpr ⟨before, hrange⟩]
        exact ofBounds_eq_ok_iff.mpr (Or.inl ⟨_, _, hwords, hhigh, rfl⟩)
    | between hbounds hlow hhigh =>
        obtain ⟨before, after, hrange, hwords⟩ := hbounds
        rw [Text.after?_eq_some_iff.mpr ⟨before, hrange⟩]
        exact ofBounds_eq_ok_iff.mpr (Or.inr ⟨_, _, _, _, hwords, hlow, hhigh, rfl⟩)
    | credit hrange hnumber hlow hhigh =>
        rw [after?_range_eq_none_iff.mpr hrange, readNumber?_eq_some_iff.mpr hnumber]
        exact ofNumber_eq_ok_iff.mpr ⟨hlow, hhigh, rfl⟩
    | told htold =>
        rw [after?_range_eq_none_iff.mpr htold.1,
          readNumber?_eq_none_iff.mpr (not_exists.mp htold.2)]

/-- A tag is feedback exactly if it falls into that class. -/
lemma feedback?_of_classified (h : Tag.Classified s tag) :
    tag.feedback? = if Told s then some s else none := by
  have hrange : ∀ {bounds}, BoundsOf s bounds → ¬ Told s := by
    rintro bounds ⟨before, after, hleftmost, -⟩ ⟨hnone, -⟩
    rw [← after?_range_eq_none_iff, Text.after?_eq_some_iff.mpr ⟨before, hleftmost⟩] at hnone
    cases hnone
  cases h with
  | upTo hbounds => exact (if_neg (hrange hbounds)).symm
  | between hbounds => exact (if_neg (hrange hbounds)).symm
  | credit hrange hnumber => exact (if_neg fun h => h.2 ⟨_, hnumber⟩).symm
  | told htold => exact (if_pos htold).symm

end Grading
