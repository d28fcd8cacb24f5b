/-
The credit of alternatives.

* `between_of_ofText`: a ratio that is read lies between minus one and one;
* `ratio_eq_one_or_between`, `within_ratio`: the ratio of an alternative is one, or lies between
  minus one and one.
-/
import Grading.Proofs.Float.Within
import Grading.Proofs.Problem.Reading
import Grading.Proofs.Problem.Tags

namespace Grading

variable {line : NumberedLine} {a : Alternative} {p : Problem} {tag : Tag} {text : Text} {x : Float}

/-- A ratio that is read lies between minus one and one. -/
lemma between_of_ofText (h : Tag.ofText text = .ok tag) (hx : tag.ratio? = some x) :
    -1 < x ∧ x < 1 := by
  cases Tag.ofText_eq_ok_iff.mp h with
  | upTo => cases hx
  | between => cases hx
  | told => cases hx
  | credit _ _ hlow hhigh =>
      obtain rfl := Option.some.inj hx
      exact ⟨hlow, hhigh⟩

/-- The ratio of an alternative is that of a tag, or one. -/
lemma ratio_eq_one_or_between (hp : Problem.ofKeyLine line = .ok p) (ha : a ∈ p.alternatives) :
    a.ratio = 1 ∨ -1 < a.ratio ∧ a.ratio < 1 := by
  obtain ⟨value, tags, rfl, htags⟩ := exists_eq_ofTags hp ha
  rw [Alternative.ofTags]
  cases hlast : (tags.filterMap Tag.ratio?).getLast? with
  | none => exact Or.inl rfl
  | some x =>
      obtain ⟨tag, htag, hx⟩ := List.mem_filterMap.mp (List.mem_of_getLast? hlast)
      obtain ⟨text, htext⟩ := htags tag htag
      exact Or.inr (between_of_ofText htext hx)

lemma within_ratio (hp : Problem.ofKeyLine line = .ok p) (ha : a ∈ p.alternatives) :
    Within a.ratio 1 := by
  rcases ratio_eq_one_or_between hp ha with hone | ⟨hlow, hhigh⟩
  · rw [hone]
    exact within_one_self
  · exact within_of_between hlow hhigh

end Grading
