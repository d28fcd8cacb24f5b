/-
What an alternative takes from its tags.

* `Alternative.Reads`, `reads_ofTags`: the last tag of a class counts, and all feedback is told;
* `Tag.Swap`, `ofEntry_reordered`: tags of different classes that are moved past each other;
* `exists_ofEntry_iff`, `ofEntry_eq_error_iff`: an alternative is read exactly if each of its tags
  falls into a class, and the first one that does not is the error;
* `ofEntry_classifies`: all this together.
-/
import Grading.Proofs.Problem.Reading
import Grading.Proofs.Problem.Tags
import Mathlib.Logic.Relation

namespace Grading

variable {t : Text} {tag : Tag} {problem : Text}

/-! ### What counts -/

/-- What an alternative takes from the texts it is written with. -/
structure Alternative.Reads (a : Alternative) (e : Entry) : Prop where
  value : a.value = e.value
  /-- Whether the value is a number does not depend on the tags. -/
  isNumeric : a.isNumeric = true ↔ ∃ x, WritesNumber e.value x
  /-- Without a range only equal numbers are accepted. -/
  noRange : (∀ t ∈ e.tags, ∀ x y, ¬ Tag.Classified t (.range x y)) →
    a.low = 0 ∧ a.high = 0 ∧ a.hasRange = false
  /-- The last range counts. -/
  range : ∀ front t back x y, e.tags = front ++ t :: back → Tag.Classified t (.range x y) →
    (∀ u ∈ back, ∀ x y, ¬ Tag.Classified u (.range x y)) →
      a.low = x ∧ a.high = y ∧ a.hasRange = true
  /-- Without a ratio there is full credit. -/
  noRatio : (∀ t ∈ e.tags, ∀ x, ¬ Tag.Classified t (.ratio x)) → a.ratio = 1
  /-- The last ratio counts. -/
  ratio : ∀ front t back x, e.tags = front ++ t :: back → Tag.Classified t (.ratio x) →
    (∀ u ∈ back, ∀ x, ¬ Tag.Classified u (.ratio x)) → a.ratio = x
  /-- All other tags are told in order. -/
  feedback : a.feedback = Text.join "; ".toList (e.tags.filter fun t => Told t)

section Counts

variable {α : Type} {f : Tag → Option α} {texts front back : List Text} {tags : List Tag} {v : α}

/-- Tags of other classes have nothing to say. -/
lemma filterMap_eq_nil_of_classified (h : List.Forall₂ Tag.Classified texts tags)
    (hnone : ∀ t ∈ texts, ∀ tag, Tag.Classified t tag → f tag = none) : tags.filterMap f = [] := by
  rw [List.filterMap_eq_nil_iff]
  induction h with
  | nil => simp
  | cons hhead _ ih =>
      rw [List.forall_mem_cons] at hnone ⊢
      exact ⟨hnone.1 _ hhead, ih hnone.2⟩

/-- The last tag of a class counts. -/
lemma getLast?_of_classified (h : List.Forall₂ Tag.Classified (front ++ t :: back) tags)
    (ht : Tag.Classified t tag) (hv : f tag = some v)
    (hnone : ∀ t ∈ back, ∀ tag, Tag.Classified t tag → f tag = none) :
    (tags.filterMap f).getLast? = some v := by
  induction front generalizing tags with
  | nil =>
      obtain ⟨b, bs, hb, hbs, rfl⟩ := List.forall₂_cons_left_iff.mp h
      have hsame : b = tag := Except.ok.inj
        ((Tag.ofText_eq_ok_iff.mpr hb).symm.trans (Tag.ofText_eq_ok_iff.mpr ht))
      rw [List.filterMap_cons_some (hsame ▸ hv), filterMap_eq_nil_of_classified hbs hnone]
      rfl
  | cons s front ih =>
      obtain ⟨b, bs, -, hbs, rfl⟩ := List.forall₂_cons_left_iff.mp h
      rw [List.filterMap_cons]
      cases f b with
      | none => exact ih hbs
      | some w => rw [List.getLast?_cons, ih hbs]; rfl

/-- What is told are the texts that are feedback. -/
lemma filterMap_feedback?_of_classified (h : List.Forall₂ Tag.Classified texts tags) :
    tags.filterMap Tag.feedback? = texts.filter fun t => Told t := by
  induction h with
  | nil => rfl
  | cons hhead _ ih =>
      rw [List.filterMap_cons, feedback?_of_classified hhead, List.filter_cons, ih]
      simp only [decide_eq_true_eq]
      split_ifs <;> rfl

end Counts

lemma range?_eq_none (h : Tag.Classified t tag) (hnone : ∀ x y, ¬ Tag.Classified t (.range x y)) :
    tag.range? = none := by
  cases tag with
  | range x y => exact absurd h (hnone x y)
  | ratio x => rfl
  | feedback s => rfl

lemma ratio?_eq_none (h : Tag.Classified t tag) (hnone : ∀ x, ¬ Tag.Classified t (.ratio x)) :
    tag.ratio? = none := by
  cases tag with
  | range x y => rfl
  | ratio x => exact absurd h (hnone x)
  | feedback s => rfl

/-- What an alternative takes from tags that fall into classes. -/
lemma reads_ofTags {e : Entry} {tags : List Tag} (h : List.Forall₂ Tag.Classified e.tags tags) :
    (Alternative.ofTags e.value tags).Reads e where
  value := rfl
  isNumeric := isNumeral_iff
  noRange hnone := by
    have hnil : tags.filterMap Tag.range? = [] :=
      filterMap_eq_nil_of_classified h fun t ht _ hclass => range?_eq_none hclass (hnone t ht)
    rw [Alternative.ofTags, hnil]
    exact ⟨rfl, rfl, rfl⟩
  range front t back x y htags ht hnone := by
    have hlast : (tags.filterMap Tag.range?).getLast? = some (x, y) :=
      getLast?_of_classified (htags ▸ h) ht rfl
        fun u hu _ hclass => range?_eq_none hclass (hnone u hu)
    rw [Alternative.ofTags, hlast]
    exact ⟨rfl, rfl, rfl⟩
  noRatio hnone := by
    have hnil : tags.filterMap Tag.ratio? = [] :=
      filterMap_eq_nil_of_classified h fun t ht _ hclass => ratio?_eq_none hclass (hnone t ht)
    rw [Alternative.ofTags, hnil]
    rfl
  ratio front t back x htags ht hnone := by
    have hlast : (tags.filterMap Tag.ratio?).getLast? = some x :=
      getLast?_of_classified (htags ▸ h) ht rfl
        fun u hu _ hclass => ratio?_eq_none hclass (hnone u hu)
    rw [Alternative.ofTags, hlast]
    rfl
  feedback := congrArg (Text.join "; ".toList) (filterMap_feedback?_of_classified h)

/-! ### Order -/

/-- The classes of tags. -/
inductive Tag.Kind where
  | range
  | ratio
  | feedback
deriving DecidableEq

/-- The class of a tag. -/
def Tag.kind : Tag → Kind
  | range .. => .range
  | ratio _ => .ratio
  | feedback _ => .feedback

/-- Whether two neighbours of different classes have changed places. -/
inductive Tag.Swap : List Text → List Text → Prop
  | neighbours {s t : Text} {a b : Tag} (front back : List Text) (first : Classified s a)
      (second : Classified t b) (kinds : a.kind ≠ b.kind) :
      Swap (front ++ s :: t :: back) (front ++ t :: s :: back)

lemma filterMap_swap {α β : Type} {f : α → Option β} {a b : α} (h : f a = none ∨ f b = none)
    (front back : List α) :
    (front ++ a :: b :: back).filterMap f = (front ++ b :: a :: back).filterMap f := by
  rw [List.filterMap_append, List.filterMap_append]
  rcases h with ha | hb
  · simp only [List.filterMap_cons, ha]
  · simp only [List.filterMap_cons, hb]

/-- Tags of different classes may change places. -/
lemma ofTags_swap {a b : Tag} (h : a.kind ≠ b.kind) (value : Text) (front back : List Tag) :
    Alternative.ofTags value (front ++ a :: b :: back)
      = Alternative.ofTags value (front ++ b :: a :: back) := by
  have hrange : a.range? = none ∨ b.range? = none := by
    cases a <;> cases b <;> simp_all [Tag.kind, Tag.range?]
  have hratio : a.ratio? = none ∨ b.ratio? = none := by
    cases a <;> cases b <;> simp_all [Tag.kind, Tag.ratio?]
  have hfeedback : a.feedback? = none ∨ b.feedback? = none := by
    cases a <;> cases b <;> simp_all [Tag.kind, Tag.feedback?]
  rw [Alternative.ofTags, Alternative.ofTags, filterMap_swap hrange, filterMap_swap hratio,
    filterMap_swap hfeedback]

/-- Neighbours of different classes that change places change nothing, be there other tags that
cannot be read or not. -/
lemma ofEntry_swap {value : Text} {texts texts' : List Text} (h : Tag.Swap texts texts') :
    Alternative.ofEntry problem ⟨value, texts'⟩ = Alternative.ofEntry problem ⟨value, texts⟩ := by
  obtain ⟨front, back, hs, ht, hkinds⟩ := h
  rw [Alternative.ofEntry, Alternative.ofEntry]
  simp only [List.mapM_append, List.mapM_cons, Tag.ofText_eq_ok_iff.mpr hs,
    Tag.ofText_eq_ok_iff.mpr ht]
  cases front.mapM fun tag => (Tag.ofText tag).mapError (GradingError.malformed problem tag) with
  | error e => rfl
  | ok tags =>
      cases back.mapM fun tag => (Tag.ofText tag).mapError (GradingError.malformed problem tag) with
      | error e => rfl
      | ok tags' => exact congrArg Except.ok (ofTags_swap hkinds value tags tags').symm

/-- Tags of different classes may be moved past each other as often as one likes. -/
lemma ofEntry_reordered {value : Text} {texts texts' : List Text}
    (h : Relation.ReflTransGen Tag.Swap texts texts') :
    Alternative.ofEntry problem ⟨value, texts'⟩ = Alternative.ofEntry problem ⟨value, texts⟩ := by
  induction h with
  | refl => rfl
  | tail _ hswap ih => exact (ofEntry_swap hswap).trans ih

/-! ### Alternatives -/

lemma exists_ofEntry_iff {e : Entry} :
    (∃ a, Alternative.ofEntry problem e = .ok a)
      ↔ ∀ t ∈ e.tags, ∃ tag, Tag.Classified t tag := by
  simp only [ofEntry_eq_ok_iff, Tag.ofText_eq_ok_iff, ← exists_forall₂_iff]
  exact ⟨fun ⟨_, tags, htags, _⟩ => ⟨tags, htags⟩, fun ⟨tags, htags⟩ => ⟨_, tags, htags, rfl⟩⟩

/-- The first tag that falls into no class is the error. -/
lemma ofEntry_eq_error_iff {e : Entry} {error : GradingError} :
    Alternative.ofEntry problem e = .error error
      ↔ ∃ front t back fault, e.tags = front ++ t :: back
          ∧ (∀ u ∈ front, ∃ tag, Tag.Classified u tag) ∧ (∀ tag, ¬ Tag.Classified t tag)
          ∧ Tag.ofText t = .error fault ∧ error = .malformed problem t fault := by
  have hread : ∀ {u}, (errorOf (Tag.ofText u)).map (GradingError.malformed problem u) = none
      ↔ ∃ tag, Tag.Classified u tag := by
    intro u
    simp only [Option.map_eq_none_iff, errorOf_eq_none_iff, Tag.ofText_eq_ok_iff]
  rw [← errorOf_eq_some_iff, errorOf_ofEntry, List.findSome?_eq_some_iff]
  simp only [hread, Option.map_eq_some_iff, errorOf_eq_some_iff]
  constructor
  · rintro ⟨front, t, back, htags, ⟨fault, hfault, rfl⟩, hfront⟩
    refine ⟨front, t, back, fault, htags, hfront, fun tag htag => ?_, hfault, rfl⟩
    rw [Tag.ofText_eq_ok_iff.mpr htag] at hfault
    cases hfault
  · rintro ⟨front, t, back, fault, htags, hfront, -, hfault, rfl⟩
    exact ⟨front, t, back, htags, ⟨fault, hfault, rfl⟩, hfront⟩

/-- **Tags**: an alternative is read exactly if each of its tags falls into a class. It then has the
last range, the last ratio and all feedback in order. If it is not read, the error tells of the
first tag that falls into no class. Tags of different classes may be moved past each other. -/
theorem ofEntry_classifies (problem : Text) (e : Entry) :
    ((∃ a, Alternative.ofEntry problem e = .ok a)
        ↔ ∀ t ∈ e.tags, ∃ tag, Tag.Classified t tag)
      ∧ (∀ a, Alternative.ofEntry problem e = .ok a → a.Reads e)
      ∧ (∀ error, Alternative.ofEntry problem e = .error error →
          ∃ front t back fault, e.tags = front ++ t :: back
            ∧ (∀ u ∈ front, ∃ tag, Tag.Classified u tag) ∧ (∀ tag, ¬ Tag.Classified t tag)
            ∧ error = .malformed problem t fault)
      ∧ ∀ texts, Relation.ReflTransGen Tag.Swap e.tags texts →
          Alternative.ofEntry problem ⟨e.value, texts⟩ = Alternative.ofEntry problem e := by
  refine ⟨exists_ofEntry_iff, fun a ha => ?_, fun error herror => ?_, fun texts htexts => ?_⟩
  · obtain ⟨tags, htags, rfl⟩ := ofEntry_eq_ok_iff.mp ha
    exact reads_ofTags (htags.imp fun _ _ => Tag.ofText_eq_ok_iff.mp)
  · obtain ⟨front, t, back, fault, htags, hfront, ht, -, herror⟩ := ofEntry_eq_error_iff.mp herror
    exact ⟨front, t, back, fault, htags, hfront, ht, herror⟩
  · exact ofEntry_reordered htexts

/-- Of two ranges the last one counts, and feedback may be moved behind the first. -/
theorem ofEntry_classifies_moved :
    let close := "Close".toList
    let near := "RANGE 2 to 5".toList
    let others := ["0.5".toList, "Out of range 3".toList]
    ∃ a, Alternative.ofEntry "1".toList ⟨"7".toList, close :: near :: others⟩ = .ok a
      ∧ (a.low, a.high, a.ratio, a.feedback) = (0, 3, 0.5, close)
      ∧ Alternative.ofEntry "1".toList ⟨"7".toList, near :: close :: others⟩ = .ok a := by
  intro close near others
  have hkinds : ([close, near].map fun t => (Tag.ofText t).toOption.map Tag.kind)
      = [some .feedback, some .range] := by
    decide +kernel
  obtain ⟨hclose, hnear⟩ := List.cons_eq_cons.mp hkinds
  obtain ⟨told, htold, hfeedback⟩ := toOption_map_eq_some_iff.mp hclose
  obtain ⟨range, hrange, hkind⟩ := toOption_map_eq_some_iff.mp (List.cons.inj hnear).1
  have hread : ((Alternative.ofEntry "1".toList ⟨"7".toList, close :: near :: others⟩).toOption.map
      fun a => (a.low, a.high, a.ratio, a.feedback)) = some (0, 3, 0.5, close) := by
    decide +kernel
  obtain ⟨a, ha, hvalues⟩ := toOption_map_eq_some_iff.mp hread
  obtain ⟨-, -, -, horder⟩ := ofEntry_classifies "1".toList ⟨"7".toList, close :: near :: others⟩
  refine ⟨a, ha, hvalues, (horder _ (.single ?_)).trans ha⟩
  exact .neighbours [] others (Tag.ofText_eq_ok_iff.mp htold) (Tag.ofText_eq_ok_iff.mp hrange)
    (by rw [hfeedback, hkind]; decide)

end Grading
