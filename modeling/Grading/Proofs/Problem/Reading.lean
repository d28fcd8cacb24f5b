/-
Reading key lines, and what stops it.

* `errorOf`, `errorOf_mapM`: what went wrong; of several readings in a row, the first that fails;
* `mapM_eq_ok_iff`, `toOption_mapM`: several readings in a row succeed exactly if each does;
* `ofLine_eq_ok_iff`: a problem has the number of its line and the alternatives written there;
* `ofEntry_eq_ok_iff`: an alternative has the value and the tags that are written;
* `NumberedLine.fault?`: the first tag of a key line that cannot be read, as it is told;
* `errorOf_ofKeyLine`: reading the line fails with that, and only then;
* `GradingError.isMalformed`: whether an error tells of a tag of the key, as all of these do;
* `exists_eq_ofTags`: an alternative of a line is read from a value and tags;
* `alternatives?`, `toOption_ofKeyLine`: what a line accepts, which its number does not matter to.
-/
import Grading.Problem.Basic
import Mathlib.Tactic

namespace Grading

/-! ### What went wrong -/

section ErrorOf

variable {ε δ α β : Type}

/-- What went wrong, if anything did. -/
def errorOf : Except ε α → Option ε
  | .ok _ => none
  | .error e => some e

@[simp] lemma errorOf_ok (a : α) : errorOf (.ok a : Except ε α) = none := rfl

@[simp] lemma errorOf_error (e : ε) : errorOf (.error e : Except ε α) = some e := rfl

lemma errorOf_eq_some_iff {x : Except ε α} {e : ε} : errorOf x = some e ↔ x = .error e := by
  cases x <;> simp

lemma errorOf_eq_none_iff {x : Except ε α} : errorOf x = none ↔ ∃ a, x = .ok a := by
  cases x <;> simp

lemma toOption_map_eq_some_iff {x : Except ε α} {f : α → β} {b : β} :
    x.toOption.map f = some b ↔ ∃ a, x = .ok a ∧ f a = b := by
  cases x <;> simp [Except.toOption]

/-- What is read in two steps is read in the first and then in the second. -/
lemma bind_eq_ok_iff {x : Except ε α} {f : α → Except ε β} {b : β} :
    (x >>= f) = .ok b ↔ ∃ a, x = .ok a ∧ f a = .ok b := by
  cases x <;> simp [bind, Except.bind]

lemma errorOf_bind_pure (x : Except ε α) (f : α → β) :
    errorOf (x >>= fun a => pure (f a)) = errorOf x := by
  cases x <;> rfl

lemma errorOf_mapError (f : ε → δ) (x : Except ε α) :
    errorOf (x.mapError f) = (errorOf x).map f := by
  cases x <;> rfl

/-- The first reading that fails decides. -/
lemma errorOf_mapM (f : α → Except ε β) (xs : List α) :
    errorOf (xs.mapM f) = xs.findSome? fun x => errorOf (f x) := by
  induction xs with
  | nil => rfl
  | cons x xs ih =>
      rw [List.mapM_cons, List.findSome?_cons, ← ih]
      cases f x with
      | error e => rfl
      | ok y => exact errorOf_bind_pure (xs.mapM f) (y :: ·)

/-- A list is read exactly if each of its elements is. -/
lemma mapM_eq_ok_iff {f : α → Except ε β} {xs : List α} {ys : List β} :
    xs.mapM f = .ok ys ↔ xs.map f = ys.map .ok := by
  induction xs generalizing ys with
  | nil => cases ys <;> simp [pure, Except.pure]
  | cons x xs ih =>
      rw [List.mapM_cons, List.map_cons]
      cases ys with
      | nil => cases f x <;> cases xs.mapM f <;> simp [bind, Except.bind, pure, Except.pure]
      | cons y ys =>
          rw [List.map_cons, List.cons.injEq, ← ih]
          cases f x <;> cases xs.mapM f <;> simp [bind, Except.bind, pure, Except.pure]

/-- What is read from a list has its elements, each read from the one at its place. -/
lemma mapM_eq_ok_iff_forall₂ {f : α → Except ε β} {xs : List α} {ys : List β} :
    xs.mapM f = .ok ys ↔ List.Forall₂ (fun x y => f x = .ok y) xs ys := by
  rw [mapM_eq_ok_iff, ← List.forall₂_eq_eq_eq, List.forall₂_map_left_iff,
    List.forall₂_map_right_iff]

/-- Each element has something to go with it exactly if a list of such things goes with the list. -/
lemma exists_forall₂_iff {R : α → β → Prop} {xs : List α} :
    (∃ ys, List.Forall₂ R xs ys) ↔ ∀ x ∈ xs, ∃ y, R x y := by
  induction xs with
  | nil => simp
  | cons x xs ih =>
      rw [List.forall_mem_cons, ← ih]
      constructor
      · rintro ⟨_, _ | ⟨hx, hxs⟩⟩
        exact ⟨⟨_, hx⟩, ⟨_, hxs⟩⟩
      · rintro ⟨⟨y, hy⟩, ⟨ys, hys⟩⟩
        exact ⟨y :: ys, .cons hy hys⟩

lemma mapError_eq_ok_iff {f : ε → δ} {x : Except ε α} {a : α} :
    x.mapError f = .ok a ↔ x = .ok a := by
  cases x <;> simp [Except.mapError]

/-- What is read from a list is read from one of its elements. -/
lemma exists_mem_of_mapM_eq_ok {f : α → Except ε β} {xs : List α} {ys : List β}
    (h : xs.mapM f = .ok ys) {b : β} (hb : b ∈ ys) : ∃ a ∈ xs, f a = .ok b := by
  rw [mapM_eq_ok_iff] at h
  exact List.mem_map.mp (h ▸ List.mem_map_of_mem hb)

/-- Of several readings in a row the values, if all succeed. -/
lemma toOption_mapM (f : α → Except ε β) (xs : List α) :
    (xs.mapM f).toOption = xs.mapM fun x => (f x).toOption := by
  induction xs with
  | nil => rfl
  | cons x xs ih =>
      rw [List.mapM_cons, List.mapM_cons, ← ih]
      cases f x with
      | error e => rfl
      | ok y => cases xs.mapM f <;> rfl

/-- What is found first in texts taken one after another is found first in one of them. -/
lemma findSome?_flatMap (f : α → List β) (g : β → Option ε) (xs : List α) :
    (xs.flatMap f).findSome? g = xs.findSome? fun x => (f x).findSome? g := by
  induction xs with
  | nil => rfl
  | cons x xs ih =>
      rw [List.flatMap_cons, List.findSome?_append, List.findSome?_cons, ih]
      cases (f x).findSome? g <;> rfl

end ErrorOf

/-! ### Key lines -/

/-- What is told about the first tag of a key line that cannot be read, if there is one. -/
def NumberedLine.fault? (line : NumberedLine) : Option GradingError :=
  ((entries .asWritten line.text).flatMap Entry.tags).findSome? fun tag =>
    (errorOf (Tag.ofText tag)).map (.malformed line.number tag)

/-- A problem is read from the alternatives that its line writes. -/
lemma ofLine_eq_ok_iff {number line : Text} {p : Problem} :
    Problem.ofLine number line = .ok p
      ↔ p.number = number
        ∧ (entries .asWritten line).map (Alternative.ofEntry number) = p.alternatives.map .ok := by
  rw [Problem.ofLine, ← mapM_eq_ok_iff]
  cases (entries .asWritten line).mapM (Alternative.ofEntry number) with
  | error e => simp [bind, Except.bind]
  | ok alternatives =>
      obtain ⟨n, as⟩ := p
      simp [bind, Except.bind, pure, Except.pure, eq_comm]

lemma errorOf_ofEntry (problem : Text) (e : Entry) :
    errorOf (Alternative.ofEntry problem e)
      = e.tags.findSome? fun tag => (errorOf (Tag.ofText tag)).map (.malformed problem tag) := by
  rw [Alternative.ofEntry, errorOf_bind_pure, errorOf_mapM]
  simp only [errorOf_mapError]

/-- A key line cannot be read exactly if one of its tags cannot, and the first of them is the
error. -/
lemma errorOf_ofKeyLine (line : NumberedLine) :
    errorOf (Problem.ofKeyLine line) = line.fault? := by
  rw [Problem.ofKeyLine, Problem.ofLine, errorOf_bind_pure, errorOf_mapM, NumberedLine.fault?,
    findSome?_flatMap]
  simp only [errorOf_ofEntry]

lemma fault?_eq_some_iff {line : NumberedLine} {e : GradingError} :
    line.fault? = some e ↔ Problem.ofKeyLine line = .error e := by
  rw [← errorOf_ofKeyLine, errorOf_eq_some_iff]

/-- Whether the error tells of a tag of the key. -/
def GradingError.isMalformed : GradingError → Bool
  | .malformed .. => true
  | .exhausted _ => false

lemma isMalformed_of_fault? {line : NumberedLine} {e : GradingError} (h : line.fault? = some e) :
    e.isMalformed = true := by
  obtain ⟨tag, -, htag⟩ := List.exists_of_findSome?_eq_some h
  obtain ⟨f, -, rfl⟩ := Option.map_eq_some_iff.mp htag
  rfl

lemma number_of_ofKeyLine {line : NumberedLine} {p : Problem} (h : Problem.ofKeyLine line = .ok p) :
    p.number = line.number :=
  (ofLine_eq_ok_iff.mp h).1

/-! ### What a line accepts -/

/-- What is read has the value that is written, and the tags that are read from the written ones. -/
lemma ofEntry_eq_ok_iff {number : Text} {e : Entry} {a : Alternative} :
    Alternative.ofEntry number e = .ok a
      ↔ ∃ tags, List.Forall₂ (fun text tag => Tag.ofText text = .ok tag) e.tags tags
        ∧ a = Alternative.ofTags e.value tags := by
  have htags : ∀ tags, (e.tags.mapM fun tag =>
      (Tag.ofText tag).mapError (GradingError.malformed number tag)) = .ok tags
        ↔ List.Forall₂ (fun text tag => Tag.ofText text = .ok tag) e.tags tags := by
    intro tags
    rw [mapM_eq_ok_iff_forall₂]
    simp only [mapError_eq_ok_iff]
  simp only [← htags]
  rw [Alternative.ofEntry]
  cases e.tags.mapM fun tag => (Tag.ofText tag).mapError (GradingError.malformed number tag) with
  | error fault => simp [bind, Except.bind]
  | ok tags => simp [bind, Except.bind, pure, Except.pure, eq_comm]

/-- What is read has the value that is written and tags that are each read from a text. -/
lemma exists_tags_of_ofEntry {number : Text} {e : Entry} {a : Alternative}
    (h : Alternative.ofEntry number e = .ok a) :
    ∃ tags, a = Alternative.ofTags e.value tags
      ∧ ∀ tag ∈ tags, ∃ text, Tag.ofText text = .ok tag := by
  obtain ⟨tags, htags, rfl⟩ := ofEntry_eq_ok_iff.mp h
  refine ⟨tags, rfl, fun tag htag => ?_⟩
  obtain ⟨text, -, htext⟩ := exists_mem_of_mapM_eq_ok (mapM_eq_ok_iff_forall₂.mpr htags) htag
  exact ⟨text, htext⟩

/-- An alternative of a line is read from a value and tags, each of which is read from a text. -/
lemma exists_eq_ofTags {number line : Text} {p : Problem} {a : Alternative}
    (hp : Problem.ofLine number line = .ok p) (ha : a ∈ p.alternatives) :
    ∃ value tags, a = Alternative.ofTags value tags
      ∧ ∀ tag ∈ tags, ∃ text, Tag.ofText text = .ok tag := by
  have hread := (ofLine_eq_ok_iff.mp hp).2
  obtain ⟨e, -, he⟩ := List.mem_map.mp (hread ▸ List.mem_map_of_mem ha)
  exact ⟨e.value, exists_tags_of_ofEntry he⟩

/-- The alternatives of a line, if it can be read. -/
def alternatives? (line : Text) : Option (List Alternative) :=
  (entries .asWritten line).mapM fun e =>
    (e.tags.mapM fun tag => (Tag.ofText tag).toOption).map (Alternative.ofTags e.value)

lemma toOption_ofEntry (number : Text) (e : Entry) :
    (Alternative.ofEntry number e).toOption
      = (e.tags.mapM fun tag => (Tag.ofText tag).toOption).map (Alternative.ofTags e.value) := by
  have htag : ∀ tag, ((Tag.ofText tag).mapError (GradingError.malformed number tag)).toOption
      = (Tag.ofText tag).toOption := by
    intro tag
    cases Tag.ofText tag <;> rfl
  simp only [← htag]
  rw [← toOption_mapM, Alternative.ofEntry]
  cases e.tags.mapM fun tag => (Tag.ofText tag).mapError (GradingError.malformed number tag) <;> rfl

/-- The number of a line does not matter to what it accepts. -/
lemma toOption_ofKeyLine (line : NumberedLine) :
    (Problem.ofKeyLine line).toOption = (alternatives? line.text).map (Problem.mk line.number) := by
  rw [alternatives?]
  simp only [← toOption_ofEntry line.number]
  rw [← toOption_mapM, Problem.ofKeyLine, Problem.ofLine]
  cases (entries .asWritten line.text).mapM (Alternative.ofEntry line.number) <;> rfl

lemma ofKeyLine_of_alternatives? (line : NumberedLine) {alternatives : List Alternative}
    (h : alternatives? line.text = some alternatives) :
    Problem.ofKeyLine line = .ok ⟨line.number, alternatives⟩ := by
  have hread := toOption_ofKeyLine line
  rw [h] at hread
  cases hline : Problem.ofKeyLine line with
  | error e => rw [hline] at hread; cases hread
  | ok p => rw [hline] at hread; exact congrArg _ (Option.some.inj hread)

lemma exists_error_of_alternatives? (line : NumberedLine) (h : alternatives? line.text = none) :
    ∃ e, Problem.ofKeyLine line = .error e := by
  have hread := toOption_ofKeyLine line
  rw [h] at hread
  cases hline : Problem.ofKeyLine line with
  | error e => exact ⟨e, rfl⟩
  | ok p => rw [hline] at hread; cases hread

lemma fault?_eq_none_iff_isSome {line : NumberedLine} :
    line.fault? = none ↔ (alternatives? line.text).isSome = true := by
  rw [← errorOf_ofKeyLine, ← Option.isSome_map, ← toOption_ofKeyLine]
  cases Problem.ofKeyLine line <;> simp [Except.toOption]

end Grading
