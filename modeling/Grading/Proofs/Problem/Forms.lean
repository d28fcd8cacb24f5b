/-
The problem of a key line whose lists are unrolled in both forms, against the problem of the line.

* `Alternative.other?`: an alternative with the other form of its list, and the same credit,
  tolerance and feedback;
* `map_ofEntry_forms`: it is what is read from the other form as it is written;
* `mem_alternatives_withParentheses`, `find?_alternatives_withParentheses`: the alternatives of the
  unrolled line are those of the line with their other forms, and as far as the first alternative
  with a property goes, each is followed by its own;
* `solution?_withParentheses`: the solution is the same;
* `compileLine_withParentheses_keeps_problem`: the unrolled line cannot be read exactly if the line
  cannot, for the same reason, and otherwise it misses none of the alternatives and has the same
  solution.
-/
import Grading.Proofs.Key.Equivalents
import Grading.Proofs.Key.Faults

namespace Grading

variable {number line : Text} {e : Entry} {a : Alternative} {p q : Problem}

/-! ### Other forms of what is read -/

namespace Alternative

/-- The alternative with another value. -/
def withValue (a : Alternative) (value : Text) : Alternative :=
  { a with value := value, isNumeric := isNumeral value }

lemma isFullCredit_withValue (a : Alternative) (value : Text) :
    (a.withValue value).isFullCredit = a.isFullCredit := rfl

/-- The alternative with the other form of its list, if it is one. -/
def other? (a : Alternative) : Option Alternative :=
  (Expander.otherForm? a.value).map a.withValue

/-- The other form keeps what the tags tell. -/
lemma exists_eq_withValue {b : Alternative} (h : a.other? = some b) :
    ∃ value, b = a.withValue value := by
  obtain ⟨value, -, rfl⟩ := Option.map_eq_some_iff.mp h
  exact ⟨value, rfl⟩

lemma ofEntry_withValue (number value : Text) (e : Entry) :
    ofEntry number ⟨value, e.tags⟩ = (ofEntry number e).map (·.withValue value) := by
  rw [ofEntry, ofEntry]
  cases e.tags.mapM fun tag => (Tag.ofText tag).mapError (GradingError.malformed number tag) with
  | error fault => rfl
  | ok tags => rfl

lemma value_of_ofEntry (h : ofEntry number e = .ok a) : a.value = e.value := by
  obtain ⟨tags, rfl, -⟩ := exists_tags_of_ofEntry h
  rfl

/-- The other form of an alternative is read from the other form that is written. -/
lemma map_ofEntry_forms (h : ofEntry number e = .ok a) :
    (e :: e.other?.toList).map (ofEntry number) = (a :: a.other?.toList).map .ok := by
  rw [other?, Entry.other?, value_of_ofEntry h]
  cases Expander.otherForm? e.value with
  | none => simp [h]
  | some form => simp [h, ofEntry_withValue, Except.map]

end Alternative

/-! ### Readings of lists -/

section Readings

variable {α β ε : Type} {f : α → Except ε β} {xs : List α} {ys : List β}

/-- What is found first among the values that are read. -/
lemma find?_eq_findSome? (h : xs.map f = ys.map .ok) (P : β → Bool) :
    ys.find? P = xs.findSome? fun x => (f x).toOption.filter P := by
  have hvalues : ys.find? P = (ys.map (.ok : β → Except ε β)).findSome? fun r =>
      r.toOption.filter P := by
    rw [List.findSome?_map, List.find?_eq_findSome?_guard]
    refine congrArg (List.findSome? · ys) (funext fun y => ?_)
    cases hy : P y <;> simp [Option.guard, Except.toOption, Option.filter, hy]
  rw [hvalues, ← h, List.findSome?_map]
  rfl

/-- Lists that are expanded are read as the values expanded. -/
lemma map_flatMap_eq {g : α → List α} {g' : β → List β} (h : xs.map f = ys.map .ok)
    (hg : ∀ x y, f x = .ok y → (g x).map f = (g' y).map .ok) :
    (xs.flatMap g).map f = (ys.flatMap g').map .ok := by
  induction xs generalizing ys with
  | nil =>
      obtain rfl : ys = [] := List.map_eq_nil_iff.mp h.symm
      rfl
  | cons x xs ih =>
      cases ys with
      | nil => cases h
      | cons y ys =>
          rw [List.map_cons, List.map_cons, List.cons.injEq] at h
          simp only [List.flatMap_cons, List.map_append, hg x y h.1, ih h.2]

end Readings

/-- Where each element is followed by a companion, the companion of an element before the first with
a property is found instead, if it has the property. -/
lemma find?_flatMap_companions {α : Type} (P : α → Bool) (next : α → Option α) (l : List α) :
    (l.flatMap fun a => a :: (next a).toList).find? P
      = ((l.takeWhile fun a => !P a).findSome? fun a => (next a).filter P).or (l.find? P) := by
  induction l with
  | nil => rfl
  | cons a l ih =>
      rw [List.flatMap_cons, List.cons_append]
      cases hP : P a with
      | true => simp [hP]
      | false =>
          have hnext : (next a).toList.find? P = (next a).filter P := by
            cases next a with
            | none => rfl
            | some b => cases hb : P b <;> simp [hb, Option.filter_some]
          rw [List.find?_cons_of_neg (by simp [hP]), List.find?_append, ih, hnext,
            List.takeWhile_cons_of_pos (by simp [hP]), List.findSome?_cons,
            List.find?_cons_of_neg (by simp [hP])]
          cases (next a).filter P <;> rfl

/-! ### The unrolled line -/

/-- The unrolled line cannot be read exactly if the line cannot, and for the same reason. -/
lemma errorOf_ofLine_withParentheses (number line : Text) :
    errorOf (Problem.ofLine number (compileLine .withParentheses line))
      = errorOf (Problem.ofLine number line) := by
  have hline : ∀ text, errorOf (Problem.ofLine number text) = NumberedLine.fault? ⟨number, text⟩ :=
    fun text => errorOf_ofKeyLine ⟨number, text⟩
  rw [hline, hline, fault?_compileLine Expander.faithful_withParentheses]

lemma exists_ofLine_withParentheses (hp : Problem.ofLine number line = .ok p) :
    ∃ q, Problem.ofLine number (compileLine .withParentheses line) = .ok q := by
  have herror := errorOf_ofLine_withParentheses number line
  rw [hp, errorOf_ok] at herror
  cases hq : Problem.ofLine number (compileLine .withParentheses line) with
  | error e => simp [hq] at herror
  | ok q => exact ⟨q, rfl⟩

/-- The alternatives of the unrolled line are read from those of the line with their other forms,
each where it stands first. -/
lemma map_ofEntry_withParentheses (hp : Problem.ofLine number line = .ok p)
    (hq : Problem.ofLine number (compileLine .withParentheses line) = .ok q) :
    ∃ es : List Entry, es.map (Alternative.ofEntry number)
        = (p.alternatives.flatMap fun a => a :: a.other?.toList).map .ok
      ∧ es.eraseDups.map (Alternative.ofEntry number) = q.alternatives.map .ok := by
  refine ⟨(entries .asWritten line).flatMap fun e => e :: e.other?.toList, ?_, ?_⟩
  · exact map_flatMap_eq (ofLine_eq_ok_iff.mp hp).2 fun e a => Alternative.map_ofEntry_forms
  · rw [← (ofLine_eq_ok_iff.mp hq).2, entries_compileLine Expander.keepsFree_withParentheses,
      entries_withParentheses, Occurrences.withCompanions]

/-- The alternatives of the unrolled line are those of the line and their other forms. -/
lemma mem_alternatives_withParentheses (hp : Problem.ofLine number line = .ok p)
    (hq : Problem.ofLine number (compileLine .withParentheses line) = .ok q) :
    a ∈ q.alternatives ↔ ∃ b ∈ p.alternatives, a = b ∨ b.other? = some a := by
  obtain ⟨es, hes, hunrolled⟩ := map_ofEntry_withParentheses hp hq
  have hmem : ∀ as : List Alternative,
      a ∈ as ↔ (.ok a : Except GradingError Alternative) ∈ as.map .ok := fun as => by simp
  rw [hmem, ← hunrolled]
  simp only [List.mem_map, List.mem_eraseDups]
  rw [← List.mem_map, hes, ← hmem]
  simp

/-- The first alternative of the unrolled line with a property is the first one of the line, unless
an alternative before that has it in its other form. -/
lemma find?_alternatives_withParentheses (hp : Problem.ofLine number line = .ok p)
    (hq : Problem.ofLine number (compileLine .withParentheses line) = .ok q)
    (P : Alternative → Bool) :
    q.alternatives.find? P
      = ((p.alternatives.takeWhile fun a => !P a).findSome? fun a => a.other?.filter P).or
          (p.alternatives.find? P) := by
  obtain ⟨es, hes, hunrolled⟩ := map_ofEntry_withParentheses hp hq
  rw [find?_eq_findSome? hunrolled, findSome?_eraseDups, ← find?_eq_findSome? hes,
    find?_flatMap_companions]

/-- Another form has the credit of its alternative, which comes first. -/
lemma find?_isFullCredit_withParentheses (hp : Problem.ofLine number line = .ok p)
    (hq : Problem.ofLine number (compileLine .withParentheses line) = .ok q) :
    q.alternatives.find? Alternative.isFullCredit
      = p.alternatives.find? Alternative.isFullCredit := by
  rw [find?_alternatives_withParentheses hp hq, List.findSome?_eq_none_iff.mpr, Option.none_or]
  intro a ha
  have hcredit : a.isFullCredit = false := by simpa using List.mem_takeWhile_imp ha
  rw [Option.filter_eq_none_iff]
  intro b hb
  obtain ⟨value, rfl⟩ := Alternative.exists_eq_withValue hb
  rw [Alternative.isFullCredit_withValue, hcredit]
  exact Bool.false_ne_true

lemma solution?_withParentheses (hp : Problem.ofLine number line = .ok p)
    (hq : Problem.ofLine number (compileLine .withParentheses line) = .ok q) :
    q.solution? = p.solution? := by
  rw [Problem.solution?, Problem.solution?, find?_isFullCredit_withParentheses hp hq]

/-- **The problem of an unrolled line**: with both forms of its lists, a line cannot be read exactly
if it cannot as it stands, for the same problem, tag and reason. Otherwise each alternative of the
line is one of the unrolled line, and both have the same solution. -/
theorem compileLine_withParentheses_keeps_problem (number line : Text) :
    let unrolled := compileLine .withParentheses line
    (∀ e, Problem.ofLine number unrolled = .error e ↔ Problem.ofLine number line = .error e)
      ∧ ∀ p q, Problem.ofLine number line = .ok p → Problem.ofLine number unrolled = .ok q →
          (∀ a ∈ p.alternatives, a ∈ q.alternatives)
            ∧ q.alternatives.find? Alternative.isFullCredit
              = p.alternatives.find? Alternative.isFullCredit
            ∧ q.solution? = p.solution? := by
  intro unrolled
  constructor
  · intro e
    rw [← errorOf_eq_some_iff, ← errorOf_eq_some_iff, errorOf_ofLine_withParentheses]
  · intro p q hp hq
    refine ⟨fun a ha => ?_, find?_isFullCredit_withParentheses hp hq,
      solution?_withParentheses hp hq⟩
    exact (mem_alternatives_withParentheses hp hq).mpr ⟨a, ha, Or.inl rfl⟩

/-- The last alternative of a line that stands before the second once both forms of the first are
written. -/
theorem compileLine_withParentheses_keeps_problem_moved :
    let line := "5,4; 0.5 & 7 & (5,4); 0.5".toList
    let unrolled := compileLine .withParentheses line
    unrolled = "5,4 ; 0.5 & (5,4) ; 0.5 & 7".toList
      ∧ ∃ p q, Problem.ofLine "1".toList line = .ok p
        ∧ Problem.ofLine "1".toList unrolled = .ok q
        ∧ (∀ a ∈ p.alternatives, a ∈ q.alternatives)
        ∧ q.solution? = p.solution? := by
  intro line unrolled
  refine ⟨by decide +kernel, ?_⟩
  obtain ⟨-, hkeeps⟩ := compileLine_withParentheses_keeps_problem "1".toList line
  obtain ⟨p, hp⟩ : ∃ p, Problem.ofLine "1".toList line = .ok p :=
    errorOf_eq_none_iff.mp (by decide +kernel)
  obtain ⟨q, hq⟩ : ∃ q, Problem.ofLine "1".toList unrolled = .ok q :=
    errorOf_eq_none_iff.mp (by decide +kernel)
  obtain ⟨hmem, -, hsolution⟩ := hkeeps p q hp hq
  exact ⟨p, q, hp, hq, hmem, hsolution⟩

end Grading
