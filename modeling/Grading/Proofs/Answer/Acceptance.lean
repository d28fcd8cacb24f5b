/-
Which answers a problem accepts, with full or with partial credit.

* `Rules.matchLists`, `Alternative.isSome_match?_iff`: when an answer matches an accepted text;
* `Alternative.accepts`, `Problem.matched_mark`: the alternative that decides is the first that the
  answer matches;
* `Problem.Accepts`, `Problem.accepts_iff`: an answer is accepted exactly if it matches one of the
  alternatives, whichever is found first;
* `Problem.Accepts.mono`: rules that let more lists match accept more answers.
-/
import Grading.Answer.Grade
import Mathlib.Tactic

namespace Grading

variable {rules rules' : Rules} {a : Alternative} {p : Problem} {accepted answer raw : Text}

/-! ### One alternative -/

/-- Whether the rules let an answer match an accepted text as a list. -/
def Rules.matchLists (rules : Rules) (answer accepted : Text) : Bool :=
  !rules.listOrderMatters && answer.contains ',' && listsMatch rules.listMatch answer accepted

/-- Two numbers match by their distance and by nothing else. Other texts match if they are the same
or, where the rules allow it, as lists. -/
lemma Alternative.isSome_match?_iff :
    (a.match? rules accepted answer).isSome = true
      ↔ (∃ expected given, readNumber? accepted = some expected ∧ readNumber? answer = some given
          ∧ a.admits (given - expected).abs = true)
        ∨ (readNumber? accepted = none ∨ readNumber? answer = none)
          ∧ (answer = accepted ∨ rules.matchLists answer accepted = true) := by
  have htexts : (if answer = accepted then some MatchKind.exact
      else if rules.matchLists answer accepted then some .unorderedList else none).isSome = true
        ↔ answer = accepted ∨ rules.matchLists answer accepted = true := by
    by_cases heq : answer = accepted
    · simp [heq]
    · cases hlists : rules.matchLists answer accepted <;> simp [heq]
  rw [Alternative.match?, ← Rules.matchLists]
  cases readNumber? accepted with
  | none => simpa using htexts
  | some expected =>
      cases readNumber? answer with
      | none => simpa using htexts
      | some given => cases hadmits : a.admits (given - expected).abs <;> simp [hadmits]

/-- Rules that let an answer match an accepted text as a list wherever others do match it wherever
the others do. -/
lemma Alternative.isSome_match?_mono
    (hlists : rules.matchLists answer accepted = true → rules'.matchLists answer accepted = true)
    (h : (a.match? rules accepted answer).isSome = true) :
    (a.match? rules' accepted answer).isSome = true := by
  rw [Alternative.isSome_match?_iff] at h ⊢
  exact h.imp_right fun ⟨htexts, hmatch⟩ => ⟨htexts, hmatch.imp_right hlists⟩

/-! ### The alternatives of a problem -/

/-- Whether an answer matches the alternative. -/
def Alternative.accepts (rules : Rules) (raw : Text) (a : Alternative) : Bool :=
  (a.match? rules (normalize rules a.value).text (normalize rules raw).text).isSome

/-- What is found is the first alternative that the answer matches. -/
lemma map_fst_search (rules : Rules) (answer : Text) (alternatives : List Alternative) :
    (search rules answer alternatives).2.map Prod.fst
      = alternatives.find? fun a =>
          (a.match? rules (normalize rules a.value).text answer).isSome := by
  induction alternatives with
  | nil => rfl
  | cons a others ih =>
      rw [search, List.find?_cons]
      cases a.match? rules (normalize rules a.value).text answer with
      | some kind => rfl
      | none => exact ih

namespace Problem

/-- Whether an answer earns full or partial credit. -/
def Accepts (rules : Rules) (p : Problem) (raw : Text) : Prop :=
  (p.mark rules raw).verdict ≠ .incorrect

/-- The alternative that decides is the first that the answer matches. -/
lemma matched_mark (rules : Rules) (p : Problem) (raw : Text) :
    (p.mark rules raw).matched = p.alternatives.find? (Alternative.accepts rules raw) := by
  have hfound : (p.judge rules raw).found.map Prod.fst
      = p.alternatives.find? (Alternative.accepts rules raw) :=
    map_fst_search rules (normalize rules raw).text p.alternatives
  rw [← hfound, mark]
  cases (p.judge rules raw).found <;> rfl

lemma mem_of_matched (h : (p.mark rules raw).matched = some a) : a ∈ p.alternatives :=
  List.mem_of_find?_eq_some ((matched_mark rules p raw).symm.trans h)

/-- What an answer earns that matches an alternative. -/
lemma mark_eq_creditMark (h : (p.mark rules raw).matched = some a) :
    p.mark rules raw
      = p.creditMark rules a (normalize rules raw).text (p.mark rules raw).diagnostics := by
  rw [mark] at h ⊢
  cases hfound : (p.judge rules raw).found with
  | none => rw [hfound] at h; cases h
  | some found => rw [hfound] at h; cases h; rfl

/-- What an answer earns that matches none. -/
lemma mark_eq_incorrectMark (h : (p.mark rules raw).matched = none) :
    p.mark rules raw
      = p.incorrectMark rules (normalize rules raw).text (p.mark rules raw).diagnostics := by
  rw [mark] at h ⊢
  cases hfound : (p.judge rules raw).found with
  | none => rfl
  | some found => rw [hfound] at h; cases h

/-- An answer is accepted exactly if it matches one of the alternatives. -/
lemma accepts_iff :
    p.Accepts rules raw
      ↔ ∃ a ∈ p.alternatives,
          (a.match? rules (normalize rules a.value).text (normalize rules raw).text).isSome
            = true := by
  rw [← List.find?_isSome]
  change _ ↔ (p.alternatives.find? (Alternative.accepts rules raw)).isSome = true
  rw [← matched_mark, Accepts]
  cases h : (p.mark rules raw).matched with
  | none =>
      rw [mark_eq_incorrectMark h]
      exact iff_of_false (fun hverdict => hverdict rfl) Bool.false_ne_true
  | some a =>
      have hcredit : (if a.ratio < 1 then Verdict.partialCredit else .correct) ≠ .incorrect := by
        split <;> decide
      rw [mark_eq_creditMark h]
      exact iff_of_true hcredit rfl

/-- Rules that bring texts into the same normal form, and let an answer match as a list wherever
others do, accept what the others accept. -/
lemma Accepts.mono (h : p.Accepts rules raw) (hnormal : normalize rules' = normalize rules)
    (hlists : ∀ a ∈ p.alternatives,
      rules.matchLists (normalize rules raw).text (normalize rules a.value).text = true →
        rules'.matchLists (normalize rules raw).text (normalize rules a.value).text = true) :
    p.Accepts rules' raw := by
  rw [accepts_iff] at h ⊢
  obtain ⟨a, ha, hmatch⟩ := h
  rw [hnormal]
  exact ⟨a, ha, Alternative.isSome_match?_mono (hlists a ha) hmatch⟩

end Problem

end Grading
