/-
Lists in which every element is kept where it stands first, and nowhere else.

* `addLast`, `eraseDups_concat`: such a list grows by the elements that it does not hold yet;
* `nodup_eraseDups`, `eraseDups_eq_self`, `eraseDups_flatMap_eraseDups`: it repeats nothing, it is
  the whole list if that repeats nothing, and it may be taken before the elements are expanded;
* `firsts`, `eraseDups_eq_firsts`: it is what stands nowhere before its own place;
* `foldl_eq_eraseDups`: a loop whose steps keep what is new keeps what is new in all;
* `withCompanions`: each element is followed by a companion of its own, if it has one;
* `CompanionsFollow`, `withCompanions_front`: companions that come in time keep the list from
  getting ahead of itself by more than one element;
* `withCompanions_eq_self_iff`: nothing is new exactly where every companion stands by its element;
* `withCompanions_idempotent_iff`: adding companions again adds nothing exactly if the companions
  of companions stand by them.
-/
import Mathlib.Tactic

namespace Grading

namespace Occurrences

variable {α β : Type} [DecidableEq α] [DecidableEq β]

/-! ### First occurrences -/

/-- The list with an element at its end, unless the list holds it. -/
def addLast (l : List α) (a : α) : List α := if a ∈ l then l else l ++ [a]

lemma addLast_of_mem {l : List α} {a : α} (h : a ∈ l) : addLast l a = l := if_pos h

lemma addLast_of_notMem {l : List α} {a : α} (h : a ∉ l) : addLast l a = l ++ [a] := if_neg h

lemma prefix_addLast (l : List α) (a : α) : l <+: addLast l a := by
  by_cases h : a ∈ l
  · rw [addLast_of_mem h]
  · rw [addLast_of_notMem h]
    exact List.prefix_append l [a]

lemma length_addLast_le (l : List α) (a : α) : (addLast l a).length ≤ l.length + 1 := by
  by_cases h : a ∈ l
  · rw [addLast_of_mem h]; omega
  · simp [addLast_of_notMem h]

lemma nodup_addLast {l : List α} (h : l.Nodup) (a : α) : (addLast l a).Nodup := by
  by_cases ha : a ∈ l
  · rwa [addLast_of_mem ha]
  · rw [addLast_of_notMem ha, List.nodup_append]
    refine ⟨h, List.nodup_singleton a, fun b hb c hc hbc => ?_⟩
    rw [List.mem_singleton] at hc
    exact ha (hc ▸ hbc ▸ hb)

/-- First occurrences are found from the front. -/
lemma eraseDups_concat (l : List α) (a : α) : (l ++ [a]).eraseDups = addLast l.eraseDups a := by
  rw [List.eraseDups_append]
  by_cases h : a ∈ l
  · rw [addLast_of_mem (List.mem_eraseDups.mpr h)]
    simp [List.removeAll, h]
  · rw [addLast_of_notMem (by simpa using h)]
    simp [List.removeAll, h, List.eraseDups_cons]

lemma nodup_eraseDups (l : List α) : l.eraseDups.Nodup := by
  induction l using List.reverseRecOn with
  | nil => simp
  | append_singleton l a ih =>
      rw [eraseDups_concat]
      exact nodup_addLast ih a

lemma eraseDups_eq_self {l : List α} (h : l.Nodup) : l.eraseDups = l := by
  induction l using List.reverseRecOn with
  | nil => rfl
  | append_singleton l a ih =>
      obtain ⟨hl, -, hdis⟩ := List.nodup_append.mp h
      have ha : a ∉ l := fun ha => hdis a ha a (by simp) rfl
      rw [eraseDups_concat, ih hl, addLast_of_notMem ha]

/-- What follows a list only depends on its first occurrences. -/
lemma eraseDups_append_congr {l l' : List α} (h : l.eraseDups = l'.eraseDups) (m : List α) :
    (l ++ m).eraseDups = (l' ++ m).eraseDups := by
  induction m using List.reverseRecOn with
  | nil => simpa using h
  | append_singleton m a ih =>
      rw [← List.append_assoc, ← List.append_assoc, eraseDups_concat, eraseDups_concat, ih]

/-- Elements that a list holds add nothing at its end. -/
lemma eraseDups_append_of_forall_mem {l m : List α} (h : ∀ a ∈ m, a ∈ l) :
    (l ++ m).eraseDups = l.eraseDups := by
  induction m using List.reverseRecOn with
  | nil => simp
  | append_singleton m a ih =>
      have ha : a ∈ l := h a (by simp)
      rw [← List.append_assoc, eraseDups_concat, ih fun b hb => h b (by simp [hb]),
        addLast_of_mem (List.mem_eraseDups.mpr ha)]

/-- Repetitions may be dropped before the elements are expanded. -/
lemma eraseDups_flatMap_eraseDups (l : List α) (f : α → List β) :
    (l.eraseDups.flatMap f).eraseDups = (l.flatMap f).eraseDups := by
  induction l using List.reverseRecOn with
  | nil => rfl
  | append_singleton l a ih =>
      rw [eraseDups_concat, List.flatMap_append, List.flatMap_singleton]
      by_cases ha : a ∈ l
      · rw [addLast_of_mem (List.mem_eraseDups.mpr ha), ih, eraseDups_append_of_forall_mem]
        exact fun b hb => List.mem_flatMap.mpr ⟨a, ha, hb⟩
      · rw [addLast_of_notMem (by simpa using ha), List.flatMap_append, List.flatMap_singleton]
        exact eraseDups_append_congr ih (f a)

/-- The elements of a list at the places before which they do not stand, in order. -/
def firsts (l : List α) : List α := (l.zipIdx.filter fun p => p.1 ∉ l.take p.2).map Prod.fst

/-- A longer list has the same elements new, and its last one if that stands nowhere before. -/
lemma firsts_concat (l : List α) (a : α) :
    firsts (l ++ [a]) = firsts l ++ if a ∈ l then [] else [a] := by
  have hfront : (l.zipIdx.filter fun p => p.1 ∉ (l ++ [a]).take p.2)
      = l.zipIdx.filter fun p => p.1 ∉ l.take p.2 := by
    refine List.filter_congr fun p hp => ?_
    have hlt : p.2 < l.length := List.snd_lt_of_mem_zipIdx hp
    rw [List.take_append_of_le_length hlt.le]
  rw [firsts, List.zipIdx_append, List.filter_append, hfront, List.map_append, firsts]
  congr 1
  by_cases ha : a ∈ l <;> simp [ha]

/-- First occurrences are what stands nowhere before its own place. -/
lemma eraseDups_eq_firsts (l : List α) : l.eraseDups = firsts l := by
  induction l using List.reverseRecOn with
  | nil => rfl
  | append_singleton l a ih =>
      rw [eraseDups_concat, firsts_concat, ← ih]
      by_cases ha : a ∈ l
      · rw [addLast_of_mem (List.mem_eraseDups.mpr ha), if_pos ha, List.append_nil]
      · rw [addLast_of_notMem (by simpa using ha), if_neg ha]

/-- If each step of a loop adds what is new of some elements, then the loop adds what is new of all
of them. -/
lemma foldl_eq_eraseDups {γ : Type} {step : List α → γ → List α} {f : γ → List α}
    (h : ∀ seen c, step seen.eraseDups c = (seen ++ f c).eraseDups) (cs : List γ) (seen : List α) :
    cs.foldl step seen.eraseDups = (seen ++ cs.flatMap f).eraseDups := by
  induction cs generalizing seen with
  | nil => simp
  | cons c cs ih => rw [List.foldl_cons, h, ih, List.flatMap_cons, List.append_assoc]

/-! ### Companions -/

/-- The list with each element followed by its companion, all kept where they stand first. -/
def withCompanions (next : α → Option α) (l : List α) : List α :=
  (l.flatMap fun a => a :: (next a).toList).eraseDups

/-- The element `b` stands before `a` in the list, or right after it. -/
def StandsBy (l : List α) (a b : α) : Prop := b ∈ l.take (l.idxOf a + 2)

lemma StandsBy.mem {l : List α} {a b : α} (h : StandsBy l a b) : b ∈ l := List.mem_of_mem_take h

variable {next : α → Option α} {l : List α} {a b : α}

lemma withCompanions_concat_none (h : next a = none) :
    withCompanions next (l ++ [a]) = addLast (withCompanions next l) a := by
  simp [withCompanions, h, eraseDups_concat]

lemma withCompanions_concat_some (h : next a = some b) :
    withCompanions next (l ++ [a]) = addLast (addLast (withCompanions next l) a) b := by
  rw [withCompanions, List.flatMap_append, List.flatMap_singleton, h, Option.toList_some,
    show [a, b] = [a] ++ [b] from rfl, ← List.append_assoc, eraseDups_concat, eraseDups_concat]
  rfl

/-- A list that grows keeps what stands by an element it held. -/
lemma StandsBy.of_prefix {l' : List α} (h : StandsBy l a b) (hl : l <+: l') (ha : a ∈ l) :
    StandsBy l' a b := by
  obtain ⟨t, rfl⟩ := hl
  rw [StandsBy, List.idxOf_append_of_mem ha, List.take_append, List.mem_append]
  exact Or.inl h

lemma mem_withCompanions {x : α} :
    x ∈ withCompanions next l ↔ ∃ a ∈ l, x = a ∨ next a = some x := by
  simp [withCompanions, List.mem_flatMap]

lemma nodup_withCompanions (next : α → Option α) (l : List α) : (withCompanions next l).Nodup :=
  nodup_eraseDups _

lemma withCompanions_prefix_concat (next : α → Option α) (l : List α) (a : α) :
    withCompanions next l <+: withCompanions next (l ++ [a]) := by
  cases h : next a with
  | none =>
      rw [withCompanions_concat_none h]
      exact prefix_addLast _ a
  | some b =>
      rw [withCompanions_concat_some h]
      exact (prefix_addLast _ a).trans (prefix_addLast _ b)

lemma withCompanions_prefix_append (next : α → Option α) (l m : List α) :
    withCompanions next l <+: withCompanions next (l ++ m) := by
  induction m using List.reverseRecOn with
  | nil => simp
  | append_singleton m a ih =>
      rw [← List.append_assoc]
      exact ih.trans (withCompanions_prefix_concat next _ a)

lemma length_withCompanions_concat_le (next : α → Option α) (l : List α) (a : α) :
    (withCompanions next (l ++ [a])).length ≤ (withCompanions next l).length + 2 := by
  have ha := length_addLast_le (withCompanions next l) a
  cases h : next a with
  | none =>
      rw [withCompanions_concat_none h]
      omega
  | some b =>
      rw [withCompanions_concat_some h]
      have hb := length_addLast_le (addLast (withCompanions next l) a) b
      omega

/-- The companion of a listed element stands by it, unless the element was itself listed as the
companion of another one than that. -/
lemma standsBy_withCompanions {x : α} (hx : x ∈ withCompanions next l) (hb : next x = some b) :
    StandsBy (withCompanions next l) x b
      ∨ ∃ y ∈ withCompanions next l, next y = some x ∧ b ≠ y := by
  induction l using List.reverseRecOn with
  | nil => simp [mem_withCompanions] at hx
  | append_singleton l a ih =>
      have hgrow := withCompanions_prefix_concat next l a
      by_cases hold : x ∈ withCompanions next l
      · -- what was listed before stands as it stood
        rcases ih hold with h | ⟨y, hy, hyx⟩
        · exact Or.inl (h.of_prefix hgrow hold)
        · exact Or.inr ⟨y, hgrow.mem hy, hyx⟩
      · -- a new element has the whole list in reach, as at most two are new
        have hreach : (withCompanions next (l ++ [a])).take
            ((withCompanions next (l ++ [a])).idxOf x + 2) = withCompanions next (l ++ [a]) := by
          refine List.take_of_length_le ?_
          have hlen := length_withCompanions_concat_le next l a
          obtain ⟨t, ht⟩ := hgrow
          have hidx : (withCompanions next (l ++ [a])).idxOf x
              = (withCompanions next l).length + t.idxOf x := by
            rw [← ht, List.idxOf_append_of_notMem hold]
          omega
        rw [StandsBy, hreach]
        have hmem : ∀ z, z = a ∨ next a = some z → z ∈ withCompanions next (l ++ [a]) :=
          fun z hz => mem_withCompanions.mpr ⟨a, by simp, hz⟩
        have hnew : x = a ∨ next a = some x := by
          obtain ⟨c, hc, hxc⟩ := mem_withCompanions.mp hx
          rcases List.mem_append.mp hc with hc | hc
          · exact absurd (mem_withCompanions.mpr ⟨c, hc, hxc⟩) hold
          · rwa [List.mem_singleton.mp hc] at hxc
        rcases hnew with rfl | hax
        · exact Or.inl (hmem b (Or.inr hb))
        · by_cases hba : b = a
          · exact Or.inl (hmem b (Or.inl hba))
          · exact Or.inr ⟨a, hmem a (Or.inl rfl), hax, hba⟩

/-- Where nothing repeats, `b` stands by `a` if it comes before `a` or is the next. -/
lemma standsBy_append_cons {pre post : List α} (hn : (pre ++ a :: post).Nodup) :
    StandsBy (pre ++ a :: post) a b ↔ b ∈ pre ++ a :: post.take 1 := by
  have ha : a ∉ pre := fun ha => (List.nodup_append.mp hn).2.2 a ha a (by simp) rfl
  rw [StandsBy, List.idxOf_append_of_notMem ha, List.idxOf_cons_self, List.take_append,
    List.take_of_length_le (by omega), show pre.length + 0 + 2 - pre.length = 2 by omega]
  rfl

/-- Every companion comes before its element or right after it, as far as the front of the list
with its companions is no more than that front. -/
def CompanionsFollow (next : α → Option α) (es : List α) : Prop :=
  ∀ pre x post b, es = pre ++ x :: post → addLast (withCompanions next pre) x = pre ++ [x] →
    next x = some b → b ∈ pre ++ x :: post.take 1

/-- What is ahead of a front by no more than the next element is the longer front with that. -/
lemma addLast_of_front {front pre post : List α} {x : α} (hn : (pre ++ x :: post).Nodup)
    (h : front = pre ∨ front = pre ++ (x :: post).take 1) : addLast front x = pre ++ [x] := by
  have hx : x ∉ pre := fun hx => (List.nodup_append.mp hn).2.2 x hx x (by simp) rfl
  rcases h with rfl | rfl
  · exact addLast_of_notMem hx
  · exact addLast_of_mem (by simp)

/-- If companions follow, then going through the list never gets further ahead than one element. -/
lemma withCompanions_front {es : List α} (hn : es.Nodup) (h : CompanionsFollow next es) :
    ∀ pre post, es = pre ++ post →
      withCompanions next pre = pre ∨ withCompanions next pre = pre ++ post.take 1 := by
  intro pre
  induction pre using List.reverseRecOn with
  | nil => exact fun _ _ => Or.inl rfl
  | append_singleton pre x ih =>
      intro post hes
      rw [List.append_assoc, List.singleton_append] at hes
      -- the element is the next of the list
      have hadd : addLast (withCompanions next pre) x = pre ++ [x] :=
        addLast_of_front (hes ▸ hn) (ih (x :: post) hes)
      cases hb : next x with
      | none =>
          rw [withCompanions_concat_none hb, hadd]
          exact Or.inl rfl
      | some b =>
          rw [withCompanions_concat_some hb, hadd]
          by_cases hold : b ∈ pre ++ [x]
          · exact Or.inl (addLast_of_mem hold)
          · -- its companion is new, and so the next after it
            have hreach : b ∈ (pre ++ [x]) ++ post.take 1 := by
              rw [List.append_assoc, List.singleton_append]
              exact h pre x post b hes hadd hb
            have hpost := (List.mem_append.mp hreach).resolve_left hold
            refine Or.inr ?_
            rw [addLast_of_notMem hold]
            cases post with
            | nil => simp at hpost
            | cons c post =>
                rw [show b = c by simpa using hpost]
                rfl

/-- Where nothing is new, companions follow. -/
lemma companionsFollow_of_eq {es : List α} (heq : withCompanions next es = es) :
    CompanionsFollow next es := by
  intro pre x post b hes hadd hb
  -- what has been listed so far is the front of the whole
  have hfront : addLast (pre ++ [x]) b <+: (pre ++ [x]) ++ post := by
    have h := withCompanions_prefix_append next (pre ++ [x]) post
    rw [withCompanions_concat_some hb, hadd, List.append_assoc, List.singleton_append, ← hes,
      heq, hes] at h
    rwa [List.append_assoc]
  rw [List.append_cons]
  by_cases hold : b ∈ pre ++ [x]
  · exact List.mem_append_left _ hold
  · rw [addLast_of_notMem hold, List.prefix_append_right_inj] at hfront
    obtain ⟨t, rfl⟩ := hfront
    simp

/-- Nothing is new exactly where every companion stands by its element. -/
theorem withCompanions_eq_self_iff {es : List α} (hn : es.Nodup) :
    withCompanions next es = es ↔ ∀ x ∈ es, ∀ b, next x = some b → StandsBy es x b := by
  constructor
  · intro heq x hx b hb
    have hfollow := companionsFollow_of_eq heq
    obtain ⟨pre, post, rfl⟩ := List.append_of_mem hx
    rw [standsBy_append_cons hn]
    refine hfollow pre x post b rfl ?_ hb
    exact addLast_of_front hn (withCompanions_front hn hfollow pre (x :: post) rfl)
  · intro h
    have hfollow : CompanionsFollow next es := by
      rintro pre x post b rfl - hb
      exact (standsBy_append_cons hn).mp (h x (by simp) b hb)
    rcases withCompanions_front hn hfollow es [] (by simp) with hes | hes
    · exact hes
    · simpa using hes

/-- **Adding companions again** adds nothing exactly if the companions of companions stand by
them, other than the elements that they are companions of. -/
theorem withCompanions_idempotent_iff (next : α → Option α) (l : List α) :
    withCompanions next (withCompanions next l) = withCompanions next l ↔
      ∀ y ∈ withCompanions next l, ∀ x, next y = some x → ∀ b, next x = some b → b ≠ y →
        StandsBy (withCompanions next l) x b := by
  rw [withCompanions_eq_self_iff (nodup_withCompanions next l)]
  constructor
  · exact fun h y hy x hx b hb _ => h x (h y hy x hx).mem b hb
  · intro h x hx b hb
    rcases standsBy_withCompanions hx hb with hstands | ⟨y, hy, hyx, hne⟩
    · exact hstands
    · exact h y hy x hyx b hb hne

end Occurrences

end Grading
