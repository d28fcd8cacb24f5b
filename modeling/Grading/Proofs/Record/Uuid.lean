/-
Identifiers are read back from their text.

* `hexNumber?_hexDigits`: hexadecimal digits stand for the number that they are written for;
* `map_length_cutGroups`, `flatten_cutGroups`: groups of digits have their lengths, and make up the
  digits again;
* `Uuid.ofText?_render`: the text of an identifier gives it back.
-/
import Grading.Proofs.Text.Pieces
import Grading.Record.Uuid

namespace Grading

namespace Uuid

open Json (hexDigit hexValue?)

variable {s : Text} {c : Char} {n value : Nat}

/-! ### Hexadecimal digits -/

lemma hexValue?_hexDigit {d : Nat} (h : d < 16) : hexValue? (hexDigit d) = some d := by
  revert d
  decide

/-- The last digit stands for the remainder, the others for the rest. -/
lemma hexDigits_succ (n value : Nat) :
    hexDigits (n + 1) value = hexDigits n (value >>> 4) ++ [hexDigit (value % 16)] := by
  have hfront : (List.range n).map (fun i => hexDigit (value >>> (4 * (n + 1 - 1 - i)) % 16))
      = (List.range n).map fun i => hexDigit (value >>> 4 >>> (4 * (n - 1 - i)) % 16) := by
    refine List.map_congr_left fun i hi => ?_
    have hi' := List.mem_range.mp hi
    have hshift : 4 * (n + 1 - 1 - i) = 4 + 4 * (n - 1 - i) := by omega
    rw [hshift, Nat.shiftRight_add]
  rw [hexDigits, List.range_succ, List.map_append, hfront, ← hexDigits]
  simp

lemma length_hexDigits (n value : Nat) : (hexDigits n value).length = n := by
  simp [hexDigits]

lemma exists_of_mem_hexDigits (h : c ∈ hexDigits n value) : ∃ d < 16, c = hexDigit d := by
  obtain ⟨i, -, rfl⟩ := List.mem_map.mp h
  exact ⟨_, Nat.mod_lt _ (by decide), rfl⟩

lemma hexNumber?_concat {m d : Nat} (hs : hexNumber? s = some m) (hc : hexValue? c = some d) :
    hexNumber? (s ++ [c]) = some (16 * m + d) := by
  obtain ⟨ds, hds, rfl⟩ := Option.map_eq_some_iff.mp hs
  rw [hexNumber?, List.mapM_append]
  simp [hds, hc]

/-- Digits stand for the number that they are written for. -/
lemma hexNumber?_hexDigits (h : value < 16 ^ n) : hexNumber? (hexDigits n value) = some value := by
  induction n generalizing value with
  | zero =>
      obtain rfl : value = 0 := by simpa using h
      rfl
  | succ n ih =>
      have hrest : value >>> 4 = value / 16 := Nat.shiftRight_eq_div_pow value 4
      have hlt : value / 16 < 16 ^ n := by
        rw [Nat.pow_succ] at h
        exact Nat.div_lt_of_lt_mul (by omega)
      have hdigit := hexValue?_hexDigit (Nat.mod_lt value (show 0 < 16 by decide))
      rw [hexDigits_succ, hrest, hexNumber?_concat (ih hlt) hdigit, Nat.div_add_mod]

/-! ### Groups of digits -/

/-- Groups have the lengths that are asked for. -/
lemma map_length_cutGroups {ns : List Nat} (h : s.length = ns.sum) :
    (cutGroups s ns).map List.length = ns := by
  induction ns generalizing s with
  | nil => rfl
  | cons n ns ih =>
      rw [List.sum_cons] at h
      have hrest : (s.drop n).length = ns.sum := by
        rw [List.length_drop]
        omega
      rw [cutGroups, List.map_cons, ih hrest, List.length_take]
      congr 1
      omega

/-- Groups make up the text that was cut. -/
lemma flatten_cutGroups {ns : List Nat} (h : s.length = ns.sum) : (cutGroups s ns).flatten = s := by
  induction ns generalizing s with
  | nil => exact (List.eq_nil_of_length_eq_zero h).symm
  | cons n ns ih =>
      rw [List.sum_cons] at h
      have hrest : (s.drop n).length = ns.sum := by
        rw [List.length_drop]
        omega
      rw [cutGroups, List.flatten_cons, ih hrest, List.take_append_drop]

lemma mem_of_mem_cutGroups {ns : List Nat} {group : Text} (h : group ∈ cutGroups s ns)
    (hc : c ∈ group) : c ∈ s := by
  induction ns generalizing s with
  | nil => cases h
  | cons n ns ih =>
      rcases List.mem_cons.mp h with rfl | h
      · exact List.mem_of_mem_take hc
      · exact List.mem_of_mem_drop (ih h)

/-! ### The text of an identifier -/

section Render

variable (u : Uuid)

lemma length_digits : (hexDigits 32 u.bits.toNat).length = groups.sum := length_hexDigits _ _

/-- Nothing stands in an identifier but digits and hyphens, and a digit in front. -/
lemma exists_render_eq : ∃ d < 16, ∃ rest, u.render = hexDigit d :: rest := by
  have hne : hexDigits 32 u.bits.toNat ≠ [] :=
    List.ne_nil_of_length_eq_add_one (length_hexDigits 32 u.bits.toNat)
  obtain ⟨c, s, hs⟩ := List.exists_cons_of_ne_nil hne
  obtain ⟨d, hd, rfl⟩ := exists_of_mem_hexDigits (c := c) (by rw [hs]; exact List.mem_cons_self)
  have hstart : ∃ rest, u.render = hexDigit d :: rest := by
    rw [render, hs]
    exact ⟨_, rfl⟩
  obtain ⟨rest, hstart⟩ := hstart
  exact ⟨d, hd, rest, hstart⟩

lemma ofDigits?_hexDigits : ofDigits? (hexDigits 32 u.bits.toNat) = some u := by
  have hlt : u.bits.toNat < 16 ^ 32 := u.bits.isLt
  rw [ofDigits?, if_pos (length_hexDigits _ _), hexNumber?_hexDigits hlt]
  simp

/-- The groups are read back. -/
lemma ofGroups?_render : ofGroups? u.render = some u := by
  have hhyphen : ∀ group ∈ cutGroups (hexDigits 32 u.bits.toNat) groups, '-' ∉ group := by
    intro group hgroup hmem
    obtain ⟨d, hd, heq⟩ := exists_of_mem_hexDigits (mem_of_mem_cutGroups hgroup hmem)
    have hdigits : ∀ d < 16, '-' ≠ hexDigit d := by decide
    exact hdigits d hd heq
  have hpieces : u.render.pieces '-' = cutGroups (hexDigits 32 u.bits.toNat) groups :=
    List.splitOn_intercalate '-' hhyphen (List.cons_ne_nil _ _)
  simp only [ofGroups?, hpieces, map_length_cutGroups (length_digits u),
    flatten_cutGroups (length_digits u), ofDigits?_hexDigits, if_pos]

/-- Hyphens make the text longer than its digits. -/
lemma length_render : u.render.length = 36 := by
  simp [render, groups, cutGroups, Text.join, List.intercalate_cons_cons, length_hexDigits]

/-- **Identifiers are read back**: the text of an identifier gives it back. -/
lemma ofText?_render : ofText? u.render = some u := by
  have hdigits : ofDigits? u.render = none := by
    rw [ofDigits?, if_neg (by rw [length_render]; decide)]
  obtain ⟨d, hd, rest, hrender⟩ := exists_render_eq u
  have hscheme : afterScheme? u.render = none := by
    have hletters : ∀ d < 16, (hexDigit d).toLower ≠ 'u' := by decide
    rw [afterScheme?, if_neg]
    rw [hrender]
    intro heq
    exact hletters d hd (List.cons.inj heq).1
  have hbrace : braced? u.render = none := by
    have hdigit : ∀ d < 16, hexDigit d ≠ '\x7b' := by decide
    rw [hrender, braced?.eq_2]
    exact fun _ heq => hdigit d hd (List.cons.inj heq).1
  rw [ofText?, hdigits, hscheme, hbrace]
  exact ofGroups?_render u

end Render

end Uuid

end Grading
