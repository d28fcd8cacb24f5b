/-
Records are read back field by field.

* `list?_array`: a list is read item by item;
* `RecordNames.written_ofFields`, `RecordNames.bind_fields?`: named values with plain names are
  written, and found under their names again;
* `optional_ofOption`: so are values that may be missing;
* `isSome_mapM_iff`, `mapM_eq_self`: lists are read if their items are, and as they were if their
  items are.
-/
import Grading.Proofs.Json.Numbers

namespace Grading

namespace Json

variable {α β γ : Type} {s : Text}

/-! ### Texts, lists and values that may be missing -/

lemma text?_ofText (s : Text) : text? (ofText s) = some s := unescape?_escape s

lemma mapM_congr {f g : α → Option β} {xs : List α} (h : ∀ x ∈ xs, f x = g x) :
    xs.mapM f = xs.mapM g := by
  induction xs with
  | nil => rfl
  | cons x xs ih =>
      rw [List.forall_mem_cons] at h
      rw [List.mapM_cons, List.mapM_cons, h.1, ih h.2]

/-- What is read from each item is read from the list. -/
lemma mapM_map_eq_some {f : α → β} {g : β → Option γ} {k : α → γ} {xs : List α}
    (h : ∀ x ∈ xs, g (f x) = some (k x)) : (xs.map f).mapM g = some (xs.map k) := by
  rw [List.mapM_map, mapM_congr (f := g ∘ f) h]
  exact List.mapM_pure

/-- A list is as it was if its items are. -/
lemma mapM_eq_self {f : α → Option α} {xs : List α} (h : ∀ x ∈ xs, f x = some x) :
    xs.mapM f = some xs := by
  rw [mapM_congr h]
  exact List.mapM_pure.trans (congrArg some (List.map_id xs))

/-- A list is made of all items or of none. -/
lemma isSome_mapM_iff {f : α → Option β} {xs : List α} :
    (xs.mapM f).isSome = true ↔ ∀ x ∈ xs, (f x).isSome = true := by
  induction xs with
  | nil => simp
  | cons x xs ih =>
      rw [List.forall_mem_cons, ← ih, List.mapM_cons]
      cases f x <;> cases xs.mapM f <;> simp

lemma list?_array {f : α → Json} {read : Json → Option β} {xs : List α} :
    list? read (array (xs.map f)) = xs.mapM fun x => read (f x) := by
  rw [list?, List.mapM_map]
  rfl

lemma written_array {f : α → Json} {xs : List α} (h : ∀ x ∈ xs, Written (f x)) :
    Written (array (xs.map f)) :=
  .array (List.forall_mem_map.mpr h)

lemma written_ofOption {f : α → Json} {x : Option α} (h : ∀ a, x = some a → Written (f a)) :
    Written (ofOption f x) := by
  cases x with
  | none => exact .null
  | some a => exact h a rfl

/-! ### Named values -/

/-- Whether a name stands between quotes as it is. -/
def IsPlain (name : String) : Prop := escape name.toList = name.toList

instance : DecidablePred IsPlain := fun name =>
  inferInstanceAs (Decidable (escape name.toList = name.toList))

/-- The names of a record: they are plain, and none comes twice. -/
structure RecordNames (names : List String) : Prop where
  plain : ∀ name ∈ names, IsPlain name
  nodup : names.Nodup

lemma named?_eq {fields : List (String × Json)} (hplain : ∀ f ∈ fields, IsPlain f.1) :
    named? (fields.map fun f => (f.1.toList, f.2))
      = some (fields.map fun f => (f.1.toList, f.2)) := by
  refine mapM_map_eq_some fun f hf => ?_
  have hname : unescape? f.1.toList = some f.1.toList := by
    conv_lhs => rw [← hplain f hf]
    exact unescape?_escape f.1.toList
  rw [hname]
  rfl

/-- Where no name comes twice, a value is found under its name. -/
lemma lookup_of_mem {fields : List (String × Json)} (h : (fields.map Prod.fst).Nodup)
    {f : String × Json} (hf : f ∈ fields) :
    (fields.map fun f => (f.1.toList, f.2)).lookup f.1.toList = some f.2 := by
  induction fields with
  | nil => cases hf
  | cons field fields ih =>
      rw [List.map_cons, List.nodup_cons] at h
      rw [List.map_cons]
      rcases List.mem_cons.mp hf with rfl | hf
      · exact List.lookup_cons_self
      · have hne : ¬ f.1.toList = field.1.toList := fun heq =>
          h.1 (String.toList_injective heq ▸ List.mem_map_of_mem hf)
        rw [List.lookup_cons, beq_eq_false_iff_ne.mpr hne]
        exact ih h.2 hf

namespace RecordNames

variable {fields : List (String × Json)} {names : List String}

lemma isPlain (h : RecordNames names) (hnames : fields.map Prod.fst = names) :
    ∀ f ∈ fields, IsPlain f.1 := fun f hf =>
  h.plain f.1 (hnames ▸ List.mem_map_of_mem hf)

/-- Records of values that are written are written. -/
lemma written_ofFields (h : RecordNames names) (hnames : fields.map Prod.fst = names)
    (hvalues : ∀ f ∈ fields, Written f.2) : Written (ofFields fields) := by
  refine .object ?_ ?_
  · exact List.forall_mem_map.mpr fun f hf => ⟨f.1.toList, (h.isPlain hnames f hf).symm⟩
  · exact List.forall_mem_map.mpr hvalues

/-- All values of a record are found. -/
lemma fields?_ofFields (h : RecordNames names) (hnames : fields.map Prod.fst = names) :
    fields? names (ofFields fields) = some (fields.map fun f => (f.1.toList, f.2)) := by
  have hmap : (fields.map fun f => (f.1.toList, f.2)).map Prod.fst = names.map String.toList := by
    rw [← hnames, List.map_map, List.map_map]
    rfl
  have hknown : (fields.map fun f => (f.1.toList, f.2)).filter
      (fun f => (names.map String.toList).contains f.1)
        = fields.map fun f => (f.1.toList, f.2) := by
    refine List.filter_eq_self.mpr fun f hf => ?_
    rw [List.contains_iff_mem, ← hmap]
    exact List.mem_map_of_mem hf
  have hnodup : ((fields.map fun f => (f.1.toList, f.2)).map Prod.fst).Nodup := by
    rw [hmap]
    exact h.nodup.map fun _ _ => String.toList_injective
  rw [ofFields, fields?, named?_eq (h.isPlain hnames), Option.bind_some]
  simp only [hknown, hnodup, if_pos]

/-- Reading a record goes on with its values, found under their names. -/
lemma bind_fields? (h : RecordNames names) (hnames : fields.map Prod.fst = names)
    {k : Fields → Option α} {x : Option α}
    (hk : ∀ found : Fields, (∀ f ∈ fields, found.lookup f.1.toList = some f.2) → k found = x) :
    (fields? names (ofFields fields) >>= k) = x := by
  rw [h.fields?_ofFields hnames]
  exact hk _ fun f hf => lookup_of_mem (hnames ▸ h.nodup) hf

end RecordNames

/-- A value that may be missing is read if it is there, and if it is never written as nothing. -/
lemma optional_ofOption {found : Fields} {name : String} {f : α → Json} {read : Json → Option β}
    {x : Option α} (hfound : found.lookup name.toList = some (ofOption f x))
    (hnull : ∀ a, f a ≠ null) :
    found.optional name read = x.mapM fun a => read (f a) := by
  rw [Fields.optional, hfound]
  cases x with
  | none => rfl
  | some a =>
      rw [ofOption]
      split
      case h_1 hnone => cases hnone
      case h_2 hsome => exact absurd (Option.some.inj hsome) (hnull a)
      case h_3 j _ hsome =>
        rw [← Option.some.inj hsome]
        rfl

end Json

end Grading
