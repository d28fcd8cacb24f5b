/-
A value is read back from its text.

* `Written`: values whose strings are escaped texts, and whose numbers are words that stand for
  them;
* `tokensOf`: the tokens of a value;
* `givesAtEnd_renderAt`: the text of a value gives its tokens, at every level;
* `readsBack_of_written`: the tokens of a value give the value back;
* `read?_render`: so reading the text of a value gives the value back.
-/
import Grading.Proofs.Json.Tokens

namespace Grading

namespace Json

variable {j : Json} {items : List Json} {fields : List (Text × Json)} {rest : List Token}

/-! ### Written values -/

/-- Values as they are written: every string is an escaped text, and every number is a word that is
read as the number. -/
inductive Written : Json → Prop
  | null : Written null
  | bool (b : Bool) : Written (bool b)
  | number {w : Text} (chars : ∀ c ∈ w, isWordChar c = true) (read : ofWord? w = some (number w)) :
      Written (number w)
  | string (s : Text) : Written (string (escape s))
  | array {items : List Json} (h : ∀ j ∈ items, Written j) : Written (array items)
  | object {fields : List (Text × Json)} (names : ∀ f ∈ fields, ∃ s, f.1 = escape s)
      (h : ∀ f ∈ fields, Written f.2) : Written (object fields)

/-! ### The tokens of a value -/

mutual

/-- The tokens of a value. -/
def tokensOf : Json → List Token
  | null => [.word "null".toList]
  | bool b => [.word (if b then "true".toList else "false".toList)]
  | number w => [.word w]
  | string s => [.quoted s]
  | array items => .mark '[' :: separated (tokensOfItems items) ++ [.mark ']']
  | object fields => .mark '\x7b' :: separated (tokensOfFields fields) ++ [.mark '\x7d']

/-- The tokens of the items of a list. -/
def tokensOfItems : List Json → List (List Token)
  | [] => []
  | item :: items => tokensOf item :: tokensOfItems items

/-- The tokens of named values. -/
def tokensOfFields : List (Text × Json) → List (List Token)
  | [] => []
  | (name, value) :: fields =>
    (.quoted name :: .mark ':' :: tokensOf value) :: tokensOfFields fields

end

/-! ### The text of a value -/

/-- Items whose texts give their tokens are lines that do. -/
lemma forall₂_renderItems {depth : Nat}
    (h : ∀ j ∈ items, ∀ depth, GivesAtEnd (renderAt depth j) (tokensOf j)) :
    List.Forall₂ GivesAtEnd (renderItems depth items) (tokensOfItems items) := by
  induction items with
  | nil => exact List.Forall₂.nil
  | cons item items ih =>
      rw [List.forall_mem_cons] at h
      rw [renderItems, tokensOfItems]
      exact List.Forall₂.cons (h.1 depth) (ih h.2)

/-- A name and its value on a line. -/
lemma givesAtEnd_field {s value : Text} {ts : List Token} (h : GivesAtEnd value ts) :
    GivesAtEnd ('"' :: escape s ++ '"' :: ':' :: ' ' :: value)
      (.quoted (escape s) :: .mark ':' :: ts) := by
  have hname : Gives ('"' :: escape s ++ ['"']) [.quoted (escape s)] :=
    gives_quoted (scanQuoted_escape s)
  have hcolon : Gives [':', ' '] [.mark ':'] :=
    (gives_mark (c := ':') (by decide)).append (gives_gap (s := [' ']) (by decide))
  have hall := (hname.append hcolon).append_atEnd h
  simpa using hall

lemma forall₂_renderFields {depth : Nat} (names : ∀ f ∈ fields, ∃ s, f.1 = escape s)
    (h : ∀ f ∈ fields, ∀ depth, GivesAtEnd (renderAt depth f.2) (tokensOf f.2)) :
    List.Forall₂ GivesAtEnd (renderFields depth fields) (tokensOfFields fields) := by
  induction fields with
  | nil => exact List.Forall₂.nil
  | cons field fields ih =>
      obtain ⟨name, value⟩ := field
      rw [List.forall_mem_cons] at names h
      obtain ⟨s, rfl⟩ : ∃ s, name = escape s := names.1
      rw [renderFields, tokensOfFields]
      exact List.Forall₂.cons (givesAtEnd_field (h.1 depth)) (ih names.2 h.2)

/-- The text of a value gives its tokens, at every level. -/
lemma givesAtEnd_renderAt (h : Written j) (depth : Nat) :
    GivesAtEnd (renderAt depth j) (tokensOf j) := by
  induction h generalizing depth with
  | null =>
      rw [renderAt, tokensOf]
      exact givesAtEnd_word (by decide) (by decide)
  | bool b =>
      rw [renderAt, tokensOf]
      cases b with
      | true => exact givesAtEnd_word (s := "true".toList) (by decide) (by decide)
      | false => exact givesAtEnd_word (s := "false".toList) (by decide) (by decide)
  | @number w chars read =>
      rw [renderAt, tokensOf]
      refine givesAtEnd_word ?_ (List.all_eq_true.mpr chars)
      rintro rfl
      have hnone : ofWord? [] = none := by decide
      rw [hnone] at read
      cases read
  | string s =>
      rw [renderAt, tokensOf]
      exact (gives_quoted (scanQuoted_escape s)).atEnd
  | array _ ih =>
      rw [renderAt, tokensOf]
      exact (gives_bracketed (by decide) (by decide) depth (forall₂_renderItems ih)).atEnd
  | object names _ ih =>
      rw [renderAt, tokensOf]
      exact (gives_bracketed (by decide) (by decide) depth (forall₂_renderFields names ih)).atEnd

/-- The tokens of the text of a value are those of the value. -/
lemma tokens?_render (h : Written j) : tokens? j.render = some (tokensOf j) := by
  have hall := givesAtEnd_renderAt h 0 [] (fun c hc => by cases hc)
  simpa [render] using hall

/-! ### Reading tokens -/

/-- Whether a value is read back from its tokens, given two steps for each token. -/
def ReadsBack (j : Json) : Prop :=
  ∀ fuel rest, 2 * (tokensOf j).length ≤ fuel →
    readValue fuel (tokensOf j ++ rest) = some (j, rest)

/-- A value does not start with the closing bracket of a list. -/
lemma exists_tokensOf_eq (j : Json) : ∃ token ts, tokensOf j = token :: ts ∧ token ≠ .mark ']' := by
  cases j with
  | null => exact ⟨.word "null".toList, [], by rw [tokensOf], by simp⟩
  | bool b => exact ⟨.word _, [], by rw [tokensOf], by simp⟩
  | number w => exact ⟨.word w, [], by rw [tokensOf], by simp⟩
  | string s => exact ⟨.quoted s, [], by rw [tokensOf], by simp⟩
  | array items => exact ⟨.mark '[', _, by rw [tokensOf]; rfl, by decide⟩
  | object fields => exact ⟨.mark '\x7b', _, by rw [tokensOf]; rfl, by decide⟩

lemma separated_cons_cons (ts us : List Token) (parts : List (List Token)) :
    separated (ts :: us :: parts) = ts ++ .mark ',' :: separated (us :: parts) := by
  simp [separated, List.intercalate_cons_cons]

@[simp] lemma separated_singleton (ts : List Token) : separated [ts] = ts := by
  simp [separated]

/-- The items of a list are read up to its closing bracket. -/
lemma readItems_tokensOf (hne : items ≠ []) (h : ∀ j ∈ items, ReadsBack j) {fuel : Nat}
    (hfuel : 2 * (separated (tokensOfItems items)).length + 2 ≤ fuel) :
    readItems fuel (separated (tokensOfItems items) ++ .mark ']' :: rest)
      = some (items, rest) := by
  induction items generalizing fuel with
  | nil => exact absurd rfl hne
  | cons item items ih =>
      rw [List.forall_mem_cons] at h
      obtain ⟨fuel, rfl⟩ : ∃ n, fuel = n + 1 := ⟨fuel - 1, by omega⟩
      cases items with
      | nil =>
          simp only [tokensOfItems, separated_singleton] at hfuel ⊢
          rw [readItems, h.1 fuel _ (by omega)]
          rfl
      | cons item' items =>
          have hrest := @ih (List.cons_ne_nil _ _) h.2 fuel
          simp only [tokensOfItems, separated_cons_cons, List.length_append,
            List.length_cons] at hfuel hrest ⊢
          rw [List.append_assoc, List.cons_append, readItems, h.1 fuel _ (by omega)]
          simp only [hrest (by omega)]
          rfl

/-- Named values are read up to the closing bracket. -/
lemma readFields_tokensOf (hne : fields ≠ []) (h : ∀ f ∈ fields, ReadsBack f.2) {fuel : Nat}
    (hfuel : 2 * (separated (tokensOfFields fields)).length + 2 ≤ fuel) :
    readFields fuel (separated (tokensOfFields fields) ++ .mark '\x7d' :: rest)
      = some (fields, rest) := by
  induction fields generalizing fuel with
  | nil => exact absurd rfl hne
  | cons field fields ih =>
      obtain ⟨name, value⟩ := field
      rw [List.forall_mem_cons] at h
      have hvalue : ReadsBack value := h.1
      obtain ⟨fuel, rfl⟩ : ∃ n, fuel = n + 1 := ⟨fuel - 1, by omega⟩
      cases fields with
      | nil =>
          simp only [tokensOfFields, separated_singleton, List.length_cons] at hfuel ⊢
          rw [List.cons_append, List.cons_append, readFields, hvalue fuel _ (by omega)]
          rfl
      | cons field' fields =>
          obtain ⟨name', value'⟩ := field'
          have hrest := @ih (List.cons_ne_nil _ _) h.2 fuel
          simp only [tokensOfFields, separated_cons_cons, List.length_append,
            List.length_cons] at hfuel hrest ⊢
          rw [List.append_assoc, List.cons_append, List.cons_append, List.cons_append, readFields,
            hvalue fuel _ (by omega)]
          simp only [hrest (by omega)]
          rfl

/-- A list that has items is read item by item. -/
lemma readValue_array {ts : List Token} (h : ts.head? ≠ some (.mark ']')) (fuel : Nat) :
    readValue (fuel + 1) (.mark '[' :: ts)
      = (readItems fuel ts).map fun p => (array p.1, p.2) := by
  rw [readValue]
  rintro rest rfl
  exact h rfl

/-- Named values are read one by one. -/
lemma readValue_object {ts : List Token} (h : ts.head? ≠ some (.mark '\x7d')) (fuel : Nat) :
    readValue (fuel + 1) (.mark '\x7b' :: ts)
      = (readFields fuel ts).map fun p => (object p.1, p.2) := by
  rw [readValue]
  rintro rest rfl
  exact h rfl

/-- What is separated by commas starts with its first part. -/
lemma head?_separated_append {ts : List Token} (hts : ts ≠ []) (parts : List (List Token))
    (rest : List Token) : (separated (ts :: parts) ++ rest).head? = ts.head? := by
  obtain ⟨token, ts, rfl⟩ := List.exists_cons_of_ne_nil hts
  cases parts with
  | nil => simp
  | cons us parts => simp [separated_cons_cons]

/-- A word is read as the value it stands for. -/
lemma readsBack_of_word {w : Text} (htokens : tokensOf j = [.word w]) (h : ofWord? w = some j) :
    ReadsBack j := by
  intro fuel rest hfuel
  rw [htokens, List.length_singleton] at hfuel
  obtain ⟨fuel, rfl⟩ : ∃ n, fuel = n + 1 := ⟨fuel - 1, by omega⟩
  rw [htokens, List.singleton_append, readValue, h]
  rfl

lemma readsBack_string (s : Text) : ReadsBack (string s) := by
  intro fuel rest hfuel
  rw [tokensOf, List.length_singleton] at hfuel
  obtain ⟨fuel, rfl⟩ : ∃ n, fuel = n + 1 := ⟨fuel - 1, by omega⟩
  rw [tokensOf, List.singleton_append, readValue]

/-- A list is read back if its items are. -/
lemma readsBack_array (h : ∀ j ∈ items, ReadsBack j) : ReadsBack (array items) := by
  intro fuel rest hfuel
  rw [tokensOf] at hfuel ⊢
  simp only [List.length_append, List.length_cons, List.length_nil] at hfuel
  obtain ⟨fuel, rfl⟩ : ∃ n, fuel = n + 1 := ⟨fuel - 1, by omega⟩
  rw [List.append_assoc, List.cons_append, List.singleton_append]
  cases items with
  | nil => rfl
  | cons item items =>
      have hitems : readItems fuel (separated (tokensOfItems (item :: items))
          ++ .mark ']' :: rest) = some (item :: items, rest) :=
        readItems_tokensOf (List.cons_ne_nil item items) h (by omega)
      have hstart : (separated (tokensOfItems (item :: items)) ++ .mark ']' :: rest).head?
          ≠ some (.mark ']') := by
        obtain ⟨token, ts, htokens, hne⟩ := exists_tokensOf_eq item
        rw [tokensOfItems, head?_separated_append (by simp [htokens]), htokens]
        exact fun heq => hne (Option.some.inj heq)
      rw [readValue_array hstart, hitems]
      rfl

/-- Named values are read back if each value is. -/
lemma readsBack_object (h : ∀ f ∈ fields, ReadsBack f.2) : ReadsBack (object fields) := by
  intro fuel rest hfuel
  rw [tokensOf] at hfuel ⊢
  simp only [List.length_append, List.length_cons, List.length_nil] at hfuel
  obtain ⟨fuel, rfl⟩ : ∃ n, fuel = n + 1 := ⟨fuel - 1, by omega⟩
  rw [List.append_assoc, List.cons_append, List.singleton_append]
  cases fields with
  | nil => rfl
  | cons field fields =>
      have hfields : readFields fuel (separated (tokensOfFields (field :: fields))
          ++ .mark '\x7d' :: rest) = some (field :: fields, rest) :=
        readFields_tokensOf (List.cons_ne_nil field fields) h (by omega)
      have hstart : (separated (tokensOfFields (field :: fields)) ++ .mark '\x7d' :: rest).head?
          ≠ some (.mark '\x7d') := by
        obtain ⟨name, value⟩ := field
        rw [tokensOfFields, head?_separated_append (List.cons_ne_nil _ _)]
        simp
      rw [readValue_object hstart, hfields]
      rfl

/-- The tokens of a value give the value back. -/
lemma readsBack_of_written (h : Written j) : ReadsBack j := by
  induction h with
  | null => exact readsBack_of_word tokensOf.eq_1 rfl
  | bool b => exact readsBack_of_word (tokensOf.eq_2 b) (by cases b <;> rfl)
  | number _ read => exact readsBack_of_word (tokensOf.eq_3 _) read
  | string s => exact readsBack_string (escape s)
  | array _ ih => exact readsBack_array ih
  | object _ _ ih => exact readsBack_object ih

/-- **Reading what is written**: the text of a value gives the value back. -/
lemma read?_render (h : Written j) : read? j.render = some j := by
  have hvalue := readsBack_of_written h (2 * (tokensOf j).length + 1) [] (Nat.le_succ _)
  rw [List.append_nil] at hvalue
  rw [read?, tokens?_render h]
  simp [hvalue]

end Json

end Grading
