/-
No data can alter the structure of a page, and the page holds the report file.

* `count_body`, `count_endBody`, `count_pre`: tags that a page has once;
* `between?_body`, `between?_code`: what stands in the body, and in the element for the report file;
* `page_structure`: the bodies of pages of the same shape have the same tags, only markup holds
  angle brackets, and the report file is read back from the page.
-/
import Grading.Proofs.Page.Fits

namespace Grading

namespace Page

variable {kept : List Text} {name : Text} {ps : List Piece}

/-! ### The tags of a page -/

lemma count_tagNames_render (h : ∀ p ∈ ps, p.Fits kept) (hname : name ∈ kept) :
    (tagNames (render ps)).count name = 0 :=
  List.count_eq_zero.mpr (notMem_tagNames_render h hname)

lemma count_tagNames_append {s : Text} (h : namesEnd s = true) (t name : Text) :
    (tagNames (s ++ t)).count name = (tagNames s).count name + (tagNames t).count name := by
  rw [tagNames_append h, List.count_append]

/-- The page around its body. -/
lemma exists_pageText_eq (b : BatchRecord) :
    ∃ front, (∀ p ∈ front, p.Fits onceNames)
      ∧ b.pageText = render front ++ ("</head>\n<body>\n".toList
          ++ (render (bodyPieces b) ++ "</body>\n</html>".toList)) := by
  obtain ⟨front, hhead, hfits⟩ := exists_head_eq b.assignment
  refine ⟨front, hfits, ?_⟩
  have hmarkup (s : String) : render [markup s] = s.toList := List.append_nil _
  rw [BatchRecord.pageText, page_eq, hhead]
  simp only [render_append, hmarkup, List.append_assoc]

/-- How often a name that the page has once stands in it. -/
lemma count_tagNames_pageText (b : BatchRecord) (hname : name ∈ onceNames) :
    (tagNames b.pageText).count name
      = ["/head".toList, "body".toList].count name
        + ((tagNames (render (bodyPieces b))).count name
          + ["/body".toList, "/html".toList].count name) := by
  obtain ⟨front, hfits, hpage⟩ := exists_pageText_eq b
  have hopen : tagNames "</head>\n<body>\n".toList = ["/head".toList, "body".toList] := rfl
  have hclose : tagNames "</body>\n</html>".toList = ["/body".toList, "/html".toList] := rfl
  rw [hpage, count_tagNames_append (namesEnd_render hfits), count_tagNames_render hfits hname,
    count_tagNames_append rfl, hopen,
    count_tagNames_append (namesEnd_render (fits_bodyPieces b)), hclose, Nat.zero_add]

lemma count_body (b : BatchRecord) : (tagNames b.pageText).count "body".toList = 1 := by
  rw [count_tagNames_pageText b (by decide), count_tagNames_render (fits_bodyPieces b) (by decide)]
  decide

lemma count_endBody (b : BatchRecord) : (tagNames b.pageText).count "/body".toList = 1 := by
  rw [count_tagNames_pageText b (by decide), count_tagNames_render (fits_bodyPieces b) (by decide)]
  decide

/-- The body before and after the report file. -/
lemma exists_bodyPieces_eq (b : BatchRecord) :
    ∃ front back, bodyPieces b = front ++ savedData b ++ back
      ∧ (∀ p ∈ front, p.Fits onceNames) ∧ ∀ p ∈ back, p.Fits onceNames := by
  refine ⟨_, _, rfl, ?_, ?_⟩
  · simp only [List.forall_mem_append]
    exact ⟨⟨⟨fits_header b, fits_summary _⟩, fits_failures _⟩, fits_breakdown _⟩
  · simp only [List.forall_mem_cons, fits_nil, fits_script, fits_markup, and_true, true_and]
    and_intros <;> exact markupFits_toList rfl rfl

lemma count_pre_savedData (b : BatchRecord) :
    (tagNames (render (savedData b))).count "pre".toList = 1 := by
  have hblank : (savedData b).map Piece.blank
      = [markup "<section class=\"raw-data\">\n",
         markup "<details>\n<summary>Raw JSON Data</summary>\n", markup "<pre><code>", text [],
         markup "</code></pre>\n", markup "</details>\n</section>\n"] := by
    simp [savedData]
  rw [tagNames_render (fits_savedData b), hblank]
  rfl

lemma count_pre (b : BatchRecord) : (tagNames b.pageText).count "pre".toList = 1 := by
  obtain ⟨front, back, hbody, hfront, hback⟩ := exists_bodyPieces_eq b
  have hpre : "pre".toList ∈ onceNames := by decide
  have hcount : (tagNames (render (bodyPieces b))).count "pre".toList = 1 := by
    rw [hbody, render_append, render_append, List.append_assoc,
      count_tagNames_append (namesEnd_render hfront),
      count_tagNames_append (namesEnd_render (fits_savedData b)),
      count_tagNames_render hfront hpre, count_tagNames_render hback hpre, count_pre_savedData]
  rw [count_tagNames_pageText b hpre, hcount]
  decide

/-! ### What stands in a page -/

/-- A tag whose name a text has once stands in it at most once. -/
lemma occurrences_le_one {s q word : Text} (hword : word = '<' :: q) (hq : closesName q = true)
    (hname : tagName q = name) (h : (tagNames s).count name = 1) :
    Text.occurrences word s ≤ 1 := by
  rw [hword, ← h, ← hname]
  exact occurrences_le_count_tagNames hq s

/-- What stands in the body. -/
lemma between?_body (b : BatchRecord) :
    Text.between? "<body>".toList "</body>".toList b.pageText
      = some ('\n' :: render (bodyPieces b)) := by
  obtain ⟨front, -, hpage⟩ := exists_pageText_eq b
  have hcut : b.pageText = (render front ++ "</head>\n".toList) ++ ("<body>".toList
      ++ (('\n' :: render (bodyPieces b)) ++ ("</body>".toList ++ "\n</html>".toList))) := by
    rw [hpage]
    simp
  have hopen : Text.occurrences "<body>".toList b.pageText ≤ 1 :=
    occurrences_le_one (q := "body>".toList) (by decide) (by decide) (by decide) (count_body b)
  have hclose : Text.occurrences "</body>".toList b.pageText ≤ 1 :=
    occurrences_le_one (q := "/body>".toList) (by decide) (by decide) (by decide) (count_endBody b)
  rw [hcut] at hopen hclose ⊢
  rw [Text.between?, Text.after?_append hopen, Option.bind_some]
  refine Text.before?_append (Nat.le_trans ?_ hclose)
  exact (Text.occurrences_le_append _ _ _).trans (Text.occurrences_le_append _ _ _)

/-- The page around the report file. -/
lemma exists_pageText_eq_code (b : BatchRecord) :
    ∃ front back, b.pageText = front
      ++ ("<pre><code>".toList ++ (escape b.save ++ ("</code>".toList ++ back))) := by
  obtain ⟨front, -, hpage⟩ := exists_pageText_eq b
  obtain ⟨before, after, hbody, -, -⟩ := exists_bodyPieces_eq b
  obtain ⟨u, v, hsaved⟩ : ∃ u v, render (savedData b)
      = u ++ ("<pre><code>".toList ++ (escape b.save ++ ("</code>".toList ++ v))) := by
    refine ⟨render [markup "<section class=\"raw-data\">\n",
        markup "<details>\n<summary>Raw JSON Data</summary>\n"],
      "</pre>\n</details>\n</section>\n".toList, ?_⟩
    simp [savedData, render, Piece.render, markup, text]
  refine ⟨render front ++ "</head>\n<body>\n".toList ++ render before ++ u,
    v ++ render after ++ "</body>\n</html>".toList, ?_⟩
  rw [hpage, hbody, render_append, render_append, hsaved]
  simp only [List.append_assoc]

/-- What stands in the element for the report file. -/
lemma between?_code (b : BatchRecord) :
    Text.occurrences "<pre><code>".toList b.pageText = 1
      ∧ Text.between? "<pre><code>".toList "</code>".toList b.pageText
        = some (escape b.save) := by
  obtain ⟨front, back, hcut⟩ := exists_pageText_eq_code b
  have honce : Text.occurrences "<pre><code>".toList b.pageText ≤ 1 :=
    occurrences_le_one (q := "pre><code>".toList) (by decide) (by decide) (by decide) (count_pre b)
  rw [hcut] at honce ⊢
  refine ⟨Nat.le_antisymm honce (Text.one_le_occurrences _ _ _), ?_⟩
  have hfree : '<' ∉ escape b.save := notMem_of_holdsAngle (holdsAngle_escape b.save)
  have hclosing : "</code>".toList = '<' :: "/code>".toList := by decide
  rw [Text.between?, Text.after?_append honce, Option.bind_some, hclosing]
  exact Text.before?_append_of_notMem hfree

/-- **The structure of a page**: only the markup of a page holds angle brackets. Pages of records of
the same shape, whatever their texts, times and numbers, have the same markup at the same places,
and the same tags in their bodies. The report file stands in the page in escaped form, in the only
element of its kind. -/
theorem page_structure (b b' : BatchRecord) (hshape : b.shape = b'.shape) :
    (∀ p ∈ b.page, holdsAngle p.render = true → ∃ s, p = .markup s)
      ∧ b.page.map Piece.blank = b'.page.map Piece.blank
      ∧ (∃ body body', Text.between? "<body>".toList "</body>".toList b.pageText = some body
          ∧ Text.between? "<body>".toList "</body>".toList b'.pageText = some body'
          ∧ tagNames body = tagNames body')
      ∧ Text.occurrences "<pre><code>".toList b.pageText = 1
      ∧ (Text.between? "<pre><code>".toList "</code>".toList b.pageText).map unescape
        = some b.save := by
  obtain ⟨honce, hcode⟩ := between?_code b
  have hbody (b : BatchRecord) : tagNames ('\n' :: render (bodyPieces b))
      = tagNames (render ((bodyPieces b).map Piece.blank)) :=
    tagNames_render (fits_bodyPieces b)
  refine ⟨fun p hp => (fits_page b p hp).exists_markup, map_blank_page hshape,
    ⟨_, _, between?_body b, between?_body b', ?_⟩, honce, ?_⟩
  · rw [hbody, hbody, map_blank_bodyPieces hshape]
  · rw [hcode, Option.map_some, unescape_escape]

/-- A record in which every text is a tag has a page with the tags of one in which every text is
empty. -/
theorem page_structure_script :
    let stamp : Stamp := ⟨.nil, ⟨0, 0⟩⟩
    let problem (s : Text) : ProblemMark :=
      ⟨s, true, Problem.incorrectMark {} ⟨s, [.ofTags s []]⟩ s [s]⟩
    let b (s : Text) : BatchRecord :=
      ⟨stamp, s, [⟨stamp, .ofMarks s [problem s]⟩], [⟨s, s⟩], 0⟩
    (b "<script>".toList).shape = (b []).shape
      ∧ ∃ body body',
          Text.between? "<body>".toList "</body>".toList (b "<script>".toList).pageText = some body
            ∧ Text.between? "<body>".toList "</body>".toList (b []).pageText = some body'
            ∧ tagNames body = tagNames body' := by
  intro stamp problem b
  have hshape : (b "<script>".toList).shape = (b []).shape := rfl
  exact ⟨hshape, (page_structure _ _ hshape).2.2.1⟩

end Page

end Grading
