import LalrBackend.Proofs.Text.Margin

/-!
# Snippets spliced as a whole and line by line

A snippet can be put to a margin as a whole or line by line. Line by line, the margin comes
before every line that is not empty. As a whole, it comes before every run that is not
blank, also within a line, if the line has a line end in it that is no line feed; a blank
line of other characters than blanks and tabs gets none. Both ways agree exactly for
snippets whose lines have no such line end before or within their code.
-/

namespace LalrBackend.Text

/-- A line with code and without a line end in front of it or within it; what is behind the code
is blank. -/
def IsPlainLine (l : List Char) : Prop :=
  ∃ body tail, l = body ++ tail ∧ (∀ c ∈ body, isLineEnd c = false) ∧
    (∃ c ∈ body, isBlank c = false) ∧ ∀ c ∈ tail, isBlank c = true

/-- A line and what indenting makes of it: the margin stands before each of its runs that is not
blank. -/
inductive IsPadded (margin : List Char) : List Char → List Char → Prop
  | last {run : List Char} (hrun : ∀ c ∈ run, isLineEnd c = false) :
      IsPadded margin run (padRun margin run)
  | next {run rest rest' : List Char} {c : Char} (hrun : ∀ c ∈ run, isLineEnd c = false)
      (hc : isLineEnd c = true) (h : IsPadded margin rest rest') :
      IsPadded margin (run ++ c :: rest) (padRun margin run ++ c :: rest')

/-- A line behind the margin, unless it is empty. -/
def spliceLine (margin l : List Char) : List Char :=
  if l = [] then [] else margin ++ l

/-- A snippet that is put to a margin line by line. -/
def splicedByLine (code margin : String) : String :=
  String.ofList (unlines ((lines (reindent code "").toList).map (spliceLine margin.toList)))

/-! ## Indented lines -/

section Indented

variable {margin l cs m : List Char}

theorem isPadded_indent (margin l : List Char) : IsPadded margin l (indent margin l) := by
  induction l using runInduction (p := isLineEnd) with
  | last run hrun =>
      rw [indent_run hrun]
      exact .last hrun
  | next run c rest hrun hc ih =>
      rw [indent_run_cons hrun hc]
      exact .next hrun hc ih

theorem padRun_of_blank {run : List Char} (h : ∀ c ∈ run, isBlank c = true) :
    padRun margin run = run :=
  if_pos (List.all_eq_true.mpr h)

theorem padRun_of_code {run : List Char} (h : ∃ c ∈ run, isBlank c = false) :
    padRun margin run = margin ++ run := by
  obtain ⟨c, hc, hblank⟩ := h
  exact if_neg fun hall => by simp [List.all_eq_true.mp hall c hc] at hblank

theorem indent_of_blank (h : ∀ c ∈ cs, isBlank c = true) : indent margin cs = cs := by
  induction cs using runInduction (p := isLineEnd) with
  | last run hrun => rw [indent_run hrun, padRun_of_blank h]
  | next run c rest hrun hc ih =>
      obtain ⟨hblank, hrest⟩ := List.forall_mem_append.mp h
      rw [indent_run_cons hrun hc, padRun_of_blank hblank,
        ih (List.forall_mem_cons.mp hrest).2]

theorem mem_of_mem_padRun {run : List Char} {c : Char} (h : c ∈ padRun margin run) :
    c ∈ margin ∨ c ∈ run := by
  unfold padRun at h
  split at h
  · exact .inr h
  · exact List.mem_append.mp h

theorem mem_of_mem_indent {c : Char} (h : c ∈ indent margin cs) : c ∈ margin ∨ c ∈ cs := by
  induction cs using runInduction (p := isLineEnd) with
  | last run hrun =>
      rw [indent_run hrun] at h
      exact mem_of_mem_padRun h
  | next run d rest hrun hd ih =>
      rw [indent_run_cons hrun hd, List.mem_append, List.mem_cons] at h
      rw [List.mem_append, List.mem_cons]
      rcases h with h | rfl | h
      · exact (mem_of_mem_padRun h).imp_right .inl
      · exact .inr (.inr (.inl rfl))
      · exact (ih h).imp_right fun h => .inr (.inr h)

theorem length_padRun_le (margin run : List Char) : run.length ≤ (padRun margin run).length := by
  unfold padRun
  split
  · exact Nat.le_refl _
  · rw [List.length_append]
    exact Nat.le_add_left _ _

theorem length_indent_le (margin cs : List Char) : cs.length ≤ (indent margin cs).length := by
  induction cs using runInduction (p := isLineEnd) with
  | last run hrun =>
      rw [indent_run hrun]
      exact length_padRun_le margin run
  | next run c rest hrun hc ih =>
      have hpad := length_padRun_le margin run
      rw [indent_run_cons hrun hc]
      simp only [List.length_append, List.length_cons]
      omega

theorem blank_of_padRun_eq_self {run : List Char} (hne : margin ≠ [])
    (h : (padRun margin run).length = run.length) : ∀ c ∈ run, isBlank c = true := by
  by_contra hblank
  have hpos := List.length_pos_iff.mpr hne
  rw [padRun, if_neg (mt List.all_eq_true.mp hblank), List.length_append] at h
  omega

/-- A margin that is not empty shows in every text that is not blank. -/
theorem blank_of_indent_eq_self (hne : margin ≠ []) (h : indent margin cs = cs) :
    ∀ c ∈ cs, isBlank c = true := by
  induction cs using runInduction (p := isLineEnd) with
  | last run hrun =>
      rw [indent_run hrun] at h
      exact blank_of_padRun_eq_self hne (congrArg List.length h)
  | next run c rest hrun hc ih =>
      rw [indent_run_cons hrun hc] at h
      -- No part becomes shorter, so each of them keeps its length.
      have hlength := congrArg List.length h
      have hpad := length_padRun_le margin run
      have hindent := length_indent_le margin rest
      simp only [List.length_append, List.length_cons] at hlength
      have hrunEq : (padRun margin run).length = run.length := by omega
      have htail := (List.append_inj h hrunEq).2
      exact List.forall_mem_append.mpr ⟨blank_of_padRun_eq_self hne hrunEq,
        List.forall_mem_cons.mpr ⟨isBlank_of_isLineEnd hc, ih (List.cons.inj htail).2⟩⟩

/-- The margin comes to the front of a line and to no other place of it exactly if the line is
plain. -/
theorem indent_eq_append_iff (hends : ∀ c ∈ margin, isLineEnd c = false) (hne : margin ≠ []) :
    indent margin l = margin ++ l ↔ IsPlainLine l := by
  constructor
  · intro h
    induction l using runInduction (p := isLineEnd) with
    | last run hrun =>
        rw [indent_run hrun] at h
        refine ⟨run, [], by simp, hrun, ?_, by simp⟩
        by_contra hblank
        push Not at hblank
        rw [padRun_of_blank (by simpa using hblank)] at h
        exact hne (List.self_eq_append_left.mp h)
    | next run c rest hrun hc _ =>
        rw [indent_run_cons hrun hc] at h
        have hcode : ∃ c ∈ run, isBlank c = false := by
          by_contra hblank
          push Not at hblank
          rw [padRun_of_blank (by simpa using hblank), ← List.append_assoc] at h
          have hfront := congrArg (List.takeWhile fun c => !isLineEnd c) h
          have hboth : ∀ d ∈ margin ++ run, (!isLineEnd d) = true := by
            intro d hd
            rcases List.mem_append.mp hd with hd | hd
            · simp [hends d hd]
            · simp [hrun d hd]
          rw [List.takeWhile_append_of_pos hboth, List.takeWhile_append_of_pos
            fun d hd => hboth d (List.mem_append_right _ hd)] at hfront
          simp only [List.takeWhile_cons, hc] at hfront
          exact hne (by simpa using hfront)
        rw [padRun_of_code hcode, List.append_assoc, List.append_cancel_left_eq,
          List.append_cancel_left_eq, List.cons.injEq] at h
        exact ⟨run, c :: rest, rfl, hrun, hcode, List.forall_mem_cons.mpr
          ⟨isBlank_of_isLineEnd hc, blank_of_indent_eq_self hne h.2⟩⟩
  · rintro ⟨body, tail, rfl, hbody, ⟨c, hc, hcode⟩, htail⟩
    cases tail using runInduction (p := isLineEnd) with
    | last run hrun =>
        rw [indent_run (List.forall_mem_append.mpr ⟨hbody, hrun⟩),
          padRun_of_code ⟨c, List.mem_append_left _ hc, hcode⟩]
    | next run d rest hrun hd _ =>
        have hrest := (List.forall_mem_cons.mp (List.forall_mem_append.mp htail).2).2
        rw [← List.append_assoc, indent_run_cons (List.forall_mem_append.mpr ⟨hbody, hrun⟩) hd,
          padRun_of_code ⟨c, List.mem_append_left _ hc, hcode⟩, indent_of_blank hrest,
          List.append_assoc]

theorem indent_eq_spliceLine_iff (hends : ∀ c ∈ margin, isLineEnd c = false)
    (hne : margin ≠ []) : indent margin l = spliceLine margin l ↔ l = [] ∨ IsPlainLine l := by
  unfold spliceLine
  by_cases hnil : l = []
  · subst hnil
    simp [indent_of_blank]
  · rw [if_neg hnil, indent_eq_append_iff hends hne, or_iff_right hnil]

theorem isBlank_of_isIndent {c : Char} (h : isIndent c = true) :
    isBlank c = true ∧ isLineEnd c = false := by
  rcases isIndent_iff.mp h with rfl | rfl <;> decide

/-- Indentation makes no difference to whether a line is plain. -/
theorem isPlainLine_append_iff (hm : ∀ c ∈ m, isIndent c = true) :
    IsPlainLine (m ++ l) ↔ IsPlainLine l := by
  constructor
  · rintro ⟨body, tail, heq, hbody, ⟨c, hc, hcode⟩, htail⟩
    rcases List.append_eq_append_iff.mp heq with ⟨as, rfl, rfl⟩ | ⟨as, rfl, rfl⟩
    · refine ⟨as, tail, rfl, (List.forall_mem_append.mp hbody).2, ⟨c, ?_, hcode⟩, htail⟩
      rcases List.mem_append.mp hc with hc | hc
      · rw [(isBlank_of_isIndent (hm c hc)).1] at hcode
        cases hcode
      · exact hc
    · rw [(isBlank_of_isIndent (hm c (List.mem_append_left _ hc))).1] at hcode
      cases hcode
  · rintro ⟨body, tail, rfl, hbody, ⟨c, hc, hcode⟩, htail⟩
    exact ⟨m ++ body, tail, (List.append_assoc ..).symm, List.forall_mem_append.mpr
      ⟨fun c hc => (isBlank_of_isIndent (hm c hc)).2, hbody⟩,
      ⟨c, List.mem_append_right _ hc, hcode⟩, htail⟩

end Indented

/-! ## Whole snippets -/

section Snippets

variable {cs margin : List Char} {core ls : List (List Char)}

/-- Texts of lines are equal exactly if their lines are. -/
theorem unlines_map_eq_iff {f g : List Char → List Char} (hf : ∀ l ∈ ls, '\n' ∉ f l)
    (hg : ∀ l ∈ ls, '\n' ∉ g l) :
    unlines (ls.map f) = unlines (ls.map g) ↔ ∀ l ∈ ls, f l = g l := by
  rw [← List.map_inj_left]
  constructor
  · intro h
    by_cases hnil : ls = []
    · rw [hnil]
      rfl
    · rw [← lines_unlines (List.forall_mem_map.mpr hf) (by simpa using hnil), h,
        lines_unlines (List.forall_mem_map.mpr hg) (by simpa using hnil)]
  · exact congrArg unlines

/-- A text without lines has one line after all, an empty one, which changes nothing. -/
theorem unlines_map_spliceLine_lines (hfree : ∀ l ∈ ls, '\n' ∉ l) :
    unlines ((lines (unlines ls)).map (spliceLine margin)) =
      unlines (ls.map (spliceLine margin)) := by
  by_cases hnil : ls = []
  · subst hnil
    rfl
  · rw [lines_unlines hfree hnil]

theorem TakenOff.splicedByLine_eq {code : String} (h : TakenOff code.toList margin core)
    (target : String) : splicedByLine code target =
      String.ofList
        (unlines ((core.map (·.drop margin.length)).map (spliceLine target.toList))) := by
  rw [splicedByLine, reindent, String.toList_ofList, h.text_eq, String.toList_empty,
    indent_nil_margin, unlines_map_spliceLine_lines h.free]

theorem TakenOff.reindent_eq {code : String} (h : TakenOff code.toList margin core)
    (target : String) : reindent code target =
      String.ofList (unlines ((core.map (·.drop margin.length)).map (indent target.toList))) := by
  rw [reindent, h.text_eq, indent_unlines]

/-- The lines of a snippet are plain off their margin exactly if they are at it. -/
theorem TakenOff.plain_iff (h : TakenOff cs margin core) :
    (∀ l ∈ core.map (·.drop margin.length), l = [] ∨ IsPlainLine l) ↔
      ∀ l ∈ lines cs, (∀ c ∈ l, isIndent c = true) ∨ IsPlainLine l := by
  have hsplit : ∀ l ∈ core, l ≠ [] →
      l = margin ++ l.drop margin.length ∧ ∀ c ∈ margin, isIndent c = true := by
    intro l hl hne
    obtain ⟨-, -, hstart⟩ := h.content l hl hne
    obtain ⟨rest, hrest⟩ := hstart.trans (List.takeWhile_prefix isIndent)
    exact ⟨by rw [← hrest, List.drop_left],
      fun c hc => List.mem_takeWhile_imp (hstart.subset hc)⟩
  rw [List.forall_mem_map]
  constructor
  · intro hplain l hl
    by_cases hcontent : contentOf l = []
    · exact .inl (contentOf_eq_nil_iff.mp hcontent)
    · have hmem := h.mem_core hl hcontent
      have hne : l ≠ [] := contentOf_eq_self hcontent ▸ hcontent
      obtain ⟨heq, hindent⟩ := hsplit l hmem hne
      rcases hplain l hmem with hnil | hplain
      · rw [hnil, List.append_nil] at heq
        exact .inl (heq ▸ hindent)
      · rw [heq]
        exact .inr ((isPlainLine_append_iff hindent).mpr hplain)
  · intro hplain l hl
    by_cases hne : l = []
    · exact .inl (by rw [hne, List.drop_nil])
    · obtain ⟨heq, hindent⟩ := hsplit l hl hne
      obtain ⟨hmem, hself, -⟩ := h.content l hl hne
      rcases hplain l hmem with hall | hplain
      · rw [← contentOf_eq_nil_iff, hself] at hall
        exact absurd hall hne
      · rw [heq, isPlainLine_append_iff hindent] at hplain
        exact .inr hplain

end Snippets

/-- **The two ways of splicing a snippet agree exactly for plain lines**, if there is a margin at
all. In general a snippet has the same lines either way, and the margin stands before each run of
a line that is not blank. -/
theorem reindent_eq_splicedByLine_iff {code margin : String}
    (hmargin : ∀ c ∈ margin.toList, c = ' ') :
    (reindent code margin = splicedByLine code margin ↔ margin = "" ∨
      ∀ l ∈ lines code.toList, (∀ c ∈ l, isIndent c = true) ∨ IsPlainLine l) ∧
    ∃ plain spliced padded : List (List Char),
      (∀ l ∈ plain ++ spliced ++ padded, '\n' ∉ l) ∧
      reindent code "" = String.ofList (unlines plain) ∧
      splicedByLine code margin = String.ofList (unlines spliced) ∧
      reindent code margin = String.ofList (unlines padded) ∧
      spliced = plain.map (spliceLine margin.toList) ∧
      List.Forall₂ (IsPadded margin.toList) plain padded := by
  obtain ⟨core, htaken⟩ := exists_takenOff code.toList
  set plain := core.map (·.drop (sharedMargin ((lines code.toList).map contentOf)).length)
  have hends : ∀ c ∈ margin.toList, isLineEnd c = false := by
    intro c hc
    rw [hmargin c hc]
    rfl
  have hfeed : '\n' ∉ margin.toList := fun h => absurd (hends _ h) (by decide)
  have hsplice : ∀ l ∈ plain, '\n' ∉ spliceLine margin.toList l := by
    intro l hl
    unfold spliceLine
    split
    · exact List.not_mem_nil
    · rw [List.mem_append, not_or]
      exact ⟨hfeed, htaken.free l hl⟩
  have hindent : ∀ l ∈ plain, '\n' ∉ indent margin.toList l :=
    fun l hl hmem => (mem_of_mem_indent hmem).elim hfeed (htaken.free l hl)
  refine ⟨?_, plain, plain.map (spliceLine margin.toList), plain.map (indent margin.toList), ?_,
    ?_, htaken.splicedByLine_eq margin, htaken.reindent_eq margin, rfl, ?_⟩
  · rw [htaken.reindent_eq, htaken.splicedByLine_eq, String.ofList_inj,
      unlines_map_eq_iff hindent hsplice]
    by_cases hempty : margin = ""
    · subst hempty
      simp [indent_nil_margin, spliceLine]
    · have hne : margin.toList ≠ [] := by simpa using hempty
      rw [or_iff_right hempty, ← htaken.plain_iff]
      exact forall₂_congr fun l _ => indent_eq_spliceLine_iff hends hne
  · simp only [List.forall_mem_append, List.forall_mem_map]
    exact ⟨⟨htaken.free, hsplice⟩, hindent⟩
  · rw [htaken.reindent_eq, String.toList_empty]
    congr 2
    conv_rhs => rw [← List.map_id plain]
    exact List.map_congr_left fun l _ => indent_nil_margin l
  · rw [List.forall₂_map_right_iff, List.forall₂_same]
    exact fun l _ => isPadded_indent margin.toList l

/-- Two lines of a block with an empty line above, one of a tab between and a carriage return at
their end. -/
theorem reindent_eq_splicedByLine_iff_block :
    let code := "\n    if x:\n\t\n        y = 'é'\r\n"
    (∀ c ∈ "  ".toList, c = ' ') ∧
      (∀ l ∈ lines code.toList, (∀ c ∈ l, isIndent c = true) ∨ IsPlainLine l) ∧
      reindent code "  " = splicedByLine code "  " ∧
      reindent code "  " = "  if x:\n\n      y = 'é'\r" := by
  intro code
  have hmargin : ∀ c ∈ "  ".toList, c = ' ' := by simp
  have hlines : lines code.toList =
      [[], "    if x:".toList, ['\t'], "        y = 'é'\r".toList, []] := by decide
  have hends : ∀ {l : List Char}, l.all (!isLineEnd ·) = true → ∀ c ∈ l, isLineEnd c = false := by
    simp
  have hplain : ∀ l ∈ lines code.toList, (∀ c ∈ l, isIndent c = true) ∨ IsPlainLine l := by
    rw [hlines]
    simp only [List.forall_mem_cons]
    refine ⟨.inl (List.forall_mem_nil _), .inr ?_, .inl (by simp [isIndent]), .inr ?_,
      .inl (List.forall_mem_nil _), List.forall_mem_nil _⟩
    · exact ⟨"    if x:".toList, [], by decide, hends (by decide), ⟨'x', by decide, by decide⟩,
        List.forall_mem_nil _⟩
    · exact ⟨"        y = 'é'".toList, ['\r'], by decide, hends (by decide),
        ⟨'y', by decide, by decide⟩, List.all_eq_true.mp (by decide)⟩
  exact ⟨hmargin, hplain, (reindent_eq_splicedByLine_iff hmargin).1.mpr (.inr hplain), by decide⟩

/-- The margin comes into the middle of a text between quotes if there is a form feed in it. -/
theorem reindent_within_line :
    ¬ ∀ code margin : String, hasCode (some code) = true → (∀ c ∈ margin.toList, c = ' ') →
      reindent code margin = splicedByLine code margin := by
  intro h
  have hsame := h "x = 'a\x0cb'" "    " (by decide) (by simp)
  have hwhole : reindent "x = 'a\x0cb'" "    " = "    x = 'a\x0c    b'" := by decide
  have hlines : splicedByLine "x = 'a\x0cb'" "    " = "    x = 'a\x0cb'" := by decide
  rw [hwhole, hlines] at hsame
  exact absurd hsame (by decide)

end LalrBackend.Text
