import LalrBackend.Proofs.Text.Lines
import Mathlib.Data.List.Forall2

/-!
# Snippets without their margin

A snippet of code is taken off its margin: the longest indentation that its lines share
goes, and so do the empty lines at its ends. Nothing else of a line changes, so the lines
keep their indentation relative to each other.
-/

namespace LalrBackend.Text

/-- The longest indentation that the lines with content share. -/
structure IsMargin (ls : List (List Char)) (margin : List Char) : Prop where
  shared : ∀ l ∈ ls, l ≠ [] → margin <+: l.takeWhile isIndent
  longest : ∀ run, (∀ l ∈ ls, l ≠ [] → run <+: l.takeWhile isIndent) → run <+: margin

/-- What a line counts as: one of blanks and tabs only counts as empty. -/
def contentOf (l : List Char) : List Char :=
  if l.all fun c => c = ' ' ∨ c = '\t' then [] else l

/-- The lines of a snippet without the margin they share and without the empty lines at its
ends. -/
def IsSplice (code : List Char) (out : List (List Char)) : Prop :=
  ∃ margin core, IsMargin ((lines code).map contentOf) margin ∧
    Trimmed List.isEmpty ((lines code).map contentOf) core ∧
    List.Forall₂ (fun l o => l = [] ∧ o = [] ∨ l ≠ [] ∧ l = margin ++ o) core out

/-! ## The shared margin -/

section SharedMargin

variable {run as bs m margin margin' l : List Char} {ls ms : List (List Char)}

theorem prefix_commonStart_iff :
    run <+: commonStart as bs ↔ run <+: as ∧ run <+: bs := by
  induction run generalizing as bs with
  | nil => simp
  | cons c cs ih =>
      cases as with
      | nil => simp [commonStart]
      | cons a as =>
          cases bs with
          | nil => simp [commonStart]
          | cons b bs =>
              by_cases hab : a = b
              · subst hab
                simp only [commonStart, if_true, List.cons_prefix_cons, ih]
                tauto
              · simp only [commonStart, if_neg hab, List.cons_prefix_cons, List.prefix_nil]
                constructor
                · intro h
                  cases h
                · rintro ⟨⟨rfl, _⟩, rfl, _⟩
                  exact absurd rfl hab

theorem prefix_foldl_commonStart_iff :
    run <+: ms.foldl commonStart m ↔ run <+: m ∧ ∀ k ∈ ms, run <+: k := by
  induction ms generalizing m with
  | nil => simp
  | cons k ks ih =>
      rw [List.foldl_cons, ih, prefix_commonStart_iff, List.forall_mem_cons, and_assoc]

/-- What begins the shared margin begins the indentation of every line with content. -/
theorem prefix_sharedMargin_iff (h : ∃ l ∈ ls, l ≠ []) :
    run <+: sharedMargin ls ↔ ∀ l ∈ ls, l ≠ [] → run <+: l.takeWhile isIndent := by
  have hall : (∀ k ∈ (ls.filter fun l => !l.isEmpty).map (·.takeWhile isIndent), run <+: k) ↔
      ∀ l ∈ ls, l ≠ [] → run <+: l.takeWhile isIndent := by
    simp only [List.forall_mem_map, List.mem_filter, Bool.not_eq_true', List.isEmpty_eq_false_iff,
      and_imp]
  unfold sharedMargin
  split
  · rename_i hnone
    obtain ⟨l, hl, hne⟩ := h
    have hmem : l ∈ ls.filter fun l => !l.isEmpty := by simp [hl, hne]
    rw [List.map_eq_nil_iff.mp hnone] at hmem
    cases hmem
  · rename_i k ks heq
    rw [← hall, heq, prefix_foldl_commonStart_iff, List.forall_mem_cons]

theorem isMargin_sharedMargin (h : ∃ l ∈ ls, l ≠ []) : IsMargin ls (sharedMargin ls) where
  shared := (prefix_sharedMargin_iff h).mp List.prefix_rfl
  longest _ hrun := (prefix_sharedMargin_iff h).mpr hrun

theorem IsMargin.eq (h : IsMargin ls margin) (h' : IsMargin ls margin') : margin = margin' :=
  List.IsPrefix.eq_of_length_le (h'.longest _ h.shared) (h.longest _ h'.shared).length_le

end SharedMargin

/-! ## Lines with content -/

section Content

variable {l : List Char} {c : Char} {ls core : List (List Char)}

theorem isIndent_iff : isIndent c = true ↔ c = ' ' ∨ c = '\t' := by
  simp [isIndent]

theorem clearBlankLines_eq (ls : List (List Char)) :
    clearBlankLines ls = ls.map contentOf := by
  apply List.map_congr_left
  intro l _
  simp only [contentOf, List.all_eq_true, isIndent_iff, decide_eq_true_eq]

theorem contentOf_eq_nil_iff : contentOf l = [] ↔ ∀ c ∈ l, isIndent c = true := by
  simp only [contentOf, isIndent_iff, List.all_eq_true, decide_eq_true_eq, ite_eq_left_iff]
  constructor
  · intro h
    by_contra hcontent
    rw [h hcontent] at hcontent
    exact hcontent (List.forall_mem_nil _)
  · intro h hcontent
    exact absurd h hcontent

theorem contentOf_eq_self (h : contentOf l ≠ []) : contentOf l = l := by
  unfold contentOf at h ⊢
  split
  · rename_i hall
    exact absurd (if_pos hall) h
  · rfl

/-- A line with content does not end with its indentation. -/
theorem drop_ne_nil_of_content {margin : List Char} (h : contentOf l ≠ [])
    (hmargin : margin <+: l.takeWhile isIndent) : (contentOf l).drop margin.length ≠ [] := by
  rw [contentOf_eq_self h]
  intro hdrop
  apply h
  rw [contentOf_eq_nil_iff, ← List.takeWhile_eq_self_iff]
  exact (List.takeWhile_prefix _).eq_of_length_le
    ((List.drop_eq_nil_iff.mp hdrop).trans hmargin.length_le)

theorem Trimmed.map {f : List Char → List Char} (h : Trimmed List.isEmpty ls core)
    (hf : ∀ l ∈ ls, (f l).isEmpty = l.isEmpty) :
    Trimmed List.isEmpty (ls.map f) (core.map f) := by
  obtain ⟨⟨front, back, rfl, hfront, hback⟩, hfirst, hlast⟩ := h
  simp only [List.mem_append] at hf
  refine ⟨⟨front.map f, back.map f, by simp only [List.map_append], ?_, ?_⟩, ?_, ?_⟩
  · exact List.forall_mem_map.mpr fun l hl => (hf l (.inl (.inl hl))).trans (hfront l hl)
  · exact List.forall_mem_map.mpr fun l hl => (hf l (.inr hl)).trans (hback l hl)
  · rw [List.head?_map]
    intro o ho
    obtain ⟨l, hl, rfl⟩ := Option.map_eq_some_iff.mp ho
    exact (hf l (.inl (.inr (List.mem_of_mem_head? hl)))).trans (hfirst l hl)
  · rw [List.getLast?_map]
    intro o ho
    obtain ⟨l, hl, rfl⟩ := Option.map_eq_some_iff.mp ho
    exact (hf l (.inl (.inr (List.mem_of_mem_getLast? hl)))).trans (hlast l hl)

end Content

/-! ## Lines at the ends -/

section Ends

variable {l : List Char} {ls core front back : List (List Char)}

theorem unlines_empty_append (hfront : ∀ l ∈ front, l = []) (hne : ls ≠ []) :
    unlines (front ++ ls) = List.replicate front.length '\n' ++ unlines ls := by
  induction front with
  | nil => rfl
  | cons k ks ih =>
      obtain ⟨rfl, hks⟩ := List.forall_mem_cons.mp hfront
      rw [List.cons_append, unlines_cons [] (by simp [hne]), ih hks]
      rfl

theorem unlines_append_empty (hback : ∀ l ∈ back, l = []) (hne : ls ≠ []) :
    unlines (ls ++ back) = unlines ls ++ List.replicate back.length '\n' := by
  induction back using List.reverseRecOn with
  | nil => simp
  | append_singleton ks k ih =>
      obtain ⟨hks, hk⟩ := List.forall_mem_append.mp hback
      obtain rfl : k = [] := hk k List.mem_cons_self
      rw [← List.append_assoc, unlines_concat [] (by simp [hne]), ih hks, List.length_append,
        List.length_singleton, List.replicate_succ', List.append_assoc]

theorem head?_unlines_cons (hne : l ≠ []) (ls : List (List Char)) :
    (unlines (l :: ls)).head? = l.head? := by
  cases ls with
  | nil => rw [unlines_singleton]
  | cons k ks => rw [unlines_cons l (by simp), List.head?_append_of_ne_nil l hne]

theorem getLast?_unlines_concat (hne : l ≠ []) (ls : List (List Char)) :
    (unlines (ls ++ [l])).getLast? = l.getLast? := by
  by_cases hls : ls = []
  · rw [hls, List.nil_append, unlines_singleton]
  · obtain ⟨c, cs, rfl⟩ := List.exists_cons_of_ne_nil hne
    rw [unlines_concat _ hls, List.getLast?_append]
    simp [List.getLast?_cons]

theorem eq_lineFeed_of_mem_unlines (h : ∀ l ∈ ls, l = []) : ∀ c ∈ unlines ls, c = '\n' := by
  induction ls with
  | nil =>
      intro c hc
      cases hc
  | cons k ks ih =>
      obtain ⟨rfl, hks⟩ := List.forall_mem_cons.mp h
      by_cases hnil : ks = []
      · subst hnil
        rw [unlines_singleton]
        exact List.forall_mem_nil _
      · rw [unlines_cons [] hnil]
        exact List.forall_mem_cons.mpr ⟨rfl, ih hks⟩

/-- Dropping the line feeds at both ends of a text drops its empty lines there. -/
theorem trimLineFeeds_unlines (h : Trimmed List.isEmpty ls core) (hls : ∀ l ∈ ls, '\n' ∉ l) :
    trimLineFeeds (unlines ls) = unlines core := by
  obtain ⟨⟨front, back, rfl, hfront, hback⟩, hfirst, hlast⟩ := h
  have hfront : ∀ l ∈ front, l = [] := fun l hl => List.isEmpty_iff.mp (hfront l hl)
  have hback : ∀ l ∈ back, l = [] := fun l hl => List.isEmpty_iff.mp (hback l hl)
  rw [trimLineFeeds, trimBoth_eq_iff]
  by_cases hne : core = []
  · subst hne
    have hempty : ∀ l ∈ front ++ [] ++ back, l = [] := by
      rw [List.append_nil]
      exact List.forall_mem_append.mpr ⟨hfront, hback⟩
    have hfeeds := eq_lineFeed_of_mem_unlines hempty
    have hnil : unlines [] = [] := rfl
    rw [hnil]
    exact ⟨⟨_, [], by simp, fun c hc => beq_of_eq (hfeeds c hc), by simp⟩, by simp, by simp⟩
  have hkeep : ∀ l ∈ core, ∀ c ∈ l, (c == '\n') = false := by
    intro l hl c hc
    rw [beq_eq_false_iff_ne]
    rintro rfl
    exact hls l (by simp [hl]) hc
  have hfeeds : ∀ n, ∀ c ∈ List.replicate n '\n', (c == '\n') = true :=
    fun n c hc => beq_of_eq (List.eq_of_mem_replicate hc)
  refine ⟨⟨_, _, ?_, hfeeds front.length, hfeeds back.length⟩, ?_, ?_⟩
  · rw [unlines_append_empty hback (by simp [hne]), unlines_empty_append hfront hne]
  · obtain ⟨k, ks, rfl⟩ := List.exists_cons_of_ne_nil hne
    have hk : k ≠ [] := by simpa using hfirst k rfl
    rw [head?_unlines_cons hk]
    exact fun c hc => hkeep k List.mem_cons_self c (List.mem_of_mem_head? hc)
  · obtain ⟨ks, k, rfl⟩ := (List.eq_nil_or_concat' core).resolve_left hne
    have hk : k ≠ [] := by simpa using hlast k (by simp)
    rw [getLast?_unlines_concat hk]
    exact fun c hc => hkeep k (by simp) c (List.mem_of_mem_getLast? hc)

end Ends

/-! ## Snippets -/

section Snippets

variable {cs margin l : List Char} {out core : List (List Char)}

/-- The lines of a snippet, those of blanks and tabs only empty. -/
theorem mem_lines_of_content (hl : l ∈ (lines cs).map contentOf) (hne : l ≠ []) :
    l ∈ lines cs ∧ contentOf l = l := by
  obtain ⟨k, hk, rfl⟩ := List.mem_map.mp hl
  rw [contentOf_eq_self hne]
  exact ⟨hk, contentOf_eq_self hne⟩

/-- A snippet is taken off its margin line by line, and the empty lines at its ends go; what is
left of it are some lines from which the margin is dropped. -/
structure TakenOff (cs margin : List Char) (core : List (List Char)) : Prop where
  trimmed : Trimmed List.isEmpty ((lines cs).map contentOf) core
  text_eq : trimLineFeeds (dedent cs) = unlines (core.map (·.drop margin.length))
  free : ∀ l ∈ core.map (·.drop margin.length), '\n' ∉ l
  content : ∀ l ∈ core, l ≠ [] →
    l ∈ lines cs ∧ contentOf l = l ∧ margin <+: l.takeWhile isIndent

theorem exists_takenOff (cs : List Char) :
    ∃ core, TakenOff cs (sharedMargin ((lines cs).map contentOf)) core := by
  set cleared := (lines cs).map contentOf
  set margin := sharedMargin cleared
  have hcontent : ∀ l ∈ cleared, l ≠ [] →
      l ∈ lines cs ∧ contentOf l = l ∧ margin <+: l.takeWhile isIndent := by
    intro l hl hne
    obtain ⟨hmem, hself⟩ := mem_lines_of_content hl hne
    exact ⟨hmem, hself, (isMargin_sharedMargin ⟨l, hl, hne⟩).shared l hl hne⟩
  have hempty : ∀ l ∈ cleared, (l.drop margin.length).isEmpty = l.isEmpty := by
    intro l hl
    by_cases hne : l = []
    · simp [hne]
    · obtain ⟨_, hself, hprefix⟩ := hcontent l hl hne
      have hdrop := drop_ne_nil_of_content (hself.symm ▸ hne) hprefix
      rw [hself] at hdrop
      rw [List.isEmpty_eq_false_iff.mpr hne, List.isEmpty_eq_false_iff]
      exact hdrop
  have hfree : ∀ l ∈ cleared.map (·.drop margin.length), '\n' ∉ l := by
    rw [List.forall_mem_map]
    intro l hl hmem
    have hmem := List.mem_of_mem_drop hmem
    exact not_mem_of_mem_lines l (hcontent l hl (List.ne_nil_of_mem hmem)).1 hmem
  have hdedent : dedent cs = unlines (cleared.map (·.drop margin.length)) := by
    rw [dedent, dedentLines, clearBlankLines_eq]
  obtain ⟨core, htrimmed⟩ : ∃ core, Trimmed List.isEmpty cleared core :=
    ⟨_, trimmed_dropWhile _ _⟩
  have hmem : ∀ l ∈ core, l ∈ cleared := by
    obtain ⟨⟨front, back, heq, _, _⟩, _, _⟩ := htrimmed
    intro l hl
    rw [heq]
    exact List.mem_append_left _ (List.mem_append_right _ hl)
  refine ⟨core, htrimmed, ?_, ?_, fun l hl => hcontent l (hmem l hl)⟩
  · rw [hdedent, trimLineFeeds_unlines (htrimmed.map hempty) hfree]
  · rw [List.forall_mem_map] at hfree ⊢
    exact fun l hl => hfree l (hmem l hl)

/-- Lines with content are left, whatever is dropped. -/
theorem TakenOff.mem_core (h : TakenOff cs margin core) (hl : l ∈ lines cs)
    (hne : contentOf l ≠ []) : l ∈ core := by
  obtain ⟨front, back, hwhole, hfront, hback⟩ := h.trimmed.around
  have hmem : l ∈ (lines cs).map contentOf :=
    contentOf_eq_self hne ▸ List.mem_map_of_mem (f := contentOf) hl
  have hnil : l ≠ [] := contentOf_eq_self hne ▸ hne
  rw [hwhole, List.mem_append, List.mem_append] at hmem
  rcases hmem with (hmem | hmem) | hmem
  · exact absurd (List.isEmpty_iff.mp (hfront l hmem)) hnil
  · exact hmem
  · exact absurd (List.isEmpty_iff.mp (hback l hmem)) hnil

/-- A text with code in it has a line with content. -/
theorem exists_content_of_hasCode {code : String} (h : hasCode (some code) = true) :
    ∃ l ∈ lines code.toList, contentOf l ≠ [] := by
  obtain ⟨c, hc, hblank⟩ := List.any_eq_true.mp h
  have hindent : isIndent c ≠ true := by
    rw [Ne, isIndent_iff]
    rintro (rfl | rfl) <;> exact absurd hblank (by decide)
  have hfeed : c ≠ '\n' := by
    rintro rfl
    exact absurd hblank (by decide)
  obtain ⟨l, hl, hcl⟩ := exists_line_of_mem hc hfeed
  exact ⟨l, hl, fun hnil => hindent (contentOf_eq_nil_iff.mp hnil c hcl)⟩

/-- The lines that a snippet is taken off its margin to are those that it is to be spliced as,
and there are no others. -/
theorem isSplice_iff (hcontent : ∃ l ∈ lines cs, contentOf l ≠ []) :
    IsSplice cs out ↔ out = lines (trimLineFeeds (dedent cs)) := by
  obtain ⟨core, htaken⟩ := exists_takenOff cs
  obtain ⟨k, hk, hkne⟩ := hcontent
  have hmargin := isMargin_sharedMargin ⟨_, List.mem_map_of_mem hk, hkne⟩
  set margin := sharedMargin ((lines cs).map contentOf)
  have hne : core ≠ [] := List.ne_nil_of_mem (htaken.mem_core hk hkne)
  rw [htaken.text_eq, lines_unlines htaken.free (by simpa using hne)]
  constructor
  · rintro ⟨margin', core', hmargin', htrimmed', hout⟩
    obtain rfl : margin' = margin := hmargin'.eq hmargin
    obtain rfl : core' = core := 
      (trimmed_iff.mp htrimmed').symm.trans (trimmed_iff.mp htaken.trimmed)
    have hdrop : List.Forall₂ (fun l o => l.drop margin.length = o) core' out := by
      refine hout.imp fun l o hlo => ?_
      rcases hlo with ⟨rfl, rfl⟩ | ⟨_, rfl⟩
      · exact List.drop_nil
      · exact List.drop_left
    rw [← List.forall₂_map_left_iff, List.forall₂_eq_eq_eq] at hdrop
    exact hdrop.symm
  · rintro rfl
    refine ⟨margin, core, hmargin, htaken.trimmed, ?_⟩
    rw [List.forall₂_map_right_iff, List.forall₂_same]
    intro l hl
    by_cases hnil : l = []
    · exact .inl ⟨hnil, by rw [hnil, List.drop_nil]⟩
    · refine .inr ⟨hnil, ?_⟩
      obtain ⟨rest, hrest⟩ := (htaken.content l hl hnil).2.2.trans (List.takeWhile_prefix isIndent)
      rw [← hrest, List.drop_left]

end Snippets

end LalrBackend.Text
