import CrateDocs.Proofs.View.Blocks
import CrateDocs.Proofs.View.Lines
import CrateDocs.View.Viewer

/-!
How wide the lines of plain documents are. A shifted text is wrapped to the rest of the line, but to
no less than ten cells. All texts of a document fit into twenty cells that way, except for what is
told of the members of a group with a title: that is shifted so far that it takes twenty-two.
-/

namespace CrateDocs

namespace View

variable {width n cells : Nat} {gs l : List Glyph} {b : Block} {d : Doc}

def WrapsToFit (gs : List Glyph) : Prop :=
  ∀ cells, leastWidth ≤ cells → ∀ l ∈ wrap cells gs, Text.width (charsOf l) ≤ cells

theorem wrapsToFit_of_hasNoJoined (h : HasNoJoined (charsOf gs)) : WrapsToFit gs :=
  fun _ _ _ hl => width_le_of_mem_wrap h hl

theorem crop_eq_self (hrun : ∀ g ∈ gs, g.run = 0) (h : Text.width (charsOf gs) ≤ cells) :
    crop cells gs = gs := by
  have hsize : (gs.splitBy fun a b => a.run == b.run).foldl
      (fun n p => n + Text.width (charsOf p)) 0 ≤ cells := by
    by_cases hgs : gs = []
    · subst hgs
      exact Nat.zero_le _
    · have hchain : gs.IsChain fun a b => (a.run == b.run) = true :=
        (List.pairwise_of_forall_mem_list fun a ha b hb => by simp [hrun a ha, hrun b hb]).isChain
      rw [List.splitBy_of_isChain hgs hchain]
      simpa using h
  rw [crop]
  exact if_pos hsize

theorem width_indented_le (hrun : ∀ g ∈ gs, g.run = 0) (hwrap : WrapsToFit gs)
    (hl : l ∈ indented width n gs) : Text.width (charsOf l) ≤ max width (n + leastWidth) := by
  rcases exists_of_mem_indented hl with rfl | ⟨k, hk, rfl⟩
  · exact Nat.zero_le _
  · have hkrun := isStable_run.wrap (fun g hg _ => hrun g hg) hk
    have hfit := hwrap _ (Nat.le_max_right _ _) k hk
    have htrim : Text.width (charsOf (trimmed k)) ≤ Text.width (charsOf k) :=
      Text.width_le_of_prefix ((isPrefix_trimmed k).map Glyph.char)
    have hspaces : charsOf (glyphs 0 (List.replicate n ' ')) = List.replicate n ' ' := by
      simp [charsOf, glyphs]
    rw [crop_eq_self hkrun hfit, charsOf_append, hspaces, Text.width_spaces_append]
    omega

theorem run_of_mem_content (h : b.shift? = some n) : ∀ g ∈ b.content, g.run = 0 := by
  intro g hg
  cases b with
  | title s => cases h
  | heading m s => cases h
  | prose m s => exact (mem_glyphs hg).2
  | code m s => exact (mem_glyphs hg).2
  | blank => cases h

theorem width_lines_le (hwrap : WrapsToFit b.content) (hwidth : leastWidth ≤ width)
    (hl : l ∈ b.lines ⟨false, false⟩ width) :
    Text.width (charsOf l) ≤ max width (b.shift?.getD 0 + leastWidth) := by
  rw [Block.lines_eq rfl] at hl
  split at hl
  · next n hn =>
    rw [hn]
    exact width_indented_le (run_of_mem_content hn) hwrap hl
  · exact (hwrap width hwidth l hl).trans (Nat.le_max_left _ _)

/-- A block that tells of a member of a group with a title. -/
def IsTitledSummary (d : Doc) (b : Block) : Prop :=
  ∃ g ∈ d.allGroups, isTitled g = true ∧ ∃ m ∈ g.members, ∃ p, m.description = some p ∧
    b = .prose (step + step + step) (firstLine p.plain)

theorem shift_of_isBlockOf {width : Int} (h : IsBlockOf width d b) :
    b.shift?.getD 0 ≤ step + step ∨
      IsTitledSummary d b ∧ b.shift?.getD 0 = step + step + step := by
  cases h with
  | title | blank | label | definition | description | kind | groupTitle =>
    exact .inl (by simp [Block.shift?])
  | @member g m hg hm =>
    refine .inl ?_
    rw [Block.shift?, Option.getD_some, memberIndent]
    split <;> decide
  | @summary g m p hg hm hp =>
    rw [memberIndent]
    split
    · next htitled => exact .inr ⟨⟨g, hg, htitled, m, hm, p, hp, rfl⟩, rfl⟩
    · exact .inl le_rfl

theorem width_docBlocks_le {width : Int} (hwidth : 20 ≤ width)
    (hwrap : ∀ b ∈ docBlocks width d, WrapsToFit b.content) (hb : b ∈ docBlocks width d)
    (hl : l ∈ b.lines ⟨false, false⟩ width.toNat) :
    Text.width (charsOf l) ≤ width ∨ Text.width (charsOf l) ≤ 22 ∧ IsTitledSummary d b := by
  have hleast : leastWidth ≤ width.toNat := by
    unfold leastWidth
    omega
  have hline := width_lines_le (hwrap b hb) hleast hl
  rcases shift_of_isBlockOf (isBlockOf_of_mem hb) with hshift | ⟨hsummary, hshift⟩
  · refine .inl ?_
    simp only [leastWidth, step] at hline hshift
    omega
  · by_cases hfits : Text.width (charsOf l) ≤ width
    · exact .inl hfits
    · refine .inr ⟨?_, hsummary⟩
      simp only [leastWidth, step] at hline hshift
      omega

def plainLines (width : Nat) (bs : List Block) : List (List Char) :=
  bs.flatMap fun b => (b.lines ⟨false, false⟩ width).map charsOf

theorem toList_write_plain {width : Int} (h : 1 ≤ width) (bs : List Block) :
    (write ⟨false, false⟩ width bs).toList =
      Text.unlines (plainLines width.toNat (dropFinalBlanks bs)) := by
  have hblocks : Block.write ⟨false, false⟩ width.toNat = fun b =>
      Text.unlines ((b.lines ⟨false, false⟩ width.toNat).map charsOf) :=
    funext (write_plain width.toNat)
  rw [write, if_neg (by omega), String.toList_ofList, hblocks, plainLines, Text.unlines,
    List.flatMap_assoc]
  rfl

theorem splitOn_write_plain {width : Int} (h : 1 ≤ width) (bs : List Block) :
    (write ⟨false, false⟩ width bs).toList.splitOn '\n' =
      plainLines width.toNat (dropFinalBlanks bs) ++ [[]] := by
  rw [toList_write_plain h]
  refine Text.splitOn_unlines fun l hl => ?_
  obtain ⟨b, -, hl⟩ := List.mem_flatMap.mp hl
  obtain ⟨k, hk, rfl⟩ := List.mem_map.mp hl
  exact feed_not_mem_lines rfl hk

end View

namespace Viewer

open View

theorem showDoc_fits {standard : String} {o : Options} {plain : Viewer}
    (hplain : named standard plainName o = .ok plain) (d : Doc) (hwidth : 20 ≤ o.width)
    (hwrap : ∀ b ∈ docBlocks o.width d, WrapsToFit b.content) {l : List Char}
    (hl : l ∈ (plain.showDoc d).toList.splitOn '\n') :
    Text.width l ≤ o.width ∨ Text.width l ≤ 22 ∧
      ∃ b, IsTitledSummary d b ∧ l ∈ plainLines o.width.toNat [b] := by
  cases hplain
  have hpos : 1 ≤ o.width := by omega
  have hlines : l ∈ (write ⟨false, false⟩ o.width (docBlocks o.width d)).toList.splitOn '\n' := hl
  rw [splitOn_write_plain hpos] at hlines
  rcases List.mem_append.mp hlines with hl | hl
  · obtain ⟨b, hb, hl⟩ := List.mem_flatMap.mp hl
    obtain ⟨k, hk, rfl⟩ := List.mem_map.mp hl
    have hb' : b ∈ docBlocks o.width d := mem_of_mem_dropFinalBlanks hb
    refine (width_docBlocks_le hwidth hwrap hb' hk).imp_right fun ⟨hle, hsummary⟩ => ?_
    exact ⟨hle, b, hsummary, by simpa [plainLines] using ⟨k, hk, rfl⟩⟩
  · rw [List.mem_singleton.mp hl]
    exact .inl (by simp [Text.width, Text.widthFrom]; omega)

def summaryDoc : Doc :=
  ⟨⟨"a::S"⟩, .struct, none, none,
    [(.method, [⟨some "impl S", [.leaf ⟨"a::S::f"⟩ .method none (some ⟨"Understands.", ""⟩)]⟩])],
    none⟩

theorem wrapsToFit_summaryDoc : ∀ b ∈ docBlocks 20 summaryDoc, WrapsToFit b.content := by
  have hjoined : ∀ b ∈ docBlocks 20 summaryDoc, HasNoJoined (charsOf b.content) := by
    decide +kernel
  exact fun b hb => wrapsToFit_of_hasNoJoined (hjoined b hb)

theorem showDoc_fits_summaryDoc :
    (named "monokai" plainName ⟨20, none, false⟩ = .ok ⟨false, 20, false, ""⟩ ∧
      ∀ b ∈ docBlocks 20 summaryDoc, WrapsToFit b.content) ∧
    ∀ l ∈ ((⟨false, 20, false, ""⟩ : Viewer).showDoc summaryDoc).toList.splitOn '\n',
      Text.width l ≤ (20 : Int) ∨ Text.width l ≤ 22 ∧
        ∃ b, IsTitledSummary summaryDoc b ∧ l ∈ plainLines 20 [b] := by
  have hplain : named "monokai" plainName ⟨20, none, false⟩ = .ok ⟨false, 20, false, ""⟩ := rfl
  refine ⟨⟨hplain, wrapsToFit_summaryDoc⟩, fun l hl => ?_⟩
  exact showDoc_fits hplain summaryDoc (by decide) wrapsToFit_summaryDoc hl

/-- A summary that is written two cells wider than a line of twenty. -/
theorem not_showDoc_fits_summaryDoc :
    ¬∀ (d : Doc) (width : Int), 20 ≤ width → width ≤ 1000 →
      (∀ b ∈ docBlocks width d, WrapsToFit b.content) →
      ∀ l ∈ (((⟨false, width, false, ""⟩ : Viewer).showDoc d).toList.splitOn '\n').tail,
        Text.width l ≤ width := by
  intro hall
  have hline : "            Understand".toList ∈
      (((⟨false, 20, false, ""⟩ : Viewer).showDoc summaryDoc).toList.splitOn '\n').tail := by
    decide +kernel
  have hle := hall summaryDoc 20 (by decide) (by decide) wrapsToFit_summaryDoc _ hline
  exact absurd hle (by decide +kernel)

end Viewer

end CrateDocs
