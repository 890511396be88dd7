import CrateDocs.Proofs.Text.Lines
import CrateDocs.Proofs.Text.Split
import CrateDocs.Proofs.View.Wrap
import CrateDocs.View.Render
import Mathlib.Data.List.DropRight

/-!
The lines of blocks. Code that is not highlighted is written as prose is, so that the lines of every
block are those of its glyphs, wrapped to the width, or shifted and wrapped to the rest of it.
-/

namespace CrateDocs.View

def Block.text : Block → String
  | .title s => s
  | .heading _ s => s
  | .prose _ s => s
  | .code _ s => s
  | .blank => ""

def Block.content : Block → List Glyph
  | .title s => glyphs 1 (dropControls s.toList)
  | .heading n s => glyphs 0 (List.replicate n ' ') ++ glyphs 1 (dropControls s.toList)
  | .prose _ s => glyphs 0 (dropControls (Text.trimEnd s.toList))
  | .code _ s => glyphs 0 (dropControls (Text.trimEnd s.toList))
  | .blank => []

/-- How far the lines of a block are shifted, if it is wrapped to the rest of the width. -/
def Block.shift? : Block → Option Nat
  | .prose n _ => some n
  | .code n _ => some n
  | _ => none

variable {st : Style} {width : Nat} {b : Block} {l : List Glyph}

theorem wrap_nil (cells : Nat) : wrap cells [] = [[]] := by
  simp [wrap, splitLines, wrapLine, expandTabs, breaks, words, cutAt, trimExcess, truncate, charsOf,
    Text.width, Text.widthFrom]

theorem Block.lines_eq (h : st.highlighted = false) (width : Nat) (b : Block) :
    b.lines st width = match b.shift? with
      | some n => indented width n b.content
      | none => wrap width b.content := by
  cases b with
  | title s => rfl
  | heading n s => rfl
  | prose n s => rfl
  | code n s => simp [Block.lines, h, Block.shift?, Block.content]
  | blank => exact (wrap_nil width).symm

theorem isPrefix_trimmed (gs : List Glyph) : trimmed gs <+: gs :=
  List.rdropWhile_prefix (fun g : Glyph => Text.isBlank g.char) gs

theorem exists_of_mem_indented {n : Nat} {gs : List Glyph} (h : l ∈ indented width n gs) :
    l = [] ∨ ∃ k ∈ wrap (max (width - n) leastWidth) gs,
      l = glyphs 0 (List.replicate n ' ') ++ trimmed (crop (max (width - n) leastWidth) k) := by
  obtain ⟨k, hk, hl⟩ := List.mem_map.mp h
  split at hl
  · exact .inl hl.symm
  · exact .inr ⟨k, hk, hl.symm⟩

theorem IsStable.lines {P : Glyph → Prop} (hP : IsStable P) (hst : st.highlighted = false)
    (h : ∀ g ∈ b.content, g.char ≠ '\n' → P g) (hl : l ∈ b.lines st width) : ∀ g ∈ l, P g := by
  rw [Block.lines_eq hst] at hl
  split at hl
  · next n _ =>
    rcases exists_of_mem_indented hl with rfl | ⟨k, hk, rfl⟩
    · simp
    · intro g hg
      rcases List.mem_append.mp hg with hg | hg
      · obtain ⟨c, hc, rfl⟩ := List.mem_map.mp hg
        rw [(List.mem_replicate.mp hc).2]
        exact hP.space
      · exact hP.crop (hP.wrap h hk) g ((isPrefix_trimmed _).subset hg)
  · exact hP.wrap h hl

theorem feed_not_mem_lines (hst : st.highlighted = false) (hl : l ∈ b.lines st width) :
    '\n' ∉ charsOf l := by
  have hstable : IsStable fun g => g.char ≠ '\n' := isStable_char (Q := (· ≠ '\n')) (by decide)
  intro hmem
  obtain ⟨g, hg, hfeed⟩ := List.mem_map.mp hmem
  exact hstable.lines hst (fun _ _ h => h) hl g hg hfeed

theorem mem_glyphs {g : Glyph} {run : Nat} {s : List Char} (h : g ∈ glyphs run s) :
    g.char ∈ s ∧ g.run = run := by
  obtain ⟨c, hc, rfl⟩ := List.mem_map.mp h
  exact ⟨hc, rfl⟩

theorem mem_content {g : Glyph} (h : g ∈ b.content) : g.char = ' ' ∨ g.char ∈ b.text.toList := by
  cases b with
  | title s => exact .inr (List.mem_of_mem_filter (mem_glyphs h).1)
  | heading n s =>
    rcases List.mem_append.mp h with h | h
    · exact .inl (List.mem_replicate.mp (mem_glyphs h).1).2
    · exact .inr (List.mem_of_mem_filter (mem_glyphs h).1)
  | prose n s =>
    exact .inr ((Text.isPrefix_trimEnd _).subset (List.mem_of_mem_filter (mem_glyphs h).1))
  | code n s =>
    exact .inr ((Text.isPrefix_trimEnd _).subset (List.mem_of_mem_filter (mem_glyphs h).1))
  | blank => cases h

theorem mem_lines {c : Char} (hst : st.highlighted = false) (hl : l ∈ b.lines st width)
    (hc : c ∈ charsOf l) : c = ' ' ∨ c ∈ b.text.toList := by
  have hstable : IsStable fun g => g.char = ' ' ∨ g.char ∈ b.text.toList :=
    isStable_char (Q := fun c => c = ' ' ∨ c ∈ b.text.toList) (.inl rfl)
  obtain ⟨g, hg, rfl⟩ := List.mem_map.mp hc
  exact hstable.lines hst (fun g hg _ => mem_content hg) hl g hg

theorem charsOf_flatten (gs : List (List Glyph)) : charsOf gs.flatten = gs.flatMap charsOf := by
  rw [charsOf, List.map_flatten, List.flatMap_def]
  rfl

theorem writeLine_plain (gs : List Glyph) : writeLine none gs = charsOf gs := by
  have hruns : (gs.splitBy fun a b => a.run == b.run).flatten = gs := List.flatten_splitBy _ gs
  calc writeLine none gs = (gs.splitBy fun a b => a.run == b.run).flatMap charsOf := rfl
    _ = charsOf (gs.splitBy fun a b => a.run == b.run).flatten := (charsOf_flatten _).symm
    _ = charsOf gs := congrArg charsOf hruns

theorem write_plain (width : Nat) (b : Block) :
    b.write ⟨false, false⟩ width = Text.unlines ((b.lines ⟨false, false⟩ width).map charsOf) := by
  have hnone : b.rendition? ⟨false, false⟩ = none := by cases b <;> rfl
  rw [Block.write, Text.unlines, List.flatMap_map, hnone]
  simp only [writeLine_plain]

end CrateDocs.View
