import CrateDocs.Index.Wrapper
import CrateDocs.Proofs.Text.Split

/-!
What a script has, told from its lines. The first line that starts an index counts, whatever comes
before it or after its end; without such a line the first line that has a text between its quotes does.
-/

namespace CrateDocs.Index.Wrapper

variable {line text : List Char} {ls r : List (List Char)}

/-- A line with a text between its quotes. A semicolon and blanks may follow. -/
def IsOneLine (line text : List Char) : Prop :=
  ∃ semicolon blanks, (semicolon = [] ∨ semicolon = [';']) ∧
    (∀ c ∈ blanks, Text.isBlank c = true) ∧
      line = opening ++ (text ++ ['\'', ')'] ++ semicolon ++ blanks)

theorem onOneLine?_eq_some_iff : onOneLine? line = some text ↔ IsOneLine line text := by
  constructor
  · intro h
    unfold onOneLine? at h
    split at h
    · next hp =>
      obtain ⟨r, rfl⟩ := List.isPrefixOf_iff_prefix.mp hp
      rw [List.drop_left] at h
      -- The ending is taken off from the back: blanks, a semicolon if there is one, then the quote
      -- and the parenthesis.
      obtain ⟨blanks, hr, hblanks⟩ := Text.exists_trimEnd_append r
      dsimp only at h
      split at h
      · next t ht =>
        obtain rfl := Option.some.inj h
        split at ht
        · next u hu =>
          have htrim : Text.trimEnd r = t.reverse ++ ['\'', ')'] ++ [';'] := by
            rw [← List.reverse_inj, hu, ht]
            simp
          exact ⟨[';'], blanks, .inr rfl, hblanks, by rw [← htrim, ← hr]⟩
        · have htrim : Text.trimEnd r = t.reverse ++ ['\'', ')'] ++ [] := by
            rw [← List.reverse_inj, ht]
            simp
          exact ⟨[], blanks, .inl rfl, hblanks, by rw [← htrim, ← hr]⟩
      · cases h
    · cases h
  · rintro ⟨semicolon, blanks, hsemicolon, hblanks, rfl⟩
    have htrim : Text.trimEnd (text ++ ['\'', ')'] ++ semicolon) =
        text ++ ['\'', ')'] ++ semicolon := by
      rcases hsemicolon with rfl | rfl
      · have hlast : text ++ ['\'', ')'] ++ [] = (text ++ ['\'']) ++ [')'] := by simp
        rw [hlast, Text.trimEnd_concat (by decide)]
      · exact Text.trimEnd_concat (by decide)
    rw [onOneLine?, if_pos (List.isPrefixOf_iff_prefix.mpr (List.prefix_append _ _)),
      List.drop_left, Text.trimEnd_append_blanks hblanks, htrim]
    rcases hsemicolon with rfl | rfl <;> simp

theorem onOneLine?_eq_none_iff : onOneLine? line = none ↔ ∀ text, ¬IsOneLine line text := by
  rw [Option.eq_none_iff_forall_ne_some]
  exact forall_congr' fun text => not_congr onOneLine?_eq_some_iff

theorem afterStart?_eq_none_iff : afterStart? ls = none ↔ startLine ∉ ls := by
  induction ls with
  | nil => simp [afterStart?]
  | cons l t ih =>
    rw [afterStart?]
    split
    · next h => simp [h]
    · next h => simp [ih, Ne.symm h]

theorem afterStart?_append {before : List (List Char)} (h : startLine ∉ before)
    (r : List (List Char)) : afterStart? (before ++ startLine :: r) = some r := by
  induction before with
  | nil => rw [List.nil_append, afterStart?, if_pos rfl]
  | cons l t ih =>
    obtain ⟨hl, ht⟩ := List.ne_and_not_mem_of_not_mem_cons h
    rw [List.cons_append, afterStart?, if_neg hl.symm, ih ht]

theorem body?_eq_none_iff : body? ls = none ↔ endLine ∉ ls := by
  induction ls with
  | nil => simp [body?]
  | cons l t ih =>
    rw [body?]
    split
    · next h => simp [h]
    · next h => simp [ih, Ne.symm h]

theorem body?_append {body : List (List Char)} (h : endLine ∉ body) (after : List (List Char)) :
    body? (body ++ endLine :: after) = some (body.flatMap dropContinuation ++ ['\x7d']) := by
  induction body with
  | nil => simp [body?]
  | cons l t ih =>
    obtain ⟨hl, ht⟩ := List.ne_and_not_mem_of_not_mem_cons h
    rw [List.cons_append, body?, if_neg hl.symm, ih ht]
    simp

/-- Lines with neither a start nor a text on one line. -/
def HasNoIndex (ls : List (List Char)) : Prop :=
  startLine ∉ ls ∧ ∀ l ∈ ls, ∀ text, ¬IsOneLine l text

/-- Lines with a start but no end after it. -/
def IsUnterminated (ls : List (List Char)) : Prop :=
  ∃ before after, startLine ∉ before ∧ endLine ∉ after ∧ ls = before ++ startLine :: after

/-- The text that some lines have, still quoted. -/
inductive Carries : List (List Char) → List Char → Prop
  | lines {before body after : List (List Char)} (hbefore : startLine ∉ before)
      (hbody : endLine ∉ body) :
      Carries (before ++ startLine :: (body ++ endLine :: after))
        ('\x7b' :: (body.flatMap dropContinuation ++ ['\x7d']))
  | line {before after : List (List Char)} {line text : List Char}
      (hstart : startLine ∉ before ++ line :: after) (hbefore : ∀ l ∈ before, ∀ t, ¬IsOneLine l t)
      (h : IsOneLine line text) : Carries (before ++ line :: after) text

theorem content_of_hasNoIndex (h : HasNoIndex ls) : content ls = .nothing := by
  have hline : ls.findSome? onOneLine? = none :=
    List.findSome?_eq_none_iff.mpr fun l hl => onOneLine?_eq_none_iff.mpr (h.2 l hl)
  simp only [content, afterStart?_eq_none_iff.mpr h.1, hline]

theorem content_of_isUnterminated (h : IsUnterminated ls) : content ls = .unterminated := by
  obtain ⟨before, after, hbefore, hafter, rfl⟩ := h
  simp only [content, afterStart?_append hbefore, body?_eq_none_iff.mpr hafter]

theorem content_of_carries (h : Carries ls text) : ∃ layout, content ls = .found layout text := by
  cases h with
  | lines hbefore hbody =>
    exact ⟨"multi-line", by simp only [content, afterStart?_append hbefore, body?_append hbody]⟩
  | @line before after line _ hstart hbefore h =>
    have hline : (before ++ line :: after).findSome? onOneLine? = some text :=
      List.findSome?_eq_some_iff.mpr ⟨before, line, after, rfl, onOneLine?_eq_some_iff.mpr h,
        fun l hl => onOneLine?_eq_none_iff.mpr (hbefore l hl)⟩
    exact ⟨"single-line", by simp only [content, afterStart?_eq_none_iff.mpr hstart, hline]⟩

theorem exists_shape (ls : List (List Char)) :
    HasNoIndex ls ∨ IsUnterminated ls ∨ ∃ text, Carries ls text := by
  by_cases hstart : startLine ∈ ls
  · obtain ⟨before, after, rfl, hbefore⟩ := List.eq_append_cons_of_mem hstart
    by_cases hend : endLine ∈ after
    · obtain ⟨body, rest, rfl, hbody⟩ := List.eq_append_cons_of_mem hend
      exact .inr (.inr ⟨_, .lines hbefore hbody⟩)
    · exact .inr (.inl ⟨before, after, hbefore, hend, rfl⟩)
  · cases hline : ls.findSome? onOneLine? with
    | none =>
      have hnone := List.findSome?_eq_none_iff.mp hline
      exact .inl ⟨hstart, fun l hl => onOneLine?_eq_none_iff.mp (hnone l hl)⟩
    | some text =>
      obtain ⟨before, line, after, rfl, htext, hbefore⟩ := List.findSome?_eq_some_iff.mp hline
      exact .inr (.inr ⟨text, .line hstart (fun l hl => onOneLine?_eq_none_iff.mp (hbefore l hl))
        (onOneLine?_eq_some_iff.mp htext)⟩)

end CrateDocs.Index.Wrapper
