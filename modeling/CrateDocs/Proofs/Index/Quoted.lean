import CrateDocs.Proofs.Index.Wrapper
import CrateDocs.Proofs.Json.Ending

/-!
Scripts that have their index on one line. The quotation may go over line ends, but the script is cut
into lines at them: a text without line ends is read back, and a text with one is lost. Then the first
line has no text, or a text that breaks off after a backslash, and no other line looks like a start.
-/

namespace CrateDocs.Index

open Text (HasNoEnd isLineEnd)

namespace Wrapper

variable {line text before after : List Char}

theorem escape_cons (c : Char) (s : List Char) : escape (c :: s) = escape [c] ++ escape s :=
  escape_append [c] s

theorem escape_singleton {c : Char} (h : isLineEnd c = true) : escape [c] = [c] := by
  have hc : ¬(c = '\\' ∨ c = '\'') := by
    rintro (rfl | rfl) <;> exact absurd h (by decide)
  simp [escape, hc]

theorem mem_escape {c : Char} (h : c ∈ escape text) : c = '\\' ∨ c ∈ text := by
  obtain ⟨d, hd, hm⟩ := List.mem_flatMap.mp h
  split at hm
  · simp only [List.mem_cons, List.not_mem_nil, or_false] at hm
    rcases hm with hm | hm
    · exact .inl hm
    · exact .inr (hm ▸ hd)
  · exact .inr (List.mem_singleton.mp hm ▸ hd)

theorem not_mem_escape {c : Char} (hc : c ≠ '\\') (h : c ∉ text) : c ∉ escape text := by
  intro hm
  rcases mem_escape hm with he | hm
  · exact hc he
  · exact h hm

theorem hasNoEnd_escape (h : HasNoEnd text) : HasNoEnd (escape text) := by
  intro c hc
  rcases mem_escape hc with rfl | hc
  · decide
  · exact h c hc

theorem unescape_escape_append (s t : List Char) : unescape (escape s ++ t) = s ++ unescape t := by
  induction s with
  | nil => rfl
  | cons c r ih =>
    rw [escape_cons, List.append_assoc]
    by_cases hc : c = '\\' ∨ c = '\''
    · have he : escape [c] = ['\\', c] := by simp [escape, hc]
      rw [he, List.cons_append, List.singleton_append, unescape, ih]
      rfl
    · have he : escape [c] = [c] := by simp [escape, hc]
      rw [he, List.singleton_append, unescape, ih]
      · rfl
      · intro d t hd
        exact absurd (.inl hd) hc

theorem escape_eq_append_quote (h : escape text = before ++ '\'' :: after) :
    ∃ s, before = escape s ++ ['\\'] := by
  induction text generalizing before with
  | nil => simp [escape] at h
  | cons c r ih =>
    rw [escape_cons] at h
    -- An escaped character takes two places, and the quote is the second one of such a pair.
    by_cases hc : c = '\\' ∨ c = '\''
    · have he : escape [c] = ['\\', c] := by simp [escape, hc]
      rw [he] at h
      rcases before with _ | ⟨a, _ | ⟨b, before⟩⟩
      · cases h
      · cases h
        exact ⟨[], rfl⟩
      · simp only [List.cons_append, List.nil_append, List.cons.injEq] at h
        obtain ⟨ha, hb, h⟩ := h
        obtain ⟨s, hs⟩ := ih h
        refine ⟨c :: s, ?_⟩
        rw [escape_cons, he, hs, ← ha, ← hb]
        rfl
    · have he : escape [c] = [c] := by simp [escape, hc]
      rw [he] at h
      rcases before with _ | ⟨a, before⟩
      · obtain ⟨rfl, -⟩ := List.cons.inj h
        exact absurd (.inr rfl) hc
      · simp only [List.cons_append, List.nil_append, List.cons.injEq] at h
        obtain ⟨ha, h⟩ := h
        obtain ⟨s, hs⟩ := ih h
        refine ⟨c :: s, ?_⟩
        rw [escape_cons, he, hs, ← ha]
        rfl

theorem exists_of_onOneLine? (h : onOneLine? line = some text) :
    ∃ rest, line = opening ++ (text ++ '\'' :: ')' :: rest) := by
  obtain ⟨semicolon, blanks, -, -, hline⟩ := onOneLine?_eq_some_iff.mp h
  exact ⟨semicolon ++ blanks, by simpa using hline⟩

def IsSilent (line : List Char) : Prop := line ≠ startLine ∧ onOneLine? line = none

theorem isSilent_of_not_prefix (h : ¬opening <+: line) : IsSilent line := by
  constructor
  · rintro rfl
    exact h (List.prefix_append _ _)
  · rw [onOneLine?, if_neg]
    rwa [List.isPrefixOf_iff_prefix]

theorem not_opening_prefix_escape (text : List Char) : ¬opening <+: escape text := by
  rintro ⟨rest, h⟩
  have hopening : opening = opening.dropLast ++ ['\''] := by decide
  rw [hopening, List.append_assoc] at h
  obtain ⟨s, hs⟩ := escape_eq_append_quote h.symm
  have hmem : '\\' ∈ opening.dropLast := by
    rw [hs]
    simp
  exact absurd hmem (by decide)

theorem isSilent_escape (text : List Char) : IsSilent (escape text) :=
  isSilent_of_not_prefix (not_opening_prefix_escape text)

theorem isSilent_escape_end (text : List Char) : IsSilent (escape text ++ "');".toList) := by
  have hlast : (escape text ++ "');".toList).getLast? = some ';' := by
    rw [List.getLast?_append]
    rfl
  refine ⟨ne_startLine_of_getLast? hlast, ?_⟩
  rw [Option.eq_none_iff_forall_ne_some]
  intro t ht
  obtain ⟨rest, hrest⟩ := exists_of_onOneLine? ht
  have hshort : (escape text).length < opening.length := by
    by_contra hle
    have hp : opening <+: escape text ++ "');".toList := ⟨_, hrest.symm⟩
    exact not_opening_prefix_escape text
      (List.prefix_of_prefix_length_le hp (List.prefix_append _ _) (by omega))
  -- Nothing is left for the text on the line, nor for the semicolon after it.
  have hlength := congrArg List.length hrest
  simp only [List.length_append, List.length_cons] at hlength
  have hthree : "');".toList.length = 3 := rfl
  have hnil : rest = [] := List.length_eq_zero_iff.mp (by omega)
  rw [hrest, hnil] at hlast
  simp at hlast

theorem isSilent_of_mem_linesFrom (h : '\r' ∉ text) (s : List Char) :
    ∀ line ∈ Text.linesFrom (escape s).reverse (escape text ++ "');\n".toList),
      IsSilent line := by
  -- By induction on the text. `s` is what the current line has of it already.
  induction text generalizing s with
  | nil =>
    intro line hline
    have hend : HasNoEnd "');".toList := by decide
    have hlines : Text.linesFrom (escape s).reverse "');\n".toList =
        [escape s ++ "');".toList] := by
      have happend := Text.linesFrom_append hend (escape s).reverse ['\n']
      refine happend.trans ?_
      rw [Text.linesFrom_cons (by decide), if_pos Text.isLineEnd_feed, ← List.reverse_append,
        List.reverse_reverse]
      rfl
    change line ∈ Text.linesFrom (escape s).reverse "');\n".toList at hline
    rw [hlines, List.mem_singleton] at hline
    rw [hline]
    exact isSilent_escape_end s
  | cons c r ih =>
    obtain ⟨hc, hr⟩ := List.ne_and_not_mem_of_not_mem_cons h
    intro line hline
    rw [escape_cons, List.append_assoc] at hline
    by_cases he : isLineEnd c = true
    · rw [escape_singleton he, List.singleton_append, Text.linesFrom_cons hc.symm, if_pos he,
        List.reverse_reverse] at hline
      rcases List.mem_cons.mp hline with rfl | hline
      · exact isSilent_escape s
      · exact ih hr [] line hline
    · have hends : HasNoEnd (escape [c]) := by
        apply hasNoEnd_escape
        intro d hd
        rw [List.mem_singleton.mp hd]
        simpa using he
      rw [Text.linesFrom_append hends, ← List.reverse_append, ← escape_append] at hline
      exact ih hr (s ++ [c]) line hline

theorem afterStart?_eq_none {ls : List (List Char)} (h : startLine ∉ ls) :
    afterStart? ls = none := by
  induction ls with
  | nil => rfl
  | cons l r ih =>
    obtain ⟨hl, hr⟩ := List.ne_and_not_mem_of_not_mem_cons h
    rw [afterStart?, if_neg hl.symm, ih hr]

theorem content_of_silent {rest : List (List Char)} (hfirst : line ≠ startLine)
    (hrest : ∀ l ∈ rest, IsSilent l) :
    content (line :: rest) = match onOneLine? line with
      | some t => .found "single-line" t
      | none => .nothing := by
  have hstart : startLine ∉ line :: rest := by
    intro hm
    rcases List.mem_cons.mp hm with he | hm
    · exact hfirst he.symm
    · exact (hrest startLine hm).1 rfl
  have hnone : rest.findSome? onOneLine? = none := by
    rw [List.findSome?_eq_none_iff]
    exact fun l hl => (hrest l hl).2
  rw [content, afterStart?_eq_none hstart, List.findSome?_cons, hnone]
  cases onOneLine? line <;> rfl

def script (text : List Char) : List Char := quoted text ++ ['\n']

theorem lined_script (h : HasNoEnd text) : Text.Lined [quoted text] (script text) := by
  have hopening : HasNoEnd opening := by decide
  have hend : HasNoEnd "');".toList := by decide
  have hquoted : HasNoEnd (quoted text) := by
    intro c hc
    rcases List.mem_append.mp hc with hc | hc
    · rcases List.mem_append.mp hc with hc | hc
      · exact hopening c hc
      · exact hasNoEnd_escape h c hc
    · exact hend c hc
  have hunlines : Text.unlines [quoted text] = script text := by simp [Text.unlines, script]
  rw [← hunlines]
  exact Text.lined_unlines (List.forall_mem_singleton.mpr hquoted)

theorem append_escape_ne_startLine (s : List Char) : opening ++ escape s ≠ startLine := by
  intro h
  have hs : escape s = ['\x7b', '\\'] := List.append_cancel_left h
  have ht : s = ['\x7b', '\\'] := by
    rw [← unescape_escape s, hs]
    rfl
  rw [ht] at hs
  exact absurd hs (by decide)

theorem content_script_cut {c : Char} (hreturn : '\r' ∉ before ++ c :: after)
    (hbefore : HasNoEnd before) (hc : isLineEnd c = true) :
    content (Text.lines (Text.unifyLineEnds (script (before ++ c :: after)))) =
      match onOneLine? (opening ++ escape before) with
      | some t => .found "single-line" t
      | none => .nothing := by
  have hscript : script (before ++ c :: after) =
      (opening ++ escape before) ++ c :: (escape after ++ "');\n".toList) := by
    rw [script, quoted, escape_append, escape_cons, escape_singleton hc]
    simp
  have hr : '\r' ∉ script (before ++ c :: after) := by
    rw [script, quoted]
    simp only [List.mem_append, not_or]
    exact ⟨⟨⟨by decide, not_mem_escape (by decide) hreturn⟩, by decide⟩, by decide⟩
  have hfirst : HasNoEnd (opening ++ escape before) := by
    have hopening : HasNoEnd opening := by decide
    intro d hd
    rcases List.mem_append.mp hd with hd | hd
    · exact hopening d hd
    · exact hasNoEnd_escape hbefore d hd
  have hne : c ≠ '\r' := by
    rintro rfl
    exact hreturn (by simp)
  have hafter : '\r' ∉ after := fun hm => hreturn (by simp [hm])
  -- The line ends at the first line end of the text, and what comes after it says nothing.
  rw [Text.unifyLineEnds_eq_self hr, hscript, Text.lines, Text.linesFrom_append hfirst,
    Text.linesFrom_cons hne, if_pos hc, List.append_nil, List.reverse_reverse]
  exact content_of_silent (append_escape_ne_startLine before)
    (isSilent_of_mem_linesFrom hafter [])

theorem unescape_of_onOneLine? (h : onOneLine? (opening ++ escape before) = some text) :
    ∃ s, unescape text = s ++ ['\\'] := by
  obtain ⟨rest, hrest⟩ := exists_of_onOneLine? h
  obtain ⟨s, rfl⟩ := escape_eq_append_quote (List.append_cancel_left hrest)
  exact ⟨s, unescape_escape_append s ['\\']⟩

end Wrapper

theorem result_ofText_concat_backslash (source : Option Path) (s : List Char) (x : Index) :
    (ofText source (s ++ ['\\'])).result ≠ .ok x := by
  unfold ofText
  cases hp : Json.parse (s ++ ['\\']) with
  | error e =>
    intro h
    cases h
  | ok v => exact absurd hp (Json.parse_concat_backslash s v)

/-- Texts without the characters that the strings of an object have only as escapes. -/
def HasNoControl (text : List Char) : Prop := ∀ c ∈ text, 0x20 ≤ c.toNat

instance (text : List Char) : Decidable (HasNoControl text) := List.decidableBAll _ text

theorem ofBytes_script (text : List Char) (htext : HasNoControl text) (path : Path) :
    (HasNoEnd text →
      (ofBytes path (Text.Utf8.encode (Wrapper.script text))).result =
          (ofText (some path) text).result.map some ∧
        (ofBytes path (Text.Utf8.encode (Wrapper.script text))).result.mapError
          Error.withoutPath = (ofText none text).result.map some) ∧
    (¬HasNoEnd text →
      ∀ x, (ofBytes path (Text.Utf8.encode (Wrapper.script text))).result ≠ .ok (some x)) := by
  constructor
  · intro hends
    have hread := result_ofBytes_lines (Wrapper.lined_script hends) (Wrapper.content_quoted text)
      path
    refine ⟨hread, ?_⟩
    rw [hread, ← withoutPath_ofText (some path)]
    cases (ofText (some path) text).result <;> rfl
  · intro hends x
    obtain ⟨before, c, after, rfl, hbefore, hc⟩ := Text.exists_append_of_not_hasNoEnd hends
    have hreturn : '\r' ∉ before ++ c :: after := fun hm => absurd (htext _ hm) (by decide)
    have hcontent := Wrapper.content_script_cut hreturn hbefore hc
    unfold ofBytes
    rw [Text.Utf8.decode_encode]
    cases hline : Wrapper.onOneLine? (Wrapper.opening ++ Wrapper.escape before) with
    | none =>
      rw [hline] at hcontent
      simp only [hcontent]
      intro h
      cases h
    | some t =>
      rw [hline] at hcontent
      obtain ⟨s, hs⟩ := Wrapper.unescape_of_onOneLine? hline
      simp only [hcontent, hs, Traced.result_bind]
      cases hr : (ofText (some path) (s ++ ['\\'])).result with
      | error e =>
        intro h
        cases h
      | ok y => exact absurd hr (result_ofText_concat_backslash (some path) s y)

def apostropheText : List Char :=
  "\x7b\"rand\":\x7b\"i\":[[5,\"f\",\"rand\",\"it's \\\\\",null]],\"p\":[]\x7d\x7d".toList

def apostropheIndex : Index :=
  ⟨[("rand", ⟨[⟨.function, "f", "rand", "it's \\", none⟩], []⟩)]⟩

set_option maxRecDepth 100000 in
theorem result_ofText_apostrophe :
    (ofText (some ⟨"/", []⟩) apostropheText).result = .ok apostropheIndex := rfl

def separatorText : List Char :=
  "\x7b\"rand\":\x7b\"i\":[[5,\"f\",\"rand\",\"(')\u2028\",null]],\"p\":[]\x7d\x7d".toList

theorem ofBytes_script_lines :
    (HasNoControl apostropheText ∧ HasNoEnd apostropheText ∧
      (ofBytes ⟨"/", []⟩ (Text.Utf8.encode (Wrapper.script apostropheText))).result =
        (ofText (some ⟨"/", []⟩) apostropheText).result.map some ∧
      (ofBytes ⟨"/", []⟩ (Text.Utf8.encode (Wrapper.script apostropheText))).result =
        .ok (some apostropheIndex)) ∧
    HasNoControl separatorText ∧ ¬HasNoEnd separatorText ∧
      ∀ x, (ofBytes ⟨"/", []⟩ (Text.Utf8.encode (Wrapper.script separatorText))).result ≠
        .ok (some x) := by
  have hone : HasNoControl apostropheText := by decide
  have htwo : HasNoControl separatorText := by decide
  have hends : HasNoEnd apostropheText := by decide
  have hcut : ¬HasNoEnd separatorText := by decide
  have hread := ((ofBytes_script apostropheText hone ⟨"/", []⟩).1 hends).1
  exact ⟨⟨hone, hends, hread, hread.trans (congrArg _ result_ofText_apostrophe)⟩, htwo, hcut,
    (ofBytes_script separatorText htwo ⟨"/", []⟩).2 hcut⟩

/-- An object with a package, which is lost for its line end. -/
theorem not_ofBytes_script_separator :
    ¬∀ (text : List Char) (ms : List (String × Json.Value)) (path : Path),
      Json.parse text = .ok (.object ms) → HasNoControl text →
        (ofBytes path (Text.Utf8.encode (Wrapper.script text))).result =
          (ofText (some path) text).result.map some := by
  intro hall
  let path : Path := ⟨"/", []⟩
  have hobject : ∃ ms, Json.parse separatorText = .ok (.object ms) := ⟨_, rfl⟩
  obtain ⟨ms, hms⟩ := hobject
  have hindex : (ofText (some path) separatorText).result.toOption.isSome = true := by
    decide +kernel
  have hlost : (ofBytes path (Text.Utf8.encode
      (Wrapper.script separatorText))).result.toOption.isNone = true := by
    decide +kernel
  have heq := hall separatorText ms path hms (by decide)
  rw [heq] at hlost
  cases hr : (ofText (some path) separatorText).result with
  | error e =>
    rw [hr] at hindex
    cases hindex
  | ok x =>
    rw [hr] at hlost
    cases hlost

end CrateDocs.Index
