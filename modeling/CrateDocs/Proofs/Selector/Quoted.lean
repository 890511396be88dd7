import CrateDocs.Selector.Escape

/-!
Texts between double quotes. What follows an opening quote is closed by the next quote outside an
escape, unless the line breaks before it; a text that is closed is read as a value, in which its
escapes are replaced.
-/

namespace CrateDocs.Selector

variable {s : List Char}

/-- Characters that stand for themselves between double quotes. -/
def IsVerbatim (c : Char) : Prop := c ≠ '"' ∧ c ≠ '\\' ∧ isNewline c = false ∧ c ≠ '\x00'

instance (c : Char) : Decidable (IsVerbatim c) := inferInstanceAs (Decidable (_ ∧ _))

theorem forall_isVerbatim {s : List Char} (h : s.all fun c => decide (IsVerbatim c)) :
    ∀ c ∈ s, IsVerbatim c := by
  simpa using h

theorem quoted?_escape {c : Char} {r : List Char} (h : c = '\r' → r.head? ≠ some '\n') :
    quoted? '"' ('\\' :: c :: r) = (quoted? '"' r).map fun p => ('\\' :: c :: p.1, p.2) := by
  rw [quoted?]
  rintro t rfl rfl
  exact h rfl rfl

theorem quoted?_plain {c : Char} (hq : c ≠ '"') (hn : isNewline c = false) (hb : c ≠ '\\')
    (r : List Char) : quoted? '"' (c :: r) = (quoted? '"' r).map fun p => (c :: p.1, p.2) := by
  rw [quoted?, if_neg hq, if_neg (by simp [hn, hb])]
  · rintro t rfl
    exact absurd rfl hb
  · rintro d t rfl
    exact absurd rfl hb

theorem quoted?_newline {c : Char} (hn : isNewline c = true) (r : List Char) :
    quoted? '"' (c :: r) = none := by
  have hq : c ≠ '"' := by
    rintro rfl
    cases hn
  have hb : c ≠ '\\' := by
    rintro rfl
    cases hn
  rw [quoted?, if_neg hq, if_pos (by simp [hn])]
  · rintro t rfl
    exact absurd rfl hb
  · rintro d t rfl
    exact absurd rfl hb

theorem quoted?_append {u w : List Char} (h : quoted? '"' s = some (u, w)) (r : List Char) :
    quoted? '"' (s ++ r) = some (u, w ++ r) := by
  fun_induction quoted? '"' s generalizing u with
  | case1 => cases h
  | case2 t ih =>
    obtain ⟨p, hp, he⟩ := Option.map_eq_some_iff.mp h
    cases he
    simp [quoted?, ih hp]
  | case3 c t hline ih =>
    obtain ⟨p, hp, he⟩ := Option.map_eq_some_iff.mp h
    cases he
    rw [List.cons_append, List.cons_append, quoted?_escape, ih hp]
    · rfl
    · rintro rfl hhead
      cases t with
      | nil => cases hp
      | cons d t => exact hline t rfl (congrArg (· :: t) (Option.some.inj hhead))
  | case4 c t =>
    cases h
    simp [quoted?]
  | case5 => cases h
  | case6 c t hline hescape hq hn ih =>
    obtain ⟨p, hp, he⟩ := Option.map_eq_some_iff.mp h
    cases he
    simp only [Bool.or_eq_true, beq_iff_eq, not_or, Bool.not_eq_true] at hn
    rw [List.cons_append, quoted?_plain hq hn.1 hn.2, ih hp]
    rfl

theorem quoted?_prepend {a : List Char} (ha : ∀ c ∈ a, IsVerbatim c) (r : List Char) :
    quoted? '"' (a ++ r) = (quoted? '"' r).map fun p => (a ++ p.1, p.2) := by
  induction a with
  | nil => simp
  | cons c a ih =>
    obtain ⟨⟨hq, hb, hn, -⟩, ha⟩ := List.forall_mem_cons.mp ha
    rw [List.cons_append, quoted?_plain hq hn hb, ih ha, Option.map_map]
    rfl

theorem quoted?_verbatim (hs : ∀ c ∈ s, IsVerbatim c) (r : List Char) :
    quoted? '"' (s ++ '"' :: r) = some (s, r) := by
  rw [quoted?_prepend hs]
  simp [quoted?]

/-- At the next quote, a text without a quote has broken its line, is closed, or goes on if it ends
in the backslash of an escape. -/
inductive AtQuote (s : List Char) : Prop
  | broken (h : ∀ r, quoted? '"' (s ++ '"' :: r) = none)
  | closed (h : ∀ r, quoted? '"' (s ++ '"' :: r) = some (s, r))
  | escaped (h : ∀ r, quoted? '"' (s ++ '"' :: r) =
      (quoted? '"' r).map fun p => (s ++ '"' :: p.1, p.2))

theorem AtQuote.prepend {a : List Char} (h : AtQuote s)
    (ha : ∀ r, quoted? '"' (a ++ (s ++ '"' :: r)) =
      (quoted? '"' (s ++ '"' :: r)).map fun p => (a ++ p.1, p.2)) : AtQuote (a ++ s) := by
  simp only [← List.append_assoc] at ha
  cases h with
  | broken h =>
    refine .broken fun r => ?_
    rw [ha, h]
    rfl
  | closed h =>
    refine .closed fun r => ?_
    rw [ha, h]
    rfl
  | escaped h =>
    refine .escaped fun r => ?_
    rw [ha, h, Option.map_map]
    simp [Function.comp_def]

theorem atQuote_of_quoted?_eq_none (h : quoted? '"' s = none) : AtQuote s := by
  -- The cases are those of the reader, and what has been read of the text is put in front of what
  -- the rest is.
  fun_induction quoted? '"' s with
  | case1 => exact .closed fun r => by simp [quoted?]
  | case2 t ih =>
    refine (ih (Option.map_eq_none_iff.mp h)).prepend (a := ['\\', '\r', '\n']) fun r => ?_
    rw [List.cons_append, List.cons_append, List.cons_append, quoted?]
    rfl
  | case3 c t hline ih =>
    refine (ih (Option.map_eq_none_iff.mp h)).prepend (a := ['\\', c]) fun r => ?_
    refine quoted?_escape ?_
    rintro rfl hhead
    cases t with
    | nil => cases hhead
    | cons d t => exact hline t rfl (congrArg (· :: t) (Option.some.inj hhead))
  | case4 => cases h
  | case5 c t hline hescape hq hn =>
    rw [Bool.or_eq_true, beq_iff_eq] at hn
    rcases hn with hn | rfl
    · exact .broken fun r => quoted?_newline hn _
    · cases t with
      | nil => exact .escaped fun r => quoted?_escape fun hc => absurd hc (by decide)
      | cons d t => exact absurd rfl (hescape d t rfl)
  | case6 c t hline hescape hq hn ih =>
    simp only [Bool.or_eq_true, beq_iff_eq, not_or, Bool.not_eq_true] at hn
    exact (ih (Option.map_eq_none_iff.mp h)).prepend (a := [c]) fun r =>
      quoted?_plain hq hn.1 hn.2 _

theorem unescape_prepend (inQuotes : Bool) {a : List Char} (ha : '\\' ∉ a) (r : List Char) :
    unescape inQuotes (a ++ r) = (unescape inQuotes r).map (a ++ ·) := by
  induction a with
  | nil => cases h : unescape inQuotes r <;> simp [h, Except.map]
  | cons c a ih =>
    obtain ⟨hc, ha⟩ := List.ne_and_not_mem_of_not_mem_cons ha
    rw [List.cons_append, unescape, if_neg (Ne.symm hc), ih ha]
    cases unescape inQuotes r <;> rfl

theorem unescape_verbatim (inQuotes : Bool) (hs : '\\' ∉ s) : unescape inQuotes s = .ok s := by
  have h := unescape_prepend inQuotes hs []
  rw [List.append_nil] at h
  rw [h, unescape]
  exact congrArg Except.ok (List.append_nil s)

theorem unescape_backslash (inQuotes : Bool) {c : Char} (hx : Text.isHexDigit c = false)
    (hn : isNewline c = false) (r : List Char) :
    unescape inQuotes ('\\' :: c :: r) = (unescape inQuotes r).map (c :: ·) := by
  have hrun : hexRun Text.isHexDigit (c :: r) = [] := by simp [hexRun, hx]
  have hline : c ≠ '\n' := by
    rintro rfl
    cases hn
  have hescaped : escaped inQuotes (c :: r) = .ok ([c], r) := by
    simp [escaped, hrun, hn, hline]
  rw [unescape, if_pos rfl]
  split
  · next f h =>
    cases hescaped.symm.trans h
  · next cs t h =>
    cases hescaped.symm.trans h
    rfl

/-- Whether a text after a double quote is closed by the next one, and is read as a value. -/
structure StandsFor (s v : List Char) : Prop where
  closed (r : List Char) : quoted? '"' (s ++ '"' :: r) = some (s, r)
  value : unescape true s = .ok v

theorem standsFor_prepend {a v : List Char} (ha : ∀ c ∈ a, IsVerbatim c) (h : StandsFor s v) :
    StandsFor (a ++ s) (a ++ v) where
  closed r := by rw [List.append_assoc, quoted?_prepend ha, h.closed, Option.map_some]
  value := by rw [unescape_prepend true fun hm => (ha _ hm).2.1 rfl, h.value, Except.map]

theorem standsFor_verbatim (hs : ∀ c ∈ s, IsVerbatim c) : StandsFor s s where
  closed := quoted?_verbatim hs
  value := unescape_verbatim true fun hm => (hs _ hm).2.1 rfl

theorem standsFor_backslash {c : Char} {v : List Char} (hx : Text.isHexDigit c = false)
    (hn : isNewline c = false) (h : StandsFor s v) : StandsFor ('\\' :: c :: s) (c :: v) where
  closed r := by
    rw [List.cons_append, List.cons_append, quoted?_escape, h.closed]
    · rfl
    · rintro rfl
      cases hn
  value := by rw [unescape_backslash true hx hn, h.value, Except.map]

theorem exists_of_standsFor_prepend {a v : List Char} (ha : ∀ c ∈ a, IsVerbatim c)
    (h : StandsFor (a ++ s) v) : ∃ u, StandsFor s u := by
  have hvalue := h.value
  rw [unescape_prepend true fun hm => (ha _ hm).2.1 rfl] at hvalue
  cases hu : unescape true s with
  | error f =>
    rw [hu] at hvalue
    cases hvalue
  | ok u =>
    refine ⟨u, fun r => ?_, hu⟩
    have hclosed := h.closed r
    rw [List.append_assoc, quoted?_prepend ha] at hclosed
    obtain ⟨p, hp, he⟩ := Option.map_eq_some_iff.mp hclosed
    rw [hp]
    obtain ⟨h1, h2⟩ := Prod.mk.inj he
    rw [← List.append_cancel_left h1, ← h2]

/-- The text that is read in place of another one: null characters count as the replacement
character. -/
def withoutNull (s : List Char) : List Char := s.map fun c => if c = '\x00' then '\ufffd' else c

theorem withoutNull_verbatim {s : List Char} (hs : ∀ c ∈ s, IsVerbatim c) : withoutNull s = s :=
  (List.map_congr_left fun c hc => if_neg (hs c hc).2.2.2).trans (List.map_id s)

/-- Whether a text between double quotes is read as a value. -/
def Means (text value : String) : Prop := StandsFor (withoutNull text.toList) value.toList

theorem means_verbatim {s : String} (hs : ∀ c ∈ s.toList, IsVerbatim c) : Means s s := by
  rw [Means, withoutNull_verbatim hs]
  exact standsFor_verbatim hs

end CrateDocs.Selector
