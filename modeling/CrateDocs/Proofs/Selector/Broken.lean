import CrateDocs.Proofs.Selector.Attribute

/-!
Selectors that ask for an id and cannot be read: what is put between the quotes breaks the line,
escapes the closing quote, has an escape that stands for no character, or has a quote with something
after it that no condition can end with.
-/

namespace CrateDocs.Selector

variable {s : List Char}

/-- Characters that neither end a condition nor may stand between its value and its end. -/
def IsStray (c : Char) : Prop :=
  Text.isMarkupBlank c = false ∧ c ≠ '/' ∧ c ≠ ']' ∧ flag? [c] = none

instance (c : Char) : Decidable (IsStray c) := inferInstanceAs (Decidable (_ ∧ _))

inductive IsBroken (s : List Char) : Prop
  | noValue (hs : quoted? '"' s = none) (hv : ∀ v, ¬StandsFor s v)
  | stray {u w t : List Char} {c : Char} (hs : quoted? '"' s = some (u, w))
      (hw : w ++ ['"'] = c :: t) (hc : IsStray c)

theorem IsBroken.prepend {a : List Char} (ha : ∀ c ∈ a, IsVerbatim c) (h : IsBroken s) :
    IsBroken (a ++ s) := by
  cases h with
  | noValue hs hv =>
    refine .noValue (by rw [quoted?_prepend ha, hs, Option.map_none]) fun v h => ?_
    obtain ⟨u, hu⟩ := exists_of_standsFor_prepend ha h
    exact hv u hu
  | stray hs hw hc => exact .stray (by rw [quoted?_prepend ha, hs, Option.map_some]) hw hc

theorem attributeTest?_eq_none {r : List Char}
    (h : ∀ u w, quoted? '"' r = some (u, w) → ∃ c t, w = c :: t ∧ IsStray c) :
    attributeTest? ('=' :: '"' :: r) = none := by
  have hvalue : value? Text.isHexDigit ('"' :: r) =
      (quoted? '"' r).map fun p => (.quoted p.1, p.2) := by
    rw [value?, if_pos (.inl rfl)]
  have hskip : skip ('=' :: '"' :: r) = '=' :: '"' :: r := skip_cons (by decide) (by decide) _
  have hquote : skip ('"' :: r) = '"' :: r := skip_cons (by decide) (by decide) _
  cases hr : quoted? '"' r with
  | none => simp [attributeTest?, hskip, hquote, comparison?, hvalue, hr]
  | some p =>
    obtain ⟨c, t, hw, hblank, hslash, hclose, hflag⟩ := h p.1 p.2 hr
    have hflag' : flag? (c :: t) = none := by
      simp only [flag?] at hflag ⊢
      split at hflag
      · cases hflag
      · next h1 =>
        split at hflag
        · cases hflag
        · next h2 => rw [if_neg h1, if_neg h2]
    simp [attributeTest?, hskip, hquote, comparison?, hvalue, hr, hw, skip_cons hblank hslash,
      hflag', afterChar?, Ne.symm hclose]

def afterFirst : List (List Char) → List Char
  | [] => []
  | t :: ts => ',' :: ' ' :: idConditions t ts

theorem idConditions_eq (s : List Char) (ts : List (List Char)) :
    idConditions s ts = '[' :: idCondition s (afterFirst ts) := by
  cases ts <;> rfl

theorem attributeToken_malformed {r : List Char}
    (h : ∀ u w, quoted? '"' r = some (u, w) → ∃ c t, w = c :: t ∧ IsStray c) :
    attributeToken ('i' :: 'd' :: '=' :: '"' :: r) = .ok none := by
  have hskip : skip ('=' :: '"' :: r) = '=' :: '"' :: r := skip_cons (by decide) (by decide) _
  rw [attributeToken_eq, attributeFrom]
  simp [name?_id, attributeTest?_eq_none h, hskip, afterChar?]

theorem exists_stray_of_quoted? {ts : List (List Char)}
    (hts : ∀ t ∈ ts.head?, ∃ c r, t = c :: r ∧ IsStray c) {u w : List Char}
    (h : quoted? '"' (']' :: afterFirst ts) = some (u, w)) : ∃ c t, w = c :: t ∧ IsStray c := by
  cases ts with
  | nil => simp [afterFirst, quoted?, isNewline] at h
  | cons t ts =>
    obtain ⟨c, r, rfl, hc⟩ := hts t rfl
    have htext : ']' :: afterFirst ((c :: r) :: ts) =
        "], [id=".toList ++ '"' :: (c :: r ++ '"' :: ']' :: afterFirst ts) := by
      rw [afterFirst, idConditions_eq]
      rfl
    rw [htext, quoted?_verbatim (forall_isVerbatim (by decide))] at h
    obtain ⟨-, rfl⟩ := Prod.mk.inj (Option.some.inj h)
    exact ⟨c, _, rfl, hc⟩

theorem IsBroken.attributeToken (h : IsBroken s) {ts : List (List Char)}
    (hts : ∀ t ∈ ts.head?, ∃ c r, t = c :: r ∧ IsStray c) :
    attributeToken (idCondition s (afterFirst ts)) = .ok none ∨
      ∃ f, attributeToken (idCondition s (afterFirst ts)) = .error f := by
  -- In each case it is told where the quotes end, and the token fails behind that place or in the
  -- value.
  cases h with
  | @stray u w t c hs hw hc =>
    have hrest : w ++ '"' :: ']' :: afterFirst ts = c :: (t ++ ']' :: afterFirst ts) := by
      rw [← List.singleton_append, ← List.append_assoc, hw]
      rfl
    refine .inl (attributeToken_malformed fun u' w' h => ?_)
    rw [quoted?_append hs, hrest] at h
    obtain ⟨-, rfl⟩ := Prod.mk.inj (Option.some.inj h)
    exact ⟨c, _, rfl, hc⟩
  | noValue hs hv =>
    cases atQuote_of_quoted?_eq_none hs with
    | broken h =>
      refine .inl (attributeToken_malformed fun u w h' => ?_)
      rw [h] at h'
      cases h'
    | closed h =>
      cases hu : unescape true s with
      | error f =>
        refine .inr ⟨f, ?_⟩
        rw [attributeToken_closed (h _), hu]
        rfl
      | ok v => exact absurd ⟨h, hu⟩ (hv v)
    | escaped h =>
      refine .inl (attributeToken_malformed fun u w h' => ?_)
      rw [h] at h'
      obtain ⟨q, hq, he⟩ := Option.map_eq_some_iff.mp h'
      cases he
      exact exists_stray_of_quoted? hts hq

/-- Whether a text cannot be put between the quotes of a condition on an id. -/
def Breaks (text : String) : Prop := IsBroken (withoutNull text.toList)

theorem parse_breaks {t : String} (h : Breaks t) {ts : List String}
    (hts : ∀ u ∈ ts.head?, ∃ c r, u.toList = c :: r ∧ IsStray c ∧ c ≠ '\x00') :
    ∃ f, parse (", ".intercalate ((t :: ts).map fun u => "[id=\"" ++ u ++ "\"]")) = .error f := by
  have hts' : ∀ u ∈ ((ts.map String.toList).map withoutNull).head?,
      ∃ c r, u = c :: r ∧ IsStray c := by
    cases ts with
    | nil => exact fun u hu => absurd hu (by simp)
    | cons u us =>
      obtain ⟨c, r, hu, hc, hnull⟩ := hts u rfl
      rintro u' hu'
      obtain rfl : withoutNull u.toList = u' := by simpa using hu'
      refine ⟨c, withoutNull r, ?_, hc⟩
      rw [hu, withoutNull, List.map_cons, if_neg hnull]
      rfl
  rw [intercalate_eq, parse_eq, idConditions_eq, Token.scanAll, scan_bracket]
  rcases h.attributeToken hts' with h | ⟨f, h⟩
  · rw [h]
    exact ⟨.malformed, rfl⟩
  · rw [h]
    exact ⟨f, rfl⟩

end CrateDocs.Selector
