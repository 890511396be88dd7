import CrateDocs.Proofs.Selector.Quoted
import CrateDocs.Selector.Match
import CrateDocs.Selector.Parser
import Mathlib.Data.List.Forall2

/-!
Selectors that ask for an id, or for one of several. Such a selector, with texts in quotes that
stand for some values, is read back as the conditions that it writes, and a search with it finds the
first place that has one of the values.
-/

namespace CrateDocs.Selector

open Markup

theorem skip_of_afterGap? {s : List Char} (h : afterGap? s = none) : skip s = s := by
  rw [skip]
  split
  · next r hr => simp [h] at hr
  · rfl

theorem skip_of_afterGap?_some {s r : List Char} (h : afterGap? s = some r) : skip s = skip r := by
  rw [skip]
  split
  · next t ht =>
    obtain rfl : t = r := Option.some.inj (ht.symm.trans h)
    rfl
  · next hn => simp [h] at hn

theorem exists_of_afterComment? {s r : List Char} (h : afterComment? s = some r) :
    ∃ front, s = front ++ '/' :: r := by
  fun_induction afterComment? s with
  | case1 => cases h
  | case2 t =>
    cases h
    exact ⟨['*'], rfl⟩
  | case3 c t _ ih =>
    obtain ⟨front, rfl⟩ := ih h
    exact ⟨c :: front, rfl⟩

theorem skip_cons {c : Char} (hb : Text.isMarkupBlank c = false) (hc : c ≠ '/') (r : List Char) :
    skip (c :: r) = c :: r := by
  refine skip_of_afterGap? ?_
  unfold afterGap?
  split
  · next he => exact absurd (List.cons.inj he).1 hc
  · unfold afterBlank?
    split
    · next he =>
      rw [(List.cons.inj he).1] at hb
      cases hb
    · next he =>
      rw [(List.cons.inj he).1] at hb
      rw [if_neg (by simp [hb])]
    · rfl

theorem exists_of_afterGap? {s r : List Char} (h : afterGap? s = some r) :
    ∃ front c, s = front ++ c :: r ∧ (Text.isMarkupBlank c = true ∨ c = '/') := by
  unfold afterGap? at h
  split at h
  · next t =>
    obtain ⟨front, rfl⟩ := exists_of_afterComment? h
    exact ⟨'/' :: '*' :: front, '/', rfl, .inr rfl⟩
  · unfold afterBlank? at h
    split at h
    · cases h
      exact ⟨['\r'], '\n', rfl, .inl rfl⟩
    · next c t _ _ =>
      split at h
      · next hc =>
        cases h
        exact ⟨[], c, rfl, .inl hc⟩
      · cases h
    · cases h

theorem skip_concat_ne_nil {c : Char} (hb : Text.isMarkupBlank c = false) (hc : c ≠ '/')
    (s : List Char) : skip (s ++ [c]) ≠ [] := by
  generalize ht : s ++ [c] = t
  fun_induction skip t generalizing s with
  | case1 t r hr _ ih =>
    obtain ⟨front, d, rfl, hd⟩ := exists_of_afterGap? hr
    rcases List.eq_nil_or_concat r with rfl | ⟨u, e, rfl⟩
    · obtain ⟨-, h⟩ := List.append_inj' ht rfl
      cases h
      rcases hd with hd | hd
      · exact absurd hd (by simp [hb])
      · exact absurd hd hc
    · have hlast : s ++ [c] = (front ++ d :: u) ++ [e] := by simpa using ht
      obtain ⟨-, h⟩ := List.append_inj' hlast rfl
      cases h
      exact ih u List.concat_eq_append.symm
  | case2 t hr =>
    subst ht
    simp

theorem blankTail_concat {c : Char} (hb : Text.isMarkupBlank c = false) (hc : c ≠ '/')
    (s : List Char) : blankTail (s ++ [c]) = 0 := by
  induction s with
  | nil =>
    have h := skip_concat_ne_nil hb hc []
    simp [blankTail] at h ⊢
    simpa using h
  | cons d r ih =>
    have h := skip_concat_ne_nil hb hc (d :: r)
    rw [List.cons_append] at h ⊢
    rw [blankTail, if_neg (by simpa using h), ih]

section Parse

variable {s v : List Char}

/-- What follows the opening bracket of a condition on the id, with `s` in the quotes. -/
def idCondition (s r : List Char) : List Char := 'i' :: 'd' :: '=' :: '"' :: (s ++ '"' :: ']' :: r)

theorem name?_id (r : List Char) :
    name? ('i' :: 'd' :: '=' :: r) = some (['i', 'd'], '=' :: r) := by
  have hi : isNameStart 'i' = true := by decide
  have hd : isNameChar 'd' = true := by decide
  have he : isNameChar '=' = false := by decide
  have ha : afterName? Text.isHexDigit ('i' :: 'd' :: '=' :: r) = some ('=' :: r) := by
    simp [afterName?, afterNameStart?, hi, afterNameChars, hd, he]
  have hl : ('i' :: 'd' :: '=' :: r).length - ('=' :: r).length = 2 := by
    simp only [List.length_cons]
    omega
  rw [name?, ha, Option.map_some, dropped, hl]
  rfl

theorem attributeToken_eq (r : List Char) :
    attributeToken ('i' :: 'd' :: '=' :: r) =
      match attributeFrom ('i' :: 'd' :: '=' :: r) with
      | some (p, u) => do return some (.simple (← p), u)
      | none => .ok none := by
  have hskip : skip ('i' :: 'd' :: '=' :: r) = 'i' :: 'd' :: '=' :: r :=
    skip_cons (by decide) (by decide) _
  unfold attributeToken
  rw [hskip]
  simp only [name?_id]
  rfl

theorem attributeTest?_id {r : List Char}
    (hs : quoted? '"' (s ++ '"' :: ']' :: r) = some (s, ']' :: r)) :
    attributeTest? ('=' :: '"' :: (s ++ '"' :: ']' :: r)) = some (('=', .quoted s, none), r) := by
  have hvalue : value? Text.isHexDigit ('"' :: (s ++ '"' :: ']' :: r)) =
      some (.quoted s, ']' :: r) := by
    rw [value?, if_pos (.inl rfl), hs]
    rfl
  have hflag : flag? (']' :: r) = none := by simp [flag?]
  simp [attributeTest?, skip_cons, Text.isMarkupBlank, comparison?, hvalue, hflag, afterChar?]

def idTest (v : List Char) : Simple := .attribute "id" (.equals (String.ofList v)) false

theorem attributeToken_closed {r : List Char}
    (hs : quoted? '"' (s ++ '"' :: ']' :: r) = some (s, ']' :: r)) :
    attributeToken (idCondition s r) =
      (unescape true s).map fun v => some (.simple (idTest v), r) := by
  have hsimple : attributeSimple ['i', 'd'] (some ('=', .quoted s, none)) =
      (unescape true s).map idTest := by
    simp only [attributeSimple, readName, unescape_verbatim false (s := ['i', 'd']) (by decide),
      Written.read]
    cases unescape true s <;> rfl
  have hfrom : attributeFrom (idCondition s r) = some ((unescape true s).map idTest, r) := by
    simp [attributeFrom, idCondition, name?_id, attributeTest?_id hs, hsimple]
  rw [idCondition] at hfrom ⊢
  rw [attributeToken_eq, hfrom]
  cases unescape true s <;> rfl

theorem attributeToken_id (hs : StandsFor s v) (r : List Char) :
    attributeToken (idCondition s r) = .ok (some (.simple (idTest v), r)) := by
  rw [attributeToken_closed (hs.closed _), hs.value]
  rfl

theorem scan_bracket (r : List Char) : Token.scan ('[' :: r) = attributeToken r := by
  have hskip : skip ('[' :: r) = '[' :: r := skip_cons (by decide) (by decide) _
  simp [Token.scan, afterClose?, hskip, afterChar?]

theorem scan_comma {c : Char} (hb : Text.isMarkupBlank c = false) (hc : c ≠ '/') (r : List Char) :
    Token.scan (',' :: ' ' :: c :: r) = .ok (some (.comma, c :: r)) := by
  have hskip : skip (',' :: ' ' :: c :: r) = ',' :: ' ' :: c :: r :=
    skip_cons (by decide) (by decide) _
  have hblank : skip (' ' :: c :: r) = c :: r :=
    (skip_of_afterGap?_some rfl).trans (skip_cons hb hc r)
  have hstart : isNameStart ',' = false := by decide
  have hnamed : namedToken (',' :: ' ' :: c :: r) = none := by
    simp [namedToken, name?, afterName?, afterNameStart?, hstart, afterChar?]
  have hcombinator : combinatorToken (',' :: ' ' :: c :: r) = some (.comma, c :: r) := by
    unfold combinatorToken
    split
    · change (combinatorOf ',').map (fun t => (t, skip (' ' :: c :: r))) = _
      rw [hblank]
      rfl
    · next hg =>
      cases hg
  simp [Token.scan, afterClose?, hskip, afterChar?, hnamed, hcombinator]

def idConditions (s : List Char) : List (List Char) → List Char
  | [] => '[' :: idCondition s []
  | t :: ts => '[' :: idCondition s (',' :: ' ' :: idConditions t ts)

def idTokens (v : List Char) : List (List Char) → List (Except Fault Token)
  | [] => [.ok (.simple (idTest v))]
  | u :: us => .ok (.simple (idTest v)) :: .ok .comma :: idTokens u us

theorem exists_cons_idConditions (s : List Char) (ts : List (List Char)) :
    ∃ r, idConditions s ts = '[' :: r := by
  cases ts <;> exact ⟨_, rfl⟩

theorem exists_concat_idConditions (s : List Char) (ts : List (List Char)) :
    ∃ r, idConditions s ts = r ++ [']'] := by
  induction ts generalizing s with
  | nil =>
    exact ⟨'[' :: 'i' :: 'd' :: '=' :: '"' :: (s ++ ['"']), by simp [idConditions, idCondition]⟩
  | cons t ts ih =>
    obtain ⟨r, hr⟩ := ih t
    exact ⟨'[' :: idCondition s (',' :: ' ' :: r), by simp [idConditions, idCondition, hr]⟩

theorem withoutNull_idConditions (s : List Char) (ts : List (List Char)) :
    withoutNull (idConditions s ts) = idConditions (withoutNull s) (ts.map withoutNull) := by
  induction ts generalizing s with
  | nil => simp [idConditions, idCondition, withoutNull]
  | cons t ts ih =>
    have ht := ih t
    simp only [withoutNull] at ht
    simp [idConditions, idCondition, withoutNull, ht]

theorem scanAll_id (hs : StandsFor s v) (r : List Char) :
    Token.scanAll 0 ('[' :: idCondition s r) = .ok (.simple (idTest v)) :: Token.scanAll 0 r := by
  have hlength : r.length < (idCondition s r).length + 1 := by
    simp only [idCondition, List.length_cons, List.length_append]
    omega
  rw [Token.scanAll, scan_bracket, attributeToken_id hs]
  simp [hlength]

theorem scanAll_idConditions (hs : StandsFor s v) {ts us : List (List Char)}
    (ht : List.Forall₂ StandsFor ts us) :
    Token.scanAll 0 (idConditions s ts) = idTokens v us := by
  induction ht generalizing s v with
  | nil => simp [idConditions, scanAll_id hs, Token.scanAll, idTokens]
  | @cons t u ts us htu _ ih =>
    obtain ⟨r, hr⟩ := exists_cons_idConditions t ts
    have hrest : Token.scanAll 0 (',' :: ' ' :: idConditions t ts) =
        .ok .comma :: idTokens u us := by
      rw [← ih htu, hr, Token.scanAll, scan_comma (by decide) (by decide)]
      simp
    rw [idConditions, scanAll_id hs, hrest, idTokens]

theorem ofText_eq (s : List Char) (ts : List (List Char)) :
    Token.ofText (idConditions s ts) = Token.scanAll 0 (idConditions s ts) := by
  obtain ⟨r, hr⟩ := exists_cons_idConditions s ts
  obtain ⟨t, ht⟩ := exists_concat_idConditions s ts
  have htail : blankTail (idConditions s ts) = 0 := by
    rw [ht]
    exact blankTail_concat (by decide) (by decide) _
  have hskip : skip (idConditions s ts) = idConditions s ts := by
    rw [hr]
    exact skip_cons (by decide) (by decide) _
  rw [Token.ofText, htail, hskip]

def idSelector (v : String) : Selector := .all [.attribute "id" (.equals v) false]

def Frame.after (done : List Selector) : Frame := { Frame.start .plain .nothing with done }

theorem foldlM_idTokens (us : List (List Char)) (done : List Selector) :
    (idTokens v us).foldlM Reading.stepOrFail ⟨.after done, []⟩ >>= Reading.finish =
      .ok (.mk false false
        (done.reverse ++ (v :: us).map fun u => idSelector (String.ofList u))) := by
  induction us generalizing v done with
  | nil =>
    change Except.ok (Choice.mk false false (idSelector (String.ofList v) :: done).reverse) = _
    simp
  | cons u us ih =>
    refine (ih (idSelector (String.ofList v) :: done)).trans ?_
    simp

theorem parse_eq (s : List Char) (ts : List (List Char)) :
    parse (String.ofList (idConditions s ts)) =
      ((Token.scanAll 0 (idConditions (withoutNull s) (ts.map withoutNull))).foldlM
        Reading.stepOrFail Reading.start >>= Reading.finish) := by
  rw [← ofText_eq, ← withoutNull_idConditions, parse, String.toList_ofList]
  rfl

end Parse

theorem intercalate_eq (t : String) (ts : List String) :
    ", ".intercalate ((t :: ts).map fun u => "[id=\"" ++ u ++ "\"]") =
      String.ofList (idConditions t.toList (ts.map String.toList)) := by
  refine String.toList_injective ?_
  rw [String.toList_ofList]
  induction ts generalizing t with
  | nil => simp [idConditions, idCondition]
  | cons u us ih =>
    have hu := ih u
    simp [idConditions, idCondition] at hu ⊢
    exact hu

theorem parse_meant {ts vs : List String} (hne : ts ≠ []) (h : List.Forall₂ Means ts vs) :
    parse (", ".intercalate (ts.map fun t => "[id=\"" ++ t ++ "\"]")) =
      .ok (.mk false false (vs.map idSelector)) := by
  cases h with
  | nil => exact absurd rfl hne
  | @cons t v ts vs htv h =>
    have hstands : List.Forall₂ StandsFor ((ts.map String.toList).map withoutNull)
        (vs.map String.toList) := by
      rw [List.map_map, List.forall₂_map_left_iff, List.forall₂_map_right_iff]
      exact h
    rw [intercalate_eq, parse_eq, scanAll_idConditions htv hstands]
    refine (foldlM_idTokens (vs.map String.toList) []).trans ?_
    simp

/-- Whether an element has an id, whatever the case of the attribute's name, or has it with a line
feed after it. -/
def hasId (v : String) (n : Node) : Bool :=
  (attribute? "id" n).any fun a => equalsValue v.toList a.toList

theorem first?_ids (vs : List String) (d : Document) :
    Choice.first? (.mk false false (vs.map idSelector)) d =
      .ok (d.places.find? fun p => vs.any fun v => hasId v p.node) := by
  let c : Choice := .mk false false (vs.map idSelector)
  -- Conditions on ids never fail and ask for no language, so that the search is a plain one.
  have hsome (p : Place) : someMatch false p (vs.map idSelector) =
      (pure (vs.any fun v => hasId v p.node) : Search Bool) := by
    induction vs with
    | nil => rfl
    | cons v r ih =>
      simp only [List.map_cons, someMatch, idSelector, Selector.isMatch, conditionsHold,
        Simple.holds, pure_bind, Test.holds, Bool.false_eq_true, if_false, List.any_cons]
      cases hb : hasId v p.node <;> rw [hasId] at hb <;> rw [hb]
      · exact ih
      · rfl
  have hholds (p : Place) :
      c.holds false p = (pure (vs.any fun v => hasId v p.node) : Search Bool) := by
    simp only [c, Choice.holds, Bool.or_false, hsome, pure_bind, Bool.bne_false]
  have hfirst (ps : List Place) :
      c.firstOf? ps =
        (pure (ps.find? fun p => vs.any fun v => hasId v p.node) : Search (Option Place)) := by
    induction ps with
    | nil => rfl
    | cons p r ih =>
      rw [Choice.firstOf?, hholds, pure_bind, ih, List.find?_cons]
      cases vs.any fun v => hasId v p.node <;> rfl
  rw [Choice.first?, hfirst]
  rfl

theorem first?_id (v : String) (d : Document) :
    Choice.first? (.mk false false [idSelector v]) d =
      .ok (d.places.find? fun p => hasId v p.node) := by
  simpa using first?_ids [v] d

end CrateDocs.Selector
