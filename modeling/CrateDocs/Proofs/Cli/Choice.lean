import CrateDocs.Cli.Session
import Mathlib.Data.Nat.Digits.Defs

/-!
What a person's answer chooses. A numeral in the decimal digits of any script chooses the hit of its
number, and every other answer chooses none, except that an answer of digit signs that is no such
numeral, or is too long for one, is a fault.
-/

namespace CrateDocs.Text

/-- Whether a text is a decimal numeral, the last digit of which counts ones. -/
def IsNumeral (s : List Char) (n : Nat) : Prop :=
  s ≠ [] ∧ ∃ ds : List Nat, s.map digitValue? = ds.map some ∧ n = Nat.ofDigits 10 ds.reverse

theorem numeralFrom_eq_some_iff {s : List Char} {acc n : Nat} :
    numeralFrom acc s = some n ↔
      ∃ ds : List Nat, s.map digitValue? = ds.map some ∧
        n = ds.foldl (fun a d => d + 10 * a) acc := by
  -- By induction on the characters, with the number that has been read so far as it comes.
  induction s generalizing acc with
  | nil =>
    constructor
    · intro h
      exact ⟨[], rfl, (Option.some.inj h).symm⟩
    · rintro ⟨ds, hds, rfl⟩
      obtain rfl : ds = [] := List.map_eq_nil_iff.mp hds.symm
      rfl
  | cons c r ih =>
    rw [numeralFrom]
    cases hc : digitValue? c with
    | none =>
      constructor
      · intro h
        cases h
      · rintro ⟨ds, hds, -⟩
        cases ds with
        | nil => cases hds
        | cons d ds =>
          rw [List.map_cons, hc, List.map_cons] at hds
          cases (List.cons.inj hds).1
    | some d =>
      dsimp only
      rw [ih, Nat.add_comm]
      constructor
      · rintro ⟨ds, hds, hn⟩
        exact ⟨d :: ds, by rw [List.map_cons, hc, hds, List.map_cons], hn⟩
      · rintro ⟨ds, hds, hn⟩
        cases ds with
        | nil => cases hds
        | cons e ds =>
          rw [List.map_cons, hc, List.map_cons] at hds
          obtain ⟨he, hr⟩ := List.cons.inj hds
          obtain rfl := Option.some.inj he
          exact ⟨ds, hr, hn⟩

theorem numeral?_eq_some_iff {s : List Char} {n : Nat} :
    numeral? s = some n ↔ IsNumeral s n := by
  unfold numeral? IsNumeral
  split
  · next hs =>
    rw [List.isEmpty_iff] at hs
    simp [hs]
  · next hs =>
    have hne : s ≠ [] := fun h => hs (List.isEmpty_iff.mpr h)
    simp only [numeralFrom_eq_some_iff, Nat.ofDigits_eq_foldr, List.foldr_reverse, hne, ne_eq,
      not_false_eq_true, true_and, Nat.cast_id]

theorem exists_isNumeral {s : List Char} (hs : s ≠ []) (h : ∀ c ∈ s, isDecimal c = true) :
    ∃ n, IsNumeral s n := by
  have hds : ∃ ds : List Nat, s.map digitValue? = ds.map some := by
    clear hs
    induction s with
    | nil => exact ⟨[], rfl⟩
    | cons c r ih =>
      obtain ⟨hc, hr⟩ := List.forall_mem_cons.mp h
      obtain ⟨d, hd⟩ := Option.isSome_iff_exists.mp hc
      obtain ⟨ds, hds⟩ := ih hr
      exact ⟨d :: ds, by rw [List.map_cons, hd, hds, List.map_cons]⟩
  obtain ⟨ds, hds⟩ := hds
  exact ⟨_, hs, ds, hds, rfl⟩

theorem IsNumeral.isDecimal {s : List Char} {n : Nat} (h : IsNumeral s n) :
    ∀ c ∈ s, isDecimal c = true := by
  obtain ⟨-, ds, hds, -⟩ := h
  intro c hc
  have hmem : digitValue? c ∈ ds.map some := hds ▸ List.mem_map_of_mem hc
  obtain ⟨d, -, hd⟩ := List.mem_map.mp hmem
  exact Option.isSome_iff_exists.mpr ⟨d, hd.symm⟩

end CrateDocs.Text

namespace CrateDocs.Cli

open Plan

/-- Lines of digit signs that are taken for a number but cannot be read as one. -/
structure IsUnreadable (line : List Char) : Prop where
  ne_nil : line ≠ []
  signs : ∀ c ∈ line, Text.isDigitSign c = true
  unread : (∃ c ∈ line, Text.isDecimal c = false) ∨ Decimal.numeralLimit < line.length

variable {hits : List Hit} {answer : String}

theorem choose_of_isUnreadable (h : IsUnreadable (choiceOf answer)) : choose hits answer = none := by
  have hguard : ((choiceOf answer).isEmpty || !(choiceOf answer).all Text.isDigitSign) = false := by
    simpa using ⟨h.ne_nil, h.signs⟩
  unfold choose
  dsimp only
  rw [hguard, if_neg Bool.false_ne_true]
  split
  · rfl
  · next hlong =>
    obtain ⟨c, hc, hdec⟩ := h.unread.resolve_right hlong
    cases hn : Text.numeral? (choiceOf answer) with
    | none => rfl
    | some n =>
      have hall := (Text.numeral?_eq_some_iff.mp hn).isDecimal c hc
      rw [hdec] at hall
      cases hall

theorem choose_of_isNumeral (h : ¬IsUnreadable (choiceOf answer)) {n : Nat}
    (hn : Text.IsNumeral (choiceOf answer) n) : choose hits answer = some hits[n]? := by
  have hsigns : ∀ c ∈ choiceOf answer, Text.isDigitSign c = true := by
    intro c hc
    rw [Text.isDigitSign, hn.isDecimal c hc, Bool.true_or]
  have hshort : ¬Decimal.numeralLimit < (choiceOf answer).length := by
    intro hlong
    exact h ⟨hn.1, hsigns, .inr hlong⟩
  have hguard : ((choiceOf answer).isEmpty || !(choiceOf answer).all Text.isDigitSign) = false := by
    simpa using ⟨hn.1, hsigns⟩
  unfold choose
  dsimp only
  rw [hguard, if_neg Bool.false_ne_true, if_neg hshort, Text.numeral?_eq_some_iff.mpr hn]
  rfl

theorem choose_of_not_isNumeral (h : ¬IsUnreadable (choiceOf answer))
    (hn : ∀ n, ¬Text.IsNumeral (choiceOf answer) n) : choose hits answer = some none := by
  have hguard : ((choiceOf answer).isEmpty || !(choiceOf answer).all Text.isDigitSign) = true := by
    by_contra hsigns
    obtain ⟨hne, hsigns⟩ : choiceOf answer ≠ [] ∧ ∀ c ∈ choiceOf answer, Text.isDigitSign c = true := by
      simpa using hsigns
    have hdec : ∀ c ∈ choiceOf answer, Text.isDecimal c = true := by
      intro c hc
      by_contra hc'
      exact h ⟨hne, hsigns, .inl ⟨c, hc, by simpa using hc'⟩⟩
    obtain ⟨n, hn'⟩ := Text.exists_isNumeral hne hdec
    exact hn n hn'
  unfold choose
  dsimp only
  rw [hguard, if_pos rfl]

theorem result_selectHit (w : World) (keyword : String) (hits : List Hit) :
    ((selectHit true keyword hits).run w).result =
      match choose hits (w (.person (choicePrompt keyword hits))) with
      | some o => .ok o
      | none => .error .noNumber := by
  have hrun : (selectHit true keyword hits).run w =
      (match choose hits (w (.person (choicePrompt keyword hits))) with
        | some h => (pure h : Plan Error (Option Hit))
        | none => .fail .noNumber).run w := rfl
  rw [hrun]
  cases choose hits (w (.person (choicePrompt keyword hits))) <;> rfl

theorem shown_selectHit (w : World) (keyword : String) (hits : List Hit) :
    (selectHit true keyword hits).shown w = choicePrompt keyword hits := by
  have hshown : (selectHit true keyword hits).shown w = choicePrompt keyword hits ++
      (match choose hits (w (.person (choicePrompt keyword hits))) with
        | some h => (pure h : Plan Error (Option Hit))
        | none => .fail .noNumber).shown w := rfl
  rw [hshown]
  cases choose hits (w (.person (choicePrompt keyword hits))) <;> exact String.append_empty

def ShowsHit (line : String) (i : Nat) (h : Hit) : Prop :=
  ∃ n, line = "[ " ++ String.ofList (List.replicate n ' ') ++ toString i ++ " ] " ++ h.summary ++ "\n"

theorem showsHit_choiceLine (width : Nat) (h : Hit) (i : Nat) :
    ShowsHit (choiceLine width h i) i h := by
  refine ⟨width - (toString i).length, ?_⟩
  simp [choiceLine, padLeft, String.append_assoc]

theorem selectHit_outcome (w : World) (keyword : String) (hits : List Hit) :
    let line := choiceOf (w (.person (choicePrompt keyword hits)))
    let result := ((selectHit true keyword hits).run w).result
    (IsUnreadable line → result = .error .noNumber) ∧
      (¬IsUnreadable line →
        (∀ i h, hits[i]? = some h → Text.IsNumeral line i → result = .ok (some h)) ∧
        ((∀ i < hits.length, ¬Text.IsNumeral line i) → result = .ok none)) ∧
      ∃ lines : List String,
        (selectHit true keyword hits).shown w =
          "Found multiple matches for " ++ keyword ++ " - select one of:\n\n" ++
            String.join lines ++ "\n> " ∧
        lines.length = hits.length ∧
        ∀ i h, hits[i]? = some h → ∃ l, lines[i]? = some l ∧ ShowsHit l i h := by
  intro line result
  have hresult := result_selectHit w keyword hits
  refine ⟨?_, ?_, ?_⟩
  · intro h
    rw [choose_of_isUnreadable h] at hresult
    exact hresult
  · intro h
    constructor
    · intro i hit hi hn
      rw [choose_of_isNumeral h hn, hi] at hresult
      exact hresult
    · intro hnone
      by_cases hn : ∃ n, Text.IsNumeral line n
      · obtain ⟨n, hn⟩ := hn
        have hlen : hits.length ≤ n := Nat.not_lt.mp fun hlt => hnone n hlt hn
        rw [choose_of_isNumeral h hn, List.getElem?_eq_none hlen] at hresult
        exact hresult
      · rw [choose_of_not_isNumeral h (not_exists.mp hn)] at hresult
        exact hresult
  · refine ⟨hits.zipIdx.map fun x => choiceLine (numberWidth hits.length) x.1 x.2, ?_, ?_, ?_⟩
    · exact shown_selectHit w keyword hits
    · rw [List.length_map, List.length_zipIdx]
    · intro i hit hi
      refine ⟨choiceLine (numberWidth hits.length) hit i, ?_, showsHit_choiceLine _ hit i⟩
      simp [hi]

def answering (answer : String) : World
  | .isFile _ => .ok false
  | .isFolder _ => .ok false
  | .read _ => .error .missing
  | .entries _ => .ok []
  | .here => Path.ofString "/"
  | .compiler => .missing
  | .person _ => answer

def constructors : List Hit := [⟨"a::S", "new", "", some .method⟩, ⟨"b::T", "new", "", some .method⟩]

theorem selectHit_outcome_arabic :
    ((selectHit true "new" constructors).run (answering " ١\t\nq")).result =
      .ok (some ⟨"b::T", "new", "", some .method⟩) := by
  obtain ⟨-, hread, -⟩ := selectHit_outcome (answering " ١\t\nq") "new" constructors
  have hline : choiceOf " ١\t\nq" = ['١'] := by decide
  have hnumeral : Text.IsNumeral (choiceOf " ١\t\nq") 1 := by
    rw [hline]
    exact ⟨by simp, [1], by decide, rfl⟩
  have hreadable : ¬IsUnreadable (choiceOf " ١\t\nq") := by
    rw [hline]
    rintro ⟨-, -, ⟨c, hc, hdec⟩ | hlong⟩
    · obtain rfl := List.mem_singleton.mp hc
      exact absurd hdec (by decide)
    · exact absurd hlong (by decide)
  exact (hread hreadable).1 1 _ rfl hnumeral

/-- A raised two is a digit sign, but no decimal digit. -/
theorem not_selectHit_answered_superscript :
    ¬∀ (w : World) (keyword : String) (hits : List Hit), hits ≠ [] →
      ∃ o, ((selectHit true keyword hits).run w).result = .ok o := by
  intro hall
  obtain ⟨o, ho⟩ := hall (answering "²") "new" constructors (by simp [constructors])
  have hchoose : choose constructors "²" = none := by decide
  have hresult := result_selectHit (answering "²") "new" constructors
  have hanswer : answering "²" (.person (choicePrompt "new" constructors)) = "²" := rfl
  rw [hanswer, hchoose, ho] at hresult
  cases hresult

end CrateDocs.Cli
