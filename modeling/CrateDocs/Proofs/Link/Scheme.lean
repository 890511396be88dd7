import CrateDocs.Link.Scheme
import CrateDocs.Proofs.Text.Split
import Mathlib.Data.List.TakeWhile

/-!
Schemes and hosts of links. A link is malformed if it has a host that is none. A link without a colon
in its path has no scheme, and one without brackets and hidden delimiters is never malformed.
-/

namespace CrateDocs.Link

def IsScheme (s : List Char) : Prop :=
  ∃ c r, s = c :: r ∧ isSchemeStart c = true ∧ ∀ d ∈ r, isSchemeChar d = true

def HasScheme (url : List Char) : Prop :=
  ∃ s rest, IsScheme s ∧ significant url = s ++ ':' :: rest

def HasHost (url host : List Char) : Prop :=
  ∃ rest tail, (¬HasScheme url ∧ significant url = rest ∨
      ∃ s, IsScheme s ∧ significant url = s ++ ':' :: rest) ∧
    rest = '/' :: '/' :: (host ++ tail) ∧
    (∀ c ∈ host, c ≠ '/' ∧ c ≠ '?' ∧ c ≠ '#') ∧ ∀ c ∈ tail.head?, c = '/' ∨ c = '?' ∨ c = '#'

def IsMalformed (url : List Char) : Prop := ∃ host, HasHost url host ∧ isHost host = false

theorem IsScheme.not_mem_colon {s : List Char} (h : IsScheme s) : ':' ∉ s := by
  obtain ⟨c, r, rfl, hc, hr⟩ := h
  intro hmem
  rcases List.mem_cons.mp hmem with rfl | hmem
  · exact absurd hc (by decide)
  · exact absurd (hr _ hmem) (by decide)

theorem cutScheme_eq_some_iff {url s rest : List Char} :
    cutScheme url = some (s, rest) ↔ IsScheme s ∧ url = s ++ ':' :: rest := by
  constructor
  · intro h
    unfold cutScheme at h
    rcases Text.cutChar_cases ':' url with ⟨-, hcut⟩ | ⟨a, b, -, rfl, hcut⟩
    · rw [hcut] at h
      cases url <;> cases h
    · rw [hcut] at h
      cases a with
      | nil => cases h
      | cons c r =>
        dsimp only at h
        split at h
        · next hc =>
          cases h
          rw [Bool.and_eq_true, List.all_eq_true] at hc
          exact ⟨⟨c, r, rfl, hc⟩, rfl⟩
        · cases h
  · rintro ⟨hs, rfl⟩
    have hcut := Text.cutChar_append_cons hs.not_mem_colon rest
    obtain ⟨c, r, rfl, hc, hr⟩ := hs
    rw [cutScheme, hcut]
    simp [hc, List.all_eq_true.mpr hr]

theorem isSome_cutScheme_iff {url : List Char} :
    (cutScheme (significant url)).isSome = true ↔ HasScheme url := by
  rw [Option.isSome_iff_exists]
  constructor
  · rintro ⟨⟨s, rest⟩, h⟩
    exact ⟨s, rest, cutScheme_eq_some_iff.mp h⟩
  · rintro ⟨s, rest, h⟩
    exact ⟨(s, rest), cutScheme_eq_some_iff.mpr h⟩

theorem cutScheme_eq_none_iff {url : List Char} :
    cutScheme (significant url) = none ↔ ¬HasScheme url := by
  rw [← isSome_cutScheme_iff, Option.not_isSome_iff_eq_none]

theorem host?_eq_some_iff {rest host : List Char} :
    host? rest = some host ↔ ∃ tail, rest = '/' :: '/' :: (host ++ tail) ∧
      (∀ c ∈ host, c ≠ '/' ∧ c ≠ '?' ∧ c ≠ '#') ∧
      ∀ c ∈ tail.head?, c = '/' ∨ c = '?' ∨ c = '#' := by
  let inside := fun c : Char => !(c == '/' || c == '?' || c == '#')
  have hinside : ∀ c, inside c = true ↔ c ≠ '/' ∧ c ≠ '?' ∧ c ≠ '#' := by
    intro c
    simp [inside, and_assoc]
  constructor
  · intro h
    unfold host? at h
    split at h
    · next r =>
      obtain rfl := Option.some.inj h
      refine ⟨r.dropWhile inside, ?_, ?_, ?_⟩
      · rw [List.takeWhile_append_dropWhile]
      · intro c hc
        exact (hinside c).mp (List.mem_takeWhile_imp hc)
      · intro c hc
        have hnot := List.head?_dropWhile_not inside r
        rw [Option.mem_def.mp hc] at hnot
        simpa [inside, Decidable.or_iff_not_imp_left] using hnot
    · cases h
  · rintro ⟨tail, rfl, hhost, htail⟩
    have hstop : tail.takeWhile inside = [] := by
      cases tail with
      | nil => rfl
      | cons c r =>
        have hc : ¬inside c = true := by
          rw [hinside]
          rintro ⟨h1, h2, h3⟩
          rcases htail c rfl with h | h | h <;> contradiction
        rw [List.takeWhile_cons_of_neg hc]
    have htake : (host ++ tail).takeWhile inside = host := by
      rw [List.takeWhile_append_of_pos fun c hc => (hinside c).mpr (hhost c hc), hstop,
        List.append_nil]
    exact congrArg some htake

theorem hasHost_iff {url host : List Char} :
    HasHost url host ↔
      host? (((cutScheme (significant url)).map Prod.snd).getD (significant url)) = some host := by
  rw [host?_eq_some_iff]
  constructor
  · rintro ⟨rest, tail, ⟨hnone, rfl⟩ | ⟨s, hs, hurl⟩, hrest⟩
    · rw [cutScheme_eq_none_iff.mpr hnone]
      exact ⟨tail, hrest⟩
    · rw [cutScheme_eq_some_iff.mpr ⟨hs, hurl⟩]
      exact ⟨tail, hrest⟩
  · rintro ⟨tail, hrest⟩
    refine ⟨_, tail, ?_, hrest⟩
    cases hcut : cutScheme (significant url) with
    | none => exact .inl ⟨cutScheme_eq_none_iff.mp hcut, rfl⟩
    | some p =>
      obtain ⟨s, rest⟩ := p
      exact .inr ⟨s, cutScheme_eq_some_iff.mp hcut⟩

theorem hasScheme?_eq_none_iff {url : List Char} : hasScheme? url = none ↔ IsMalformed url := by
  simp only [hasScheme?, IsMalformed, hasHost_iff]
  cases host? (((cutScheme (significant url)).map Prod.snd).getD (significant url)) <;> simp

theorem hasScheme?_eq_some_iff {url : List Char} {b : Bool} :
    hasScheme? url = some b ↔ ¬IsMalformed url ∧ (b = true ↔ HasScheme url) := by
  rw [← hasScheme?_eq_none_iff, ← isSome_cutScheme_iff]
  simp only [hasScheme?]
  split
  · simp only [Option.some.injEq, reduceCtorEq, not_false_eq_true, true_and]
    rw [eq_comm, Bool.eq_iff_iff]
  · simp

theorem significant_sublist (url : List Char) : (significant url).Sublist url :=
  List.filter_sublist.trans (List.dropWhile_sublist _)

theorem HasHost.subset {url host : List Char} (h : HasHost url host) : host ⊆ url := by
  obtain ⟨rest, tail, hrest, hhost, -⟩ := h
  have hsub : rest ⊆ significant url := by
    rcases hrest with ⟨-, hurl⟩ | ⟨s, -, hurl⟩
    · rw [hurl]
      exact List.Subset.refl rest
    · rw [hurl]
      exact fun c hc => List.mem_append_right s (List.mem_cons_of_mem ':' hc)
  intro c hc
  refine (significant_sublist url).subset (hsub ?_)
  simp [hhost, hc]

theorem not_isMalformed_of_forall {url : List Char}
    (h : ∀ c ∈ url, c ≠ '[' ∧ c ≠ ']' ∧ hiddenDelimiters.contains c = false) :
    ¬IsMalformed url := by
  rintro ⟨host, hhost, hbad⟩
  have hl : host.contains '[' = false := by
    simpa using fun hc => (h _ (hhost.subset hc)).1 rfl
  have hr : host.contains ']' = false := by
    simpa using fun hc => (h _ (hhost.subset hc)).2.1 rfl
  have hnone : host.any hiddenDelimiters.contains = false := by
    rw [List.any_eq_false]
    intro c hc
    rw [(h c (hhost.subset hc)).2.2]
    exact Bool.false_ne_true
  rw [isHost, hl, hr, hnone] at hbad
  cases hbad

def IsAfterPath (rest : List Char) : Prop := rest = [] ∨ ∃ f, rest = '#' :: f

theorem cutScheme_eq_none {s rest : List Char} (hs : ':' ∉ s) (hrest : IsAfterPath rest) :
    cutScheme (s ++ rest) = none := by
  rcases hrest with rfl | ⟨f, rfl⟩
  · simp [cutScheme, Text.cutChar_of_not_mem hs]
  · have hnumber : isSchemeChar '#' = false := by decide
    rw [cutScheme, Text.cutChar_append hs, Text.cutChar, if_neg (by decide)]
    cases s with
    | nil => cases (Text.cutChar ':' f).2 <;> simp [isSchemeStart]
    | cons c r => cases (Text.cutChar ':' f).2 <;> simp [hnumber]

theorem significant_append {s rest : List Char} (hs : ∀ c ∈ s, 0x20 ≤ c.toNat)
    (hrest : IsAfterPath rest) :
    ∃ rest', IsAfterPath rest' ∧ significant (s ++ rest) =
      s.dropWhile (fun c => decide (c.toNat ≤ 0x20)) ++ rest' := by
  let blank := fun c : Char => decide (c.toNat ≤ 0x20)
  let counts := fun c : Char => !(c == '\t' || c == '\r' || c == '\n')
  have hdrop : (s ++ rest).dropWhile blank = s.dropWhile blank ++ rest := by
    have hr : rest.dropWhile blank = rest := by
      rcases hrest with rfl | ⟨f, rfl⟩ <;> rfl
    rw [List.dropWhile_append, hr]
    split
    · next h => rw [List.isEmpty_iff.mp h, List.nil_append]
    · rfl
  -- Of the characters that are left out everywhere, the path has none.
  have hkeep : (s.dropWhile blank).filter counts = s.dropWhile blank := by
    rw [List.filter_eq_self]
    intro c hc
    have hge := hs c ((List.dropWhile_suffix blank).mem hc)
    have hne : ∀ d : Char, d.toNat < 0x20 → c ≠ d := by
      rintro d hd rfl
      omega
    simp [counts, hne '\t' (by decide), hne '\r' (by decide), hne '\n' (by decide)]
  refine ⟨rest.filter counts, ?_, ?_⟩
  · rcases hrest with rfl | ⟨f, rfl⟩
    · exact .inl rfl
    · exact .inr ⟨f.filter counts, rfl⟩
  · rw [significant, hdrop, List.filter_append, hkeep]

theorem host?_eq_none {s rest : List Char} (hs : ¬['/', '/'] <+: s) (hrest : IsAfterPath rest) :
    host? (s ++ rest) = none := by
  have hslash : ∀ t, rest ≠ '/' :: t := by
    rintro t rfl
    rcases hrest with h | ⟨f, h⟩ <;> cases h
  unfold host?
  split
  · next r hr =>
    match s with
    | [] => exact absurd hr (hslash _)
    | [c] => exact absurd (List.cons.inj hr).2 (hslash _)
    | c :: d :: t =>
      obtain ⟨rfl, hd⟩ := List.cons.inj hr
      obtain ⟨rfl, -⟩ := List.cons.inj hd
      exact absurd ⟨t, rfl⟩ hs
  · rfl

theorem not_hasScheme_of_path {s rest : List Char} (hs : ∀ c ∈ s, c ≠ ':' ∧ 0x20 ≤ c.toNat)
    (hrest : IsAfterPath rest) : ¬HasScheme (s ++ rest) := by
  obtain ⟨rest', hrest', hsig⟩ := significant_append (fun c hc => (hs c hc).2) hrest
  have hsuffix := List.dropWhile_suffix (fun c : Char => decide (c.toNat ≤ 0x20)) (l := s)
  rw [← cutScheme_eq_none_iff, hsig]
  exact cutScheme_eq_none (fun hc => (hs _ (hsuffix.mem hc)).1 rfl) hrest'

theorem not_isMalformed_of_path {s rest : List Char} (hs : ∀ c ∈ s, c ≠ ':' ∧ 0x20 ≤ c.toNat)
    (hhost : ¬['/', '/'] <+: s.dropWhile fun c => decide (c.toNat ≤ 0x20))
    (hrest : IsAfterPath rest) : ¬IsMalformed (s ++ rest) := by
  obtain ⟨rest', hrest', hsig⟩ := significant_append (fun c hc => (hs c hc).2) hrest
  have hscheme := cutScheme_eq_none_iff.mpr (not_hasScheme_of_path hs hrest)
  rintro ⟨host, h, -⟩
  rw [hasHost_iff, hscheme, hsig] at h
  cases h.symm.trans (host?_eq_none hhost hrest')

theorem hasScheme?_of_path {s rest : List Char} (hs : ∀ c ∈ s, c ≠ ':' ∧ 0x20 ≤ c.toNat)
    (hhost : ¬['/', '/'] <:+: s) (hrest : IsAfterPath rest) :
    hasScheme? (s ++ rest) = some false := by
  have hsuffix := List.dropWhile_suffix (fun c : Char => decide (c.toNat ≤ 0x20)) (l := s)
  have hprefix : ¬['/', '/'] <+: s.dropWhile fun c => decide (c.toNat ≤ 0x20) :=
    fun h => hhost (h.isInfix.trans hsuffix.isInfix)
  refine hasScheme?_eq_some_iff.mpr ⟨not_isMalformed_of_path hs hprefix hrest, ?_⟩
  simp [not_hasScheme_of_path hs hrest]

end CrateDocs.Link
