import CrateDocs.Proofs.Except
import CrateDocs.Proofs.Link.Scheme
import CrateDocs.Proofs.Link.Step
import Mathlib.Data.List.Basic

/-!
What a link resolves to, whatever its characters. A link with a scheme leads out of the documentation,
and any other one to an item, unless it cannot be resolved for a cause that stands in its path or its
fragment. Only a link with a malformed host fails in another way.
-/

namespace CrateDocs

theorem Kind.ofToken_eq_error {s : String} {u : Kind.Unknown} (h : Kind.ofToken s = .error u) :
    u = .token s ∧ ∀ k : Kind, k.token ≠ s := by
  refine ⟨?_, ?_⟩
  · unfold ofToken at h
    split at h
    · cases h
    · exact (Except.error.inj h).symm
  · rintro k rfl
    rw [ofToken_token] at h
    cases h

namespace Link

/-- What is wrong in a link: it goes up, it ends neither at a page nor in a directory, or it has the
token of no kind. -/
inductive IsCauseIn (link : List Char) : Cause → Prop where
  | aboveRoot (h : "..".toList ∈ steps (Text.cutChar '#' link).1) : IsCauseIn link .aboveRoot
  | root {p : List Char} (hlast : (steps (Text.cutChar '#' link).1).getLast? = some p)
      (hp : p = "..".toList ∨ p = "index.html".toList) : IsCauseIn link .root
  | unknownKind {t n : List Char} (ht : t ≠ []) (hn : n ≠ []) (hdt : '.' ∉ t) (hdn : '.' ∉ n)
      (hk : ∀ k : Kind, k.token ≠ String.ofList t)
      (h : t ++ '.' :: n ++ Cursor.htmlSuffix ∈ steps (Text.cutChar '#' link).1 ∨
        (Text.cutChar '#' link).2 = some (t ++ '.' :: n)) :
      IsCauseIn link (.unknownKind (.token (String.ofList t)))

variable {link : List Char}

theorem isCauseIn_of_read {stem : List Char} {u : Kind.Unknown} (hu : Anchor.read stem = .error u)
    (h : stem ++ Cursor.htmlSuffix ∈ steps (Text.cutChar '#' link).1 ∨
      (Text.cutChar '#' link).2 = some stem) : IsCauseIn link (.unknownKind u) := by
  obtain ⟨t, n, rfl, ht, hn, hdt, hdn, hk⟩ := Anchor.read_eq_error hu
  obtain ⟨rfl, hnone⟩ := Kind.ofToken_eq_error hk
  exact .unknownKind ht hn hdt hdn hnone h

theorem isCauseIn_of_step {c : Cursor} {p : List Char} {cause : Cause}
    (hp : p ∈ steps (Text.cutChar '#' link).1) (h : c.step p = .error cause) :
    IsCauseIn link cause := by
  rw [Cursor.step_eq_move] at h
  by_cases hup : p = "..".toList
  · subst hup
    have hmove : c.move (.ofPart "..".toList) = c.up := rfl
    rw [hmove, Cursor.up] at h
    split at h
    · cases h
    · obtain rfl := Except.error.inj h
      exact .aboveRoot hp
  · by_cases hindex : p = "index.html".toList
    · subst hindex
      cases h
    · rcases Move.ofPart_child hup hindex with ⟨k, s, hdown⟩ | ⟨u, hfault⟩
      · rw [hdown] at h
        cases h
      · obtain ⟨stem, rfl, hu⟩ := Move.ofPart_eq_fault hfault
        rw [hfault] at h
        obtain rfl := Except.error.inj h
        exact isCauseIn_of_read hu (.inl hp)

theorem isCauseIn_of_no_name {name : Name} {kind : Kind} {c : Cursor}
    (hwalk : (steps (Text.cutChar '#' link).1).foldlM Cursor.step
      (start name kind (steps (Text.cutChar '#' link).1)) = .ok c) (hc : c.name = none) :
    IsCauseIn link .root := by
  rcases List.eq_nil_or_concat' (steps (Text.cutChar '#' link).1) with hnil | ⟨r, p, hconcat⟩
  · rw [hnil, start, if_pos (.inr rfl)] at hwalk
    obtain rfl := Except.ok.inj hwalk
    cases hc
  · refine .root (p := p) (by rw [hconcat, List.getLast?_concat]) ?_
    rw [hconcat] at hwalk
    obtain ⟨c', hstep⟩ := exists_of_foldlM_concat_eq_ok hwalk
    rw [Cursor.step_eq_move] at hstep
    by_contra hp
    rw [not_or] at hp
    rcases Move.ofPart_child hp.1 hp.2 with ⟨k, s, hdown⟩ | ⟨u, hfault⟩
    · rw [hdown] at hstep
      obtain rfl := Except.ok.inj hstep
      cases hc
    · rw [hfault] at hstep
      cases hstep

theorem follow_cases (name : Name) (kind : Kind) (link : List Char) :
    (∃ k n, follow name kind link = .ok (.item k n)) ∨
      ∃ cause, IsCauseIn link cause ∧ follow name kind link = .error cause := by
  rw [follow_eq]
  cases hwalk : (steps (Text.cutChar '#' link).1).foldlM Cursor.step
      (start name kind (steps (Text.cutChar '#' link).1)) with
  | error cause =>
    obtain ⟨p, hp, c, hstep⟩ := exists_of_foldlM_eq_error hwalk
    exact .inr ⟨cause, isCauseIn_of_step hp hstep, rfl⟩
  | ok c =>
    -- The walk is at an item or at the root, and a fragment that is no anchor leaves it there.
    have hend : (∃ k n, c.arrive none = .ok (.item k n)) ∨
        ∃ cause, IsCauseIn link cause ∧ c.arrive none = .error cause := by
      cases hc : c.name with
      | some n => exact .inl ⟨c.kind, n, Cursor.arrive_of_name hc⟩
      | none => exact .inr ⟨.root, isCauseIn_of_no_name hwalk hc, Cursor.arrive_of_no_name hc⟩
    cases hf : (Text.cutChar '#' link).2 with
    | none => exact hend
    | some f =>
      cases hread : Anchor.read f with
      | error u =>
        exact .inr ⟨_, isCauseIn_of_read hread (.inr hf), Cursor.arrive_of_read_eq_error hread⟩
      | ok o =>
        cases o with
        | none =>
          have harrive := Cursor.arrive_of_read_eq_none (c := c) hread
          rw [← harrive] at hend
          exact hend
        | some p =>
          obtain ⟨k, s⟩ := p
          obtain ⟨n, -, hn⟩ := Cursor.arrive_child c (some k) s
          exact .inl ⟨some k, n, (Cursor.arrive_of_read_eq_some hread).trans hn⟩

theorem resolve_outcome (name : Name) (kind : Kind) (link : String) :
    (IsMalformed link.toList → resolve name kind link = .error .malformedUrl) ∧
      (¬IsMalformed link.toList →
        (HasScheme link.toList → resolve name kind link = .ok (.external link)) ∧
        (¬HasScheme link.toList →
          (∃ k n, resolve name kind link = .ok (.item k n)) ∨
            ∃ cause, IsCauseIn link.toList cause ∧
              resolve name kind link = .error (.unresolved link cause))) ∧
      ((∀ c ∈ link.toList, c ≠ '[' ∧ c ≠ ']' ∧ hiddenDelimiters.contains c = false) →
        ¬IsMalformed link.toList) := by
  refine ⟨?_, ?_, not_isMalformed_of_forall⟩
  · intro h
    rw [resolve, hasScheme?_eq_none_iff.mpr h]
  · intro h
    constructor
    · intro hs
      have hscheme : hasScheme? link.toList = some true :=
        hasScheme?_eq_some_iff.mpr ⟨h, by simp [hs]⟩
      rw [resolve, hscheme]
    · intro hs
      have hscheme : hasScheme? link.toList = some false :=
        hasScheme?_eq_some_iff.mpr ⟨h, by simp [hs]⟩
      rw [resolve, hscheme]
      dsimp only
      rcases follow_cases name kind link.toList with ⟨k, n, hitem⟩ | ⟨cause, hcause, herror⟩
      · exact .inl ⟨k, n, by rw [hitem]⟩
      · exact .inr ⟨cause, hcause, by rw [herror]⟩

theorem resolve_outcome_website :
    resolve ⟨"a::B"⟩ .struct "https://docs.rs/a?b#c.d" =
      .ok (.external "https://docs.rs/a?b#c.d") := by
  obtain ⟨-, hfits, hplain⟩ := resolve_outcome ⟨"a::B"⟩ .struct "https://docs.rs/a?b#c.d"
  have hscheme : HasScheme "https://docs.rs/a?b#c.d".toList :=
    ⟨"https".toList, "//docs.rs/a?b#c.d".toList,
      ⟨'h', "ttps".toList, rfl, by decide, List.all_eq_true.mp (by decide)⟩, by decide⟩
  exact (hfits (hplain (List.forall_iff_forall_mem.mp (by decide)))).1 hscheme

/-- A bracket that is not closed, in a link with a scheme and in one without. -/
theorem not_resolve_outcome_bracket :
    (¬∀ (name : Name) (kind : Kind) (link : String),
      resolve name kind link = .ok (.external link) ↔ HasScheme link.toList) ∧
    ¬∀ (name : Name) (kind : Kind) (link : String), ¬HasScheme link.toList →
      (∃ k n, resolve name kind link = .ok (.item k n)) ∨
        ∃ cause, resolve name kind link = .error (.unresolved link cause) := by
  constructor
  · intro hall
    have hresolve : resolve ⟨"a::B"⟩ .struct "http://[" = .error .malformedUrl := by
      decide
    have hscheme : HasScheme "http://[".toList :=
      ⟨"http".toList, "//[".toList,
        ⟨'h', "ttp".toList, rfl, by decide, List.all_eq_true.mp (by decide)⟩, by decide⟩
    rw [(hall ⟨"a::B"⟩ .struct "http://[").mpr hscheme] at hresolve
    cases hresolve
  · intro hall
    have hresolve : resolve ⟨"a::B"⟩ .struct "//[" = .error .malformedUrl := by decide
    have hscheme : ¬HasScheme "//[".toList :=
      cutScheme_eq_none_iff.mp (by decide)
    rcases hall ⟨"a::B"⟩ .struct "//[" hscheme with ⟨k, n, h⟩ | ⟨cause, h⟩
    · rw [hresolve] at h
      cases h
    · rw [hresolve] at h
      cases h

end Link

end CrateDocs
