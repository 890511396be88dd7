import CrateDocs.Proofs.Index.Forms
import CrateDocs.Proofs.Index.Quoted
import CrateDocs.Proofs.Json.Limits

/-!
What comes of the bytes of an index file. There is no index where no line has one; an index has
every package of its text, or else the file is malformed. Only the limits of reading JSON fail in
another way.
-/

namespace CrateDocs.Index

open Json (Value)
open Wrapper (HasNoIndex IsUnterminated Carries)

variable {source : Option Path} {ms : List (String × Value)} {s text : List Char}
  {ls : List (List Char)} {e : Error}

def IsDecoded (m : String × Value) (p : String × Package) : Prop :=
  p.1 = m.1 ∧ ∃ f : Format, f.decode m.2 = .ok p.2

def IsBeyondLimits (text : List Char) : Error → Prop
  | .malformed _ _ => False
  | .tooDeep => Json.parse text = .error .tooDeep ∧ Json.depthLimit < text.countP Json.isBracket
  | .numeralTooLong => Json.parse text = .error .numeralTooLong ∧ Json.HasLongNumeral text

theorem map_eq_ok_iff {ε α β : Type} {x : Except ε α} {f : α → β} {b : β} :
    x.map f = .ok b ↔ ∃ a, x = .ok a ∧ f a = b := by
  cases x <;> simp [Except.map]

theorem map_eq_error_iff {ε α β : Type} {x : Except ε α} {f : α → β} {e : ε} :
    x.map f = .error e ↔ x = .error e := by
  cases x <;> simp [Except.map]

theorem result_decodePackages_eq_ok_iff {ps : List (String × Package)} :
    (decodePackages source ms).result = .ok ps ↔ List.Forall₂ IsDecoded ms ps := by
  induction ms generalizing ps with
  | nil =>
    rw [List.forall₂_nil_left_iff]
    exact ⟨fun h => (Except.ok.inj h).symm, fun h => h ▸ rfl⟩
  | cons m r ih =>
    obtain ⟨name, v⟩ := m
    have hone (p : Package) : (decodePackage source name v).result = .ok p ↔
        ∃ f : Format, f.decode v = .ok p := by
      rw [← decodePackageIn_all]
      exact result_decodePackageIn_eq_ok_iff Format.mem_all source name v
    simp only [decodePackages, Traced.bind_eq_ok_iff, hone, ih, Traced.result_pure,
      Except.ok.injEq, List.forall₂_cons_left_iff]
    constructor
    · rintro ⟨p, hp, qs, hr, rfl⟩
      exact ⟨(name, p), qs, ⟨rfl, hp⟩, hr, rfl⟩
    · rintro ⟨⟨_, p⟩, qs, ⟨rfl, hp⟩, hr, rfl⟩
      exact ⟨p, hp, qs, hr, rfl⟩

theorem malformed_of_result_decodePackages (h : (decodePackages source ms).result = .error e) :
    ∃ cause, e = .malformed source cause := by
  induction ms with
  | nil => cases h
  | cons m r ih =>
    obtain ⟨name, v⟩ := m
    obtain hp | ⟨p, -, h⟩ := Traced.bind_eq_error_iff.mp h
    · rw [← decodePackageIn_all] at hp
      obtain ⟨rejections, -, rfl⟩ := malformed_of_result_decodePackageIn hp
      exact ⟨_, rfl⟩
    · obtain hr | ⟨ps, -, h⟩ := Traced.bind_eq_error_iff.mp h
      · exact ih hr
      · cases h

theorem result_ofText_object (source : Option Path) (h : Json.parse text = .ok (.object ms)) :
    (ofText source text).result = (decodePackages source ms).result.map Index.mk := by
  unfold ofText
  rw [h]
  simp only [Traced.result_bind]
  cases (decodePackages source ms).result <;> rfl

theorem result_ofText_eq_ok_iff {x : Index} :
    (ofText source text).result = .ok x ↔
      ∃ ms, Json.parse text = .ok (.object ms) ∧ List.Forall₂ IsDecoded ms x.packages := by
  constructor
  · intro h
    have hobject : ∃ ms, Json.parse text = .ok (.object ms) := by
      unfold ofText at h
      split at h
      · cases h
      · next ms hms => exact ⟨ms, hms⟩
      · cases h
    obtain ⟨ms, hms⟩ := hobject
    rw [result_ofText_object source hms, map_eq_ok_iff] at h
    obtain ⟨ps, hps, rfl⟩ := h
    exact ⟨ms, hms, result_decodePackages_eq_ok_iff.mp hps⟩
  · rintro ⟨ms, hms, hps⟩
    rw [result_ofText_object source hms, result_decodePackages_eq_ok_iff.mpr hps]
    rfl

theorem error_of_result_ofText (h : (ofText source text).result = .error e) :
    (∃ cause, e = .malformed source cause) ∨ IsBeyondLimits text e := by
  cases hparse : Json.parse text with
  | error f =>
    have hcause := Json.isCause_of_parse hparse
    unfold ofText at h
    rw [hparse] at h
    cases h
    cases f with
    | «at» f offset => exact .inl ⟨_, rfl⟩
    | tooDeep => exact .inr ⟨hparse, hcause⟩
    | numeralTooLong => exact .inr ⟨hparse, hcause⟩
  | ok v =>
    refine .inl ?_
    cases v with
    | object ms =>
      rw [result_ofText_object source hparse, map_eq_error_iff] at h
      exact malformed_of_result_decodePackages h
    | _ =>
      unfold ofText at h
      rw [hparse] at h
      cases h
      exact ⟨_, rfl⟩

section Bytes

variable {path : Path} {bytes : List UInt8}

theorem result_ofBytes_of_hasNoIndex (hs : Text.Lined ls s) (h : HasNoIndex ls) :
    (ofBytes path (Text.Utf8.encode s)).result = .ok none := by
  simp only [ofBytes, Text.Utf8.decode_encode, Text.lines_of_lined hs,
    Wrapper.content_of_hasNoIndex h]
  rfl

theorem result_ofBytes_of_isUnterminated (hs : Text.Lined ls s) (h : IsUnterminated ls) :
    (ofBytes path (Text.Utf8.encode s)).result =
      .error (.malformed (some path) .unterminated) := by
  simp only [ofBytes, Text.Utf8.decode_encode, Text.lines_of_lined hs,
    Wrapper.content_of_isUnterminated h]
  rfl

theorem result_ofBytes_of_carries (hs : Text.Lined ls s) (h : Carries ls text) :
    (ofBytes path (Text.Utf8.encode s)).result =
      (ofText (some path) (Wrapper.unescape text)).result.map some := by
  obtain ⟨layout, hfound⟩ := Wrapper.content_of_carries h
  exact result_ofBytes_found hs hfound path

theorem ofBytes_cases (path : Path) (bytes : List UInt8) :
    (∃ fault, (ofBytes path bytes).result = .error (.malformed (some path) (.notText fault))) ∨
      ∃ s ls, bytes = Text.Utf8.encode s ∧ Text.Lined ls s ∧
        (HasNoIndex ls ∧ (ofBytes path bytes).result = .ok none ∨
          IsUnterminated ls ∧
            (ofBytes path bytes).result = .error (.malformed (some path) .unterminated) ∨
          ∃ text, Carries ls text ∧ (ofBytes path bytes).result =
            (ofText (some path) (Wrapper.unescape text)).result.map some) := by
  cases hs : Text.Utf8.decode bytes with
  | error fault =>
    refine .inl ⟨fault, ?_⟩
    rw [ofBytes, hs]
    rfl
  | ok s =>
    obtain rfl := Text.Utf8.decode_eq_ok_iff.mp hs
    obtain ⟨ls, hls⟩ := Text.exists_lined s
    refine .inr ⟨s, ls, rfl, hls, ?_⟩
    rcases Wrapper.exists_shape ls with hnone | hopen | ⟨text, htext⟩
    · exact .inl ⟨hnone, result_ofBytes_of_hasNoIndex hls hnone⟩
    · exact .inr (.inl ⟨hopen, result_ofBytes_of_isUnterminated hls hopen⟩)
    · exact .inr (.inr ⟨text, htext, result_ofBytes_of_carries hls htext⟩)

theorem result_ofBytes_eq_none_iff :
    (ofBytes path bytes).result = .ok none ↔
      ∃ s ls, bytes = Text.Utf8.encode s ∧ Text.Lined ls s ∧ HasNoIndex ls := by
  constructor
  · intro h
    obtain ⟨fault, hr⟩ | ⟨s, ls, hb, hs, ⟨hnone, hr⟩ | ⟨hopen, hr⟩ | ⟨text, htext, hr⟩⟩ :=
      ofBytes_cases path bytes
    · cases hr.symm.trans h
    · exact ⟨s, ls, hb, hs, hnone⟩
    · cases hr.symm.trans h
    · obtain ⟨x, -, hx⟩ := map_eq_ok_iff.mp (hr.symm.trans h)
      cases hx
  · rintro ⟨s, ls, rfl, hs, hnone⟩
    exact result_ofBytes_of_hasNoIndex hs hnone

theorem result_ofBytes_eq_some_iff {x : Index} :
    (ofBytes path bytes).result = .ok (some x) ↔
      ∃ s ls text ms, bytes = Text.Utf8.encode s ∧ Text.Lined ls s ∧ Carries ls text ∧
        Json.parse (Wrapper.unescape text) = .ok (.object ms) ∧
          List.Forall₂ IsDecoded ms x.packages := by
  constructor
  · intro h
    obtain ⟨fault, hr⟩ | ⟨s, ls, hb, hs, ⟨hnone, hr⟩ | ⟨hopen, hr⟩ | ⟨text, htext, hr⟩⟩ :=
      ofBytes_cases path bytes
    · cases hr.symm.trans h
    · cases hr.symm.trans h
    · cases hr.symm.trans h
    · obtain ⟨y, hy, hsome⟩ := map_eq_ok_iff.mp (hr.symm.trans h)
      cases hsome
      obtain ⟨ms, hms, hps⟩ := result_ofText_eq_ok_iff.mp hy
      exact ⟨s, ls, text, ms, hb, hs, htext, hms, hps⟩
  · rintro ⟨s, ls, text, ms, rfl, hs, htext, hms, hps⟩
    rw [result_ofBytes_of_carries hs htext, result_ofText_eq_ok_iff.mpr ⟨ms, hms, hps⟩]
    rfl

theorem error_of_result_ofBytes (h : (ofBytes path bytes).result = .error e) :
    (∃ cause, e = .malformed (some path) cause) ∨
      ∃ s ls text, bytes = Text.Utf8.encode s ∧ Text.Lined ls s ∧ Carries ls text ∧
        IsBeyondLimits (Wrapper.unescape text) e := by
  obtain ⟨fault, hr⟩ | ⟨s, ls, hb, hs, ⟨hnone, hr⟩ | ⟨hopen, hr⟩ | ⟨text, htext, hr⟩⟩ :=
    ofBytes_cases path bytes
  · cases hr.symm.trans h
    exact .inl ⟨_, rfl⟩
  · cases hr.symm.trans h
  · cases hr.symm.trans h
    exact .inl ⟨_, rfl⟩
  · have hx := map_eq_error_iff.mp (hr.symm.trans h)
    exact (error_of_result_ofText hx).imp_right fun hlimit => ⟨s, ls, text, hb, hs, htext, hlimit⟩

end Bytes

/-- The texts and the keys are those with the stand-ins of halves of surrogate pairs: a half that
stands alone is not told apart from the character from U+10D800 to U+10DFFF that stands for it. -/
theorem ofBytes_outcome (path : Path) (bytes : List UInt8) :
    ((ofBytes path bytes).result = .ok none ↔
      ∃ s ls, bytes = Text.Utf8.encode s ∧ Text.Lined ls s ∧ HasNoIndex ls) ∧
    (∀ x, (ofBytes path bytes).result = .ok (some x) ↔
      ∃ s ls text ms, bytes = Text.Utf8.encode s ∧ Text.Lined ls s ∧ Carries ls text ∧
        Json.parse (Wrapper.unescape text) = .ok (.object ms) ∧
          List.Forall₂ IsDecoded ms x.packages) ∧
    (∀ s ls, bytes = Text.Utf8.encode s → Text.Lined ls s → IsUnterminated ls →
      (ofBytes path bytes).result = .error (.malformed (some path) .unterminated)) ∧
    ∀ e, (ofBytes path bytes).result = .error e →
      (∃ cause, e = .malformed (some path) cause) ∨
        ∃ s ls text, bytes = Text.Utf8.encode s ∧ Text.Lined ls s ∧ Carries ls text ∧
          IsBeyondLimits (Wrapper.unescape text) e := by
  refine ⟨result_ofBytes_eq_none_iff, fun x => result_ofBytes_eq_some_iff, ?_,
    fun e he => error_of_result_ofBytes he⟩
  rintro s ls rfl hs hopen
  exact result_ofBytes_of_isUnterminated hs hopen

def packageText : List Char := "\x7b\"lib\":\x7b\"i\":[],\"p\":[]\x7d\x7d".toList

theorem ofBytes_outcome_scripts :
    (ofBytes ⟨"/", []⟩ (Text.Utf8.encode "// empty".toList)).result = .ok none ∧
    (ofBytes ⟨"/", []⟩ (Text.Utf8.encode (Wrapper.script packageText))).result =
      .ok (some ⟨[("lib", ⟨[], []⟩)]⟩) ∧
    (ofBytes ⟨"/", []⟩ (Text.Utf8.encode
      (Text.unlines [Wrapper.quoted packageText, Wrapper.startLine]))).result =
        .error (.malformed (some ⟨"/", []⟩) .unterminated) ∧
    ∃ e, (ofBytes ⟨"/", []⟩ [0xFF]).result = .error e ∧
      ((∃ cause, e = .malformed (some ⟨"/", []⟩) cause) ∨
        ∃ s ls text, [0xFF] = Text.Utf8.encode s ∧ Text.Lined ls s ∧ Carries ls text ∧
          IsBeyondLimits (Wrapper.unescape text) e) := by
  have hempty : HasNoIndex ["// empty".toList] :=
    ⟨by decide, by simpa using Wrapper.onOneLine?_eq_none_iff.mp (by decide)⟩
  have hnone := (ofBytes_outcome ⟨"/", []⟩ (Text.Utf8.encode "// empty".toList)).1.mpr
    ⟨_, _, rfl, .last (by decide) (by decide), hempty⟩
  have hobject : Json.parse (Wrapper.unescape (Wrapper.escape packageText)) =
      .ok (.object [("lib", .object [("i", .list []), ("p", .list [])])]) := rfl
  have hpackage : List.Forall₂ IsDecoded
      [("lib", .object [("i", .list []), ("p", .list [])])] [("lib", ⟨[], []⟩)] :=
    .cons ⟨rfl, .tuples, rfl⟩ .nil
  have hsome := ((ofBytes_outcome ⟨"/", []⟩
    (Text.Utf8.encode (Wrapper.script packageText))).2.1 ⟨[("lib", ⟨[], []⟩)]⟩).mpr
      ⟨_, _, _, _, rfl, Wrapper.lined_script (by decide), Wrapper.carries_quoted packageText,
        hobject, hpackage⟩
  have hlines : Text.Lined [Wrapper.quoted packageText, Wrapper.startLine]
      (Text.unlines [Wrapper.quoted packageText, Wrapper.startLine]) :=
    Text.lined_unlines (by decide)
  have hopen : IsUnterminated [Wrapper.quoted packageText, Wrapper.startLine] :=
    ⟨[Wrapper.quoted packageText], [], by decide, by simp, rfl⟩
  have herror := (ofBytes_outcome ⟨"/", []⟩ (Text.Utf8.encode
    (Text.unlines [Wrapper.quoted packageText, Wrapper.startLine]))).2.2.1 _ _ rfl hlines hopen
  have hbad : (ofBytes ⟨"/", []⟩ [0xFF]).result =
      .error (.malformed (some ⟨"/", []⟩) (.notText ⟨.start, 0, 1, 0xFF⟩)) := by
    have hfault : Text.Utf8.decode [0xFF] = .error ⟨.start, 0, 1, 0xFF⟩ := by
      rw [Text.Utf8.decode, Text.Utf8.decodeFrom]
      rfl
    rw [ofBytes, hfault]
    rfl
  exact ⟨hnone, hsome, herror, _, hbad, (ofBytes_outcome ⟨"/", []⟩ [0xFF]).2.2.2 _ hbad⟩

/-- A script that fails in another way than a malformed one, for a number of too many digits. -/
theorem not_ofBytes_malformed_digits :
    ¬∀ (path : Path) (bytes : List UInt8) (e : Error), (ofBytes path bytes).result = .error e →
      ∃ cause, e = .malformed (some path) cause := by
  intro hall
  let path : Path := ⟨"/", []⟩
  let digits : List Char := '1' :: List.replicate 4300 '1'
  have hone : ∀ c ∈ digits, c = '1' :=
    List.forall_mem_cons.mpr ⟨rfl, fun c hc => (List.mem_replicate.mp hc).2⟩
  have hparse : Json.parse digits = .error .numeralTooLong := by
    refine Json.parse_digits (fun c hc => ?_) (by decide) ?_
    · rw [hone c hc]
      decide
    · rw [List.length_cons, List.length_replicate]
      decide
  have htext : (ofText (some path) digits).result = .error .numeralTooLong := by
    unfold ofText
    rw [hparse]
    rfl
  have hends : Text.HasNoEnd digits := by
    intro c hc
    rw [hone c hc]
    decide
  have hread := result_ofBytes_lines (Wrapper.lined_script hends) (Wrapper.content_quoted digits)
    path
  rw [htext] at hread
  obtain ⟨cause, hcause⟩ := hall path _ _ hread
  cases hcause

end CrateDocs.Index
