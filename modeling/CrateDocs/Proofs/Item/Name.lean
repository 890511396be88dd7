import CrateDocs.Item.Name
import CrateDocs.Proofs.Text.Split
import Mathlib.Data.List.Induction
import Mathlib.Data.String.Basic

/-!
Names as joined segments. Segments without colons can be told from the name, so that the parent of
a name, its children and its ends are those of the list of its segments. Of any other segments, a
child still tells the last one as long as no colon of it adjoins the separator, and the ends of names
are a partial order.
-/

namespace CrateDocs.Name

theorem endsWith_iff {n : Name} {s : String} :
    n.endsWith s = true ↔ n.text = s ∨ ∃ front, n.text = front ++ "::" ++ s := by
  simp only [endsWith, Bool.or_eq_true, beq_iff_eq, List.isSuffixOf_iff_suffix]
  refine or_congr Iff.rfl ?_
  constructor
  · rintro ⟨front, h⟩
    refine ⟨String.ofList front, String.toList_inj.mp ?_⟩
    rw [String.toList_append, String.toList_append, String.toList_ofList, List.append_assoc]
    exact h.symm
  · rintro ⟨front, h⟩
    refine ⟨front.toList, ?_⟩
    rw [chars, h, String.toList_append, String.toList_append, List.append_assoc]
    rfl

def ofSegments (segments : List String) : Name := ⟨"::".intercalate segments⟩

def ofSegments? : List String → Option Name
  | [] => none
  | s :: r => some (ofSegments (s :: r))

theorem ofSegments?_eq_some {segments : List String} (h : segments ≠ []) :
    ofSegments? segments = some (ofSegments segments) := by
  cases segments with
  | nil => exact absurd rfl h
  | cons s r => rfl

theorem ofSegments?_eq_none {segments : List String} :
    ofSegments? segments = none ↔ segments = [] := by
  cases segments <;> simp [ofSegments?]

theorem ofSegments_append {segments : List String} (h : segments ≠ []) (s : String) :
    ofSegments (segments ++ [s]) = (ofSegments segments).child s := by
  simp [ofSegments, child, String.intercalate_append_of_ne_nil h]

theorem chars_ofSegments (segments : List String) :
    (ofSegments segments).chars = separator.intercalate (segments.map String.toList) :=
  String.toList_intercalate

theorem chars_ofSegments_cons (s : String) {segments : List String} (h : segments ≠ []) :
    (ofSegments (s :: segments)).chars = s.toList ++ (separator ++ (ofSegments segments).chars) := by
  obtain ⟨t, r, rfl⟩ := List.exists_cons_of_ne_nil h
  rw [chars_ofSegments, chars_ofSegments, List.map_cons, List.map_cons,
    List.intercalate_cons_cons, List.append_assoc]

theorem segments_ofSegments {segments : List String} (hne : segments ≠ [])
    (h : ∀ s ∈ segments, ':' ∉ s.toList) : (ofSegments segments).segments = segments := by
  have hsplit : Text.splitOn separator (ofSegments segments).chars = segments.map String.toList := by
    rw [chars_ofSegments]
    exact Text.splitOn_intercalate (by simpa using hne) (by simpa using h)
  rw [Name.segments, hsplit]
  simp [Function.comp_def]

theorem ofSegments_inj {l m : List String} (hl : l ≠ []) (hm : m ≠ [])
    (hcl : ∀ s ∈ l, ':' ∉ s.toList) (hcm : ∀ s ∈ m, ':' ∉ s.toList) :
    ofSegments l = ofSegments m ↔ l = m := by
  constructor
  · intro h
    rw [← segments_ofSegments hl hcl, h, segments_ofSegments hm hcm]
  · rintro rfl
    rfl

theorem cutFirst_ofSegments {s : String} {segments : List String} (h : ':' ∉ s.toList)
    (hne : segments ≠ []) :
    Text.cutFirst separator (ofSegments (s :: segments)).chars =
      some (s.toList, (ofSegments segments).chars) := by
  rw [chars_ofSegments_cons s hne]
  exact Text.cutFirst_append h _

theorem first_ofSegments {s : String} (segments : List String) (h : ':' ∉ s.toList) :
    (ofSegments (s :: segments)).first = s := by
  cases segments with
  | nil =>
    have hcut : Text.cutFirst separator (ofSegments [s]).chars = none :=
      Text.cutFirst_of_not_mem h
    rw [first, hcut]
    rfl
  | cons t r =>
    rw [first, cutFirst_ofSegments h (by simp)]
    exact String.ofList_toList

theorem rest?_ofSegments {s : String} (segments : List String) (h : ':' ∉ s.toList) :
    (ofSegments (s :: segments)).rest? = (ofSegments? segments).map Name.text := by
  cases segments with
  | nil =>
    have hcut : Text.cutFirst separator (ofSegments [s]).chars = none :=
      Text.cutFirst_of_not_mem h
    rw [rest?, hcut]
    rfl
  | cons t r =>
    rw [rest?, cutFirst_ofSegments h (by simp)]
    exact congrArg some String.ofList_toList

theorem chars_child (n : Name) (s : String) :
    (n.child s).chars = n.chars ++ ':' :: ':' :: s.toList := by
  simp [child, chars]

theorem cutLast_child (n : Name) {s : String} (h : ':' ∉ s.toList) :
    Text.cutLast separator (n.child s).chars = some (n.chars, s.toList) := by
  rw [chars_child]
  refine Text.cutLast_append_iff.mpr ⟨fun hwithin => ?_, fun hstart => ?_⟩
  · exact h (hwithin.subset (by simp))
  · exact h (hstart.subset (by simp))

theorem last_child (n : Name) {s : String} (h : ':' ∉ s.toList) : (n.child s).last = s := by
  rw [last, cutLast_child n h]
  exact String.ofList_toList

theorem last_suffix (n : Name) : n.last.toList <:+ n.chars := by
  rw [last]
  split
  · next hcut =>
    rw [String.toList_ofList]
    exact Text.suffix_of_cutLast hcut
  · exact List.suffix_rfl

theorem parent?_child {n : Name} {s : String} (h : ':' ∉ s.toList) :
    (n.child s).parent? = some n := by
  rw [parent?, cutLast_child n h]
  simp [ofChars, chars]

theorem parent?_singleton {s : String} (h : ':' ∉ s.toList) : (Name.mk s).parent? = none := by
  rw [parent?, separator, chars, Text.cutLast_of_not_mem h]
  rfl

theorem parent?_ofSegments {segments : List String} {s : String} (h : ':' ∉ s.toList) :
    (ofSegments (segments ++ [s])).parent? = ofSegments? segments := by
  cases segments with
  | nil => exact parent?_singleton h
  | cons t r =>
    rw [ofSegments_append (by simp), parent?_child h]
    rfl

theorem last_ofSegments (segments : List String) {s : String} (h : ':' ∉ s.toList) :
    (ofSegments (segments ++ [s])).last = s := by
  cases segments with
  | nil =>
    have hcut : Text.cutLast separator (ofSegments [s]).chars = none := Text.cutLast_of_not_mem h
    rw [List.nil_append, last, hcut]
    rfl
  | cons t r =>
    rw [ofSegments_append (by simp)]
    exact last_child _ h

theorem isSingleton_iff {n : Name} : n.isSingleton = true ↔ n.parent? = none := by
  rw [isSingleton, parent?, Option.isNone_iff_eq_none, Option.map_eq_none_iff]

theorem isSingleton_iff_not_infix {n : Name} : n.isSingleton = true ↔ ¬separator <:+: n.chars := by
  rw [isSingleton, Option.isNone_iff_eq_none]
  exact Text.cutLast_eq_none_iff (by decide)

theorem exists_of_ofSegments_eq_child {l : List String} (hl : ∀ s ∈ l, ':' ∉ s.toList) {n : Name}
    {t : String} (ht : ':' ∉ t.toList) (h : ofSegments l = n.child t) :
    ∃ r, l = r ++ [t] ∧ ofSegments r = n := by
  have hparent : (ofSegments l).parent? = some n := by rw [h, parent?_child ht]
  have hlast : (ofSegments l).last = t := by rw [h, last_child n ht]
  rcases List.eq_nil_or_concat' l with rfl | ⟨r, s, rfl⟩
  · have hnone : (ofSegments []).parent? = none := parent?_singleton (by simp)
    cases hnone.symm.trans hparent
  · have hs : ':' ∉ s.toList := hl s (by simp)
    rw [parent?_ofSegments hs] at hparent
    rw [last_ofSegments r hs] at hlast
    cases r with
    | nil => cases hparent
    | cons u r => exact ⟨u :: r, by rw [hlast], Option.some.inj hparent⟩

theorem child_child (n : Name) (s t : String) :
    n.child ((Name.mk s).child t).text = (n.child s).child t := by
  simp [child, String.append_assoc]

theorem suffix_of_ofSegments_eq {l m : List String} (hl : ∀ s ∈ l, ':' ∉ s.toList)
    (hm : ∀ s ∈ m, ':' ∉ s.toList) (hne : m ≠ []) {n : Name}
    (h : ofSegments l = n.child (ofSegments m).text) : m <:+ l := by
  -- The last segments agree, so both lists are taken apart from the end.
  induction m using List.reverseRecOn generalizing l with
  | nil => exact absurd rfl hne
  | append_singleton m t ih =>
    have ht : ':' ∉ t.toList := hm t (by simp)
    cases m with
    | nil =>
      obtain ⟨r, rfl, -⟩ := exists_of_ofSegments_eq_child hl ht h
      exact ⟨r, rfl⟩
    | cons u m =>
      rw [ofSegments_append (by simp), child_child] at h
      obtain ⟨r, rfl, hr⟩ := exists_of_ofSegments_eq_child hl ht h
      obtain ⟨front, rfl⟩ := ih (fun s hs => hl s (List.mem_append_left _ hs))
        (fun s hs => hm s (List.mem_append_left _ hs)) (by simp) hr
      exact ⟨front, (List.append_assoc _ _ _).symm⟩

theorem endsWith_ofSegments {l m : List String} (hl : ∀ s ∈ l, ':' ∉ s.toList)
    (hm : ∀ s ∈ m, ':' ∉ s.toList) (hnl : l ≠ []) (hnm : m ≠ []) :
    (ofSegments l).endsWith (ofSegments m).text = true ↔ m <:+ l := by
  rw [endsWith_iff]
  constructor
  · rintro (h | ⟨front, h⟩)
    · have he : l = m := (ofSegments_inj hnl hnm hl hm).mp (congrArg Name.mk h)
      exact he ▸ List.suffix_refl l
    · exact suffix_of_ofSegments_eq hl hm hnm (n := ⟨front⟩) (congrArg Name.mk h)
  · rintro ⟨front, rfl⟩
    rcases eq_or_ne front [] with rfl | hf
    · exact .inl rfl
    · exact .inr ⟨(ofSegments front).text, String.intercalate_append_of_ne_nil hf hnm⟩

theorem ofSegments_faithful (segments : List String) (hne : segments ≠ [])
    (h : ∀ s ∈ segments, ':' ∉ s.toList) :
    (ofSegments segments).segments = segments ∧
      (ofSegments segments).first = segments.head hne ∧
      (ofSegments segments).last = segments.getLast hne ∧
      ((ofSegments segments).isSingleton = true ↔ segments.length = 1) ∧
      (ofSegments segments).rest? = (ofSegments? segments.tail).map Name.text ∧
      (ofSegments segments).parent? = ofSegments? segments.dropLast ∧
      (∀ s, (ofSegments segments).child s = ofSegments (segments ++ [s])) ∧
      ∀ others ≠ [], (∀ s ∈ others, ':' ∉ s.toList) →
        ((ofSegments segments).endsWith (ofSegments others).text = true ↔ others <:+ segments) ∧
        (ofSegments segments = ofSegments others ↔ segments = others) := by
  obtain ⟨before, t, hlast⟩ := List.eq_nil_or_concat' segments |>.resolve_left hne
  obtain ⟨s, r, hfirst⟩ := List.exists_cons_of_ne_nil hne
  have ht : ':' ∉ t.toList := h t (by simp [hlast])
  have hs : ':' ∉ s.toList := h s (by simp [hfirst])
  have hparent : (ofSegments segments).parent? = ofSegments? segments.dropLast := by
    subst hlast
    rw [parent?_ofSegments ht, List.dropLast_concat]
  refine ⟨segments_ofSegments hne h, ?_, ?_, ?_, ?_, hparent, ?_, ?_⟩
  · subst hfirst
    exact first_ofSegments r hs
  · subst hlast
    rw [last_ofSegments before ht, List.getLast_concat]
  · rw [isSingleton_iff, hparent, ofSegments?_eq_none, hlast]
    simp
  · subst hfirst
    exact rest?_ofSegments r hs
  · exact fun x => (ofSegments_append hne x).symm
  · exact fun others ho hc => ⟨endsWith_ofSegments h hc hne ho, ofSegments_inj hne ho h hc⟩

theorem ofSegments_faithful_empty_ends :
    ["", "a", ""] ≠ [] ∧ (∀ s ∈ ["", "a", ""], ':' ∉ s.toList) ∧
      ((⟨"::a::"⟩ : Name).segments = ["", "a", ""] ∧ (⟨"::a::"⟩ : Name).parent? = some ⟨"::a"⟩) := by
  have hc : ∀ s ∈ ["", "a", ""], ':' ∉ s.toList := by decide
  obtain ⟨hsegments, -, -, -, -, hparent, -, -⟩ := ofSegments_faithful ["", "a", ""] (by simp) hc
  exact ⟨by simp, hc, hsegments, hparent⟩

theorem cutLast_eq_some_iff {n m : Name} {s : String} :
    Text.cutLast separator n.chars = some (m.chars, s.toList) ↔
      n.parent? = some m ∧ n.last = s := by
  rw [parent?, last]
  cases Text.cutLast separator n.chars with
  | none => simp
  | some p =>
    obtain ⟨a, b⟩ := p
    have hm : ofChars a = m ↔ a = m.chars := by
      rw [ofChars, chars, ← String.ofList_eq]
      exact ⟨congrArg Name.text, congrArg Name.mk⟩
    simp [hm, String.ofList_eq]

theorem parent?_last_child_iff {n : Name} {s : String} :
    (n.child s).parent? = some n ∧ (n.child s).last = s ↔
      ¬separator <:+: s.toList ∧ ¬[':'] <+: s.toList := by
  rw [← cutLast_eq_some_iff, chars_child]
  exact Text.cutLast_append_iff

theorem isSingleton_child (n : Name) (s : String) : (n.child s).isSingleton = false := by
  rw [← Bool.not_eq_true, isSingleton_iff_not_infix, not_not, chars_child]
  exact ⟨n.chars, s.toList, by simp [separator]⟩

theorem endsWith_child (n : Name) (s : String) : (n.child s).endsWith s = true :=
  endsWith_iff.mpr (.inr ⟨n.text, rfl⟩)

theorem endsWith_refl (n : Name) : n.endsWith n.text = true := endsWith_iff.mpr (.inl rfl)

theorem endsWith_trans {a b c : Name} (hab : a.endsWith b.text = true)
    (hbc : b.endsWith c.text = true) : a.endsWith c.text = true := by
  rw [endsWith_iff] at hab hbc ⊢
  rcases hab with hab | ⟨front, hab⟩
  · rwa [hab]
  · rcases hbc with hbc | ⟨middle, hbc⟩
    · exact .inr ⟨front, hbc ▸ hab⟩
    · refine .inr ⟨front ++ "::" ++ middle, ?_⟩
      rw [hab, hbc]
      simp only [String.append_assoc]

theorem suffix_of_endsWith {n : Name} {s : String} (h : n.endsWith s = true) :
    s.toList <:+ n.chars := by
  rcases endsWith_iff.mp h with rfl | ⟨front, h⟩
  · exact List.suffix_rfl
  · rw [chars, h, String.toList_append]
    exact List.suffix_append _ _

theorem endsWith_antisymm {a b : Name} (hab : a.endsWith b.text = true)
    (hba : b.endsWith a.text = true) : a = b := by
  have hb : b.chars <:+ a.chars := suffix_of_endsWith hab
  have ha : a.chars <:+ b.chars := suffix_of_endsWith hba
  have hchars : a.chars = b.chars := ha.eq_of_length_le hb.length_le
  exact congrArg Name.mk (String.toList_inj.mp hchars)

/-- A child is undone by its parent and its last segment precisely when the segment neither has a
separator nor begins with half of one. It ends with the segment in every case, and the ends of
names are a partial order. -/
theorem child_undone (n : Name) (s : String) :
    (n.child s).isSingleton = false ∧
      ((n.child s).parent? = some n ∧ (n.child s).last = s ↔
        ¬separator <:+: s.toList ∧ ¬[':'] <+: s.toList) ∧
      (n.child s).endsWith s = true ∧
      (∀ a : Name, a.endsWith a.text = true) ∧
      (∀ a b c : Name, a.endsWith b.text = true → b.endsWith c.text = true →
        a.endsWith c.text = true) ∧
      ∀ a b : Name, a.endsWith b.text = true → b.endsWith a.text = true → a = b :=
  ⟨isSingleton_child n s, parent?_last_child_iff, endsWith_child n s, endsWith_refl,
    fun _ _ _ => endsWith_trans, fun _ _ => endsWith_antisymm⟩

/-- Colons at the end of a segment and of the parent do no harm, one at the start of a segment does;
and ends of ends are ends. -/
theorem child_undone_colons :
    ((⟨"a:"⟩ : Name).child "b:").parent? = some ⟨"a:"⟩ ∧
      ((⟨"a:"⟩ : Name).child "b:").last = "b:" ∧
      ¬(((⟨"a"⟩ : Name).child ":b").parent? = some ⟨"a"⟩ ∧
        ((⟨"a"⟩ : Name).child ":b").last = ":b") ∧
      (⟨"a::b:::c"⟩ : Name).endsWith ":c" = true := by
  obtain ⟨-, hundone, -, -, htrans, -⟩ := child_undone ⟨"a:"⟩ "b:"
  obtain ⟨-, hblurred, -⟩ := child_undone ⟨"a"⟩ ":b"
  obtain ⟨hparent, hlast⟩ := hundone.mpr (by decide)
  refine ⟨hparent, hlast, ?_, htrans _ ⟨"b:::c"⟩ ⟨":c"⟩ (by decide) (by decide)⟩
  exact fun h => (hblurred.mp h).2 (by decide)

end CrateDocs.Name
