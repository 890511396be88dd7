import CrateDocs.Proofs.Item.Anchor
import CrateDocs.Proofs.Markup.Parsed
import CrateDocs.Proofs.Page.Member
import CrateDocs.Proofs.Selector.Broken

/-!
Looking for the heading of a member. The last segment of a name stands between quotes in a selector:
a segment that is read as a value there finds the first place whose id has the value, and no heading
if there is no such place. Segments that are not read as a value give a fault, also where the page
has an element with that id.
-/

namespace CrateDocs

open Markup

namespace Selector

theorem breaks_text {name : String} (h : Breaks name) (k : Kind) :
    Breaks (Anchor.text k name) := by
  rw [Breaks, withoutNull_text]
  exact h.prepend (Page.text_isVerbatim (by simp) k)

end Selector

namespace Page

variable {p : Page} {n : Name} {k : Kind} {v : String}

theorem select?_members_meant (d : Document) (hn : Selector.Means n.last v) :
    select? d (", ".intercalate (Kind.members.map fun k => memberSelector k n.last)) =
      .ok (d.places.find? fun q =>
        Kind.members.any fun k => Selector.hasId (Anchor.text k v) q.node) := by
  have hmeans : List.Forall₂ Selector.Means (Kind.members.map fun k => Anchor.text k n.last)
      (Kind.members.map fun k => Anchor.text k v) := by
    rw [List.forall₂_map_left_iff, List.forall₂_map_right_iff]
    exact List.forall₂_same.mpr fun k _ => Selector.means_text hn k
  have hparse := Selector.parse_meant (by simp [Kind.members]) hmeans
  rw [List.map_map] at hparse
  rw [select?, show Selector.parse (", ".intercalate
    (Kind.members.map fun k => memberSelector k n.last)) = _ from hparse]
  simp only [Selector.first?_ids, List.any_map]
  rfl

theorem anchorToken?_of_append {m : Node} {id : String} {s : List Char} (hm : m.id? = some id)
    (hid : id.toList = k.token.toList ++ '.' :: s) : m.anchorToken? = some k.token := by
  have hne : id.isEmpty = false := by
    rw [String.isEmpty_eq_false_iff]
    rintro rfl
    simp at hid
  rw [Node.anchorToken?, Node.anchorPart?, hm]
  simp only [hne, Bool.false_eq_true, if_false, Option.map_some, hid, Anchor.token_append,
    String.ofList_toList]

theorem anchorToken?_of_hasId {m : Node} (h : Selector.hasId (Anchor.text k v) m = true)
    (hid : m.id? = Selector.attribute? "id" m) : m.anchorToken? = some k.token := by
  rw [Selector.hasId, ← hid] at h
  cases hm : m.id? with
  | none =>
    rw [hm] at h
    cases h
  | some id =>
    rw [hm, Option.any_some, Selector.equalsValue, Bool.or_eq_true, beq_iff_eq, beq_iff_eq,
      Anchor.toList_text] at h
    rcases h with h | h
    · exact anchorToken?_of_append hm h
    · exact anchorToken?_of_append (s := v.toList ++ ['\n']) hm (h.trans (by simp))

theorem findMember?_eq (p : Page) (hn : Selector.Means n.last v) :
    p.findMember? n =
      match p.document.places.find? fun q =>
        Kind.members.any fun k => Selector.hasId (Anchor.text k v) q.node with
      | none => .ok none
      | some h =>
        match h.node.anchorToken? with
        | none => .error (.kind .missing)
        | some t => ((Kind.ofToken t).map some).mapError .kind := by
  rw [findMember?, select?_members_meant p.document hn]
  simp only [bind, Except.bind]
  cases p.document.places.find? fun q =>
    Kind.members.any fun k => Selector.hasId (Anchor.text k v) q.node with
  | none => rfl
  | some h =>
    dsimp only
    cases h.node.anchorToken? with
    | none => rfl
    | some t =>
      dsimp only
      cases Kind.ofToken t <;> rfl

section First

variable {h : Place} (hn : Selector.Means n.last v)

include hn

theorem findMember?_of_first
    (hfirst : p.document.places.find? (fun q =>
      Kind.members.any fun j => Selector.hasId (Anchor.text j v) q.node) = some h)
    (hk : Selector.hasId (Anchor.text k v) h.node = true)
    (hid : h.node.id? = Selector.attribute? "id" h.node) : p.findMember? n = .ok (some k) := by
  rw [findMember?_eq p hn, hfirst]
  simp only [anchorToken?_of_hasId hk hid, Kind.ofToken_token]
  rfl

theorem memberHeading_of_first
    (hfirst : p.document.places.find? (fun q => Selector.hasId (Anchor.text k v) q.node) =
      some h) : memberHeading p n k = .ok h := by
  rw [memberHeading_of_means p hn, hfirst]

theorem memberDoc_of_none
    (hnone : p.document.places.find? (fun q => Selector.hasId (Anchor.text k v) q.node) = none) :
    memberDoc p n k = .error (.noMember n) := by
  rw [memberDoc, memberHeading_of_means p hn, hnone]
  rfl

end First

theorem exists_fault_findMember? (p : Page) (hn : Selector.Breaks n.last) :
    ∃ f, p.findMember? n = .error (.selector f) := by
  have hmembers : Kind.members.map (fun k => memberSelector k n.last) =
      (Anchor.text .field n.last :: Kind.members.tail.map fun k => Anchor.text k n.last).map
        fun u => "[id=\"" ++ u ++ "\"]" := rfl
  have hnext : ∀ u ∈ (Kind.members.tail.map fun k => Anchor.text k n.last).head?,
      ∃ c r, u.toList = c :: r ∧ Selector.IsStray c ∧ c ≠ '\x00' := by
    intro u hu
    obtain rfl := Option.some.inj hu
    refine ⟨'v', "ariant.".toList ++ n.last.toList, ?_, by decide, by decide⟩
    change ("variant." ++ n.last).toList = _
    rw [String.toList_append]
    rfl
  obtain ⟨f, hf⟩ := Selector.parse_breaks (Selector.breaks_text hn .field) hnext
  refine ⟨f, ?_⟩
  rw [findMember?, select?, hmembers, hf]
  rfl

theorem exists_fault_memberDoc (p : Page) (hn : Selector.Breaks n.last) (k : Kind) :
    ∃ f, memberDoc p n k = .error (.selector f) := by
  have hnext : ∀ u ∈ ([] : List String).head?,
      ∃ c r, u.toList = c :: r ∧ Selector.IsStray c ∧ c ≠ '\x00' :=
    fun u hu => absurd hu (by simp)
  obtain ⟨f, hf⟩ := Selector.parse_breaks (Selector.breaks_text hn k) hnext
  rw [List.map_singleton, String.intercalate_singleton] at hf
  refine ⟨f, ?_⟩
  rw [memberDoc, memberHeading, select?, memberSelector, hf]
  rfl

/-- On a page that passes `Page.check`, members are looked up by what the last segment of the name
is read as. A segment that is read as a value finds the first element with an id for the value, and
tells its kind or takes its declaration; without such an element there is no member. A segment that
breaks the selector is a fault on every page. The id that tells the kind is written in lower case,
as it is on all pages that have been read from a text. -/
theorem lookup_byValue (p : Page) (n : Name) :
    (∀ v, Selector.Means n.last v →
      ((∀ q ∈ p.document.places, ∀ k ∈ Kind.members,
          Selector.hasId (Anchor.text k v) q.node = false) → p.findMember? n = .ok none) ∧
      (∀ h k, p.document.places.find? (fun q =>
          Kind.members.any fun j => Selector.hasId (Anchor.text j v) q.node) = some h →
        Selector.hasId (Anchor.text k v) h.node = true →
        h.node.id? = Selector.attribute? "id" h.node → p.findMember? n = .ok (some k)) ∧
      ∀ k,
        ((∀ q ∈ p.document.places, Selector.hasId (Anchor.text k v) q.node = false) →
          memberDoc p n k = .error (.noMember n)) ∧
        ∀ h, p.document.places.find? (fun q => Selector.hasId (Anchor.text k v) q.node) = some h →
          (¬HasDeclaration h.node → memberDoc p n k = .error (.noDefinition n)) ∧
          (HasDeclaration h.node → ∃ doc, memberDoc p n k = .ok doc ∧ doc.name = n ∧
            doc.kind = k ∧ doc.definition = some (definition h.node))) ∧
    (Selector.Breaks n.last →
      (∃ f, p.findMember? n = .error (.selector f)) ∧
        ∀ k, ∃ f, memberDoc p n k = .error (.selector f)) ∧
    ∀ s, Document.parse s = .ok p.document →
      ∀ q ∈ p.document.places, q.node.id? = Selector.attribute? "id" q.node := by
  refine ⟨fun v hn => ⟨fun hnone => ?_, fun h k hfirst hk hid => ?_, fun k => ⟨fun hnone => ?_,
    fun h hfirst => ?_⟩⟩, fun hn => ⟨exists_fault_findMember? p hn, exists_fault_memberDoc p hn⟩,
    fun s hs q hq => id?_of_parse hs hq⟩
  · have hfind : p.document.places.find? (fun q =>
        Kind.members.any fun k => Selector.hasId (Anchor.text k v) q.node) = none := by
      simpa using hnone
    rw [findMember?_eq p hn, hfind]
  · rw [findMember?_eq p hn, hfirst]
    simp only [anchorToken?_of_hasId hk hid, Kind.ofToken_token]
    rfl
  · have hfind : p.document.places.find? (fun q =>
        Selector.hasId (Anchor.text k v) q.node) = none := by
      simpa using hnone
    rw [memberDoc, memberHeading_of_means p hn, hfind]
    rfl
  · have hheading : memberHeading p n k = .ok h := by
      rw [memberHeading_of_means p hn, hfirst]
    obtain ⟨hbare, hdeclared⟩ := memberDoc_of_memberHeading hheading
    refine ⟨hbare, fun hd => ?_⟩
    obtain ⟨doc, hdoc, hname, hkind, hdefinition, -⟩ := hdeclared hd
    exact ⟨doc, hdoc, hname, hkind, hdefinition⟩

def methodPage (name : String) : Page where
  document := ⟨[.element "h4" [⟨"id", Anchor.text .method name⟩, ⟨"class", "method"⟩]
    [.element "code" [] [.text .plain "fn a()"]]]⟩
  url := none

theorem means_comma : Selector.Means (Name.last ⟨"lib::S::a[0]\\, b"⟩) "a[0], b" := by
  have hlast : Selector.withoutNull (Name.last ⟨"lib::S::a[0]\\, b"⟩).toList =
      "a[0]".toList ++ '\\' :: ',' :: " b".toList := by decide
  rw [Selector.Means, hlast]
  exact Selector.standsFor_prepend (Selector.forall_isVerbatim (by decide))
    (Selector.standsFor_backslash (by decide) (by decide)
      (Selector.standsFor_verbatim (Selector.forall_isVerbatim (by decide))))

theorem breaks_quote : Selector.Breaks (Name.last ⟨"lib::S::a\""⟩) :=
  .stray (u := ['a']) (w := []) (c := '"') (t := []) (by decide) rfl (by decide)

theorem lookup_byValue_comma :
    (methodPage "a[0], b").findMember? ⟨"lib::S::a[0]\\, b"⟩ = .ok (some .method) ∧
      (∃ doc, memberDoc (methodPage "a[0], b") ⟨"lib::S::a[0]\\, b"⟩ .method = .ok doc ∧
        doc.definition = some "fn a()") ∧
      memberDoc (methodPage "a[0], b") ⟨"lib::S::a[0]\\, b"⟩ .field =
        .error (.noMember ⟨"lib::S::a[0]\\, b"⟩) ∧
      ∃ f, (methodPage "a\"").findMember? ⟨"lib::S::a\""⟩ = .error (.selector f) := by
  obtain ⟨hvalue, -, -⟩ := lookup_byValue (methodPage "a[0], b") ⟨"lib::S::a[0]\\, b"⟩
  obtain ⟨-, hkind, hdoc⟩ := hvalue _ means_comma
  obtain ⟨-, hmethod⟩ := hdoc .method
  obtain ⟨hfield, -⟩ := hdoc .field
  obtain ⟨-, hdeclared⟩ := hmethod _ rfl
  obtain ⟨doc, hd, -, -, hdefinition⟩ := hdeclared (by decide)
  obtain ⟨-, hbroken, -⟩ := lookup_byValue (methodPage "a\"") ⟨"lib::S::a\""⟩
  exact ⟨hkind _ .method rfl (by decide) (by decide), ⟨doc, hd, hdefinition.trans (by decide)⟩,
    hfield (by decide), (hbroken breaks_quote).1⟩

theorem not_lookup_byId_quote :
    ¬∀ (p : Page) (n : Name) (h : Place) (k : Kind), p.document.places.find? (fun q =>
        Kind.members.any fun j => q.node.id? == some (Anchor.text j n.last)) = some h →
      h.node.id? = some (Anchor.text k n.last) → p.findMember? n = .ok (some k) := by
  intro h
  obtain ⟨f, hf⟩ := exists_fault_findMember? (methodPage "a\"") breaks_quote
  cases hf.symm.trans (h (methodPage "a\"") ⟨"lib::S::a\""⟩ _ .method rfl (by decide))

end Page

end CrateDocs
