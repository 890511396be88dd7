import CrateDocs.Proofs.Link.Scheme
import CrateDocs.Proofs.Link.Step
import CrateDocs.Proofs.Page.Inherent

/-!
Links to the headings of members. The fragment of a link and the id of an element are read alike, so
that a link to a heading on the page where it stands leads to the kind and the name that are read off
the heading, whether its id has a counter or not.
-/

namespace CrateDocs

open Markup

namespace Link

theorem resolve_fragment (name : Name) (kind : Kind) {f : List Char} {k : Kind} {s : String}
    (h : Anchor.read f = .ok (some (k, s))) :
    resolve name kind (String.ofList ('#' :: f)) = .ok (.item (some k) (name.child s)) := by
  have hscheme : hasScheme? ([] ++ '#' :: f) = some false :=
    hasScheme?_of_path (by simp) (by simp) (.inr ⟨f, rfl⟩)
  have hcut : Text.cutChar '#' ('#' :: f) = ([], some f) := by rw [Text.cutChar, if_pos rfl]
  have hstart : start name kind (steps []) = ⟨some kind, some name⟩ := if_pos (.inr rfl)
  have hfollow : follow name kind ('#' :: f) = .ok (.item (some k) (name.child s)) := by
    rw [follow_eq, hcut, hstart]
    exact (Cursor.arrive_of_read_eq_some h).trans (Cursor.arrive_of_name rfl)
  rw [resolve, String.toList_ofList, ← List.nil_append ('#' :: f), hscheme, List.nil_append]
  dsimp only
  rw [hfollow]

end Link

namespace Page

variable {n : Node} {k : Kind} {v : String}

theorem anchorToken?_of_id (h : n.id? = some (Anchor.text k v)) : n.anchorToken? = some k.token :=
  anchorToken?_of_append h (Anchor.toList_text k v)

theorem findMember?_of_select? {p : Page} {m : Name} {h : Place}
    (hselect : select? p.document (", ".intercalate
      (Kind.members.map fun i => memberSelector i m.last)) = .ok (some h))
    (htoken : h.node.anchorToken? = some k.token) : p.findMember? m = .ok (some k) := by
  rw [findMember?, hselect]
  simp only [bind, Except.bind, htoken, Kind.ofToken_token]
  rfl

/-- What the page of an item makes of an element by its id: the kind of its token, under which the
element is found, and the name under which it is listed. -/
structure ReadsAs (n : Node) (item : Name) (k : Kind) (segment : String) : Prop where
  kind : n.anchorToken?.map Kind.ofToken = some (.ok k)
  name : n.anchorName? = some segment
  listed : ∀ (d : Document) (j : Kind), ∀ e ∈ placedMembers j d, e.heading.node = n →
    (e.doc item).name = item.child segment
  found : ∀ (p : Page) (m : Name) (h : Place), select? p.document (", ".intercalate
    (Kind.members.map fun i => memberSelector i m.last)) = .ok (some h) → h.node = n →
      p.findMember? m = .ok (some k)

theorem readsAs_of_id (item : Name) (h : n.id? = some (Anchor.text k v)) :
    ReadsAs n item k (String.ofList (Anchor.stripCounter v.toList)) where
  kind := by rw [anchorToken?_of_id h, Option.map_some, Kind.ofToken_token]
  name := anchorName?_of_id h
  listed := by
    rintro d j e - rfl
    exact name_doc_of_id? h
  found := by
    rintro p m q hselect rfl
    exact findMember?_of_select? hselect (anchorToken?_of_id h)

theorem resolve_text (item : Name) (kind : Kind) (hne : v ≠ "") (hdot : '.' ∉ v.toList) :
    Link.resolve item kind ("#" ++ Anchor.text k v) =
      .ok (.item (some k) (item.child (String.ofList (Anchor.stripCounter v.toList)))) := by
  have hlink : "#" ++ Anchor.text k v = String.ofList ('#' :: (Anchor.text k v).toList) :=
    String.toList_inj.mp (by simp)
  rw [hlink]
  exact Link.resolve_fragment item kind (Anchor.read_text_of_dot k hne hdot)

theorem stripCounter_counted {r digits s : String} (hne : r ≠ "") (hdot : '.' ∉ r.toList)
    (hline : '\n' ∉ r.toList) (hcount : ¬Anchor.EndsInCounter r.toList) (hdigits : digits ≠ "")
    (hall : ∀ c ∈ digits.toList, Text.isDecimal c = true) (hs : s ∈ [r, r ++ "-" ++ digits]) :
    s ≠ "" ∧ '.' ∉ s.toList ∧ Anchor.stripCounter s.toList = r.toList := by
  rcases List.mem_pair.mp hs with rfl | rfl
  · refine ⟨hne, hdot, Anchor.stripCounter_eq_self (Anchor.not_isCounted hcount fun hlast => ?_)⟩
    exact hline (List.mem_of_getLast? hlast)
  · have hlist : (r ++ "-" ++ digits).toList = r.toList ++ '-' :: digits.toList := by simp
    have hpoint : '.' ∉ digits.toList := fun hc => absurd (hall _ hc) (by decide)
    refine ⟨?_, ?_, ?_⟩
    · intro hempty
      simp [hempty] at hlist
    · rw [hlist]
      simp [hdot, hpoint]
    · rw [hlist]
      exact Anchor.stripCounter_append_counter _ (by simpa using hdigits) hall

/-- A link to an element with an anchor leads to the kind and the name that the page reads off it.
An element whose id has a counter and one whose id has none give the same. -/
theorem resolve_heading (item : Name) (kind : Kind) :
    (∀ (k : Kind) (rest : String) (n : Node), rest ≠ "" → '.' ∉ rest.toList →
      n.id? = some (Anchor.text k rest) →
      ∃ segment, ReadsAs n item k segment ∧
        Link.resolve item kind ("#" ++ Anchor.text k rest) =
          .ok (.item (some k) (item.child segment))) ∧
    ∀ (k : Kind) (r digits : String), r ≠ "" → '.' ∉ r.toList → '\n' ∉ r.toList →
      ¬Anchor.EndsInCounter r.toList → digits ≠ "" →
      (∀ c ∈ digits.toList, Text.isDecimal c = true) →
      ∀ s ∈ [r, r ++ "-" ++ digits], ∀ n : Node, n.id? = some (Anchor.text k s) →
        ReadsAs n item k r ∧
          Link.resolve item kind ("#" ++ Anchor.text k s) =
            .ok (.item (some k) (item.child r)) := by
  constructor
  · intro k rest n hne hdot hid
    exact ⟨_, readsAs_of_id item hid, resolve_text item kind hne hdot⟩
  · intro k r digits hne hdot hline hcount hdigits hall s hs n hid
    obtain ⟨hsne, hsdot, hstrip⟩ := stripCounter_counted hne hdot hline hcount hdigits hall hs
    have hreads := readsAs_of_id item hid
    have hresolve := resolve_text item kind (k := k) hsne hsdot
    rw [hstrip, String.ofList_toList] at hreads hresolve
    exact ⟨hreads, hresolve⟩

def countedField : Node :=
  .element "span" [⟨"id", "structfield.x-٢"⟩, ⟨"class", "structfield"⟩]
    [.element "code" [] [.text .plain "x: u8"]]

def countedPage : Page where
  document := ⟨[.element "h2" [⟨"id", "fields"⟩] [.text .plain "Fields"], countedField]⟩
  url := none

def placedField : PlacedMember :=
  ⟨.field, none, countedPage.document.places.get ⟨1, by decide⟩, none⟩

/-- Digits of any script make a counter, and a counter before a final line feed counts as well. -/
theorem resolve_heading_counted :
    Link.resolve ⟨"lib::S"⟩ .struct "#structfield.x-٢" =
        .ok (.item (some .field) ⟨"lib::S::x"⟩) ∧
      (placedField ∈ placedMembers .field countedPage.document ∧
        (placedField.doc ⟨"lib::S"⟩).name = ⟨"lib::S::x"⟩) ∧
      countedPage.findMember? ⟨"lib::S::x-٢"⟩ = .ok (some .field) ∧
      Link.resolve ⟨"lib::S"⟩ .struct "#method.new-1\n" =
        .ok (.item (some .method) ⟨"lib::S::new\n"⟩) := by
  obtain ⟨hany, hcounted⟩ := resolve_heading ⟨"lib::S"⟩ .struct
  have hx : ¬Anchor.EndsInCounter "x".toList := Anchor.not_endsInCounter_of_not_mem (by decide)
  have hdigits : ∀ c ∈ "٢".toList, Text.isDecimal c = true := List.all_eq_true.mp (by decide)
  obtain ⟨hreads, hresolve⟩ := hcounted .field "x" "٢" (by decide) (by decide) (by decide) hx
    (by decide) hdigits "x-٢" (by decide) countedField (by decide)
  have hmem : placedField ∈ placedMembers .field countedPage.document := List.mem_singleton_self _
  have hselect := select?_members_meant countedPage.document (n := ⟨"lib::S::x-٢"⟩) (v := "x-٢")
    (Selector.means_verbatim (Selector.forall_isVerbatim (by decide)))
  obtain ⟨segment, hnew, hlink⟩ := hany .method "new-1\n"
    (.element "h4" [⟨"id", "method.new-1\n"⟩] []) (by decide) (by decide) (by decide)
  obtain rfl : segment = "new\n" := Option.some.inj (hnew.name.symm.trans (by decide))
  exact ⟨hresolve, ⟨hmem, hreads.listed _ _ _ hmem rfl⟩, hreads.found _ _ _ hselect rfl, hlink⟩

end Page

end CrateDocs
