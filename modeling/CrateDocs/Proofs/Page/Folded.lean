import CrateDocs.Proofs.Markup.Shape
import CrateDocs.Proofs.Page.Located

/-!
Documentation in `details` elements that fold no member. Such an element gives no member, but its
block of documentation is read like any other: if a member is pending, it becomes the description of
this member.
-/

namespace CrateDocs.Page

open Markup

/-- A `details` element whose summary, if there is one, has no heading of a member. -/
def IsUnheaded (n : Node) : Prop :=
  n.isNamed ["details"] = true ∧ ∀ s, n.search (fun s => s.isNamed ["summary"]) = some s →
    ∀ h ∈ s.descendants, h.isNamed ["div", "section"] = true → isMemberHeading h = false

def foldedBlock? (n : Node) : Option Node := n.search fun b => b.isNamed ["div"] && b.isDocblock

def stepsIn (nodes : List Node) : List Step :=
  (nodes.filter Node.isElement).flatMap fun n => (readMember n).items

theorem isMemberHeading_details {n : Node} (h : n.isNamed ["details"] = true) :
    isMemberHeading n = false := by
  have hname := Node.name?_of_isNamed h
  simp [isMemberHeading, memberLayouts, Layout.first_cons, isCodeSection,
    Node.isNamed_of_name? hname]

theorem foldedMarks_unheaded {p : Place} (h : IsUnheaded p.node) :
    (foldedMarks p).map Mark.step =
      ((foldedBlock? p.node).map fun b => Step.describe (Prose.ofNode? b)).toList := by
  have hheading : ((p.descendants.find? fun s => s.node.isNamed ["summary"]).bind fun s =>
      s.descendants.find? fun q => q.node.isNamed ["div", "section"] && isMemberHeading q.node) =
        none := by
    refine Option.bind_eq_none_iff.mpr fun s hs => List.find?_eq_none.mpr fun q hq => ?_
    have hsummary : p.node.search (fun s => s.isNamed ["summary"]) = some s.node := by
      rw [search_node, hs, Option.map_some]
    have hmem : q.node ∈ s.node.descendants := by
      rw [← Place.map_node_descendants]
      exact List.mem_map_of_mem hq
    have hq := h.2 s.node hsummary q.node hmem
    simpa using hq
  rw [foldedMarks, hheading, foldedBlock?, search_node]
  cases p.descendants.find? fun b => b.node.isNamed ["div"] && b.node.isDocblock <;> rfl

theorem items_readMember_unheaded {n : Node} (h : IsUnheaded n) :
    (readMember n).items =
      ((foldedBlock? n).map fun b => Step.describe (Prose.ofNode? b)).toList := by
  let p : Place := .under (.top [n]) [] n []
  have hdiv : n.isNamed ["div"] = false := by
    rw [Node.isNamed_of_name? (Node.name?_of_isNamed h.1)]
    rfl
  have hmarks : memberMarks p = foldedMarks p := by
    show (if isMemberHeading n then _ else _) = _
    simp [isMemberHeading_details h.1, hdiv, h.1, p, Place.node]
  have hread := items_readMember p
  rwa [hmarks, foldedMarks_unheaded (p := p) h] at hread

def titled (title : Option String) (members : List Doc) : List (MemberGroup Doc) :=
  if members = [] then [] else [⟨title, members⟩]

theorem titled_inj {title : Option String} {ms ms' : List Doc} :
    titled title ms = titled title ms' ↔ ms = ms' := by
  unfold titled
  split <;> split <;> simp_all [eq_comm]

theorem flatMap_members_titled (title : Option String) (ms : List Doc) :
    (titled title ms).flatMap MemberGroup.members = ms := by
  unfold titled
  split
  · next h => rw [h, List.flatMap_nil]
  · rw [List.flatMap_singleton]

section Container

variable (parent : Name) (kind : Kind) (title : Option String) (name : String)
  (attributes : List Attribute) (before after : List Node)

theorem items_memberGroup_element (nodes : List Node) :
    (memberGroup parent kind title (.element name attributes nodes)).items =
      titled title (Listing.members parent kind (stepsIn nodes)) := by
  rw [memberGroup, Listing.items_collect, Trail.items_flatMap]
  rfl

/-- The members of a container, by the description that the member gets which is pending at a
place between its children. -/
def membersAround (description : Option Prose) : List Doc :=
  let listing := (Listing.empty parent kind).run (stepsIn before)
  listing.docs ++ (listing.pendingDoc description).toList ++
    Listing.members parent kind (stepsIn after)

theorem stepsIn_append : stepsIn (before ++ after) = stepsIn before ++ stepsIn after := by
  rw [stepsIn, List.filter_append, List.flatMap_append]
  rfl

theorem members_without :
    Listing.members parent kind (stepsIn (before ++ after)) =
      membersAround parent kind before after (Listing.described (stepsIn after)) := by
  rw [stepsIn_append, Listing.members_append]
  rfl

/-- The description that the member gets which is pending before an element without a heading. -/
def descriptionAt (n : Node) : Option Prose :=
  match foldedBlock? n with
  | some b => Prose.ofNode? b
  | none => Listing.described (stepsIn after)

variable {n : Node}

theorem stepsIn_cons_unheaded (h : IsUnheaded n) :
    stepsIn (n :: after) =
      ((foldedBlock? n).map fun b => Step.describe (Prose.ofNode? b)).toList ++ stepsIn after := by
  have he : n.isElement = true := Node.isElement_of_name? (Node.name?_of_isNamed h.1)
  rw [stepsIn, List.filter_cons_of_pos he, List.flatMap_cons, items_readMember_unheaded h]
  rfl

theorem members_with (h : IsUnheaded n) :
    Listing.members parent kind (stepsIn (before ++ n :: after)) =
      membersAround parent kind before after (descriptionAt after n) := by
  rw [stepsIn_append, Listing.members_append, stepsIn_cons_unheaded after h, descriptionAt]
  cases foldedBlock? n with
  | none => rfl
  | some b =>
    have hm : Listing.members parent kind (.describe (Prose.ofNode? b) :: stepsIn after) =
        Listing.members parent kind (stepsIn after) := Listing.members_cons _ _
    simp only [Option.map_some, Option.toList_some, List.singleton_append, hm]
    rfl

theorem membersAround_inj {p p' : Option Prose} :
    membersAround parent kind before after p = membersAround parent kind before after p' ↔
      Listing.openAfter (stepsIn before) = none ∨ p = p' := by
  simp only [membersAround, List.append_left_inj, List.append_right_inj, Listing.pendingDoc,
    Listing.pending_run]
  cases Listing.openAfter (stepsIn before) with
  | none => simp
  | some q => simp [Doc.leaf]

theorem headings_membersAround (p p' : Option Prose) :
    (membersAround parent kind before after p).map (fun d => (d.name, d.kind, d.definition)) =
      (membersAround parent kind before after p').map fun d => (d.name, d.kind, d.definition) := by
  simp only [membersAround, List.map_append, Listing.pendingDoc, Listing.pending_run]
  cases Listing.openAfter (stepsIn before) <;> rfl

theorem items_memberGroup_without :
    (memberGroup parent kind title (.element name attributes (before ++ after))).items =
      titled title (membersAround parent kind before after
        (Listing.described (stepsIn after))) := by
  rw [items_memberGroup_element, members_without]

theorem items_memberGroup_with (h : IsUnheaded n) :
    (memberGroup parent kind title (.element name attributes (before ++ n :: after))).items =
      titled title (membersAround parent kind before after (descriptionAt after n)) := by
  rw [items_memberGroup_element, members_with parent kind before after h]

/-- An element without a heading leaves no trace in a group if it has no documentation, if no member
is pending before it, or if the pending member gets the same description after it. -/
theorem items_memberGroup_with_eq_iff (h : IsUnheaded n) :
    (memberGroup parent kind title (.element name attributes (before ++ n :: after))).items =
        (memberGroup parent kind title (.element name attributes (before ++ after))).items ↔
      ∀ b, foldedBlock? n = some b → Listing.openAfter (stepsIn before) = none ∨
        Prose.ofNode? b = Listing.described (stepsIn after) := by
  rw [items_memberGroup_with parent kind title name attributes _ _ h, items_memberGroup_without,
    titled_inj, membersAround_inj, descriptionAt]
  cases foldedBlock? n <;> simp

/-- On a page that passes `Page.check`, an element without a heading adds no member and takes none
away, and changes at most the description of the member that is pending before it. -/
theorem memberGroup_unheaded (h : IsUnheaded n) :
    let without := (memberGroup parent kind title (.element name attributes (before ++ after))).items
    let whole :=
      (memberGroup parent kind title (.element name attributes (before ++ n :: after))).items
    without = titled title (membersAround parent kind before after
        (Listing.described (stepsIn after))) ∧
      whole = titled title (membersAround parent kind before after (descriptionAt after n)) ∧
      (whole.flatMap MemberGroup.members).map (fun d => (d.name, d.kind, d.definition)) =
        (without.flatMap MemberGroup.members).map (fun d => (d.name, d.kind, d.definition)) ∧
      (whole = without ↔ ∀ b, foldedBlock? n = some b →
        Listing.openAfter (stepsIn before) = none ∨
          Prose.ofNode? b = Listing.described (stepsIn after)) := by
  intro without whole
  have hwithout : without = _ :=
    items_memberGroup_without parent kind title name attributes before after
  have hwhole : whole = _ := items_memberGroup_with parent kind title name attributes _ _ h
  refine ⟨hwithout, hwhole, ?_, ?_⟩
  · rw [hwithout, hwhole, flatMap_members_titled, flatMap_members_titled]
    exact headings_membersAround parent kind before after _ _
  · exact items_memberGroup_with_eq_iff parent kind title name attributes before after h

end Container

def methodHeading (name declaration : String) : Node :=
  .element "h4" [⟨"id", "method." ++ name⟩, ⟨"class", "method"⟩]
    [.element "code" [] [.text .plain declaration]]

def remark : Node :=
  .element "details" [] [.element "summary" [] [.text .plain "More"],
    .element "div" [⟨"class", "docblock"⟩] [.text .plain "Not about one method."]]

theorem isUnheaded_remark : IsUnheaded remark := by
  refine ⟨rfl, fun s hs h hm => ?_⟩
  obtain rfl : .element "summary" [] [.text .plain "More"] = s := Option.some.inj hs
  cases hm

/-- The method before a remark is described by it, and the one after it is not. -/
theorem memberGroup_unheaded_remark :
    let group (nodes : List Node) := (memberGroup ⟨"lib::T"⟩ .method (some "Provided Methods")
      (.element "div" [⟨"class", "methods"⟩] nodes)).items
    let a (description : Option Prose) : Doc :=
      .leaf ⟨"lib::T::a"⟩ .method (some "fn a()") description
    let b : Doc := .leaf ⟨"lib::T::b"⟩ .method (some "fn b()") none
    IsUnheaded remark ∧
      group [methodHeading "a" "fn a()", remark, methodHeading "b" "fn b()"] =
        [⟨some "Provided Methods",
          [a (some ⟨"Not about one method.", "Not about one method."⟩), b]⟩] ∧
      group [methodHeading "a" "fn a()", methodHeading "b" "fn b()"] =
        [⟨some "Provided Methods", [a none, b]⟩] := by
  intro group a b
  obtain ⟨hwithout, hwhole, -⟩ := memberGroup_unheaded ⟨"lib::T"⟩ .method (some "Provided Methods")
    "div" [⟨"class", "methods"⟩] [methodHeading "a" "fn a()"] [methodHeading "b" "fn b()"]
    isUnheaded_remark
  exact ⟨isUnheaded_remark, hwhole.trans rfl, hwithout.trans rfl⟩

theorem not_memberGroup_unheaded_same :
    ¬∀ (parent : Name) (kind : Kind) (title : Option String), ∀ c ∈ ["impl-items", "methods"],
      ∀ (before after : List Node) (n : Node), IsUnheaded n →
        (memberGroup parent kind title
            (.element "div" [⟨"class", c⟩] (before ++ n :: after))).items =
          (memberGroup parent kind title (.element "div" [⟨"class", c⟩] (before ++ after))).items := by
  intro hall
  have hsame := hall ⟨"lib::T"⟩ .method none "methods" (by simp) [methodHeading "a" "fn a()"] []
    remark isUnheaded_remark
  rw [items_memberGroup_with_eq_iff _ _ _ _ _ _ _ isUnheaded_remark] at hsame
  rcases hsame _ rfl with h | h <;> cases h

end CrateDocs.Page
