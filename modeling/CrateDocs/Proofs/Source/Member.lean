import CrateDocs.Proofs.Except
import CrateDocs.Proofs.Source.Find

/-!
Members that have been found can be read. The kind of a member is told by the first element that has
an id for its name; the id for that kind leads back to the same element, so that a member is missing
when it is read only if it was not found.
-/

namespace CrateDocs

open Markup Plan

namespace Markup.Document

/-- Documents whose ids stand in an attribute that is written in lower case, as in all documents
that have been read from a text. -/
def HasLowerIds (d : Document) : Prop :=
  ∀ q ∈ d.places, q.node.id? = Selector.attribute? "id" q.node

theorem hasLowerIds_of_parse {s : List Char} {d : Document} (h : Document.parse s = .ok d) :
    d.HasLowerIds :=
  fun _ hq => id?_of_parse h hq

end Markup.Document

namespace Page

variable {p : Page} {n : Name} {k : Kind} {h : Place}

def anyMemberSelector (n : Name) : String :=
  ", ".intercalate (Kind.members.map fun k => memberSelector k n.last)

/-- The outcome of reading a member at its heading. -/
def Reads (n : Name) (k : Kind) (heading : Node) : Except Error Doc → Prop
  | .ok d => HasDeclaration heading ∧ d.name = n ∧ d.kind = k ∧
      d.definition = some (definition heading)
  | .error e => ¬HasDeclaration heading ∧ e = .noDefinition n

theorem reads_memberDoc (hm : memberHeading p n k = .ok h) :
    Reads n k h.node (memberDoc p n k) := by
  obtain ⟨hbare, hdeclared⟩ := memberDoc_of_memberHeading hm
  by_cases hd : HasDeclaration h.node
  · obtain ⟨doc, hdoc, hname, hkind, hdefinition, -⟩ := hdeclared hd
    rw [hdoc]
    exact ⟨hd, hname, hkind, hdefinition⟩
  · rw [hbare hd]
    exact ⟨hd, rfl⟩

theorem Reads.ne_noMember {heading : Node} {x : Except Error Doc} (hx : Reads n k heading x)
    (p : Page) (m : Name) : (p.check.bind fun _ => x) ≠ .error (.noMember m) := by
  intro h
  unfold check at h
  split at h
  · cases h
  · obtain rfl : x = .error (.noMember m) := h
    cases hx.2

theorem find?_of_find?_any {α β : Type} {l : List α} {js : List β} {q : β → α → Bool} {a : α}
    {j : β} (h : (l.find? fun x => js.any fun i => q i x) = some a) (hj : j ∈ js)
    (ha : q j a = true) : l.find? (q j) = some a := by
  obtain ⟨-, before, after, rfl, hbefore⟩ := List.find?_eq_some_iff_append.mp h
  refine List.find?_eq_some_iff_append.mpr ⟨ha, before, after, rfl, fun x hx => ?_⟩
  have hnone := hbefore x hx
  rw [Bool.not_eq_true', List.any_eq_false] at hnone
  simpa using hnone j hj

section Found

variable (hids : p.document.HasLowerIds) (hn : ∀ c ∈ n.last.toList, Selector.IsVerbatim c)

include hn

theorem select?_anyMember : select? p.document (anyMemberSelector n) =
    .ok (p.document.places.find? fun q =>
      Kind.members.any fun k => Selector.hasId (Anchor.text k n.last) q.node) :=
  select?_members_meant p.document (Selector.means_verbatim hn)

include hids

theorem exists_of_select?_anyMember
    (hs : select? p.document (anyMemberSelector n) = .ok (some h)) :
    ∃ k ∈ Kind.members, p.findMember? n = .ok (some k) ∧ memberHeading p n k = .ok h := by
  have hf := Except.ok.inj ((select?_anyMember hn).symm.trans hs)
  have hany := List.find?_some hf
  have hmeans := Selector.means_verbatim hn
  obtain ⟨k, hk, hid⟩ := List.any_eq_true.mp hany
  exact ⟨k, hk, findMember?_of_first hmeans hf hid (hids h (List.mem_of_find?_eq_some hf)),
    memberHeading_of_first hmeans (find?_of_find?_any hf hk hid)⟩

theorem exists_findMember? : ∃ o, p.findMember? n = .ok o := by
  cases hf : p.document.places.find? fun q =>
      Kind.members.any fun k => Selector.hasId (Anchor.text k n.last) q.node with
  | none =>
    refine ⟨none, ?_⟩
    rw [findMember?_eq p (Selector.means_verbatim hn), hf]
  | some h =>
    obtain ⟨k, -, hk, -⟩ := exists_of_select?_anyMember hids hn ((select?_anyMember hn).trans
      (congrArg Except.ok hf))
    exact ⟨some k, hk⟩

theorem memberHeading_of_findMember? (hk : p.findMember? n = .ok (some k)) :
    k ∈ Kind.members ∧ ∃ h, select? p.document (anyMemberSelector n) = .ok (some h) ∧
      memberHeading p n k = .ok h := by
  cases hf : p.document.places.find? fun q =>
      Kind.members.any fun k => Selector.hasId (Anchor.text k n.last) q.node with
  | none =>
    rw [findMember?_eq p (Selector.means_verbatim hn), hf] at hk
    cases hk
  | some h =>
    have hs : select? p.document (anyMemberSelector n) = .ok (some h) := by
      rw [select?_anyMember hn, hf]
    obtain ⟨j, hj, hfound, hheading⟩ := exists_of_select?_anyMember hids hn hs
    cases hfound.symm.trans hk
    exact ⟨hj, h, hs, hheading⟩

end Found

theorem memberDoc_of_findMember?_eq_none (hn : ∀ c ∈ n.last.toList, Selector.IsVerbatim c)
    (h : p.findMember? n = .ok none) (hk : k ∈ Kind.members) :
    memberDoc p n k = .error (.noMember n) := by
  have hmeans := Selector.means_verbatim hn
  have hfind : p.document.places.find? (fun q =>
      Selector.hasId (Anchor.text k n.last) q.node) = none := by
    rw [findMember?_eq p hmeans] at h
    split at h
    · next hnone =>
      refine List.find?_eq_none.mpr fun q hq hid => ?_
      exact List.find?_eq_none.mp hnone q hq (List.any_eq_true.mpr ⟨k, hk, hid⟩)
    · split at h
      · cases h
      · next t _ =>
        cases hj : Kind.ofToken t with
        | error u =>
          rw [hj] at h
          cases h
        | ok j =>
          rw [hj] at h
          cases h
  exact memberDoc_of_none hmeans hfind

end Page

namespace Source

variable {w w' : World} {path : Path} {p : Page}

theorem result_readFile (w : World) (path : Path) :
    ((readFile path).run w).result = (w (.read path)).mapError (.unreadable path) := by
  rw [readFile, Plan.run_bind, Plan.run_question]
  cases w (.read path) <;> rfl

theorem result_readPage (w : World) (path : Path) :
    ((readPage path).run w).result =
      ((w (.read path)).mapError (.unreadable path)).bind fun bytes =>
        ((Document.parse (decodePage bytes).1).mapError (.markup path)).map fun d =>
          ⟨d, some (Path.fileUrl (w .here) path)⟩ := by
  simp only [readPage, Plan.run_bind, Traced.result_bind, Plan.result_run_notes, result_readFile]
  cases w (.read path) with
  | error f => rfl
  | ok bytes =>
    simp only [Except.bind, Except.mapError]
    cases Document.parse (decodePage bytes).1 <;> rfl

theorem readPage_again (h : ((readPage path).run w).result = .ok p)
    (hw : w' (.read path) = w (.read path)) :
    ∃ q, ((readPage path).run w').result = .ok q ∧ q.document = p.document ∧
      p.document.HasLowerIds := by
  rw [result_readPage] at h
  rw [result_readPage, hw]
  cases hbytes : w (.read path) with
  | error f =>
    rw [hbytes] at h
    cases h
  | ok bytes =>
    rw [hbytes] at h
    cases hd : Document.parse (decodePage bytes).1 with
    | error f =>
      simp only [Except.bind, Except.mapError, hd] at h
      cases h
    | ok d =>
      simp only [Except.bind, Except.mapError, hd] at h ⊢
      cases h
      exact ⟨_, rfl, rfl, Document.hasLowerIds_of_parse hd⟩

end Source

def Ref.read (r : Ref) (p : Page) : Except Page.Error Doc :=
  if r.parent.isSome then p.memberDoc r.name r.kind
  else .ok (if r.kind = .module then p.moduleDoc r.name else p.itemDoc r.name r.kind)

namespace Crate

variable {w w' : World} {c : Crate} {n : Name} {r : Ref}

theorem page_of_findMember (h : ((c.findMember n).run w).result = .ok (some r)) :
    ∃ page, ((Source.readPage r.path).run w).result = .ok page ∧
      page.findMember? n = .ok (some r.kind) ∧ r.name = n ∧ r.parent.isSome := by
  have hfind : Ensures w (c.findMember n) fun o => ∀ r ∈ o,
      ∃ page, ((Source.readPage r.path).run w).result = .ok page ∧
        page.findMember? n = .ok (some r.kind) ∧ r.name = n ∧ r.parent.isSome := by
    unfold findMember
    split
    · exact ensures_pure (by simp)
    · refine ensures_of_forall fun o => ?_
      split
      · exact ensures_pure (by simp)
      · refine ensures_bind fun page hpage => ensures_bind (ensures_ofExcept fun o ho => ?_)
        split
        · exact ensures_pure (by simp)
        · refine ensures_of_forall fun _ => ensures_pure fun r hr => ?_
          obtain rfl := Option.mem_some.mp hr
          exact ⟨page, hpage, ho, rfl, rfl⟩
  exact hfind (some r) h r rfl

/-- Nothing is read from a page that does not pass `Page.check`; what the readers of a page give is
said for the pages that do. -/
theorem result_load {page : Page} (h : ((Source.readPage r.path).run w).result = .ok page) :
    (r.load.run w).result = (page.check.bind fun _ => r.read page).mapError .page := by
  simp only [Ref.load, Plan.run_bind, Traced.result_bind, h, Except.bind]
  cases page.check with
  | error e => rfl
  | ok u =>
    simp only [Except.mapError, Ref.read]
    cases r.parent.isSome with
    | true =>
      simp only [if_true, Plan.run_bind, Traced.result_bind, Plan.result_run_notes]
      cases page.memberDoc r.name r.kind <;> rfl
    | false =>
      by_cases hm : r.kind = .module <;>
        simp only [hm, Bool.false_eq_true, if_false, if_true, Plan.run_bind, Traced.result_bind,
          Plan.result_run_notes] <;> rfl

theorem load_located (n : Name) (hn : ∀ c ∈ n.last.toList, Selector.IsVerbatim c) :
    (∀ p : Page, p.document.HasLowerIds → (∃ o, p.findMember? n = .ok o) ∧
      ∀ k, p.findMember? n = .ok (some k) → k ∈ Kind.members ∧
        ∃ h, Page.select? p.document (Page.anyMemberSelector n) = .ok (some h) ∧
          p.memberHeading n k = .ok h ∧ Page.Reads n k h.node (p.memberDoc n k)) ∧
    (∀ s d, Document.parse s = .ok d → d.HasLowerIds) ∧
    (∀ p : Page, p.findMember? n = .ok none →
      ∀ k ∈ Kind.members, p.memberDoc n k = .error (.noMember n)) ∧
    ∀ (w w' : World) (c : Crate) (r : Ref), ((c.findMember n).run w).result = .ok (some r) →
      w' (.read r.path) = w (.read r.path) →
        (∀ m, (r.load.run w').result ≠ .error (.page (.noMember m))) ∧
        ∃ page h x, ((Source.readPage r.path).run w').result = .ok page ∧
          page.memberHeading n r.kind = .ok h ∧ Page.Reads n r.kind h.node x ∧
          (r.load.run w').result = (page.check.bind fun _ => x).mapError .page := by
  refine ⟨fun p hids => ⟨Page.exists_findMember? hids hn, fun k hk => ?_⟩,
    fun s d => Document.hasLowerIds_of_parse,
    fun p hp k hk => Page.memberDoc_of_findMember?_eq_none hn hp hk,
    fun w w' c r hr hw => ?_⟩
  · obtain ⟨hmem, h, hs, hheading⟩ := Page.memberHeading_of_findMember? hids hn hk
    exact ⟨hmem, h, hs, hheading, Page.reads_memberDoc hheading⟩
  · obtain ⟨page, hpage, hfound, hname, hparent⟩ := page_of_findMember hr
    obtain ⟨page', hpage', hdocument, hids⟩ := Source.readPage_again hpage hw
    have hfound' : page'.findMember? n = .ok (some r.kind) := by
      rw [← hfound, Page.findMember?, hdocument, Page.findMember?]
    obtain ⟨-, h, -, hheading⟩ := Page.memberHeading_of_findMember? (hdocument ▸ hids) hn hfound'
    have hreads := Page.reads_memberDoc hheading
    have hload := result_load hpage'
    rw [Ref.read, if_pos hparent, hname] at hload
    refine ⟨fun m hm => hreads.ne_noMember page' m ?_, page', h, _, hpage', hheading, hreads,
      hload⟩
    obtain ⟨e, he, hpage⟩ := mapError_eq_error_iff.mp (hload.symm.trans hm)
    obtain rfl : e = .noMember m := Source.Error.page.inj hpage
    exact he

def memberName : Name := ⟨"lib::S::a"⟩

def memberMarkup : String :=
  "<b id=\"method.a\"><code>fn a()</code></b><b id=\"structfield.a\"></b>"

def memberPath : Path := (Path.ofString "docs/lib").child "struct.S.html"

def memberCrate : Crate := ⟨"lib", Path.ofString "docs/lib"⟩

/-- A package with the page of the item, and with the list of all items unless it has been removed
since. -/
def memberWorld (removed : Bool) : World
  | .isFile p => .ok (p == memberPath || p == memberCrate.path.child "all.html" && !removed)
  | .isFolder _ => .ok true
  | .read p =>
    if p = memberPath then .ok (Text.Utf8.encode memberMarkup.toList)
    else if removed then .error .missing
    else .ok (Text.Utf8.encode
      "<ul class=\"all-items\"><li><a href=\"struct.S.html\">S</a></li></ul>".toList)
  | .entries _ => .ok []
  | .here => Path.ofString "/"
  | .compiler => .missing
  | .person _ => ""

def memberRef : Ref := ⟨memberName, .method, memberPath, some ⟨"lib::S"⟩⟩

theorem load_located_method :
    (∃ h, (Page.methodPage "a").memberHeading memberName .method = .ok h ∧
      Page.Reads memberName .method h.node ((Page.methodPage "a").memberDoc memberName .method)) ∧
      (Page.methodPage "b").memberDoc memberName .method = .error (.noMember memberName) ∧
      ((memberCrate.findMember memberName).run (memberWorld false)).result =
        .ok (some memberRef) ∧
      ∃ d, (memberRef.load.run (memberWorld true)).result = .ok d ∧ d.name = memberName ∧
        d.kind = .method ∧ d.definition = some "fn a()" := by
  obtain ⟨hpage, -, hmissing, hload⟩ := load_located memberName
    (Selector.forall_isVerbatim (by decide +kernel))
  have hids : (Page.methodPage "a").document.HasLowerIds := by
    unfold Document.HasLowerIds
    decide +kernel
  have hmeans := Selector.means_verbatim (Selector.forall_isVerbatim (s := memberName.last.toList)
    (by decide))
  have hmethod : (Page.methodPage "a").findMember? memberName = .ok (some .method) := by
    rw [Page.findMember?_eq _ hmeans]
    rfl
  have hnone : (Page.methodPage "b").findMember? memberName = .ok none := by
    rw [Page.findMember?_eq _ hmeans]
    rfl
  have hfound : ((memberCrate.findMember memberName).run (memberWorld false)).result =
      .ok (some memberRef) := Plan.eq_ok_of_toOption (by decide +kernel)
  have hdoc : (memberRef.load.run (memberWorld true)).result.toOption.any
      (fun d => d.definition == some "fn a()") = true := by decide +kernel
  refine ⟨?_, hmissing _ hnone .method (by decide), hfound, ?_⟩
  · obtain ⟨-, h, -, hheading, hreads⟩ := (hpage _ hids).2 .method hmethod
    exact ⟨h, hheading, hreads⟩
  · obtain ⟨-, page, h, x, -, -, hreads, hx⟩ := hload (memberWorld false) (memberWorld true)
      memberCrate memberRef hfound rfl
    cases hl : (memberRef.load.run (memberWorld true)).result with
    | error e =>
      rw [hl] at hdoc
      cases hdoc
    | ok d =>
      rw [hl] at hdoc hx
      have hxd : x = .ok d := by
        unfold Page.check at hx
        split at hx
        · cases hx
        · cases x with
          | error e => cases hx
          | ok d' =>
            cases hx
            rfl
      subst hxd
      obtain ⟨-, hname, hkind, -⟩ := hreads
      exact ⟨d, rfl, hname, hkind, beq_iff_eq.mp hdoc⟩

end Crate

end CrateDocs
