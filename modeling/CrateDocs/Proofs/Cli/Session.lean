import CrateDocs.Cli.Session
import CrateDocs.Proofs.Source.Find

/-!
What a session opens for a hit. The lookups go by the name of the hit, so that the document has this
name, and a kind that the package documents the name as; it has the kind of the hit if there is no
other one.
-/

namespace CrateDocs.Cli

open Plan

variable {w : World}

/-- Whether a hit is the only one, or the one that the person chooses. -/
def Takes (w : World) (r : Request) (hits : List Hit) (h : Hit) : Prop :=
  hits = [h] ∨ r.asksPerson = true ∧
    choose hits (w (.person (choicePrompt r.options.keyword hits))) = some (some h)

theorem ensures_findDoc (s : Sources) (n : Name) (hint : Option Kind) :
    Ensures w (findDoc s n hint) fun o => ∀ d ∈ o, d.name = n ∧
      ((∀ a ∈ n.last.toList, Selector.IsVerbatim a) → s.Documents w n d.kind) := by
  refine ensures_bind ((ensures_mapError (s.ensures_find n hint)).mono fun o ho => ?_)
  cases o with
  | none => exact ensures_pure (by simp)
  | some r =>
    obtain ⟨hn, hk⟩ := ho r rfl
    refine ensures_bind ((ensures_mapError r.ensures_load).mono fun d hd => ensures_pure ?_)
    rintro d' hd'
    obtain rfl : d = d' := Option.mem_some.mp hd'
    obtain ⟨hname, hkind⟩ := hd
    exact ⟨hname.trans hn, hkind ▸ hk⟩

theorem ensures_selectHit (r : Request) (hits : List Hit) :
    Ensures w (selectHit r.asksPerson r.options.keyword hits) fun o =>
      ∀ h ∈ o, Takes w r hits h := by
  unfold selectHit
  split
  · exact ensures_fail _ _
  · next ha =>
    refine ensures_bind (ensures_question ?_)
    split
    · next o ho =>
      refine ensures_pure fun h hh => .inr ⟨by simpa using ha, ?_⟩
      rw [ho, Option.mem_def.mp hh]
    · exact ensures_fail _ _

/-- Whether a document is one of the name of a hit that was taken, of a kind that the package
documents the name as. -/
def OpensHit (w : World) (r : Request) (s : Sources) (hits : List Hit) (d : Doc) : Prop :=
  ∃ h, Takes w r hits h ∧ d.name = h.fullName ∧
    ((∀ a ∈ h.fullName.last.toList, Selector.IsVerbatim a) → s.Documents w h.fullName d.kind)

theorem ensures_searchDoc (r : Request) (s : Sources) :
    Ensures w (searchDoc r s) fun o => ∀ d ∈ o, ∃ hits s',
      ((s.search r.options.keyword).run w).result = .ok (hits, s') ∧ OpensHit w r s hits d := by
  refine ensures_bind ((ensures_mapError (ensures_result w _)).mono ?_)
  rintro ⟨hits, s'⟩ hs
  have hfolders : s'.folders = s.folders := s.ensures_search r.options.keyword _ hs
  -- A single hit and a chosen one are looked up in the same way, in sources that a search has left
  -- where they were.
  have hopen {h : Hit} (ht : Takes w r hits h) {f : Option Doc → Plan Error (Option Doc)}
      (hf : f none = .fail (.notFound h.fullName.text []) ∧ ∀ d, f (some d) = pure (some d)) :
      Ensures w (findDoc s' h.fullName h.kind >>= f) fun o => ∀ d ∈ o, ∃ hits s',
        ((s.search r.options.keyword).run w).result = .ok (hits, s') ∧
          OpensHit w r s hits d := by
    refine ensures_bind ((ensures_findDoc s' h.fullName h.kind).mono fun o ho => ?_)
    cases o with
    | none => exact hf.1 ▸ ensures_fail _ _
    | some d =>
      obtain ⟨hname, hkind⟩ := ho d rfl
      rw [Sources.documents_congr hfolders] at hkind
      rw [hf.2]
      refine ensures_pure fun d' hd => ?_
      obtain rfl : d = d' := Option.mem_some.mp hd
      exact ⟨hits, s', hs, h, ht, hname, hkind⟩
  dsimp only
  rcases hits with _ | ⟨h, _ | ⟨h', t⟩⟩
  · exact ensures_of_forall fun _ => ensures_bind (ensures_fail _ _)
  · exact ensures_bind (ensures_pure (hopen (.inl rfl) ⟨rfl, fun _ => rfl⟩))
  · refine ensures_bind ((ensures_selectHit r (h :: h' :: t)).mono fun o ho => ?_)
    cases o with
    | none => exact ensures_pure (by simp)
    | some h => exact hopen (ho h rfl) ⟨rfl, fun _ => rfl⟩

theorem searchDoc_kind (w : World) (r : Request) (s : Sources) (d : Doc)
    (hd : ((searchDoc r s).run w).result = .ok (some d)) :
    ∃ hits h s', ((s.search r.options.keyword).run w).result = .ok (hits, s') ∧
      Takes w r hits h ∧ d.name = h.fullName ∧
      ((∀ a ∈ h.fullName.last.toList, Selector.IsVerbatim a) →
        s.Documents w h.fullName d.kind ∧
          ∀ k ∈ h.kind, (∀ j, s.Documents w h.fullName j → j = k) → d.kind = k) := by
  obtain ⟨hits, s', hs, h, ht, hn, hk⟩ := ensures_searchDoc r s _ hd d rfl
  exact ⟨hits, h, s', hs, ht, hn, fun hv => ⟨hk hv, fun k _ huniq => huniq _ (hk hv)⟩⟩

def macroWorld (links : String) : World
  | .isFile p => .ok (["docs/search-index.js", "docs/pkg/all.html", "docs/pkg/trait.Foo.html",
      "docs/pkg/derive.Foo.html"].contains p.toString)
  | .isFolder _ => .ok true
  | .read p => .ok (Text.Utf8.encode (if p.toString = "docs/pkg/all.html" then links.toList
      else if p.toString = "docs/search-index.js" then
        ("var searchIndex = JSON.parse('\x7b\"pkg\":\x7b\"i\":" ++
          "[[24,\"Foo\",\"pkg\",\"\",null]],\"p\":[]\x7d\x7d');").toList
      else []))
  | .entries _ => .ok ["search-index.js"]
  | .here => Path.ofString "/"
  | .compiler => .missing
  | .person _ => ""

def macroLink : String := "<li><a href=\"derive.Foo.html\">Foo</a></li>"

def traitLink : String := "<li><a href=\"trait.Foo.html\">Foo</a></li>"

def linkList (links : List String) : String :=
  "<ul class=\"all-items\">" ++ String.join links ++ "</ul>"

def macroRequest : Request where
  options := ⟨"Foo", ["docs"], none, true, false, false, true, none, none, 0⟩
  settings := Path.ofString "config.toml"
  standards := ⟨100, "monokai", none, 5, Path.ofString "/usr", ⟨0.4, 0.3, 0.3, 0.15, 0.08⟩, 3⟩
  columns := none
  asksPerson := false
  showsPerson := false

def macroSources : Sources := ⟨[Path.ofString "docs"], none⟩

def macroHit : Hit := ⟨"pkg", "Foo", "", some .deriveMacro⟩

def macroCrate : Crate := ⟨"pkg", (Path.ofString "docs").child "pkg"⟩

def macroList : Path := macroCrate.path.child "all.html"

theorem exists_of_any {ε α : Type} {x : Except ε α} {p : α → Bool}
    (h : x.toOption.any p = true) : ∃ a, x = .ok a ∧ p a = true := by
  cases x with
  | error e => cases h
  | ok a => exact ⟨a, rfl, h⟩

theorem eq_deriveMacro_of_documents {k : Kind}
    (h : macroSources.Documents (macroWorld (linkList [macroLink])) macroHit.fullName k) :
    k = .deriveMacro := by
  let w := macroWorld (linkList [macroLink])
  obtain ⟨c, hc, hdoc⟩ := h
  have hcrate : ((macroSources.findCrate "pkg").run w).result.toOption.any
      (fun o => o == some macroCrate) = true := by decide +kernel
  obtain ⟨o, ho, he⟩ := exists_of_any hcrate
  obtain rfl := beq_iff_eq.mp he
  cases ho.symm.trans hc
  cases hdoc with
  | item hlink hkind =>
    obtain ⟨item, page, link, -, hp, ⟨a, ha, -, -, hhref⟩, rfl⟩ := hlink
    have hlinks : ((Source.readPage macroList).run w).result.toOption.any (fun p =>
        p.document.places.all fun a =>
          (a.node.get? "href").all fun l => l == "derive.Foo.html") = true := by decide +kernel
    obtain ⟨page', hp', hall⟩ := exists_of_any hlinks
    cases hp'.symm.trans hp
    have hl := List.all_eq_true.mp hall a ha
    rw [hhref] at hl
    obtain rfl : link = "derive.Foo.html" := by simpa using hl
    have hderive : Crate.pageKind (macroCrate.path.child "derive.Foo.html") =
        .ok .deriveMacro := by decide +kernel
    cases hderive.symm.trans hkind
    rfl
  | module hfile => exact absurd hfile (by decide +kernel)
  | member hparent hlink =>
    obtain ⟨item, -, -, hr, -⟩ := hlink
    have hpkg : macroHit.fullName.parent? = some ⟨"pkg"⟩ := by decide +kernel
    cases hpkg.symm.trans hparent
    cases hr

theorem searchDoc_kind_macro :
    ∃ d, ((searchDoc macroRequest macroSources).run (macroWorld (linkList [macroLink]))).result =
      .ok (some d) ∧ d.name = macroHit.fullName ∧ d.kind = .deriveMacro := by
  let w := macroWorld (linkList [macroLink])
  have hdoc : ((searchDoc macroRequest macroSources).run w).result.toOption.any Option.isSome =
      true := by decide +kernel
  have hhits : ((macroSources.search "Foo").run w).result.toOption.any
      (fun x => x.1 == [macroHit]) = true := by decide +kernel
  obtain ⟨o, ho, hsome⟩ := exists_of_any hdoc
  obtain ⟨d, rfl⟩ := Option.isSome_iff_exists.mp hsome
  obtain ⟨hits, h, s, hs, ht, hname, hkind⟩ := searchDoc_kind w macroRequest macroSources d ho
  obtain ⟨x, hx, he⟩ := exists_of_any hhits
  cases hx.symm.trans hs
  obtain rfl : hits = [macroHit] := beq_iff_eq.mp he
  obtain hone | ⟨hasks, -⟩ := ht
  · cases hone
    obtain ⟨-, hk⟩ := hkind (Selector.forall_isVerbatim (by decide +kernel))
    exact ⟨d, ho, hname, hk _ rfl fun j hj => eq_deriveMacro_of_documents hj⟩
  · cases hasks

/-- A package that links to its macro, but first to a trait of the same name. -/
theorem not_searchDoc_kind_trait :
    ¬∀ (w : World) (r : Request) (s s' : Sources) (d : Doc) (hits : List Hit) (h : Hit) (k : Kind),
      ((searchDoc r s).run w).result = .ok (some d) →
        ((s.search r.options.keyword).run w).result = .ok (hits, s') → Takes w r hits h →
          h.kind = some k → s.Documents w h.fullName k → d.kind = k := by
  intro hall
  let w := macroWorld (linkList [traitLink, macroLink])
  have hdoc : ((searchDoc macroRequest macroSources).run w).result.toOption.any
      (fun o => o.any fun d => d.kind == .trait) = true := by decide +kernel
  have hhits : ((macroSources.search "Foo").run w).result.toOption.any
      (fun x => x.1 == [macroHit]) = true := by decide +kernel
  have hcrate : ((macroSources.findCrate "pkg").run w).result.toOption.any
      (fun o => o == some macroCrate) = true := by decide +kernel
  have hlink : ((Source.readPage macroList).run w).result.toOption.any (fun p =>
      p.document.places.any fun a => a.node.isNamed ["a"] && (a.node.content == "Foo" &&
        (a.node.get? "href" == some "derive.Foo.html"))) = true := by decide +kernel
  obtain ⟨o, ho, htrait⟩ := exists_of_any hdoc
  obtain ⟨d, rfl, hkind⟩ := (Option.any_eq_true _ _).mp htrait
  obtain ⟨⟨hits, s'⟩, hs, he⟩ := exists_of_any hhits
  obtain rfl : hits = [macroHit] := beq_iff_eq.mp he
  obtain ⟨o, hc, he⟩ := exists_of_any hcrate
  obtain rfl := beq_iff_eq.mp he
  obtain ⟨page, hp, he⟩ := exists_of_any hlink
  obtain ⟨a, ha, he⟩ := List.any_eq_true.mp he
  simp only [Bool.and_eq_true, beq_iff_eq] at he
  have hmacro : macroSources.Documents w macroHit.fullName .deriveMacro :=
    ⟨macroCrate, hc, .item ⟨"Foo", page, "derive.Foo.html", by decide +kernel, hp,
      ⟨a, ha, he⟩, rfl⟩ (by decide +kernel)⟩
  have hk := hall w macroRequest macroSources s' d _ macroHit _ ho hs (.inl rfl) rfl hmacro
  rw [hk] at hkind
  cases hkind

end CrateDocs.Cli
