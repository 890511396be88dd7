import CrateDocs.Proofs.Page.Located

namespace CrateDocs

namespace Doc

variable {k j : Kind} {gs : List Group}

theorem find?_insertGroups_of_ne (h : j ≠ k) (l : List (Kind × List Group)) :
    (insertGroups k gs l).find? (fun e => e.1 == j) = l.find? fun e => e.1 == j := by
  induction l with
  | nil => simp [insertGroups, Ne.symm h]
  | cons e r ih =>
    obtain ⟨i, hs⟩ := e
    rw [insertGroups]
    split
    · next hi =>
      subst hi
      simp [Ne.symm h]
    · split
      · simp [List.find?_cons, Ne.symm h]
      · rw [List.find?_cons, List.find?_cons, ih]

theorem find?_insertGroups_self {l : List (Kind × List Group)}
    (h : l.find? (fun e => e.1 == k) = none) :
    (insertGroups k gs l).find? (fun e => e.1 == k) = some (k, gs) := by
  induction l with
  | nil => simp [insertGroups]
  | cons e r ih =>
    obtain ⟨i, hs⟩ := e
    rw [List.find?_cons] at h
    cases hi : i == k with
    | true => simp [hi] at h
    | false =>
      simp only [hi] at h
      rw [insertGroups, if_neg (by simpa using hi)]
      split
      · simp
      · rw [List.find?_cons]
        simp only [hi, ih h]

theorem find?_withGroups_of_ne (h : j ≠ k) (d : Doc) :
    (d.withGroups k gs).groups.find? (fun e => e.1 == j) = d.groups.find? fun e => e.1 == j := by
  unfold withGroups
  split
  · rfl
  · exact find?_insertGroups_of_ne h d.groups

theorem groupsOf_withGroups_self {d : Doc} (h : d.groups.find? (fun e => e.1 == k) = none) :
    (d.withGroups k gs).groupsOf k = gs := by
  unfold withGroups
  split
  · next hg =>
    rw [groupsOf, h, List.isEmpty_iff.mp hg]
    rfl
  · rw [groupsOf, find?_insertGroups_self h]
    rfl

def withTrails (d : Doc) (l : List (Kind × Trail Group)) : Doc :=
  l.foldl (fun d e => d.withGroups e.1 e.2.items) d

theorem find?_withTrails_of_not_mem {l : List (Kind × Trail Group)} (h : j ∉ l.map Prod.fst)
    (d : Doc) :
    (d.withTrails l).groups.find? (fun e => e.1 == j) = d.groups.find? fun e => e.1 == j := by
  induction l generalizing d with
  | nil => rfl
  | cons e r ih =>
    obtain ⟨hne, hr⟩ := List.ne_and_not_mem_of_not_mem_cons h
    exact (ih hr _).trans (find?_withGroups_of_ne hne d)

theorem groupsOf_withTrails {l : List (Kind × Trail Group)} (hl : (l.map Prod.fst).Nodup) {d : Doc}
    (hd : ∀ e ∈ l, d.groups.find? (fun f => f.1 == e.1) = none) {e : Kind × Trail Group}
    (he : e ∈ l) : (d.withTrails l).groupsOf e.1 = e.2.items := by
  induction l generalizing d with
  | nil => cases he
  | cons a r ih =>
    obtain ⟨ha, hr⟩ := List.nodup_cons.mp hl
    rcases List.mem_cons.mp he with rfl | he
    · have hf := find?_withTrails_of_not_mem ha (d.withGroups e.1 e.2.items)
      have hs : (d.withGroups e.1 e.2.items).groupsOf e.1 = e.2.items :=
        groupsOf_withGroups_self (hd e List.mem_cons_self)
      exact (congrArg (fun o => (o.map Prod.snd).getD []) hf).trans hs
    · refine ih hr (fun f hf => ?_) he
      have hne : f.1 ≠ a.1 := fun h => ha (h ▸ List.mem_map_of_mem hf)
      rw [find?_withGroups_of_ne hne]
      exact hd f (List.mem_cons_of_mem a hf)

theorem name_withGroups (d : Doc) : (d.withGroups k gs).name = d.name := by
  unfold withGroups
  split <;> rfl

theorem kind_withGroups (d : Doc) : (d.withGroups k gs).kind = d.kind := by
  unfold withGroups
  split <;> rfl

theorem description_withGroups (d : Doc) : (d.withGroups k gs).description = d.description := by
  unfold withGroups
  split <;> rfl

theorem description_withTrails (d : Doc) (l : List (Kind × Trail Group)) :
    (d.withTrails l).description = d.description := by
  induction l generalizing d with
  | nil => rfl
  | cons e r ih => exact (ih (d.withGroups e.1 e.2.items)).trans (description_withGroups d)

theorem name_kind_foldl {α : Type} (key : α → Kind) (groups : α → List Group) (l : List α)
    (d : Doc) :
    (l.foldl (fun d a => d.withGroups (key a) (groups a)) d).name = d.name ∧
      (l.foldl (fun d a => d.withGroups (key a) (groups a)) d).kind = d.kind := by
  induction l generalizing d with
  | nil => exact ⟨rfl, rfl⟩
  | cons a r ih =>
    obtain ⟨hn, hk⟩ := ih (d.withGroups (key a) (groups a))
    exact ⟨hn.trans (name_withGroups d), hk.trans (kind_withGroups d)⟩

end Doc

namespace Page

theorem locate_fields (p : Page) (anchor : Option String) (d : Doc) :
    (p.locate anchor d).name = d.name ∧ (p.locate anchor d).kind = d.kind ∧
      (p.locate anchor d).definition = d.definition ∧
      (p.locate anchor d).description = d.description := by
  unfold locate
  cases p.url <;> exact ⟨rfl, rfl, rfl, rfl⟩

theorem groups_locate (p : Page) (anchor : Option String) (d : Doc) :
    (p.locate anchor d).groups = d.groups := by
  unfold locate
  cases p.url <;> rfl

theorem name_kind_itemDoc (p : Page) (n : Name) (k : Kind) :
    (p.itemDoc n k).name = n ∧ (p.itemDoc n k).kind = k := by
  obtain ⟨hn, hk⟩ := Doc.name_kind_foldl Prod.fst (fun e => e.2.items) (memberGroups p.document n)
    (p.locate none (.leaf n k (declaration? k p.document) (description? p.document)))
  obtain ⟨hn', hk', -⟩ := locate_fields p none
    (.leaf n k (declaration? k p.document) (description? p.document))
  exact ⟨hn.trans hn', hk.trans hk'⟩

def listedKinds : List Kind := [.field, .variant, .assocType, .method]

theorem description_itemDoc (p : Page) (n : Name) (k : Kind) :
    (p.itemDoc n k).description = description? p.document := by
  obtain ⟨-, -, -, hd⟩ := locate_fields p none
    (.leaf n k (declaration? k p.document) (description? p.document))
  exact (Doc.description_withTrails _ (memberGroups p.document n)).trans hd

theorem nodup_memberGroups (d : Markup.Document) (parent : Name) :
    ((memberGroups d parent).map Prod.fst).Nodup :=
  show [Kind.variant, .field, .assocType, .method, .impl].Nodup by decide

theorem groupsOf_itemDoc (p : Page) (name : Name) (k : Kind) {kind : Kind} {t : Trail Doc.Group}
    (h : (kind, t) ∈ memberGroups p.document name) : (itemDoc p name k).groupsOf kind = t.items := by
  refine Doc.groupsOf_withTrails (nodup_memberGroups p.document name) ?_ h
  intro e _
  rw [groups_locate]
  rfl

theorem members_itemDoc (p : Page) (name : Name) (k : Kind) {kind : Kind}
    (hk : kind ∈ listedKinds) :
    ((itemDoc p name k).groupsOf kind).flatMap MemberGroup.members =
      (placedMembers kind p.document).map (PlacedMember.doc name) := by
  simp only [listedKinds, List.mem_cons, List.not_mem_nil, or_false] at hk
  rcases hk with rfl | rfl | rfl | rfl
  · rw [groupsOf_itemDoc p name k (t := fieldGroups p.document name) (by simp [memberGroups])]
    exact members_fieldGroups p.document name
  · rw [groupsOf_itemDoc p name k (t := variantGroups p.document name) (by simp [memberGroups])]
    exact members_variantGroups p.document name
  · rw [groupsOf_itemDoc p name k (t := assocTypeGroups p.document name) (by simp [memberGroups])]
    exact members_assocTypeGroups p.document name
  · rw [groupsOf_itemDoc p name k (t := methodGroups p.document name) (by simp [memberGroups])]
    exact members_methodGroups p.document name

end Page

end CrateDocs
