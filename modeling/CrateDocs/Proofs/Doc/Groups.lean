import CrateDocs.Doc.Basic

namespace CrateDocs.Doc

variable {k : Kind} {gs : List Group} {l : List (Kind × List Group)} {e : Kind × List Group}

structure IsArranged (l : List (Kind × List Group)) : Prop where
  ordered : l.Pairwise fun a b => a.1 < b.1
  nonempty : ∀ e ∈ l, e.2 ≠ []

theorem isArranged_nil : IsArranged [] := ⟨.nil, by simp⟩

theorem isArranged_cons {e : Kind × List Group} :
    IsArranged (e :: l) ↔ (∀ f ∈ l, e.1 < f.1) ∧ e.2 ≠ [] ∧ IsArranged l := by
  constructor
  · rintro ⟨hordered, hnonempty⟩
    obtain ⟨hlt, hl⟩ := List.pairwise_cons.mp hordered
    obtain ⟨he, hr⟩ := List.forall_mem_cons.mp hnonempty
    exact ⟨hlt, he, hl, hr⟩
  · rintro ⟨hlt, he, hl, hr⟩
    exact ⟨List.pairwise_cons.mpr ⟨hlt, hl⟩, List.forall_mem_cons.mpr ⟨he, hr⟩⟩

theorem kind_of_mem_insertGroups (h : e ∈ insertGroups k gs l) :
    e.1 = k ∨ ∃ f ∈ l, f.1 = e.1 := by
  induction l with
  | nil =>
    obtain rfl := List.mem_singleton.mp h
    exact .inl rfl
  | cons f r ih =>
    obtain ⟨j, hs⟩ := f
    rw [insertGroups] at h
    split at h
    · rcases List.mem_cons.mp h with rfl | h
      · exact .inr ⟨_, List.mem_cons_self, rfl⟩
      · exact .inr ⟨e, List.mem_cons_of_mem _ h, rfl⟩
    · split at h
      · rcases List.mem_cons.mp h with rfl | h
        · exact .inl rfl
        · exact .inr ⟨e, h, rfl⟩
      · rcases List.mem_cons.mp h with rfl | h
        · exact .inr ⟨_, List.mem_cons_self, rfl⟩
        · exact (ih h).imp_right fun ⟨f, hf, he⟩ => ⟨f, List.mem_cons_of_mem _ hf, he⟩

theorem isArranged_insertGroups (hl : IsArranged l) (hg : gs ≠ []) :
    IsArranged (insertGroups k gs l) := by
  induction l with
  | nil => exact isArranged_cons.mpr ⟨by simp, hg, isArranged_nil⟩
  | cons f r ih =>
    obtain ⟨j, hs⟩ := f
    obtain ⟨hlt, hne, hr⟩ := isArranged_cons.mp hl
    rw [insertGroups]
    split
    · exact isArranged_cons.mpr ⟨hlt, by simp [hg], hr⟩
    · next hjk =>
      split
      · next hkj =>
        refine isArranged_cons.mpr ⟨List.forall_mem_cons.mpr ⟨hkj, fun f hf => ?_⟩, hg, hl⟩
        exact Nat.lt_trans hkj (hlt f hf)
      · next hkj =>
        refine isArranged_cons.mpr ⟨fun f hf => ?_, hne, ih hr⟩
        rcases kind_of_mem_insertGroups hf with rfl | ⟨f', hf', he⟩
        · exact Nat.lt_of_le_of_ne (Nat.not_lt.mp hkj) fun h => hjk (Kind.rank_inj.mp h)
        · exact he ▸ hlt f' hf'

theorem isArranged_withGroups {d : Doc} (hd : IsArranged d.groups) :
    IsArranged (d.withGroups k gs).groups := by
  unfold withGroups
  split
  · exact hd
  · next hg => exact isArranged_insertGroups hd (by simpa using hg)

theorem IsArranged.nodup (hl : IsArranged l) : (l.map Prod.fst).Nodup := by
  rw [List.nodup_iff_pairwise_ne, List.pairwise_map]
  apply hl.ordered.imp
  intro a b hab h
  exact Nat.lt_irrefl _ (h ▸ hab)

theorem find?_of_mem (hl : (l.map Prod.fst).Nodup) (he : e ∈ l) :
    l.find? (fun f => f.1 == e.1) = some e := by
  induction l with
  | nil => cases he
  | cons f r ih =>
    rw [List.map_cons, List.nodup_cons] at hl
    rcases List.mem_cons.mp he with rfl | he
    · simp
    · have hne : f.1 ≠ e.1 := by
        intro h
        exact hl.1 (h ▸ List.mem_map_of_mem he)
      rw [List.find?_cons_of_neg (by simpa using hne), ih hl.2 he]

theorem insertGroups_concat (h : ∀ e ∈ l, e.1 < k) : insertGroups k gs l = l ++ [(k, gs)] := by
  induction l with
  | nil => rfl
  | cons f r ih =>
    obtain ⟨j, hs⟩ := f
    obtain ⟨hj, hr⟩ := List.forall_mem_cons.mp h
    have hne : j ≠ k := fun he => Nat.lt_irrefl _ (he ▸ hj)
    have hnlt : ¬k.rank < j.rank := Nat.lt_asymm hj
    rw [insertGroups, if_neg hne, if_neg hnlt, ih hr, List.cons_append]

theorem groups_foldl_withGroups {ks : List Kind} (gs : Kind → List Group) {d : Doc}
    (hks : ks.Pairwise fun a b => a < b) (hd : ∀ e ∈ d.groups, ∀ k ∈ ks, e.1 < k) :
    (ks.foldl (fun d k => d.withGroups k (gs k)) d).groups =
      d.groups ++ (ks.map fun k => (k, gs k)).filter fun e => !e.2.isEmpty := by
  -- By induction on the kinds. All groups so far are of smaller kinds, so that the next ones come
  -- last.
  induction ks generalizing d with
  | nil => simp
  | cons k r ih =>
    obtain ⟨hk, hr⟩ := List.pairwise_cons.mp hks
    have hbelow : ∀ e ∈ d.groups, e.1 < k := fun e he => hd e he k List.mem_cons_self
    rw [List.foldl_cons, List.map_cons, List.filter_cons]
    by_cases hg : (gs k).isEmpty
    · have hsame : d.withGroups k (gs k) = d := if_pos hg
      rw [hsame, ih hr fun e he j hj => hd e he j (List.mem_cons_of_mem k hj)]
      simp [hg]
    · have hadd : (d.withGroups k (gs k)).groups = d.groups ++ [(k, gs k)] := by
        rw [withGroups, if_neg hg]
        exact insertGroups_concat hbelow
      rw [ih hr ?_, hadd]
      · simp [hg]
      · intro e he j hj
        rw [hadd] at he
        rcases List.mem_append.mp he with he | he
        · exact hd e he j (List.mem_cons_of_mem k hj)
        · obtain rfl := List.mem_singleton.mp he
          exact hk j hj

theorem mem_arrange {m : List (Kind × List Group)} : e ∈ arrange m ↔ e ∈ m ∧ e.2 ≠ [] := by
  simp [arrange]

theorem pairwise_arrange (m : List (Kind × List Group)) :
    (arrange m).Pairwise fun a b => a.1.rank ≤ b.1.rank := by
  have hm : (arrange m).Pairwise fun a b => decide (a.1.rank ≤ b.1.rank) = true :=
    List.pairwise_mergeSort (by simpa using fun _ _ _ => Nat.le_trans)
      (by simpa using fun _ _ => Nat.le_total _ _) _
  exact hm.imp of_decide_eq_true

theorem arrange_of_perm {m : List (Kind × List Group)} (hl : IsArranged l) (h : m.Perm l) :
    arrange m = l := by
  have hfilter : (m.filter fun e => !e.2.isEmpty) = m := by
    refine List.filter_eq_self.mpr fun e he => ?_
    simpa using hl.nonempty e (h.mem_iff.mp he)
  have hperm : (arrange m).Perm l := by
    rw [arrange, hfilter]
    exact (List.mergeSort_perm m _).trans h
  refine hperm.eq_of_pairwise ?_ (pairwise_arrange m) (hl.ordered.imp Nat.le_of_lt)
  intro a b ha hb hab hba
  have hkind : a.1 = b.1 := Kind.rank_inj.mp (Nat.le_antisymm hab hba)
  have ha' := find?_of_mem hl.nodup (hperm.mem_iff.mp ha)
  have hb' := find?_of_mem hl.nodup hb
  rw [hkind] at ha'
  exact Option.some.inj (ha'.symm.trans hb')

end CrateDocs.Doc
