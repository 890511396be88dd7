import CrateDocs.Proofs.Doc.Groups
import Mathlib.Data.List.Nodup

/-!
Groups that are added to a document. Of each kind a document has the groups that it was built with and
behind them those that were added for the kind, so that the order of additions matters only within a
kind.
-/

namespace CrateDocs.Doc

variable {k j : Kind} {gs hs : List Group} {l m : List (Kind × List Group)}

def groupsIn (k : Kind) (l : List (Kind × List Group)) : List Group :=
  ((l.find? fun e => e.1 == k).map Prod.snd).getD []

theorem groupsIn_cons (e : Kind × List Group) (l : List (Kind × List Group)) :
    groupsIn k (e :: l) = if e.1 = k then e.2 else groupsIn k l := by
  by_cases he : e.1 = k
  · simp [groupsIn, he]
  · simp [groupsIn, he]

theorem groupsIn_of_lt (h : ∀ e ∈ l, k < e.1) : groupsIn k l = [] := by
  induction l with
  | nil => rfl
  | cons f r ih =>
    obtain ⟨hf, hr⟩ := List.forall_mem_cons.mp h
    have hne : f.1 ≠ k := by
      intro he
      exact Nat.lt_irrefl _ (he ▸ hf)
    rw [groupsIn_cons, if_neg hne, ih hr]

theorem groupsIn_insertGroups (hl : IsArranged l) :
    groupsIn j (insertGroups k gs l) = groupsIn j l ++ if k = j then gs else [] := by
  induction l with
  | nil =>
    rw [insertGroups, groupsIn_cons]
    rfl
  | cons f r ih =>
    obtain ⟨i, hs⟩ := f
    obtain ⟨hlt, -, hr⟩ := isArranged_cons.mp hl
    rw [insertGroups]
    split
    · next hik =>
      subst hik
      rw [groupsIn_cons, groupsIn_cons]
      split <;> simp
    · split
      · next hki =>
        -- Nothing of the kind comes later, for the kinds that do are greater still.
        have hnone : groupsIn k ((i, hs) :: r) = [] := by
          apply groupsIn_of_lt
          exact List.forall_mem_cons.mpr ⟨hki, fun f hf => Nat.lt_trans hki (hlt f hf)⟩
        rw [groupsIn_cons]
        split
        · next hkj =>
          obtain rfl : k = j := hkj
          rw [hnone, List.nil_append]
        · rw [List.append_nil]
      · next hik _ =>
        rw [groupsIn_cons, groupsIn_cons, ih hr]
        split
        · next hij =>
          have hkj : k ≠ j := by
            rintro rfl
            exact hik hij
          rw [if_neg hkj, List.append_nil]
        · rfl

theorem mem_iff_groupsIn (hl : (l.map Prod.fst).Nodup) (hg : gs ≠ []) :
    (k, gs) ∈ l ↔ groupsIn k l = gs := by
  constructor
  · intro h
    rw [groupsIn, find?_of_mem hl h]
    rfl
  · intro h
    cases hf : l.find? fun e => e.1 == k with
    | none =>
      rw [groupsIn, hf] at h
      exact absurd h.symm hg
    | some e =>
      have hk : e.1 = k := by simpa using List.find?_some hf
      have he : (k, gs) = e := by
        rw [groupsIn, hf] at h
        exact Prod.ext hk.symm h.symm
      exact he ▸ List.mem_of_find?_eq_some hf

theorem mem_iff_of_isArranged (hl : IsArranged l) :
    (k, gs) ∈ l ↔ groupsIn k l = gs ∧ gs ≠ [] := by
  constructor
  · intro h
    have hg : gs ≠ [] := hl.nonempty _ h
    exact ⟨(mem_iff_groupsIn hl.nodup hg).mp h, hg⟩
  · rintro ⟨h, hg⟩
    exact (mem_iff_groupsIn hl.nodup hg).mpr h

theorem groupsIn_congr (hl : (l.map Prod.fst).Nodup) (hm : (m.map Prod.fst).Nodup)
    (h : ∀ e : Kind × List Group, e.2 ≠ [] → (e ∈ l ↔ e ∈ m)) (k : Kind) :
    groupsIn k l = groupsIn k m := by
  by_cases hg : groupsIn k l = []
  · by_contra hne
    have hgm : groupsIn k m ≠ [] := fun hm => hne (hg.trans hm.symm)
    have hmem := (mem_iff_groupsIn hm hgm).mpr rfl
    exact hne ((mem_iff_groupsIn hl hgm).mp ((h _ hgm).mpr hmem))
  · have hmem := (mem_iff_groupsIn hl hg).mpr rfl
    exact ((mem_iff_groupsIn hm hg).mp ((h _ hg).mp hmem)).symm

theorem eq_of_groupsIn (hl : IsArranged l) (hm : IsArranged m)
    (h : ∀ k, groupsIn k l = groupsIn k m) : l = m := by
  have hmem : ∀ e, e ∈ l ↔ e ∈ m := by
    rintro ⟨k, gs⟩
    rw [mem_iff_of_isArranged hl, mem_iff_of_isArranged hm, h k]
  have hperm : l.Perm m :=
    (List.perm_ext_iff_of_nodup (List.Nodup.of_map _ hl.nodup) (List.Nodup.of_map _ hm.nodup)).mpr
      hmem
  calc
    l = arrange l := (arrange_of_perm hl (.refl l)).symm
    _ = m := arrange_of_perm hm hperm

theorem isArranged_arrange (hm : (m.map Prod.fst).Nodup) : IsArranged (arrange m) := by
  have hkeys : ((arrange m).map Prod.fst).Nodup := by
    have hperm : (arrange m).Perm (m.filter fun e => !e.2.isEmpty) := List.mergeSort_perm _ _
    rw [(hperm.map Prod.fst).nodup_iff]
    exact hm.sublist (List.filter_sublist.map Prod.fst)
  have hne : (arrange m).Pairwise fun a b => a.1 ≠ b.1 := List.pairwise_map.mp hkeys
  refine ⟨?_, fun e he => (mem_arrange.mp he).2⟩
  apply ((pairwise_arrange m).and hne).imp
  rintro a b ⟨hle, hab⟩
  exact Nat.lt_of_le_of_ne hle fun h => hab (Kind.rank_inj.mp h)

theorem groupsIn_arrange (hm : (m.map Prod.fst).Nodup) (k : Kind) :
    groupsIn k (arrange m) = groupsIn k m := by
  refine groupsIn_congr (isArranged_arrange hm).nodup hm ?_ k
  intro e he
  rw [mem_arrange]
  exact and_iff_left he

section Additions

variable {d : Doc}

theorem withGroups_eq (k : Kind) (gs : List Group) (d : Doc) :
    d.withGroups k gs = { d with groups := (d.withGroups k gs).groups } := by
  unfold withGroups
  split
  · cases d
    rfl
  · rfl

theorem groupsIn_withGroups (hd : IsArranged d.groups) (j k : Kind) (gs : List Group) :
    groupsIn j (d.withGroups k gs).groups = groupsIn j d.groups ++ if k = j then gs else [] := by
  unfold withGroups
  split
  · next hg =>
    obtain rfl : gs = [] := List.isEmpty_iff.mp hg
    simp
  · exact groupsIn_insertGroups hd

theorem withGroups_comm (hd : IsArranged d.groups) (hkj : k ≠ j) (gs hs : List Group) :
    (d.withGroups k gs).withGroups j hs = (d.withGroups j hs).withGroups k gs := by
  have hgroups : ((d.withGroups k gs).withGroups j hs).groups =
      ((d.withGroups j hs).withGroups k gs).groups := by
    refine eq_of_groupsIn (isArranged_withGroups (isArranged_withGroups hd))
      (isArranged_withGroups (isArranged_withGroups hd)) ?_
    intro i
    rw [groupsIn_withGroups (isArranged_withGroups hd), groupsIn_withGroups hd,
      groupsIn_withGroups (isArranged_withGroups hd), groupsIn_withGroups hd]
    by_cases hk : k = i
    · have hj : j ≠ i := fun h => hkj (hk.trans h.symm)
      simp [hk, hj]
    · simp [hk]
  rw [withGroups_eq j, withGroups_eq k gs (d.withGroups j hs), hgroups, withGroups_eq k gs d,
    withGroups_eq j hs d]

theorem withGroups_withGroups (hd : IsArranged d.groups) (k : Kind) (gs hs : List Group) :
    (d.withGroups k gs).withGroups k hs = d.withGroups k (gs ++ hs) := by
  have hgroups : ((d.withGroups k gs).withGroups k hs).groups =
      (d.withGroups k (gs ++ hs)).groups := by
    refine eq_of_groupsIn (isArranged_withGroups (isArranged_withGroups hd))
      (isArranged_withGroups hd) ?_
    intro i
    rw [groupsIn_withGroups (isArranged_withGroups hd), groupsIn_withGroups hd,
      groupsIn_withGroups hd]
    by_cases hk : k = i
    · simp [hk]
    · simp [hk]
  rw [withGroups_eq k hs, hgroups, withGroups_eq k gs d, withGroups_eq k (gs ++ hs) d]

def withEach (d : Doc) (calls : List (Kind × List Group)) : Doc :=
  calls.foldl (fun d c => d.withGroups c.1 c.2) d

def addedTo (k : Kind) (calls : List (Kind × List Group)) : List Group :=
  (calls.filter fun c => c.1 = k).flatMap Prod.snd

theorem withEach_eq (calls : List (Kind × List Group)) (d : Doc) :
    d.withEach calls = { d with groups := (d.withEach calls).groups } := by
  induction calls generalizing d with
  | nil =>
    cases d
    rfl
  | cons c r ih =>
    have hc : d.withEach (c :: r) = (d.withGroups c.1 c.2).withEach r := rfl
    rw [hc, ih (d.withGroups c.1 c.2), withGroups_eq c.1 c.2 d]

theorem isArranged_withEach (hd : IsArranged d.groups) (calls : List (Kind × List Group)) :
    IsArranged (d.withEach calls).groups := by
  induction calls generalizing d with
  | nil => exact hd
  | cons c r ih => exact ih (isArranged_withGroups hd)

theorem groupsIn_withEach (hd : IsArranged d.groups) (k : Kind) (calls : List (Kind × List Group)) :
    groupsIn k (d.withEach calls).groups = groupsIn k d.groups ++ addedTo k calls := by
  induction calls generalizing d with
  | nil => exact (List.append_nil _).symm
  | cons c r ih =>
    have hc : d.withEach (c :: r) = (d.withGroups c.1 c.2).withEach r := rfl
    rw [hc, ih (isArranged_withGroups hd), groupsIn_withGroups hd, List.append_assoc]
    by_cases hk : c.1 = k
    · simp [addedTo, hk]
    · simp [addedTo, hk]

end Additions

theorem withEach_ofParts {m : List (Kind × List Group)} (hm : (m.map Prod.fst).Nodup)
    (name : Name) (kind : Kind) (definition : Option String) (description : Option Prose)
    (url : Option String) (calls : List (Kind × List Group)) :
    let d : Doc := { ofParts name kind definition description m with url := url }
    let e := d.withEach calls
    (∀ k gs, (k, gs) ∈ e.groups ↔ gs = groupsIn k m ++ addedTo k calls ∧ gs ≠ []) ∧
      (e.groups.map Prod.fst).Pairwise (· < ·) ∧
      (e.name = name ∧ e.kind = kind ∧ e.definition = definition ∧ e.description = description ∧
        e.url = url) ∧
      (∀ k j gs hs, k ≠ j →
        (e.withGroups k gs).withGroups j hs = (e.withGroups j hs).withGroups k gs) ∧
      ∀ k gs hs, (e.withGroups k gs).withGroups k hs = e.withGroups k (gs ++ hs) := by
  intro d e
  have hd : IsArranged d.groups := isArranged_arrange hm
  have he : IsArranged e.groups := isArranged_withEach hd calls
  refine ⟨?_, ?_, ?_, ?_, ?_⟩
  · intro k gs
    have hgroups : groupsIn k e.groups = groupsIn k m ++ addedTo k calls := by
      rw [groupsIn_withEach hd, ← groupsIn_arrange hm]
      rfl
    rw [mem_iff_of_isArranged he, hgroups]
    exact and_congr_left fun _ => eq_comm
  · exact List.pairwise_map.mpr he.ordered
  · have hfields : e = { d with groups := e.groups } := withEach_eq calls d
    rw [hfields]
    exact ⟨rfl, rfl, rfl, rfl, rfl⟩
  · intro k j gs hs hkj
    exact withGroups_comm he hkj gs hs
  · intro k gs hs
    exact withGroups_withGroups he k gs hs

def titled (title : String) : Group := ⟨some title, []⟩

theorem withEach_ofParts_unsorted :
    let m := [(.method, [titled "impl S"]), (.variant, []), (.field, [titled "Fields"])]
    let d : Doc := { ofParts ⟨"a::S"⟩ .struct none none m with url := some "file:///a" }
    let e := d.withEach [(.field, [titled "More"]), (.impl, []), (.field, [titled "Still more"])]
    (m.map Prod.fst).Nodup ∧
      (.field, [titled "Fields", titled "More", titled "Still more"]) ∈ e.groups ∧
      (e.groups.map Prod.fst).Pairwise (· < ·) ∧ e.url = some "file:///a" := by
  intro m d e
  have hm : (m.map Prod.fst).Nodup := by decide
  obtain ⟨hmem, hordered, ⟨-, -, -, -, hurl⟩, -⟩ :=
    withEach_ofParts hm ⟨"a::S"⟩ .struct none none (some "file:///a")
      [(.field, [titled "More"]), (.impl, []), (.field, [titled "Still more"])]
  refine ⟨hm, ?_, hordered, hurl⟩
  apply (hmem _ _).mpr
  exact ⟨rfl, by simp⟩

end CrateDocs.Doc
