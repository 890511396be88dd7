import CrateDocs.Proofs.Item.Name
import CrateDocs.Proofs.Suggest.Rank
import CrateDocs.Suggest.Grouped

/-!
Suggestions for a keyword, cut off at a limit. The limit is applied to the last segments that were
found and again to the names that end in them. Since every last segment stands for some name, the
first cut takes away nothing that the second one would leave.
-/

namespace CrateDocs.Suggest

theorem take_flatMap_take {α β : Type} {f : α → List β} {l : List α} (hf : ∀ a ∈ l, f a ≠ [])
    {k n : ℕ} (h : k ≤ n) : ((l.take n).flatMap f).take k = (l.flatMap f).take k := by
  induction l generalizing k n with
  | nil => rw [List.take_nil]
  | cons a r ih =>
    cases n with
    | zero => rw [Nat.le_zero.mp h, List.take_zero, List.take_zero]
    | succ n =>
      have hpos : 0 < (f a).length := List.length_pos_iff.mpr (hf a (by simp))
      rw [List.take_succ_cons, List.flatMap_cons, List.flatMap_cons, List.take_append,
        List.take_append, ih (fun b hb => hf b (by simp [hb])) (by omega)]

variable {names : List String} {n segment : String}

theorem mem_lastSegments :
    segment ∈ lastSegments names ↔ ∃ n ∈ names, (Name.mk n).last = segment := by
  rw [lastSegments, List.mem_eraseDups, List.mem_map]

theorem mem_namesEndingIn :
    n ∈ namesEndingIn names segment ↔ n ∈ names ∧ (Name.mk n).last = segment := by
  rw [namesEndingIn, List.mem_filter, beq_iff_eq]

theorem namesEndingIn_ne_nil (h : segment ∈ lastSegments names) :
    namesEndingIn names segment ≠ [] := by
  obtain ⟨n, hn, hlast⟩ := mem_lastSegments.mp h
  exact List.ne_nil_of_mem (mem_namesEndingIn.mpr ⟨hn, hlast⟩)

/-- Names of one last segment stand together and in order, and the groups as the segments rank. -/
structure IsGrouped (score : String → Float) (l : List String) : Prop where
  together : ∀ front a between c rest, l = front ++ a :: (between ++ c :: rest) →
    (Name.mk a).last = (Name.mk c).last → ∀ b ∈ between, (Name.mk b).last = (Name.mk a).last
  inOrder : l.Pairwise fun a b => (Name.mk a).last = (Name.mk b).last → a < b
  byRank : l.Pairwise fun a b => (Name.mk a).last ≠ (Name.mk b).last →
    RanksBefore score (Name.mk a).last (Name.mk b).last

/-- How two names of a list stand to each other whose names are grouped. -/
def Follows (score : String → Float) (a b : String) : Prop :=
  ((Name.mk a).last = (Name.mk b).last → a < b) ∧
    ((Name.mk a).last ≠ (Name.mk b).last → RanksBefore score (Name.mk a).last (Name.mk b).last)

variable {score : String → Float} {l : List String}

theorem nodup_of_follows (h : l.Pairwise (Follows score)) : l.Nodup := by
  refine h.imp ?_
  rintro a _ hab rfl
  exact lt_irrefl a (hab.1 rfl)

theorem isGrouped_of_follows (hs : ∀ n, Decimal.IsNumber (score n)) (h : l.Pairwise (Follows score)) :
    IsGrouped score l where
  together := by
    rintro front a between c rest rfl hac b hb
    -- A name of another group would rank both behind and before the one segment.
    obtain ⟨-, htail, -⟩ := List.pairwise_append.mp h
    obtain ⟨ha, hrest⟩ := List.pairwise_cons.mp htail
    have hab : Follows score a b := ha b (List.mem_append_left _ hb)
    have hbc : Follows score b c := (List.pairwise_append.mp hrest).2.2 b hb c (by simp)
    by_contra hne
    have hfirst := hab.2 (Ne.symm hne)
    have hsecond := hac ▸ hbc.2 (hac ▸ hne)
    exact hne ((isLinear_ranksBefore score).antisymm _ _ ((ranksBefore_iff hs).mpr hsecond)
      ((ranksBefore_iff hs).mpr hfirst))
  inOrder := h.imp And.left
  byRank := h.imp And.right

theorem follows_flatMap (hn : names.Pairwise (· < ·)) {ranking : List String}
    (hr : ranking.Pairwise (RanksBefore score)) (hd : ranking.Nodup) :
    (ranking.flatMap (namesEndingIn names)).Pairwise (Follows score) := by
  refine List.pairwise_flatMap.mpr ⟨fun s _ => ?_, ?_⟩
  · refine (hn.filter _).imp_of_mem fun {a b} ha hb hab => ⟨fun _ => hab, fun hne => ?_⟩
    have ha := (mem_namesEndingIn.mp ha).2
    have hb := (mem_namesEndingIn.mp hb).2
    exact absurd (ha.trans hb.symm) hne
  · refine (hr.and hd).imp fun {s t} hst a ha b hb => ?_
    obtain ⟨-, rfl⟩ := mem_namesEndingIn.mp ha
    obtain ⟨-, rfl⟩ := mem_namesEndingIn.mp hb
    exact ⟨fun he => absurd he hst.2, fun _ => hst.1⟩

section Whole

variable (base added : String → Float) (asked : Float) (keyword : String) (names : List String)

def whole : List String :=
  if (Name.mk keyword).isSingleton then
    (ranked base added keyword asked (lastSegments names)).flatMap (namesEndingIn names)
  else ranked base added keyword asked names

theorem suggestions_eq (limit : Int) : suggestions ⟨keyword⟩ limit names
      (best base added keyword limit asked (candidates ⟨keyword⟩ names)) =
    (whole base added asked keyword names).take limit.toNat := by
  unfold suggestions whole candidates
  split
  · rw [expand, best_eq]
    refine take_flatMap_take (fun s hs => ?_) le_rfl
    have hs := (ranked_perm base added keyword asked (lastSegments names)).mem_iff.mp hs
    exact namesEndingIn_ne_nil (List.mem_of_mem_filter hs)
  · exact best_eq base added keyword limit asked names

variable {base added asked keyword names}

theorem mem_whole (h : n ∈ whole base added asked keyword names) : n ∈ names := by
  unfold whole at h
  split at h
  · obtain ⟨s, -, hn⟩ := List.mem_flatMap.mp h
    exact (mem_namesEndingIn.mp hn).1
  · exact List.mem_of_mem_filter ((ranked_perm base added keyword asked names).mem_iff.mp h)

theorem nodup_ranked (h : names.Nodup) : (ranked base added keyword asked names).Nodup :=
  (ranked_perm base added keyword asked names).nodup_iff.mpr (h.filter _)

theorem ne_of_mem_ranked (h : n ∈ ranked base added keyword asked names) : n ≠ keyword := by
  have hn := (List.mem_filter.mp ((ranked_perm base added keyword asked names).mem_iff.mp h)).2
  simp only [isEligible, Bool.and_eq_true, bne_iff_ne] at hn
  exact hn.1.1

theorem whole_of_isSingleton (h : (Name.mk keyword).isSingleton = true) :
    whole base added asked keyword names =
      (ranked base added keyword asked (lastSegments names)).flatMap (namesEndingIn names) :=
  if_pos h

theorem whole_of_not_isSingleton (h : ¬(Name.mk keyword).isSingleton = true) :
    whole base added asked keyword names = ranked base added keyword asked names :=
  if_neg h

theorem follows_whole (h : (Name.mk keyword).isSingleton = true) (hn : names.Pairwise (· < ·)) :
    (whole base added asked keyword names).Pairwise
      (Follows fun s => total (base s) (added s)) := by
  rw [whole_of_isSingleton h]
  exact follows_flatMap hn (pairwise_ranked base added keyword asked (lastSegments names))
    (nodup_ranked (nodup_eraseDups _))

theorem nodup_whole (hn : names.Pairwise (· < ·)) :
    (whole base added asked keyword names).Nodup := by
  by_cases h : (Name.mk keyword).isSingleton = true
  · exact nodup_of_follows (follows_whole h hn)
  · rw [whole_of_not_isSingleton h]
    exact nodup_ranked (hn.imp ne_of_lt)

end Whole

end CrateDocs.Suggest
