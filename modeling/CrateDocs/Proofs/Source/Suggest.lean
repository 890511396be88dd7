import CrateDocs.Proofs.Source.Run
import CrateDocs.Proofs.Suggest.Grouped

/-!
Suggesting names out of the indexes of all sources. Fewer suggestions are the first ones of more, and
names of one last segment stay together.
-/

namespace CrateDocs.Sources

section SuggestedBy

variable (base added : String → String → Float) (xs : List Index) (keyword : String)

/-- The suggestions for a keyword, for any measure of similarity and anything that is added to it. -/
def suggestedBy (limit : Int) : List String :=
  Suggest.suggestions ⟨keyword⟩ limit (names xs)
    (Suggest.best (base keyword) (added keyword) keyword limit askedSimilarity
      (Suggest.candidates ⟨keyword⟩ (names xs)))

def suggestible : List String :=
  Suggest.whole (base keyword) (added keyword) askedSimilarity keyword (names xs)

theorem suggestedBy_eq (limit : Int) : suggestedBy base added xs keyword limit =
    (suggestible base added xs keyword).take limit.toNat :=
  Suggest.suggestions_eq (base keyword) (added keyword) askedSimilarity keyword (names xs) limit

theorem exists_mem_names {n : String} (h : n ∈ names xs) : ∃ x ∈ xs, n ∈ x.names :=
  List.mem_flatMap.mp (mem_sortedSet.mp h)

theorem suggested_eq (standards : Standards) {limit : Int} (h : limit ≠ 0) :
    suggested standards xs keyword (some limit) =
      suggestedBy (Suggest.similarity standards.weights) (Suggest.bonus standards.weights) xs keyword
        limit := by
  have hlimit : limitOf standards (some limit) = limit := by
    simp [limitOf, Option.filter_some, h]
  rw [suggested, hlimit]
  rfl

theorem suggestedBy_singleton (h : (Name.mk keyword).isSingleton = true) (limit : Int) :
    Suggest.IsGrouped (fun s => Suggest.total (base keyword s) (added keyword s))
        (suggestedBy base added xs keyword limit) ∧
      (∀ n ∈ suggestedBy base added xs keyword limit, (Name.mk n).last ≠ keyword) := by
  have hnames : (names xs).Pairwise (· < ·) := pairwise_lt_sortedSet _
  rw [suggestedBy_eq]
  refine ⟨Suggest.isGrouped_of_follows (fun s => Suggest.isNumber_total _ _)
    (Suggest.follows_whole h hnames).take, fun n hn => ?_⟩
  have hn := List.mem_of_mem_take hn
  rw [suggestible, Suggest.whole_of_isSingleton h] at hn
  obtain ⟨s, hs, hn⟩ := List.mem_flatMap.mp hn
  rw [(Suggest.mem_namesEndingIn.mp hn).2]
  exact Suggest.ne_of_mem_ranked hs

end SuggestedBy

theorem suggest_keeps_best (base added : String → String → Float) (xs : List Index)
    (keyword : String) {n m : Int} (hn : 1 ≤ n) (hm : n ≤ m) :
    let score := fun s => Suggest.total (base keyword s) (added keyword s)
    let l := suggestedBy base added xs keyword n
    l = (suggestedBy base added xs keyword m).take n.toNat ∧
    l.length ≤ n.toNat ∧ l.Nodup ∧ (∀ a ∈ l, ∃ x ∈ xs, a ∈ x.names) ∧
    (¬Name.separator <:+: keyword.toList →
      Suggest.IsGrouped score l ∧ (∀ a ∈ l, (Name.mk a).last ≠ keyword) ∧
      ∃ ranking : List String,
        l = (ranking.flatMap (Suggest.namesEndingIn (names xs))).take n.toNat ∧
        ranking.Pairwise (Suggest.RanksBefore score) ∧
        ranking.Perm ((Suggest.lastSegments (names xs)).filter
          (Suggest.isEligible (base keyword) (added keyword) keyword askedSimilarity))) ∧
    (Name.separator <:+: keyword.toList → keyword ∉ l) ∧
    ∀ (standards : Standards) (w : World) (s : Sources), (s.indexes.run w).result = .ok xs →
      ∀ limit ∈ [n, m], ((s.suggest standards keyword (some limit)).run w).result =
        .ok (suggestedBy (Suggest.similarity standards.weights) (Suggest.bonus standards.weights) xs
          keyword limit, { s with loaded := some xs }) := by
  intro score l
  -- All parts come from this: whatever the limit, it cuts one and the same list.
  have hl : l = (suggestible base added xs keyword).take n.toNat :=
    suggestedBy_eq base added xs keyword n
  have hnames : (names xs).Pairwise (· < ·) := pairwise_lt_sortedSet _
  refine ⟨?_, ?_, ?_, fun a ha => ?_, fun hone => ⟨?_, ?_, ?_⟩, fun hpath ha => ?_, ?_⟩
  · have hcut : min n.toNat m.toNat = n.toNat := min_eq_left (Int.toNat_le_toNat hm)
    rw [suggestedBy_eq, List.take_take, hcut]
    exact hl
  · rw [hl]
    exact List.length_take_le _ _
  · rw [hl]
    exact (Suggest.nodup_whole hnames).take
  · rw [hl] at ha
    exact exists_mem_names xs (Suggest.mem_whole (List.mem_of_mem_take ha))
  · have hone := Name.isSingleton_iff_not_infix.mpr hone
    exact (suggestedBy_singleton base added xs keyword hone n).1
  · have hone := Name.isSingleton_iff_not_infix.mpr hone
    exact (suggestedBy_singleton base added xs keyword hone n).2
  · refine ⟨_, ?_, Suggest.pairwise_ranked _ _ _ _ _, Suggest.ranked_perm _ _ _ _ _⟩
    rw [hl, suggestible,
      Suggest.whole_of_isSingleton (Name.isSingleton_iff_not_infix.mpr hone)]
  · have hlong : ¬(Name.mk keyword).isSingleton = true :=
      fun h => Name.isSingleton_iff_not_infix.mp h hpath
    rw [hl] at ha
    have ha := List.mem_of_mem_take ha
    rw [suggestible, Suggest.whole_of_not_isSingleton hlong] at ha
    exact Suggest.ne_of_mem_ranked ha rfl
  · intro standards w s hs limit hlimit
    have hne : limit ≠ 0 := by
      simp only [List.mem_cons, List.not_mem_nil, or_false] at hlimit
      omega
    rw [result_suggest_eq, hs, ← suggested_eq xs keyword standards hne]
    rfl

def newIndex : Index :=
  ⟨[("k", ⟨[⟨.function, "new", "k::a", "", none⟩, ⟨.function, "new", "k::b", "", none⟩,
    ⟨.function, "news", "k::b", "", none⟩], []⟩)]⟩

def newNames : List String := ["k::a::new", "k::b::new", "k::b::news"]

def likeNev (n : String) : Float := if n = "new" then 0.8 else 0.7

theorem names_newIndex : names [newIndex] = newNames := by
  have hindex : newIndex.names = newNames := sortedSet_of_pairwise_lt (by decide)
  have hall : [newIndex].flatMap Index.names = newNames := by
    rw [List.flatMap_singleton, hindex]
  rw [names, hall]
  exact sortedSet_of_pairwise_lt (by decide)

theorem suggestible_newIndex :
    suggestible (fun _ => likeNev) (fun _ _ => 0) [newIndex] "nev" = newNames := by
  rw [suggestible, names_newIndex, Suggest.whole_of_isSingleton (by decide),
    ← Suggest.eq_ranked (l := ["new", "news"]) _ _ _ _ _ (by decide) (by decide)]
  decide

theorem suggest_keeps_best_new :
    1 ≤ (1 : Int) ∧ (1 : Int) ≤ 3 ∧ ¬Name.separator <:+: "nev".toList ∧
      suggestedBy (fun _ => likeNev) (fun _ _ => 0) [newIndex] "nev" 3 = newNames ∧
      suggestedBy (fun _ => likeNev) (fun _ _ => 0) [newIndex] "nev" 1 = ["k::a::new"] ∧
      (∀ a ∈ newNames.take 1, (Name.mk a).last ≠ "nev") ∧
      ((suggest usual ⟨[], some [newIndex]⟩ "nev" (some 1)).run (shelf randScript)).result =
        .ok (suggestedBy (Suggest.similarity usual.weights) (Suggest.bonus usual.weights) [newIndex]
          "nev" 1, ⟨[], some [newIndex]⟩) := by
  have hone : ¬Name.separator <:+: "nev".toList := by decide
  have hall : suggestedBy (fun _ => likeNev) (fun _ _ => 0) [newIndex] "nev" 3 = newNames := by
    rw [suggestedBy_eq, suggestible_newIndex]
    rfl
  obtain ⟨hcut, -, -, -, hgrouped, -, hrun⟩ := suggest_keeps_best (fun _ => likeNev) (fun _ _ => 0)
    [newIndex] "nev" (n := 1) (m := 3) (by decide) (by decide)
  rw [hall] at hcut
  obtain ⟨-, hother, -⟩ := hgrouped hone
  rw [hcut] at hother
  exact ⟨by decide, by decide, hone, hall, hcut, hother,
    hrun usual (shelf randScript) ⟨[], some [newIndex]⟩ rfl 1 (by simp)⟩

end CrateDocs.Sources
