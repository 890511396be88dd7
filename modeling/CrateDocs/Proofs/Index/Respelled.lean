import CrateDocs.Proofs.Index.Search
import Mathlib

/-!
Paths that are left out. An index may leave out a path that is in force anyway, or write it out
again; with all paths written out, entries stand for themselves, so that those without a page may go
and the order of the others does not matter. What the index addresses, and what it finds, stays.
-/

namespace CrateDocs.Index

/-- Another way to write an entry, by the path that is in force before it. -/
inductive Respelling (before : String) (e : Entry) : Entry → Prop where
  | kept : Respelling before e e
  | filled (h : e.path = "") : Respelling before e { e with path := before }
  | blanked (h : e.path = before) : Respelling before e { e with path := "" }

structure Package.Respelled (name : String) (p q : Package) : Prop where
  parents : q.parents = p.parents
  length : q.entries.length = p.entries.length
  entry : ∀ (i : Nat) (e e' : Entry), p.entries[i]? = some e → q.entries[i]? = some e' →
    Respelling (pathInForce name (p.entries.take i)) e e'

def Package.spelledOut (name : String) (p : Package) : Package where
  entries := p.entries.mapIdx fun i e =>
    { e with path := pathInForce name (p.entries.take (i + 1)) }
  parents := p.parents

/-- A package with the same entries in any order, but for associated types. -/
structure Package.Rearranged (p q : Package) : Prop where
  parents : q.parents = p.parents
  entries : q.entries.Perm (p.entries.filter fun e => e.kind ≠ .assocType)

variable {name : String} {p q : Package}

theorem pathInForce_concat (name : String) (es : List Entry) (e : Entry) :
    pathInForce name (es ++ [e]) = if e.path = "" then pathInForce name es else e.path := by
  by_cases h : e.path = ""
  · simp [pathInForce, h]
  · simp [pathInForce, h]

theorem pathInForce_take_succ {es : List Entry} {i : Nat} {e : Entry} (h : es[i]? = some e) :
    pathInForce name (es.take (i + 1)) =
      if e.path = "" then pathInForce name (es.take i) else e.path := by
  rw [List.take_add_one, h, Option.toList_some, pathInForce_concat]

theorem Respelling.path_eq {before : String} {e e' : Entry} (h : Respelling before e e') :
    (if e'.path = "" then before else e'.path) = if e.path = "" then before else e.path := by
  cases h with
  | kept => rfl
  | filled h => simp [h]
  | blanked h => simp [h]

theorem Respelling.fields_eq {before : String} {e e' : Entry} (h : Respelling before e e') :
    e'.parent = e.parent ∧ e'.kind = e.kind ∧ e'.name = e.name ∧
      e'.description = e.description := by
  cases h <;> exact ⟨rfl, rfl, rfl, rfl⟩

theorem Package.Respelled.pathInForce_take (h : p.Respelled name q) (i : Nat) :
    pathInForce name (q.entries.take i) = pathInForce name (p.entries.take i) := by
  induction i with
  | zero => rfl
  | succ i ih =>
    cases hp : p.entries[i]? with
    | none =>
      have hq : q.entries[i]? = none :=
        List.getElem?_eq_none (h.length ▸ List.getElem?_eq_none_iff.mp hp)
      rw [List.take_add_one, List.take_add_one, hp, hq, Option.toList_none, List.append_nil,
        List.append_nil, ih]
    | some e =>
      obtain ⟨hi, -⟩ := List.getElem?_eq_some_iff.mp hp
      have hq := List.getElem?_eq_getElem (h.length.symm ▸ hi : i < q.entries.length)
      rw [pathInForce_take_succ hp, pathInForce_take_succ hq, ih]
      exact (h.entry i _ _ hp hq).path_eq

theorem Package.owns_congr (hp : q.parents = p.parents) {e e' : Entry} (he : e'.parent = e.parent)
    {path s : String} : q.Owns e' path s ↔ p.Owns e path s := by
  have hname : q.parentName? e' = p.parentName? e := by
    rw [parentName?, parentName?, hp, he]
  rw [Package.owns_iff, Package.owns_iff, owner, owner, hname]

theorem Package.Respelled.lists_iff (h : p.Respelled name q) {hit : Hit} :
    q.Lists name hit ↔ p.Lists name hit := by
  have hentry {i : Nat} {e e' : Entry} (hp : p.entries[i]? = some e)
      (hq : q.entries[i]? = some e') :
      (q.Owns e' (pathInForce name (q.entries.take (i + 1))) hit.path ↔
        p.Owns e (pathInForce name (p.entries.take (i + 1))) hit.path) ∧
      e'.kind = e.kind ∧ e'.name = e.name ∧ e'.description = e.description := by
    obtain ⟨hparent, hfields⟩ := (h.entry i e e' hp hq).fields_eq
    rw [h.pathInForce_take]
    exact ⟨owns_congr h.parents hparent, hfields⟩
  constructor
  · rintro ⟨i, e', hq, hk, ho, hn, hd, hkind⟩
    obtain ⟨hi, -⟩ := List.getElem?_eq_some_iff.mp hq
    have hp := List.getElem?_eq_getElem (h.length ▸ hi : i < p.entries.length)
    obtain ⟨howns, hk', hn', hd'⟩ := hentry hp hq
    exact ⟨i, _, hp, hk' ▸ hk, howns.mp ho, hn.trans hn', hd.trans hd', hkind.trans (hk' ▸ rfl)⟩
  · rintro ⟨i, e, hp, hk, ho, hn, hd, hkind⟩
    obtain ⟨hi, -⟩ := List.getElem?_eq_some_iff.mp hp
    have hq := List.getElem?_eq_getElem (h.length.symm ▸ hi : i < q.entries.length)
    obtain ⟨howns, hk', hn', hd'⟩ := hentry hp hq
    exact ⟨i, _, hq, hk' ▸ hk, howns.mpr ho, hn.trans hn'.symm, hd.trans hd'.symm,
      hkind.trans (hk' ▸ rfl)⟩

theorem Package.lists_of_paths (hp : ∀ e ∈ p.entries, e.path ≠ "") {hit : Hit} :
    p.Lists name hit ↔ ∃ e ∈ p.entries, e.kind ≠ .assocType ∧ p.Owns e e.path hit.path ∧
      hit.name = e.name ∧ hit.description = e.description ∧ hit.kind = some e.kind := by
  have hforce {i : Nat} {e : Entry} (he : p.entries[i]? = some e) :
      pathInForce name (p.entries.take (i + 1)) = e.path := by
    rw [pathInForce_take_succ he, if_neg (hp e (List.mem_of_getElem? he))]
  constructor
  · rintro ⟨i, e, he, hk, ho, hrest⟩
    rw [hforce he] at ho
    exact ⟨e, List.mem_of_getElem? he, hk, ho, hrest⟩
  · rintro ⟨e, he, hk, ho, hrest⟩
    obtain ⟨i, hi⟩ := List.mem_iff_getElem?.mp he
    rw [← hforce hi] at ho
    exact ⟨i, e, hi, hk, ho, hrest⟩

theorem Package.Rearranged.lists_iff (h : p.Rearranged q) (hp : ∀ e ∈ p.entries, e.path ≠ "")
    {hit : Hit} : q.Lists name hit ↔ p.Lists name hit := by
  have hmem (e : Entry) : e ∈ q.entries ↔ e ∈ p.entries ∧ e.kind ≠ .assocType := by
    rw [h.entries.mem_iff, List.mem_filter, decide_eq_true_iff]
  rw [lists_of_paths hp, lists_of_paths fun e he => hp e ((hmem e).mp he).1]
  simp only [hmem, owns_congr h.parents rfl, and_assoc]
  refine exists_congr fun e => and_congr_right fun _ => ?_
  exact ⟨fun ⟨hk, _, hrest⟩ => ⟨hk, hrest⟩, fun ⟨hk, hrest⟩ => ⟨hk, hk, hrest⟩⟩

theorem Package.respelled_spelledOut (name : String) (p : Package) :
    p.Respelled name (p.spelledOut name) where
  parents := rfl
  length := List.length_mapIdx
  entry i e e' hp hq := by
    rw [spelledOut, List.getElem?_mapIdx, hp, Option.map_some, Option.some.injEq,
      pathInForce_take_succ hp] at hq
    subst hq
    by_cases h : e.path = ""
    · rw [if_pos h]
      exact .filled h
    · rw [if_neg h]
      exact .kept

theorem Package.path_ne_empty_of_spelledOut (hn : name ≠ "") :
    ∀ e ∈ (p.spelledOut name).entries, e.path ≠ "" := by
  intro e he
  obtain ⟨i, hi⟩ := List.mem_iff_getElem?.mp he
  rw [spelledOut, List.getElem?_mapIdx, Option.map_eq_some_iff] at hi
  obtain ⟨e, -, rfl⟩ := hi
  exact pathInForce_ne_empty hn _

theorem names_find_of_lists {x y : Index} (h : ∀ hit, y.Lists hit ↔ x.Lists hit) :
    y.names = x.names ∧ ∀ keyword, y.find keyword = x.find keyword := by
  constructor
  · refine sortedSet_eq_of_mem_iff isLinear_le fun n => ?_
    have hmem : n ∈ y.names ↔ n ∈ x.names := by simp only [mem_names, h]
    simpa only [names, mem_sortedSet] using hmem
  · intro keyword
    refine Hit.sort_eq_of_mem_iff fun hit => ?_
    have hmem : hit ∈ y.find keyword ↔ hit ∈ x.find keyword := by simp only [mem_find, h]
    simpa only [find, Hit.mem_sort] using hmem

theorem exists_mem_iff_of_forall₂ {α β : Type} {R : α → β → Prop} {P : α → Prop} {Q : β → Prop}
    {as : List α} {bs : List β} (h : List.Forall₂ R as bs)
    (hR : ∀ a ∈ as, ∀ b, R a b → (P a ↔ Q b)) : (∃ a ∈ as, P a) ↔ ∃ b ∈ bs, Q b := by
  induction h with
  | nil => simp
  | cons hab _ ih =>
    obtain ⟨ha, hr⟩ := List.forall_mem_cons.mp hR
    simp [ha _ hab, ih hr]

theorem find_respelled (x : Index) :
    (∀ y : Index, List.Forall₂ (fun p q => q.1 = p.1 ∧ p.2.Respelled p.1 q.2)
        x.packages y.packages →
      y.names = x.names ∧ ∀ keyword, y.find keyword = x.find keyword) ∧
    ((∀ p ∈ x.packages, p.1 ≠ "") →
      (∀ p ∈ x.packages, p.2.Respelled p.1 (p.2.spelledOut p.1) ∧
        ∀ e ∈ (p.2.spelledOut p.1).entries, e.path ≠ "") ∧
      ∀ (y : Index) (qs : List (String × Package)),
        List.Forall₂ (fun p q => q.1 = p.1 ∧ (p.2.spelledOut p.1).Rearranged q.2) x.packages qs →
        y.packages.Perm qs →
        y.names = x.names ∧ ∀ keyword, y.find keyword = x.find keyword) := by
  refine ⟨fun y h => names_find_of_lists fun hit => ?_, fun hn => ⟨fun p hp => ?_, ?_⟩⟩
  · refine (exists_mem_iff_of_forall₂ h ?_).symm
    rintro ⟨_, p⟩ - ⟨name, q⟩ ⟨rfl, hpq⟩
    exact hpq.lists_iff.symm
  · exact ⟨p.2.respelled_spelledOut p.1, Package.path_ne_empty_of_spelledOut (hn p hp)⟩
  · intro y qs h hy
    refine names_find_of_lists fun hit => ?_
    have hqs : (∃ q ∈ y.packages, q.2.Lists q.1 hit) ↔ ∃ q ∈ qs, q.2.Lists q.1 hit := by
      simp only [hy.mem_iff]
    refine hqs.trans (exists_mem_iff_of_forall₂ h ?_).symm
    rintro ⟨_, p⟩ hp ⟨name, q⟩ ⟨rfl, hpq⟩
    have hspelled : (p.spelledOut name).Lists name hit ↔ p.Lists name hit :=
      (p.respelled_spelledOut name).lists_iff
    exact ((hpq.lists_iff (Package.path_ne_empty_of_spelledOut (hn _ hp))).trans hspelled).symm

def carriedIndex : Index :=
  ⟨[("rand", ⟨[⟨.struct, "Rng", "", "", none⟩, ⟨.assocType, "Item", "rand::iter", "", none⟩,
    ⟨.function, "next", "rand::iter", "", none⟩], []⟩)]⟩

def respelledIndex : Index :=
  ⟨[("rand", ⟨[⟨.struct, "Rng", "rand", "", none⟩, ⟨.assocType, "Item", "rand::iter", "", none⟩,
    ⟨.function, "next", "", "", none⟩], []⟩)]⟩

def rearrangedIndex : Index :=
  ⟨[("rand", ⟨[⟨.function, "next", "rand::iter", "", none⟩, ⟨.struct, "Rng", "rand", "", none⟩],
    []⟩)]⟩

theorem find_respelled_carried :
    (respelledIndex.names = carriedIndex.names ∧
      ∀ keyword, respelledIndex.find keyword = carriedIndex.find keyword) ∧
    (rearrangedIndex.names = carriedIndex.names ∧
      ∀ keyword, rearrangedIndex.find keyword = carriedIndex.find keyword) ∧
    carriedIndex.names = ["rand::Rng", "rand::iter::next"] ∧
    carriedIndex.find "next" = [⟨"rand::iter", "next", "", some .function⟩] ∧
    carriedIndex.find "Item" = [] := by
  obtain ⟨hrespelled, hrearranged⟩ := find_respelled carriedIndex
  refine ⟨?_, ?_, by cbv, by cbv, by cbv⟩
  · refine hrespelled respelledIndex (.cons ⟨rfl, rfl, rfl, fun i e e' hp hq => ?_⟩ .nil)
    rcases i with _ | _ | _ | i
    · cases hp
      cases hq
      exact .filled rfl
    · cases hp
      cases hq
      exact .kept
    · cases hp
      cases hq
      exact .blanked rfl
    · cases hp
  · have hnames : ∀ p ∈ carriedIndex.packages, p.1 ≠ "" := by simp [carriedIndex]
    exact (hrearranged hnames).2 rearrangedIndex rearrangedIndex.packages
      (.cons ⟨rfl, rfl, by decide⟩ .nil) (List.Perm.refl _)

end CrateDocs.Index
