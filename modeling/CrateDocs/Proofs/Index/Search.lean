import CrateDocs.Index.Basic
import CrateDocs.Proofs.Item.Name
import CrateDocs.Proofs.Order
import Mathlib.Data.Prod.Lex
import Mathlib.Data.String.Basic

namespace CrateDocs

namespace Hit

def key (h : Hit) : String ×ₗ String ×ₗ String ×ₗ Nat :=
  toLex (h.path, toLex (h.name, toLex (h.description, h.kindRank)))

def address (h : Hit) : String := h.path ++ "::" ++ h.name

theorem kindRank_inj {a b : Hit} (h : a.kindRank = b.kindRank) : a.kind = b.kind := by
  unfold kindRank at h
  cases ha : a.kind with
  | none => cases hb : b.kind <;> simp_all
  | some j =>
    cases hb : b.kind with
    | none => simp [ha, hb] at h
    | some k =>
      have hr : j.rank = k.rank := by simpa [ha, hb] using h
      rw [Kind.rank_inj.mp hr]

theorem key_injective : Function.Injective key := by
  intro a b h
  have hp : (a.path, toLex (a.name, toLex (a.description, a.kindRank))) =
    (b.path, toLex (b.name, toLex (b.description, b.kindRank))) := toLex.injective h
  obtain ⟨hpath, hn⟩ := Prod.mk.inj hp
  obtain ⟨hname, hd⟩ := Prod.mk.inj (toLex.injective hn)
  obtain ⟨hdescription, hk⟩ := Prod.mk.inj (toLex.injective hd)
  have hkind := kindRank_inj hk
  cases a
  cases b
  simp_all

theorem precedes_eq (a b : Hit) : precedes a b = decide (a.key ≤ b.key) := by
  rw [Bool.eq_iff_iff, decide_eq_true_eq]
  simp only [key, Prod.Lex.toLex_le_toLex]
  unfold precedes
  by_cases hp : a.path = b.path
  · by_cases hn : a.name = b.name
    · by_cases hd : a.description = b.description
      · simp [hp, hn, hd]
      · simp [hp, hn, hd]
    · simp [hp, hn]
  · simp [hp]

theorem isLinear_precedes : IsLinear precedes := isLinear_of_key key_injective precedes_eq

theorem pairwise_sort (hs : List Hit) : (sort hs).Pairwise fun a b => a.key < b.key := by
  refine (pairwise_sortedSet isLinear_precedes hs).imp ?_
  rintro a b ⟨hab, hne⟩
  rw [precedes_eq, decide_eq_true_eq] at hab
  exact lt_of_le_of_ne hab fun h => hne (key_injective h)

theorem mem_sort {h : Hit} {hs : List Hit} : h ∈ sort hs ↔ h ∈ hs := mem_sortedSet

theorem sort_eq_of_mem_iff {hs hs' : List Hit} (h : ∀ a, a ∈ hs ↔ a ∈ hs') : sort hs = sort hs' :=
  sortedSet_eq_of_mem_iff isLinear_precedes h

/-- Whether a keyword is the address of a hit, or what follows a separator in it. -/
def IsNamed (h : Hit) (keyword : String) : Prop :=
  h.address = keyword ∨ ∃ front, h.address = front ++ "::" ++ keyword

theorem fullName_text {h : Hit} (hp : h.path ≠ "") : h.fullName.text = h.address := by
  simp [fullName, hp, Name.child, address]

end Hit

namespace Index

/-- The last path that some entries give, or else the name of their package. -/
def pathInForce (name : String) (es : List Entry) : String :=
  ((es.map Entry.path).filter fun s => s ≠ "").getLast?.getD name

/-- The paths that may own an entry, with a path in force. -/
inductive Package.Owns (p : Package) (e : Entry) (path : String) : String → Prop where
  | parent {i : Nat} {n : Int} {s : String} (he : e.parent = some (i : Int))
      (hi : p.parents[i]? = some (n, s)) (hs : s ≠ "") : Owns p e path (path ++ "::" ++ s)
  | alone (h : ∀ (i : Nat) n s, e.parent = some (i : Int) → p.parents[i]? = some (n, s) → s = "") :
      Owns p e path path

/-- The hits of a package: one for every entry that is no associated type. -/
def Package.Lists (p : Package) (name : String) (h : Hit) : Prop :=
  ∃ i e, p.entries[i]? = some e ∧ e.kind ≠ .assocType ∧
    p.Owns e (pathInForce name (p.entries.take (i + 1))) h.path ∧
    h.name = e.name ∧ h.description = e.description ∧ h.kind = some e.kind

def Lists (x : Index) (h : Hit) : Prop := ∃ p ∈ x.packages, p.2.Lists p.1 h

theorem pathInForce_nil (name : String) : pathInForce name [] = name := rfl

theorem pathInForce_cons (name : String) (e : Entry) (r : List Entry) :
    pathInForce name (e :: r) = pathInForce (if e.path.isEmpty then name else e.path) r := by
  by_cases h : e.path = ""
  · simp [pathInForce, h]
  · simp [pathInForce, h, List.getLast?_cons]

theorem pathInForce_ne_empty {name : String} (hn : name ≠ "") (es : List Entry) :
    pathInForce name es ≠ "" := by
  induction es generalizing name with
  | nil => exact hn
  | cons e r ih =>
    rw [pathInForce_cons]
    apply ih
    split
    · exact hn
    · next h => simpa using h

theorem Package.parentName?_eq_some_iff {p : Package} {e : Entry} {s : String} :
    p.parentName? e = some s ↔
      ∃ (i : Nat) (n : Int), e.parent = some (i : Int) ∧ p.parents[i]? = some (n, s) := by
  unfold parentName?
  constructor
  · intro h
    obtain ⟨i, hi, hm⟩ := Option.bind_eq_some_iff.mp h
    split at hm
    · next h0 =>
      obtain ⟨⟨n, _⟩, hns, rfl⟩ := Option.map_eq_some_iff.mp hm
      exact ⟨i.toNat, n, by rw [hi, Int.toNat_of_nonneg h0], hns⟩
    · cases hm
  · rintro ⟨i, n, he, hi⟩
    simp [he, hi]

theorem Package.owns_iff {p : Package} {e : Entry} {path q : String} :
    p.Owns e path q ↔ q = p.owner path e := by
  unfold owner
  cases hp : p.parentName? e with
  | none =>
    have hno : ∀ (i : Nat) n s, e.parent = some (i : Int) → p.parents[i]? ≠ some (n, s) := by
      intro i n s he hi
      rw [parentName?_eq_some_iff.mpr ⟨i, n, he, hi⟩] at hp
      cases hp
    constructor
    · rintro (⟨he, hi, -⟩ | -)
      · exact absurd hi (hno _ _ _ he)
      · rfl
    · rintro rfl
      exact .alone fun i n s he hi => absurd hi (hno i n s he)
  | some parent =>
    obtain ⟨i, n, he, hi⟩ := parentName?_eq_some_iff.mp hp
    -- The parent of an entry is one at most, so that an entry is owned by one path.
    have huniq : ∀ (j : Nat) m s, e.parent = some (j : Int) → p.parents[j]? = some (m, s) →
        s = parent := by
      intro j m s hj hs
      have h := parentName?_eq_some_iff.mpr ⟨j, m, hj, hs⟩
      rw [hp] at h
      exact (Option.some.inj h).symm
    by_cases hs : parent = ""
    · subst hs
      constructor
      · rintro (⟨he', hi', hs'⟩ | -)
        · exact absurd (huniq _ _ _ he' hi') hs'
        · rfl
      · rintro rfl
        exact .alone huniq
    · simp only [String.isEmpty_iff, hs, if_false]
      constructor
      · rintro (⟨he', hi', -⟩ | h)
        · rw [huniq _ _ _ he' hi']
        · exact absurd (h i n parent he hi) hs
      · rintro rfl
        exact .parent he hi hs

theorem Package.owns_ne_empty {p : Package} {e : Entry} {path q : String} (hp : path ≠ "")
    (h : p.Owns e path q) : q ≠ "" := by
  cases h with
  | parent => simp
  | alone => exact hp

theorem Package.mem_ownedFrom {p : Package} {path : String} {es : List Entry}
    {x : Entry × String} :
    x ∈ p.ownedFrom path es ↔ ∃ i : Nat, es[i]? = some x.1 ∧ x.1.kind ≠ .assocType ∧
      x.2 = p.owner (pathInForce path (es.take (i + 1))) x.1 := by
  induction es generalizing path with
  | nil => simp [ownedFrom]
  | cons e r ih =>
    let path' := if e.path.isEmpty then path else e.path
    have hforce : ∀ t, pathInForce path (e :: t) = pathInForce path' t := pathInForce_cons path e
    have hrest : x ∈ p.ownedFrom path' r ↔ ∃ i : Nat, (e :: r)[i + 1]? = some x.1 ∧
        x.1.kind ≠ .assocType ∧
        x.2 = p.owner (pathInForce path ((e :: r).take (i + 1 + 1))) x.1 := by
      simp only [ih, List.take_succ_cons, hforce, List.getElem?_cons_succ]
    have hhead : ((e :: r)[0]? = some x.1 ∧ x.1.kind ≠ .assocType ∧
        x.2 = p.owner (pathInForce path ((e :: r).take (0 + 1))) x.1) ↔
        e.kind ≠ .assocType ∧ x = (e, p.owner path' e) := by
      obtain ⟨e', q⟩ := x
      simp only [List.take_succ_cons, hforce, List.take_zero, pathInForce_nil,
        List.getElem?_cons_zero, Option.some.injEq, Prod.mk.injEq]
      constructor
      · rintro ⟨rfl, hk, hq⟩
        exact ⟨hk, rfl, hq⟩
      · rintro ⟨hk, rfl, hq⟩
        exact ⟨rfl, hk, hq⟩
    have hdef : p.ownedFrom path (e :: r) =
        if e.kind = .assocType then p.ownedFrom path' r
        else (e, p.owner path' e) :: p.ownedFrom path' r := rfl
    -- An entry is the first one or a later one; the path in force before the later ones is the one
    -- after the first.
    rw [← Nat.or_exists_add_one, hhead, ← hrest, hdef]
    by_cases hk : e.kind = .assocType
    · simp [hk]
    · simp [hk]

theorem lists_iff {x : Index} {h : Hit} : x.Lists h ↔ ∃ e ∈ x.entries, hitOf e = h := by
  simp only [Lists, Package.Lists, entries, List.mem_flatMap, Package.mem_ownedFrom]
  constructor
  · rintro ⟨⟨name, p⟩, hp, i, e, he, hk, ho, hn, hd, hkind⟩
    refine ⟨(e, h.path), ⟨⟨name, p⟩, hp, i, he, hk, Package.owns_iff.mp ho⟩, ?_⟩
    cases h
    simp_all [hitOf]
  · rintro ⟨⟨e, q⟩, ⟨⟨name, p⟩, hp, i, he, hk, ho⟩, rfl⟩
    exact ⟨(name, p), hp, i, e, he, hk, Package.owns_iff.mpr ho, rfl, rfl, rfl⟩

theorem endsWith_nameOf {e : Entry × String} {keyword : String} :
    (nameOf e).endsWith keyword = true ↔ (hitOf e).IsNamed keyword := Name.endsWith_iff

theorem mem_find {x : Index} {keyword : String} {h : Hit} :
    h ∈ x.find keyword ↔ x.Lists h ∧ h.IsNamed keyword := by
  rw [find, Hit.mem_sort, List.mem_map, lists_iff]
  simp only [List.mem_filter, endsWith_nameOf]
  constructor
  · rintro ⟨e, ⟨he, hn⟩, rfl⟩
    exact ⟨⟨e, he, rfl⟩, hn⟩
  · rintro ⟨⟨e, he, rfl⟩, hn⟩
    exact ⟨e, ⟨he, hn⟩, rfl⟩

theorem mem_names {x : Index} {n : String} : n ∈ x.names ↔ ∃ h, x.Lists h ∧ h.address = n := by
  rw [names, mem_sortedSet, List.mem_map]
  simp only [lists_iff]
  constructor
  · rintro ⟨e, he, rfl⟩
    exact ⟨hitOf e, ⟨e, he, rfl⟩, rfl⟩
  · rintro ⟨_, ⟨e, he, rfl⟩, rfl⟩
    exact ⟨e, he, rfl⟩

theorem path_ne_empty_of_lists {x : Index} (hx : ∀ p ∈ x.packages, p.1 ≠ "") {h : Hit}
    (hl : x.Lists h) : h.path ≠ "" := by
  obtain ⟨p, hp, i, e, -, -, ho, -⟩ := hl
  exact Package.owns_ne_empty (pathInForce_ne_empty (hx p hp) _) ho

theorem fullName_find {x : Index} (hx : ∀ p ∈ x.packages, p.1 ≠ "") {keyword n : String} :
    (∃ h ∈ x.find keyword, h.fullName.text = n) ↔
      n ∈ x.names ∧ (Name.mk n).endsWith keyword = true := by
  rw [mem_names, Name.endsWith_iff]
  simp only [mem_find]
  constructor
  · rintro ⟨h, ⟨hl, hn⟩, rfl⟩
    rw [Hit.fullName_text (path_ne_empty_of_lists hx hl)]
    exact ⟨⟨h, hl, rfl⟩, hn⟩
  · rintro ⟨⟨h, hl, rfl⟩, hn⟩
    exact ⟨h, ⟨hl, hn⟩, Hit.fullName_text (path_ne_empty_of_lists hx hl)⟩

end Index

end CrateDocs
