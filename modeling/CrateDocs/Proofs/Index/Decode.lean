import CrateDocs.Index.Decode
import CrateDocs.Proofs.Except

/-!
What the steps of decoding a package accept, and what they make of it. A check is settled by an
equivalence: it gives a result exactly if the value has a certain shape, and the result is read off
the shape. The paths of a package are those that its cells give last.
-/

namespace CrateDocs

theorem Checked.each_eq_ok_iff {ε α β : Type} {check : β → Checked ε α} {bs : List β}
    {as : List α} :
    each check bs = ok as ↔ List.Forall₂ (fun b a => check b = ok a) bs as := by
  induction bs generalizing as with
  | nil => simp [each, eq_comm]
  | cons b r ih =>
    simp only [each, seq_eq_ok_iff, map_eq_ok_iff, List.forall₂_cons_left_iff]
    constructor
    · rintro ⟨_, t, ⟨a, ha, rfl⟩, ht, rfl⟩
      exact ⟨a, t, ha, ih.mp ht, rfl⟩
    · rintro ⟨a, t, ha, ht, rfl⟩
      exact ⟨_, t, ⟨a, ha, rfl⟩, ih.mpr ht, rfl⟩

namespace Index

open Json (Value)

namespace Checked

variable {α β : Type} {v : Value}

theorem ofRule_eq_ok_iff {x : Except Rule α} {a : α} : Checked.ofRule x = .ok a ↔ x = .ok a := by
  rw [ofRule, CrateDocs.Checked.ofExcept_eq_ok_iff, mapError_eq_ok_iff]

theorem ruled_eq_ok_iff {x : Checked α} {f : α → Except Rule β} {b : β} :
    x.ruled f = .ok b ↔ ∃ a, x = .ok a ∧ f a = .ok b := by
  simp only [ruled, CrateDocs.Checked.andThen_eq_ok_iff, mapError_eq_ok_iff]

theorem string_eq_ok_iff {s : String} : string v = .ok s ↔ v = .text s := by
  cases v <;> simp [string, CrateDocs.Checked.fault]

theorem integer_eq_ok_iff {n : Int} : integer v = .ok n ↔ v = .int n := by
  cases v <;> simp [integer, CrateDocs.Checked.fault]

theorem listOf_eq_ok_iff {check : Value → Checked α} {as : List α} :
    listOf check v = .ok as ↔
      ∃ vs, v = .list vs ∧ List.Forall₂ (fun v a => check v = .ok a) vs as := by
  cases v <;> simp [listOf, CrateDocs.Checked.fault, CrateDocs.Checked.each_eq_ok_iff]

theorem required_eq_ok_iff {key : String} {check : Value → Checked α}
    {ms : List (String × Value)} {a : α} :
    required key check ms = .ok a ↔ ∃ v, Record.get? key ms = some v ∧ check v = .ok a := by
  unfold required
  cases Record.get? key ms <;> simp [CrateDocs.Checked.fault]

end Checked

theorem columns_eq_ok_iff {kinds : Value → Checked (List Kind)} {ms : List (String × Value)}
    {c : Columns} :
    columns kinds ms = .ok c ↔
      Checked.required "p" Checked.parents ms = .ok c.parentTable ∧
      Checked.required "t" kinds ms = .ok c.kinds ∧
      Checked.required "n" (Checked.listOf .string) ms = .ok c.names ∧
      Checked.required "q" (Checked.listOf pathCell) ms = .ok c.paths ∧
      Checked.required "d" (Checked.listOf .string) ms = .ok c.descriptions ∧
      Checked.required "i" (Checked.listOf .integer) ms = .ok c.parents := by
  simp only [columns, CrateDocs.Checked.seq_eq_ok_iff, CrateDocs.Checked.map_eq_ok_iff]
  constructor
  · rintro ⟨_, is, ⟨_, ds, ⟨_, qs, ⟨_, ns, ⟨_, ts, ⟨ps, hp, rfl⟩, ht, rfl⟩, hn, rfl⟩, hq, rfl⟩,
      hd, rfl⟩, hi, rfl⟩
    exact ⟨hp, ht, hn, hq, hd, hi⟩
  · rintro ⟨hp, ht, hn, hq, hd, hi⟩
    exact ⟨_, _, ⟨_, _, ⟨_, _, ⟨_, _, ⟨_, _, ⟨_, hp, rfl⟩, ht, rfl⟩, hn, rfl⟩, hq, rfl⟩,
      hd, rfl⟩, hi, rfl⟩

namespace Columns

variable {c : Columns}

theorem mismatches_eq_nil_iff :
    c.mismatches = [] ↔ c.kinds.length = c.names.length ∧
      c.descriptions.length = c.names.length ∧ c.parents.length = c.names.length := by
  simp [mismatches, List.filter_eq_nil_iff]

theorem inRange_iff {i : Int} : c.inRange i = true ↔ 0 ≤ i ∧ i < max c.names.length 1 := by
  simp [inRange]

theorem broken?_eq_none_iff :
    c.broken? = none ↔
      (c.kinds.length = c.names.length ∧ c.descriptions.length = c.names.length ∧
        c.parents.length = c.names.length) ∧
      (∀ n ∈ c.parents, 0 ≤ n) ∧
      ∀ p ∈ placed 0 c.paths, 0 ≤ p.1 ∧ p.1 < max c.names.length 1 := by
  rw [← mismatches_eq_nil_iff]
  simp only [← inRange_iff]
  unfold broken?
  cases c.mismatches with
  | cons m r => simp
  | nil =>
    by_cases hn : ∀ n ∈ c.parents, 0 ≤ n
    · have ha : (c.parents.any fun n => decide (n < 0)) = false := by simpa using hn
      simpa [ha] using fun _ => hn
    · have ha : (c.parents.any fun n => decide (n < 0)) = true := by simpa using hn
      simp [ha, hn]

theorem package_eq_ok_iff {p : Package} :
    c.package = .ok p ↔ c.broken? = none ∧
      p = ⟨entriesFrom c.kinds c.names c.pathList c.descriptions c.parents, c.parentTable⟩ := by
  unfold package
  cases c.broken? <;> simp [eq_comm]

theorem entriesFrom_nil (ks : List Kind) (ns ps ds : List String) :
    entriesFrom ks ns ps ds [] = [] := by
  cases ks <;> cases ns <;> cases ps <;> cases ds <;> rfl

theorem size_foldl_set (ps : List (Int × String)) (a : Array String) :
    (ps.foldl (fun a p => a.setIfInBounds p.1.toNat p.2) a).size = a.size := by
  induction ps generalizing a with
  | nil => rfl
  | cons p r ih => rw [List.foldl_cons, ih, Array.size_setIfInBounds]

theorem getElem?_foldl_set (ps : List (Int × String)) (a : Array String) {k : Nat}
    (hk : k < a.size) :
    (ps.foldl (fun a p => a.setIfInBounds p.1.toNat p.2) a)[k]? =
      some (((ps.reverse.find? fun p => p.1.toNat == k).map Prod.snd).getD a[k]) := by
  induction ps generalizing a with
  | nil => simp [hk]
  | cons p r ih =>
    have hs : k < (a.setIfInBounds p.1.toNat p.2).size := by simpa using hk
    rw [List.foldl_cons, ih _ hs, List.reverse_cons, List.find?_append]
    cases r.reverse.find? fun p => p.1.toNat == k with
    | some q => simp
    | none =>
      by_cases hp : p.1.toNat = k
      · simp [hp]
      · simp [hp, Array.getElem_setIfInBounds_ne hk hp]

theorem length_pathList : c.pathList.length = c.names.length := by
  rw [pathList, Array.length_toList, size_foldl_set, Array.size_replicate]

theorem getElem?_pathList {k : Nat} (hk : k < c.names.length) :
    c.pathList[k]? =
      some ((((placed 0 c.paths).reverse.find? fun p => p.1.toNat == k).map Prod.snd).getD "") := by
  rw [pathList, Array.getElem?_toList, getElem?_foldl_set _ _ (by simpa using hk)]
  simp

end Columns

theorem tupleEntries_eq_ok_iff {v : Value} {es : List Entry} :
    tupleEntries v = .ok es ↔
      ∃ vs, v = .list vs ∧ List.Forall₂ (fun v e => tupleEntry v = .ok e) vs es := by
  cases v <;> simp [tupleEntries, mapM_eq_ok_iff]

theorem decode_tuples_eq_ok_iff {v : Value} {p : Package} :
    Format.tuples.decode v = .ok p ↔
      ∃ ms, v = .object ms ∧ Checked.required "p" .parents ms = .ok p.parents ∧
        Checked.required "i" (fun v => .ofRule (tupleEntries v)) ms = .ok p.entries := by
  cases v with
  | object ms =>
    simp only [Format.decode, CrateDocs.Checked.seq_eq_ok_iff, CrateDocs.Checked.map_eq_ok_iff]
    constructor
    · rintro ⟨_, es, ⟨ps, hp, rfl⟩, hi, rfl⟩
      exact ⟨ms, rfl, hp, hi⟩
    · rintro ⟨_, h, hp, hi⟩
      cases h
      exact ⟨_, _, ⟨_, hp, rfl⟩, hi, rfl⟩
  | _ => simp [Format.decode, CrateDocs.Checked.fault]

theorem decode_columns_eq_ok_iff {v : Value} {p : Package} :
    Format.columns.decode v = .ok p ↔
      ∃ ms c, v = .object ms ∧ columns numberedKinds ms = .ok c ∧ c.package = .ok p := by
  cases v <;> simp [Format.decode, CrateDocs.Checked.fault, Checked.ruled_eq_ok_iff]

theorem decode_packed_eq_ok_iff {v : Value} {p : Package} :
    Format.packed.decode v = .ok p ↔
      ∃ ms c, v = .object ms ∧ columns letteredKinds ms = .ok c ∧ c.package = .ok p := by
  cases v <;> simp [Format.decode, CrateDocs.Checked.fault, Checked.ruled_eq_ok_iff]

theorem not_numbered_of_lettered {v : Value} {ks ks' : List Kind} (h : letteredKinds v = .ok ks) :
    numberedKinds v ≠ .ok ks' := by
  obtain ⟨s, hs, -⟩ := Checked.ruled_eq_ok_iff.mp h
  rw [Checked.string_eq_ok_iff] at hs
  subst hs
  intro hn
  obtain ⟨ns, hl, -⟩ := Checked.ruled_eq_ok_iff.mp hn
  obtain ⟨vs, hv, -⟩ := Checked.listOf_eq_ok_iff.mp hl
  cases hv

-- A tuple is no number, so a column of parents that is also a list of tuples is empty.
theorem nil_of_tuples_of_integers {vs : List Value} {es : List Entry} {ns : List Int}
    (ht : List.Forall₂ (fun v e => tupleEntry v = .ok e) vs es)
    (hi : List.Forall₂ (fun v n => Checked.integer v = .ok n) vs ns) : es = [] ∧ ns = [] := by
  cases vs with
  | nil =>
    exact ⟨List.forall₂_nil_left_iff.mp ht, List.forall₂_nil_left_iff.mp hi⟩
  | cons v r =>
    obtain ⟨e, _, he, -, -⟩ := List.forall₂_cons_left_iff.mp ht
    obtain ⟨n, _, hn, -, -⟩ := List.forall₂_cons_left_iff.mp hi
    rw [Checked.integer_eq_ok_iff] at hn
    subst hn
    simp [tupleEntry] at he

theorem entries_nil_of_tuples_of_columns {kinds : Value → Checked (List Kind)}
    {ms : List (String × Value)} {p : Package} {c : Columns}
    (hp : Format.tuples.decode (.object ms) = .ok p) (hc : columns kinds ms = .ok c) :
    p.entries = [] ∧ c.parents = [] := by
  obtain ⟨_, h, -, hpi⟩ := decode_tuples_eq_ok_iff.mp hp
  cases h
  obtain ⟨-, -, -, -, -, hci⟩ := columns_eq_ok_iff.mp hc
  obtain ⟨v, hv, he⟩ := Checked.required_eq_ok_iff.mp hpi
  obtain ⟨_, hw, hn⟩ := Checked.required_eq_ok_iff.mp hci
  cases hv.symm.trans hw
  obtain ⟨vs, rfl, ht⟩ := tupleEntries_eq_ok_iff.mp (Checked.ofRule_eq_ok_iff.mp he)
  obtain ⟨_, hl, hi⟩ := Checked.listOf_eq_ok_iff.mp hn
  cases hl
  exact nil_of_tuples_of_integers ht hi

theorem package_of_tuples_of_columns {kinds : Value → Checked (List Kind)}
    {ms : List (String × Value)} {p q : Package} {c : Columns}
    (hp : Format.tuples.decode (.object ms) = .ok p) (hc : columns kinds ms = .ok c)
    (hq : c.package = .ok q) : p = q := by
  obtain ⟨hes, hns⟩ := entries_nil_of_tuples_of_columns hp hc
  obtain ⟨_, h, hpp, -⟩ := decode_tuples_eq_ok_iff.mp hp
  cases h
  obtain ⟨hcp, -⟩ := columns_eq_ok_iff.mp hc
  obtain ⟨-, rfl⟩ := Columns.package_eq_ok_iff.mp hq
  have hparents : p.parents = c.parentTable := by
    have h := hpp.symm.trans hcp
    injection h
  rcases p with ⟨es, ps⟩
  simp only at hes hparents
  subst hes hparents
  rw [hns, Columns.entriesFrom_nil]

theorem not_packed_of_columns {v : Value} {p q : Package} (h : Format.columns.decode v = .ok p) :
    Format.packed.decode v ≠ .ok q := by
  intro h'
  obtain ⟨ms, c, rfl, hc, -⟩ := decode_columns_eq_ok_iff.mp h
  obtain ⟨_, c', hm, hc', -⟩ := decode_packed_eq_ok_iff.mp h'
  cases hm
  obtain ⟨-, ht, -⟩ := columns_eq_ok_iff.mp hc
  obtain ⟨-, ht', -⟩ := columns_eq_ok_iff.mp hc'
  obtain ⟨w, hw, hk⟩ := Checked.required_eq_ok_iff.mp ht
  obtain ⟨_, hw', hk'⟩ := Checked.required_eq_ok_iff.mp ht'
  cases hw.symm.trans hw'
  exact not_numbered_of_lettered hk' hk

theorem decode_tuples_unique {g : Format} {v : Value} {p q : Package}
    (hp : Format.tuples.decode v = .ok p) (hq : g.decode v = .ok q) : p = q := by
  cases g with
  | tuples =>
    have h := hp.symm.trans hq
    injection h
  | columns =>
    obtain ⟨ms, c, rfl, hc, hk⟩ := decode_columns_eq_ok_iff.mp hq
    exact package_of_tuples_of_columns hp hc hk
  | packed =>
    obtain ⟨ms, c, rfl, hc, hk⟩ := decode_packed_eq_ok_iff.mp hq
    exact package_of_tuples_of_columns hp hc hk

theorem decode_unique {f g : Format} {v : Value} {p q : Package} (hp : f.decode v = .ok p)
    (hq : g.decode v = .ok q) : p = q := by
  by_cases hfg : f = g
  · subst hfg
    have h := hp.symm.trans hq
    injection h
  cases f with
  | tuples => exact decode_tuples_unique hp hq
  | columns =>
    cases g with
    | tuples => exact (decode_tuples_unique hq hp).symm
    | columns => exact absurd rfl hfg
    | packed => exact absurd hq (not_packed_of_columns hp)
  | packed =>
    cases g with
    | tuples => exact (decode_tuples_unique hq hp).symm
    | columns => exact absurd hp (not_packed_of_columns hq)
    | packed => exact absurd rfl hfg

theorem decodeWith_of_decode {v : Value} {p : Package} {f : Format} {fs : List Format}
    (hf : f ∈ fs) (hp : f.decode v = .ok p) : ∃ g, (decodeWith v fs).2 = some (g, p) := by
  induction fs with
  | nil => cases hf
  | cons g r ih =>
    unfold decodeWith
    cases hg : g.decode v with
    | ok q => exact ⟨g, by rw [decode_unique hp hg]⟩
    | error es =>
      rcases List.mem_cons.mp hf with rfl | hr
      · cases hp.symm.trans hg
      · exact ih hr

theorem Format.mem_all (f : Format) : f ∈ Format.all := by
  cases f <;> decide

theorem result_decodePackage_of_decode {v : Value} {p : Package} {f : Format}
    (hp : f.decode v = .ok p) (source : Option Path) (name : String) :
    (decodePackage source name v).result = .ok p := by
  obtain ⟨g, hg⟩ := decodeWith_of_decode f.mem_all hp
  unfold decodePackage
  rcases hd : decodeWith v Format.all with ⟨rs, found⟩
  rw [hd] at hg
  cases hg
  rfl

end Index

end CrateDocs
