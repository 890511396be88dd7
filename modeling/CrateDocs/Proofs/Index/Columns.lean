import CrateDocs.Proofs.Index.Forms
import CrateDocs.Proofs.Index.Written
import Mathlib.Data.List.Induction

/-!
Packages in columns. A value is one exactly if its members are columns of the right types, of one
length, and every path has a place among the items; what it is read as is settled column by column.
-/

namespace CrateDocs

theorem Text.Surrogate.toNat_eq_codePoint {c : Char} (h : codePoint c < 0xD800) :
    c.toNat = codePoint c := by
  unfold codePoint unit? at h ⊢
  split
  · next hu =>
    rw [if_pos hu, Option.getD_some] at h
    simp only [isUnit, isHigh, isLow, Bool.or_eq_true, Bool.and_eq_true, decide_eq_true_eq] at hu
    omega
  · rfl

namespace Kind

theorem ofNumber_eq_ok_iff {n : Int} {k : Kind} : ofNumber n = .ok k ↔ n = k.number := by
  constructor
  · intro h
    unfold ofNumber at h
    split at h
    · next j hj =>
      have hn : (j.number : Int) = n := by simpa using List.find?_some hj
      cases h
      exact hn.symm
    · cases h
  · rintro rfl
    exact ofNumber_number k

theorem number_le (k : Kind) : k.number ≤ 25 := by cases k <;> decide

theorem ofLetter_eq_ok_iff {c : Char} {k : Kind} : ofLetter c = .ok k ↔ c = k.letter := by
  constructor
  · intro h
    have hn := ofNumber_eq_ok_iff.mp h
    have hk : k.number ≤ 25 := k.number_le
    have hp : Text.Surrogate.codePoint c = 'A'.toNat + k.number := by omega
    have hA : 'A'.toNat = 65 := rfl
    have hc : c.toNat = Text.Surrogate.codePoint c :=
      Text.Surrogate.toNat_eq_codePoint (by omega)
    rw [letter, ← hp, ← hc, Char.ofNat_toNat]
  · rintro rfl
    exact ofLetter_letter k

end Kind

namespace Index

open Json (Value)

theorem kindRule_eq_ok_iff {x : Except Kind.Unknown Kind} {k : Kind} :
    kindRule x = .ok k ↔ x = .ok k := mapError_eq_ok_iff

theorem forall₂_eq_map_iff {α β : Type} {f : β → α} {as : List α} {bs : List β} :
    List.Forall₂ (fun a b => a = f b) as bs ↔ as = bs.map f := by
  rw [← List.forall₂_map_right_iff (R := Eq), List.forall₂_eq_eq_eq]

inductive KindsWritten (ks : List Kind) : Format → Value → Prop where
  | numbers : KindsWritten ks .columns (.list (ks.map fun k => .int k.number))
  | letters : KindsWritten ks .packed (.text (String.ofList (ks.map Kind.letter)))

theorem numberedKinds_eq_ok_iff {v : Value} {ks : List Kind} :
    numberedKinds v = .ok ks ↔ KindsWritten ks .columns v := by
  simp only [numberedKinds, Checked.ruled_eq_ok_iff, Checked.listOf_eq_ok_iff,
    Checked.integer_eq_ok_iff, mapM_eq_ok_iff, kindRule_eq_ok_iff, Kind.ofNumber_eq_ok_iff,
    forall₂_eq_map_iff]
  constructor
  · rintro ⟨_, ⟨_, rfl, rfl⟩, rfl⟩
    rw [List.map_map]
    exact .numbers
  · rintro ⟨⟩
    exact ⟨_, ⟨_, rfl, (List.map_map ..).symm⟩, rfl⟩

theorem letteredKinds_eq_ok_iff {v : Value} {ks : List Kind} :
    letteredKinds v = .ok ks ↔ KindsWritten ks .packed v := by
  simp only [letteredKinds, Checked.ruled_eq_ok_iff, Checked.string_eq_ok_iff, mapM_eq_ok_iff,
    kindRule_eq_ok_iff, Kind.ofLetter_eq_ok_iff, forall₂_eq_map_iff]
  constructor
  · rintro ⟨s, rfl, hs⟩
    rw [← String.ofList_toList (s := s), hs]
    exact .letters
  · rintro ⟨⟩
    exact ⟨_, rfl, String.toList_ofList⟩

namespace PathCell

def value : PathCell → Value
  | .here s => .text s
  | .at i s => .list [.int i, .text s]

def path : PathCell → String
  | .here s => s
  | .at _ s => s

/-- The number of the item that the cell in row `j` has a path for. -/
def place (j : Nat) : PathCell → Int
  | .here _ => j
  | .at i _ => i

end PathCell

theorem pathCell_eq_ok_iff {v : Value} {c : PathCell} : pathCell v = .ok c ↔ v = c.value := by
  constructor
  · intro h
    unfold pathCell at h
    split at h
    · cases h
      rfl
    · split at h
      · cases h
        rfl
      · cases h
    all_goals cases h
  · rintro rfl
    cases c <;> rfl

theorem getElem?_placed (start : Nat) (cells : List PathCell) (j : Nat) :
    (placed start cells)[j]? = cells[j]?.map fun c => (c.place (start + j), c.path) := by
  induction cells generalizing start j with
  | nil => simp [placed]
  | cons c r ih =>
    have hc : placed start (c :: r) = (c.place start, c.path) :: placed (start + 1) r := by
      cases c <;> rfl
    rw [hc]
    cases j with
    | zero => rfl
    | succ j => rw [List.getElem?_cons_succ, List.getElem?_cons_succ, ih, Nat.add_right_comm]; rfl

theorem mem_placed {cells : List PathCell} {x : Int × String} :
    x ∈ placed 0 cells ↔
      ∃ (j : Nat) (c : PathCell), cells[j]? = some c ∧ x = (c.place j, c.path) := by
  simp only [List.mem_iff_getElem?, getElem?_placed, Nat.zero_add, Option.map_eq_some_iff,
    eq_comm (b := x)]

/-- The path that some cells give the item with number `k`: that of the last cell for it. -/
inductive PathGiven (cells : List PathCell) (k : Nat) : String → Prop where
  | last {j : Nat} {c : PathCell} (hc : cells[j]? = some c) (hk : c.place j = k)
      (h : ∀ (i : Nat) (d : PathCell), j < i → cells[i]? = some d → d.place i ≠ k) :
      PathGiven cells k c.path
  | none (h : ∀ (j : Nat) (c : PathCell), cells[j]? = some c → c.place j ≠ k) : PathGiven cells k ""

/-- Columns that are those of a package: of one length, with parents that are counted and paths for
items that there are. A package without items may have paths for its first one. -/
structure Columns.IsTable (c : Columns) : Prop where
  kinds : c.kinds.length = c.names.length
  descriptions : c.descriptions.length = c.names.length
  parents : c.parents.length = c.names.length
  counted : ∀ n ∈ c.parents, 0 ≤ n
  placed : ∀ (j : Nat) (d : PathCell), c.paths[j]? = some d →
    0 ≤ d.place j ∧ d.place j < max c.names.length 1

theorem Columns.broken?_eq_none_iff_isTable {c : Columns} : c.broken? = none ↔ c.IsTable := by
  rw [broken?_eq_none_iff]
  constructor
  · rintro ⟨⟨hk, hd, hp⟩, hn, hc⟩
    exact ⟨hk, hd, hp, hn, fun j d hj => hc _ (mem_placed.mpr ⟨j, d, hj, rfl⟩)⟩
  · rintro ⟨hk, hd, hp, hn, hc⟩
    refine ⟨⟨hk, hd, hp⟩, hn, fun x hx => ?_⟩
    obtain ⟨j, d, hj, rfl⟩ := mem_placed.mp hx
    exact hc j d hj

structure Columns.Written (c : Columns) (f : Format) (ms : List (String × Value)) : Prop where
  parentTable : ∃ v, Record.get? "p" ms = some v ∧ ParentsWritten c.parentTable v
  kinds : ∃ v, Record.get? "t" ms = some v ∧ KindsWritten c.kinds f v
  names : Record.get? "n" ms = some (.list (c.names.map .text))
  paths : Record.get? "q" ms = some (.list (c.paths.map PathCell.value))
  descriptions : Record.get? "d" ms = some (.list (c.descriptions.map .text))
  parents : Record.get? "i" ms = some (.list (c.parents.map .int))

theorem parents_eq_ok_iff {v : Value} {ps : List (Int × String)} :
    Checked.parents v = .ok ps ↔ ParentsWritten ps v := by
  refine ⟨fun h => ?_, parents_of_written⟩
  rw [Checked.parents, Checked.ofRule_eq_ok_iff] at h
  unfold parentTable at h
  split at h
  · refine .rows ((mapM_eq_ok_iff.mp h).imp fun v p hp => ?_)
    unfold parentEntry at hp
    split at hp
    · cases hp
      exact ⟨_, rfl⟩
    · cases hp
  · cases h

theorem required_listOf_eq_ok_iff {α : Type} {check : Value → Checked α} {value : α → Value}
    (h : ∀ v a, check v = .ok a ↔ v = value a) {key : String} {ms : List (String × Value)}
    {as : List α} :
    Checked.required key (Checked.listOf check) ms = .ok as ↔
      Record.get? key ms = some (.list (as.map value)) := by
  simp only [Checked.required_eq_ok_iff, Checked.listOf_eq_ok_iff, h, forall₂_eq_map_iff]
  constructor
  · rintro ⟨_, hv, _, rfl, rfl⟩
    exact hv
  · intro hv
    exact ⟨_, hv, _, rfl, rfl⟩

theorem columns_eq_ok_iff_written {kinds : Value → Checked (List Kind)} {f : Format}
    (hk : ∀ v ks, kinds v = .ok ks ↔ KindsWritten ks f v) {ms : List (String × Value)}
    {c : Columns} : columns kinds ms = .ok c ↔ c.Written f ms := by
  rw [columns_eq_ok_iff, required_listOf_eq_ok_iff fun v s => Checked.string_eq_ok_iff,
    required_listOf_eq_ok_iff fun v d => pathCell_eq_ok_iff,
    required_listOf_eq_ok_iff fun v s => Checked.string_eq_ok_iff,
    required_listOf_eq_ok_iff fun v n => Checked.integer_eq_ok_iff]
  simp only [Checked.required_eq_ok_iff, parents_eq_ok_iff, hk]
  constructor
  · rintro ⟨hp, ht, hn, hq, hd, hi⟩
    exact ⟨hp, ht, hn, hq, hd, hi⟩
  · rintro ⟨hp, ht, hn, hq, hd, hi⟩
    exact ⟨hp, ht, hn, hq, hd, hi⟩

theorem placed_concat (start : Nat) (cells : List PathCell) (c : PathCell) :
    placed start (cells ++ [c]) =
      placed start cells ++ [(c.place (start + cells.length), c.path)] := by
  induction cells generalizing start with
  | nil => cases c <;> rfl
  | cons d r ih =>
    have hs : start + (r.length + 1) = start + 1 + r.length := by omega
    cases d <;> simp [placed, ih, hs]

theorem getElem?_concat_eq_some_iff {cells : List PathCell} {c d : PathCell} {j : Nat} :
    (cells ++ [c])[j]? = some d ↔ cells[j]? = some d ∨ j = cells.length ∧ d = c := by
  rw [List.getElem?_append]
  split
  · next hj =>
    have hne : j ≠ cells.length := Nat.ne_of_lt hj
    simp [hne]
  · next hj =>
    have hn : cells[j]? = none := List.getElem?_eq_none (Nat.le_of_not_lt hj)
    rw [hn, List.getElem?_singleton]
    by_cases h : j = cells.length
    · simp [h, eq_comm]
    · have hne : j - cells.length ≠ 0 := by omega
      simp [h, hne]

theorem pathGiven_nil {k : Nat} {s : String} : PathGiven [] k s ↔ s = "" := by
  constructor
  · rintro (⟨hc, -, -⟩ | -)
    · cases hc
    · rfl
  · rintro rfl
    exact .none fun j c hc => by cases hc

theorem pathGiven_concat {cells : List PathCell} {c : PathCell} {k : Nat} {s : String} :
    PathGiven (cells ++ [c]) k s ↔
      if c.place cells.length = k then s = c.path else PathGiven cells k s := by
  have hend : (cells ++ [c])[cells.length]? = some c := List.getElem?_concat_length
  have hfront {j : Nat} {d : PathCell} (hd : cells[j]? = some d) :
      (cells ++ [c])[j]? = some d := getElem?_concat_eq_some_iff.mpr (.inl hd)
  -- A new cell overwrites what was given before it, but only at its own place.
  by_cases hk : c.place cells.length = k
  · rw [if_pos hk]
    constructor
    · intro h
      cases h with
      | @last j d hd hdk h =>
        rcases getElem?_concat_eq_some_iff.mp hd with hd | ⟨-, rfl⟩
        · have hj : j < cells.length := (List.getElem?_eq_some_iff.mp hd).1
          exact absurd hk (h _ c hj hend)
        · rfl
      | none h => exact absurd hk (h _ c hend)
    · rintro rfl
      refine .last hend hk fun i d hi hd => ?_
      have hlt := (List.getElem?_eq_some_iff.mp hd).1
      simp at hlt
      omega
  · rw [if_neg hk]
    constructor
    · intro h
      cases h with
      | @last j d hd hdk h =>
        rcases getElem?_concat_eq_some_iff.mp hd with hd | ⟨rfl, rfl⟩
        · exact .last hd hdk fun i e hi he => h i e hi (hfront he)
        · exact absurd hdk hk
      | none h => exact .none fun j d hd => h j d (hfront hd)
    · intro h
      cases h with
      | @last j d hd hdk h =>
        refine .last (hfront hd) hdk fun i e hi he => ?_
        rcases getElem?_concat_eq_some_iff.mp he with he | ⟨rfl, rfl⟩
        · exact h i e hi he
        · exact hk
      | none h =>
        refine .none fun i e he => ?_
        rcases getElem?_concat_eq_some_iff.mp he with he | ⟨rfl, rfl⟩
        · exact h i e he
        · exact hk

theorem getElem?_foldl_placed (cells : List PathCell)
    (hc : ∀ (j : Nat) (c : PathCell), cells[j]? = some c → 0 ≤ c.place j) {n k : Nat} (hk : k < n)
    {s : String} :
    ((placed 0 cells).foldl (fun a p => a.setIfInBounds p.1.toNat p.2)
      (Array.replicate n ""))[k]? = some s ↔ PathGiven cells k s := by
  induction cells using List.reverseRecOn with
  | nil => simp [placed, pathGiven_nil, hk, eq_comm]
  | append_singleton cells c ih =>
    have h0 : 0 ≤ c.place cells.length := hc _ c List.getElem?_concat_length
    have hih := ih fun j d hd => hc j d (getElem?_concat_eq_some_iff.mpr (.inl hd))
    have hto : (c.place cells.length).toNat = k ↔ c.place cells.length = k := by omega
    rw [placed_concat, List.foldl_append, pathGiven_concat, Nat.zero_add, List.foldl_cons,
      List.foldl_nil, Array.getElem?_setIfInBounds, Columns.size_foldl_set, Array.size_replicate]
    simp only [hto]
    split
    · next h =>
      have hlt : (c.place cells.length).toNat < n := by omega
      simp [hlt, eq_comm]
    · exact hih

namespace Columns

variable {c : Columns}

/-- Writes a path at the place of its item, unless the place is behind the last item. There is no
writing before the first one. -/
def writePath? (paths : List String) (x : Int × String) : Option (List String) :=
  if x.1 < (paths.length : Int) then
    if 0 ≤ x.1 then some (paths.set x.1.toNat x.2) else none
  else some paths

def expanded? (c : Columns) : Option (List String) :=
  (Index.placed 0 c.paths).foldlM writePath? (List.replicate c.names.length "")

theorem foldlM_writePath? {cells : List (Int × String)} (h : ∀ x ∈ cells, 0 ≤ x.1)
    (a : Array String) :
    cells.foldlM writePath? a.toList =
      some (cells.foldl (fun a x => a.setIfInBounds x.1.toNat x.2) a).toList := by
  induction cells generalizing a with
  | nil => rfl
  | cons x r ih =>
    obtain ⟨hx, hr⟩ := List.forall_mem_cons.mp h
    have hstep : writePath? a.toList x = some (a.setIfInBounds x.1.toNat x.2).toList := by
      rw [Array.toList_setIfInBounds, writePath?, if_pos hx]
      split
      · rfl
      · next hl => rw [List.set_eq_of_length_le (by omega)]
    rw [List.foldlM_cons, hstep, List.foldl_cons]
    exact ih hr _

theorem IsTable.expanded?_eq (h : c.IsTable) : c.expanded? = some c.pathList := by
  have hr : List.replicate c.names.length "" = (Array.replicate c.names.length "").toList := by simp
  rw [expanded?, hr, foldlM_writePath?, pathList]
  intro x hx
  obtain ⟨j, d, hd, rfl⟩ := mem_placed.mp hx
  exact (h.placed j d hd).1

theorem IsTable.getElem?_pathList (h : c.IsTable) {k : Nat} (hk : k < c.names.length) {s : String} :
    c.pathList[k]? = some s ↔ PathGiven c.paths k s := by
  rw [pathList, Array.getElem?_toList]
  exact getElem?_foldl_placed c.paths (fun j d hd => (h.placed j d hd).1) hk

theorem getElem?_entriesFrom {ks : List Kind} {ns ps ds : List String} {is : List Int} {j : Nat}
    {e : Entry} :
    (entriesFrom ks ns ps ds is)[j]? = some e ↔
      ks[j]? = some e.kind ∧ ns[j]? = some e.name ∧ ps[j]? = some e.path ∧
        ds[j]? = some e.description ∧ ∃ i, is[j]? = some i ∧ e.parent = parentOf i := by
  fun_induction entriesFrom ks ns ps ds is generalizing j with
  | case1 k ks n ns p ps d ds i is ih =>
    cases j with
    | zero =>
      obtain ⟨kind, name, path, description, parent⟩ := e
      simp only [List.getElem?_cons_zero, Option.some.injEq, Entry.mk.injEq, eq_comm,
        exists_eq_left']
    | succ j => simpa using ih
  | case2 ks ns ps ds is h =>
    have hcons {α : Type} {l : List α} {a : α} (ha : l[j]? = some a) : ∃ b t, l = b :: t :=
      List.exists_cons_of_ne_nil fun hl => by simp [hl] at ha
    simp only [List.getElem?_nil, reduceCtorEq, false_iff]
    rintro ⟨hk, hn, hp, hd, i, hi, -⟩
    obtain ⟨_, _, rfl⟩ := hcons hk
    obtain ⟨_, _, rfl⟩ := hcons hn
    obtain ⟨_, _, rfl⟩ := hcons hp
    obtain ⟨_, _, rfl⟩ := hcons hd
    obtain ⟨_, _, rfl⟩ := hcons hi
    exact h _ _ _ _ _ _ _ _ _ _ rfl rfl rfl rfl rfl

theorem length_entriesFrom {ks : List Kind} {ns ps ds : List String} {is : List Int} {m : Nat}
    (hk : ks.length = m) (hn : ns.length = m) (hp : ps.length = m) (hd : ds.length = m)
    (hi : is.length = m) : (entriesFrom ks ns ps ds is).length = m := by
  fun_induction entriesFrom ks ns ps ds is generalizing m with
  | case1 k ks n ns p ps d ds i is ih =>
    subst hk
    simp only [List.length_cons, Nat.add_right_cancel_iff] at hn hp hd hi ⊢
    exact ih rfl hn hp hd hi
  | case2 ks ns ps ds is h =>
    cases m with
    | zero => rfl
    | succ m =>
      obtain ⟨_, _, rfl⟩ := List.exists_of_length_succ _ hk
      obtain ⟨_, _, rfl⟩ := List.exists_of_length_succ _ hn
      obtain ⟨_, _, rfl⟩ := List.exists_of_length_succ _ hp
      obtain ⟨_, _, rfl⟩ := List.exists_of_length_succ _ hd
      obtain ⟨_, _, rfl⟩ := List.exists_of_length_succ _ hi
      exact (h _ _ _ _ _ _ _ _ _ _ rfl rfl rfl rfl rfl).elim

end Columns

/-- A package whose items are the rows of these columns. Parents are counted from one there, with
zero for none. -/
structure Package.HasColumns (p : Package) (c : Columns) : Prop where
  parents : p.parents = c.parentTable
  length : p.entries.length = c.names.length
  kind : ∀ (k : Nat) (e : Entry), p.entries[k]? = some e → c.kinds[k]? = some e.kind
  name : ∀ (k : Nat) (e : Entry), p.entries[k]? = some e → c.names[k]? = some e.name
  path : ∀ (k : Nat) (e : Entry), p.entries[k]? = some e → PathGiven c.paths k e.path
  description : ∀ (k : Nat) (e : Entry), p.entries[k]? = some e →
    c.descriptions[k]? = some e.description
  parent : ∀ (k : Nat) (e : Entry), p.entries[k]? = some e →
    (c.parents[k]? = some 0 ∧ e.parent = none) ∨
      ∃ n : Nat, c.parents[k]? = some (n + 1 : Int) ∧ e.parent = some (n : Int)

def Columns.table (c : Columns) : Package :=
  ⟨entriesFrom c.kinds c.names c.pathList c.descriptions c.parents, c.parentTable⟩

theorem Columns.IsTable.hasColumns_table {c : Columns} (h : c.IsTable) : c.table.HasColumns c := by
  have hl : c.table.entries.length = c.names.length :=
    length_entriesFrom h.kinds rfl length_pathList h.descriptions h.parents
  have hrow {k : Nat} {e : Entry} (he : c.table.entries[k]? = some e) :=
    getElem?_entriesFrom.mp he
  refine ⟨rfl, hl, fun k e he => (hrow he).1, fun k e he => (hrow he).2.1, fun k e he => ?_,
    fun k e he => (hrow he).2.2.2.1, fun k e he => ?_⟩
  · have hk : k < c.names.length := hl ▸ (List.getElem?_eq_some_iff.mp he).1
    exact (h.getElem?_pathList hk).mp (hrow he).2.2.1
  · obtain ⟨-, -, -, -, i, hi, hp⟩ := hrow he
    have h0 : 0 ≤ i := h.counted i (List.mem_of_getElem? hi)
    by_cases hz : i = 0
    · subst hz
      exact .inl ⟨hi, hp⟩
    · refine .inr ⟨i.toNat - 1, ?_, ?_⟩
      · rw [hi]
        exact congrArg some (by omega)
      · rw [hp, parentOf, if_neg hz]
        exact congrArg some (by omega)

theorem Columns.IsTable.map_path_table {c : Columns} (h : c.IsTable) :
    c.table.entries.map Entry.path = c.pathList := by
  have hl : c.table.entries.length = c.pathList.length :=
    h.hasColumns_table.length.trans length_pathList.symm
  refine List.ext_getElem (by simpa using hl) fun k hk hk' => ?_
  rw [List.length_map] at hk
  obtain ⟨-, -, hp, -⟩ := getElem?_entriesFrom.mp (List.getElem?_eq_getElem hk)
  rw [List.getElem_map]
  exact (List.getElem?_eq_some_iff.mp hp).2.symm

theorem exists_kinds {f : Format} (hf : f ≠ .tuples) :
    ∃ kinds : Value → Checked (List Kind), (∀ v ks, kinds v = .ok ks ↔ KindsWritten ks f v) ∧
      ∀ v p, f.decode v = .ok p ↔
        ∃ ms c, v = .object ms ∧ columns kinds ms = .ok c ∧ c.package = .ok p := by
  cases f with
  | tuples => exact absurd rfl hf
  | columns =>
    exact ⟨numberedKinds, fun v ks => numberedKinds_eq_ok_iff, fun v p => decode_columns_eq_ok_iff⟩
  | packed =>
    exact ⟨letteredKinds, fun v ks => letteredKinds_eq_ok_iff, fun v p => decode_packed_eq_ok_iff⟩

theorem Columns.Written.unique {f : Format} (hf : f ≠ .tuples) {ms : List (String × Value)}
    {c d : Columns} (hc : c.Written f ms) (hd : d.Written f ms) : c = d := by
  obtain ⟨kinds, hk, -⟩ := exists_kinds hf
  rw [← columns_eq_ok_iff_written hk] at hc hd
  have h := hc.symm.trans hd
  injection h

theorem decode_eq_ok_iff_isTable {f : Format} (hf : f ≠ .tuples) {v : Value} {p : Package} :
    f.decode v = .ok p ↔
      ∃ ms c, v = .object ms ∧ Columns.Written c f ms ∧ c.IsTable ∧ p = c.table := by
  obtain ⟨kinds, hk, hdecode⟩ := exists_kinds hf
  simp only [hdecode, Columns.package_eq_ok_iff, Columns.broken?_eq_none_iff_isTable,
    columns_eq_ok_iff_written hk]
  rfl

theorem decodeWith_all_eq_some_iff {f : Format} (hf : f ≠ .tuples) {v : Value} {p : Package} :
    (decodeWith v Format.all).2 = some (f, p) ↔ f.decode v = .ok p := by
  refine ⟨decode_of_decodeWith, fun h => ?_⟩
  cases f with
  | tuples => exact absurd rfl hf
  | packed => simp [Format.all, decodeWith, h]
  | columns =>
    cases hp : Format.packed.decode v with
    | ok q => exact absurd hp (not_packed_of_columns h)
    | error faults => simp [Format.all, decodeWith, h, hp]

theorem decodePackage_columns (source : Option Path) (name : String) (v : Value) :
    ((∃ p, (decodePackage source name v).result = .ok p) ∨
      ∃ rejections, rejections.map Rejection.format = Format.all ∧
        (decodePackage source name v).result =
          .error (.malformed source (.package name rejections))) ∧
    ∀ f, f ≠ .tuples →
      ((∃ p, (decodeWith v Format.all).2 = some (f, p)) ↔
        ∃ ms c, v = .object ms ∧ Columns.Written c f ms ∧ c.IsTable) ∧
      ∀ p ms c, (decodeWith v Format.all).2 = some (f, p) → v = .object ms →
        Columns.Written c f ms →
        (decodePackage source name v).result = .ok p ∧ p.HasColumns c ∧
          c.expanded? = some (p.entries.map Entry.path) := by
  refine ⟨?_, fun f hf => ⟨?_, ?_⟩⟩
  · cases hr : (decodePackage source name v).result with
    | ok p => exact .inl ⟨p, rfl⟩
    | error e =>
      rw [← decodePackageIn_all] at hr
      obtain ⟨rejections, hall, rfl⟩ := malformed_of_result_decodePackageIn hr
      exact .inr ⟨rejections, hall, rfl⟩
  · simp only [decodeWith_all_eq_some_iff hf, decode_eq_ok_iff_isTable hf]
    constructor
    · rintro ⟨p, ms, c, hv, hw, ht, -⟩
      exact ⟨ms, c, hv, hw, ht⟩
    · rintro ⟨ms, c, hv, hw, ht⟩
      exact ⟨c.table, ms, c, hv, hw, ht, rfl⟩
  · rintro p ms c hp rfl hw
    have hdecode := (decodeWith_all_eq_some_iff hf).mp hp
    obtain ⟨_, d, hms, hd, ht, rfl⟩ := (decode_eq_ok_iff_isTable hf).mp hdecode
    cases hms
    obtain rfl := hw.unique hf hd
    refine ⟨result_decodePackage_of_decode hdecode source name, ht.hasColumns_table, ?_⟩
    rw [ht.expanded?_eq, ht.map_path_table]

def mixedColumns : Columns :=
  ⟨[(3, "Rng")], [.struct, .method, .function], ["Rng", "next", "random"],
    [.here "rand", .at 0 "rand::rng", .here "rand"], ["", "The next number", ""], [0, 1, 0]⟩

def mixedMembers : List (String × Value) :=
  [("doc", .text "Random numbers"), ("t", .text "DLF"),
    ("n", .list [.text "Rng", .text "next", .text "random"]),
    ("q", .list [.text "rand", .list [.int 0, .text "rand::rng"], .text "rand"]),
    ("d", .list [.text "", .text "The next number", .text ""]),
    ("i", .list [.int 0, .int 1, .int 0]), ("p", .list [.list [.int 3, .text "Rng", .null]])]

theorem decodePackage_columns_mixed :
    ∃ p, (decodePackage none "rand" (.object mixedMembers)).result = .ok p ∧
      p.HasColumns mixedColumns ∧ p.entries.map Entry.path = ["rand::rng", "", "rand"] := by
  obtain ⟨-, h⟩ := decodePackage_columns none "rand" (.object mixedMembers)
  obtain ⟨haccepts, hread⟩ := h .packed (by decide)
  have hw : mixedColumns.Written .packed mixedMembers :=
    ⟨⟨_, rfl, .rows (.cons ⟨[.null], rfl⟩ .nil)⟩, ⟨_, rfl, .letters⟩, rfl, rfl, rfl, rfl⟩
  have ht : mixedColumns.IsTable :=
    Columns.broken?_eq_none_iff_isTable.mp rfl
  obtain ⟨p, hp⟩ := haccepts.mpr ⟨_, _, rfl, hw, ht⟩
  obtain ⟨hr, hc, he⟩ := hread p _ _ hp rfl hw
  have hpaths : mixedColumns.expanded? = some ["rand::rng", "", "rand"] := by decide
  exact ⟨p, hr, hc, Option.some.inj (he.symm.trans hpaths)⟩

end Index

end CrateDocs
