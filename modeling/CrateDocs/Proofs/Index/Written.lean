import CrateDocs.Proofs.Index.Decode

/-!
The written forms of a package. Every form leaves its writer a choice: rows may have further
fields, an object may have further members, and the paths may be given in order or, in any order,
for the items that have one. Whatever is chosen, decoding gives the package back.
-/

namespace CrateDocs.Index

open Json (Value)

def parentCell : Option Int → Value
  | none => .null
  | some i => .int i

/-- In columns, parents are counted from one. -/
def parentNumber : Option Int → Int
  | none => 0
  | some i => i + 1

inductive ParentsWritten (ps : List (Int × String)) : Value → Prop where
  | rows {vs : List Value}
      (h : List.Forall₂ (fun v p => ∃ more, v = .list (.int p.1 :: .text p.2 :: more)) vs ps) :
      ParentsWritten ps (.list vs)

inductive TuplesWritten (es : List Entry) : Value → Prop where
  | rows {vs : List Value}
      (h : List.Forall₂ (fun v e => ∃ more, v = .list (.int e.kind.number :: .text e.name ::
        .text e.path :: .text e.description :: parentCell e.parent :: more)) vs es) :
      TuplesWritten es (.list vs)

def pathCells (es : List Entry) : List (Nat × String) :=
  (es.zipIdx.filter fun e => e.1.path ≠ "").map fun e => (e.2, e.1.path)

inductive PathsWritten (es : List Entry) : Value → Prop where
  | inOrder : PathsWritten es (.list (es.map fun e => .text e.path))
  | byItem {cells : List (Nat × String)} (h : cells.Perm (pathCells es)) :
      PathsWritten es (.list (cells.map fun c => .list [.int c.1, .text c.2]))

structure ColumnsWritten (p : Package) (ms : List (String × Value)) : Prop where
  names : Record.get? "n" ms = some (.list (p.entries.map fun e => .text e.name))
  paths : ∃ v, Record.get? "q" ms = some v ∧ PathsWritten p.entries v
  descriptions : Record.get? "d" ms = some (.list (p.entries.map fun e => .text e.description))
  parents : Record.get? "i" ms = some (.list (p.entries.map fun e => .int (parentNumber e.parent)))

/-- What a form may write for a package. -/
inductive Written (p : Package) : Format → Value → Prop where
  | tuples {ms : List (String × Value)} {ps es : Value}
      (hp : Record.get? "p" ms = some ps) (hps : ParentsWritten p.parents ps)
      (hi : Record.get? "i" ms = some es) (hes : TuplesWritten p.entries es) :
      Written p .tuples (.object ms)
  | columns {ms : List (String × Value)} {ps : Value}
      (hp : Record.get? "p" ms = some ps) (hps : ParentsWritten p.parents ps)
      (ht : Record.get? "t" ms = some (.list (p.entries.map fun e => .int e.kind.number)))
      (h : ColumnsWritten p ms) : Written p .columns (.object ms)
  | packed {ms : List (String × Value)} {ps : Value}
      (hp : Record.get? "p" ms = some ps) (hps : ParentsWritten p.parents ps)
      (ht : Record.get? "t" ms =
        some (.text (String.ofList (p.entries.map fun e => e.kind.letter))))
      (h : ColumnsWritten p ms) : Written p .packed (.object ms)

theorem parents_of_written {ps : List (Int × String)} {v : Value} (h : ParentsWritten ps v) :
    Checked.parents v = .ok ps := by
  rcases h with ⟨h⟩
  rw [Checked.parents, Checked.ofRule_eq_ok_iff, parentTable, mapM_eq_ok_iff]
  refine h.imp ?_
  rintro _ ⟨n, s⟩ ⟨more, rfl⟩
  rfl

theorem tupleEntries_of_written {es : List Entry} {v : Value} (h : TuplesWritten es v) :
    tupleEntries v = .ok es := by
  rcases h with ⟨h⟩
  refine tupleEntries_eq_ok_iff.mpr ⟨_, rfl, h.imp ?_⟩
  rintro _ ⟨kind, name, path, description, parent⟩ ⟨more, rfl⟩
  have hk : kindRule (Kind.ofNumber kind.number) = .ok kind := by
    rw [Kind.ofNumber_number]
    rfl
  cases parent <;> simp [tupleEntry, parentCell, tupleParent, hk, bind, Except.bind]

theorem listOf_map {α β : Type} {check : Value → Checked β} {write : α → Value} {read : α → β}
    {as : List α} (h : ∀ a ∈ as, check (write a) = .ok (read a)) :
    Checked.listOf check (.list (as.map write)) = .ok (as.map read) := by
  refine Checked.listOf_eq_ok_iff.mpr ⟨_, rfl, ?_⟩
  rw [List.forall₂_map_left_iff, List.forall₂_map_right_iff, List.forall₂_same]
  exact h

theorem numberedKinds_map (es : List Entry) :
    numberedKinds (.list (es.map fun e => .int e.kind.number)) = .ok (es.map Entry.kind) := by
  refine Checked.ruled_eq_ok_iff.mpr ⟨es.map fun e => (e.kind.number : Int), ?_, ?_⟩
  · exact listOf_map fun e _ => rfl
  · rw [mapM_eq_ok_iff, List.forall₂_map_left_iff, List.forall₂_map_right_iff, List.forall₂_same]
    intro e _
    rw [Kind.ofNumber_number]
    rfl

theorem letteredKinds_map (es : List Entry) :
    letteredKinds (.text (String.ofList (es.map fun e => e.kind.letter))) =
      .ok (es.map Entry.kind) := by
  refine Checked.ruled_eq_ok_iff.mpr ⟨_, rfl, ?_⟩
  rw [String.toList_ofList, mapM_eq_ok_iff, List.forall₂_map_left_iff, List.forall₂_map_right_iff,
    List.forall₂_same]
  intro e _
  rw [Kind.ofLetter_letter]
  rfl

/-- Cells that give every item with a path this path, and no item another one. -/
structure PathsGiven (es : List Entry) (cells : List PathCell) : Prop where
  sound : ∀ p ∈ placed 0 cells, ∃ (k : Nat) (e : Entry), p.1 = k ∧ es[k]? = some e ∧ e.path = p.2
  complete : ∀ (k : Nat) (e : Entry), es[k]? = some e → e.path ≠ "" →
    ((k : Int), e.path) ∈ placed 0 cells

theorem mem_placed_here {start : Nat} {ss : List String} {p : Int × String} :
    p ∈ placed start (ss.map .here) ↔ ∃ k : Nat, ss[k]? = some p.2 ∧ p.1 = (start + k : Nat) := by
  induction ss generalizing start with
  | nil => simp [placed]
  | cons s r ih =>
    rw [List.map_cons, placed, List.mem_cons, ih]
    constructor
    · rintro (rfl | ⟨k, hk, hp⟩)
      · exact ⟨0, rfl, rfl⟩
      · exact ⟨k + 1, by simpa using hk, by omega⟩
    · rintro ⟨_ | k, hk, hp⟩
      · exact .inl (Prod.ext hp (Option.some.inj hk).symm)
      · exact .inr ⟨k, by simpa using hk, by omega⟩

theorem placed_at (start : Nat) (cells : List (Nat × String)) :
    placed start (cells.map fun c => .at c.1 c.2) = cells.map fun c => ((c.1 : Int), c.2) := by
  induction cells generalizing start with
  | nil => rfl
  | cons c r ih => simp [placed, ih]

theorem mem_pathCells {es : List Entry} {c : Nat × String} :
    c ∈ pathCells es ↔ ∃ e, es[c.1]? = some e ∧ e.path = c.2 ∧ e.path ≠ "" := by
  obtain ⟨k, s⟩ := c
  simp only [pathCells, List.mem_map, List.mem_filter, List.mem_zipIdx_iff_getElem?, Prod.exists,
    Prod.mk.injEq, decide_eq_true_eq]
  constructor
  · rintro ⟨e, _, ⟨he, hs⟩, rfl, rfl⟩
    exact ⟨e, he, rfl, hs⟩
  · rintro ⟨e, he, rfl, hs⟩
    exact ⟨e, k, ⟨he, hs⟩, rfl, rfl⟩

theorem pathsGiven_of_written {es : List Entry} {v : Value} (h : PathsWritten es v) :
    ∃ cells, Checked.listOf pathCell v = .ok cells ∧ PathsGiven es cells := by
  cases h with
  | inOrder =>
    refine ⟨(es.map Entry.path).map .here, ?_, ?_, ?_⟩
    · rw [List.map_map]
      exact listOf_map fun e _ => rfl
    · intro p hp
      obtain ⟨k, hk, hpk⟩ := mem_placed_here.mp hp
      rw [List.getElem?_map, Option.map_eq_some_iff] at hk
      obtain ⟨e, he, hs⟩ := hk
      exact ⟨k, e, by simpa using hpk, he, hs⟩
    · intro k e he _
      exact mem_placed_here.mpr ⟨k, by simp [he], by simp⟩
  | @byItem cells hc =>
    refine ⟨cells.map fun c => .at c.1 c.2, listOf_map fun c _ => rfl, ?_, ?_⟩
    · intro p hp
      rw [placed_at, List.mem_map] at hp
      obtain ⟨c, hm, rfl⟩ := hp
      obtain ⟨e, he, hs, -⟩ := mem_pathCells.mp (hc.mem_iff.mp hm)
      exact ⟨c.1, e, rfl, he, hs⟩
    · intro k e he hs
      rw [placed_at, List.mem_map]
      exact ⟨(k, e.path), hc.mem_iff.mpr (mem_pathCells.mpr ⟨e, he, rfl, hs⟩), rfl⟩

theorem pathList_of_given {es : List Entry} {c : Columns} (hn : c.names = es.map Entry.name)
    (h : PathsGiven es c.paths) : c.pathList = es.map Entry.path := by
  have hl : c.pathList.length = es.length := by rw [Columns.length_pathList, hn, List.length_map]
  apply List.ext_getElem?
  intro k
  by_cases hk : k < es.length
  · have he : es[k]? = some es[k] := List.getElem?_eq_getElem hk
    rw [Columns.getElem?_pathList (by simpa [hn] using hk), List.getElem?_map, he]
    refine congrArg some ?_
    cases hf : (placed 0 c.paths).reverse.find? fun p => p.1.toNat == k with
    | some p =>
      have hp : p.1.toNat = k := by simpa using List.find?_some hf
      obtain ⟨j, e, hj, hje, hs⟩ := h.sound p (List.mem_reverse.mp (List.mem_of_find?_eq_some hf))
      have hjk : j = k := by omega
      subst hjk
      cases he.symm.trans hje
      exact hs.symm
    | none =>
      by_contra hs
      have hm := h.complete k es[k] he fun h => hs h.symm
      have hno := List.find?_eq_none.mp hf _ (List.mem_reverse.mpr hm)
      simp at hno
  · rw [List.getElem?_eq_none (by omega), List.getElem?_eq_none (by simpa using hk)]

def Package.IsCounted (p : Package) : Prop := ∀ e ∈ p.entries, ∀ i ∈ e.parent, 0 ≤ i

theorem parentOf_parentNumber {o : Option Int} (h : ∀ i ∈ o, 0 ≤ i) :
    Columns.parentOf (parentNumber o) = o := by
  cases o with
  | none => rfl
  | some i =>
    have hi : 0 ≤ i := h i rfl
    have hne : i + 1 ≠ 0 := by omega
    simp [parentNumber, Columns.parentOf, hne]

theorem entriesFrom_map {es : List Entry} (h : ∀ e ∈ es, ∀ i ∈ e.parent, 0 ≤ i) :
    Columns.entriesFrom (es.map Entry.kind) (es.map Entry.name) (es.map Entry.path)
      (es.map Entry.description) (es.map fun e => parentNumber e.parent) = es := by
  induction es with
  | nil => rfl
  | cons e r ih =>
    simp only [List.map_cons, Columns.entriesFrom]
    rw [parentOf_parentNumber (h e (by simp)), ih fun a ha => h a (by simp [ha])]

theorem columns_of_written {p : Package} {ms : List (String × Value)}
    {kinds : Value → Checked (List Kind)} {ps ts : Value} (hp : p.IsCounted)
    (hps : Record.get? "p" ms = some ps) (hpw : ParentsWritten p.parents ps)
    (hts : Record.get? "t" ms = some ts) (htk : kinds ts = .ok (p.entries.map Entry.kind))
    (h : ColumnsWritten p ms) : ∃ c, columns kinds ms = .ok c ∧ c.package = .ok p := by
  obtain ⟨q, hq, hqw⟩ := h.paths
  obtain ⟨cells, hcells, hgiven⟩ := pathsGiven_of_written hqw
  refine ⟨⟨p.parents, p.entries.map Entry.kind, p.entries.map Entry.name, cells,
    p.entries.map Entry.description, p.entries.map fun e => parentNumber e.parent⟩, ?_, ?_⟩
  · refine columns_eq_ok_iff.mpr ⟨?_, ?_, ?_, ?_, ?_, ?_⟩ <;> rw [Checked.required_eq_ok_iff]
    · exact ⟨ps, hps, parents_of_written hpw⟩
    · exact ⟨ts, hts, htk⟩
    · exact ⟨_, h.names, listOf_map fun e _ => rfl⟩
    · exact ⟨q, hq, hcells⟩
    · exact ⟨_, h.descriptions, listOf_map fun e _ => rfl⟩
    · exact ⟨_, h.parents, listOf_map fun e _ => rfl⟩
  · refine Columns.package_eq_ok_iff.mpr ⟨Columns.broken?_eq_none_iff.mpr ⟨?_, ?_, ?_⟩, ?_⟩
    · simp
    · intro n hn
      obtain ⟨e, he, rfl⟩ := List.mem_map.mp hn
      cases hpe : e.parent with
      | none => exact Int.le_refl 0
      | some i =>
        have hi : 0 ≤ i := hp e he i hpe
        simp only [parentNumber]
        omega
    · intro c hc
      obtain ⟨k, e, hk, he, -⟩ := hgiven.sound c hc
      obtain ⟨hlt, -⟩ := List.getElem?_eq_some_iff.mp he
      simp only [List.length_map]
      omega
    · rw [pathList_of_given rfl hgiven, entriesFrom_map hp]

theorem decode_of_written {p : Package} {f : Format} {v : Value} (hp : p.IsCounted)
    (h : Written p f v) : f.decode v = .ok p := by
  cases h with
  | @tuples ms ps es hps hpw his hes =>
    refine decode_tuples_eq_ok_iff.mpr ⟨ms, rfl, ?_, ?_⟩ <;> rw [Checked.required_eq_ok_iff]
    · exact ⟨ps, hps, parents_of_written hpw⟩
    · exact ⟨es, his, Checked.ofRule_eq_ok_iff.mpr (tupleEntries_of_written hes)⟩
  | @columns ms ps hps hpw ht h =>
    obtain ⟨c, hc, hpc⟩ := columns_of_written hp hps hpw ht (numberedKinds_map p.entries) h
    exact decode_columns_eq_ok_iff.mpr ⟨ms, c, rfl, hc, hpc⟩
  | @packed ms ps hps hpw ht h =>
    obtain ⟨c, hc, hpc⟩ := columns_of_written hp hps hpw ht (letteredKinds_map p.entries) h
    exact decode_packed_eq_ok_iff.mpr ⟨ms, c, rfl, hc, hpc⟩

theorem decodePackage_written {p : Package} {f : Format} {v : Value} (hp : p.IsCounted)
    (h : Written p f v) (source : Option Path) (name : String) :
    (decodePackage source name v).result = .ok p :=
  result_decodePackage_of_decode (decode_of_written hp h) source name

theorem decodePackage_written_sparse :
    (decodePackage none "rand" (.object [("doc", .text "Random numbers"), ("t", .text "DQLD"),
      ("n", .list [.text "Rng", .text "Item", .text "next", .text "Seed"]),
      ("q", .list [.list [.int 3, .text "rand::seed"], .list [.int 0, .text "rand"]]),
      ("d", .list [.text "", .text "", .text "The next number", .text ""]),
      ("i", .list [.int 0, .int 1, .int 2, .int 0]),
      ("p", .list [.list [.int 8, .text "Iterator", .null],
        .list [.int 3, .text "Rng"]])])).result =
    .ok ⟨[⟨.struct, "Rng", "rand", "", none⟩, ⟨.assocType, "Item", "", "", some 0⟩,
      ⟨.method, "next", "", "The next number", some 1⟩, ⟨.struct, "Seed", "rand::seed", "", none⟩],
      [(8, "Iterator"), (3, "Rng")]⟩ := by
  refine decodePackage_written (f := .packed) ?_ ?_ none "rand"
  · simp [Package.IsCounted]
  · refine .packed rfl (.rows ?_) rfl ⟨rfl, ?_, rfl, rfl⟩
    · simp
    · exact ⟨_, rfl, @PathsWritten.byItem _ [(3, "rand::seed"), (0, "rand")] (by decide)⟩

end CrateDocs.Index
