import CrateDocs.Proofs.Index.Search
import CrateDocs.Proofs.Text.Utf8
import CrateDocs.Source.Basic

/-!
Searching the sources of documentation. What a search gives hangs on the packages of all indexes
alone: it is the increasing list of the hits that one of them lists and the keyword names.

Loading the search index of a source, in a world that says which of its names are files.
-/

namespace CrateDocs.Source

variable {w : World}

theorem result_isFile {p : Path} {b : Bool} (h : w (.isFile p) = .ok b) :
    ((isFile p).run w).result = .ok b := by
  rw [isFile, Plan.run_bind, Plan.run_question, h]
  rfl

theorem result_entries {p : Path} {names : List String} (h : w (.entries p) = .ok names) :
    ((entries p).run w).result = .ok names := by
  rw [entries, Plan.run_bind, Plan.run_question, h]
  rfl

theorem result_firstFile {isFile : Path → Bool} {ps : List Path}
    (h : ∀ p ∈ ps, w (.isFile p) = .ok (isFile p)) :
    ((firstFile ps).run w).result = .ok (ps.find? isFile) := by
  induction ps with
  | nil => rfl
  | cons p r ih =>
    have hp := result_isFile (h p (by simp))
    have hr := ih fun q hq => h q (by simp [hq])
    simp only [firstFile, Plan.run_bind, Traced.result_bind, hp, Except.bind, List.find?_cons]
    cases isFile p
    · exact hr
    · rfl

/-- The file that is read for a source whose folder has some names. -/
def indexFile? (source : Path) (isFile : Path → Bool) (names : List String) : Option Path :=
  (((names.filter isIndexName).mergeSort fun a b => decide (a ≤ b)).map source.child).find? isFile

theorem result_loadIndex {source : Path} {names : List String} {isFile : Path → Bool}
    (hnames : w (.entries source) = .ok names)
    (hfiles : ∀ n ∈ names.filter isIndexName,
      w (.isFile (source.child n)) = .ok (isFile (source.child n))) :
    ((loadIndex source).run w).result = match indexFile? source isFile names with
      | none => .ok none
      | some p => ((readFile p).run w).result.bind fun bytes =>
          ((Index.ofBytes p bytes).mapError Error.index).result := by
  have hentries := result_entries hnames
  have hfirst : ((firstFile (((names.filter isIndexName).mergeSort
      fun a b => decide (a ≤ b)).map source.child)).run w).result =
      .ok (indexFile? source isFile names) := by
    refine result_firstFile fun p hp => ?_
    obtain ⟨n, hn, rfl⟩ := List.mem_map.mp hp
    exact hfiles n (List.mem_mergeSort.mp hn)
  simp only [loadIndex, Plan.run_bind, Traced.result_bind, hentries, hfirst, Except.bind]
  cases indexFile? source isFile names with
  | none => rfl
  | some p =>
    simp only [Plan.run_bind, Traced.result_bind, Plan.result_run_ofTraced]
    rfl

theorem result_loadIndex_single {source : Path} (hnames : w (.entries source) = .ok ["search-index.js"])
    (hfile : w (.isFile (source.child "search-index.js")) = .ok true) :
    ((loadIndex source).run w).result =
      ((readFile (source.child "search-index.js")).run w).result.bind fun bytes =>
        ((Index.ofBytes (source.child "search-index.js") bytes).mapError Error.index).result := by
  have hindex : ["search-index.js"].filter isIndexName = ["search-index.js"] := by decide
  have hload := @result_loadIndex w source ["search-index.js"] (fun _ => true) hnames (by
    intro n hn
    obtain rfl := List.mem_singleton.mp (hindex ▸ hn)
    exact hfile)
  simp only [hload, indexFile?, hindex, List.mergeSort_singleton, List.map_cons, List.find?_cons]

end CrateDocs.Source

namespace CrateDocs.Sources

variable {w : World} {folders : List Path} {read : Path → Option Index}

theorem mem_hits {xs : List Index} {keyword : String} {h : Hit} :
    h ∈ hits xs keyword ↔ (∃ x ∈ xs, x.Lists h) ∧ h.IsNamed keyword := by
  rw [hits, Hit.mem_sort, List.mem_flatMap]
  simp only [Index.mem_find]
  constructor
  · rintro ⟨x, hx, hl, hn⟩
    exact ⟨⟨x, hx, hl⟩, hn⟩
  · rintro ⟨⟨x, hx, hl⟩, hn⟩
    exact ⟨x, hx, hl, hn⟩

theorem exists_lists_iff {xs : List Index} {h : Hit} :
    (∃ x ∈ xs, x.Lists h) ↔ ∃ p ∈ xs.flatMap Index.packages, p.2.Lists p.1 h := by
  simp only [Index.Lists, List.mem_flatMap]
  constructor
  · rintro ⟨x, hx, p, hp, hl⟩
    exact ⟨p, ⟨x, hx, hp⟩, hl⟩
  · rintro ⟨p, ⟨x, hx, hp⟩, hl⟩
    exact ⟨x, hx, p, hp, hl⟩

theorem hits_eq_of_perm {xs ys : List Index} (keyword : String)
    (h : (ys.flatMap Index.packages).Perm (xs.flatMap Index.packages)) :
    hits ys keyword = hits xs keyword := by
  refine Hit.sort_eq_of_mem_iff fun a => ?_
  have hmem : ∀ zs : List Index, a ∈ zs.flatMap (fun x => x.find keyword) ↔
      (∃ p ∈ zs.flatMap Index.packages, p.2.Lists p.1 a) ∧ a.IsNamed keyword := by
    intro zs
    rw [← exists_lists_iff, ← mem_hits, hits, Hit.mem_sort]
  rw [hmem, hmem]
  simp only [h.mem_iff]

theorem result_readIndexes
    (hread : ∀ f ∈ folders, ((Source.loadIndex f).run w).result = .ok (read f)) :
    ((readIndexes folders).run w).result = .ok (folders.filterMap read) := by
  induction folders with
  | nil => rfl
  | cons f r ih =>
    have hf := hread f (by simp)
    have hr := ih fun g hg => hread g (by simp [hg])
    simp only [readIndexes, Plan.run_bind, Traced.result_bind, hf, hr]
    cases h : read f <;> simp [h, Except.bind]

theorem folders_foldl_add (s : Sources) :
    (folders.foldl add s).folders = folders.reverse ++ s.folders := by
  induction folders generalizing s with
  | nil => rfl
  | cons f r ih => simp [ih, add]

theorem loaded_foldl_add (folders : List Path) : (folders.foldl add empty).loaded = none := by
  suffices h : ∀ s : Sources, s.loaded = none → (folders.foldl add s).loaded = none from h empty rfl
  induction folders with
  | nil => exact fun s hs => hs
  | cons f r ih => exact fun s _ => ih (s.add f) rfl

theorem result_search_eq (w : World) (s : Sources) (keyword : String) :
    ((s.search keyword).run w).result =
      (s.indexes.run w).result.map fun xs => (hits xs keyword, { s with loaded := some xs }) := by
  simp only [search, Plan.run_bind, Traced.result_bind]
  cases (s.indexes.run w).result <;> rfl

theorem result_search {s : Sources} {xs : List Index} (keyword : String)
    (h : (s.indexes.run w).result = .ok xs) :
    ((s.search keyword).run w).result = .ok (hits xs keyword, { s with loaded := some xs }) := by
  rw [result_search_eq, h]
  rfl

theorem result_search_added (keyword : String)
    (hread : ∀ f ∈ folders, ((Source.loadIndex f).run w).result = .ok (read f)) :
    ∃ s, (((folders.foldl add empty).search keyword).run w).result =
      .ok (hits (folders.filterMap read) keyword, s) := by
  have hf : (folders.foldl add empty).folders = folders.reverse := by
    simp [folders_foldl_add, empty]
  have hx : ((folders.foldl add empty).indexes.run w).result =
      .ok (folders.reverse.filterMap read) := by
    simp only [indexes, loaded_foldl_add, hf]
    exact result_readIndexes fun f hf => hread f (List.mem_reverse.mp hf)
  have hperm : ((folders.filterMap read).flatMap Index.packages).Perm
      ((folders.reverse.filterMap read).flatMap Index.packages) :=
    ((List.reverse_perm folders).symm.filterMap read).flatMap_right Index.packages
  rw [hits_eq_of_perm keyword hperm]
  exact ⟨_, result_search keyword hx⟩

/-- What is found is in the order of its characters. Half of a surrogate pair that stands alone has
the place of its stand-in there, which is behind the characters from U+E000 to U+10D7FF. -/
theorem search_finds_listed (w : World) (folders : List Path) (read : Path → Option Index)
    (hread : ∀ f ∈ folders, ((Source.loadIndex f).run w).result = .ok (read f))
    (hnames : ∀ f ∈ folders, ∀ x ∈ read f, ∀ p ∈ x.packages, p.1 ≠ "") (keyword : String) :
    ∃ found s,
      (((folders.foldl add empty).search keyword).run w).result = .ok (found, s) ∧
      found.Pairwise (fun a b => a.key < b.key) ∧
      (∀ h, h ∈ found ↔ (∃ f ∈ folders, ∃ x ∈ read f, x.Lists h) ∧ h.IsNamed keyword) ∧
      (∀ order : List Path, order.Perm folders →
        ∃ s', (((order.foldl add empty).search keyword).run w).result = .ok (found, s')) ∧
      (∀ (w' : World) (folders' : List Path) (read' : Path → Option Index),
        (∀ f ∈ folders', ((Source.loadIndex f).run w').result = .ok (read' f)) →
        ((folders'.filterMap read').flatMap Index.packages).Perm
          ((folders.filterMap read).flatMap Index.packages) →
        ∃ s', (((folders'.foldl add empty).search keyword).run w').result = .ok (found, s')) ∧
      ∀ f ∈ folders, ∀ x ∈ read f, ∀ n, (∃ h ∈ x.find keyword, h.fullName.text = n) ↔
        n ∈ x.names ∧ (Name.mk n).endsWith keyword = true := by
  have hother : ∀ (w' : World) (folders' : List Path) (read' : Path → Option Index),
      (∀ f ∈ folders', ((Source.loadIndex f).run w').result = .ok (read' f)) →
      ((folders'.filterMap read').flatMap Index.packages).Perm
        ((folders.filterMap read).flatMap Index.packages) →
      ∃ s', (((folders'.foldl add empty).search keyword).run w').result =
        .ok (hits (folders.filterMap read) keyword, s') := by
    intro w' folders' read' hread' hperm
    rw [← hits_eq_of_perm keyword hperm]
    exact result_search_added keyword hread'
  obtain ⟨s, hs⟩ := result_search_added keyword hread
  refine ⟨hits (folders.filterMap read) keyword, s, hs, Hit.pairwise_sort _, ?_, ?_, hother, ?_⟩
  · intro h
    simp only [mem_hits, List.mem_filterMap, Option.mem_def]
    refine and_congr_left fun _ => ?_
    constructor
    · rintro ⟨x, ⟨f, hf, hx⟩, hl⟩
      exact ⟨f, hf, x, hx, hl⟩
    · rintro ⟨f, hf, x, hx, hl⟩
      exact ⟨x, ⟨f, hf, hx⟩, hl⟩
  · intro order ho
    refine hother w order read (fun f hf => hread f (ho.mem_iff.mp hf)) ?_
    exact (ho.filterMap read).flatMap_right Index.packages
  · intro f hf x hx n
    exact Index.fullName_find (hnames f hf x hx)

def shelf (script : String) : World
  | .isFile _ => .ok true
  | .isFolder _ => .ok true
  | .read _ => .ok (Text.Utf8.encode script.toList)
  | .entries _ => .ok ["search-index.js"]
  | .here => ⟨"/", []⟩
  | .compiler => .missing
  | .person _ => ""

def randScript : String :=
  "var searchIndex = JSON.parse('\x7b\"rand\":\x7b\"i\":[[0,\"m\",\"rand\",\"\",null]," ++
    "[5,\"f\",\"\",\"\",0]],\"p\":[[8,\"T\"]]\x7d\x7d');"

def randIndex : Index :=
  ⟨[("rand", ⟨[⟨.module, "m", "rand", "", none⟩, ⟨.function, "f", "", "", some 0⟩],
    [(8, "T")]⟩)]⟩

set_option maxRecDepth 100000 in
theorem result_loadIndex_shelf (folder : Path) :
    ((Source.loadIndex folder).run (shelf randScript)).result = .ok (some randIndex) := by
  have hread : ((Source.readFile (folder.child "search-index.js")).run (shelf randScript)).result =
      .ok (Text.Utf8.encode randScript.toList) := rfl
  rw [Source.result_loadIndex_single rfl rfl, hread]
  simp only [Except.bind, Index.ofBytes, Text.Utf8.decode_encode]
  rfl

theorem search_finds_listed_function :
    ∃ found s, ((([Path.ofString "docs"].foldl add empty).search "T::f").run
      (shelf randScript)).result = .ok (found, s) ∧
      ⟨"rand::T", "f", "", some .function⟩ ∈ found := by
  obtain ⟨found, s, hs, -, hmem, -⟩ := search_finds_listed (shelf randScript) [Path.ofString "docs"]
    (fun f => some randIndex) (fun f hf => result_loadIndex_shelf f)
    (by simp [randIndex]) "T::f"
  have howner : Index.Package.Owns ⟨[⟨.module, "m", "rand", "", none⟩,
      ⟨.function, "f", "", "", some 0⟩], [(8, "T")]⟩ ⟨.function, "f", "", "", some 0⟩ "rand"
      "rand::T" := .parent (i := 0) (n := 8) (s := "T") rfl rfl (by simp)
  have hlists : randIndex.Lists ⟨"rand::T", "f", "", some .function⟩ :=
    ⟨_, .head _, 1, _, rfl, by simp, howner, rfl, rfl, rfl⟩
  have hnamed : Hit.IsNamed ⟨"rand::T", "f", "", some .function⟩ "T::f" := .inr ⟨"rand", rfl⟩
  exact ⟨found, s, hs, (hmem _).mpr ⟨⟨_, .head _, randIndex, rfl, hlists⟩, hnamed⟩⟩

end CrateDocs.Sources
