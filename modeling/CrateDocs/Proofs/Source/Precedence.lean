import CrateDocs.Proofs.Plan
import CrateDocs.Proofs.Source.Search

/-!
Which source a name is found in. A package is taken from the source that was added last among those
that have a folder for it, and a name is looked up in that package alone. So a source that was added
earlier is searched for the name only if no later one has the package.
-/

namespace CrateDocs

namespace Sources

variable {w : World} {folders : List Path} {n : Name} {hint : Option Kind}
variable {crate : Path → Option Crate} {found : Crate → Option Ref}

/-- Lookups of a name that do not fail: `crate` gives the package in each source, and `found` what
is found in it. -/
structure Answers (w : World) (folders : List Path) (n : Name) (hint : Option Kind)
    (crate : Path → Option Crate) (found : Crate → Option Ref) : Prop where
  findCrate : ∀ f ∈ folders, ((Source.findCrate f n.first).run w).result = .ok (crate f)
  find : ∀ f ∈ folders, ∀ c ∈ crate f, ((c.find n hint).run w).result = .ok (found c)

/-- The package of the source that was added last among those that have it. -/
def packageInForce (crate : Path → Option Crate) (folders : List Path) : Option Crate :=
  folders.reverse.findSome? crate

/-- What is found in the source that was added last among those in which the name is found. -/
def foundAnywhere (crate : Path → Option Crate) (found : Crate → Option Ref)
    (folders : List Path) : Option Ref :=
  folders.reverse.findSome? fun f => (crate f).bind found

theorem Answers.append {folders' : List Path} (h : Answers w folders n hint crate found)
    (h' : Answers w folders' n hint crate found) :
    Answers w (folders ++ folders') n hint crate found := by
  constructor
  · intro f hf
    rcases List.mem_append.mp hf with hf | hf
    · exact h.findCrate f hf
    · exact h'.findCrate f hf
  · intro f hf
    rcases List.mem_append.mp hf with hf | hf
    · exact h.find f hf
    · exact h'.find f hf

theorem result_findCrate (h : Answers w folders n hint crate found) :
    (((folders.foldl add empty).findCrate n.first).run w).result =
      .ok (packageInForce crate folders) := by
  rw [findCrate, folders_foldl_add, empty, List.append_nil]
  exact Plan.result_run_firstFound fun f hf => h.findCrate f (List.mem_reverse.mp hf)

theorem result_find (h : Answers w folders n hint crate found) :
    (((folders.foldl add empty).find n hint).run w).result =
      .ok ((packageInForce crate folders).bind found) := by
  rw [find, Plan.run_bind, Traced.result_bind, result_findCrate h]
  cases hc : packageInForce crate folders with
  | none =>
    show (((Plan.notes _ >>= fun _ => pure none)).run w).result = _
    rw [Plan.run_bind, Traced.result_bind, Plan.result_run_notes]
    rfl
  | some c =>
    obtain ⟨f, hf, hfc⟩ := List.exists_of_findSome?_eq_some hc
    exact h.find f (List.mem_reverse.mp hf) c hfc

theorem packageInForce_eq_some_iff {c : Crate} :
    packageInForce crate folders = some c ↔ ∃ older f newer, folders = older ++ f :: newer ∧
      crate f = some c ∧ ∀ g ∈ newer, crate g = none := by
  rw [packageInForce, List.findSome?_eq_some_iff]
  constructor
  · rintro ⟨newer, f, older, hsplit, hf, hnewer⟩
    refine ⟨older.reverse, f, newer.reverse, ?_, hf, fun g hg => hnewer g (List.mem_reverse.mp hg)⟩
    rw [← folders.reverse_reverse, hsplit]
    simp
  · rintro ⟨older, f, newer, rfl, hf, hnewer⟩
    exact ⟨newer.reverse, f, older.reverse, by simp, hf,
      fun g hg => hnewer g (List.mem_reverse.mp hg)⟩

theorem packageInForce_concat (folders : List Path) (f : Path) :
    packageInForce crate (folders ++ [f]) = (crate f).or (packageInForce crate folders) := by
  rw [packageInForce, List.reverse_append, List.reverse_singleton, List.singleton_append,
    List.findSome?_cons]
  cases crate f <;> rfl

theorem foundAnywhere_eq_none_iff :
    foundAnywhere crate found folders = none ↔ ∀ f ∈ folders, (crate f).bind found = none := by
  rw [foundAnywhere, List.findSome?_eq_none_iff]
  simp only [List.mem_reverse]

theorem foundAnywhere_of_packageInForce {r : Ref}
    (h : (packageInForce crate folders).bind found = some r) :
    foundAnywhere crate found folders = some r := by
  obtain ⟨c, hc, hr⟩ := Option.bind_eq_some_iff.mp h
  obtain ⟨older, f, newer, rfl, hf, hnewer⟩ := packageInForce_eq_some_iff.mp hc
  refine List.findSome?_eq_some_iff.mpr ⟨newer.reverse, f, older.reverse, by simp, ?_, ?_⟩
  · rw [hf]
    exact hr
  · intro g hg
    rw [hnewer g (List.mem_reverse.mp hg)]
    rfl

theorem find_packageInForce (w : World) (folders : List Path) (n : Name) (hint : Option Kind)
    (crate : Path → Option Crate) (found : Crate → Option Ref)
    (h : Answers w folders n hint crate found) :
    ∃ o, (((folders.foldl add empty).find n hint).run w).result = .ok o ∧
      (∀ r, o = some r ↔ ∃ older f newer c, folders = older ++ f :: newer ∧ crate f = some c ∧
        (∀ g ∈ newer, crate g = none) ∧ found c = some r) ∧
      (∀ r, o = some r → foundAnywhere crate found folders = some r) ∧
      (o = foundAnywhere crate found folders ↔ ∀ c ∈ packageInForce crate folders,
        found c = none → ∀ f ∈ folders, (crate f).bind found = none) ∧
      ∀ f, Answers w [f] n hint crate found →
        ((((folders ++ [f]).foldl add empty).find n hint).run w).result =
          .ok (match crate f with
            | some c => found c
            | none => o) := by
  refine ⟨_, result_find h, ?_, fun r => foundAnywhere_of_packageInForce, ?_, ?_⟩
  · intro r
    simp only [Option.bind_eq_some_iff, packageInForce_eq_some_iff]
    constructor
    · rintro ⟨c, ⟨older, f, newer, hsplit, hf, hnewer⟩, hr⟩
      exact ⟨older, f, newer, c, hsplit, hf, hnewer, hr⟩
    · rintro ⟨older, f, newer, c, hsplit, hf, hnewer, hr⟩
      exact ⟨c, ⟨older, f, newer, hsplit, hf, hnewer⟩, hr⟩
  -- Where no source has the package nothing is found in any of them; else the one in force decides.
  · cases hc : packageInForce crate folders with
    | none =>
      have hnone : foundAnywhere crate found folders = none := by
        refine foundAnywhere_eq_none_iff.mpr fun f hf => ?_
        rw [List.findSome?_eq_none_iff.mp hc f (List.mem_reverse.mpr hf)]
        rfl
      simp [hnone]
    | some c =>
      rw [← foundAnywhere_eq_none_iff]
      have hsome (r : Ref) (hr : found c = some r) :
          foundAnywhere crate found folders = some r :=
        foundAnywhere_of_packageInForce (hc ▸ hr)
      cases hr : found c with
      | none => simp [hr, eq_comm]
      | some r => simp [hr, hsome r hr]
  · intro f hf
    rw [result_find (h.append hf), packageInForce_concat]
    cases crate f <;> rfl

def olderFolder : Path := Path.ofString "docs"

def newerFolder : Path := Path.ofString "other"

def documentedName : Name := ⟨"pkg::Foo"⟩

def documentedRef : Ref :=
  ⟨documentedName, .struct, (olderFolder.child "pkg").child "struct.Foo.html", none⟩

/-- Two folders that both have a package, of which one documents an item and the other has nothing
but a module page. -/
def twoFolders : World
  | .isFile p => .ok (["docs/pkg/all.html", "docs/pkg/struct.Foo.html",
      "other/pkg/index.html"].contains p.toString)
  | .isFolder _ => .ok true
  | .read p => .ok (Text.Utf8.encode (if p.toString = "docs/pkg/all.html" then
      "<ul class=\"all-items\"><li><a href=\"struct.Foo.html\">Foo</a></li></ul>".toList else []))
  | .entries _ => .ok []
  | .here => Path.ofString "/"
  | .compiler => .missing
  | .person _ => ""

def packageIn (f : Path) : Option Crate := some ⟨"pkg", f.child "pkg"⟩

def foundIn (c : Crate) : Option Ref :=
  if c.path = olderFolder.child "pkg" then some documentedRef else none

theorem answers_twoFolders :
    Answers twoFolders [olderFolder, newerFolder] documentedName none packageIn foundIn := by
  constructor
  · intro f hf
    have hall : ∀ f ∈ [olderFolder, newerFolder],
        ((Source.findCrate f documentedName.first).run twoFolders).result.toOption =
          some (packageIn f) := by decide +kernel
    exact Plan.eq_ok_of_toOption (hall f hf)
  · rintro f hf c ⟨⟩
    have hall : ∀ f ∈ [olderFolder, newerFolder],
        ((Crate.find ⟨"pkg", f.child "pkg"⟩ documentedName none).run twoFolders).result.toOption =
          some (foundIn ⟨"pkg", f.child "pkg"⟩) := by decide +kernel
    exact Plan.eq_ok_of_toOption (hall f hf)

theorem find_packageInForce_documented :
    ∃ o, ((([newerFolder, olderFolder].foldl add empty).find documentedName none).run
      twoFolders).result = .ok o ∧ o = some documentedRef := by
  have h : Answers twoFolders [newerFolder, olderFolder] documentedName none packageIn foundIn :=
    ⟨fun f hf => answers_twoFolders.findCrate f (by simpa [or_comm] using hf),
      fun f hf => answers_twoFolders.find f (by simpa [or_comm] using hf)⟩
  obtain ⟨o, ho, hsome, -⟩ := find_packageInForce twoFolders [newerFolder, olderFolder]
    documentedName none packageIn foundIn h
  exact ⟨o, ho, (hsome documentedRef).mpr ⟨[newerFolder], olderFolder, [], _, rfl, rfl, by simp,
    by decide +kernel⟩⟩

/-- The source that was added last has the package, so that the other one is not searched. -/
theorem not_find_foundAnywhere :
    ¬∀ (w : World) (folders : List Path) (n : Name) (hint : Option Kind)
      (crate : Path → Option Crate) (found : Crate → Option Ref),
      Answers w folders n hint crate found →
        (((folders.foldl add empty).find n hint).run w).result =
          .ok (foundAnywhere crate found folders) := by
  intro hall
  have hanywhere := hall twoFolders _ documentedName none packageIn foundIn answers_twoFolders
  have hforce := result_find answers_twoFolders
  have hne : (packageInForce packageIn [olderFolder, newerFolder]).bind foundIn ≠
      foundAnywhere packageIn foundIn [olderFolder, newerFolder] := by decide +kernel
  exact hne (Except.ok.inj (hforce.symm.trans hanywhere))

end Sources

end CrateDocs
