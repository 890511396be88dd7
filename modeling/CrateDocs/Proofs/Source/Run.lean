import CrateDocs.Proofs.Plan
import CrateDocs.Proofs.Source.Search
import Mathlib

/-!
Sources over a run of calls. Every call is made in a world of its own, so that files may change
between two calls. What is kept of the indexes is told from the calls that were made: it is what the
first search read that could read all of them, of those after the last source was added.
-/

namespace CrateDocs.Sources

open Source (Error)

variable {α : Type}

/-- Work on sources that are kept. What was done to them stays when the work fails. -/
abbrev Work (α : Type) := ExceptT Error (StateM Sources) α

def carryOut (w : World) (p : Plan Error α) : Work α := ExceptT.mk (pure (p.run w).result)

/-- A plan for the sources that says which sources there are from then on. -/
def renew (w : World) (p : Sources → Plan Error (α × Sources)) : Work α := do
  let (a, s) ← carryOut w (p (← get))
  set s
  return a

def suggested (standards : Standards) (xs : List Index) (keyword : String) (asked : Option Int) :
    List String :=
  let limit := limitOf standards asked
  let known := names xs
  Suggest.suggestions ⟨keyword⟩ limit known
    (Suggest.suggest standards.weights keyword limit askedSimilarity
      (Suggest.candidates ⟨keyword⟩ known))

inductive Query where
  | search (keyword : String)
  | suggest (keyword : String) (limit : Option Int)

inductive Call where
  | add (folder : Path)
  | query (q : Query)
  | find (n : Name) (hint : Option Kind)

inductive Answer where
  | added
  | hits (found : List Hit)
  | names (found : List String)
  | ref (found : Option Ref)

structure Turn where
  world : World
  call : Call

namespace Query

def work (standards : Standards) (w : World) : Query → Work Answer
  | search keyword => .hits <$> renew w fun s => s.search keyword
  | suggest keyword limit => .names <$> renew w fun s => s.suggest standards keyword limit

def answer (standards : Standards) (xs : List Index) : Query → Answer
  | search keyword => .hits (Sources.hits xs keyword)
  | suggest keyword limit => .names (suggested standards xs keyword limit)

end Query

namespace Turn

def work (standards : Standards) (t : Turn) : Work Answer :=
  match t.call with
  | .add folder => do
    modify fun s => s.add folder
    return .added
  | .query q => q.work standards t.world
  | .find n hint => do
    let s ← get
    .ref <$> carryOut t.world (s.find n hint)

/-- What a call answers, or why it fails, and the sources afterwards. -/
def perform (standards : Standards) (t : Turn) (s : Sources) : Except Error Answer × Sources :=
  (t.work standards).run.run s

end Turn

def after (standards : Standards) (s : Sources) (turns : List Turn) : Sources :=
  turns.foldl (fun s t => (t.perform standards s).2) s

def reading (w : World) (folders : List Path) : Except Error (List Index) :=
  (folders.mapM fun f => ((Source.loadIndex f).run w).result).map List.reduceOption

def Call.folder? : Call → Option Path
  | add folder => some folder
  | query _ => none
  | find _ _ => none

/-- The folders that were added, in order: those that were given, and those of a run. -/
def listed (given : List Path) (turns : List Turn) : List Path :=
  given ++ turns.filterMap fun t => t.call.folder?

def recent (turns : List Turn) : List Turn :=
  turns.rtakeWhile fun t => t.call.folder?.isNone

def Turn.reading? (folders : List Path) (t : Turn) : Option (List Index) :=
  match t.call with
  | .query _ => (reading t.world folders).toOption
  | .add _ => none
  | .find _ _ => none

/-- What the first call read that could read all indexes. -/
def firstReading (folders : List Path) (turns : List Turn) : Option (List Index) :=
  turns.findSome? fun t => t.reading? folders

namespace Work

variable {β : Type}

theorem run_bind (x : Work α) (f : α → Work β) (s : Sources) :
    (x >>= f).run.run s = match x.run.run s with
      | (.ok a, s') => (f a).run.run s'
      | (.error e, s') => (.error e, s') := by
  rw [ExceptT.run_bind, StateT.run_bind]
  rcases x.run.run s with ⟨e | a, s'⟩ <;> rfl

theorem run_map (x : Work α) (f : α → β) (s : Sources) :
    (f <$> x).run.run s = ((x.run.run s).1.map f, (x.run.run s).2) := by
  rw [ExceptT.run_map, StateT.run_map]
  rcases x.run.run s with ⟨e | a, s'⟩ <;> rfl

end Work

theorem result_readIndexes_eq (w : World) (folders : List Path) :
    ((readIndexes folders).run w).result = reading w folders := by
  induction folders with
  | nil => rfl
  | cons f r ih =>
    simp only [readIndexes, Plan.run_bind, Traced.result_bind, ih, reading, List.mapM_cons]
    cases ((Source.loadIndex f).run w).result with
    | error e => rfl
    | ok x =>
      cases r.mapM fun f => ((Source.loadIndex f).run w).result with
      | error e => rfl
      | ok xs => cases x <;> rfl

/-- The indexes that are kept. When there are none they are read, and are kept only then. -/
def keptIndexes (w : World) : Work (List Index) := do
  let s ← get
  match s.loaded with
  | some xs => return xs
  | none =>
    let xs ← carryOut w (readIndexes s.folders)
    set { s with loaded := some xs }
    return xs

theorem run_keptIndexes (w : World) (folders : List Path) (loaded : Option (List Index)) :
    (keptIndexes w).run.run ⟨folders, loaded⟩ = match loaded, reading w folders with
      | some xs, _ => (.ok xs, ⟨folders, some xs⟩)
      | none, .ok xs => (.ok xs, ⟨folders, some xs⟩)
      | none, .error e => (.error e, ⟨folders, none⟩) := by
  rw [← result_readIndexes_eq]
  cases loaded with
  | some xs => rfl
  | none =>
    have hget : (keptIndexes w).run.run ⟨folders, none⟩ = (do
        let xs ← carryOut w (readIndexes folders)
        set (⟨folders, some xs⟩ : Sources)
        return xs : Work (List Index)).run.run ⟨folders, none⟩ := rfl
    have hread : (carryOut w (readIndexes folders)).run.run ⟨folders, none⟩ =
        (((readIndexes folders).run w).result, ⟨folders, none⟩) := rfl
    rw [hget, Work.run_bind, hread]
    cases ((readIndexes folders).run w).result <;> rfl

theorem run_renew (w : World) (p : Sources → Plan Error (α × Sources)) (s : Sources) :
    (renew w p).run.run s = match ((p s).run w).result with
      | .ok (a, s') => (.ok a, s')
      | .error e => (.error e, s) := by
  have hget : (renew w p).run.run s = (do
      let (a, s') ← carryOut w (p s)
      set s'
      return a : Work α).run.run s := rfl
  have hplan : (carryOut w (p s)).run.run s = (((p s).run w).result, s) := rfl
  rw [hget, Work.run_bind, hplan]
  cases ((p s).run w).result <;> rfl

theorem run_map_renew {w : World} {p : Sources → Plan Error (α × Sources)} (f : List Index → α)
    (h : ∀ s : Sources, ((p s).run w).result =
      (s.indexes.run w).result.map fun xs => (f xs, { s with loaded := some xs }))
    (g : α → Answer) (s : Sources) :
    (g <$> renew w p).run.run s = ((fun xs => g (f xs)) <$> keptIndexes w).run.run s := by
  obtain ⟨folders, loaded⟩ := s
  rw [Work.run_map, run_renew, h, Work.run_map, run_keptIndexes]
  cases loaded with
  | some xs => rfl
  | none =>
    rw [indexes, result_readIndexes_eq]
    cases reading w folders <;> rfl

theorem result_suggest_eq (standards : Standards) (w : World) (s : Sources) (keyword : String)
    (asked : Option Int) :
    ((s.suggest standards keyword asked).run w).result =
      (s.indexes.run w).result.map fun xs =>
        (suggested standards xs keyword asked, { s with loaded := some xs }) := by
  simp only [suggest, Plan.run_bind, Traced.result_bind, Plan.result_run_notes]
  cases (s.indexes.run w).result <;> rfl

theorem Query.run_work (standards : Standards) (w : World) (q : Query) (s : Sources) :
    (q.work standards w).run.run s = (q.answer standards <$> keptIndexes w).run.run s := by
  cases q with
  | search keyword =>
    exact run_map_renew (fun xs => hits xs keyword) (fun s => result_search_eq w s keyword)
      Answer.hits s
  | suggest keyword limit =>
    exact run_map_renew (fun xs => suggested standards xs keyword limit)
      (fun s => result_suggest_eq standards w s keyword limit) Answer.names s

section Step

variable (standards : Standards) (w : World) (folders : List Path) (loaded : Option (List Index))

theorem perform_add (folder : Path) :
    (⟨w, .add folder⟩ : Turn).perform standards ⟨folders, loaded⟩ =
      (.ok .added, ⟨folder :: folders, none⟩) :=
  rfl

theorem perform_find (n : Name) (hint : Option Kind) :
    (⟨w, .find n hint⟩ : Turn).perform standards ⟨folders, loaded⟩ =
      ((((⟨folders, none⟩ : Sources).find n hint).run w).result.map .ref, ⟨folders, loaded⟩) := by
  have hwork : (⟨w, .find n hint⟩ : Turn).perform standards ⟨folders, loaded⟩ =
      (Answer.ref <$> carryOut w ((⟨folders, none⟩ : Sources).find n hint)).run.run
        ⟨folders, loaded⟩ := rfl
  rw [hwork, Work.run_map]
  rfl

theorem perform_query (q : Query) :
    (⟨w, .query q⟩ : Turn).perform standards ⟨folders, loaded⟩ =
      match loaded, reading w folders with
      | some xs, _ => (.ok (q.answer standards xs), ⟨folders, some xs⟩)
      | none, .ok xs => (.ok (q.answer standards xs), ⟨folders, some xs⟩)
      | none, .error e => (.error e, ⟨folders, none⟩) := by
  have hwork : (⟨w, .query q⟩ : Turn).perform standards ⟨folders, loaded⟩ =
      (q.work standards w).run.run ⟨folders, loaded⟩ := rfl
  rw [hwork, Query.run_work, Work.run_map, run_keptIndexes]
  cases loaded with
  | some xs => rfl
  | none => cases reading w folders <;> rfl

end Step

def told (given : List Path) (turns : List Turn) : Sources :=
  ⟨(listed given turns).reverse, firstReading (listed given turns).reverse (recent turns)⟩

section Told

variable (given : List Path) (turns : List Turn) (w : World)

theorem told_concat_add (folder : Path) :
    told given (turns ++ [⟨w, .add folder⟩]) =
      ⟨folder :: (listed given turns).reverse, none⟩ := by
  have hrecent : recent (turns ++ [⟨w, .add folder⟩]) = [] :=
    List.rtakeWhile_concat_neg _ _ _ (by simp [Call.folder?])
  simp [told, listed, hrecent, firstReading, Call.folder?]

theorem told_concat_find (n : Name) (hint : Option Kind) :
    told given (turns ++ [⟨w, .find n hint⟩]) = told given turns := by
  have hrecent : recent (turns ++ [⟨w, .find n hint⟩]) =
      recent turns ++ [⟨w, .find n hint⟩] :=
    List.rtakeWhile_concat_pos _ _ _ rfl
  simp [told, listed, hrecent, firstReading, Call.folder?, Turn.reading?]

theorem told_concat_query (q : Query) :
    told given (turns ++ [⟨w, .query q⟩]) = ⟨(listed given turns).reverse,
      (told given turns).loaded <|> (reading w (listed given turns).reverse).toOption⟩ := by
  have hrecent : recent (turns ++ [⟨w, .query q⟩]) = recent turns ++ [⟨w, .query q⟩] :=
    List.rtakeWhile_concat_pos _ _ _ rfl
  simp [told, listed, hrecent, firstReading, Call.folder?, Turn.reading?]

end Told

theorem told_nil (given : List Path) : told given [] = given.foldl add empty := by
  have hfolders : (given.foldl add empty).folders = given.reverse := by
    simp [folders_foldl_add, empty]
  have hloaded := loaded_foldl_add given
  rcases h : given.foldl add empty with ⟨folders, loaded⟩
  rw [h] at hfolders hloaded
  subst hfolders hloaded
  simp [told, listed, recent, firstReading]

theorem perform_told (standards : Standards) (given : List Path) (turns : List Turn) (t : Turn) :
    (t.perform standards (told given turns)).2 = told given (turns ++ [t]) := by
  obtain ⟨w, _ | q | ⟨n, hint⟩⟩ := t
  · rw [told, perform_add, told_concat_add]
  · rw [told_concat_query, told, perform_query]
    cases firstReading (listed given turns).reverse (recent turns) with
    | some xs => rfl
    | none => cases reading w (listed given turns).reverse <;> rfl
  · rw [told_concat_find, told, perform_find]

theorem after_eq_told (standards : Standards) (given : List Path) (turns : List Turn) :
    after standards (given.foldl add empty) turns = told given turns := by
  induction turns using List.reverseRecOn with
  | nil => exact (told_nil given).symm
  | append_singleton turns t ih =>
    rw [after, List.foldl_concat, ← after, ih, perform_told]

theorem firstReading_eq_some {folders : List Path} {turns : List Turn} {xs : List Index}
    (h : firstReading folders turns = some xs) :
    ∃ t ∈ turns, reading t.world folders = .ok xs := by
  obtain ⟨t, ht, hread⟩ := List.exists_of_findSome?_eq_some h
  refine ⟨t, ht, ?_⟩
  obtain ⟨w, _ | q | ⟨n, hint⟩⟩ := t
  · cases hread
  · rw [Turn.reading?] at hread
    cases hr : reading w folders with
    | error e =>
      rw [hr] at hread
      cases hread
    | ok ys =>
      rw [hr] at hread
      obtain rfl : ys = xs := Option.some.inj hread
      rfl
  · cases hread

theorem perform_unchanged (standards : Standards) {folders : List Path} {turns : List Turn}
    (now : Turn) (h : ∀ t ∈ turns, reading t.world folders = reading now.world folders) :
    (now.perform standards ⟨folders, firstReading folders turns⟩).1 =
      (now.perform standards ⟨folders, none⟩).1 := by
  obtain ⟨w, folder | q | ⟨n, hint⟩⟩ := now
  · rw [perform_add, perform_add]
  · rw [perform_query, perform_query]
    cases hx : firstReading folders turns with
    | none => rfl
    | some xs =>
      obtain ⟨t, ht, hread⟩ := firstReading_eq_some hx
      have hnow : reading w folders = .ok xs := (h t ht).symm.trans hread
      rw [hnow]
  · rw [perform_find, perform_find]

theorem perform_failed (standards : Standards) (t : Turn) (s : Sources) {e : Error}
    (h : (t.perform standards s).1 = .error e) : (t.perform standards s).2 = s := by
  obtain ⟨folders, loaded⟩ := s
  obtain ⟨w, folder | q | ⟨n, hint⟩⟩ := t
  · rw [perform_add] at h
    cases h
  · rw [perform_query] at h ⊢
    cases loaded with
    | some xs => rfl
    | none =>
      cases hread : reading w folders with
      | ok xs =>
        rw [hread] at h
        cases h
      | error e => rfl
  · rw [perform_find]

theorem firstReading_concat_query (folders : List Path) (turns : List Turn) (w : World)
    (q : Query) : firstReading folders (turns ++ [⟨w, .query q⟩]) =
      (firstReading folders turns <|> (reading w folders).toOption) := by
  simp [firstReading, Turn.reading?]

theorem perform_firstReading (standards : Standards) (folders : List Path) (turns : List Turn)
    (w : World) (q : Query) :
    let r := (⟨w, .query q⟩ : Turn).perform standards ⟨folders, firstReading folders turns⟩
    (∀ xs, firstReading folders (turns ++ [⟨w, .query q⟩]) = some xs →
      r = (.ok (q.answer standards xs), ⟨folders, some xs⟩)) ∧
    (firstReading folders (turns ++ [⟨w, .query q⟩]) = none →
      firstReading folders turns = none ∧
        ∃ e, reading w folders = .error e ∧ r = (.error e, ⟨folders, none⟩)) := by
  intro r
  have hr : r = (⟨w, .query q⟩ : Turn).perform standards ⟨folders, firstReading folders turns⟩ :=
    rfl
  rw [firstReading_concat_query, hr, perform_query]
  cases firstReading folders turns with
  | some xs =>
    refine ⟨fun ys hys => ?_, fun hnone => by cases hnone⟩
    obtain rfl : xs = ys := Option.some.inj hys
    rfl
  | none =>
    cases reading w folders with
    | ok xs =>
      refine ⟨fun ys hys => ?_, fun hnone => by cases hnone⟩
      obtain rfl : xs = ys := Option.some.inj hys
      rfl
    | error e => exact ⟨fun ys hys => (by cases hys), fun _ => ⟨rfl, e, rfl, rfl⟩⟩

theorem perform_after (standards : Standards) (given : List Path) (before : List Turn)
    (now : Turn) :
    let folders := (listed given before).reverse
    let s := after standards (given.foldl add empty) before
    let r := now.perform standards s
    s = ⟨folders, firstReading folders (recent before)⟩ ∧
    (∀ folder, now.call = .add folder → r = (.ok .added, ⟨folder :: folders, none⟩)) ∧
    (∀ q, now.call = .query q →
      (∀ xs, firstReading folders (recent before ++ [now]) = some xs →
        r = (.ok (q.answer standards xs), ⟨folders, some xs⟩)) ∧
      (firstReading folders (recent before ++ [now]) = none →
        s.loaded = none ∧ ∃ e, reading now.world folders = .error e ∧ r = (.error e, s))) ∧
    (∀ n hint, now.call = .find n hint → ∀ loaded,
      now.perform standards ⟨folders, loaded⟩ = (r.1, ⟨folders, loaded⟩)) ∧
    (∀ e, r.1 = .error e → r.2 = s) ∧
    ((∀ t ∈ recent before, reading t.world folders = reading now.world folders) →
      r.1 = (now.perform standards ((listed given before).foldl add empty)).1) := by
  intro folders s r
  -- The sources before the call are told by the calls before it, and one step from there is
  -- `perform_firstReading` or one of its like.
  have hs : s = ⟨folders, firstReading folders (recent before)⟩ :=
    after_eq_told standards given before
  have hr : r = now.perform standards ⟨folders, firstReading folders (recent before)⟩ :=
    congrArg (now.perform standards) hs
  refine ⟨hs, ?_, ?_, ?_, fun e => perform_failed standards now s, ?_⟩
  · intro folder hcall
    obtain ⟨w, call⟩ := now
    obtain rfl : call = .add folder := hcall
    rw [hr, perform_add]
  · intro q hcall
    obtain ⟨w, call⟩ := now
    obtain rfl : call = .query q := hcall
    obtain ⟨hread, hfailed⟩ := perform_firstReading standards folders (recent before) w q
    rw [hr, hs]
    refine ⟨hread, fun hnone => ?_⟩
    obtain ⟨hkept, e, he, hfail⟩ := hfailed hnone
    exact ⟨hkept, e, he, hkept ▸ hfail⟩
  · intro n hint hcall loaded
    obtain ⟨w, call⟩ := now
    obtain rfl : call = .find n hint := hcall
    rw [hr, perform_find, perform_find]
  · intro hsame
    have hfresh : (listed given before).foldl add empty = ⟨folders, none⟩ := by
      rw [← told_nil, told]
      simp [listed, recent, firstReading, folders]
    rw [hr, hfresh]
    exact perform_unchanged standards now hsame

def docs : Path := Path.ofString "docs"

def more : Path := Path.ofString "more"

def tornScript : String := "var searchIndex = JSON.parse('\x7b\\"

/-- A world in which every folder has one search index, and that of `docs` is not complete. -/
def torn : World
  | .read p =>
    .ok (Text.Utf8.encode
      (if p = docs.child "search-index.js" then tornScript else randScript).toList)
  | q => shelf randScript q

theorem reading_shelf : reading (shelf randScript) [more, docs] = .ok [randIndex, randIndex] := by
  simp only [reading, List.mapM_cons, List.mapM_nil, result_loadIndex_shelf]
  rfl

theorem result_loadIndex_torn :
    ((Source.loadIndex docs).run torn).result = .error
      (.index (.malformed (some (docs.child "search-index.js")) .unterminated)) := by
  have hread : ((Source.readFile (docs.child "search-index.js")).run torn).result =
      .ok (Text.Utf8.encode tornScript.toList) := rfl
  rw [Source.result_loadIndex_single rfl rfl, hread]
  simp only [Except.bind, Index.ofBytes, Text.Utf8.decode_encode]
  rfl

theorem reading_torn : ∃ e, reading torn [more, docs] = .error e := by
  simp only [reading, List.mapM_cons, List.mapM_nil, result_loadIndex_torn]
  cases ((Source.loadIndex more).run torn).result with
  | error e => exact ⟨e, rfl⟩
  | ok x => exact ⟨_, rfl⟩

def usual : Standards :=
  ⟨100, "monokai", none, 5, Path.ofString "/usr", ⟨0.4, 0.3, 0.3, 0.15, 0.08⟩, 3⟩

/-- A source is added when its search index is not complete, and a search fails before another one
can read it. -/
def repaired : List Turn :=
  [⟨shelf randScript, .query (.search "f")⟩, ⟨torn, .add more⟩, ⟨torn, .query (.search "f")⟩,
    ⟨shelf randScript, .query (.search "f")⟩]

def late : Turn := ⟨torn, .query (.search "T::f")⟩

theorem perform_after_repaired :
    late.perform usual (after usual ([docs].foldl add empty) repaired) =
      (.ok (.hits [⟨"rand::T", "f", "", some .function⟩]),
        ⟨[more, docs], some [randIndex, randIndex]⟩) ∧
    (∀ t ∈ recent (repaired.take 3), reading t.world [more, docs] = reading torn [more, docs]) ∧
    (late.perform usual (after usual ([docs].foldl add empty) (repaired.take 3))).1 =
      (late.perform usual ([docs, more].foldl add empty)).1 := by
  obtain ⟨e, he⟩ := reading_torn
  have hfailed : recent (repaired.take 3) = [⟨torn, .query (.search "f")⟩] := rfl
  have hfirst : firstReading [more, docs] (recent repaired ++ [late]) =
      some [randIndex, randIndex] := by
    have hturns : recent repaired ++ [late] = [] ++ [⟨torn, .query (.search "f")⟩] ++
        [⟨shelf randScript, .query (.search "f")⟩] ++ [⟨torn, .query (.search "T::f")⟩] := rfl
    rw [hturns]
    simp only [firstReading_concat_query, he, reading_shelf]
    rfl
  have hsame : ∀ t ∈ recent (repaired.take 3),
      reading t.world [more, docs] = reading torn [more, docs] := by
    simp [hfailed]
  refine ⟨?_, hsame, ?_⟩
  · have hhits : hits [randIndex, randIndex] "T::f" = [⟨"rand::T", "f", "", some .function⟩] := by
      cbv
    obtain ⟨-, -, hquery, -⟩ := perform_after usual [docs] repaired late
    rw [← hhits]
    exact (hquery _ rfl).1 _ hfirst
  · obtain ⟨-, -, -, -, -, hfresh⟩ := perform_after usual [docs] (repaired.take 3) late
    exact hfresh hsame

end CrateDocs.Sources
