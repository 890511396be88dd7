import CrateDocs.Page.Listing
import Mathlib.Data.List.Infix

/-!
Runs of a listing. A member of the group comes from a heading with a name and, if the step right
after the heading is a description, from that step; no other step leaves a trace. The state of the
listing tells of the last step alone.
-/

namespace CrateDocs.Listing

variable {parent : Name} {kind : Kind} {l : Listing}

def opened : Step → Option Pending
  | .start (some name) definition => if name = "" then none else some ⟨name, definition⟩
  | _ => none

def described : List Step → Option Prose
  | .describe d :: _ => d
  | _ => none

def member? (parent : Name) (kind : Kind) : List Step → Option Doc
  | [] => none
  | s :: r => (opened s).map fun p =>
      .leaf (parent.child p.name) kind p.definition (described r)

/-- The members that some steps list: from each step on, the one that this step starts. -/
def members (parent : Name) (kind : Kind) (steps : List Step) : List Doc :=
  steps.tails.filterMap (member? parent kind)

def openAfter (steps : List Step) : Option Pending := steps.getLast?.bind opened

theorem members_nil : members parent kind [] = [] := by
  simp [members, member?]

theorem members_cons (s : Step) (r : List Step) :
    members parent kind (s :: r) =
      (member? parent kind (s :: r)).toList ++ members parent kind r := by
  simp only [members, List.tails_cons, List.filterMap_cons]
  cases member? parent kind (s :: r) <;> rfl

theorem headings_members (steps : List Step) :
    (members parent kind steps).map (fun d => (d.name, d.definition)) =
      (steps.filterMap opened).map fun p => (parent.child p.name, p.definition) := by
  induction steps with
  | nil => simp [members_nil]
  | cons s r ih =>
    rw [members_cons, List.map_append, ih, List.filterMap_cons, member?]
    cases opened s <;> simp [Doc.leaf]

theorem opened_eq_none_iff {s : Step} :
    opened s = none ↔ ∀ name definition, s = .start (some name) definition → name = "" := by
  constructor
  · rintro h name definition rfl
    by_contra hn
    simp [opened, hn] at h
  · intro h
    unfold opened
    split
    · next name definition => rw [if_pos (h name definition rfl)]
    · rfl

theorem members_eq_nil_iff {steps : List Step} :
    members parent kind steps = [] ↔
      ∀ name definition, .start (some name) definition ∈ steps → name = "" := by
  have h : members parent kind steps = [] ↔ steps.filterMap opened = [] := by
    rw [← List.map_eq_nil_iff (f := fun d : Doc => (d.name, d.definition)), headings_members,
      List.map_eq_nil_iff]
  rw [h, List.filterMap_eq_nil_iff]
  constructor
  · intro hs name definition hm
    exact opened_eq_none_iff.mp (hs _ hm) name definition rfl
  · intro hs s hm
    exact opened_eq_none_iff.mpr fun name definition he => hs name definition (he ▸ hm)

def pendingDoc (l : Listing) (description : Option Prose) : Option Doc :=
  l.pending.map fun p => .leaf (l.parent.child p.name) l.kind p.definition description

theorem docs_complete (d : Option Prose) :
    (l.complete d).docs = l.docs ++ (l.pendingDoc d).toList := by
  unfold complete pendingDoc docs
  cases l.pending <;> simp

theorem pending_complete (d : Option Prose) : (l.complete d).pending = none := by
  unfold complete
  split
  · next h => exact h
  · rfl

theorem complete_parent (d : Option Prose) : (l.complete d).parent = l.parent := by
  unfold complete
  split <;> rfl

theorem complete_kind (d : Option Prose) : (l.complete d).kind = l.kind := by
  unfold complete
  split <;> rfl

theorem pending_ofHeading (name definition : Option String) :
    (State.ofHeading name definition).pending = opened (.start name definition) := by
  cases name with
  | none => rfl
  | some n =>
    by_cases hn : n = "" <;> cases definition <;>
      simp [State.ofHeading, State.pending, opened, hn]

theorem step_parent (s : Step) : (l.step s).parent = l.parent := by
  cases s <;> exact complete_parent _

theorem step_kind (s : Step) : (l.step s).kind = l.kind := by
  cases s <;> exact complete_kind _

theorem pending_step (s : Step) : (l.step s).pending = opened s := by
  cases s with
  | start name definition => exact pending_ofHeading name definition
  | describe d => exact pending_complete d
  | finish => exact pending_complete none

theorem docs_step (s : Step) (r : List Step) :
    (l.step s).docs = l.docs ++ (l.pendingDoc (described (s :: r))).toList := by
  cases s <;> exact docs_complete _

theorem pendingDoc_step (s : Step) (r : List Step) :
    (l.step s).pendingDoc (described r) = member? l.parent l.kind (s :: r) := by
  rw [pendingDoc, pending_step, step_parent, step_kind, member?]

-- A step both completes the pending member and starts its own, so the run of the rest is looked
-- at from any listing, with the member that it finds pending put in front.
theorem docs_complete_run (l : Listing) (steps : List Step) :
    ((l.run steps).complete none).docs =
      l.docs ++ (l.pendingDoc (described steps)).toList ++ members l.parent l.kind steps := by
  induction steps generalizing l with
  | nil => simp [run, docs_complete, members_nil, described]
  | cons s r ih =>
    have hr : l.run (s :: r) = (l.step s).run r := rfl
    rw [hr, ih, docs_step s r, pendingDoc_step, step_parent, step_kind, members_cons,
      ← List.append_assoc]

theorem run_append (l : Listing) (steps rest : List Step) :
    l.run (steps ++ rest) = (l.run steps).run rest :=
  List.foldl_append

theorem run_parent (steps : List Step) : (l.run steps).parent = l.parent := by
  induction steps generalizing l with
  | nil => rfl
  | cons s r ih => exact ih.trans (step_parent s)

theorem run_kind (steps : List Step) : (l.run steps).kind = l.kind := by
  induction steps generalizing l with
  | nil => rfl
  | cons s r ih => exact ih.trans (step_kind s)

/-- The members of two runs: those that the first run completes, the one that it leaves pending,
with the description that the second run starts with, and those of the second run. -/
theorem members_append (steps rest : List Step) :
    members parent kind (steps ++ rest) =
      ((empty parent kind).run steps).docs ++
        (((empty parent kind).run steps).pendingDoc (described rest)).toList ++
        members parent kind rest := by
  have hwhole := docs_complete_run (empty parent kind) (steps ++ rest)
  have hrest := docs_complete_run ((empty parent kind).run steps) rest
  rw [run_append, hrest, run_parent, run_kind] at hwhole
  exact hwhole.symm

theorem pending_run (steps : List Step) :
    ((empty parent kind).run steps).pending = openAfter steps := by
  rcases List.eq_nil_or_concat' steps with rfl | ⟨before, s, rfl⟩
  · rfl
  · have hr : (empty parent kind).run (before ++ [s]) =
        ((empty parent kind).run before).step s := by
      simp [run, List.foldl_append]
    rw [hr, pending_step, openAfter, List.getLast?_concat, Option.bind_some]

theorem State.eq_idle_iff {s : State} : s = .idle ↔ s.pending = none := by
  cases s <;> simp [pending]

theorem State.eq_named_iff {s : State} {n : String} :
    s = .named n ↔ s.pending = some ⟨n, none⟩ := by
  cases s <;> simp [pending]

theorem State.eq_defined_iff {s : State} {n d : String} :
    s = .defined n d ↔ s.pending = some ⟨n, some d⟩ := by
  cases s <;> simp [pending]

theorem group_eq (l : Listing) (title : Option String) :
    l.group title =
      if (l.complete none).docs = [] then none else some ⟨title, (l.complete none).docs⟩ := by
  unfold group
  cases (l.complete none).docs <;> simp

theorem items_collect (parent : Name) (kind : Kind) (title : Option String) (t : Trail Step) :
    (collect parent kind title t).items =
      if members parent kind t.items = [] then [] else [⟨title, members parent kind t.items⟩] := by
  have hd := docs_complete_run (empty parent kind) t.items
  have hm : ((empty parent kind).run t.items).group title = _ := group_eq _ title
  have he (l : List Event) : Trail.items (l.map .inl : Trail (MemberGroup Doc)) = [] := by
    induction l with
    | nil => rfl
    | cons e r ih => exact ih
  have hi (l : List (MemberGroup Doc)) : Trail.items (l.map .inr) = l := by
    induction l with
    | nil => rfl
    | cons g r ih => exact congrArg (List.cons g) ih
  rw [collect, Trail.items_append, he, hi, hm, hd]
  simp only [empty, docs, pendingDoc, pending, State.pending, List.reverse_nil, Option.map_none,
    Option.toList_none, List.append_nil, List.nil_append]
  split <;> rfl

theorem group_run (parent : Name) (kind : Kind) (title : Option String) (steps : List Step) :
    ((empty parent kind).run steps).group title =
        (if members parent kind steps = [] then none
          else some ⟨title, members parent kind steps⟩) ∧
      (members parent kind steps).map (fun d => (d.name, d.definition)) =
        (steps.filterMap opened).map (fun p => (parent.child p.name, p.definition)) ∧
      (((empty parent kind).run steps).group title = none ↔
        ∀ name definition, .start (some name) definition ∈ steps → name = "") ∧
      ∀ i, (((empty parent kind).run (steps.take i)).state = .idle ↔
          openAfter (steps.take i) = none) ∧
        (∀ n, ((empty parent kind).run (steps.take i)).state = .named n ↔
          openAfter (steps.take i) = some ⟨n, none⟩) ∧
        ∀ n d, ((empty parent kind).run (steps.take i)).state = .defined n d ↔
          openAfter (steps.take i) = some ⟨n, some d⟩ := by
  have hd : (((empty parent kind).run steps).complete none).docs = members parent kind steps :=
    docs_complete_run (empty parent kind) steps
  have hg := group_eq ((empty parent kind).run steps) title
  rw [hd] at hg
  refine ⟨hg, headings_members steps, ?_, ?_⟩
  · rw [hg, ← @members_eq_nil_iff parent kind]
    split <;> simp [*]
  · intro i
    rw [← @pending_run parent kind]
    exact ⟨State.eq_idle_iff, fun n => State.eq_named_iff, fun n d => State.eq_defined_iff⟩

end CrateDocs.Listing
