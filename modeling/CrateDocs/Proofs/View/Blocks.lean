import CrateDocs.Proofs.Item.Name
import CrateDocs.View.Block
import Mathlib.Data.List.DropRight

namespace CrateDocs

def Doc.allGroups (d : Doc) : List (MemberGroup Doc) := d.groups.flatMap Prod.snd

namespace View

def isTitled (g : MemberGroup Doc) : Bool := (g.title.filter fun t => !t.isEmpty).isSome

def memberIndent (g : MemberGroup Doc) : Nat := if isTitled g then step + step else step

inductive IsBlockOf (width : Int) (d : Doc) : Block → Prop
  | title : IsBlockOf width d
      (.title (formatTitle width d.name.text programName d.kind.displayName))
  | blank : IsBlockOf width d .blank
  | label {s : String} (h : s ∈ ["SYNOPSIS", "DESCRIPTION"]) : IsBlockOf width d (.heading 0 s)
  | definition {c : String} (h : d.definition = some c) : IsBlockOf width d (.code step c)
  | description {p : Prose} (h : d.description = some p) :
      IsBlockOf width d (.prose step p.plain)
  | kind (k : Kind) : IsBlockOf width d (.heading 0 k.groupName.toUpper)
  | groupTitle {g : MemberGroup Doc} {t : String} (hg : g ∈ d.allGroups) (h : g.title = some t) :
      IsBlockOf width d (.heading step t)
  | member {g : MemberGroup Doc} {m : Doc} (hg : g ∈ d.allGroups) (hm : m ∈ g.members) :
      IsBlockOf width d (.prose (memberIndent g) m.name.last)
  | summary {g : MemberGroup Doc} {m : Doc} {p : Prose} (hg : g ∈ d.allGroups)
      (hm : m ∈ g.members) (h : m.description = some p) :
      IsBlockOf width d (.prose (memberIndent g + step) (firstLine p.plain))

variable {width : Int} {d : Doc} {b : Block}

theorem groupBlocks_eq (g : MemberGroup Doc) :
    groupBlocks g = ((g.title.filter fun t => !t.isEmpty).map (Block.heading step)).toList ++
      g.members.flatMap (memberBlocks (memberIndent g)) := by
  rw [groupBlocks, memberIndent, isTitled]
  cases g.title.filter fun t => !t.isEmpty <;> rfl

theorem isBlockOf_of_mem_groupBlocks {g : MemberGroup Doc} (hg : g ∈ d.allGroups)
    (h : b ∈ groupBlocks g) : IsBlockOf width d b := by
  rw [groupBlocks_eq] at h
  rcases List.mem_append.mp h with h | h
  · obtain ⟨t, ht, rfl⟩ := Option.map_eq_some_iff.mp (Option.mem_toList.mp h)
    exact .groupTitle hg (Option.filter_eq_some_iff.mp ht).1
  · obtain ⟨m, hm, h⟩ := List.mem_flatMap.mp h
    rcases List.mem_cons.mp h with rfl | h
    · exact .member hg hm
    · split at h
      · next hp =>
        obtain rfl := List.mem_singleton.mp h
        exact .summary hg hm hp
      · cases h

theorem isBlockOf_of_mem (h : b ∈ docBlocks width d) : IsBlockOf width d b := by
  simp only [docBlocks, titleBlocks, List.mem_append, List.mem_cons, List.not_mem_nil,
    or_false] at h
  obtain (((rfl | rfl) | h) | h) | h := h
  · exact .title
  · exact .blank
  · split at h
    · next hc =>
      simp only [List.mem_cons, List.not_mem_nil, or_false] at h
      obtain rfl | rfl | rfl := h
      exacts [.label (by simp), .definition hc, .blank]
    · cases h
  · split at h
    · next hp =>
      simp only [List.mem_cons, List.not_mem_nil, or_false] at h
      obtain rfl | rfl := h
      exacts [.label (by simp), .description hp]
    · cases h
  · obtain ⟨e, he, h⟩ := List.mem_flatMap.mp h
    simp only [kindBlocks, List.mem_cons] at h
    obtain rfl | rfl | h := h
    · exact .blank
    · exact .kind e.1
    · obtain ⟨g, hg, h⟩ := List.mem_flatMap.mp h
      exact isBlockOf_of_mem_groupBlocks (List.mem_flatMap_of_mem he hg) h

theorem exists_of_mem_numberedFrom {number : Nat} {es : List Example}
    (h : b ∈ numberedFrom number es) : ∃ e ∈ es, ∃ n, b ∈ exampleBlocks n e := by
  induction es generalizing number with
  | nil => cases h
  | cons e r ih =>
    rcases List.mem_append.mp h with h | h
    · exact ⟨e, List.mem_cons_self, number, h⟩
    · obtain ⟨f, hf, hb⟩ := ih h
      exact ⟨f, List.mem_cons_of_mem e hf, hb⟩

theorem mem_of_mem_dropFinalBlanks {bs : List Block} (h : b ∈ dropFinalBlanks bs) : b ∈ bs :=
  (List.rdropWhile_prefix (fun b : Block => b == .blank) bs).subset h

end View

end CrateDocs
