import CrateDocs.Proofs.Markup.Shape
import CrateDocs.Proofs.Page.Located

namespace CrateDocs.Page

open Markup

/-- The block of documentation beside a heading: the element after it, or after the summary that it
ends. -/
def docblockBeside (heading : Place) : Option Place :=
  (heading.next?.or ((heading.parent?.filter fun q => q.node.isNamed ["summary"]).bind
    Place.next?)).filter fun b => b.node.isDocblock

def blockWithin (p : Place) : Option Place :=
  p.descendants.find? fun b => b.node.isNamed ["div"] && b.node.isDocblock

/-- The block that a listing comes to before it comes to the heading of another member. -/
def nextBlock (kind : Kind) (ps : List Place) : Option Place :=
  blockAfter (readMarks (reading kind) ps)

/-- The elements that a listing goes on with after one of its elements. On the level of the heading
of the variants, those in a list of variants take the place of the ones from that list on. -/
def rest (kind : Kind) (d : Document) (p : Place) : List Place :=
  if kind = .variant ∧ (d.byId? Kind.variant.groupId).map (·.path.length) = some p.path.length then
    variantPlaces p.following
  else p.following

/-- The block that a listing comes to next after the heading of a member: in the `details` element
that the member is folded in, or else among the elements that the listing goes on with. -/
def PlacedMember.reached (d : Document) (e : PlacedMember) : Option Place :=
  (e.fold.bind blockWithin).or (nextBlock e.kind (rest e.kind d (e.fold.getD e.heading)))

def proseOf (b : Option Place) : Option Prose := b.bind fun b => Prose.ofNode? b.node

variable {d : Document} {p q : Place} {ps : List Place} {e : PlacedMember} {kind : Kind}
  {marks : List Mark}

theorem length_path_of_parent (h : q.parent? = some p) : q.path.length = p.path.length + 1 := by
  cases q with
  | top => cases h
  | under => cases h; rfl

theorem following_of_following {l r : List Place} (h : q.following = l ++ p :: r) :
    p.following = r ∧ p.path.length = q.path.length := by
  cases q with
  | top => simp [Place.following] at h
  | under s b n a =>
    have hp : p ∈ Place.elementsFrom s (n :: b) a := by
      rw [Place.following] at h
      simp [h]
    exact ⟨Place.following_of_elementsFrom h,
      length_path_of_parent (Place.parent_of_mem_elementsFrom hp)⟩

theorem following_of_childElements {l r : List Place} (h : q.childElements = l ++ p :: r) :
    p.following = r ∧ p.path.length = q.path.length + 1 := by
  have hp : p ∈ q.childElements := by simp [h]
  exact ⟨Place.following_of_elementsFrom h,
    length_path_of_parent (Place.parent_of_mem_elementsFrom hp)⟩

theorem eq_of_variantPlaces {l r : List Place} (h : variantPlaces q.following = l ++ p :: r) :
    p.path.length = q.path.length ∧ r = variantPlaces p.following ∨
      p.path.length = q.path.length + 1 ∧ r = p.following := by
  generalize hs : q.following = ps at h
  induction ps generalizing q l with
  | nil => simp [variantPlaces] at h
  | cons s t ih =>
    obtain ⟨hf, hlevel⟩ := following_of_following (l := []) hs
    rw [variantPlaces] at h
    split at h
    · obtain ⟨hr, hp⟩ := following_of_childElements h
      exact .inr ⟨hp.trans (congrArg (· + 1) hlevel), hr.symm⟩
    · cases l with
      | nil =>
        obtain ⟨rfl, rfl⟩ := List.cons.inj h
        exact .inl ⟨hlevel, congrArg variantPlaces hf.symm⟩
      | cons c l =>
        rw [← hlevel]
        exact ih hf (List.cons.inj h).2

theorem rest_of_isListing (h : IsListing d kind ps) {l r : List Place} (hps : ps = l ++ p :: r) :
    rest kind d p = r := by
  unfold rest
  cases h with
  | fields => exact (if_neg nofun).trans (following_of_following hps).1
  | @variants h hh =>
    rw [hh, Option.map_some]
    rcases eq_of_variantPlaces hps with ⟨hlevel, hr⟩ | ⟨hlevel, hr⟩
    · rw [if_pos ⟨rfl, congrArg some hlevel.symm⟩, hr]
    · rw [if_neg (by simp [hlevel]), hr]
  | members hf hv => exact (if_neg fun h => hv h.1).trans (following_of_childElements hps).1

theorem reading_cases (kind : Kind) (p : Place) :
    (∀ f q, .heading f q ∉ (reading kind p).1) ∨ reading kind p = ([.heading none p], true) ∨
      reading kind p = (foldedMarks p, true) := by
  unfold reading
  split
  · unfold fieldMarks
    split
    · exact .inr (.inl rfl)
    · exact .inl fun f q => heading_not_mem_blockMarks
  · unfold variantMarks
    split
    · exact .inr (.inl rfl)
    · exact .inl fun f q => heading_not_mem_blockMarks
  · unfold memberMarks
    beta_reduce
    split
    · exact .inr (.inl rfl)
    · split
      · exact .inl fun f q => by simp
      · split
        · exact .inr (.inr rfl)
        · exact .inl fun f q => by simp

theorem mem_placed_of_mem_append {l : List Mark} (hl : ∀ f q, .heading f q ∉ l)
    (h : e ∈ placed kind (l ++ marks)) : e ∈ placed kind marks := by
  induction l with
  | nil => exact h
  | cons m r ih =>
    cases m with
    | heading f q => exact absurd List.mem_cons_self (hl f q)
    | block b => exact ih (fun f q hm => hl f q (List.mem_cons_of_mem _ hm)) h

theorem mem_placed_heading {fold : Option Place} (h : e ∈ placed kind (.heading fold p :: marks)) :
    e.fold = fold ∧ e.heading = p ∧ e.block = blockAfter marks ∨ e ∈ placed kind marks := by
  rw [placed, List.tails_cons, List.mem_filterMap] at h
  obtain ⟨l, hl, he⟩ := h
  rcases List.mem_cons.mp hl with rfl | hl
  · obtain ⟨-, he⟩ := Option.ite_none_left_eq_some.mp he
    cases he
    exact .inl ⟨rfl, rfl, rfl⟩
  · exact .inr (List.mem_filterMap.mpr ⟨l, hl, he⟩)

theorem mem_placed_foldedMarks (h : e ∈ placed kind (foldedMarks p ++ marks)) :
    e.fold = some p ∧ e.block = (blockWithin p).or (blockAfter marks) ∨ e ∈ placed kind marks := by
  have hblocks (o : Option Place) : ∀ f q, .heading f q ∉ (o.map Mark.block).toList := by
    cases o <;> simp
  have hafter (o : Option Place) :
      blockAfter ((o.map Mark.block).toList ++ marks) = o.or (blockAfter marks) := by
    cases o <;> rfl
  rw [foldedMarks, List.append_assoc] at h
  generalize ((p.descendants.find? fun s => s.node.isNamed ["summary"]).bind fun s =>
    s.descendants.find? fun q => q.node.isNamed ["div", "section"] && isMemberHeading q.node) =
      heading at h
  cases heading with
  | none => exact .inr (mem_placed_of_mem_append (hblocks _) h)
  | some q =>
    obtain ⟨hfold, -, hblock⟩ | h := mem_placed_heading h
    · exact .inl ⟨hfold, hblock.trans (hafter (blockWithin p))⟩
    · exact .inr (mem_placed_of_mem_append (hblocks _) h)

theorem block_of_mem_placed (hps : ∀ (l : List Place) p r, ps = l ++ p :: r → rest kind d p = r)
    (he : e ∈ placed kind (readMarks (reading kind) ps)) : e.block = e.reached d := by
  have hkind := kind_of_mem_placed he
  rw [PlacedMember.reached, hkind]
  -- By induction on the elements of the listing: `hps` tells of each of them what comes after it, and
  -- so it tells the same of the elements that are left.
  induction ps with
  | nil => cases he
  | cons p r ih =>
    have hr := hps [] p r rfl
    have ih := ih fun l q t h => hps (p :: l) q t (congrArg _ h)
    rw [readMarks] at he
    rcases reading_cases kind p with hnone | hheading | hfold
    · have he := mem_placed_of_mem_append hnone he
      split at he
      · exact ih he
      · cases he
    · rw [hheading] at he
      obtain ⟨hf, hq, hblock⟩ | he := mem_placed_heading he
      · rw [hf, hq, Option.getD_none, hr, hblock]
        rfl
      · exact ih he
    · rw [hfold] at he
      obtain ⟨hf, hblock⟩ | he := mem_placed_foldedMarks he
      · rw [hf, Option.getD_some, hr, hblock]
        rfl
      · exact ih he

theorem block_eq_reached (he : IsListed d e) : e.block = e.reached d := by
  obtain ⟨kind, ps, hl, he⟩ := he
  exact block_of_mem_placed (fun l p r => rest_of_isListing hl) he

end CrateDocs.Page
