import CrateDocs.Markup.Tree
import CrateDocs.Proofs.Markup.Place
import CrateDocs.Selector.Basic
import Mathlib.Data.List.Find

/-!
Attributes of documents that have been read. Their names have no capital letters, so that a search
for an attribute finds the same one whether or not the case of its name counts.
-/

namespace CrateDocs

namespace Text

theorem isUpper_iff {c : Char} : c.isUpper = true ↔ 65 ≤ c.toNat ∧ c.toNat ≤ 90 := by
  change decide (c.val ≥ 65 ∧ c.val ≤ 90) = true ↔ _
  rw [decide_eq_true_iff, ge_iff_le, UInt32.le_iff_toNat_le, UInt32.le_iff_toNat_le]
  rfl

theorem isUpper_ofNat {n : Nat} (h : 90 < n) : (Char.ofNat n).isUpper = false := by
  by_cases hn : n.isValidChar
  · have hchar : Char.ofNat n = Char.ofNatAux n hn := dif_pos hn
    have hnat : (Char.ofNat n).toNat = n := congrArg Char.toNat hchar
    rw [Bool.eq_false_iff, Ne, isUpper_iff, hnat]
    omega
  · have hchar : Char.ofNat n = '\x00' := dif_neg hn
    rw [hchar]
    decide

theorem lower_caseRuns : ∀ r ∈ caseRuns, 90 < r.lower := by
  have h : caseRuns.all (fun r => decide (90 < r.lower)) = true := by decide +kernel
  simpa using h

theorem isUpper_lowerChar (c : Char) : (lowerChar c).isUpper = false := by
  unfold lowerChar
  split
  · split
    · next h =>
      have hle : 65 ≤ c.toNat := h.1
      exact isUpper_ofNat (by omega)
    · next h =>
      rw [Bool.eq_false_iff, Ne, isUpper_iff]
      intro hc
      exact h ⟨hc.1, hc.2⟩
  · next h =>
    split
    · decide
    · split
      · next r hr =>
        have hlower := lower_caseRuns r (List.mem_of_find?_eq_some hr)
        exact isUpper_ofNat (Nat.lt_add_right _ hlower)
      · rw [Bool.eq_false_iff, Ne, isUpper_iff]
        omega

theorem isUpper_of_mem_lower {s : List Char} {c : Char} (h : c ∈ lower s) : c.isUpper = false := by
  unfold lower at h
  generalize [] = before at h
  induction s generalizing before with
  | nil => cases h
  | cons d r ih =>
    rw [lowerFrom] at h
    split at h
    · rcases List.mem_cons.mp h with rfl | h
      · decide
      · rcases List.mem_cons.mp h with rfl | h
        · decide
        · exact ih _ h
    · split at h
      · rcases List.mem_cons.mp h with rfl | h
        · split <;> decide
        · exact ih _ h
      · rcases List.mem_cons.mp h with rfl | h
        · exact isUpper_lowerChar d
        · exact ih _ h

end Text

namespace Markup

def Attribute.IsLower (a : Attribute) : Prop := Selector.asciiLower a.name = a.name

theorem isLower_lower (s : List Char) (value : String) :
    Attribute.IsLower ⟨String.ofList (Text.lower s), value⟩ := by
  have hlower (c : Char) (hc : c ∈ Text.lower s) : c.toLower = c := by
    exact dif_neg (of_decide_eq_false (Text.isUpper_of_mem_lower hc))
  rw [Attribute.IsLower, Selector.asciiLower, String.toList_ofList,
    List.map_congr_left hlower, List.map_id']

theorem Tag.mem_setAttribute {a b : Attribute} {as : List Attribute}
    (h : b ∈ setAttribute a as) : b = a ∨ b ∈ as := by
  induction as with
  | nil => exact .inl (List.mem_singleton.mp h)
  | cons c r ih =>
    rw [setAttribute] at h
    split at h
    · exact (List.mem_cons.mp h).imp_right (List.mem_cons_of_mem c)
    · rcases List.mem_cons.mp h with rfl | h
      · exact .inr List.mem_cons_self
      · exact (ih h).imp_right (List.mem_cons_of_mem c)

theorem Tag.isLower_ofPairs {pairs : List (List Char × Option (List Char))} {as : List Attribute}
    (h : ofPairs pairs = .ok as) : ∀ a ∈ as, a.IsLower := by
  unfold ofPairs at h
  have hnil : ∀ a ∈ ([] : List Attribute), a.IsLower := List.forall_mem_nil _
  generalize ([] : List Attribute) = before at h hnil
  induction pairs generalizing before with
  | nil =>
    cases h
    exact hnil
  | cons p r ih =>
    rw [List.foldlM_cons] at h
    cases hv : CharRef.expandAttribute (p.2.getD []) with
    | error f =>
      rw [hv] at h
      cases h
    | ok value =>
      rw [hv] at h
      refine ih _ h fun a ha => ?_
      rcases mem_setAttribute ha with rfl | ha
      · exact isLower_lower _ _
      · exact hnil a ha

@[simp]
def Token.IsLower : Token → Prop
  | .open _ as _ => ∀ a ∈ as, a.IsLower
  | _ => True

namespace Lexer

@[simp]
def Step.IsLower : Step → Prop
  | .next ts _ _ => ∀ t ∈ ts, t.IsLower
  | .stop ts _ => ∀ t ∈ ts, t.IsLower
  | .unfinished => True

variable {s : List Char} {st : Step}

theorem isLower_startTag (h : startTag s = .ok st) : st.IsLower := by
  unfold startTag at h
  split at h
  · cases h
    trivial
  · split at h
    · cases h
      trivial
    · next pairs _ =>
      cases hp : Tag.ofPairs pairs with
      | error f =>
        rw [hp] at h
        cases h
      | ok as =>
        rw [hp] at h
        cases h
        simp
    · next pairs _ =>
      cases hp : Tag.ofPairs pairs with
      | error f =>
        rw [hp] at h
        cases h
      | ok as =>
        rw [hp] at h
        cases h
        simpa using Tag.isLower_ofPairs hp

theorem isLower_endTag (s : List Char) : (endTag s).IsLower := by
  unfold endTag
  split
  · trivial
  · split
    · simp
    · split
      · simp
      · split <;> simp

theorem isLower_markedSection (h : markedSection s = .ok st) : st.IsLower := by
  unfold markedSection at h
  dsimp only at h
  split at h
  · cases h
    trivial
  · split at h
    · cases h
    · split at h
      · cases h
        trivial
      · split at h
        · cases h
        · cases h
          trivial
        · split at h <;> cases h <;> simp

theorem isLower_declaration (h : declaration s = .ok st) : st.IsLower := by
  unfold declaration at h
  split at h
  · exact isLower_markedSection h
  · split at h
    · cases h
      trivial
    · split at h <;> cases h <;> simp

theorem isLower_namedReference (atEnd : Bool) (s : List Char) :
    (namedReference atEnd s).IsLower := by
  unfold namedReference
  dsimp only
  split
  · simp
  · split
    · simp
    · split
      · simp
      · split <;> simp
    · split <;> simp

theorem isLower_reference {atEnd : Bool} (h : reference atEnd s = .ok st) : st.IsLower := by
  unfold reference at h
  split at h
  · split at h
    · next v t _ =>
      cases v with
      | error f => cases h
      | ok c =>
        cases h
        simp
    · cases h
      split <;> simp
  · cases h
    exact isLower_namedReference atEnd s

theorem isLower_construct (h : construct s = .ok st) : st.IsLower := by
  unfold construct at h
  split at h
  · cases h
    exact isLower_endTag s
  · split at h
    · split at h <;> cases h <;> simp
    · exact isLower_declaration h
  · split at h <;> cases h <;> simp
  · split at h
    · exact isLower_startTag h
    · cases h
      simp
  · cases h
    simp

theorem isLower_step {atEnd : Bool} {raw : Option String} (h : step atEnd raw s = .ok st) :
    st.IsLower := by
  unfold step at h
  split at h
  · split at h <;> cases h <;> simp
  · dsimp only at h
    split at h
    · split at h
      · exact isLower_reference h
      · cases hc : construct s with
        | error f =>
          rw [hc] at h
          cases h
        | ok t =>
          rw [hc] at h
          cases h
          cases t with
          | unfinished =>
            dsimp only
            split <;> simp
          | next => exact isLower_construct hc
          | stop => exact isLower_construct hc
    · cases h
      simp

theorem isLower_reverse_append {ts acc : List Token} (hts : ∀ t ∈ ts, t.IsLower)
    (hacc : ∀ t ∈ acc, t.IsLower) : ∀ t ∈ ts.reverse ++ acc, t.IsLower :=
  List.forall_mem_append.mpr ⟨fun t ht => hts t (List.mem_reverse.mp ht), hacc⟩

theorem isLower_read {atEnd : Bool} {fuel : Nat} {acc : List Token} {raw : Option String}
    {x : Reading} (h : read atEnd fuel acc raw s = .ok x) (hacc : ∀ t ∈ acc, t.IsLower) :
    ∀ t ∈ x.tokens, t.IsLower := by
  induction fuel generalizing acc raw s with
  | zero =>
    cases h
    exact hacc
  | succ fuel ih =>
    rw [read] at h
    split at h
    · cases h
      exact hacc
    · split at h
      · cases h
      · next hs => exact ih h (isLower_reverse_append (isLower_step hs) hacc)
      · next hs =>
        cases h
        exact isLower_reverse_append (isLower_step hs) hacc
      · cases h
        exact hacc

end Lexer

theorem Token.isLower_scan {s : List Char} {ts : List Token} (h : Token.scan s = .ok ts) :
    ∀ t ∈ ts, t.IsLower := by
  unfold Token.scan at h
  dsimp only at h
  cases h1 : Lexer.read false (s.length + 1) [] none s with
  | error f =>
    rw [h1] at h
    cases h
  | ok first =>
    have hfirst := Lexer.isLower_read h1 (List.forall_mem_nil _)
    rw [h1] at h
    dsimp only [bind, Except.bind] at h
    cases h2 : Lexer.read true (s.length + 1) first.tokens first.raw first.rest with
    | error f =>
      rw [h2] at h
      cases h
    | ok second =>
      have hsecond := Lexer.isLower_read h2 hfirst
      rw [h2] at h
      cases h
      intro t ht
      rcases List.mem_append.mp ht with ht | ht
      · exact hsecond t (List.mem_reverse.mp ht)
      · split at ht
        · cases ht
        · obtain rfl := List.mem_singleton.mp ht
          trivial

def AreLower (ns : List Node) : Prop := ∀ n ∈ Node.elements ns, ∀ a ∈ n.attributes, a.IsLower

theorem areLower_cons {n : Node} {ns : List Node} :
    AreLower (n :: ns) ↔ AreLower [n] ∧ AreLower ns := by
  have helements : Node.elements (n :: ns) = Node.elements [n] ++ Node.elements ns := by
    rw [Node.elements_eq, Node.elements_eq [n], Node.elements_eq ns, ← List.flatMap_append,
      ← List.filter_append]
    rfl
  rw [AreLower, helements, List.forall_mem_append]
  rfl

theorem areLower_iff {ns : List Node} : AreLower ns ↔ ∀ n ∈ ns, AreLower [n] := by
  induction ns with
  | nil => simp [AreLower, Node.elements]
  | cons n r ih => rw [areLower_cons, ih, List.forall_mem_cons]

theorem areLower_reverse {ns : List Node} (h : AreLower ns) : AreLower ns.reverse :=
  areLower_iff.mpr fun n hn => areLower_iff.mp h n (List.mem_reverse.mp hn)

theorem areLower_element {name : String} {as : List Attribute} {cs : List Node}
    (has : ∀ a ∈ as, a.IsLower) (hcs : AreLower cs) : AreLower [.element name as cs] := by
  have helements : Node.elements [.element name as cs] =
      .element name as cs :: Node.elements cs := by
    simp [Node.elements, Node.isElement, Node.descendants]
  rw [AreLower, helements, List.forall_mem_cons]
  exact ⟨has, hcs⟩

theorem Attribute.isLower_normalize {a : Attribute} (h : a.IsLower) (element : String) :
    (a.normalize element).IsLower := by
  unfold Attribute.normalize
  split
  · exact h
  · exact h

namespace Builder

structure IsLower (b : Builder) : Prop where
  opened : ∀ e ∈ b.opened, (∀ a ∈ e.attributes, a.IsLower) ∧ AreLower e.children
  top : AreLower b.top

variable {b : Builder}

theorem isLower_push {n : Node} (hb : b.IsLower) (hn : AreLower [n]) : (b.push n).IsLower := by
  obtain ⟨hopened, htop⟩ := hb
  unfold push
  split
  · exact ⟨hopened, areLower_cons.mpr ⟨hn, htop⟩⟩
  · next e r he =>
    rw [he] at hopened
    obtain ⟨⟨has, hcs⟩, hr⟩ := List.forall_mem_cons.mp hopened
    exact ⟨List.forall_mem_cons.mpr ⟨⟨has, areLower_cons.mpr ⟨hn, hcs⟩⟩, hr⟩, htop⟩

theorem isLower_addText (hb : b.IsLower) (k : TextKind) (s : List Char) :
    (b.addText k s).IsLower :=
  isLower_push hb (List.forall_mem_nil _)

theorem isLower_flush (hb : b.IsLower) : b.flush.IsLower := by
  unfold flush
  split
  · exact hb
  · have hcleared : IsLower { b with pending := [] } := ⟨hb.opened, hb.top⟩
    exact isLower_addText hcleared _ _

theorem isLower_closeInnermost (hb : b.IsLower) : b.closeInnermost.IsLower := by
  unfold closeInnermost
  split
  · exact hb
  · next e r he =>
    obtain ⟨⟨has, hcs⟩, hr⟩ := List.forall_mem_cons.mp (he ▸ hb.opened)
    exact isLower_push ⟨hr, hb.top⟩ (areLower_element has (areLower_reverse hcs))

theorem isLower_closeTo (hb : b.IsLower) (name : String) (fuel : Nat) :
    (closeTo name fuel b).IsLower := by
  induction fuel generalizing b with
  | zero => exact hb
  | succ fuel ih =>
    rw [closeTo]
    split
    · exact hb
    · split
      · exact isLower_closeInnermost hb
      · exact ih (isLower_closeInnermost hb)

theorem isLower_close (hb : b.IsLower) (name : String) : (b.close name).IsLower := by
  unfold close
  dsimp only
  split
  · exact isLower_closeTo (isLower_flush hb) _ _
  · exact isLower_flush hb

theorem isLower_openElement (hb : b.IsLower) (name : String) {as : List Attribute}
    (has : ∀ a ∈ as, a.IsLower) : (b.openElement name as).IsLower := by
  obtain ⟨hopened, htop⟩ := isLower_flush hb
  refine ⟨List.forall_mem_cons.mpr ⟨⟨?_, List.forall_mem_nil _⟩, hopened⟩, htop⟩
  exact List.forall_mem_map.mpr fun a ha => Attribute.isLower_normalize (has a ha) name

theorem isLower_step (hb : b.IsLower) {t : Token} (ht : t.IsLower) : (b.step t).IsLower := by
  cases t with
  | text s => exact ⟨hb.opened, hb.top⟩
  | special k s => exact isLower_addText (isLower_flush hb) k s
  | «open» name as selfClosed =>
    have hopen := isLower_openElement hb name ht
    rw [step]
    dsimp only
    split
    · exact isLower_close hopen name
    · split
      · have hclose := isLower_close hopen name
        exact ⟨hclose.opened, hclose.top⟩
      · exact hopen
  | close name =>
    rw [step]
    split
    · exact ⟨hb.opened, hb.top⟩
    · exact isLower_close hb name

theorem isLower_foldl_step (hb : b.IsLower) {ts : List Token} (hts : ∀ t ∈ ts, t.IsLower) :
    (ts.foldl step b).IsLower :=
  List.foldlRecOn ts step hb fun _ hb t ht => isLower_step hb (hts t ht)

theorem areLower_finish (hb : b.IsLower) : AreLower b.finish := by
  have hclosed : (b.flush.opened.foldl (fun b _ => b.closeInnermost) b.flush).IsLower :=
    List.foldlRecOn b.flush.opened _ (isLower_flush hb) fun _ hb _ _ => isLower_closeInnermost hb
  exact areLower_reverse hclosed.top

end Builder

theorem areLower_parse {s : List Char} {d : Document} (h : Document.parse s = .ok d) :
    AreLower d.children := by
  unfold Document.parse at h
  cases hts : Token.scan s with
  | error f =>
    rw [hts] at h
    cases h
  | ok ts =>
    rw [hts] at h
    cases h
    have hempty : Builder.empty.IsLower := ⟨List.forall_mem_nil _, List.forall_mem_nil _⟩
    exact Builder.areLower_finish (Builder.isLower_foldl_step hempty (Token.isLower_scan hts))

/-- On a document that has been read, an element has the same id whether or not the case of the
attribute's name counts. -/
theorem id?_of_parse {s : List Char} {d : Document} (h : Document.parse s = .ok d) {p : Place}
    (hp : p ∈ d.places) : p.node.id? = Selector.attribute? "id" p.node := by
  have hmem : p.node ∈ Node.elements d.children := by
    have hnodes : d.places.map Place.node = Node.elements d.children :=
      Place.map_node_descendants (.top d.children)
    exact hnodes ▸ List.mem_map_of_mem hp
  have hlower := areLower_parse h p.node hmem
  have hid : Selector.asciiLower "id" = "id" := by decide
  rw [Node.id?, Node.get?, attribute?, Selector.attribute?, hid]
  refine congrArg (Option.map Attribute.value) (List.find?_congr fun a ha => ?_)
  rw [hlower a ha]

end Markup

end CrateDocs
