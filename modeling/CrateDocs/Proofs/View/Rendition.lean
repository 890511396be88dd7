import CrateDocs.Proofs.View.Blocks
import CrateDocs.Proofs.View.Lines
import CrateDocs.Proofs.View.Title
import CrateDocs.View.Viewer

/-!
Renditions: the control sequences around styled runs. A styled text without highlights shows the same
as the plain one; where the texts of a document have no escape character, it is the plain one as soon
as the renditions are taken out of it.
-/

namespace CrateDocs

def Doc.ownTexts (d : Doc) : List String :=
  d.name.text :: (d.definition.toList ++ (d.description.map Prose.plain).toList)

def MemberGroup.texts (g : MemberGroup Doc) : List String :=
  g.title.toList ++ g.members.flatMap Doc.ownTexts

def Doc.texts (d : Doc) : List String :=
  d.ownTexts ++ d.allGroups.flatMap MemberGroup.texts

def Example.texts (e : Example) : List String :=
  e.code :: (e.description.map Prose.plain).toList

namespace View

def escape : Char := '\x1b'

def isParameter (c : Char) : Bool := c.isDigit || c == ';'

/-- What follows a rendition: an escape, a bracket, digits and semicolons, and a final `m`. -/
def afterRendition? : List Char → Option (List Char)
  | '\x1b' :: '[' :: r =>
    match r.dropWhile isParameter with
    | 'm' :: t => some t
    | _ => none
  | _ => none

variable {s t : List Char}

theorem length_of_afterRendition? (h : afterRendition? s = some t) : t.length < s.length := by
  unfold afterRendition? at h
  split at h
  · next r =>
    split at h
    · next u hu =>
      cases h
      have hle := (List.dropWhile_suffix isParameter (l := r)).length_le
      rw [hu] at hle
      simp only [List.length_cons] at hle ⊢
      omega
    · cases h
  · cases h

def withoutRenditions : List Char → List Char
  | [] => []
  | c :: r =>
    match _h : afterRendition? (c :: r) with
    | some t => withoutRenditions t
    | none => c :: withoutRenditions r
termination_by s => s.length
decreasing_by
  · exact length_of_afterRendition? _h
  · simp

theorem withoutRenditions_cons {c : Char} (h : c ≠ escape) (s : List Char) :
    withoutRenditions (c :: s) = c :: withoutRenditions s := by
  have hnone : afterRendition? (c :: s) = none := by
    unfold afterRendition?
    split
    · next he => exact absurd (List.cons.inj he).1 h
    · rfl
  rw [withoutRenditions]
  split
  · next hs => cases hnone.symm.trans hs
  · rfl

theorem withoutRenditions_of_after {u : List Char} (h : afterRendition? s = some u) :
    withoutRenditions s = withoutRenditions u := by
  cases s with
  | nil => cases h
  | cons c r =>
    rw [withoutRenditions]
    split
    · next hs => rw [Option.some.inj (h.symm.trans hs)]
    · next hs => cases h.symm.trans hs

/-- What a text shows, whatever comes after it. -/
def Shows (s shown : List Char) : Prop :=
  ∀ t, withoutRenditions (s ++ t) = shown ++ withoutRenditions t

theorem shows_self (h : escape ∉ s) : Shows s s := by
  intro t
  induction s with
  | nil => rfl
  | cons c r ih =>
    obtain ⟨hc, hr⟩ := List.ne_and_not_mem_of_not_mem_cons h
    rw [List.cons_append, withoutRenditions_cons hc.symm, ih hr, List.cons_append]

theorem Shows.append {s t u v : List Char} (hs : Shows s u) (ht : Shows t v) :
    Shows (s ++ t) (u ++ v) := by
  intro w
  rw [List.append_assoc, hs, ht, List.append_assoc]

theorem shows_flatMap {α : Type} {f g : α → List Char} {l : List α}
    (h : ∀ a ∈ l, Shows (f a) (g a)) : Shows (l.flatMap f) (l.flatMap g) := by
  induction l with
  | nil => exact shows_self (by simp)
  | cons a r ih =>
    obtain ⟨ha, hr⟩ := List.forall_mem_cons.mp h
    exact ha.append (ih hr)

theorem Shows.eq {shown : List Char} (h : Shows s shown) : withoutRenditions s = shown := by
  simpa [withoutRenditions] using h []

theorem shows_rendition {p : List Char} (h : p.all isParameter = true) :
    Shows ("\x1b[".toList ++ p ++ ['m']) [] := by
  intro t
  have hdrop : (p ++ 'm' :: t).dropWhile isParameter = 'm' :: t := by
    rw [List.dropWhile_append_of_pos (by simpa using h)]
    rfl
  have hafter : afterRendition? ('\x1b' :: '[' :: (p ++ 'm' :: t)) = some t := by
    simp only [afterRendition?, hdrop]
  rw [List.append_assoc, List.append_assoc]
  exact withoutRenditions_of_after hafter

theorem escape_not_mem_part {gs hs : List Glyph} (h : escape ∉ charsOf gs) (hsub : hs ⊆ gs) :
    escape ∉ charsOf hs := fun hmem => h (List.map_subset _ hsub hmem)

theorem shows_writeRun {rendition : Option String}
    (hr : ∀ p ∈ rendition, p.toList.all isParameter = true) {gs : List Glyph}
    (h : escape ∉ charsOf gs) : Shows (writeRun rendition gs) (charsOf gs) := by
  cases rendition with
  | none => exact shows_self h
  | some p =>
    rw [writeRun]
    split
    · have hstart := shows_rendition (hr p rfl)
      have hend : Shows "\x1b[0m".toList [] := shows_rendition (p := ['0']) (by decide)
      have hrun := (hstart.append (shows_self h)).append hend
      simpa using hrun
    · exact shows_self h

theorem shows_writeLine {rendition : Option String}
    (hr : ∀ p ∈ rendition, p.toList.all isParameter = true) {gs : List Glyph}
    (h : escape ∉ charsOf gs) : Shows (writeLine rendition gs) (charsOf gs) := by
  have hruns : (gs.splitBy fun a b => a.run == b.run).flatten = gs := List.flatten_splitBy _ gs
  have hline : charsOf gs = (gs.splitBy fun a b => a.run == b.run).flatMap charsOf := by
    rw [← charsOf_flatten, hruns]
  rw [writeLine, hline]
  refine shows_flatMap fun run hrun => shows_writeRun hr (escape_not_mem_part h ?_)
  have hsub : run ⊆ (gs.splitBy fun a b => a.run == b.run).flatten :=
    fun _ hg => List.mem_flatten_of_mem hrun hg
  rwa [hruns] at hsub

theorem isParameter_rendition (st : Style) (b : Block) :
    ∀ p ∈ b.rendition? st, p.toList.all isParameter = true := by
  intro p hp
  rcases st with ⟨styled, highlighted⟩
  cases b <;> cases styled <;> cases highlighted <;> cases hp <;> decide

theorem shows_write {b : Block} (styled : Bool) (width : Nat) (h : escape ∉ b.text.toList) :
    Shows (b.write ⟨styled, false⟩ width) (b.write ⟨false, false⟩ width) := by
  have hlines : b.lines ⟨styled, false⟩ width = b.lines ⟨false, false⟩ width := by
    rw [Block.lines_eq rfl, Block.lines_eq rfl]
  rw [write_plain, Block.write, Text.unlines, List.flatMap_map, hlines]
  refine shows_flatMap fun l hl => (shows_writeLine (isParameter_rendition _ b) ?_).append
    (shows_self (by decide))
  intro hmem
  rcases mem_lines rfl hl hmem with hspace | htext
  · exact absurd hspace (by decide)
  · exact h htext

theorem withoutRenditions_write {bs : List Block} (styled : Bool) (width : Int)
    (h : ∀ b ∈ bs, escape ∉ b.text.toList) :
    withoutRenditions (write ⟨styled, false⟩ width bs).toList =
      (write ⟨false, false⟩ width bs).toList := by
  rw [write, write]
  split
  · exact (shows_self (s := []) (by simp)).eq
  · rw [String.toList_ofList, String.toList_ofList]
    exact (shows_flatMap fun b hb =>
      shows_write styled width.toNat (h b (mem_of_mem_dropFinalBlanks hb))).eq

theorem mem_formatTitle {c : Char} {width : Int} {left middle right : String}
    (h : c ∈ (formatTitle width left middle right).toList) :
    c = ' ' ∨ c ∈ left.toList ∨ c ∈ middle.toList ∨ c ∈ right.toList := by
  have hspaces (n : Int) : c ∈ (spaces n).toList → c = ' ' := by
    rw [toList_spaces]
    exact fun hmem => (List.mem_replicate.mp hmem).2
  have htwo : c ∈ "  ".toList → c = ' ' := hspaces 2
  rw [formatTitle] at h
  split at h <;> simp only [String.toList_append, List.mem_append] at h <;> grind

variable {d : Doc}

theorem escape_not_mem_displayName (k : Kind) : escape ∉ k.displayName.toList := by
  cases k <;> decide

theorem escape_not_mem_groupName (k : Kind) : escape ∉ k.groupName.toUpper.toList := by
  rw [String.toUpper, String.toList_map]
  cases k <;> decide

theorem escape_not_mem_number (n : Nat) : escape ∉ (toString n).toList := by
  rw [Nat.toString_eq_repr, Nat.toList_repr]
  intro h
  exact absurd (Nat.isDigit_of_mem_toDigits (by decide) (by decide) h) (by decide)

theorem isPrefix_firstLine (s : String) : (firstLine s).toList <+: s.toList := by
  rw [firstLine, String.toList_ofList]
  exact List.takeWhile_prefix _

def AreUnescaped (texts : List String) : Prop := ∀ s ∈ texts, escape ∉ s.toList

theorem escape_not_mem_title (width : Int) (h : escape ∉ d.name.text.toList) :
    escape ∉ (formatTitle width d.name.text programName d.kind.displayName).toList := by
  intro hmem
  rcases mem_formatTitle hmem with hspace | hname | hprogram | hkind
  · exact absurd hspace (by decide)
  · exact h hname
  · exact absurd hprogram (by decide)
  · exact escape_not_mem_displayName _ hkind

theorem AreUnescaped.group (h : AreUnescaped d.texts) {g : MemberGroup Doc}
    (hg : g ∈ d.allGroups) : AreUnescaped g.texts :=
  fun s hs => h s (List.mem_append_right _ (List.mem_flatMap_of_mem hg hs))

theorem AreUnescaped.member {g : MemberGroup Doc} (h : AreUnescaped g.texts) {m : Doc}
    (hm : m ∈ g.members) : AreUnescaped m.ownTexts :=
  fun s hs => h s (List.mem_append_right _ (List.mem_flatMap_of_mem hm hs))

theorem escape_not_mem_docBlocks {width : Int} (h : AreUnescaped d.texts) {b : Block}
    (hb : b ∈ docBlocks width d) : escape ∉ b.text.toList := by
  have hown : AreUnescaped d.ownTexts := (List.forall_mem_append.mp h).1
  cases isBlockOf_of_mem hb with
  | title => exact escape_not_mem_title width (hown _ (by simp [Doc.ownTexts]))
  | blank => decide
  | label hlabel =>
    have hall : AreUnescaped ["SYNOPSIS", "DESCRIPTION"] := by
      unfold AreUnescaped
      decide
    exact hall _ hlabel
  | @definition c hc => exact hown c (by simp [Doc.ownTexts, hc])
  | @description p hp => exact hown p.plain (by simp [Doc.ownTexts, hp])
  | kind k => exact escape_not_mem_groupName k
  | @groupTitle g t hg ht => exact h.group hg t (by simp [MemberGroup.texts, ht])
  | @member g m hg hm =>
    have hname : escape ∉ m.name.text.toList := (h.group hg).member hm _ (by simp [Doc.ownTexts])
    exact fun hmem => hname (m.name.last_suffix.subset hmem)
  | @summary g m p hg hm hp =>
    have hplain : escape ∉ p.plain.toList :=
      (h.group hg).member hm _ (by simp [Doc.ownTexts, hp])
    exact fun hmem => hplain ((isPrefix_firstLine p.plain).subset hmem)

theorem escape_not_mem_exampleBlocks {e : Example} {number : Nat} (h : AreUnescaped e.texts)
    {b : Block} (hb : b ∈ exampleBlocks number e) : escape ∉ b.text.toList := by
  simp only [exampleBlocks, List.mem_append, List.mem_cons, List.not_mem_nil, or_false] at hb
  obtain (hb | rfl | hb) | rfl := hb
  · split at hb
    · obtain rfl := List.mem_singleton.mp hb
      decide
    · cases hb
  · rw [Block.text, String.toList_append, List.mem_append, not_or]
    exact ⟨by decide, escape_not_mem_number number⟩
  · split at hb
    · next p hp =>
      simp only [List.mem_cons, List.not_mem_nil, or_false] at hb
      obtain rfl | rfl := hb
      · exact h p.plain (by simp [Example.texts, hp])
      · decide
    · cases hb
  · exact h e.code (by simp [Example.texts])

theorem escape_not_mem_examplesBlocks {width : Int} (hname : escape ∉ d.name.text.toList)
    {es : List Example} (h : ∀ e ∈ es, AreUnescaped e.texts) {b : Block}
    (hb : b ∈ examplesBlocks width d es) : escape ∉ b.text.toList := by
  simp only [examplesBlocks, titleBlocks, List.mem_append, List.mem_cons, List.not_mem_nil,
    or_false] at hb
  obtain (rfl | rfl) | hb := hb
  · exact escape_not_mem_title width hname
  · decide
  · obtain ⟨e, he, number, hb⟩ := exists_of_mem_numberedFrom hb
    exact escape_not_mem_exampleBlocks (h e he) hb

end View

namespace Viewer

open View

variable {standard : String} {o : Options}

theorem named_plain (standard : String) (o : Options) :
    named standard plainName o = .ok ⟨false, o.width, false, ""⟩ := rfl

theorem named_rich (h : o.highlighted = false) :
    named standard richName o = .ok ⟨true, o.width, false, themeOf standard o⟩ := by
  have hname : named standard richName o = ofOptions standard o := rfl
  rw [hname, ofOptions, h]
  rfl

/-- Without highlights, what a terminal shows of a document is its plain text. -/
theorem show_without_highlights (standard : String) (o : Options) (h : o.highlighted = false) :
    ∃ rich plain, named standard richName o = .ok rich ∧ named standard plainName o = .ok plain ∧
      ∀ d : Doc,
        (AreUnescaped d.texts → withoutRenditions (rich.showDoc d).toList =
          (plain.showDoc d).toList) ∧
        ∀ es : List Example, escape ∉ d.name.text.toList → (∀ e ∈ es, AreUnescaped e.texts) →
          withoutRenditions (rich.showExamples d es).toList =
            (plain.showExamples d es).toList := by
  refine ⟨_, _, named_rich h, named_plain standard o, fun d => ⟨?_, ?_⟩⟩
  · intro htexts
    exact withoutRenditions_write true o.width fun _ => escape_not_mem_docBlocks htexts
  · intro es hname htexts
    exact withoutRenditions_write true o.width fun _ =>
      escape_not_mem_examplesBlocks hname htexts

def methodsDoc : Doc :=
  ⟨⟨"a::S"⟩, .struct, some "struct S", some ⟨"A set.", ""⟩,
    [(.method, [⟨some "impl S", [.leaf ⟨"a::S::f"⟩ .method none (some ⟨"Understands.", ""⟩)]⟩])],
    none⟩

theorem show_without_highlights_methods :
    ∃ rich plain, named "monokai" richName ⟨20, none, false⟩ = .ok rich ∧
      named "monokai" plainName ⟨20, none, false⟩ = .ok plain ∧
      withoutRenditions (rich.showDoc methodsDoc).toList = (plain.showDoc methodsDoc).toList ∧
      plain.showDoc methodsDoc = "a::S  rustdoc-man  \nStruct\n\nSYNOPSIS\n    struct S\n\n" ++
        "DESCRIPTION\n    A set.\n\nMETHODS\n    impl S\n        f\n            Understand\n" ++
        "            s.\n" ∧
      withoutRenditions (rich.showExamples methodsDoc [⟨"f()", none⟩]).toList =
        (plain.showExamples methodsDoc [⟨"f()", none⟩]).toList ∧
      plain.showExamples methodsDoc [⟨"f()", none⟩] =
        "a::S  rustdoc-man  \nStruct\n\nEXAMPLE 1\n    f()\n" := by
  obtain ⟨rich, plain, hrich, hplain, hshow⟩ :=
    show_without_highlights "monokai" ⟨20, none, false⟩ rfl
  obtain rfl := Except.ok.inj ((named_plain "monokai" ⟨20, none, false⟩).symm.trans hplain)
  exact ⟨rich, _, hrich, hplain, (hshow methodsDoc).1 (by unfold AreUnescaped; decide),
    by decide +kernel, (hshow methodsDoc).2 _ (by decide) (by unfold AreUnescaped; decide),
    by decide +kernel⟩

end Viewer

end CrateDocs
