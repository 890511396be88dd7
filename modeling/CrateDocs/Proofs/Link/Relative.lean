import CrateDocs.Proofs.Link.Walk

/-!
Relative links between the pages of a documentation. A link that goes up to a directory above both
pages and down to the other one resolves to the item of that page.
-/

namespace CrateDocs.Link

/-- What has a page of its own: a module, in its own directory, or an item in that of its parent. -/
inductive Place where
  | module (segments : List String)
  | item (kind : Kind) (parent : List String) (last : String)

namespace Place

def directory : Place → List String
  | module segments => segments
  | item _ parent _ => parent

def kind : Place → Kind
  | module _ => .module
  | item k _ _ => k

def name : Place → Name
  | module segments => .ofSegments segments
  | item _ parent last => .ofSegments (parent ++ [last])

def file : Place → String
  | module _ => "index.html"
  | item k _ last => Anchor.text k last ++ ".html"

inductive IsPlain : Place → Prop where
  | module {segments : List String} (hne : segments ≠ [])
      (hs : ∀ s ∈ segments, IsSegment s) : IsPlain (.module segments)
  | item {k : Kind} {parent : List String} {last : String} (hk : k ≠ .module)
      (hs : ∀ s ∈ parent, IsSegment s) (hl : IsSegment last) : IsPlain (.item k parent last)

/-- Whether the name of an item can be told from the name of its file. -/
def IsFiled : Place → Prop
  | module _ => True
  | item _ _ last => Anchor.IsName last

end Place

def commonLength : List String → List String → Nat
  | s :: r, t :: r' => if s = t then commonLength r r' + 1 else 0
  | _, _ => 0

/-- The way from one page to another: up to the directory of `n` segments, then down. -/
def way (page target : Place) (n : Nat) : List String :=
  List.replicate (page.directory.length - n) ".." ++ (target.directory.drop n ++ [target.file])

def relative (page target : Place) (n : Nat) : String := "/".intercalate (way page target n)

theorem take_eq_of_le_commonLength {a b : List String} {n : Nat} (h : n ≤ commonLength a b) :
    a.take n = b.take n ∧ n ≤ a.length := by
  induction a generalizing b n with
  | nil =>
    have hn : n = 0 := Nat.le_zero.mp h
    simp [hn]
  | cons s r ih =>
    cases b with
    | nil =>
      have hn : n = 0 := Nat.le_zero.mp h
      simp [hn]
    | cons t r' =>
      cases n with
      | zero => simp
      | succ n =>
        rw [commonLength] at h
        split at h
        · next hst =>
          obtain ⟨htake, hlen⟩ := ih (Nat.le_of_succ_le_succ h)
          exact ⟨by simp [hst, htake], Nat.succ_le_succ hlen⟩
        · exact absurd h (Nat.not_succ_le_zero n)

namespace Place

variable {page target : Place} {c : Cursor}

theorem IsPlain.isSegment (h : page.IsPlain) : ∀ s ∈ page.directory, IsSegment s := by
  cases h with
  | module hne hs => exact hs
  | item hk hs hl => exact hs

theorem isPart_file (h : target.IsPlain) : IsPart target.file.toList := by
  cases h with
  | module hne hs => exact @isPart_of_length "index.html".toList (by decide) (by decide)
  | @item k parent last hk hs hl =>
    have hfile : (item k parent last).file.toList =
        k.token.toList ++ ".".toList ++ last.toList ++ ".html".toList := by
      simp [file, Anchor.text]
    rw [hfile]
    refine isPart_of_length ?_ ?_
    · rw [List.length_append]
      exact Nat.lt_of_lt_of_le (by decide) (Nat.le_add_left _ _)
    · exact (((isPlainText_token k).append (by decide)).append hl.plain).append (by decide)

theorem isIn_start (h : page.IsPlain) {parts : List (List Char)} (hne : parts ≠ []) :
    (start page.name page.kind parts).IsIn page.directory := by
  cases h with
  | module hd hs =>
    rw [start, if_pos (.inl rfl)]
    exact ⟨(Name.ofSegments?_eq_some hd).symm, .inl rfl⟩
  | @item k parent last hk hs hl =>
    have hstart : ¬((item k parent last).kind = .module ∨ parts = []) := not_or.mpr ⟨hk, hne⟩
    rw [start, if_neg hstart]
    exact ⟨Name.parent?_ofSegments hl.not_mem_colon, .inr rfl⟩

/-- The kind that a link to a page may give. -/
def Gives (target : Place) (k : Option Kind) : Prop :=
  k = some target.kind ∨ target.kind = .module ∧ k = none

theorem step_file (h : target.IsPlain) (hf : target.IsFiled) (hc : c.IsIn target.directory) :
    ∃ c', c.step target.file.toList = .ok c' ∧ c'.name = some target.name ∧
      target.Gives c'.kind := by
  cases h with
  | module hne hs =>
    refine ⟨c, Cursor.step_index c, ?_, ?_⟩
    · exact hc.name.trans (Name.ofSegments?_eq_some hne)
    · exact hc.kind.imp_right fun hk => ⟨rfl, hk⟩
  | @item k parent last hk hs hl =>
    refine ⟨c.child (some k) last, Cursor.step_page hf, ?_, .inl rfl⟩
    exact (Cursor.child_name hc.name _).trans (Name.ofSegments?_eq_some (by simp))

end Place

theorem isPart_way (page : Place) {target : Place} (ht : target.IsPlain) (n : Nat) :
    ∀ p ∈ (way page target n).map String.toList, IsPart p := by
  intro p hp
  obtain ⟨s, hs, rfl⟩ := List.mem_map.mp hp
  rw [way, List.mem_append, List.mem_append, List.mem_singleton] at hs
  rcases hs with hs | hs | rfl
  · rw [List.eq_of_mem_replicate hs]
    exact isPart_up
  · exact (ht.isSegment s (List.mem_of_mem_drop hs)).toIsPart
  · exact Place.isPart_file ht

theorem walk_way {page target : Place} {n : Nat} (hp : page.IsPlain) (ht : target.IsPlain)
    (hf : target.IsFiled) (hn : n ≤ commonLength page.directory target.directory) {c : Cursor}
    (hc : c.IsIn page.directory) :
    ∃ c', ((way page target n).map String.toList).foldlM Cursor.step c = .ok c' ∧
      c'.name = some target.name ∧ target.Gives c'.kind := by
  obtain ⟨htake, hlen⟩ := take_eq_of_le_commonLength hn
  rw [← List.take_append_drop n page.directory] at hc
  have hback : ∀ s ∈ page.directory.drop n, ':' ∉ s.toList :=
    fun s hs => (hp.isSegment s (List.mem_of_mem_drop hs)).not_mem_colon
  obtain ⟨c₁, hup, h₁⟩ := Cursor.walk_up hc hback
  obtain ⟨c₂, hdown, h₂⟩ := Cursor.walk_down h₁ fun s hs =>
    ht.isSegment s (List.mem_of_mem_drop hs)
  rw [htake, List.take_append_drop n target.directory] at h₂
  obtain ⟨c₃, hfile, hname, hkind⟩ := Place.step_file ht hf h₂
  refine ⟨c₃, ?_, hname, hkind⟩
  rw [List.length_drop] at hup
  simp only [way, List.map_append, List.map_replicate, List.map_cons, List.map_nil,
    List.foldlM_append, hup, List.foldlM_cons, List.foldlM_nil]
  simp only [Bind.bind, Except.bind] at *
  simp only [hdown, hfile]
  rfl

theorem resolve_relative {page target : Place} {n : Nat} (hp : page.IsPlain) (ht : target.IsPlain)
    (hf : target.IsFiled) (hn : n ≤ commonLength page.directory target.directory) :
    (∃ k, resolve page.name page.kind (relative page target n) = .ok (.item k target.name) ∧
      target.Gives k) ∧
    ∀ (k : Kind) (member : String), Anchor.IsName member →
      resolve page.name page.kind (relative page target n ++ "#" ++ Anchor.text k member) =
        .ok (.item (some k) (target.name.child member)) := by
  have hparts := isPart_way page ht n
  have hne : (way page target n).map String.toList ≠ [] := by simp [way]
  have hlink : (relative page target n).toList =
      ['/'].intercalate ((way page target n).map String.toList) := by
    rw [relative, String.toList_intercalate]
    rfl
  obtain ⟨there, hwalk, hname, hkind⟩ := walk_way hp ht hf hn (Place.isIn_start hp hne)
  refine ⟨⟨there.kind, resolve_path hparts hne hlink hwalk hname, hkind⟩, ?_⟩
  intro k member hm
  refine resolve_path_anchor hparts hne hm ?_ hwalk hname
  rw [String.toList_append, String.toList_append, hlink, List.append_assoc]
  rfl

theorem resolve_relative_member :
    resolve ⟨"kuchiki::iter::Siblings"⟩ .struct "../struct.NodeRef.html#method.new" =
      .ok (.item (some .method) ⟨"kuchiki::NodeRef::new"⟩) := by
  have hpage : (Place.item .struct ["kuchiki", "iter"] "Siblings").IsPlain :=
    .item (by decide) (by decide) (by decide)
  have htarget : (Place.item .struct ["kuchiki"] "NodeRef").IsPlain :=
    .item (by decide) (by decide) (by decide)
  have hname : Anchor.IsName "NodeRef" :=
    ⟨by decide, by decide, Anchor.not_isCounted_of_not_mem (by decide)⟩
  have hmember : Anchor.IsName "new" :=
    ⟨by decide, by decide, Anchor.not_isCounted_of_not_mem (by decide)⟩
  exact (resolve_relative (n := 1) hpage htarget hname (by decide)).2 .method "new" hmember

end CrateDocs.Link
