import TermSearch.Proofs.Statement.Joining

/-! Conditions that are joined with one connective, in any association. The group that comes out has
one part for each operand along the left side of the tree, so it lists the leaves themselves exactly
where every right operand is a leaf. -/

namespace TermSearch

inductive JoinTree where
  | leaf (c : Condition)
  | join (left right : JoinTree)

namespace JoinTree

def leaves : JoinTree → List Condition
  | leaf c => [c]
  | join l r => l.leaves ++ r.leaves

def build (k : Connective) : JoinTree → Condition
  | leaf c => c
  | join l r => k.join (l.build k) (r.build k)

/-- The leftmost leaf, and after it the right operands of the joins above it. -/
def spine (k : Connective) : JoinTree → List Condition
  | leaf c => [c]
  | join l r => l.spine k ++ [r.build k]

def IsLeftNested : JoinTree → Prop
  | leaf _ => True
  | join l (leaf _) => l.IsLeftNested
  | join _ (join _ _) => False

variable {k : Connective}

theorem leaves_ne_nil (t : JoinTree) : t.leaves ≠ [] := by
  induction t with
  | leaf c => exact List.cons_ne_nil c []
  | join l r ihl _ => exact List.append_ne_nil_of_left_ne_nil ihl r.leaves

theorem spine_ne_nil (t : JoinTree) : t.spine k ≠ [] := by
  cases t with
  | leaf c => exact List.cons_ne_nil c []
  | join l r => exact List.concat_ne_nil _ _

def Ungrouped (k : Connective) (t : JoinTree) : Prop :=
  ∀ c ∈ t.leaves, ¬ k.IsGroup c

theorem Ungrouped.left {l r : JoinTree} (h : (join l r).Ungrouped k) : l.Ungrouped k :=
  fun c hc => h c (List.mem_append_left _ hc)

theorem Ungrouped.right {l r : JoinTree} (h : (join l r).Ungrouped k) : r.Ungrouped k :=
  fun c hc => h c (List.mem_append_right _ hc)

theorem parts_build {t : JoinTree} (h : t.Ungrouped k) : k.parts (t.build k) = t.spine k := by
  induction t with
  | leaf c => exact Connective.parts_of_not_isGroup (h c (List.mem_singleton_self c))
  | join l r ihl _ => rw [build, k.join_eq_group, k.parts_group, ihl h.left, spine]

theorem build_join {l r : JoinTree} (h : (join l r).Ungrouped k) :
    (join l r).build k = k.group ((join l r).spine k) := by
  rw [build, k.join_eq_group, parts_build h.left, spine]

theorem length_spine_le (t : JoinTree) : (t.spine k).length ≤ t.leaves.length := by
  induction t with
  | leaf c => exact le_rfl
  | join l r ihl _ =>
    have hr : 0 < r.leaves.length := List.length_pos_iff.2 r.leaves_ne_nil
    rw [spine, leaves, List.length_append, List.length_append, List.length_singleton]
    omega

theorem spine_of_isLeftNested {t : JoinTree} (h : t.IsLeftNested) : t.spine k = t.leaves := by
  induction t with
  | leaf c => rfl
  | join l r ihl _ =>
    cases r with
    | leaf c => rw [spine, leaves, ihl h]; rfl
    | join _ _ => exact h.elim

theorem isLeftNested_of_length_spine {t : JoinTree}
    (h : t.leaves.length ≤ (t.spine k).length) : t.IsLeftNested := by
  induction t with
  | leaf c => trivial
  | join l r ihl _ =>
    have hl := length_spine_le (k := k) l
    rw [spine, leaves, List.length_append, List.length_append, List.length_singleton] at h
    cases r with
    | leaf c =>
      have hc : (leaf c).leaves.length = 1 := rfl
      exact ihl (by omega)
    | join a b =>
      -- A right operand with two leaves or more takes one place only.
      have ha : 0 < a.leaves.length := List.length_pos_iff.2 a.leaves_ne_nil
      have hb : 0 < b.leaves.length := List.length_pos_iff.2 b.leaves_ne_nil
      rw [leaves, List.length_append] at h
      omega

theorem spine_eq_leaves_iff (t : JoinTree) : t.spine k = t.leaves ↔ t.IsLeftNested :=
  ⟨fun h => isLeftNested_of_length_spine (k := k) (by rw [h]), spine_of_isLeftNested⟩

theorem isLeftNested_iff_of_spine {t : JoinTree} (h : t.Ungrouped k) :
    (∀ c ∈ t.spine k, ¬ k.IsGroup c) ↔ t.IsLeftNested := by
  constructor
  · intro hs
    induction t with
    | leaf c => trivial
    | join l r ihl _ =>
      rw [spine, List.forall_mem_append, List.forall_mem_singleton] at hs
      cases r with
      | leaf c => exact ihl h.left hs.1
      | join a b => exact hs.2 ⟨_, build_join h.right⟩
  · intro hn
    rw [spine_of_isLeftNested hn]
    exact h

theorem spine_injective {t t' : JoinTree} (h : t.Ungrouped k) (h' : t'.Ungrouped k)
    (hs : t.spine k = t'.spine k) : t = t' := by
  induction t generalizing t' with
  | leaf c =>
    cases t' with
    | leaf c' => rw [List.singleton_inj.1 hs]
    | join l' r' =>
      have hl := congrArg List.length hs
      have hpos : 0 < (l'.spine k).length := List.length_pos_iff.2 l'.spine_ne_nil
      simp only [spine, List.length_append, List.length_singleton] at hl
      omega
  | join l r ihl ihr =>
    cases t' with
    | leaf c' =>
      have hl := congrArg List.length hs
      have hpos : 0 < (l.spine k).length := List.length_pos_iff.2 l.spine_ne_nil
      simp only [spine, List.length_append, List.length_singleton] at hl
      omega
    | join l' r' =>
      obtain ⟨hleft, hright⟩ := List.append_inj' hs rfl
      have hparts : k.parts (r.build k) = k.parts (r'.build k) :=
        congrArg k.parts (List.singleton_inj.1 hright)
      rw [parts_build h.right, parts_build h'.right] at hparts
      rw [ihl h.left h'.left hleft, ihr h.right h'.right hparts]

theorem build_eq_iff {t t' : JoinTree} (h : t.Ungrouped k) (h' : t'.Ungrouped k) :
    t.build k = t'.build k ↔ t = t' := by
  constructor
  · intro hb
    apply spine_injective h h'
    rw [← parts_build h, ← parts_build h', hb]
  · rintro rfl
    rfl

section Meaning

variable (k)

theorem truth_build {ρ : Type} (I : Reading ρ) (p : ρ) (t : JoinTree) :
    (t.build k).truth I p = (k.group t.leaves).truth I p := by
  rw [k.truth_group]
  induction t with
  | leaf c => exact (k.truthOfAll_singleton _).symm
  | join l r ihl ihr =>
    rw [build, k.truth_join, ihl, ihr, leaves, List.map_append, k.truthOfAll_append]

theorem values_build (t : JoinTree) : (t.build k).values = (k.group t.leaves).values := by
  rw [k.values_group]
  induction t with
  | leaf c => exact (List.flatMap_singleton Condition.values c).symm
  | join l r ihl ihr => rw [build, k.values_join, ihl, ihr, leaves, List.flatMap_append]

end Meaning

end JoinTree

namespace Connective

variable (k : Connective)

def separator : Connective → String
  | .or => " OR "
  | .and => " AND "

def vacant : Connective → String
  | .or => "1=0"
  | .and => "1=1"

theorem pieces_group (d : Dialect) (cs : List Condition) :
    (k.group cs).pieces d = Piece.group k.separator k.vacant (Condition.piecesOfAll d cs) := by
  cases k <;> rfl

theorem sql_nested_ne (d : Dialect) (a b c : Condition) :
    ((k.group [a, k.group [b, c]]).statement d).sql ≠ ((k.group [a, b, c]).statement d).sql := by
  have hflat : (k.group [a, b, c]).pieces d =
      .fixed "(" :: (a.pieces d ++ .fixed k.separator ::
        (b.pieces d ++ .fixed k.separator :: c.pieces d)) ++ [.fixed ")"] := by
    simp only [pieces_group, Condition.piecesOfAll, Piece.group, Piece.joined_cons_cons,
      Piece.joined_singleton]
  have hnested : (k.group [a, k.group [b, c]]).pieces d =
      .fixed "(" :: (a.pieces d ++ .fixed k.separator :: (.fixed "(" ::
        (b.pieces d ++ .fixed k.separator :: c.pieces d) ++ [.fixed ")"])) ++ [.fixed ")"] := by
    simp only [pieces_group, Condition.piecesOfAll, Piece.group, Piece.joined_cons_cons,
      Piece.joined_singleton]
  intro h
  have hlength := congrArg String.length h
  simp only [Condition.statement, Statement.ofPieces, hflat, hnested, Piece.write,
    Piece.write_append, Piece.values, Piece.values_append, String.length_ofList, List.cons_append,
    List.length_append, List.append_assoc] at hlength
  have hopen : "(".toList.length = 1 := by decide
  omega

end Connective

/-- However the joins of one connective are associated, a single group comes out, and its meaning and
its values are those of the group of the leaves. It lists the leaves, without a group among its parts,
exactly where every right operand is a leaf: two associations never make the same condition. -/
theorem chained_flat_iff (k : Connective) :
    (∀ l r : JoinTree, (JoinTree.join l r).Ungrouped k →
      ∃ parts, (JoinTree.join l r).build k = k.group parts ∧
        (parts = (JoinTree.join l r).leaves ↔ (JoinTree.join l r).IsLeftNested) ∧
        ((∀ c ∈ parts, ¬ k.IsGroup c) ↔ (JoinTree.join l r).IsLeftNested)) ∧
    (∀ t t' : JoinTree, t.Ungrouped k → t'.Ungrouped k → (t.build k = t'.build k ↔ t = t')) ∧
    (∀ (d : Dialect) (a b c : Condition), ¬ k.IsGroup a → ¬ k.IsGroup b →
      ((k.join a (k.join b c)).statement d).sql ≠ ((k.join (k.join a b) c).statement d).sql) ∧
    ∀ t : JoinTree, (t.build k).values = (k.group t.leaves).values ∧
      ∀ {ρ : Type} (I : Reading ρ) (p : ρ),
        (t.build k).truth I p = (k.group t.leaves).truth I p := by
  refine ⟨?_, fun t t' h h' => JoinTree.build_eq_iff h h', ?_, ?_⟩
  · intro l r h
    exact ⟨_, JoinTree.build_join h, JoinTree.spine_eq_leaves_iff _,
      JoinTree.isLeftNested_iff_of_spine h⟩
  · intro d a b c ha hb
    have hright : k.join a (k.join b c) = k.group [a, k.group [b, c]] := by
      rw [k.join_eq_group a, k.join_eq_group b, Connective.parts_of_not_isGroup ha,
        Connective.parts_of_not_isGroup hb]
      rfl
    have hleft : k.join (k.join a b) c = k.group [a, b, c] := by
      rw [k.join_eq_group _ c, k.join_eq_group a, k.parts_group, Connective.parts_of_not_isGroup ha]
      rfl
    rw [hright, hleft]
    exact k.sql_nested_ne d a b c
  · intro t
    exact ⟨t.values_build k, fun I p => t.truth_build k I p⟩

def containsX (column : String) : Condition :=
  .like (.cast ⟨"t", column⟩) "%x%"

theorem not_isGroup_containsX (k : Connective) (column : String) :
    ¬ k.IsGroup (containsX column) := by
  rintro ⟨cs, h⟩
  cases k <;> exact nomatch h

theorem ungrouped_containsX (k : Connective) :
    (JoinTree.join (.join (.leaf (containsX "a")) (.leaf (containsX "b")))
      (.leaf (containsX "c"))).Ungrouped k := by
  intro c hc
  simp only [JoinTree.leaves, List.cons_append, List.nil_append, List.mem_cons, List.not_mem_nil,
    or_false] at hc
  rcases hc with rfl | rfl | rfl <;> exact not_isGroup_containsX k _

theorem chained_flat_columns :
    (JoinTree.join (.join (.leaf (containsX "a")) (.leaf (containsX "b")))
      (.leaf (containsX "c"))).Ungrouped .or ∧
    ((containsX "a").or (containsX "b")).or (containsX "c") =
      .any [containsX "a", containsX "b", containsX "c"] ∧
    ¬ Connective.and.IsGroup (containsX "a") ∧ ¬ Connective.and.IsGroup (containsX "b") ∧
    ((Connective.and.join (containsX "a") (Connective.and.join (containsX "b")
        (containsX "c"))).statement .mysql).sql ≠
      ((Connective.and.join (Connective.and.join (containsX "a") (containsX "b"))
        (containsX "c")).statement .mysql).sql := by
  obtain ⟨hgroup, -⟩ := chained_flat_iff .or
  obtain ⟨-, -, hsql, -⟩ := chained_flat_iff .and
  obtain ⟨parts, hbuild, hflat, -⟩ := hgroup _ _ (ungrouped_containsX .or)
  have ha := not_isGroup_containsX .and "a"
  have hb := not_isGroup_containsX .and "b"
  refine ⟨ungrouped_containsX .or, hbuild.trans (congrArg Condition.any (hflat.2 ?_)), ha, hb,
    hsql .mysql _ _ _ ha hb⟩
  exact trivial

/-- The right operand is a group already, and stays one. -/
theorem right_group_kept :
    (∀ c ∈ [containsX "a", containsX "b", containsX "c"], ∀ cs, c ≠ .any cs) ∧
    (containsX "a").or ((containsX "b").or (containsX "c")) =
      .any [containsX "a", .any [containsX "b", containsX "c"]] ∧
    (containsX "a").or ((containsX "b").or (containsX "c")) ≠
      ((containsX "a").or (containsX "b")).or (containsX "c") ∧
    (((containsX "a").or ((containsX "b").or (containsX "c"))).statement .postgres).sql ≠
      ((((containsX "a").or (containsX "b")).or (containsX "c")).statement .postgres).sql := by
  refine ⟨?_, rfl, ?_, ?_⟩
  · simp [containsX]
  · intro h
    exact nomatch h
  · exact Connective.or.sql_nested_ne .postgres (containsX "a") (containsX "b") (containsX "c")

end TermSearch
