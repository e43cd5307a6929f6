import Mathlib.Data.List.Basic
import Mathlib.Tactic.Common
import SearchQuery.Proofs.Item.Nesting

/-!
# Paths through items

A path leads from an item down to one that holds no other, each item on it right inside the one
before. Groups, pairs with a value and keywords are the levels of a path.

* `IsTerm.levelsWithin`: the paths of a term have no more levels than the term nests.
* `IsSequence.levelsWithin`: those of a sequence have no more than the sequence takes, since a
  keyword on a path is a keyword of the sequence.
-/

namespace SearchQuery.Item

/-- The items right inside an item. -/
def children : Item → List Item
  | pin _ inner | compare _ _ inner | not _ inner => [inner]
  | pair _ key v => [key, v]
  | range _ start stop => [start, stop]
  | list _ items | group _ items | pattern _ items => items
  | and _ left right | or _ left right => left :: right
  | null _ | infinity _ | wildcard _ | anyChar _ | word _ _ | quote _ _ | value _ _ => []

/-- The path leads from the item down to an item that holds no other. -/
inductive IsPath : Item → List Item → Prop where
  | leaf {item : Item} (h : item.children = []) : IsPath item [item]
  | step {item child : Item} {path : List Item} (hchild : child ∈ item.children)
    (h : IsPath child path) : IsPath item (item :: path)

/-- Whether the item is a level of the paths through it: a group, a keyword with what it combines,
or a pair unless its value is `NULL`. -/
def isLevel : Item → Bool
  | group _ _ | and _ _ _ | or _ _ _ | not _ _ => true
  | pair _ _ (.null _) => false
  | pair _ _ _ => true
  | _ => false

/-- All paths from the item have at most `n` levels. -/
def LevelsWithin (n : Nat) (item : Item) : Prop :=
  ∀ path, item.IsPath path → path.countP isLevel ≤ n

namespace LevelsWithin

variable {m n : Nat} {item : Item}

theorem mono (h : LevelsWithin m item) (hmn : m ≤ n) : LevelsWithin n item :=
  fun path hpath => Nat.le_trans (h path hpath) hmn

theorem of_children (h : item.isLevel = false) (hchildren : ∀ i ∈ item.children, LevelsWithin n i) :
    LevelsWithin n item := by
  intro path hpath
  cases hpath with
  | leaf => simp [h]
  | step hchild hpath =>
    rw [List.countP_cons, h]
    exact hchildren _ hchild _ hpath

theorem succ_of_children (hchildren : ∀ i ∈ item.children, LevelsWithin n i) :
    LevelsWithin (n + 1) item := by
  intro path hpath
  cases hpath with
  | leaf =>
    rw [List.countP_cons, List.countP_nil]
    split <;> omega
  | step hchild hpath =>
    have hle := hchildren _ hchild _ hpath
    rw [List.countP_cons]
    split <;> omega

theorem of_children_eq_nil (h : item.isLevel = false) (hchildren : item.children = []) :
    LevelsWithin n item :=
  of_children h (by simp [hchildren])

end LevelsWithin

/-! ## Values -/

variable {n : Nat} {item : Item} {items : List Item}

theorem IsName.levelsWithin (h : IsName item) : LevelsWithin n item := by
  cases h <;> exact .of_children_eq_nil rfl rfl

theorem IsPiece.levelsWithin (h : IsPiece item) : LevelsWithin n item := by
  cases h with
  | name h => exact h.levelsWithin
  | _ => exact .of_children_eq_nil rfl rfl

theorem IsPlain.levelsWithin (h : IsPlain item) : LevelsWithin n item := by
  cases h with
  | null => exact .of_children_eq_nil rfl rfl
  | piece h => exact h.levelsWithin
  | pattern hpieces _ _ => exact .of_children rfl fun piece h => (hpieces piece h).levelsWithin
  | pin h =>
    refine .of_children rfl ?_
    simpa [children] using h.levelsWithin

/-! ## Sequences -/

theorem IsNegated.levelsWithin {Term : Item → Prop} (hatom : ∀ i, Term i → IsAtom i)
    (h : IsNegated Term item) (hparts : ∀ i, .item i ∈ item.parts → LevelsWithin n i) :
    LevelsWithin (item.connectives + n) item := by
  induction h with
  | @term item h =>
    refine (hparts item ?_).mono (Nat.le_add_left _ _)
    rw [hatom item h]
    exact List.mem_singleton_self _
  | @not pos operand h ih =>
    have hoperand := ih fun i hi => hparts i (List.mem_cons_of_mem _ hi)
    rw [connectives, Nat.add_right_comm]
    refine .succ_of_children ?_
    simpa [children] using hoperand

/-- The items between the keywords have at most `n` levels, and there are no more keywords on a path
than in the sequence. -/
theorem IsSequence.levelsWithin_of_parts {Term : Item → Prop} (hatom : ∀ i, Term i → IsAtom i)
    (h : IsSequence Term items) (hparts : ∀ i, .item i ∈ partsAll items → LevelsWithin n i) :
    ∀ item ∈ items, LevelsWithin (connectivesAll items + n) item := by
  induction h with
  | nil => simp
  | @cons item items h _ ih =>
    have hitem := h.levelsWithin hatom fun i hi => hparts i (List.mem_append_left _ hi)
    have hitems := ih fun i hi => hparts i (List.mem_append_right _ hi)
    rw [connectivesAll, List.forall_mem_cons]
    exact ⟨hitem.mono (by omega), fun i hi => (hitems i hi).mono (by omega)⟩
  | @and pos left right h _ _ ih | @or pos left right h _ _ ih =>
    rw [partsAll, partsAll, List.append_nil, parts] at hparts
    have hleft := h.levelsWithin hatom fun i hi => hparts i (List.mem_append_left _ hi)
    have hright := ih fun i hi =>
      hparts i (List.mem_append_right _ (List.mem_cons_of_mem _ hi))
    rw [connectivesAll, connectives, connectivesAll, List.forall_mem_singleton]
    refine (LevelsWithin.succ_of_children (n := left.connectives + connectivesAll right + n) ?_).mono
      (by omega)
    rw [children, List.forall_mem_cons]
    exact ⟨hleft.mono (by omega), fun i hi => (hright i hi).mono (by omega)⟩

/-! ## Terms -/

theorem IsTerm.levelsWithin (h : IsTerm item) : LevelsWithin (item.nesting 0) item := by
  refine IsTerm.induct (motive := fun item => LevelsWithin (item.nesting 0) item)
    ?plain ?group ?pair ?compare ?range ?list h
  case plain => exact IsPlain.levelsWithin
  case group =>
    intro pos items h ih
    refine .succ_of_children ?_
    refine h.levelsWithin_of_parts (fun _ => IsTerm.isAtom) fun i hi => (ih i hi).mono ?_
    exact (nestingAll_le_iff 0 items).1 (Nat.le_refl _) i hi
  case pair =>
    intro pos key v hkey _ ih
    by_cases hnull : ∃ place, v = .null place
    · obtain ⟨place, rfl⟩ := hnull
      refine .of_children rfl ?_
      simpa [children] using ⟨hkey.levelsWithin, .of_children_eq_nil rfl rfl⟩
    · have hnesting : (Item.pair pos key v).nesting 0 = max (key.nesting 0) (v.nesting 0 + 1) := by
        cases v <;> first | rfl | exact absurd ⟨_, rfl⟩ hnull
      rw [hnesting]
      refine (LevelsWithin.succ_of_children (n := v.nesting 0) ?_).mono (Nat.le_max_right _ _)
      simpa [children] using ⟨hkey.levelsWithin, ih⟩
  case compare =>
    intro pos op operand _ ih
    rw [nesting]
    refine .of_children rfl ?_
    simpa [children] using ih
  case range =>
    intro pos start stop hstart hstop ih
    have hstart' : LevelsWithin (max (start.nesting 0) (stop.nesting 0)) start := by
      cases hstart with
      | «open» => exact .of_children_eq_nil rfl rfl
      | value h => exact h.plain.levelsWithin
    have hstop' : LevelsWithin (max (start.nesting 0) (stop.nesting 0)) stop := by
      cases hstop with
      | «open» => exact .of_children_eq_nil rfl rfl
      | value h => exact (ih h).mono (Nat.le_max_right _ _)
    refine .of_children rfl ?_
    simpa [children] using ⟨hstart', hstop'⟩
  case list =>
    intro pos first rest hfirst _ ih
    refine .of_children rfl ?_
    rw [children, List.forall_mem_cons]
    refine ⟨hfirst.levelsWithin, fun i hi => (ih i hi).mono ?_⟩
    exact nesting_le_nestingAll (List.mem_cons_of_mem _ hi)

/-- The paths of a sequence have no more levels than the sequence takes. -/
theorem IsSequence.levelsWithin (h : IsSequence IsTerm items) :
    ∀ item ∈ items, LevelsWithin (levels 0 items) item := by
  refine h.levelsWithin_of_parts (fun _ => IsTerm.isAtom) fun i hi => ?_
  have hterm := (h.forall_parts (fun _ => IsTerm.isAtom) i hi).levelsWithin
  exact hterm.mono ((nestingAll_le_iff 0 items).1 (Nat.le_refl _) i hi)

end SearchQuery.Item
