import Mathlib.Data.List.Basic
import ImportPolicy.Source.Tree

/-!
# Visiting a tree

A subtree can occur in a tree more than once, so "every node of the tree" is
said with *routes*: a route is a row of child numbers, and leads from the root
to at most one subtree (`Tree.at?`). Two nodes are the same if their routes
are.

`Tree.preorder` lists subtrees and forgets where they are. `Tree.visit` is the
same list with the routes (`map_visit`). It has every route of the tree
(`mem_visit`), and has them in lexicographic order (`pairwise_visit`), which
is the order of a visit: a node comes before what is below it, and what is
below one child comes before what is below the next. Since the order is
strict, no node is visited twice.

The last section is about sorting. A stable sort of a row in one order leaves
it in that order as far as the sort does not decide.
-/

namespace ImportPolicy.Source.Tree

/-- The subtree that a route of child numbers leads to. -/
def at? : Tree → List Nat → Option Tree
  | t, [] => some t
  | t, i :: route => t.children[i]?.bind (·.at? route)

mutual

/-- Every subtree with its route, a tree before its children and the children
in order. -/
def visit : Tree → List (List Nat × Tree)
  | node label span children => ([], node label span children) :: visitFrom 0 children

/-- Every subtree of some children with its route, when the first of them has
the given number. -/
def visitFrom (number : Nat) : List Tree → List (List Nat × Tree)
  | [] => []
  | t :: more => t.visit.map (fun (route, s) => (number :: route, s)) ++ visitFrom (number + 1) more

end

mutual

/-- A visit meets the subtrees in preorder. -/
theorem map_visit : ∀ t : Tree, t.visit.map Prod.snd = t.preorder
  | node label span children => by
    rw [visit, preorder, List.map_cons, map_visitFrom 0 children]

theorem map_visitFrom (number : Nat) : ∀ ts : List Tree,
    (visitFrom number ts).map Prod.snd = preorderAll ts
  | [] => rfl
  | t :: more => by
    rw [visitFrom, preorderAll, List.map_append, List.map_map, map_visitFrom (number + 1) more,
      ← map_visit t]
    rfl

end

mutual

/-- A visit meets exactly what the routes of the tree lead to. -/
theorem mem_visit {route : List Nat} {s : Tree} :
    ∀ t : Tree, (route, s) ∈ t.visit ↔ t.at? route = some s
  | node label span children => by
    rw [visit, List.mem_cons, mem_visitFrom children]
    cases route with
    | nil => simp [at?, eq_comm]
    | cons i rest => simp [at?, Tree.children, Option.bind_eq_some_iff]

theorem mem_visitFrom {number : Nat} {route : List Nat} {s : Tree} : ∀ ts : List Tree,
    (route, s) ∈ visitFrom number ts
      ↔ ∃ k rest t, route = (number + k) :: rest ∧ ts[k]? = some t ∧ t.at? rest = some s
  | [] => by simp [visitFrom]
  | t :: more => by
    rw [visitFrom, List.mem_append, mem_visitFrom more]
    constructor
    · rintro (hfirst | ⟨k, rest, u, rfl, hu, hs⟩)
      · obtain ⟨⟨rest, u⟩, hu, heq⟩ := List.mem_map.mp hfirst
        cases heq
        exact ⟨0, rest, t, rfl, rfl, (mem_visit t).mp hu⟩
      · exact ⟨k + 1, rest, u, by rw [Nat.add_assoc, Nat.add_comm 1 k], hu, hs⟩
    · rintro ⟨k, rest, u, rfl, hu, hs⟩
      cases k with
      | zero =>
        cases hu
        exact .inl (List.mem_map.mpr ⟨(rest, s), (mem_visit t).mpr hs, rfl⟩)
      | succ k => exact .inr ⟨k, rest, u, by rw [Nat.add_assoc, Nat.add_comm 1 k], hu, hs⟩

end

mutual

/-- A visit goes through the routes in lexicographic order, and so meets none
of them twice. -/
theorem pairwise_visit : ∀ t : Tree, t.visit.Pairwise fun a b => a.1 < b.1
  | node label span children => by
    rw [visit, List.pairwise_cons]
    refine ⟨?_, pairwise_visitFrom 0 children⟩
    rintro ⟨route, s⟩ hs
    obtain ⟨k, rest, t, rfl, -⟩ := (mem_visitFrom children).mp hs
    exact List.nil_lt_cons _ _

theorem pairwise_visitFrom (number : Nat) : ∀ ts : List Tree,
    (visitFrom number ts).Pairwise fun a b => a.1 < b.1
  | [] => List.Pairwise.nil
  | t :: more => by
    rw [visitFrom, List.pairwise_append, List.pairwise_map]
    refine ⟨?_, pairwise_visitFrom (number + 1) more, ?_⟩
    · exact (pairwise_visit t).imp fun hlt => List.cons_lt_cons_iff.mpr (.inr ⟨rfl, hlt⟩)
    · -- the first child's number is below those of all that follow
      rintro ⟨first, u⟩ hfirst ⟨later, v⟩ hlater
      obtain ⟨⟨route, w⟩, -, heq⟩ := List.mem_map.mp hfirst
      cases heq
      obtain ⟨k, rest, w, rfl, -⟩ := (mem_visitFrom more).mp hlater
      exact List.cons_lt_cons_iff.mpr (.inl (by omega))

end

/-! ## Stable sorting -/

/-- A stable sort keeps the order that a row has wherever it puts two items
neither way. -/
theorem pairwise_mergeSort_of_pairwise {α : Type} {le : α → α → Bool} {R : α → α → Prop}
    (trans : ∀ a b c, le a b = true → le b c = true → le a c = true)
    (total : ∀ a b, (le a b || le b a) = true) {items : List α} (h : items.Pairwise R) :
    (items.mergeSort le).Pairwise fun a b => le a b = true ∧ (le b a = true → R a b) := by
  -- the sort of the numbered items decides by their numbers what it does not decide itself
  rw [← List.mergeSort_zipIdx, List.pairwise_map]
  have hsorted := List.pairwise_mergeSort (List.zipIdxLE_trans trans) (List.zipIdxLE_total total)
    items.zipIdx
  have hnumbers : (items.zipIdx.mergeSort (List.zipIdxLE le)).Pairwise fun a b => a.2 ≠ b.2 := by
    rw [← List.pairwise_map (f := Prod.snd) (R := (· ≠ ·))]
    refine ((List.mergeSort_perm _ _).map Prod.snd).nodup_iff.mpr ?_
    rw [List.zipIdx_map_snd]
    exact List.nodup_range'
  refine (hsorted.and hnumbers).imp_of_mem ?_
  rintro ⟨a, i⟩ ⟨b, j⟩ ha hb ⟨hle, hne⟩
  have hitem : items[i]? = some a := List.mem_zipIdx_iff_getElem?.mp (List.mem_mergeSort.mp ha)
  have hother : items[j]? = some b := List.mem_zipIdx_iff_getElem?.mp (List.mem_mergeSort.mp hb)
  obtain ⟨hi, rfl⟩ := List.getElem?_eq_some_iff.mp hitem
  obtain ⟨hj, rfl⟩ := List.getElem?_eq_some_iff.mp hother
  unfold List.zipIdxLE at hle
  split at hle
  · rename_i hab
    refine ⟨hab, fun hba => ?_⟩
    rw [if_pos hba, decide_eq_true_iff] at hle
    exact List.pairwise_iff_getElem.mp h i j hi hj (Nat.lt_of_le_of_ne hle hne)
  · cases hle

end ImportPolicy.Source.Tree
