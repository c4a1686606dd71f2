/-! # Ascending lists as finite sets

A finite set is listed in ascending order, each member once.
-/

namespace Grouping.Ascending

variable {α : Type} [DecidableEq α] [LT α] [DecidableLT α]

def insert (a : α) : List α → List α
  | [] => [a]
  | b :: r => if a = b then b :: r else if a < b then a :: b :: r else b :: insert a r

def ofList (l : List α) : List α := l.foldr insert []

theorem mem_insert {a x : α} {l : List α} : x ∈ insert a l ↔ x = a ∨ x ∈ l := by
  induction l with
  | nil => simp [insert]
  | cons b r ih =>
    rw [insert]
    split
    · next h =>
      subst h
      simp
    · split
      · exact List.mem_cons
      · rw [List.mem_cons, ih, List.mem_cons]
        exact or_left_comm

theorem mem_ofList {x : α} {l : List α} : x ∈ ofList l ↔ x ∈ l := by
  induction l with
  | nil => exact Iff.rfl
  | cons a r ih =>
    rw [show ofList (a :: r) = insert a (ofList r) from rfl, mem_insert, ih, List.mem_cons]

section Order

variable [Trans (α := α) (· < ·) (· < ·) (· < ·)] [Std.Trichotomous (α := α) (· < ·)]

theorem pairwise_insert {a : α} {l : List α} (h : l.Pairwise (· < ·)) :
    (insert a l).Pairwise (· < ·) := by
  induction l with
  | nil => exact List.pairwise_singleton _ a
  | cons b r ih =>
    obtain ⟨hb, hr⟩ := List.pairwise_cons.mp h
    rw [insert]
    split
    · exact h
    · next hne =>
      split
      · next hlt =>
        refine List.pairwise_cons.mpr ⟨?_, h⟩
        intro x hx
        rcases List.mem_cons.mp hx with rfl | hx
        · exact hlt
        · exact Trans.trans hlt (hb x hx)
      · next hlt =>
        refine List.pairwise_cons.mpr ⟨?_, ih hr⟩
        intro x hx
        rcases mem_insert.mp hx with rfl | hx
        · exact Decidable.byContradiction fun h => hne (Std.Trichotomous.trichotomous _ _ hlt h)
        · exact hb x hx

theorem pairwise_ofList (l : List α) : (ofList l).Pairwise (· < ·) := by
  induction l with
  | nil => exact List.Pairwise.nil
  | cons a r ih => exact pairwise_insert ih

end Order

end Grouping.Ascending
