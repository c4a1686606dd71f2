/-! # Lists without repetitions

`distinct` keeps the first occurrence of every member.
-/

namespace Grouping

variable {α : Type} [DecidableEq α]

def distinct : List α → List α
  | [] => []
  | a :: r => a :: (distinct r).filter (· ≠ a)

theorem mem_distinct {a : α} {l : List α} : a ∈ distinct l ↔ a ∈ l := by
  induction l with
  | nil => exact Iff.rfl
  | cons b r ih =>
    rw [distinct, List.mem_cons, List.mem_cons, List.mem_filter, ih, decide_eq_true_eq]
    by_cases h : a = b
    · exact ⟨fun _ => .inl h, fun _ => .inl h⟩
    · exact or_congr_right ⟨And.left, fun hr => ⟨hr, h⟩⟩

theorem nodup_distinct (l : List α) : (distinct l).Nodup := by
  induction l with
  | nil => exact List.nodup_nil
  | cons b r ih =>
    rw [distinct]
    refine List.nodup_cons.mpr ⟨fun h => ?_, ih.filter _⟩
    exact of_decide_eq_true (List.mem_filter.mp h).2 rfl

/-- The members stand in the order of their first occurrences. -/
theorem pairwise_idxOf_distinct (l : List α) :
    (distinct l).Pairwise fun a b => l.idxOf a < l.idxOf b := by
  induction l with
  | nil => exact List.Pairwise.nil
  | cons a r ih =>
    have hlater : ∀ b ∈ (distinct r).filter (· ≠ a), (a :: r).idxOf b = r.idxOf b + 1 := by
      intro b hb
      have hne : b ≠ a := of_decide_eq_true (List.mem_filter.mp hb).2
      rw [List.idxOf_cons, beq_false_of_ne hne.symm, cond_false]
    rw [distinct]
    refine List.pairwise_cons.mpr ⟨fun b hb => ?_, (ih.filter _).imp_of_mem fun hb hc hlt => ?_⟩
    · simp [hlater b hb]
    · rw [hlater _ hb, hlater _ hc]
      exact Nat.succ_lt_succ hlt

theorem distinct_append (l l' : List α) :
    distinct (l ++ l') = distinct l ++ (distinct l').filter (· ∉ l) := by
  induction l with
  | nil => exact (List.filter_eq_self.mpr fun _ _ => decide_eq_true List.not_mem_nil).symm
  | cons a r ih =>
    have hne : ((distinct l').filter (· ∉ r)).filter (· ≠ a) = (distinct l').filter (· ∉ a :: r) := by
      rw [List.filter_filter]
      refine List.filter_congr fun b _ => ?_
      simp [not_or]
    rw [List.cons_append, distinct, ih, List.filter_append, hne]
    rfl

theorem distinct_append_of_subset {l l' : List α} (h : l' ⊆ l) : distinct (l ++ l') = distinct l := by
  rw [distinct_append, List.filter_eq_nil_iff.mpr, List.append_nil]
  intro a ha
  simpa using h (mem_distinct.mp ha)

end Grouping
