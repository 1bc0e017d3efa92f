import Mathlib.Data.List.Rotate

/-!
# The parity of a closed walk

A closed walk goes through the elements of a list and back to the first one. Each of its steps
counts or does not count, and the parity is that of the steps that count.

Results:
* `cycleParity_rotate`, `cycleParity_reverse`, `cycleParity_close`: other lists for the same
  walk.
* `cycleParity_map`: the walk through the images.
* `cycleParity_split`: a walk that is cut in two by a step.
-/

namespace AppliverySoar.Lists

open List

variable {α β : Type} (counts : α → α → Bool)

/-- The parity of the walk from an element through those of a list. -/
def pathParity (j : α) : List α → Bool
  | [] => false
  | i :: l => counts i j != pathParity i l

/-- The parity of the closed walk through a list. -/
def cycleParity (l : List α) : Bool :=
  match l.getLast? with
  | none => false
  | some last => pathParity counts last l

variable {counts} {a b l : List α} {j u v w : α}

theorem pathParity_cons (j i : α) (l : List α) :
    pathParity counts j (i :: l) = (counts i j != pathParity counts i l) := rfl

theorem pathParity_singleton (j i : α) : pathParity counts j [i] = counts i j :=
  Bool.bne_false _

theorem pathParity_append (j w : α) (l l' : List α) :
    pathParity counts j (l ++ w :: l') =
      (pathParity counts j (l ++ [w]) != pathParity counts w l') := by
  induction l generalizing j with
  | nil => simp only [nil_append, pathParity, Bool.bne_false]
  | cons i l ih => simp only [cons_append, pathParity, ih, Bool.bne_assoc]

theorem cycleParity_concat (l : List α) (w : α) :
    cycleParity counts (l ++ [w]) = pathParity counts w (l ++ [w]) := by
  rw [cycleParity, getLast?_concat]

theorem cycleParity_cons (v : α) (l : List α) :
    cycleParity counts (v :: l) = pathParity counts v (l ++ [v]) := by
  rcases eq_nil_or_concat l with rfl | ⟨l, w, rfl⟩
  · rfl
  · rw [concat_eq_append, ← cons_append, cycleParity_concat, cons_append,
      pathParity_cons, append_assoc, singleton_append, pathParity_append v w l [v],
      pathParity_singleton, bne_comm]

theorem cycleParity_append_comm (a b : List α) :
    cycleParity counts (a ++ b) = cycleParity counts (b ++ a) := by
  have hends : ∀ (a b : List α) (u w : α), cycleParity counts (a ++ [u] ++ (b ++ [w])) =
      (pathParity counts w (a ++ [u]) != pathParity counts u (b ++ [w])) := by
    intro a b u w
    rw [← append_assoc, cycleParity_concat, append_assoc, append_assoc,
      singleton_append]
    exact pathParity_append w u a (b ++ [w])
  rcases eq_nil_or_concat a with rfl | ⟨a, u, rfl⟩
  · rw [append_nil, nil_append]
  rcases eq_nil_or_concat b with rfl | ⟨b, w, rfl⟩
  · rw [append_nil, nil_append]
  · rw [concat_eq_append, concat_eq_append, hends, hends, bne_comm]

/-- **The first element** does not matter. -/
theorem cycleParity_rotate (l : List α) (n : ℕ) :
    cycleParity counts (l.rotate n) = cycleParity counts l := by
  rw [rotate_eq_drop_append_take_mod, cycleParity_append_comm, take_append_drop]

theorem pathParity_reverse (hsymm : ∀ i j, counts i j = counts j i) (j w : α) (l : List α) :
    pathParity counts j (l ++ [w]) = pathParity counts w (l.reverse ++ [j]) := by
  induction l generalizing j with
  | nil => simp only [nil_append, reverse_nil, pathParity, hsymm j w]
  | cons i l ih =>
    rw [cons_append, pathParity_cons, ih, reverse_cons, append_assoc,
      singleton_append, pathParity_append w i l.reverse [j], pathParity_singleton, hsymm i j,
      bne_comm]

/-- **The direction** does not matter. -/
theorem cycleParity_reverse (hsymm : ∀ i j, counts i j = counts j i) (l : List α) :
    cycleParity counts l.reverse = cycleParity counts l := by
  cases l with
  | nil => rfl
  | cons v l =>
    rw [reverse_cons, cycleParity_concat, cycleParity_cons, ← pathParity_reverse hsymm]

/-- **The first element again** at the end does not count. -/
theorem cycleParity_close (hself : ∀ i, counts i i = false) (v : α) (l : List α) :
    cycleParity counts (v :: l ++ [v]) = cycleParity counts (v :: l) := by
  rw [cycleParity_concat, cycleParity_cons, cons_append, pathParity_cons, hself, Bool.false_bne]

theorem cycleParity_map {counts' : β → β → Bool} {f : α → β}
    (h : ∀ i j, counts' (f i) (f j) = counts i j) (l : List α) :
    cycleParity counts' (l.map f) = cycleParity counts l := by
  have hpath : ∀ (l : List α) (j : α),
      pathParity counts' (f j) (l.map f) = pathParity counts j l := by
    intro l
    induction l with
    | nil => exact fun _ => rfl
    | cons i l ih =>
      intro j
      rw [map_cons, pathParity_cons, pathParity_cons, h, ih]
  cases l with
  | nil => rfl
  | cons v l =>
    rw [map_cons, cycleParity_cons, cycleParity_cons, ← hpath, map_append,
      map_singleton]

/-- **A walk cut in two** by a step between `u` and `w`, which both parts make. -/
theorem cycleParity_split (hsymm : ∀ i j, counts i j = counts j i) (a b c : List α) (u w : α) :
    cycleParity counts (a ++ u :: b ++ w :: c) =
      (cycleParity counts (u :: b ++ [w]) != cycleParity counts (a ++ u :: w :: c)) := by
  -- both walks that go on behind `u` are begun there
  have hwhole : cycleParity counts (a ++ u :: b ++ w :: c) =
      (pathParity counts u (b ++ [w]) != pathParity counts w (c ++ a ++ [u])) := by
    rw [append_assoc, cycleParity_append_comm, cons_append, cons_append,
      cycleParity_cons, append_assoc, append_assoc, cons_append, pathParity_append,
      append_assoc]
  have hpart : cycleParity counts (a ++ u :: w :: c) =
      (counts w u != pathParity counts w (c ++ a ++ [u])) := by
    rw [cycleParity_append_comm, cons_append, cycleParity_cons, cons_append,
      cons_append, pathParity_cons]
  have hcut : cycleParity counts (u :: b ++ [w]) =
      (counts w u != pathParity counts u (b ++ [w])) := by
    rw [cycleParity_concat, cons_append, pathParity_cons, hsymm u w]
  rw [hwhole, hpart, hcut]
  cases counts w u <;> cases pathParity counts u (b ++ [w]) <;>
    cases pathParity counts w (c ++ a ++ [u]) <;> rfl

end AppliverySoar.Lists
