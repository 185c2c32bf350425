import Oval.Diagnostic

/-! # What a limit leaves of diagnostics

A context that is finished takes its record out one by one, and counts what is beyond the limit.
That comes to cutting the record off at the limit and putting a summary behind it.
-/
namespace Oval.Context

/-- The first `limit` diagnostics; if there are more, a summary follows them. -/
def cut (limit : Nat) (ds : List Diagnostic) : List Diagnostic :=
  let kept := ds.take limit
  if ds.length ≤ limit then kept else kept ++ [summary limit (ds.length - limit) kept]

theorem cut_eq (limit : Nat) (ds : List Diagnostic) :
    cut limit ds = if ds.length ≤ limit then ds else
      ds.take limit ++ [summary limit (ds.length - limit) (ds.take limit)] := by
  rw [cut]
  split
  · rename_i hle
    exact List.take_of_length_le hle
  · rfl

variable {limit : Nat} {ds : List Diagnostic}

theorem cut_of_le (h : ds.length ≤ limit) : cut limit ds = ds := by
  rw [cut_eq, if_pos h]

theorem cut_of_lt (h : limit < ds.length) : cut limit ds =
    ds.take limit ++ [summary limit (ds.length - limit) (ds.take limit)] := by
  rw [cut_eq, if_neg (Nat.not_le.mpr h)]

theorem length_cut (limit : Nat) (ds : List Diagnostic) :
    (cut limit ds).length = min ds.length (limit + 1) := by
  by_cases hle : ds.length ≤ limit
  · rw [cut_of_le hle]
    omega
  · rw [cut_of_lt (Nat.not_le.mp hle), List.length_append, List.length_take, List.length_singleton]
    omega

/-- A cut that leaves no more than the limit leaves everything. -/
theorem cut_eq_of_length_le (h : (cut limit ds).length ≤ limit) : cut limit ds = ds := by
  rw [length_cut] at h
  exact cut_of_le (by omega)

theorem length_cut_eq_of_perm (limit : Nat) {ds' : List Diagnostic} (h : ds.Perm ds') :
    (cut limit ds).length = (cut limit ds').length := by
  rw [length_cut, length_cut, h.length_eq]

theorem cut_perm {ds' : List Diagnostic} (h : ds.Perm ds')
    (hwhole : (cut limit ds).length ≤ limit) : (cut limit ds).Perm (cut limit ds') := by
  have hwhole' : (cut limit ds').length ≤ limit := by
    rw [← length_cut_eq_of_perm limit h]
    exact hwhole
  rw [cut_eq_of_length_le hwhole, cut_eq_of_length_le hwhole']
  exact h

/-- Draining keeps the first diagnostics, up to the limit, and counts the others. -/
theorem drain_eq (queue kept : List Diagnostic) (h : kept.length ≤ limit)
    (dropped : Nat) :
    drain limit queue kept dropped =
      ((kept ++ queue).take limit, dropped + ((kept ++ queue).length - limit)) := by
  induction queue generalizing kept dropped with
  | nil =>
    rw [drain, List.append_nil, List.take_of_length_le h, Nat.sub_eq_zero_of_le h, Nat.add_zero]
  | cons d r ih =>
    rw [drain]
    split
    · rename_i hlt
      have hkept : (kept ++ [d]).length ≤ limit := by
        rw [List.length_append, List.length_singleton]
        exact hlt
      rw [ih _ hkept, List.append_assoc, List.singleton_append]
    · rename_i hfull
      obtain rfl : kept.length = limit := Nat.le_antisymm h (Nat.not_lt.mp hfull)
      rw [ih kept h, List.take_left, List.take_left, List.length_append, List.length_append,
        List.length_cons]
      congr 1
      omega

/-- Finishing a context cuts its record off. -/
theorem finish_eq_cut (limit : Nat) (c : Context) : c.finish limit = cut limit c.recorded := by
  have hdrain := drain_eq c.recorded [] (Nat.zero_le limit) 0
  rw [List.nil_append, Nat.zero_add] at hdrain
  rw [finish, hdrain, cut]
  by_cases hle : c.recorded.length ≤ limit
  · simp [hle]
  · have hlt : 0 < c.recorded.length - limit := by omega
    simp [hle, hlt]

end Oval.Context
