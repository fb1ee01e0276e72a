import Formula.Token

/-!
# Matching brackets

Tokens of two kinds as brackets among the others.

- `Kind.Matched`: no bracket is closed before it is opened, and in the end none is open.
- `Kind.Matched.enclose`: brackets around matching brackets match.
- `Kind.Matched.eq_of_append_cons`: where an open bracket is closed is decided by what follows it.
-/

namespace Formula.Kind

/-- No bracket of kind `o` is closed by one of kind `c` before it is opened, and in the end none is open. -/
def Matched (o c : Kind) (ks : List Kind) : Prop :=
  (∀ us vs, ks = us ++ vs → us.count c ≤ us.count o) ∧ ks.count c = ks.count o

variable {o c k : Kind} {ks ks' : List Kind}

theorem matched_nil (o c : Kind) : Matched o c [] := by
  refine ⟨fun us vs h => ?_, rfl⟩
  rw [(List.append_eq_nil_iff.mp h.symm).1]
  exact Nat.le_refl _

theorem matched_singleton (hk : k ≠ o) (hk' : k ≠ c) : Matched o c [k] := by
  have hnone : ∀ us : List Kind, (∀ u ∈ us, u = k) → us.count c = 0 := fun us hus =>
    List.count_eq_zero.mpr fun hmem => hk' (hus _ hmem).symm
  refine ⟨fun us vs h => ?_, by rw [List.count_singleton, List.count_singleton]; simp [hk, hk']⟩
  rw [hnone us fun u hu => List.mem_singleton.mp (h ▸ List.mem_append_left vs hu)]
  exact Nat.zero_le _

/-- A closing bracket is one more than there are, -/
theorem count_closed (hoc : o ≠ c) (ks : List Kind) :
    (ks ++ [c]).count c = ks.count c + 1 ∧ (ks ++ [c]).count o = ks.count o := by
  have hself : [c].count c = 1 := List.count_singleton_self
  have hother : [c].count o = 0 := List.count_eq_zero.mpr fun hmem => hoc (List.mem_singleton.mp hmem)
  rw [List.count_append, List.count_append, hself, hother]
  exact ⟨rfl, rfl⟩

/-- and so is an opening one. -/
theorem count_opened (hoc : o ≠ c) (ks : List Kind) :
    (o :: ks).count c = ks.count c ∧ (o :: ks).count o = ks.count o + 1 :=
  ⟨List.count_cons_of_ne hoc, List.count_cons_self⟩

namespace Matched

theorem append (h : Matched o c ks) (h' : Matched o c ks') : Matched o c (ks ++ ks') := by
  obtain ⟨hlow, heq⟩ := h
  obtain ⟨hlow', heq'⟩ := h'
  refine ⟨fun us vs hus => ?_, by rw [List.count_append, List.count_append, heq, heq']⟩
  rcases List.append_eq_append_iff.mp hus with ⟨mid, rfl, hmid⟩ | ⟨mid, hmid, -⟩
  · have hle := hlow' mid vs hmid
    rw [List.count_append, List.count_append]
    omega
  · exact hlow us mid hmid

theorem cons (h : Matched o c ks) (hk : k ≠ o) (hk' : k ≠ c) : Matched o c (k :: ks) :=
  (matched_singleton hk hk').append h

/-- In front of one more closing bracket, all that are closed were opened. -/
theorem count_le (h : Matched o c ks) {us vs : List Kind} (hvs : vs ≠ []) (heq : ks ++ [c] = us ++ vs) :
    us.count c ≤ us.count o := by
  rcases List.append_eq_append_iff.mp heq with ⟨mid, rfl, hmid⟩ | ⟨mid, hmid, -⟩
  · rcases List.singleton_eq_append_iff.mp hmid with ⟨rfl, -⟩ | ⟨-, rfl⟩
    · rw [List.append_nil]
      exact Nat.le_of_eq h.2
    · exact absurd rfl hvs
  · exact h.1 us mid hmid

/-- Brackets around matching brackets match. -/
theorem enclose (h : Matched o c ks) (hoc : o ≠ c) : Matched o c (o :: (ks ++ [c])) := by
  have hopen := count_opened hoc
  have hclose := count_closed hoc ks
  have hall : (o :: (ks ++ [c])).count c = (o :: (ks ++ [c])).count o := by
    rw [(hopen _).1, (hopen _).2, hclose.1, hclose.2, h.2]
  refine ⟨fun us vs hus => ?_, hall⟩
  cases us with
  | nil => exact Nat.le_refl _
  | cons u us =>
    obtain ⟨rfl, heq⟩ := List.cons.inj hus
    by_cases hvs : vs = []
    · subst hvs
      have hfull : ks ++ [c] = us := heq.trans (List.append_nil us)
      exact Nat.le_of_eq (hfull ▸ hall)
    · have hle := h.count_le hvs heq
      rw [(hopen _).1, (hopen _).2]
      omega

/-- Matching brackets hold no closing bracket that none of them opened. -/
theorem not_append_cons (hoc : o ≠ c) (h : Matched o c ks) : ¬ Matched o c (ks ++ c :: ks') := by
  intro h'
  have hlow := h'.1 (ks ++ [c]) ks' (by rw [List.append_assoc, List.singleton_append])
  have heq := h.2
  obtain ⟨hc, ho⟩ := count_closed hoc ks
  omega

end Matched

/-- Where an open bracket is closed is decided by what follows it. -/
theorem Matched.eq_of_append_cons {α : Type} {f : α → Kind} {as as' bs bs' : List α} {a a' : α} (hoc : o ≠ c)
    (h : Matched o c (as.map f)) (h' : Matched o c (as'.map f)) (ha : f a = c) (ha' : f a' = c)
    (heq : as ++ a :: bs = as' ++ a' :: bs') : as = as' ∧ a = a' ∧ bs = bs' := by
  rcases List.append_eq_append_iff.mp heq with ⟨mid, rfl, hmid⟩ | ⟨mid, rfl, hmid⟩
  · cases mid with
    | nil =>
      obtain ⟨rfl, rfl⟩ := List.cons.inj hmid
      simp
    | cons m mid =>
      obtain ⟨rfl, -⟩ := List.cons.inj hmid
      rw [List.map_append, List.map_cons, ha] at h'
      exact absurd h' (h.not_append_cons hoc)
  · cases mid with
    | nil =>
      obtain ⟨rfl, rfl⟩ := List.cons.inj hmid
      simp
    | cons m mid =>
      obtain ⟨rfl, -⟩ := List.cons.inj hmid
      rw [List.map_append, List.map_cons, ha'] at h
      exact absurd h (h'.not_append_cons hoc)

end Formula.Kind
