/-!
# Values by channel number

A finite map from channel numbers, kept as a list in ascending order of number. Two maps that
answer every look-up alike are equal, and whoever walks through a map meets the numbers in order.
-/
namespace CardChannels

structure ChannelMap (α : Type) where
  entries : List (UInt8 × α)
  ascending : entries.Pairwise (·.1 < ·.1)

namespace ChannelMap

variable {α : Type}

def empty : ChannelMap α := ⟨[], .nil⟩

instance : EmptyCollection (ChannelMap α) := ⟨empty⟩

private def lookup (k : UInt8) : List (UInt8 × α) → Option α
  | [] => none
  | (k', v) :: rest => if k = k' then some v else lookup k rest

/-- The value of a channel. -/
def get? (m : ChannelMap α) (k : UInt8) : Option α := lookup k m.entries

def contains (m : ChannelMap α) (k : UInt8) : Bool := (m.get? k).isSome

/-- The channels with a value, in ascending order. -/
def keys (m : ChannelMap α) : List UInt8 := m.entries.map (·.1)

/-- The values, in ascending order of channel. -/
def values (m : ChannelMap α) : List α := m.entries.map (·.2)

def size (m : ChannelMap α) : Nat := m.entries.length

/-- Whether some channel's value passes a test. -/
def any (m : ChannelMap α) (p : UInt8 → α → Bool) : Bool := m.entries.any fun (k, v) => p k v

private def put (k : UInt8) (v : α) : List (UInt8 × α) → List (UInt8 × α)
  | [] => [(k, v)]
  | (k', v') :: rest =>
    if k < k' then (k, v) :: (k', v') :: rest
    else if k = k' then (k, v) :: rest
    else (k', v') :: put k v rest

private theorem forall_put {P : UInt8 → Prop} {k : UInt8} {v : α} (hk : P k) :
    ∀ {l : List (UInt8 × α)}, (∀ e ∈ l, P e.1) → ∀ e ∈ put k v l, P e.1
  | [], _ => by simp [put, hk]
  | (k', v') :: rest, h => by
    have h' := List.forall_mem_cons.mp h
    unfold put
    split
    · exact List.forall_mem_cons.mpr ⟨hk, h⟩
    · split
      · exact List.forall_mem_cons.mpr ⟨hk, h'.2⟩
      · exact List.forall_mem_cons.mpr ⟨h'.1, forall_put hk h'.2⟩

private theorem put_ascending (k : UInt8) (v : α) :
    ∀ {l : List (UInt8 × α)}, l.Pairwise (·.1 < ·.1) → (put k v l).Pairwise (·.1 < ·.1)
  | [], _ => by simp [put]
  | (k', v') :: rest, h => by
    have h' := List.pairwise_cons.mp h
    unfold put
    split
    · rename_i hlt
      refine List.pairwise_cons.mpr ⟨fun e he => ?_, h⟩
      rcases List.mem_cons.mp he with rfl | he
      · exact hlt
      · exact UInt8.lt_trans hlt (h'.1 e he)
    · split
      · rename_i heq
        subst heq
        exact List.pairwise_cons.mpr h'
      · rename_i hlt hne
        refine List.pairwise_cons.mpr ⟨forall_put ?_ h'.1, put_ascending k v h'.2⟩
        exact UInt8.lt_of_le_of_ne (UInt8.not_lt.mp hlt) (Ne.symm hne)

/-- The map with a value for a channel, in place of one it may have had. -/
def insert (m : ChannelMap α) (k : UInt8) (v : α) : ChannelMap α :=
  ⟨put k v m.entries, put_ascending k v m.ascending⟩

/-- The map without a channel. -/
def erase (m : ChannelMap α) (k : UInt8) : ChannelMap α :=
  ⟨m.entries.filter (·.1 ≠ k), m.ascending.filter _⟩

/-- The map with every value replaced. -/
def map (m : ChannelMap α) (f : UInt8 → α → α) : ChannelMap α :=
  ⟨m.entries.map fun (k, v) => (k, f k v), by
    rw [List.pairwise_map]
    exact m.ascending⟩

/-- The map with one channel's value replaced, if it has one. -/
def modify (m : ChannelMap α) (k : UInt8) (f : α → α) : ChannelMap α :=
  m.map fun k' v => if k' = k then f v else v

private theorem lookup_put (k j : UInt8) (v : α) :
    ∀ {l : List (UInt8 × α)}, l.Pairwise (·.1 < ·.1) →
      lookup j (put k v l) = if j = k then some v else lookup j l
  | [], _ => by simp [put, lookup]
  | (k', v') :: rest, h => by
    have h' := List.pairwise_cons.mp h
    unfold put
    split
    · simp [lookup]
    · split
      · rename_i heq
        subst heq
        simp only [lookup]
        split <;> rfl
      · rename_i hne
        simp only [lookup]
        split
        · rename_i hj
          subst hj
          simp [Ne.symm hne]
        · exact lookup_put k j v h'.2

private theorem lookup_filter (k j : UInt8) :
    ∀ l : List (UInt8 × α),
      lookup j (l.filter (·.1 ≠ k)) = if j = k then none else lookup j l
  | [] => by simp [lookup]
  | (k', v') :: rest => by
    have ih := lookup_filter k j rest
    by_cases hk : k' = k
    · subst hk
      simp only [ne_eq, decide_not, List.filter_cons, decide_true, Bool.not_true,
        Bool.false_eq_true, if_false, lookup]
      simp only [ne_eq, decide_not] at ih
      rw [ih]
      split <;> simp_all
    · simp only [ne_eq, decide_not, List.filter_cons, decide_eq_false hk, Bool.not_false,
        if_true, lookup]
      simp only [ne_eq, decide_not] at ih
      rw [ih]
      split
      · rename_i hj
        subst hj
        simp [hk]
      · rfl

private theorem lookup_map (f : UInt8 → α → α) (j : UInt8) :
    ∀ l : List (UInt8 × α), lookup j (l.map fun (k, v) => (k, f k v)) = (lookup j l).map (f j)
  | [] => rfl
  | (k', v') :: rest => by
    simp only [List.map_cons, lookup]
    split
    · rename_i h
      subst h
      rfl
    · exact lookup_map f j rest

@[simp] theorem get?_empty (j : UInt8) : (∅ : ChannelMap α).get? j = none := rfl

@[simp] theorem get?_insert (m : ChannelMap α) (k j : UInt8) (v : α) :
    (m.insert k v).get? j = if j = k then some v else m.get? j :=
  lookup_put k j v m.ascending

@[simp] theorem get?_erase (m : ChannelMap α) (k j : UInt8) :
    (m.erase k).get? j = if j = k then none else m.get? j :=
  lookup_filter k j m.entries

@[simp] theorem get?_map (m : ChannelMap α) (f : UInt8 → α → α) (j : UInt8) :
    (m.map f).get? j = (m.get? j).map (f j) :=
  lookup_map f j m.entries

@[simp] theorem get?_modify (m : ChannelMap α) (k j : UInt8) (f : α → α) :
    (m.modify k f).get? j = if j = k then (m.get? j).map f else m.get? j := by
  simp only [modify, get?_map]
  split <;> simp

private theorem lookup_eq_some {j : UInt8} {v : α} :
    ∀ {l : List (UInt8 × α)}, l.Pairwise (·.1 < ·.1) → (lookup j l = some v ↔ (j, v) ∈ l)
  | [], _ => by simp [lookup]
  | (k', v') :: rest, h => by
    have h' := List.pairwise_cons.mp h
    simp only [lookup, List.mem_cons, Prod.mk.injEq]
    split
    · rename_i hj
      subst hj
      constructor
      · intro hv
        exact .inl ⟨rfl, (Option.some.inj hv).symm⟩
      · rintro (⟨-, rfl⟩ | hm)
        · rfl
        · exact absurd (h'.1 _ hm) (UInt8.lt_irrefl _)
    · rename_i hj
      simp [hj, lookup_eq_some h'.2]

theorem get?_eq_some_iff {m : ChannelMap α} {j : UInt8} {v : α} :
    m.get? j = some v ↔ (j, v) ∈ m.entries :=
  lookup_eq_some m.ascending

private theorem entries_eq {l l' : List (UInt8 × α)} (h : l.Pairwise (·.1 < ·.1))
    (h' : l'.Pairwise (·.1 < ·.1)) (hm : ∀ e, e ∈ l ↔ e ∈ l') : l = l' := by
  induction l generalizing l' with
  | nil =>
    cases l' with
    | nil => rfl
    | cons e r => exact absurd ((hm e).mpr (List.mem_cons_self ..)) (by simp)
  | cons a r ih =>
    cases l' with
    | nil => exact absurd ((hm a).mp (List.mem_cons_self ..)) (by simp)
    | cons b s =>
      have ha := List.pairwise_cons.mp h
      have hb := List.pairwise_cons.mp h'
      have hab : a = b := by
        rcases List.mem_cons.mp ((hm a).mp (List.mem_cons_self ..)) with rfl | has
        · rfl
        · rcases List.mem_cons.mp ((hm b).mpr (List.mem_cons_self ..)) with rfl | hbr
          · rfl
          · exact absurd (UInt8.lt_trans (hb.1 a has) (ha.1 b hbr)) (UInt8.lt_irrefl _)
      subst hab
      refine congrArg _ (ih ha.2 hb.2 fun e => ?_)
      have he := hm e
      simp only [List.mem_cons] at he
      constructor
      · intro her
        rcases he.mp (.inr her) with rfl | hes
        · exact absurd (ha.1 e her) (UInt8.lt_irrefl _)
        · exact hes
      · intro hes
        rcases he.mpr (.inr hes) with rfl | her
        · exact absurd (hb.1 e hes) (UInt8.lt_irrefl _)
        · exact her

theorem eq_of_get?_eq {m m' : ChannelMap α} (h : ∀ j, m.get? j = m'.get? j) : m = m' := by
  have he : m.entries = m'.entries := entries_eq m.ascending m'.ascending fun (j, v) => by
    rw [← get?_eq_some_iff, ← get?_eq_some_iff, h]
  cases m
  cases m'
  simp_all

theorem erase_of_none {m : ChannelMap α} {k : UInt8} (h : m.get? k = none) : m.erase k = m := by
  apply eq_of_get?_eq
  intro j
  rw [get?_erase]
  split
  · rename_i hj
    rw [hj, h]
  · rfl

theorem any_eq_true_iff {m : ChannelMap α} {p : UInt8 → α → Bool} :
    m.any p = true ↔ ∃ k v, m.get? k = some v ∧ p k v = true := by
  simp only [any, List.any_eq_true, Prod.exists, get?_eq_some_iff]

theorem mem_values_iff {m : ChannelMap α} {v : α} :
    v ∈ m.values ↔ ∃ k, m.get? k = some v := by
  simp only [values, List.mem_map, Prod.exists, exists_eq_right, get?_eq_some_iff]

theorem nodup_keys (m : ChannelMap α) : m.keys.Nodup := by
  rw [keys, List.Nodup, List.pairwise_map]
  exact m.ascending.imp fun h => UInt8.ne_of_lt h

end ChannelMap

end CardChannels
