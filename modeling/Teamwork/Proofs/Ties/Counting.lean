import Teamwork.Ties

/-!
# Ties count interactions

A table of ties is determined by which ids have a row and by the weight between any two ids
(`Ties.ext`). Both are worked out here for one more interaction and, by induction on the log, for a
replay: the weight between two employees is the number of interactions that join them, as a 32-bit
word, and there is no entry where that number is zero.

Weights are words, so they wrap. Nothing here needs a log to be short; a bound on its length is
only needed to say that a weight *is* the number.

## Main definitions

* `Interaction.joins` — who is joined by an interaction.
* `Ties.tally` — a number of interactions as the entry of a row.

## Main results

* `Ties.weight?_join`, `Ties.mem_join` — one more interaction.
* `Ties.weight?_replay`, `Ties.mem_replay` — a whole log.
-/

namespace Teamwork

/-- The interaction is between these two employees, whoever is named first. -/
def Interaction.joins (i : Interaction) (a b : String) : Bool :=
  i.employeeA = a ∧ i.employeeB = b ∨ i.employeeA = b ∧ i.employeeB = a

theorem Interaction.joins_iff {i : Interaction} {a b : String} :
    i.joins a b = true ↔
      i.employeeA = a ∧ i.employeeB = b ∨ i.employeeA = b ∧ i.employeeB = a := by
  simp [joins]

theorem Interaction.joins_comm (i : Interaction) (a b : String) : i.joins a b = i.joins b a := by
  rw [Bool.eq_iff_iff, joins_iff, joins_iff, or_comm]

/-- An interaction is with oneself just if those that it joins are one employee. -/
theorem Interaction.ne_iff_of_joins {i : Interaction} {a b : String} (h : i.joins a b = true) :
    i.employeeA ≠ i.employeeB ↔ a ≠ b := by
  rcases joins_iff.1 h with ⟨rfl, rfl⟩ | ⟨rfl, rfl⟩
  · exact Iff.rfl
  · exact ne_comm

namespace Ties

/-! ### Rows and weights -/

theorem weight?_eq (ties : Ties) (a b : String) : ties.weight? a b = (ties[a]?.getD ∅)[b]? :=
  rfl

/-- Tables with the same rows and the same weights are equal. -/
theorem ext {s t : Ties} (hmem : ∀ a, a ∈ s ↔ a ∈ t)
    (hweight : ∀ a b, s.weight? a b = t.weight? a b) : s = t := by
  refine Std.ExtTreeMap.ext_getElem? ?_
  intro a
  have hrow : s[a]?.getD ∅ = t[a]?.getD ∅ := Std.ExtTreeMap.ext_getElem? (hweight a)
  have hsome := hmem a
  rw [Std.ExtTreeMap.mem_iff_isSome_getElem?, Std.ExtTreeMap.mem_iff_isSome_getElem?] at hsome
  cases hs : s[a]? <;> cases ht : t[a]? <;> simp_all

theorem weight?_of_not_mem {ties : Ties} {a : String} (h : a ∉ ties) (b : String) :
    ties.weight? a b = none := by
  rw [weight?_eq, Std.ExtTreeMap.getElem?_eq_none h]
  exact Std.ExtTreeMap.getElem?_empty

theorem mem_insertIfNew {ties : Ties} {a b : String} :
    b ∈ ties.insertIfNew a ∅ ↔ b = a ∨ b ∈ ties := by
  rw [Std.ExtTreeMap.mem_insertIfNew, Std.LawfulEqCmp.compare_eq_iff_eq, eq_comm]

/-- An empty row for a new id adds no weight. -/
theorem weight?_insertIfNew (ties : Ties) (a b c : String) :
    weight? (ties.insertIfNew a ∅) b c = ties.weight? b c := by
  rw [weight?_eq, weight?_eq, Std.ExtTreeMap.getElem?_insertIfNew]
  split
  · next h =>
    rw [Std.LawfulEqCmp.compare_eq_iff_eq] at h
    rw [← h.1, Std.ExtTreeMap.getElem?_eq_none h.2]
    rfl
  · rfl

/-! ### One more interaction -/

theorem mem_bump {ties : Ties} {a b c : String} : c ∈ ties.bump a b ↔ c = a ∨ c ∈ ties := by
  rw [bump, Std.ExtTreeMap.mem_alter]
  by_cases h : a = c
  · simp [h]
  · simp [h, Ne.symm h]

theorem weight?_bump (ties : Ties) (a b c d : String) :
    (ties.bump a b).weight? c d =
      if c = a ∧ d = b then some ((ties.weight? c d).getD 0 + 1) else ties.weight? c d := by
  rw [weight?_eq, weight?_eq, bump, Std.ExtTreeMap.getElem?_alter]
  by_cases hc : a = c
  · subst hc
    simp only [Std.ReflCmp.compare_self, if_true, Option.getD_some, true_and, Row.bump,
      Std.ExtTreeMap.getElem?_alter, Std.LawfulEqCmp.compare_eq_iff_eq]
    by_cases hd : b = d
    · simp [hd]
    · simp [hd, Ne.symm hd]
  · simp [hc, Ne.symm hc]

theorem mem_join {ties : Ties} {a b c : String} :
    c ∈ ties.join a b ↔ c ∈ ties ∨ a ≠ b ∧ (c = a ∨ c = b) := by
  by_cases h : a = b
  · simp [h]
  · rw [join, if_neg h, mem_bump, mem_bump]
    grind

theorem weight?_join (ties : Ties) {a b : String} (hab : a ≠ b) (c d : String) :
    (ties.join a b).weight? c d =
      if a = c ∧ b = d ∨ a = d ∧ b = c then some ((ties.weight? c d).getD 0 + 1)
      else ties.weight? c d := by
  rw [join, if_neg hab, weight?_bump, weight?_bump]
  by_cases h₁ : c = b ∧ d = a
  · obtain ⟨rfl, rfl⟩ := h₁
    simp [hab, Ne.symm hab]
  · by_cases h₂ : c = a ∧ d = b
    · obtain ⟨rfl, rfl⟩ := h₂
      simp [hab]
    · rw [if_neg h₁, if_neg h₂, if_neg]
      rintro (⟨rfl, rfl⟩ | ⟨rfl, rfl⟩)
      · exact h₂ ⟨rfl, rfl⟩
      · exact h₁ ⟨rfl, rfl⟩

/-! ### A whole log -/

/-- The ties with all interactions of a log joined, one after the other. -/
def joinAll (ties : Ties) (log : List Interaction) : Ties :=
  log.foldl (fun ties i => ties.join i.employeeA i.employeeB) ties

theorem joinAll_cons (ties : Ties) (i : Interaction) (log : List Interaction) :
    ties.joinAll (i :: log) = (ties.join i.employeeA i.employeeB).joinAll log :=
  rfl

theorem mem_joinAll {ties : Ties} {log : List Interaction} {a : String} :
    a ∈ ties.joinAll log ↔ a ∈ ties ∨
      ∃ i ∈ log, i.employeeA ≠ i.employeeB ∧ (a = i.employeeA ∨ a = i.employeeB) := by
  induction log generalizing ties with
  | nil => simp [joinAll]
  | cons i log ih =>
    rw [joinAll_cons, ih, mem_join, or_assoc]
    simp only [List.mem_cons, exists_eq_or_imp]

theorem weight?_joinAll_self (ties : Ties) (log : List Interaction) (a : String) :
    (ties.joinAll log).weight? a a = ties.weight? a a := by
  induction log generalizing ties with
  | nil => rfl
  | cons i log ih =>
    rw [joinAll_cons, ih]
    by_cases h : i.employeeA = i.employeeB
    · rw [h, join_self]
    · rw [weight?_join ties h, if_neg]
      rintro (⟨ha, hb⟩ | ⟨ha, hb⟩) <;> exact h (ha.trans hb.symm)

/-- A number of interactions as the entry of a row: there is none for no interaction. -/
def tally (n : Nat) : Option UInt32 :=
  if n = 0 then none else some (UInt32.ofNat n)

theorem tally_succ (n : Nat) : tally (n + 1) = some ((tally n).getD 0 + 1) := by
  cases n with
  | zero => rfl
  | succ n => simp [tally, UInt32.ofNat_add]

theorem tally_eq_some {n : Nat} {w : UInt32} (h : tally n = some w) :
    n ≠ 0 ∧ w.toNat = n % UInt32.size := by
  rw [tally] at h
  split at h
  · cases h
  · next hn => exact ⟨hn, by rw [← Option.some.inj h]; rfl⟩

theorem toNat_tally (n : Nat) : ((tally n).getD 0).toNat = n % UInt32.size := by
  cases n <;> rfl

theorem isSome_tally {n : Nat} : (tally n).isSome = true ↔ n ≠ 0 := by
  rw [tally]
  split <;> simp_all

theorem weight?_joinAll {ties : Ties} {a b : String} (hab : a ≠ b) {n : Nat}
    (h : ties.weight? a b = tally n) (log : List Interaction) :
    (ties.joinAll log).weight? a b = tally (n + log.countP fun i => i.joins a b) := by
  induction log generalizing ties n with
  | nil => simpa [joinAll] using h
  | cons i log ih =>
    rw [joinAll_cons, List.countP_cons]
    by_cases hi : i.joins a b = true
    · rw [if_pos hi, Nat.add_comm (List.countP _ log), ← Nat.add_assoc]
      apply ih
      rw [weight?_join ties ((Interaction.ne_iff_of_joins hi).2 hab),
        if_pos (Interaction.joins_iff.1 hi), h, tally_succ]
    · rw [if_neg hi, Nat.add_zero]
      apply ih
      by_cases hne : i.employeeA = i.employeeB
      · rw [hne, join_self, h]
      · rw [weight?_join ties hne, if_neg fun h => hi (Interaction.joins_iff.2 h), h]

/-! ### Replaying a log -/

theorem mem_ofIds {ids : List String} {a : String} : a ∈ ofIds ids ↔ a ∈ ids := by
  suffices h : ∀ ties : Ties,
      a ∈ ids.foldl (fun ties id => ties.insert id ∅) ties ↔ a ∈ ties ∨ a ∈ ids by
    simpa [ofIds] using h ∅
  induction ids with
  | nil => simp
  | cons id ids ih =>
    intro ties
    rw [List.foldl_cons, ih, Std.ExtTreeMap.mem_insert, Std.LawfulEqCmp.compare_eq_iff_eq,
      List.mem_cons, eq_comm]
    grind

theorem weight?_ofIds (ids : List String) (a b : String) : (ofIds ids).weight? a b = none := by
  suffices h : ∀ ties : Ties, (∀ c d, ties.weight? c d = none) →
      weight? (ids.foldl (fun ties id => ties.insert id ∅) ties) a b = none from
    h ∅ fun c d => weight?_of_not_mem Std.ExtTreeMap.not_mem_empty d
  induction ids with
  | nil =>
    intro ties h
    exact h a b
  | cons id ids ih =>
    intro ties h
    refine ih _ ?_
    intro c d
    rw [weight?_eq, Std.ExtTreeMap.getElem?_insert]
    split
    · exact Std.ExtTreeMap.getElem?_empty
    · exact h c d

theorem replay_eq (ids : List String) (log : List Interaction) (accepts : Interaction → Bool) :
    replay ids log accepts = (ofIds ids).joinAll (log.filter accepts) :=
  rfl

/-- The rows of a replay are those of the given ids and of all participants. -/
theorem mem_replay {ids : List String} {log : List Interaction} {accepts : Interaction → Bool}
    {a : String} :
    a ∈ replay ids log accepts ↔ a ∈ ids ∨
      ∃ i ∈ log, accepts i = true ∧ i.employeeA ≠ i.employeeB ∧
        (a = i.employeeA ∨ a = i.employeeB) := by
  rw [replay_eq, mem_joinAll, mem_ofIds]
  simp only [List.mem_filter, and_assoc]

/-- **A replay counts.** The weight between two employees is the number of accepted interactions
that join them. -/
theorem weight?_replay (ids : List String) (log : List Interaction)
    (accepts : Interaction → Bool) {a b : String} (hab : a ≠ b) :
    (replay ids log accepts).weight? a b =
      tally (log.countP fun i => accepts i && i.joins a b) := by
  rw [replay_eq, weight?_joinAll hab (n := 0) (weight?_ofIds ids a b), Nat.zero_add,
    List.countP_filter]
  simp only [Bool.and_comm]

theorem weight?_replay_self (ids : List String) (log : List Interaction)
    (accepts : Interaction → Bool) (a : String) : (replay ids log accepts).weight? a a = none := by
  rw [replay_eq, weight?_joinAll_self, weight?_ofIds]

/-- One more interaction at the end of the log is one more interaction in the ties. -/
theorem replay_concat (ids : List String) (log : List Interaction) {accepts : Interaction → Bool}
    {i : Interaction} (hi : accepts i = true) :
    replay ids (log ++ [i]) accepts =
      (replay ids log accepts).join i.employeeA i.employeeB := by
  rw [replay_eq, replay_eq, List.filter_append, joinAll, List.foldl_append]
  simp [hi, joinAll]

end Ties

end Teamwork
