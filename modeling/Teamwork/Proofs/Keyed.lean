import Teamwork.Staff

/-!
# Records under their ids

Facts about finite maps from ids that more than one part of the development needs. Listing a map and
looking things up in the list is looking them up in the map, as long as every record stands under
the id that it carries; that is what makes a written registry readable again.

## Main definitions

* `Keyed.IsListing` — all records of a map, in the order of their ids.

## Main results

* `Keyed.getElem?_insert`, `Keyed.mem_insert` — one more record, with equality of ids as it is.
* `Keyed.keys_eq_of_mem_iff` — the order of a listing is determined by the ids.
* `Keyed.find?_values_and` — looking up in a listing.
* `Keyed.isListing_values` — a listing is complete and in ascending order.
-/

namespace Teamwork.Keyed

variable {α β : Type}

theorem getElem?_insert (t : Keyed α) (k k' : String) (a : α) :
    (t.insert k a)[k']? = if k = k' then some a else t[k']? := by
  rw [Std.ExtTreeMap.getElem?_insert]
  simp only [Std.LawfulEqCmp.compare_eq_iff_eq]

theorem mem_insert {t : Keyed α} {k k' : String} {a : α} :
    k' ∈ t.insert k a ↔ k = k' ∨ k' ∈ t := by
  rw [Std.ExtTreeMap.mem_insert, Std.LawfulEqCmp.compare_eq_iff_eq]

/-- Maps with the same keys list them in the same order. -/
theorem keys_eq_of_mem_iff {s : Keyed α} {t : Keyed β} (h : ∀ k, k ∈ s ↔ k ∈ t) :
    s.keys = t.keys := by
  refine @List.Perm.eq_of_pairwise _ (fun a b => compare a b = .lt) _ _
    ?_ Std.ExtTreeMap.ordered_keys Std.ExtTreeMap.ordered_keys ?_
  · intro a b _ _ hab hba
    have hswap : compare b a = (compare a b).swap := Std.OrientedOrd.eq_swap
    rw [hab, hba] at hswap
    cases hswap
  · refine (List.perm_ext_iff_of_nodup Std.ExtTreeMap.nodup_keys Std.ExtTreeMap.nodup_keys).2 ?_
    intro k
    rw [Std.ExtTreeMap.mem_keys, Std.ExtTreeMap.mem_keys, h]

/-- A map is listed in ascending order of its keys. -/
theorem pairwise_toList (t : Keyed α) : t.toList.Pairwise fun p q => p.1 < q.1 := by
  refine Std.ExtTreeMap.ordered_keys_toList.imp ?_
  intro p q hlt
  exact compareOfLessAndEq_eq_lt.1 hlt

/-! ### Listings -/

theorem values_eq_map (t : Keyed α) : t.values = t.toList.map (·.2) := by
  have hfold : t.values = t.foldr (fun _ a as => a :: as) [] := by
    obtain ⟨⟨inner⟩⟩ := t
    induction inner using Quotient.inductionOn with
    | _ inner => rfl
  rw [hfold, Std.ExtTreeMap.foldr_eq_foldr_toList]
  induction t.toList with
  | nil => rfl
  | cons p l ih => rw [List.foldr_cons, List.map_cons, ih]

theorem length_values (t : Keyed α) : t.values.length = t.size := by
  rw [values_eq_map, List.length_map, Std.ExtTreeMap.length_toList]

theorem mem_values_iff {t : Keyed α} {a : α} : a ∈ t.values ↔ ∃ k : String, t[k]? = some a := by
  rw [values_eq_map, List.mem_map]
  constructor
  · rintro ⟨⟨k, a⟩, hmem, rfl⟩
    exact ⟨k, Std.ExtTreeMap.mem_toList_iff_getElem?_eq_some.1 hmem⟩
  · rintro ⟨k, hk⟩
    exact ⟨(k, a), Std.ExtTreeMap.mem_toList_iff_getElem?_eq_some.2 hk, rfl⟩

/-- A record is found in the listing by the id that it carries, and no other record is. -/
theorem find?_values_and {t : Keyed α} {idOf : α → String}
    (h : ∀ {k : String} {a : α}, t[k]? = some a → idOf a = k) (k : String) (p : α → Bool) :
    t.values.find? (fun a => idOf a = k ∧ p a) = t[k]?.filter p := by
  refine Option.ext fun a => ?_
  rw [Option.filter_eq_some_iff]
  constructor
  · intro hfind
    obtain ⟨k', hk'⟩ := mem_values_iff.1 (List.mem_of_find?_eq_some hfind)
    obtain ⟨hid, hp⟩ : idOf a = k ∧ p a = true := by simpa using List.find?_some hfind
    rw [← hid, h hk']
    exact ⟨hk', hp⟩
  · rintro ⟨hk, hp⟩
    cases hfind : t.values.find? (fun a => idOf a = k ∧ p a) with
    | none =>
      rw [List.find?_eq_none] at hfind
      exact absurd (decide_eq_true ⟨h hk, hp⟩) (hfind a (mem_values_iff.2 ⟨k, hk⟩))
    | some b =>
      obtain ⟨k', hk'⟩ := mem_values_iff.1 (List.mem_of_find?_eq_some hfind)
      obtain ⟨hid, -⟩ : idOf b = k ∧ p b = true := by simpa using List.find?_some hfind
      rw [← hk, ← hid, h hk', hk']

/-- The list has all records of a map, each of them once, in ascending order of their ids. -/
structure IsListing (t : Keyed α) (idOf : α → String) (as : List α) : Prop where
  /-- The ids ascend. -/
  ascending : as.Pairwise fun a b => idOf a < idOf b
  /-- A record is listed if it is found in the map, under the id that it carries. -/
  found_iff : ∀ (k : String) (a : α), t[k]? = some a ↔ a ∈ as ∧ idOf a = k

theorem isListing_values {t : Keyed α} {idOf : α → String}
    (h : ∀ {k : String} {a : α}, t[k]? = some a → idOf a = k) : IsListing t idOf t.values where
  ascending := by
    have hid : ∀ p ∈ t.toList, idOf p.2 = p.1 :=
      fun p hp => h (Std.ExtTreeMap.mem_toList_iff_getElem?_eq_some.1 hp)
    rw [values_eq_map, List.pairwise_map]
    refine Std.ExtTreeMap.ordered_keys_toList.imp_of_mem ?_
    intro p q hp hq hlt
    rw [hid p hp, hid q hq]
    exact compareOfLessAndEq_eq_lt.1 hlt
  found_iff := by
    intro k a
    constructor
    · intro hk
      exact ⟨mem_values_iff.2 ⟨k, hk⟩, h hk⟩
    · rintro ⟨hmem, rfl⟩
      obtain ⟨k, hk⟩ := mem_values_iff.1 hmem
      rwa [h hk]

end Teamwork.Keyed
