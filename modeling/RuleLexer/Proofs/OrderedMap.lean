import Mathlib.Data.Finset.Card
import RuleLexer.Collection.OrderedMap

/-!
# Lookups in ordered maps

A key is found in a map exactly when it is one of the keys. `mapValues` changes what is stored and
leaves the keys as they are. The map of a list in which no key stands twice has the entries of the
list, so their order in the list does not matter. The set of a list has the elements of the list.
-/

namespace RuleLexer

section Search
variable {α κ : Type} {p : α → Bool} {l : List α} {a : α}

/-- A search that can find one element only finds that element. -/
theorem find?_eq_some_iff_of_unique
    (hunique : ∀ b ∈ l, ∀ c ∈ l, p b = true → p c = true → b = c) :
    l.find? p = some a ↔ a ∈ l ∧ p a = true := by
  constructor
  · intro h
    exact ⟨List.mem_of_find?_eq_some h, List.find?_some h⟩
  · rintro ⟨ha, hp⟩
    obtain ⟨b, hb⟩ := Option.isSome_iff_exists.1 (List.find?_isSome.2 ⟨a, ha, hp⟩)
    rw [hb, hunique b (List.mem_of_find?_eq_some hb) a ha (List.find?_some hb) hp]

/-- A search for a key that no two elements share. -/
theorem find?_eq_some_iff_of_nodup {key : α → κ} {k : κ} (hnodup : (l.map key).Nodup)
    (hp : ∀ b, p b = true ↔ key b = k) : l.find? p = some a ↔ a ∈ l ∧ key a = k := by
  rw [find?_eq_some_iff_of_unique, hp]
  intro b hb c hc hpb hpc
  exact List.inj_on_of_nodup_map hnodup hb hc (((hp b).1 hpb).trans ((hp c).1 hpc).symm)

end Search

namespace OrderedMap
variable {κ β γ : Type} [Ord κ]

/-! ## Other values at the same keys -/

def mapValues (f : β → γ) (m : OrderedMap κ β) : OrderedMap κ γ :=
  ⟨m.entries.map fun e => (e.1, f e.2), List.pairwise_map.2 m.sorted⟩

theorem get?_mapValues (f : β → γ) (m : OrderedMap κ β) (k : κ) :
    (m.mapValues f).get? k = (m.get? k).map f := by
  simp [get?, mapValues, List.find?_map, Function.comp_def]

theorem contains_mapValues (f : β → γ) (m : OrderedMap κ β) (k : κ) :
    (m.mapValues f).contains k = m.contains k := by
  rw [contains, get?_mapValues, Option.isSome_map, contains]

/-! ## Values -/

theorem mem_values_of_get? {m : OrderedMap κ β} {k : κ} {v : β} (h : m.get? k = some v) :
    v ∈ m.values := by
  obtain ⟨e, he, rfl⟩ := Option.map_eq_some_iff.1 h
  exact List.mem_map_of_mem (List.mem_of_find?_eq_some he)

/-! ## Keys -/

section Keys
variable [Std.LawfulEqOrd κ] {m : OrderedMap κ β} {k : κ}

theorem contains_iff_mem_keys : m.contains k = true ↔ k ∈ m.keys := by
  unfold contains get? keys
  rw [Option.isSome_map, List.find?_isSome, List.mem_map]
  constructor
  · rintro ⟨e, he, hk⟩
    exact ⟨e, he, (Std.LawfulEqOrd.eq_of_compare (beq_iff_eq.1 hk)).symm⟩
  · rintro ⟨e, he, rfl⟩
    exact ⟨e, he, beq_iff_eq.2 Std.ReflCmp.compare_self⟩

theorem contains_eq_false_iff : m.contains k = false ↔ k ∉ m.keys := by
  rw [← contains_iff_mem_keys, Bool.not_eq_true]

/-- The keys before an entry are the smaller ones. -/
theorem mem_keys_before_iff [Std.OrientedOrd κ] {before after : List (κ × β)} {e : κ × β}
    (h : m.entries = before ++ e :: after) :
    k ∈ before.map (·.1) ↔ m.contains k = true ∧ compare k e.1 = .lt := by
  have hsorted := h ▸ m.sorted
  obtain ⟨-, hafter, hbefore⟩ := List.pairwise_append.1 hsorted
  rw [contains_iff_mem_keys, keys, h, List.map_append, List.mem_append, List.map_cons,
    List.mem_cons]
  constructor
  · intro hk
    obtain ⟨d, hd, rfl⟩ := List.mem_map.1 hk
    exact ⟨.inl hk, hbefore d hd e List.mem_cons_self⟩
  · rintro ⟨hk | rfl | hk, hlt⟩
    · exact hk
    · have hself : compare e.1 e.1 = .eq := Std.ReflCmp.compare_self
      rw [hself] at hlt
      cases hlt
    · obtain ⟨d, hd, rfl⟩ := List.mem_map.1 hk
      have hgt := (List.pairwise_cons.1 hafter).1 d hd
      rw [Std.OrientedOrd.eq_swap, hgt] at hlt
      cases hlt

end Keys

/-! ## Lists with distinct keys -/

section Distinct
variable {l l' : List (κ × β)} {k : κ} {v : β}

theorem sorted_eq_of_perm [Std.OrientedOrd κ] (hl : l.Pairwise fun a b => compare a.1 b.1 = .lt)
    (hl' : l'.Pairwise fun a b => compare a.1 b.1 = .lt) (h : l.Perm l') : l = l' := by
  refine h.eq_of_pairwise (fun a b _ _ hab hba => ?_) hl hl'
  rw [Std.OrientedOrd.eq_swap, hba] at hab
  cases hab

theorem nodup_keys_of_sorted [Std.ReflOrd κ] (hl : l.Pairwise fun a b => compare a.1 b.1 = .lt) :
    (l.map (·.1)).Nodup := by
  refine List.pairwise_map.2 (hl.imp fun {a b} hlt heq => ?_)
  have hself : compare b.1 b.1 = .eq := Std.ReflCmp.compare_self
  rw [heq, hself] at hlt
  cases hlt

theorem mem_of_mem_foldl_insertEntry {acc : List (κ × β)} {e : κ × β}
    (h : e ∈ l.foldl (fun sorted e => insertEntry e.1 e.2 sorted) acc) : e ∈ l ∨ e ∈ acc := by
  induction l generalizing acc with
  | nil => exact .inr h
  | cons d rest ih =>
    rcases ih h with hrest | hacc
    · exact .inl (List.mem_cons_of_mem d hrest)
    · rcases mem_insertEntry hacc with rfl | hacc
      · exact .inl List.mem_cons_self
      · exact .inr hacc

variable [Std.LawfulEqOrd κ]

theorem insertEntry_perm (hk : k ∉ l.map (·.1)) : (insertEntry k v l).Perm ((k, v) :: l) := by
  induction l with
  | nil => rfl
  | cons e rest ih =>
    rw [List.map_cons, List.mem_cons, not_or] at hk
    rw [insertEntry]
    split
    · rfl
    · next heq => exact absurd (Std.LawfulEqOrd.eq_of_compare heq) hk.1
    · exact ((ih hk.2).cons e).trans (.swap (k, v) e rest)

theorem foldl_insertEntry_perm {acc : List (κ × β)} (hkeys : ((l ++ acc).map (·.1)).Nodup) :
    (l.foldl (fun sorted e => insertEntry e.1 e.2 sorted) acc).Perm (l ++ acc) := by
  induction l generalizing acc with
  | nil => rfl
  | cons e rest ih =>
    rw [List.cons_append, List.map_cons, List.nodup_cons] at hkeys
    have hnew : e.1 ∉ acc.map (·.1) := fun he =>
      hkeys.1 (by rw [List.map_append]; exact List.mem_append_right _ he)
    have hinsert := insertEntry_perm (v := e.2) hnew
    have hmiddle : (rest ++ insertEntry e.1 e.2 acc).Perm (e :: (rest ++ acc)) :=
      (hinsert.append_left rest).trans List.perm_middle
    have hnodup : ((rest ++ insertEntry e.1 e.2 acc).map (·.1)).Nodup := by
      rw [(hmiddle.map _).nodup_iff]
      exact List.nodup_cons.2 hkeys
    exact (ih hnodup).trans hmiddle

variable [Std.TransOrd κ]

theorem entries_foldl_insert (l : List (κ × β)) (m : OrderedMap κ β) :
    (l.foldl (fun m e => m.insert e.1 e.2) m).entries =
      l.foldl (fun sorted e => insertEntry e.1 e.2 sorted) m.entries := by
  induction l generalizing m with
  | nil => rfl
  | cons e rest ih => exact ih (m.insert e.1 e.2)

theorem entries_ofList (l : List (κ × β)) :
    (ofList l).entries = l.foldl (fun sorted e => insertEntry e.1 e.2 sorted) [] :=
  entries_foldl_insert l empty

theorem mem_of_mem_ofList {e : κ × β} (h : e ∈ (ofList l).entries) : e ∈ l := by
  rw [entries_ofList] at h
  exact (mem_of_mem_foldl_insertEntry h).resolve_right List.not_mem_nil

theorem entries_ofList_perm (hkeys : (l.map (·.1)).Nodup) : (ofList l).entries.Perm l := by
  have hkeys' : ((l ++ []).map Prod.fst).Nodup := by rwa [List.append_nil]
  have hperm := foldl_insertEntry_perm hkeys'
  rwa [← entries_ofList, List.append_nil] at hperm

theorem ofList_perm (h : l.Perm l') (hkeys : (l.map (·.1)).Nodup) : ofList l = ofList l' := by
  have hentries := ((entries_ofList_perm hkeys).trans h).trans
    (entries_ofList_perm ((h.map _).nodup_iff.1 hkeys)).symm
  have heq := sorted_eq_of_perm (ofList l).sorted (ofList l').sorted hentries
  cases hl : ofList l
  cases hl' : ofList l'
  simpa [hl, hl'] using heq

/-- A list that is in order is kept as it is. -/
theorem entries_ofList_of_sorted (hl : l.Pairwise fun a b => compare a.1 b.1 = .lt) :
    (ofList l).entries = l :=
  sorted_eq_of_perm (ofList l).sorted hl (entries_ofList_perm (nodup_keys_of_sorted hl))

end Distinct

/-! ## Entries -/

section Entries
variable [Std.LawfulEqOrd κ] {m : OrderedMap κ β} {k k' : κ} {v : β}

/-- What is found at a key is what is stored there, since no key stands twice. -/
theorem get?_eq_some_iff : m.get? k = some v ↔ (k, v) ∈ m.entries := by
  have hfind (e : κ × β) : (m.entries.find? fun e => compare k e.1 == .eq) = some e ↔
      e ∈ m.entries ∧ e.1 = k := by
    refine find?_eq_some_iff_of_nodup (nodup_keys_of_sorted m.sorted) fun d => ?_
    rw [beq_iff_eq, Std.LawfulEqOrd.compare_eq_iff_eq, eq_comm]
  rw [get?, Option.map_eq_some_iff]
  constructor
  · rintro ⟨e, he, rfl⟩
    obtain ⟨hmem, rfl⟩ := (hfind e).1 he
    exact hmem
  · intro h
    exact ⟨(k, v), (hfind (k, v)).2 ⟨h, rfl⟩, rfl⟩

end Entries

/-! ## Sets -/

section Sets
variable [Std.LawfulEqOrd κ] {k k' : κ} {v : β} {l acc : List (κ × β)}

theorem mem_keys_insertEntry :
    k' ∈ (insertEntry k v l).map (·.1) ↔ k' = k ∨ k' ∈ l.map (·.1) := by
  induction l with
  | nil => simp [insertEntry]
  | cons e rest ih =>
    rw [insertEntry]
    split
    · simp
    · next heq =>
      rw [Std.LawfulEqOrd.eq_of_compare heq]
      simp
    · rw [List.map_cons, List.mem_cons, ih, List.map_cons, List.mem_cons]
      exact or_left_comm

theorem mem_keys_foldl_insertEntry :
    k ∈ (l.foldl (fun sorted e => insertEntry e.1 e.2 sorted) acc).map (·.1) ↔
      k ∈ l.map (·.1) ∨ k ∈ acc.map (·.1) := by
  induction l generalizing acc with
  | nil => simp
  | cons e rest ih =>
    rw [List.foldl_cons, ih, mem_keys_insertEntry, List.map_cons, List.mem_cons]
    exact or_left_comm.trans or_assoc.symm

theorem size_ofList [Std.TransOrd κ] [DecidableEq κ] (l : List κ) :
    (OrderedSet.ofList l).size = l.toFinset.card := by
  have hkeys : (OrderedSet.ofList l).toList.toFinset = l.toFinset := by
    ext k
    rw [List.mem_toFinset, List.mem_toFinset, OrderedSet.toList, keys, OrderedSet.ofList,
      entries_ofList, mem_keys_foldl_insertEntry]
    simp
  have hnodup : (OrderedSet.ofList l).toList.Nodup :=
    nodup_keys_of_sorted (OrderedSet.ofList l).sorted
  rw [← hkeys, List.toFinset_card_of_nodup hnodup]
  exact List.length_map _ |>.symm

end Sets

end OrderedMap

end RuleLexer
