import RuleLexer.Proofs.Documents

/-!
# The order of members

Writing the members of objects in another order, at any depth of a document, changes neither its
value nor whether a key is repeated.
-/

namespace RuleLexer.Json.Tree

mutual

/-- Whole documents that differ only in places and in the order of the members of objects. -/
inductive Reorders : Tree → Tree → Prop
  | scalar (s : Scalar) (stop stop' : Option Nat) : Reorders (.scalar s stop) (.scalar s stop')
  | list {es es' : List (Element Tree)} (start start' stop stop' : Option Nat)
      (h : ElementsReorder es es') :
      Reorders (.list start es (.ok stop)) (.list start' es' (.ok stop'))
  | object {ms between ms' : List (Member Tree)} (start start' stop stop' : Option Nat)
      (h : MembersReorder ms between) (hperm : between.Perm ms') :
      Reorders (.object start ms (.ok stop)) (.object start' ms' (.ok stop'))

/-- Lists whose elements differ so one by one. -/
inductive ElementsReorder : List (Element Tree) → List (Element Tree) → Prop
  | nil : ElementsReorder [] []
  | cons {e e' : Element Tree} {es es' : List (Element Tree)} (hvalue : e.value.Reorders e'.value)
      (hrest : ElementsReorder es es') : ElementsReorder (e :: es) (e' :: es')

/-- Members whose values differ so one by one. -/
inductive MembersReorder : List (Member Tree) → List (Member Tree) → Prop
  | nil : MembersReorder [] []
  | cons {m m' : Member Tree} {ms ms' : List (Member Tree)} (hkey : m'.key = m.key)
      (hvalue : m.value.Reorders m'.value) (hrest : MembersReorder ms ms') :
      MembersReorder (m :: ms) (m' :: ms')

end

variable {ms ms' : List (Member Tree)} {entries : List (String × Json)}

theorem membersDistinct_eq_all (ms : List (Member Tree)) :
    membersDistinct ms = ms.all (·.value.distinctKeys) := by
  induction ms with
  | nil => rfl
  | cons m ms ih => rw [membersDistinct, ih, List.all_cons]

theorem entriesToJson_perm (h : ms.Perm ms') (hms : entriesToJson ms = .ok entries) :
    ∃ entries', entriesToJson ms' = .ok entries' ∧ entries.Perm entries' := by
  induction h generalizing entries with
  | nil => exact ⟨entries, hms, .refl entries⟩
  | cons m _ ih =>
    obtain ⟨j, rest, hj, hrest, rfl⟩ := entriesToJson_cons_eq_ok_iff.1 hms
    obtain ⟨rest', hrest', hperm⟩ := ih hrest
    exact ⟨(m.key, j) :: rest', entriesToJson_cons_eq_ok_iff.2 ⟨j, rest', hj, hrest', rfl⟩,
      hperm.cons _⟩
  | swap m n ms =>
    obtain ⟨j, tail, hj, htail, rfl⟩ := entriesToJson_cons_eq_ok_iff.1 hms
    obtain ⟨i, rest, hi, hrest, rfl⟩ := entriesToJson_cons_eq_ok_iff.1 htail
    have hn := entriesToJson_cons_eq_ok_iff.2 ⟨j, rest, hj, hrest, rfl⟩
    exact ⟨_, entriesToJson_cons_eq_ok_iff.2 ⟨i, _, hi, hn, rfl⟩, .swap _ _ rest⟩
  | trans _ _ ih ih' =>
    obtain ⟨between, hbetween, hperm⟩ := ih hms
    obtain ⟨entries', hentries', hperm'⟩ := ih' hbetween
    exact ⟨entries', hentries', hperm.trans hperm'⟩

theorem map_fst_of_entriesToJson (h : entriesToJson ms = .ok entries) :
    entries.map (·.1) = ms.map (·.key) := by
  induction ms generalizing entries with
  | nil =>
    cases h
    rfl
  | cons m ms ih =>
    obtain ⟨j, rest, -, hrest, rfl⟩ := entriesToJson_cons_eq_ok_iff.1 h
    simp [ih hrest]

theorem MembersReorder.map_key (h : MembersReorder ms ms') :
    ms'.map (·.key) = ms.map (·.key) := by
  induction ms generalizing ms' with
  | nil =>
    cases h
    rfl
  | cons m ms ih =>
    obtain _ | ⟨hkey, -, hrest⟩ := h
    rw [List.map_cons, List.map_cons, hkey, ih hrest]

mutual

theorem Reorders.toJson_eq : ∀ {t t' : Tree} {j : Json}, t.Reorders t' → t.distinctKeys = true →
    t.toJson = .ok j → t'.toJson = .ok j ∧ t'.distinctKeys = true
  | _, _, j, .scalar s stop stop', _, h => ⟨h, rfl⟩
  | _, _, j, .list start start' stop stop' hes, hdistinct, h => by
    obtain ⟨items, hitems, h⟩ := bind_eq_ok_iff.1 h
    cases h
    obtain ⟨hitems', hdistinct'⟩ := hes.toJson_eq hdistinct hitems
    exact ⟨bind_eq_ok_iff.2 ⟨items, hitems', rfl⟩, hdistinct'⟩
  | _, _, j, .object start start' stop stop' hms hperm, hdistinct, h => by
    obtain ⟨entries, hentries, h⟩ := bind_eq_ok_iff.1 h
    cases h
    rw [distinctKeys, Bool.and_eq_true, decide_eq_true_iff] at hdistinct ⊢
    obtain ⟨hbetween, hdistinct'⟩ := hms.toJson_eq hdistinct.2 hentries
    obtain ⟨entries', hentries', hperm'⟩ := entriesToJson_perm hperm hbetween
    refine ⟨bind_eq_ok_iff.2 ⟨entries', hentries', ?_⟩, ?_, ?_⟩
    · have hkeys : (entries.map (·.1)).Nodup := by
        rw [map_fst_of_entriesToJson hentries]
        exact hdistinct.1
      rw [ofMembers_eq, ofMembers_eq, OrderedMap.ofList_perm hperm' hkeys]
      rfl
    · rw [← (hperm.map _).nodup_iff, hms.map_key]
      exact hdistinct.1
    · rw [membersDistinct_eq_all, ← hperm.all_eq, ← membersDistinct_eq_all, hdistinct']

theorem ElementsReorder.toJson_eq : ∀ {es es' : List (Element Tree)} {items : List Json},
    ElementsReorder es es' → elementsDistinct es = true → itemsToJson es = .ok items →
      itemsToJson es' = .ok items ∧ elementsDistinct es' = true
  | _, _, items, .nil, _, h => ⟨h, rfl⟩
  | _, _, items, .cons hvalue hrest, hdistinct, h => by
    obtain ⟨j, rest, hj, hitems, rfl⟩ := itemsToJson_cons_eq_ok_iff.1 h
    rw [elementsDistinct, Bool.and_eq_true] at hdistinct ⊢
    obtain ⟨hj', hdistinct'⟩ := hvalue.toJson_eq hdistinct.1 hj
    obtain ⟨hitems', hrest'⟩ := hrest.toJson_eq hdistinct.2 hitems
    exact ⟨itemsToJson_cons_eq_ok_iff.2 ⟨j, rest, hj', hitems', rfl⟩, hdistinct', hrest'⟩

theorem MembersReorder.toJson_eq : ∀ {ms ms' : List (Member Tree)} {entries : List (String × Json)},
    MembersReorder ms ms' → membersDistinct ms = true → entriesToJson ms = .ok entries →
      entriesToJson ms' = .ok entries ∧ membersDistinct ms' = true
  | _, _, entries, .nil, _, h => ⟨h, rfl⟩
  | _, _, entries, .cons hkey hvalue hrest, hdistinct, h => by
    obtain ⟨j, rest, hj, hentries, rfl⟩ := entriesToJson_cons_eq_ok_iff.1 h
    rw [membersDistinct, Bool.and_eq_true] at hdistinct ⊢
    obtain ⟨hj', hdistinct'⟩ := hvalue.toJson_eq hdistinct.1 hj
    obtain ⟨hentries', hrest'⟩ := hrest.toJson_eq hdistinct.2 hentries
    rw [← hkey]
    exact ⟨entriesToJson_cons_eq_ok_iff.2 ⟨j, rest, hj', hentries', rfl⟩, hdistinct', hrest'⟩

end

end RuleLexer.Json.Tree
