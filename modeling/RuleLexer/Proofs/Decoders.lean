import Mathlib.Data.List.Nodup
import RuleLexer.Json.Record
import RuleLexer.Proofs.Documents

/-!
# Decoders go by the value

What a decoder reads out of a whole document depends on the value of the document only: not on
places, and not on the order of members, since a record looks its fields up and a map sorts its
keys. The order can only choose which of several faults is met first.
-/

namespace RuleLexer.Json
open RuleLexer.Json.Tree

theorem map_eq_ok_iff {ε α β : Type} {x : Except ε α} {f : α → β} {b : β} :
    x.map f = .ok b ↔ ∃ a, x = .ok a ∧ f a = b := by
  cases x with
  | error e => simp [Except.map]
  | ok a => simp [Except.map]

theorem mapError_eq_ok_iff {ε ε' α : Type} {x : Except ε α} {f : ε → ε'} {a : α} :
    x.mapError f = .ok a ↔ x = .ok a := by
  cases x with
  | error e => simp [Except.mapError]
  | ok b => simp [Except.mapError]

/-- A decoder that gives one result on all documents of one value. -/
class Decoder.ByValue {α : Type} (d : Decoder α) : Prop where
  eq_ok : ∀ {t t' : Tree} {a : α}, t.Alike t' → d t = .ok a → d t' = .ok a

namespace Decoder
variable {α β κ : Type} {d : Decoder α}

instance : ByValue text where
  eq_ok h hd := by
    cases h.paired with
    | scalar s stop stop' => cases s <;> first | exact hd | cases hd
    | list => cases hd
    | object => cases hd

instance : ByValue bool where
  eq_ok h hd := by
    cases h.paired with
    | scalar s stop stop' => cases s <;> first | exact hd | cases hd
    | list => cases hd
    | object => cases hd

instance : ByValue char where
  eq_ok h hd := by
    cases h.paired with
    | scalar s stop stop' =>
      cases s with
      | string s => exact mapError_eq_ok_iff.2 (mapError_eq_ok_iff.1 hd)
      | _ => cases hd
    | list => cases hd
    | object => cases hd

instance : ByValue size where
  eq_ok h hd := by
    cases h.paired with
    | scalar s stop stop' =>
      cases s with
      | number n =>
        cases n with
        | integer i =>
          by_cases hi : 0 ≤ i
          · simpa [size, hi] using hd
          · simp [size, hi] at hd
        | float negative magnitude => cases hd
      | _ => cases hd
    | list => cases hd
    | object => cases hd

instance [ByValue d] (f : α → β) : ByValue (d.map f) where
  eq_ok h hd := by
    obtain ⟨a, ha, hf⟩ := map_eq_ok_iff.1 hd
    exact map_eq_ok_iff.2 ⟨a, ByValue.eq_ok h ha, hf⟩

instance [ByValue d] : ByValue (optional d) where
  eq_ok h hd := by
    have hmap : ∀ {o}, (d _).map some = .ok o → (d _).map some = .ok o := fun {o} ho => by
      obtain ⟨a, ha, hsome⟩ := map_eq_ok_iff.1 ho
      exact map_eq_ok_iff.2 ⟨a, ByValue.eq_ok h ha, hsome⟩
    cases h.paired with
    | scalar s stop stop' =>
      cases s with
      | null => exact hd
      | bool => exact hmap hd
      | number => exact hmap hd
      | string => exact hmap hd
    | list => exact hmap hd
    | object => exact hmap hd

theorem elements_alike [ByValue d] {es es' : List (Element Tree)} {as : List α}
    (h : ElementsAlike es es') (hd : elements d es = .ok as) : elements d es' = .ok as := by
  induction h generalizing as with
  | nil => exact hd
  | cons hvalue _ _ ih =>
    obtain ⟨a, ha, hd⟩ := bind_eq_ok_iff.1 hd
    obtain ⟨rest, hrest, hd⟩ := bind_eq_ok_iff.1 hd
    exact bind_eq_ok_iff.2 ⟨a, ByValue.eq_ok hvalue ha, bind_eq_ok_iff.2 ⟨rest, ih hrest, hd⟩⟩

instance [ByValue d] : ByValue (list d) where
  eq_ok h hd := by
    cases h.paired with
    | scalar => cases hd
    | list start start' stop stop' hes =>
      obtain ⟨as, has, hd⟩ := bind_eq_ok_iff.1 hd
      exact bind_eq_ok_iff.2 ⟨as, elements_alike hes has, hd⟩
    | object => cases hd

end Decoder

/-! ## Members of objects -/

namespace Tree
variable {ms ms' : List (Member Tree)}

namespace MembersAlike

theorem forall_mem (h : MembersAlike ms ms') {P : String → Tree → Prop}
    (hP : ∀ key {t t' : Tree}, t.Alike t' → P key t → P key t')
    (hms : ∀ m ∈ ms, P m.key m.value) : ∀ m ∈ ms', P m.key m.value := by
  intro m' hm'
  obtain ⟨m, hm, hkey, halike⟩ := h.found' m' hm'
  exact hP m'.key halike.symm (hkey ▸ hms m hm)

theorem any_key_eq (h : MembersAlike ms ms') (name : String) :
    ms.any (·.key == name) = ms'.any (·.key == name) := by
  rw [Bool.eq_iff_iff, List.any_eq_true, List.any_eq_true]
  constructor
  · rintro ⟨m, hm, hname⟩
    obtain ⟨m', hm', hkey, -⟩ := h.found m hm
    exact ⟨m', hm', by rwa [hkey]⟩
  · rintro ⟨m', hm', hname⟩
    obtain ⟨m, hm, hkey, -⟩ := h.found' m' hm'
    exact ⟨m, hm, by rwa [hkey]⟩

theorem filter (h : MembersAlike ms ms') (p : String → Bool) :
    MembersAlike (ms.filter (p ·.key)) (ms'.filter (p ·.key)) where
  nodup := h.nodup.sublist (List.filter_sublist.map _)
  nodup' := h.nodup'.sublist (List.filter_sublist.map _)
  found m hm := by
    obtain ⟨hm, hp⟩ := List.mem_filter.1 hm
    obtain ⟨m', hm', hkey, halike⟩ := h.found m hm
    exact ⟨m', List.mem_filter.2 ⟨hm', by rwa [hkey]⟩, hkey, halike⟩
  found' m' hm' := by
    obtain ⟨hm', hp⟩ := List.mem_filter.1 hm'
    obtain ⟨m, hm, hkey, halike⟩ := h.found' m' hm'
    exact ⟨m, List.mem_filter.2 ⟨hm, by rwa [hkey]⟩, hkey, halike⟩

end MembersAlike

end Tree

/-! ## Maps -/

namespace Decoder
variable {β κ : Type} {key : String → Except Problem κ} {d : Decoder β}
  {ms ms' : List (Member Tree)} {es : List (κ × β)}

theorem mem_entries_iff (h : entries key d ms = .ok es) {e : κ × β} :
    e ∈ es ↔ ∃ m ∈ ms, key m.key = .ok e.1 ∧ d m.value = .ok e.2 := by
  induction ms generalizing es with
  | nil =>
    cases h
    simp
  | cons m ms ih =>
    obtain ⟨k, hk, h⟩ := bind_eq_ok_iff.1 h
    obtain ⟨v, hv, h⟩ := bind_eq_ok_iff.1 h
    obtain ⟨rest, hrest, h⟩ := bind_eq_ok_iff.1 h
    cases h
    rw [mapError_eq_ok_iff] at hk
    rw [List.mem_cons, ih hrest]
    simp only [List.mem_cons, exists_eq_or_imp, hk, hv, Except.ok.injEq]
    grind

theorem exists_entries_iff : (∃ es, entries key d ms = .ok es) ↔
    ∀ m ∈ ms, ∃ e : κ × β, key m.key = .ok e.1 ∧ d m.value = .ok e.2 := by
  induction ms with
  | nil => simp [entries]
  | cons m ms ih =>
    rw [List.forall_mem_cons, ← ih]
    constructor
    · rintro ⟨es, h⟩
      obtain ⟨k, hk, h⟩ := bind_eq_ok_iff.1 h
      obtain ⟨v, hv, h⟩ := bind_eq_ok_iff.1 h
      obtain ⟨rest, hrest, -⟩ := bind_eq_ok_iff.1 h
      exact ⟨⟨(k, v), mapError_eq_ok_iff.1 hk, hv⟩, rest, hrest⟩
    · rintro ⟨⟨e, hk, hv⟩, rest, hrest⟩
      refine ⟨e :: rest, ?_⟩
      rw [entries, hk, hv, hrest]
      rfl

/-- Keys that are read one to one stay distinct. -/
theorem nodup_entries (hkey : ∀ {s s' k}, key s = .ok k → key s' = .ok k → s = s')
    (hms : (ms.map (·.key)).Nodup) (h : entries key d ms = .ok es) : (es.map (·.1)).Nodup := by
  induction ms generalizing es with
  | nil =>
    cases h
    simp
  | cons m ms ih =>
    obtain ⟨k, hk, h⟩ := bind_eq_ok_iff.1 h
    obtain ⟨v, hv, h⟩ := bind_eq_ok_iff.1 h
    obtain ⟨rest, hrest, h⟩ := bind_eq_ok_iff.1 h
    cases h
    rw [mapError_eq_ok_iff] at hk
    rw [List.map_cons, List.nodup_cons] at hms ⊢
    refine ⟨fun hmem => ?_, ih hms.2 hrest⟩
    obtain ⟨e, he, hek⟩ := List.mem_map.1 hmem
    obtain ⟨n, hn, hnk, -⟩ := (mem_entries_iff hrest).1 he
    rw [hek] at hnk
    exact hms.1 (hkey hk hnk ▸ List.mem_map_of_mem hn)

theorem mem_entries_alike [ByValue d] {es' : List (κ × β)} (h : MembersAlike ms ms')
    (hes : entries key d ms = .ok es) (hes' : entries key d ms' = .ok es') {e : κ × β}
    (he : e ∈ es) : e ∈ es' := by
  obtain ⟨m, hm, hk, hv⟩ := (mem_entries_iff hes).1 he
  obtain ⟨m', hm', hkey, halike⟩ := h.found m hm
  exact (mem_entries_iff hes').2 ⟨m', hm', by rw [hkey, hk], ByValue.eq_ok halike hv⟩

theorem entries_alike [ByValue d] (hkey : ∀ {s s' k}, key s = .ok k → key s' = .ok k → s = s')
    (h : MembersAlike ms ms') (hes : entries key d ms = .ok es) :
    ∃ es', entries key d ms' = .ok es' ∧ es.Perm es' ∧ (es.map (·.1)).Nodup := by
  have hall := exists_entries_iff.1 ⟨es, hes⟩
  obtain ⟨es', hes'⟩ := exists_entries_iff.2 <|
    h.forall_mem (P := fun s t => ∃ e : κ × β, key s = .ok e.1 ∧ d t = .ok e.2)
      (fun s t t' halike ⟨e, hk, hv⟩ => ⟨e, hk, ByValue.eq_ok halike hv⟩) hall
  have hnodup := nodup_entries hkey h.nodup hes
  have hnodup' := nodup_entries hkey h.nodup' hes'
  refine ⟨es', hes', ?_, hnodup⟩
  rw [List.perm_ext_iff_of_nodup (.of_map _ hnodup) (.of_map _ hnodup')]
  exact fun e => ⟨mem_entries_alike h hes hes', mem_entries_alike h.symm hes' hes⟩

variable [Ord κ] [Std.TransOrd κ] [Std.LawfulEqOrd κ]

theorem mapping_byValue [ByValue d]
    (hkey : ∀ {s s' k}, key s = .ok k → key s' = .ok k → s = s') : ByValue (mapping key d) where
  eq_ok h hd := by
    cases h.paired with
    | scalar => cases hd
    | list => cases hd
    | object start start' stop stop' hms =>
      obtain ⟨es, hes, hd⟩ := bind_eq_ok_iff.1 hd
      cases hd
      obtain ⟨es', hes', hperm, hnodup⟩ := entries_alike hkey hms hes
      rw [OrderedMap.ofList_perm hperm hnodup]
      exact bind_eq_ok_iff.2 ⟨es', hes', rfl⟩

theorem singleChar_inj {s s' : String} {c : Char} (h : singleChar s = .ok c)
    (h' : singleChar s' = .ok c) : s = s' := by
  have hchars : ∀ {s}, singleChar s = .ok c → s.toList = [c] := by
    intro s hs
    unfold singleChar at hs
    split at hs
    · next hlist =>
      cases hs
      exact hlist
    · cases hs
  exact String.toList_inj.1 ((hchars h).trans (hchars h').symm)

instance [ByValue d] : ByValue (mapping singleChar d) := mapping_byValue singleChar_inj

instance [ByValue d] : ByValue (mapping (κ := String) .ok d) :=
  mapping_byValue fun h h' => Except.ok.inj (h.trans h'.symm)

end Decoder

/-! ## Records -/

/-- Bindings that are alike name by name. -/
def BindingsAlike (b b' : Bindings) : Prop :=
  ∀ name, Option.Rel Alike (b.lookup name) (b'.lookup name)

/-- A record whose checks and whose result go by the values of its fields. -/
class Record.ByValue {α : Type} (r : Record α) : Prop where
  check : ∀ f ∈ r.fields, ∀ {t t' : Tree}, t.Alike t' → f.check t = .ok () → f.check t' = .ok ()
  build : ∀ {b b' : Bindings} {a : α}, BindingsAlike b b' → r.build b = .ok a → r.build b' = .ok a

section Bindings
variable {ms ms' : List (Member Tree)} {es es' : List (Element Tree)}

theorem lookup_of_mem (hms : (ms.map (·.key)).Nodup) {m : Member Tree} (hm : m ∈ ms) :
    (ms.map fun m => (m.key, m.value)).lookup m.key = some m.value := by
  induction ms with
  | nil => cases hm
  | cons n ms ih =>
    rw [List.map_cons, List.nodup_cons] at hms
    rw [List.map_cons, List.lookup_cons]
    rcases List.mem_cons.1 hm with rfl | hm
    · simp
    · have hne : m.key ≠ n.key := fun heq => hms.1 (heq ▸ List.mem_map_of_mem hm)
      rw [beq_false_of_ne hne, ih hms.2 hm]

theorem exists_of_lookup {name : String} {t : Tree}
    (h : (ms.map fun m => (m.key, m.value)).lookup name = some t) :
    ∃ m ∈ ms, m.key = name ∧ m.value = t := by
  obtain ⟨before, after, hsplit, -⟩ := List.lookup_eq_some_iff.1 h
  have hmem : (name, t) ∈ ms.map fun m => (m.key, m.value) := by simp [hsplit]
  obtain ⟨m, hm, heq⟩ := List.mem_map.1 hmem
  obtain ⟨hkey, hvalue⟩ := Prod.mk.inj heq
  exact ⟨m, hm, hkey, hvalue⟩

theorem Tree.MembersAlike.lookup_eq_some (h : MembersAlike ms ms') {name : String} {t : Tree}
    (ht : (ms.map fun m => (m.key, m.value)).lookup name = some t) :
    ∃ t', (ms'.map fun m => (m.key, m.value)).lookup name = some t' ∧ t.Alike t' := by
  obtain ⟨m, hm, rfl, rfl⟩ := exists_of_lookup ht
  obtain ⟨m', hm', hkey, halike⟩ := h.found m hm
  exact ⟨m'.value, hkey ▸ lookup_of_mem h.nodup' hm', halike⟩

theorem Tree.MembersAlike.bindings (h : MembersAlike ms ms') :
    BindingsAlike (ms.map fun m => (m.key, m.value)) (ms'.map fun m => (m.key, m.value)) := by
  intro name
  cases hms : (ms.map fun m => (m.key, m.value)).lookup name with
  | some t =>
    obtain ⟨t', ht', halike⟩ := h.lookup_eq_some hms
    rw [ht']
    exact .some halike
  | none =>
    cases hms' : (ms'.map fun m => (m.key, m.value)).lookup name with
    | none => exact .none
    | some t' =>
      obtain ⟨t, ht, -⟩ := h.symm.lookup_eq_some hms'
      rw [hms] at ht
      cases ht

theorem Tree.ElementsAlike.bindings (h : ElementsAlike es es') (names : List String) :
    BindingsAlike (names.zip (es.map (·.value))) (names.zip (es'.map (·.value))) := by
  intro name
  induction h generalizing names with
  | nil => simp
  | cons hvalue _ _ ih =>
    cases names with
    | nil => exact .none
    | cons n names =>
      rw [List.map_cons, List.map_cons, List.zip_cons_cons, List.zip_cons_cons, List.lookup_cons,
        List.lookup_cons]
      split
      · exact .some hvalue
      · exact ih names

end Bindings

namespace Record
variable {α β : Type} {fields : List Field} {ms ms' : List (Member Tree)}
  {es es' : List (Element Tree)}

theorem checkOf_alike {d : Decoder α} [d.ByValue] {t t' : Tree} (h : t.Alike t')
    (hd : checkOf d t = .ok ()) : checkOf d t' = .ok () := by
  obtain ⟨a, ha, -⟩ := map_eq_ok_iff.1 hd
  exact map_eq_ok_iff.2 ⟨a, Decoder.ByValue.eq_ok h ha, rfl⟩

instance (name : String) (d : Decoder α) [d.ByValue] : ByValue (field name d) where
  check f hf _ _ h hd := by
    obtain rfl := List.mem_singleton.1 hf
    exact checkOf_alike h hd
  build {b b' a} h hd := by
    have hlookup := h name
    unfold field at hd ⊢
    dsimp only at hd ⊢
    generalize b.lookup name = found, b'.lookup name = found' at hd hlookup ⊢
    cases hlookup with
    | some halike => exact Decoder.ByValue.eq_ok halike hd
    | none => cases hd

instance (name : String) (d : Decoder α) [d.ByValue] (fallback : α) :
    ByValue (fieldOr name d fallback) where
  check f hf _ _ h hd := by
    obtain rfl := List.mem_singleton.1 hf
    exact checkOf_alike h hd
  build {b b' a} h hd := by
    have hlookup := h name
    unfold fieldOr at hd ⊢
    dsimp only at hd ⊢
    generalize b.lookup name = found, b'.lookup name = found' at hd hlookup ⊢
    cases hlookup with
    | some halike => exact Decoder.ByValue.eq_ok halike hd
    | none => exact hd

instance (f : α → β) (r : Record α) [ByValue r] : ByValue (f <$> r) where
  check := ByValue.check (r := r)
  build h hd := by
    obtain ⟨a, ha, hf⟩ := map_eq_ok_iff.1 hd
    exact map_eq_ok_iff.2 ⟨a, ByValue.build h ha, hf⟩

instance (f : Record (α → β)) (r : Record α) [ByValue f] [ByValue r] : ByValue (f <*> r) where
  check g hg _ _ h hd := by
    rcases List.mem_append.1 hg with hg | hg
    · exact ByValue.check g hg h hd
    · exact ByValue.check g hg h hd
  build h hd := by
    obtain ⟨g, hg, hd⟩ := bind_eq_ok_iff.1 hd
    obtain ⟨a, ha, hd⟩ := bind_eq_ok_iff.1 hd
    exact bind_eq_ok_iff.2 ⟨g, ByValue.build h hg, bind_eq_ok_iff.2 ⟨a, ByValue.build h ha, hd⟩⟩

/-- The members of an object pass if no key stands twice and each is a field whose check its value
passes. -/
theorem checkMembers_eq_ok_iff {seen : List String} :
    checkMembers fields seen ms = .ok () ↔
      (ms.map (·.key)).Nodup ∧ (∀ m ∈ ms, m.key ∉ seen) ∧
        ∀ m ∈ ms, ∃ f, fields.find? (·.name == m.key) = some f ∧ f.check m.value = .ok () := by
  induction ms generalizing seen with
  | nil => simp [checkMembers]
  | cons m ms ih =>
    rw [checkMembers, List.map_cons, List.nodup_cons, List.forall_mem_cons, List.forall_mem_cons]
    cases hf : fields.find? (·.name == m.key) with
    | none => simp
    | some f =>
      by_cases hseen : m.key ∈ seen
      · simp [hseen, bind, Except.bind, throw, throwThe, MonadExceptOf.throw]
      · simp only [List.contains_eq_mem, hseen, decide_false, Bool.false_eq_true, if_false,
          not_false_eq_true, true_and]
        rw [bind_eq_ok_iff]
        simp only [mapError_eq_ok_iff, ih, List.mem_cons, not_or, List.mem_map, Option.some.injEq,
          exists_eq_left']
        grind

theorem checkMembers_alike (hcheck : ∀ f ∈ fields, ∀ {t t' : Tree}, t.Alike t' →
      f.check t = .ok () → f.check t' = .ok ()) (h : MembersAlike ms ms')
    (hms : checkMembers fields [] ms = .ok ()) : checkMembers fields [] ms' = .ok () := by
  obtain ⟨-, -, hall⟩ := checkMembers_eq_ok_iff.1 hms
  refine checkMembers_eq_ok_iff.2 ⟨h.nodup', fun _ _ => List.not_mem_nil, ?_⟩
  refine h.forall_mem (P := fun key t =>
    ∃ f, fields.find? (·.name == key) = some f ∧ f.check t = .ok ()) ?_ hall
  rintro key t t' halike ⟨f, hf, ht⟩
  exact ⟨f, hf, hcheck f (List.mem_of_find?_eq_some hf) halike ht⟩

theorem missing?_alike (h : MembersAlike ms ms') : missing? fields ms = missing? fields ms' := by
  simp only [missing?, h.any_key_eq]

theorem checkElements_nil_eq_ok_iff {wanted : String} {ending : Except Fault (Option Nat)}
    {index : Nat} {surplus : Option Fault} :
    checkElements wanted ending index surplus [] es = .ok () ↔ surplus.isSome = false := by
  cases surplus <;> simp [checkElements]

theorem checkElements_alike {wanted : String} {stop stop' : Option Nat}
    (hcheck : ∀ f ∈ fields, ∀ {t t' : Tree}, t.Alike t' →
      f.check t = .ok () → f.check t' = .ok ()) (h : ElementsAlike es es') {index : Nat}
    {surplus surplus' : Option Fault} (hsurplus : surplus.isSome = surplus'.isSome)
    (hes : checkElements wanted (.ok stop) index surplus fields es = .ok ()) :
    checkElements wanted (.ok stop') index surplus' fields es' = .ok () := by
  induction h generalizing fields index surplus surplus' with
  | nil =>
    cases fields with
    | nil => rwa [checkElements_nil_eq_ok_iff, ← hsurplus, ← checkElements_nil_eq_ok_iff]
    | cons f fields =>
      rw [checkElements] at hes ⊢
      dsimp only [bind, Except.bind] at hes ⊢
      split at hes
      · cases hes
      · rfl
  | cons hvalue hlast _ ih =>
    cases fields with
    | nil =>
      rw [checkElements_nil_eq_ok_iff] at hes ⊢
      rwa [← hsurplus]
    | cons f fields =>
      obtain ⟨_, hfirst, hes⟩ := bind_eq_ok_iff.1 hes
      rw [mapError_eq_ok_iff] at hfirst
      have hfirst' := hcheck f List.mem_cons_self hvalue hfirst
      refine bind_eq_ok_iff.2 ⟨(), mapError_eq_ok_iff.2 hfirst', ?_⟩
      exact ih (fun g hg => hcheck g (List.mem_cons_of_mem f hg)) hlast hes

instance (name : String) (r : Record α) [ByValue r] : (decode name r).ByValue where
  eq_ok h hd := by
    cases h.paired with
    | scalar => cases hd
    | list start start' stop stop' hes =>
      obtain ⟨_, hcheck, hbuild⟩ := bind_eq_ok_iff.1 hd
      refine bind_eq_ok_iff.2 ⟨(), ?_, ByValue.build (hes.bindings _) hbuild⟩
      exact checkElements_alike ByValue.check hes rfl hcheck
    | object start start' stop stop' hms =>
      obtain ⟨_, hcheck, hd⟩ := bind_eq_ok_iff.1 hd
      refine bind_eq_ok_iff.2 ⟨(), checkMembers_alike ByValue.check hms hcheck, ?_⟩
      rw [← missing?_alike hms]
      dsimp only [bind, Except.bind] at hd ⊢
      split at hd
      · cases hd
      · exact ByValue.build hms.bindings hd

/-! ## What a record is built from -/

theorem exists_of_build_field {name : String} {d : Decoder α} {b : Bindings} {a : α}
    (h : (field name d).build b = .ok a) : ∃ t, d t = .ok a := by
  unfold field at h
  dsimp only at h
  split at h
  · next t _ => exact ⟨t, h⟩
  · cases h

theorem exists_build_map {f : α → β} {r : Record α} {b : Bindings} {P : β → Prop} :
    (∃ y, (f <$> r).build b = .ok y ∧ P y) ↔ ∃ a, r.build b = .ok a ∧ P (f a) := by
  have hmap : ∀ y, (f <$> r).build b = .ok y ↔ ∃ a, r.build b = .ok a ∧ f a = y :=
    fun _ => map_eq_ok_iff
  simp only [hmap, exists_exists_and_eq_and]

theorem exists_build_seq {f : Record (α → β)} {r : Record α} {b : Bindings} {P : β → Prop} :
    (∃ y, (f <*> r).build b = .ok y ∧ P y) ↔
      ∃ g, f.build b = .ok g ∧ ∃ a, r.build b = .ok a ∧ P (g a) := by
  constructor
  · rintro ⟨y, hy, hP⟩
    obtain ⟨g, hg, hy⟩ := bind_eq_ok_iff.1 hy
    obtain ⟨a, ha, hy⟩ := bind_eq_ok_iff.1 hy
    cases hy
    exact ⟨g, hg, a, ha, hP⟩
  · rintro ⟨g, hg, a, ha, hP⟩
    exact ⟨g a, bind_eq_ok_iff.2 ⟨g, hg, bind_eq_ok_iff.2 ⟨a, ha, rfl⟩⟩, hP⟩

theorem exists_build_of_decode {name : String} {r : Record α} {t : Tree} {a : α}
    (h : decode name r t = .ok a) : ∃ b y, r.build b = .ok y ∧ y = a := by
  cases t with
  | scalar => cases h
  | broken => cases h
  | list start elements ending =>
    obtain ⟨_, -, h⟩ := bind_eq_ok_iff.1 h
    exact ⟨_, a, h, rfl⟩
  | object start members ending =>
    obtain ⟨_, -, h⟩ := bind_eq_ok_iff.1 h
    obtain ⟨_, -, h⟩ := bind_eq_ok_iff.1 h
    split at h
    · cases h
    · exact ⟨_, a, h, rfl⟩

end Record

end RuleLexer.Json
