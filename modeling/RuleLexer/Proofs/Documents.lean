import RuleLexer.Json.Tree
import RuleLexer.Proofs.OrderedMap

/-!
# Documents and their values

A document in which no object repeats a key denotes its value faithfully: each element of a list
and each member of an object stands in the value, and nothing else does. Two documents that denote
the same value differ in places and in the order of members only. The tree of a value denotes the
value it is made from.
-/

namespace RuleLexer.Json

theorem bind_eq_ok_iff {ε α β : Type} {x : Except ε α} {f : α → Except ε β} {b : β} :
    x >>= f = .ok b ↔ ∃ a, x = .ok a ∧ f a = .ok b := by
  cases x with
  | error e => simp [bind, Except.bind]
  | ok a => simp [bind, Except.bind]

namespace Tree

mutual

/-- Whether no object in the document repeats a key. -/
def distinctKeys : Tree → Bool
  | .scalar _ _ => true
  | .list _ elements _ => elementsDistinct elements
  | .object _ members _ => decide (members.map (·.key)).Nodup && membersDistinct members
  | .broken _ => true

def elementsDistinct : List (Element Tree) → Bool
  | [] => true
  | ⟨value, _, _⟩ :: rest => value.distinctKeys && elementsDistinct rest

def membersDistinct : List (Member Tree) → Bool
  | [] => true
  | ⟨_, _, value, _⟩ :: rest => value.distinctKeys && membersDistinct rest

end

/-- Whether the elements tell rightly which of them is the last. -/
def SurplusFits : List (Element Tree) → Prop
  | [] => True
  | e :: rest => e.surplus.isSome = !rest.isEmpty ∧ SurplusFits rest

mutual

/-- In each list that is read to its end, the elements tell which of them is the last. -/
def Fits : Tree → Prop
  | .scalar _ _ => True
  | .list _ elements ending => ElementsFit elements ∧ (∀ stop, ending = .ok stop → SurplusFits elements)
  | .object _ members _ => MembersFit members
  | .broken _ => True

def ElementsFit : List (Element Tree) → Prop
  | [] => True
  | ⟨value, _, _⟩ :: rest => value.Fits ∧ ElementsFit rest

def MembersFit : List (Member Tree) → Prop
  | [] => True
  | ⟨_, _, value, _⟩ :: rest => value.Fits ∧ MembersFit rest

end

/-- A whole document of the value `j` that repeats no key. -/
structure Denotes (t : Tree) (j : Json) : Prop where
  value : t.toJson = .ok j
  distinct : t.distinctKeys = true
  fits : t.Fits

theorem itemsToJson_cons_eq_ok_iff {e : Element Tree} {es : List (Element Tree)}
    {items : List Json} :
    itemsToJson (e :: es) = .ok items ↔
      ∃ j rest, e.value.toJson = .ok j ∧ itemsToJson es = .ok rest ∧ items = j :: rest := by
  rw [itemsToJson, bind_eq_ok_iff]
  simp only [bind_eq_ok_iff, pure, Except.pure, Except.ok.injEq]
  grind

theorem entriesToJson_cons_eq_ok_iff {m : Member Tree} {ms : List (Member Tree)}
    {entries : List (String × Json)} :
    entriesToJson (m :: ms) = .ok entries ↔
      ∃ j rest, m.value.toJson = .ok j ∧ entriesToJson ms = .ok rest ∧
        entries = (m.key, j) :: rest := by
  rw [entriesToJson, bind_eq_ok_iff]
  simp only [bind_eq_ok_iff, pure, Except.pure, Except.ok.injEq]
  grind

/-- The elements of a list denote its items one by one. -/
inductive ElementsDenote : List (Element Tree) → List Json → Prop
  | nil : ElementsDenote [] []
  | cons {e : Element Tree} {es : List (Element Tree)} {j : Json} {items : List Json}
      (hvalue : e.value.Denotes j) (hsurplus : e.surplus.isSome = !items.isEmpty)
      (hrest : ElementsDenote es items) : ElementsDenote (e :: es) (j :: items)

/-- The members of an object denote entries of its value one by one. -/
inductive MembersDenote : List (Member Tree) → List (String × Json) → Prop
  | nil : MembersDenote [] []
  | cons {m : Member Tree} {ms : List (Member Tree)} {j : Json} {entries : List (String × Json)}
      (hvalue : m.value.Denotes j) (hrest : MembersDenote ms entries) :
      MembersDenote (m :: ms) ((m.key, j) :: entries)

theorem ElementsDenote.isEmpty_eq {es : List (Element Tree)} {items : List Json}
    (h : ElementsDenote es items) : es.isEmpty = items.isEmpty := by
  cases h <;> rfl

theorem MembersDenote.map_fst {ms : List (Member Tree)} {entries : List (String × Json)}
    (h : MembersDenote ms entries) : entries.map (·.1) = ms.map (·.key) := by
  induction h with
  | nil => rfl
  | cons _ _ ih => simp [ih]

theorem elementsDenote_iff {es : List (Element Tree)} {items : List Json} :
    ElementsDenote es items ↔
      itemsToJson es = .ok items ∧ elementsDistinct es = true ∧ ElementsFit es ∧ SurplusFits es := by
  induction es generalizing items with
  | nil =>
    constructor
    · rintro ⟨⟩
      exact ⟨rfl, rfl, trivial, trivial⟩
    · rintro ⟨hitems, -⟩
      cases hitems
      exact .nil
  | cons e es ih =>
    obtain ⟨value, after, surplus⟩ := e
    constructor
    · rintro (_ | ⟨hvalue, hsurplus, hrest⟩)
      obtain ⟨hitems, hdistinct, hfit, hlast⟩ := ih.1 hrest
      refine ⟨?_, ?_, ⟨hvalue.fits, hfit⟩, ⟨?_, hlast⟩⟩
      · exact itemsToJson_cons_eq_ok_iff.2 ⟨_, _, hvalue.value, hitems, rfl⟩
      · rw [elementsDistinct, hvalue.distinct, hdistinct]
        rfl
      · rw [hsurplus, hrest.isEmpty_eq]
    · rintro ⟨hitems, hdistinct, ⟨hvalue, hfit⟩, hsurplus, hlast⟩
      obtain ⟨j, js, hj, hjs, rfl⟩ := itemsToJson_cons_eq_ok_iff.1 hitems
      rw [elementsDistinct, Bool.and_eq_true] at hdistinct
      have hrest := ih.2 ⟨hjs, hdistinct.2, hfit, hlast⟩
      exact .cons ⟨hj, hdistinct.1, hvalue⟩ (by rw [hsurplus, hrest.isEmpty_eq]) hrest

theorem membersDenote_iff {ms : List (Member Tree)} {entries : List (String × Json)} :
    MembersDenote ms entries ↔
      entriesToJson ms = .ok entries ∧ membersDistinct ms = true ∧ MembersFit ms := by
  induction ms generalizing entries with
  | nil =>
    constructor
    · rintro ⟨⟩
      exact ⟨rfl, rfl, trivial⟩
    · rintro ⟨hentries, -⟩
      cases hentries
      exact .nil
  | cons m ms ih =>
    obtain ⟨key, afterKey, value, after⟩ := m
    constructor
    · rintro (_ | ⟨hvalue, hrest⟩)
      obtain ⟨hentries, hdistinct, hfit⟩ := ih.1 hrest
      refine ⟨?_, ?_, ⟨hvalue.fits, hfit⟩⟩
      · exact entriesToJson_cons_eq_ok_iff.2 ⟨_, _, hvalue.value, hentries, rfl⟩
      · rw [membersDistinct, hvalue.distinct, hdistinct]
        rfl
    · rintro ⟨hentries, hdistinct, hvalue, hfit⟩
      obtain ⟨j, js, hj, hjs, rfl⟩ := entriesToJson_cons_eq_ok_iff.1 hentries
      rw [membersDistinct, Bool.and_eq_true] at hdistinct
      exact .cons ⟨hj, hdistinct.1, hvalue⟩ (ih.2 ⟨hjs, hdistinct.2, hfit⟩)

section Shapes
variable {start : Option Nat} {ending : Except Fault (Option Nat)} {j : Json}

theorem denotes_scalar_iff {s : Scalar} {stop : Option Nat} :
    (Tree.scalar s stop).Denotes j ↔ j = .scalar s := by
  constructor
  · rintro ⟨hvalue, -, -⟩
    exact (Except.ok.inj hvalue).symm
  · rintro rfl
    exact ⟨rfl, rfl, trivial⟩

theorem denotes_list_iff {es : List (Element Tree)} :
    (Tree.list start es ending).Denotes j ↔
      ∃ items stop, j = .list items ∧ ending = .ok stop ∧ ElementsDenote es items := by
  constructor
  · rintro ⟨hvalue, hdistinct, hfit, hlast⟩
    rw [toJson, bind_eq_ok_iff] at hvalue
    obtain ⟨items, hitems, hvalue⟩ := hvalue
    obtain ⟨stop, hstop, hvalue⟩ := bind_eq_ok_iff.1 hvalue
    cases hvalue
    exact ⟨items, stop, rfl, hstop, elementsDenote_iff.2 ⟨hitems, hdistinct, hfit, hlast stop hstop⟩⟩
  · rintro ⟨items, stop, rfl, rfl, hitems⟩
    obtain ⟨hvalue, hdistinct, hfit, hlast⟩ := elementsDenote_iff.1 hitems
    refine ⟨?_, hdistinct, hfit, fun _ _ => hlast⟩
    rw [toJson, hvalue]
    rfl

theorem denotes_object_iff {ms : List (Member Tree)} :
    (Tree.object start ms ending).Denotes j ↔
      ∃ entries stop, j = .ofMembers entries ∧ ending = .ok stop ∧ (ms.map (·.key)).Nodup ∧
        MembersDenote ms entries := by
  constructor
  · rintro ⟨hvalue, hdistinct, hfit⟩
    rw [toJson, bind_eq_ok_iff] at hvalue
    obtain ⟨entries, hentries, hvalue⟩ := hvalue
    obtain ⟨stop, hstop, hvalue⟩ := bind_eq_ok_iff.1 hvalue
    cases hvalue
    rw [distinctKeys, Bool.and_eq_true, decide_eq_true_iff] at hdistinct
    exact ⟨entries, stop, rfl, hstop, hdistinct.1, membersDenote_iff.2 ⟨hentries, hdistinct.2, hfit⟩⟩
  · rintro ⟨entries, stop, rfl, rfl, hkeys, hentries⟩
    obtain ⟨hvalue, hdistinct, hfit⟩ := membersDenote_iff.1 hentries
    refine ⟨?_, ?_, hfit⟩
    · rw [toJson, hvalue]
      rfl
    · rw [distinctKeys, hdistinct, decide_eq_true hkeys]
      rfl

theorem not_denotes_broken {f : Fault} : ¬ (Tree.broken f).Denotes j := by
  rintro ⟨hvalue, -, -⟩
  cases hvalue

end Shapes

end Tree

/-! ## The tree of a value -/

theorem ofMembers_eq (entries : List (String × Json)) :
    Json.ofMembers entries = .object (OrderedMap.ofList entries).entries := by
  rw [ofMembers, OrderedMap.entries_ofList]

theorem map_key_toMembers (entries : List (String × Json)) :
    (toMembers entries).map (·.key) = entries.map (·.1) := by
  induction entries with
  | nil => rfl
  | cons e rest ih => simp [toMembers, ih]

open RuleLexer.Json.Tree

theorem elementsDenote_toElements {items : List Json} (h : ∀ j ∈ items, j.toTree.Denotes j)
    (length : Nat) : ElementsDenote (toElements length items) items := by
  induction items with
  | nil => exact .nil
  | cons j rest ih =>
    refine .cons (h j List.mem_cons_self) ?_ (ih fun i hi => h i (List.mem_cons_of_mem j hi))
    cases rest <;> rfl

theorem membersDenote_toMembers {entries : List (String × Json)}
    (h : ∀ e ∈ entries, e.2.toTree.Denotes e.2) : MembersDenote (toMembers entries) entries := by
  induction entries with
  | nil => exact .nil
  | cons e rest ih =>
    exact .cons (h e List.mem_cons_self) (ih fun d hd => h d (List.mem_cons_of_mem e hd))

theorem list_toTree_denotes {items : List Json} (h : ∀ j ∈ items, j.toTree.Denotes j) :
    (Json.list items).toTree.Denotes (.list items) :=
  denotes_list_iff.2 ⟨items, none, rfl, rfl, elementsDenote_toElements h items.length⟩

theorem ofMembers_toTree_denotes {entries : List (String × Json)}
    (h : ∀ e ∈ entries, e.2.toTree.Denotes e.2) :
    (Json.ofMembers entries).toTree.Denotes (.ofMembers entries) := by
  rw [ofMembers_eq]
  have hsorted := (OrderedMap.ofList entries).sorted
  refine denotes_object_iff.2 ⟨(OrderedMap.ofList entries).entries, none, ?_, rfl, ?_, ?_⟩
  · rw [ofMembers_eq, OrderedMap.entries_ofList_of_sorted hsorted]
  · rw [map_key_toMembers]
    exact OrderedMap.nodup_keys_of_sorted hsorted
  · exact membersDenote_toMembers fun e he => h e (OrderedMap.mem_of_mem_ofList he)

mutual

/-- The tree of a document's value denotes that value. -/
theorem toTree_denotes : ∀ {t : Tree} {j : Json}, t.toJson = .ok j → j.toTree.Denotes j
  | .scalar s stop, j, h => by
    cases h
    exact denotes_scalar_iff.2 rfl
  | .list start es ending, j, h => by
    rw [toJson, bind_eq_ok_iff] at h
    obtain ⟨items, hitems, h⟩ := h
    obtain ⟨stop, -, h⟩ := bind_eq_ok_iff.1 h
    cases h
    exact list_toTree_denotes (items_toTree_denote hitems)
  | .object start ms ending, j, h => by
    rw [toJson, bind_eq_ok_iff] at h
    obtain ⟨entries, hentries, h⟩ := h
    obtain ⟨stop, -, h⟩ := bind_eq_ok_iff.1 h
    cases h
    exact ofMembers_toTree_denotes (entries_toTree_denote hentries)

theorem items_toTree_denote : ∀ {es : List (Element Tree)} {items : List Json},
    itemsToJson es = .ok items → ∀ j ∈ items, j.toTree.Denotes j
  | [], items, h => by
    cases h
    simp
  | ⟨value, _, _⟩ :: es, items, h => by
    obtain ⟨j, js, hj, hjs, rfl⟩ := itemsToJson_cons_eq_ok_iff.1 h
    have hrest := items_toTree_denote hjs
    have hvalue := toTree_denotes hj
    simpa using ⟨hvalue, hrest⟩

theorem entries_toTree_denote : ∀ {ms : List (Member Tree)} {entries : List (String × Json)},
    entriesToJson ms = .ok entries → ∀ e ∈ entries, e.2.toTree.Denotes e.2
  | [], entries, h => by
    cases h
    simp
  | ⟨key, _, value, _⟩ :: ms, entries, h => by
    obtain ⟨j, es, hj, hes, rfl⟩ := entriesToJson_cons_eq_ok_iff.1 h
    have hrest := entries_toTree_denote hes
    have hvalue := toTree_denotes hj
    intro e he
    rcases List.mem_cons.1 he with rfl | he
    · exact hvalue
    · exact hrest e he

end

/-! ## Documents of one value -/

namespace Tree
variable {t t' : Tree} {es es' : List (Element Tree)} {ms ms' : List (Member Tree)}

/-- Whole documents of one value, neither of which repeats a key. -/
def Alike (t t' : Tree) : Prop := ∃ j, t.Denotes j ∧ t'.Denotes j

theorem Alike.symm (h : t.Alike t') : t'.Alike t := by
  obtain ⟨j, ht, ht'⟩ := h
  exact ⟨j, ht', ht⟩

/-- Elements that are alike one by one. -/
inductive ElementsAlike : List (Element Tree) → List (Element Tree) → Prop
  | nil : ElementsAlike [] []
  | cons {e e' : Element Tree} {es es' : List (Element Tree)} (hvalue : e.value.Alike e'.value)
      (hsurplus : e.surplus.isSome = e'.surplus.isSome) (hrest : ElementsAlike es es') :
      ElementsAlike (e :: es) (e' :: es')

/-- Members of two objects that are alike key by key, in whatever order they stand. -/
structure MembersAlike (ms ms' : List (Member Tree)) : Prop where
  nodup : (ms.map (·.key)).Nodup
  nodup' : (ms'.map (·.key)).Nodup
  found : ∀ m ∈ ms, ∃ m' ∈ ms', m'.key = m.key ∧ m.value.Alike m'.value
  found' : ∀ m' ∈ ms', ∃ m ∈ ms, m.key = m'.key ∧ m'.value.Alike m.value

theorem MembersAlike.symm (h : MembersAlike ms ms') : MembersAlike ms' ms :=
  ⟨h.nodup', h.nodup, h.found', h.found⟩

/-- How two documents of one value compare. -/
inductive Paired : Tree → Tree → Prop
  | scalar (s : Scalar) (stop stop' : Option Nat) : Paired (.scalar s stop) (.scalar s stop')
  | list {es es' : List (Element Tree)} (start start' stop stop' : Option Nat)
      (h : ElementsAlike es es') :
      Paired (.list start es (.ok stop)) (.list start' es' (.ok stop'))
  | object {ms ms' : List (Member Tree)} (start start' stop stop' : Option Nat)
      (h : MembersAlike ms ms') :
      Paired (.object start ms (.ok stop)) (.object start' ms' (.ok stop'))

theorem ElementsDenote.alike {items : List Json} (h : ElementsDenote es items)
    (h' : ElementsDenote es' items) : ElementsAlike es es' := by
  induction h generalizing es' with
  | nil =>
    cases h'
    exact .nil
  | @cons e es j items hvalue hsurplus hrest ih =>
    obtain _ | ⟨hvalue', hsurplus', hrest'⟩ := h'
    exact .cons ⟨j, hvalue, hvalue'⟩ (hsurplus.trans hsurplus'.symm) (ih hrest')

theorem MembersDenote.exists_entry {entries : List (String × Json)} (h : MembersDenote ms entries)
    {m : Member Tree} (hm : m ∈ ms) : ∃ j, (m.key, j) ∈ entries ∧ m.value.Denotes j := by
  induction h with
  | nil => cases hm
  | cons hvalue hrest ih =>
    rcases List.mem_cons.1 hm with rfl | hm
    · exact ⟨_, List.mem_cons_self, hvalue⟩
    · obtain ⟨j, hj, hdenotes⟩ := ih hm
      exact ⟨j, List.mem_cons_of_mem _ hj, hdenotes⟩

theorem MembersDenote.exists_member {entries : List (String × Json)} (h : MembersDenote ms entries)
    {key : String} {j : Json} (he : (key, j) ∈ entries) :
    ∃ m ∈ ms, m.key = key ∧ m.value.Denotes j := by
  induction h with
  | nil => cases he
  | @cons m ms j' entries hvalue hrest ih =>
    rcases List.mem_cons.1 he with heq | he
    · obtain ⟨rfl, rfl⟩ := Prod.mk.inj heq
      exact ⟨m, List.mem_cons_self, rfl, hvalue⟩
    · obtain ⟨n, hn, hkey, hdenotes⟩ := ih he
      exact ⟨n, List.mem_cons_of_mem m hn, hkey, hdenotes⟩

theorem MembersDenote.found {entries entries' : List (String × Json)}
    (h : MembersDenote ms entries) (h' : MembersDenote ms' entries')
    (hentries : entries.Perm entries') {m : Member Tree} (hm : m ∈ ms) :
    ∃ m' ∈ ms', m'.key = m.key ∧ m.value.Alike m'.value := by
  obtain ⟨j, hj, hdenotes⟩ := h.exists_entry hm
  obtain ⟨m', hm', hkey, hdenotes'⟩ := h'.exists_member (hentries.mem_iff.1 hj)
  exact ⟨m', hm', hkey, j, hdenotes, hdenotes'⟩

theorem entries_perm_of_ofMembers_eq {entries entries' : List (String × Json)}
    (hkeys : (entries.map (·.1)).Nodup) (hkeys' : (entries'.map (·.1)).Nodup)
    (h : Json.ofMembers entries = .ofMembers entries') : entries.Perm entries' := by
  rw [ofMembers_eq, ofMembers_eq, Json.object.injEq] at h
  have hperm := OrderedMap.entries_ofList_perm hkeys
  rw [h] at hperm
  exact hperm.symm.trans (OrderedMap.entries_ofList_perm hkeys')

theorem Alike.paired (h : t.Alike t') : Paired t t' := by
  obtain ⟨j, ht, ht'⟩ := h
  cases t with
  | scalar s stop =>
    obtain rfl := denotes_scalar_iff.1 ht
    cases t' with
    | scalar s' stop' =>
      obtain rfl := Json.scalar.inj (denotes_scalar_iff.1 ht')
      exact .scalar s stop stop'
    | list start es ending =>
      obtain ⟨items, stop', hj, -⟩ := denotes_list_iff.1 ht'
      cases hj
    | object start ms ending =>
      obtain ⟨entries, stop', hj, -⟩ := denotes_object_iff.1 ht'
      cases hj
    | broken f => exact absurd ht' not_denotes_broken
  | list start es ending =>
    obtain ⟨items, stop, rfl, rfl, hitems⟩ := denotes_list_iff.1 ht
    cases t' with
    | scalar s' stop' => cases denotes_scalar_iff.1 ht'
    | list start' es' ending' =>
      obtain ⟨items', stop', hj, rfl, hitems'⟩ := denotes_list_iff.1 ht'
      cases hj
      exact .list start start' stop stop' (hitems.alike hitems')
    | object start ms ending =>
      obtain ⟨entries, stop', hj, -⟩ := denotes_object_iff.1 ht'
      cases hj
    | broken f => exact absurd ht' not_denotes_broken
  | object start ms ending =>
    obtain ⟨entries, stop, rfl, rfl, hkeys, hentries⟩ := denotes_object_iff.1 ht
    cases t' with
    | scalar s' stop' => cases denotes_scalar_iff.1 ht'
    | list start es ending =>
      obtain ⟨items, stop', hj, -⟩ := denotes_list_iff.1 ht'
      cases hj
    | object start' ms' ending' =>
      obtain ⟨entries', stop', hj, rfl, hkeys', hentries'⟩ := denotes_object_iff.1 ht'
      have hperm := entries_perm_of_ofMembers_eq (by rwa [hentries.map_fst])
        (by rwa [hentries'.map_fst]) hj
      exact .object start start' stop stop' ⟨hkeys, hkeys',
        fun _ hm => hentries.found hentries' hperm hm,
        fun _ hm => hentries'.found hentries hperm.symm hm⟩
    | broken f => exact absurd ht' not_denotes_broken
  | broken f => exact absurd ht not_denotes_broken

end Tree

end RuleLexer.Json
