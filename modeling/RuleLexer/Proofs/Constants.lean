import Std.Data.HashMap.Lemmas
import RuleLexer.Proofs.ByteOrder
import RuleLexer.Proofs.Sample
import RuleLexer.Vocabulary

/-!
# The first constant of each name

A vocabulary keeps, of all constants that the rules call for, the first one of each name, in their
order. Looking a name up finds the first constant of that name.

A `Table` collects constants one by one and notes the place of each under its name. Constants and
places stay in step, so the table gives the same answers as the vocabulary. The keywords come from
sets that may be walked in any order; they are put in order first, so the order of the walk does not
matter.
-/

namespace RuleLexer
open Text

namespace Vocabulary
variable {r : Rules} {c d : Constant} {cs : List Constant} {name : String}

/-! ## Keeping the first of each name -/

/-- The constants of a list whose name no constant before them has. -/
def newNames (cs : List Constant) : List Constant :=
  (cs.zipIdx.filter fun e => (cs.take e.2).all (·.name != e.1.name)).map (·.1)

/-- The constants behind `before` that have new names. -/
theorem filter_firstOfName (before cs : List Constant) :
    (firstOfName cs).filter (fun c => before.all (·.name != c.name)) =
      ((cs.zipIdx before.length).filter fun e =>
        ((before ++ cs).take e.2).all (·.name != e.1.name)).map (·.1) := by
  induction cs generalizing before with
  | nil => rfl
  | cons c cs ih =>
    have hrest := ih (before ++ [c])
    rw [List.append_assoc, List.singleton_append, List.length_append,
      List.length_singleton] at hrest
    have hseen : (fun d : Constant => (before ++ [c]).all (·.name != d.name)) =
        fun d => before.all (·.name != d.name) && d.name != c.name := by
      funext d
      simp [bne_comm]
    rw [firstOfName, List.zipIdx_cons, List.filter_cons, List.filter_cons, List.filter_filter,
      ← hseen, hrest, List.take_left]
    split
    · rfl
    · rfl

theorem firstOfName_eq_newNames (cs : List Constant) : firstOfName cs = newNames cs := by
  have h := filter_firstOfName [] cs
  simpa [newNames] using h

theorem nodup_firstOfName (cs : List Constant) : ((firstOfName cs).map (·.name)).Nodup := by
  induction cs with
  | nil => exact List.nodup_nil
  | cons c cs ih =>
    rw [firstOfName, List.map_cons, List.nodup_cons]
    refine ⟨fun hmem => ?_, ih.sublist (List.filter_sublist.map _)⟩
    obtain ⟨d, hd, hname⟩ := List.mem_map.1 hmem
    have hother := (List.mem_filter.1 hd).2
    rw [hname, bne_self_eq_false] at hother
    cases hother

/-- Keeping the first constant of each name does not change what is found under a name. -/
theorem find?_firstOfName (name : String) (cs : List Constant) :
    (firstOfName cs).find? (·.name == name) = cs.find? (·.name == name) := by
  induction cs with
  | nil => rfl
  | cons c cs ih =>
    rw [firstOfName, List.find?_cons, List.find?_cons]
    by_cases hc : c.name = name
    · simp [hc]
    · have hother :
          (fun d : Constant => decide ((d.name != c.name) = true ∧ (d.name == name) = true)) =
            (·.name == name) := by
        funext d
        grind
      rw [List.find?_filter, hother, ih]

theorem get?_ofRules (r : Rules) (name : String) :
    (ofRules r).get? name = ((entries r).find? (·.name == name)).map (·.value) := by
  rw [get?, ofRules, find?_firstOfName]

/-! ## Collecting constants -/

/-- Constants as they are collected, and the place of each under its name. -/
structure Table where
  constants : List Constant
  places : Std.HashMap String Nat

namespace Table
variable {t : Table}

def empty : Table := ⟨[], ∅⟩

/-- A constant whose name is taken is left out. -/
def push (t : Table) (c : Constant) : Table :=
  if t.places.contains c.name then t
  else ⟨t.constants ++ [c], t.places.insert c.name t.constants.length⟩

def get? (t : Table) (name : String) : Option String :=
  t.places[name]?.bind fun place => t.constants[place]?.map (·.value)

def names (t : Table) : List String := t.constants.map (·.name)

/-- A name has a place exactly when the constant there has the name. -/
def InStep (t : Table) : Prop :=
  ∀ (name : String) (place : Nat), t.places[name]? = some place ↔ t.names[place]? = some name

theorem inStep_empty : empty.InStep := by
  intro name place
  simp [empty, names]

theorem getElem?_concat_eq_some_iff {α : Type} {l : List α} {a b : α} {i : Nat} :
    (l ++ [a])[i]? = some b ↔ l[i]? = some b ∨ i = l.length ∧ a = b := by
  grind

theorem inStep_push (h : t.InStep) (c : Constant) : (t.push c).InStep := by
  unfold push
  split
  · exact h
  · next hnew =>
    intro name place
    have hfree : ∀ place : Nat, t.names[place]? ≠ some c.name := by
      intro place hplace
      have hat := (h c.name place).2 hplace
      exact hnew (Std.HashMap.contains_eq_isSome_getElem?.trans (hat ▸ rfl))
    have hlength : t.constants.length = t.names.length := (List.length_map _).symm
    have hnames : (⟨t.constants ++ [c], t.places.insert c.name t.constants.length⟩ : Table).names =
        t.names ++ [c.name] := List.map_append
    rw [hnames, Std.HashMap.getElem?_insert, hlength, getElem?_concat_eq_some_iff]
    by_cases hname : c.name = name
    · subst hname
      simp [hfree, eq_comm]
    · simp [hname, h name place]

theorem inStep_foldl_push (h : t.InStep) (cs : List Constant) : (cs.foldl push t).InStep := by
  induction cs generalizing t with
  | nil => exact h
  | cons c cs ih => exact ih (inStep_push h c)

/-- Of the constants that are pushed, the first of each new name is added. -/
theorem constants_foldl_push (t : Table) (cs : List Constant) :
    (cs.foldl push t).constants =
      t.constants ++ (firstOfName cs).filter fun c => !t.places.contains c.name := by
  induction cs generalizing t with
  | nil => simp [firstOfName]
  | cons c cs ih =>
    rw [List.foldl_cons, ih, firstOfName, List.filter_cons, List.filter_filter]
    cases hc : t.places.contains c.name with
    | true =>
      have hpush : t.push c = t := if_pos hc
      have hother : (fun d : Constant => (!t.places.contains d.name) && d.name != c.name) =
          fun d => !t.places.contains d.name := by
        funext d
        by_cases hd : d.name = c.name
        · simp [hd, hc]
        · simp [hd]
      rw [hpush, hother]
      rfl
    | false =>
      have hpush : t.push c = ⟨t.constants ++ [c], t.places.insert c.name t.constants.length⟩ :=
        if_neg (by simp [hc])
      have hother : (fun d : Constant => (!t.places.contains d.name) && d.name != c.name) =
          fun d => !(t.push c).places.contains d.name := by
        funext d
        rw [hpush, Std.HashMap.contains_insert, Bool.not_or, Bool.and_comm, bne_comm]
        rfl
      rw [hother, hpush, List.append_assoc]
      rfl

theorem names_nodup (h : t.InStep) : t.names.Nodup := by
  rw [List.nodup_iff_getElem?_ne_getElem?]
  intro i j hij hj heq
  have hname : t.names[j]? = some t.names[j] := List.getElem?_eq_getElem hj
  have hplace := (h _ i).2 (heq.trans hname)
  rw [(h _ j).2 hname, Option.some_inj] at hplace
  omega

/-- The constant at the place of a name is the one that has the name. -/
theorem get?_of_inStep (h : t.InStep) (name : String) :
    t.get? name = (t.constants.find? (·.name == name)).map (·.value) := by
  rw [get?]
  cases hplace : t.places[name]? with
  | none =>
    have hnone : t.constants.find? (·.name == name) = none := by
      rw [List.find?_eq_none]
      intro c hc hname
      obtain ⟨i, hi⟩ := List.mem_iff_getElem?.1 (List.mem_map_of_mem (f := (·.name)) hc)
      have hfound := (h _ i).2 hi
      rw [beq_iff_eq.1 hname, hplace] at hfound
      cases hfound
    rw [hnone]
    rfl
  | some place =>
    have hat := (h name place).1 hplace
    rw [names, List.getElem?_map] at hat
    obtain ⟨c, hc, hname⟩ := Option.map_eq_some_iff.1 hat
    have hfound : t.constants.find? (·.name == name) = some c :=
      (find?_eq_some_iff_of_nodup (names_nodup h) fun d => beq_iff_eq).2
        ⟨List.mem_of_getElem? hc, hname⟩
    rw [hfound, Option.bind_some, hc]

end Table

/-! ## The constants of rules -/

/-- The words of the keyword sets, each set in the order in which it happens to be walked. -/
structure KeywordWalk (r : Rules) where
  reserved : List String
  subsets : List (List String)
  reserved_perm : reserved.Perm r.keywords.reserved.toList
  subsets_perm : List.Forall₂ (fun s words => words.Perm s.words.toList) r.keywords.subsets subsets

namespace Table

/-- The walked words become constants in the order of their bytes. -/
def pushWords (t : Table) (words : List String) : Table :=
  (inByteOrder words).foldl (fun t word => t.push (.ofKeyword word)) t

/-- The constants of the rules, collected one by one. -/
def ofRules (r : Rules) (walk : KeywordWalk r) : Table :=
  let kinds := r.kinds.entries.foldl (fun t e => t.push (.ofKind e.1 e.2)) empty
  let tokens := r.tokens.entries.foldl (fun t e => t.push (.ofToken e.1 e.2)) kinds
  let quotes := r.strings.quotes.values.foldl (fun t s => t.push (.ofSubkind s)) tokens
  let reserved := (quotes.push (.ofSubkind r.keywords.subkind)).pushWords walk.reserved
  let subsets := (r.keywords.subsets.zip walk.subsets).foldl
    (fun t e => (t.push (.ofSubkind e.1.name)).pushWords e.2) reserved
  [r.words.subkind, r.numbers.subkind, r.numbers.floatSubkind].foldl
    (fun t s => t.push (.ofSubkind s)) subsets

theorem pushWords_of_perm (t : Table) {words : List String} {set : WordSet}
    (h : words.Perm set.toList) :
    t.pushWords words = (set.toList.map Constant.ofKeyword).foldl push t := by
  rw [pushWords, inByteOrder_eq h set.keys_pairwise_bytes, List.foldl_map]

theorem foldl_subsets (t : Table) {subsets : List KeywordSubset} {walked : List (List String)}
    (h : List.Forall₂ (fun s words => words.Perm s.words.toList) subsets walked) :
    (subsets.zip walked).foldl (fun t e => (t.push (.ofSubkind e.1.name)).pushWords e.2) t =
      (subsets.flatMap fun s =>
        .ofSubkind s.name :: s.words.toList.map .ofKeyword).foldl push t := by
  induction h generalizing t with
  | nil => rfl
  | cons hs _ ih =>
    rw [List.zip_cons_cons, List.foldl_cons, ih, pushWords_of_perm _ hs, List.flatMap_cons,
      List.foldl_append]
    rfl

/-- Whatever the walk, the constants are pushed in the order of the entries. -/
theorem ofRules_eq (r : Rules) (walk : KeywordWalk r) :
    ofRules r walk = (entries r).foldl push empty := by
  rw [ofRules, foldl_subsets _ walk.subsets_perm, pushWords_of_perm _ walk.reserved_perm, entries]
  simp only [List.foldl_append, List.foldl_cons, List.foldl_map, List.foldl_nil]

theorem inStep_ofRules (r : Rules) (walk : KeywordWalk r) : (ofRules r walk).InStep := by
  rw [ofRules_eq]
  exact inStep_foldl_push inStep_empty _

theorem constants_ofRules (r : Rules) (walk : KeywordWalk r) :
    (ofRules r walk).constants = firstOfName (entries r) := by
  rw [ofRules_eq, constants_foldl_push]
  simp [empty]

end Table

/-- The walk through the words in the order in which the rules hold them. -/
def KeywordWalk.inOrder (r : Rules) : KeywordWalk r where
  reserved := r.keywords.reserved.toList
  subsets := r.keywords.subsets.map (·.words.toList)
  reserved_perm := .refl _
  subsets_perm := List.forall₂_map_right_iff.2 (List.forall₂_same.2 fun _ _ => .refl _)

instance (r : Rules) : Inhabited (KeywordWalk r) := ⟨.inOrder r⟩

/-- The names of the constants of kinds, in order. -/
theorem kind_names :
    ["whitespace", "word", "keyword", "number", "delimiter", "operator", "string", "comment",
        "documentation", "eof"].map (fun category => "TK_" ++ uppercase category) =
      ["TK_WHITESPACE", "TK_WORD", "TK_KEYWORD", "TK_NUMBER", "TK_DELIMITER", "TK_OPERATOR",
        "TK_STRING", "TK_COMMENT", "TK_DOCUMENTATION", "TK_EOF"] := by
  decide +kernel

/-- Of the constants that the rules call for, in the order in which they are written out here, the
vocabulary has the first of each name and finds it under its name. Texts and words come in the order
of their bytes and quote characters in theirs. Collecting the constants one by one gives the same,
however the keywords are walked. -/
theorem ofRules_keeps_first (r : Rules) :
    let subkind (s : String) : Constant := ⟨"SK_" ++ uppercase s, uppercase s⟩
    let keyword (word : String) : Constant := ⟨"KW_" ++ uppercase word, word⟩
    let E : List Constant :=
      [⟨"TK_WHITESPACE", r.kinds.whitespace⟩, ⟨"TK_WORD", r.kinds.word⟩,
        ⟨"TK_KEYWORD", r.kinds.keyword⟩, ⟨"TK_NUMBER", r.kinds.number⟩,
        ⟨"TK_DELIMITER", r.kinds.delimiter⟩, ⟨"TK_OPERATOR", r.kinds.operator⟩,
        ⟨"TK_STRING", r.kinds.string⟩, ⟨"TK_COMMENT", r.kinds.comment⟩,
        ⟨"TK_DOCUMENTATION", r.kinds.documentation⟩, ⟨"TK_EOF", r.kinds.eof⟩] ++
      r.tokens.entries.map (fun e => ⟨uppercase e.2, e.1⟩) ++
      r.strings.quotes.entries.map (fun e => subkind e.2) ++
      subkind r.keywords.subkind :: r.keywords.reserved.toList.map keyword ++
      r.keywords.subsets.flatMap (fun s => subkind s.name :: s.words.toList.map keyword) ++
      [subkind r.words.subkind, subkind r.numbers.subkind, subkind r.numbers.floatSubkind]
    (ofRules r).constants = newNames E ∧
    ((ofRules r).constants.map (·.name)).Nodup ∧
    (∀ name, (ofRules r).get? name = (E.find? (·.name == name)).map (·.value)) ∧
    ((∀ texts ∈ r.tokens.keys :: r.keywords.reserved.toList ::
        r.keywords.subsets.map (·.words.toList), texts.Pairwise fun s t => bytes s < bytes t) ∧
      r.strings.quotes.keys.Pairwise (· < ·)) ∧
    ∀ walk : KeywordWalk r, (Table.ofRules r walk).InStep ∧
      (Table.ofRules r walk).constants = (ofRules r).constants ∧
      ∀ name, (Table.ofRules r walk).get? name = (ofRules r).get? name := by
  intro subkind keyword E
  have hentries : entries r = E := by
    have hkinds := kind_names
    simp only [List.map_cons, List.map_nil, List.cons.injEq] at hkinds
    simp only [entries, KindNames.entries, List.map_cons, List.map_nil, Constant.ofKind, hkinds,
      OrderedMap.values, List.map_map]
    rfl
  rw [← hentries]
  refine ⟨firstOfName_eq_newNames _, nodup_firstOfName _, get?_ofRules r, ⟨?_, ?_⟩, fun walk => ?_⟩
  · simp only [List.forall_mem_cons, List.forall_mem_map]
    exact ⟨r.tokens.keys_pairwise_bytes, r.keywords.reserved.keys_pairwise_bytes,
      fun s _ => s.words.keys_pairwise_bytes⟩
  · exact List.pairwise_map.2 (r.strings.quotes.sorted.imp compare_lt_iff_lt.1)
  · have hconstants := Table.constants_ofRules r walk
    have hstep := Table.inStep_ofRules r walk
    refine ⟨hstep, hconstants, fun name => ?_⟩
    rw [Table.get?_of_inStep hstep, hconstants]
    rfl

/-- A token whose name is written as the constant of a keyword comes before the keyword. -/
example : (ofRules { Rules.sample with tokens := .ofList [("+", "kw_if")] }).get? "KW_IF" =
    some "+" := by
  decide +kernel

end Vocabulary

end RuleLexer
