import RuleLexer.Proofs.Consistency
import RuleLexer.Proofs.Decoders
import RuleLexer.Proofs.Reading
import RuleLexer.Proofs.Reordering
import RuleLexer.Proofs.Sample
import RuleLexer.Rules.Loading

/-!
# Loading goes by the value

Rules come out the same from a text and from the value that the text denotes.
-/

namespace RuleLexer
open Json Json.Tree

instance : charSet.ByValue := inferInstanceAs (Decoder.text.map CharSet.ofString).ByValue

instance : upperText.ByValue := inferInstanceAs (Decoder.text.map Text.uppercase).ByValue

instance : KindNames.decode.ByValue := by
  unfold KindNames.decode
  infer_instance

instance : WhitespaceRules.decode.ByValue := by
  unfold WhitespaceRules.decode
  infer_instance

instance : StringRules.decode.ByValue := by
  unfold StringRules.decode
  infer_instance

instance : NumberBase.decode.ByValue := by
  unfold NumberBase.decode
  infer_instance

instance : NumberRules.decode.ByValue := by
  unfold NumberRules.decode
  infer_instance

instance : OperatorRules.decode.ByValue := by
  unfold OperatorRules.decode
  infer_instance

instance : DelimiterRules.decode.ByValue := by
  unfold DelimiterRules.decode
  infer_instance

instance : BlockMarkers.decode.ByValue := by
  unfold BlockMarkers.decode
  infer_instance

instance : CommentRules.decode.ByValue := by
  unfold CommentRules.decode
  infer_instance

instance : WordRules.decode.ByValue := by
  unfold WordRules.decode
  infer_instance

/-! ## Keywords -/

namespace KeywordTable
variable {ms ms' : List (Member Tree)}

instance : words.ByValue := inferInstanceAs (Decoder.list .text).ByValue

/-- The fields of a table as a record. -/
def record : Record (String × List String × List String) :=
  (fun subkind reserved subkinds => (subkind, reserved, subkinds)) <$>
    Record.field "subkind" .text <*> Record.field "reserved" words <*>
      Record.fieldOr "subkinds" words []

instance : record.ByValue := by
  unfold record
  infer_instance

theorem anyValue_alike {t t' : Tree} (h : t.Alike t') : anyValue t' = .ok () := by
  obtain ⟨j, -, ht'⟩ := h
  rw [anyValue, ht'.value]
  rfl

theorem check_alike {f : Field} (hf : f ∈ fields) {t t' : Tree} (h : t.Alike t')
    (ht : f.check t = .ok ()) : f.check t' = .ok () :=
  Record.ByValue.check (r := record) f hf h ht

/-- The check of one member: a word list is only read through. -/
def checkMember (m : Member Tree) : Except Fault Unit :=
  match fields.find? (·.name == m.key) with
  | none => anyValue m.value
  | some f => f.check m.value

theorem checkMembers_eq_ok_iff {seen : List String} (hms : (ms.map (·.key)).Nodup)
    (hseen : ∀ m ∈ ms, m.key ∉ seen) :
    checkMembers seen ms = .ok () ↔ ∀ m ∈ ms, checkMember m = .ok () := by
  induction ms generalizing seen with
  | nil => simp [checkMembers]
  | cons m ms ih =>
    rw [List.map_cons, List.nodup_cons] at hms
    rw [List.forall_mem_cons] at hseen ⊢
    rw [checkMembers, checkMember]
    cases fields.find? (·.name == m.key) with
    | none =>
      rw [bind_eq_ok_iff]
      simp only [ih hms.2 hseen.2]
      grind
    | some f =>
      have hrest : ∀ n ∈ ms, n.key ∉ m.key :: seen := by
        intro n hn hmem
        rcases List.mem_cons.1 hmem with heq | hmem
        · exact hms.1 (heq ▸ List.mem_map_of_mem hn)
        · exact hseen.2 n hn hmem
      simp only [List.contains_eq_mem, hseen.1, decide_false, Bool.false_eq_true, if_false]
      rw [bind_eq_ok_iff]
      simp only [ih hms.2 hrest]
      grind

theorem checkMembers_alike (h : MembersAlike ms ms') (hms : checkMembers [] ms = .ok ()) :
    checkMembers [] ms' = .ok () := by
  rw [checkMembers_eq_ok_iff h.nodup fun _ _ => List.not_mem_nil] at hms
  rw [checkMembers_eq_ok_iff h.nodup' fun _ _ => List.not_mem_nil]
  intro m' hm'
  obtain ⟨m, hm, hkey, halike⟩ := h.found' m' hm'
  have hcheck := hms m hm
  rw [checkMember, hkey] at hcheck
  rw [checkMember]
  cases hf : fields.find? (·.name == m'.key) with
  | none => exact anyValue_alike halike.symm
  | some f =>
    rw [hf] at hcheck
    exact check_alike (List.mem_of_find?_eq_some hf) halike.symm hcheck

theorem entries_words (ms : List (Member Tree)) :
    Decoder.entries (κ := String) .ok words ms =
      ms.mapM fun m => (words m.value).map fun ws => (m.key, ws) := by
  induction ms with
  | nil => rfl
  | cons m ms ih =>
    rw [Decoder.entries, List.mapM_cons, ← ih]
    cases words m.value with
    | error f => rfl
    | ok ws => rfl

theorem wordLists_alike (h : MembersAlike ms ms') {lists : List (String × List String)}
    (hms : wordLists ms = .ok lists) :
    ∃ lists', wordLists ms' = .ok lists' ∧ lists.Perm lists' ∧ (lists.map (·.1)).Nodup := by
  unfold wordLists at hms ⊢
  rw [← entries_words] at hms ⊢
  exact Decoder.entries_alike (fun h h' => Except.ok.inj (h.trans h'.symm))
    (h.filter fun key => !fields.any (·.name == key)) hms

theorem decode_object_eq_ok_iff {start stop : Option Nat} {table : KeywordTable} :
    decode (.object start ms (.ok stop)) = .ok table ↔
      checkMembers [] ms = .ok () ∧ Record.missing? fields ms = none ∧
        ∃ subkind reserved subkinds lists,
          record.build (ms.map fun m => (m.key, m.value)) = .ok (subkind, reserved, subkinds) ∧
          wordLists ms = .ok lists ∧
          table = ⟨subkind, .ofList reserved, subkinds,
            .ofList (lists.map fun l => (l.1, OrderedSet.ofList l.2))⟩ := by
  constructor
  · intro h
    obtain ⟨_, hcheck, h⟩ := bind_eq_ok_iff.1 h
    obtain ⟨_, -, h⟩ := bind_eq_ok_iff.1 h
    split at h
    · cases h
    · next hmissing =>
      obtain ⟨⟨subkind, reserved, subkinds⟩, htable, h⟩ := bind_eq_ok_iff.1 h
      obtain ⟨lists, hlists, h⟩ := bind_eq_ok_iff.1 h
      cases h
      exact ⟨hcheck, hmissing, subkind, reserved, subkinds, lists, htable,
        mapError_eq_ok_iff.1 hlists, rfl⟩
  · rintro ⟨hcheck, hmissing, subkind, reserved, subkinds, lists, htable, hlists, rfl⟩
    refine bind_eq_ok_iff.2 ⟨(), hcheck, bind_eq_ok_iff.2 ⟨stop, rfl, ?_⟩⟩
    rw [hmissing]
    exact bind_eq_ok_iff.2 ⟨_, htable,
      bind_eq_ok_iff.2 ⟨lists, mapError_eq_ok_iff.2 hlists, rfl⟩⟩

instance : decode.ByValue where
  eq_ok h hd := by
    cases h.paired with
    | scalar => cases hd
    | list => cases hd
    | object start start' stop stop' hms =>
      obtain ⟨hcheck, hmissing, subkind, reserved, subkinds, lists, htable, hlists, rfl⟩ :=
        decode_object_eq_ok_iff.1 hd
      obtain ⟨lists', hlists', hperm, hnodup⟩ := wordLists_alike hms hlists
      have htable' := Record.ByValue.build (r := record) hms.bindings htable
      refine decode_object_eq_ok_iff.2 ⟨checkMembers_alike hms hcheck, ?_, subkind, reserved,
        subkinds, lists', htable', hlists', ?_⟩
      · rw [← Record.missing?_alike hms, hmissing]
      · rw [OrderedMap.ofList_perm (hperm.map _) (by simpa [Function.comp_def] using hnodup)]

end KeywordTable

instance : KeywordRules.decode.ByValue where
  eq_ok h hd := by
    obtain ⟨table, htable, hd⟩ := bind_eq_ok_iff.1 hd
    have htable' := Decoder.ByValue.eq_ok h htable
    exact bind_eq_ok_iff.2 ⟨table, htable', hd⟩

/-! ## The whole document -/

instance : Rules.decode.ByValue := by
  unfold Rules.decode
  infer_instance

namespace Rules
variable {text : String} {r : Rules}

theorem parse_eq_ok_iff : Rules.parse text = .ok r ↔
    Rules.decode (readDocument text).tree = .ok r ∧ (readDocument text).trailing = none := by
  unfold Rules.parse
  rw [bind_eq_ok_iff]
  cases (readDocument text).trailing with
  | none => simp [pure, Except.pure]
  | some f => simp [throw, throwThe, MonadExceptOf.throw]

theorem checked_eq_ok_iff {r' : Rules} : r.checked = .ok r' ↔ r = r' ∧ r'.validate = .ok () := by
  unfold checked
  constructor
  · intro h
    split at h
    · cases h
    · next hv =>
      cases h
      exact ⟨rfl, hv⟩
  · rintro ⟨rfl, hv⟩
    rw [hv]

theorem ofText_eq_ok_iff : Rules.ofText text = .ok r ↔
    Rules.decode (readDocument text).tree = .ok r ∧ (readDocument text).trailing = none ∧
      r.validate = .ok () := by
  rw [← and_assoc, ← parse_eq_ok_iff, ofText, load]
  cases Rules.parse text with
  | error f => simp
  | ok r' => simp [checked_eq_ok_iff]

/-- Faults that are placed in another way leave the outcome as it is, up to their places. -/
theorem load_withoutPlace (place place' : Json.Fault → Option Json.Place) (text : String) :
    (load place text).mapError LoadError.withoutPlace =
      (load place' text).mapError LoadError.withoutPlace := by
  unfold load
  cases Rules.parse text with
  | error f => rfl
  | ok r => rfl

theorem ofJson_eq_ok_iff {j : Json} : Rules.ofJson j = .ok r ↔
    Rules.decode j.toTree = .ok r ∧ r.validate = .ok () := by
  rw [ofJson, ofJsonUnchecked]
  cases Rules.decode j.toTree with
  | error f => simp [Except.mapError, Except.bind]
  | ok r' => simp [Except.mapError, Except.bind, checked_eq_ok_iff]

/-- Documents of one value give the same rules. -/
theorem decode_alike {t t' : Tree} (h : t.Alike t') :
    Rules.decode t = .ok r ↔ Rules.decode t' = .ok r :=
  ⟨Decoder.ByValue.eq_ok h, Decoder.ByValue.eq_ok h.symm⟩

theorem ofText_eq_ok_iff_ofJson {v : Json} (hv : Json.parse text = .ok v)
    (hkeys : (readDocument text).tree.distinctKeys = true) :
    Rules.ofText text = .ok r ↔ Rules.ofJson v = .ok r := by
  obtain ⟨hvalue, htrailing⟩ := Json.parse_eq_ok_iff.1 hv
  have halike : (readDocument text).tree.Alike v.toTree :=
    ⟨v, readDocument_denotes hv hkeys, toTree_denotes hvalue⟩
  rw [ofText_eq_ok_iff, ofJson_eq_ok_iff, decode_alike halike]
  simp [htrailing]

end Rules

/-- A text that repeats no key gives the same rules as its value and as any text that writes the
members of its objects in another order. A reader of its bytes gives the same rules or error, only
that it may place a fault differently. -/
theorem load_by_value {text : String} {v : Json} (hv : Json.parse text = .ok v)
    (hkeys : (readDocument text).tree.distinctKeys = true) :
    (∀ r, Rules.ofText text = .ok r ↔ Rules.ofJson v = .ok r) ∧
      (∀ reader : Reader, reader.bytes = text.toUTF8 →
        (Rules.ofReader reader).mapError LoadError.withoutPlace =
          (Rules.ofText text).mapError LoadError.withoutPlace) ∧
      ∀ text' v', Json.parse text' = .ok v' →
        (readDocument text).tree.Reorders (readDocument text').tree →
          ∀ r, Rules.ofText text' = .ok r ↔ Rules.ofText text = .ok r := by
  refine ⟨fun r => Rules.ofText_eq_ok_iff_ofJson hv hkeys, fun reader hbytes => ?_, ?_⟩
  · rw [Rules.ofReader, Reader.text_eq hbytes]
    exact Rules.load_withoutPlace _ _ text
  · intro text' v' hv' hreorders r
    obtain ⟨hvalue, -⟩ := Json.parse_eq_ok_iff.1 hv
    obtain ⟨hvalue', hkeys'⟩ := hreorders.toJson_eq hkeys hvalue
    obtain rfl : v = v' := Except.ok.inj (hvalue'.symm.trans (Json.parse_eq_ok_iff.1 hv').1)
    rw [Rules.ofText_eq_ok_iff_ofJson hv' hkeys', Rules.ofText_eq_ok_iff_ofJson hv hkeys]

/-- Rules in a text that writes records in both forms and their fields in no particular order. -/
def Rules.sampleText : String :=
  "\x7b\"word\": [\"name\", 8], \"document\": [\"--\", \"L\", true],
    \"keyword\": \x7b\"subkinds\": [\"type\"], \"type\": [\"int\"],
      \"subkind\": \"r\", \"reserved\": [\"if\"]\x7d,
    \"kinds\": [\"S\", \"W\", \"K\", \"N\", \"D\", \"O\", \"T\", \"C\", \"M\", \"E\"],
    \"whitespace\": [\" \"], \"string\": [null, \x7b\"'\": \"Q\"\x7d],
    \"number\": \x7b\"subkind\": \"I\", \"float_subkind\": \"F\"\x7d,
    \"operator\": [\"+-\", 2], \"delimiter\": [\",\"], \"comment\": [null, \"L\"]\x7d"

-- The characters of the text are put in before it is read, as taking them off a string is slow.
set_option maxRecDepth 4000 in
theorem load_by_value_sample :
    ∃ v r, Json.parse Rules.sampleText = .ok v ∧
      (readDocument Rules.sampleText).tree.distinctKeys = true ∧
      Rules.ofText Rules.sampleText = .ok r ∧ Rules.ofJson v = .ok r ∧
      Rules.ofReader (.ofText Rules.sampleText) = .ok r := by
  have hchars : readDocument Rules.sampleText = readCharacters _ :=
    congrArg readCharacters String.toList_ofList
  have hread : (readDocument Rules.sampleText).tree.distinctKeys = true ∧
      (readDocument Rules.sampleText).trailing = none ∧
      (readDocument Rules.sampleText).tree.toJson.toOption.map (fun _ => ()) = some () ∧
      (Rules.decode (readDocument Rules.sampleText).tree).toOption.map (·.violation?) =
        some none := by
    rw [hchars]
    decide +kernel
  obtain ⟨hkeys, htrailing, hvalue, hrules⟩ := hread
  obtain ⟨v, hv, -⟩ := exists_ok_of_toOption_map hvalue
  obtain ⟨r, hr, hvalid⟩ := exists_ok_of_toOption_map hrules
  have hparse := Json.parse_eq_ok_iff.2 ⟨hv, htrailing⟩
  have htext := Rules.ofText_eq_ok_iff.2 ⟨hr, htrailing, Rules.validate_eq_ok_iff.2 hvalid⟩
  obtain ⟨hjson, hreaders, -⟩ := load_by_value hparse hkeys
  have hreader := hreaders (.ofText Rules.sampleText) (by simp [Reader.bytes, Reader.ofText])
  rw [htext] at hreader
  exact ⟨v, r, hparse, hkeys, htext, (hjson r).1 htext, mapError_eq_ok_iff.1 hreader⟩

end RuleLexer
