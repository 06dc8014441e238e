import Mathlib.Data.List.Chain
import RuleLexer.Proofs.Keeping
import RuleLexer.Proofs.Sample
import RuleLexer.Proofs.Tokens

/-!
# Tokens tile their text

The tokens of a text stand in order, each on a stretch of its own between two cuts, and the last is
the empty one at the end. When nothing is left out they abut, and their values joined are the text.
-/

namespace RuleLexer
open Text

/-- The token covers a part of the text, at least one character long. -/
structure Token.Covers (t : Token) (s : Source) : Prop where
  nonempty : t.start < t.stop
  inside : t.stop ≤ s.size
  startCut : IsCut s.chars t.start
  stopCut : IsCut s.chars t.stop
  slice : s.slice? t.start t.stop = some (t.value s)

structure Token.IsEnd (t : Token) (r : Rules) (s : Source) : Prop where
  kind : t.kind = r.kinds.eof
  subkind : t.subkind = ""
  start : t.start = s.size
  stop : t.stop = s.size

structure Tiling (r : Rules) (s : Source) (tokens : List Token) : Prop where
  last : ∃ t, tokens.getLast? = some t ∧ t.IsEnd r s
  covers : ∀ t ∈ tokens.dropLast, t.Covers s
  ordered : tokens.IsChain fun t u => t.stop ≤ u.start

/-- Nothing is lost between the tokens. -/
structure Lossless (s : Source) (tokens : List Token) : Prop where
  first : tokens.head?.map (·.start) = some 0
  abut : tokens.IsChain fun t u => t.stop = u.start
  joined : s.text? = some (String.join (tokens.map (·.value s)))

/-! ## Order -/

section Order
variable {text : List Char} {p : Position} {ls : List Lexeme}

theorem index_le_of_mem_placed {t : Token} (ht : t ∈ placed text p ls) : p.index ≤ t.start := by
  obtain ⟨before, l, after, -, hl⟩ := mem_placed_iff.1 ht
  rw [Lexeme.start_of_token? hl, Position.walk_index]
  exact Nat.le_add_right _ _

theorem placed_pairwise (text : List Char) (p : Position) (ls : List Lexeme) :
    (placed text p ls).Pairwise fun t u => t.stop ≤ u.start := by
  induction ls generalizing p with
  | nil => exact .nil
  | cons l ls ih =>
    cases ht : l.token? p with
    | none =>
      rw [placed_cons_none ls ht]
      exact ih _
    | some t =>
      rw [placed_cons_some ls ht]
      refine List.pairwise_cons.2 ⟨?_, ih _⟩
      intro u hu
      have hle := index_le_of_mem_placed hu
      rwa [Position.walk_index, ← Lexeme.stop_of_token? ht] at hle

/-- The tokens of lexemes that all yield one abut, from `p` to the end of the lexemes. -/
theorem placed_abut {e : Token} (hlabel : ∀ l ∈ ls, l.label.isSome)
    (he : e.start = p.index + byteLength (takenBy ls)) :
    (placed text p ls ++ [e]).IsChain (fun t u => t.stop = u.start) ∧
      (placed text p ls ++ [e]).head?.map (·.start) = some p.index := by
  induction ls generalizing p with
  | nil => simpa [placed] using he
  | cons l ls ih =>
    obtain ⟨t, ht⟩ := Lexeme.exists_token? (hlabel l List.mem_cons_self) p
    have hnext : e.start = (p.walk text l.taken).index + byteLength (takenBy ls) := by
      rw [he, takenBy_cons, byteLength_append, Position.walk_index, Nat.add_assoc]
    obtain ⟨hchain, hhead⟩ := ih (fun m hm => hlabel m (List.mem_cons_of_mem _ hm)) hnext
    rw [Position.walk_index, ← Lexeme.stop_of_token? ht] at hhead
    rw [placed_cons_some ls ht, List.cons_append]
    constructor
    · refine List.isChain_cons.2 ⟨?_, hchain⟩
      intro u hu
      rw [Option.mem_def.1 hu] at hhead
      exact (Option.some.inj hhead).symm
    · rw [List.head?_cons, Option.map_some, Lexeme.start_of_token? ht]

end Order

/-! ## Values -/

theorem placed_values (name : String) {text : String} {before after : List Char} {p : Position}
    {ls : List Lexeme} (hlabel : ∀ l ∈ ls, l.label.isSome)
    (h : text.toList = before ++ (takenBy ls ++ after))
    (hp : p = .between before (takenBy ls ++ after)) :
    (placed text.toList p ls).map (·.value (.loaded name text)) =
      ls.map fun l => String.ofList l.taken := by
  subst hp
  induction ls generalizing before with
  | nil => rfl
  | cons l ls ih =>
    rw [takenBy_cons, List.append_assoc] at h ⊢
    obtain ⟨t, ht⟩ := Lexeme.exists_token? (hlabel l List.mem_cons_self)
      (.between before (l.taken ++ (takenBy ls ++ after)))
    have hvalue : t.value (.loaded name text) = String.ofList l.taken :=
      (Lexeme.token?_standsAt ht).value h
    have htail := ih (fun m hm => hlabel m (List.mem_cons_of_mem _ hm))
      (h.trans (List.append_assoc ..).symm)
    rw [placed_cons_some ls ht, Position.walk_between _ h, List.map_cons, hvalue, htail,
      List.map_cons]

/-! ## Tokens of a source -/

section Source
variable {r : Rules} {name text : String} {tokens : List Token}

theorem Token.StandsAt.covers {t : Token} {before part after : List Char}
    (ht : t.StandsAt before part after) (h : text.toList = before ++ (part ++ after))
    (hpart : part ≠ []) : t.Covers (.loaded name text) := by
  have hpos := byteLength_pos hpart
  have hstop : t.stop = byteLength (before ++ part) := by
    rw [ht.stop, byteLength_append]
  have hcut : IsCut text.toList t.stop :=
    ⟨before ++ part, after, by rw [h, List.append_assoc], hstop.symm⟩
  refine ⟨?_, hcut.le_byteLength, ⟨before, part ++ after, h, ht.start.symm⟩, hcut, ?_⟩
  · rw [ht.start, ht.stop]
    omega
  · rw [ht.slice h, ht.value h]

theorem tiling_of_tokensIn {order : List CharClass} (h : r.tokensIn order text.toList = .ok tokens) :
    Tiling r (.loaded name text) tokens := by
  obtain ⟨hscan, rfl⟩ := Rules.tokensIn_eq_ok_iff.1 h
  have htext := (Rules.takenBy_scan hscan).symm.trans (List.append_nil _).symm
  have hcovers : ∀ t ∈ placed text.toList (.start text.toList)
      (r.scan order text.toList).lexemes, t.Covers (.loaded name text) := by
    intro t ht
    obtain ⟨before, l, after, hls, hat⟩ := standsAt_of_mem_placed htext ht
    have hl : l ∈ (r.scan order text.toList).lexemes := by simp [hls]
    apply hat.covers
    · exact htext.trans (by rw [hls]; simp)
    · exact Rules.taken_ne_nil_of_mem_scan hl
  refine ⟨⟨_, List.getLast?_concat, rfl, rfl, rfl, rfl⟩, ?_, ?_⟩
  · simpa using hcovers
  · apply List.Pairwise.isChain
    refine List.pairwise_append.2 ⟨placed_pairwise .., List.pairwise_singleton .., ?_⟩
    intro t ht u hu
    rw [List.mem_singleton] at hu
    subst u
    exact (hcovers t ht).inside

theorem lossless_of_tokensIn {order : List CharClass} (hr : r.KeepsAll)
    (h : r.tokensIn order text.toList = .ok tokens) : Lossless (.loaded name text) tokens := by
  obtain ⟨hscan, rfl⟩ := Rules.tokensIn_eq_ok_iff.1 h
  have htaken := Rules.takenBy_scan hscan
  have hlabel : ∀ l ∈ (r.scan order text.toList).lexemes, l.label.isSome :=
    fun l hl => hr.label_of_mem_scan hl
  have hend : (r.endToken text.toList
      ((Position.start text.toList).walk text.toList text.toList)).start =
      (Position.start text.toList).index +
        byteLength (takenBy (r.scan order text.toList).lexemes) := by
    rw [htaken]
    exact (Nat.zero_add _).symm
  obtain ⟨habut, hfirst⟩ := placed_abut hlabel hend
  refine ⟨hfirst, habut, ?_⟩
  have hvalues := placed_values name hlabel (Rules.eq_append_takenBy_scan hscan)
    (Rules.start_eq_between_scan hscan)
  rw [List.map_append, hvalues, List.map_singleton, r.endToken_value]
  apply congrArg some
  apply String.toList_inj.1
  rw [String.toList_join, List.flatMap_append, List.flatMap_map]
  simpa [takenBy] using htaken.symm

/-- The tokens of a text tile it, and when the rules keep everything nothing of it is lost. -/
theorem tokenize_tiles (h : r.tokenize (.loaded name text) = .ok tokens) :
    Tiling r (.loaded name text) tokens ∧
      (r.KeepsAll → Lossless (.loaded name text) tokens) :=
  ⟨tiling_of_tokensIn h, fun hr => lossless_of_tokensIn hr h⟩

theorem tokenize_tiles_keepAll :
    ∃ tokens, Rules.sample.keepAll.tokenize Source.sample = .ok tokens ∧ tokens.length = 15 ∧
      Tiling Rules.sample.keepAll Source.sample tokens ∧ Lossless Source.sample tokens := by
  have hcount : (Rules.sample.keepAll.tokenize Source.sample).toOption.map List.length =
      some 15 := by decide +kernel
  obtain ⟨tokens, htokens, hlength⟩ := exists_tokens_of_length hcount
  obtain ⟨htiling, hlossless⟩ := tokenize_tiles htokens
  exact ⟨tokens, htokens, hlength, htiling, hlossless Rules.sample.keepsAll_keepAll⟩

end Source

end RuleLexer
