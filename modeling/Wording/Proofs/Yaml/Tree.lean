import Wording.Yaml.Builder

/-!
# Trees are built from their tokens

* `Yaml.Node.tokens` — the tokens of a tree that is written as nested blocks, and in which what is
  empty is not written at all.
* `Yaml.Node.isBare` — the tree has no tags and no aliases, so its tokens say all about it.
* `Yaml.Builder.fill` — the builder with a node put into the innermost open collection.
* **`Yaml.Builder.foldlM_node`** — where a node is expected, the tokens of a bare tree put that tree
  there.
* **`Yaml.Document.ofText?_mapping`** — a text with the tokens of a bare mapping is a document with
  that mapping.

That a node is empty shows only in the token behind it.  So what is said about the tokens of a node
is said about these and one more, which ends the node wherever it stands.
-/

namespace Wording.Yaml

/-! ## Tokens of a tree -/

mutual

/-- The tokens of a tree in nested blocks. -/
def Node.tokens : Node → List Token
  | .scalar text plain _ => if text = "" ∧ plain = true then [] else [.scalar text plain]
  | .alias _ => []
  | .sequence items => .blockSequenceStart :: (itemsTokens items ++ [Token.blockEnd])
  | .mapping entries => .blockMappingStart :: (entriesTokens entries ++ [Token.blockEnd])

/-- The tokens of the items of a sequence. -/
def itemsTokens : List Node → List Token
  | [] => []
  | item :: rest => .blockEntry :: (item.tokens ++ itemsTokens rest)

/-- The tokens of the entries of a mapping. -/
def entriesTokens : List (Node × Node) → List Token
  | [] => []
  | (key, value) :: rest => .key :: (key.tokens ++ .value :: (value.tokens ++ entriesTokens rest))

end

mutual

/-- The tree has neither tags nor aliases. -/
def Node.isBare : Node → Bool
  | .scalar _ _ tag => tag.isNone
  | .alias _ => false
  | .sequence items => areBareItems items
  | .mapping entries => areBareEntries entries

/-- All items are bare. -/
def areBareItems : List Node → Bool
  | [] => true
  | item :: rest => item.isBare && areBareItems rest

/-- All keys and values are bare. -/
def areBareEntries : List (Node × Node) → Bool
  | [] => true
  | (key, value) :: rest => key.isBare && value.isBare && areBareEntries rest

end

/-- The tokens of items. -/
theorem itemsTokens_eq_flatMap (items : List Node) :
    itemsTokens items = items.flatMap fun item => .blockEntry :: item.tokens := by
  induction items with
  | nil => rfl
  | cons item items ih => rw [itemsTokens, ih]; rfl

/-- The items of a bare sequence are bare. -/
theorem isBare_of_mem_items {items : List Node} (h : areBareItems items = true) :
    ∀ item ∈ items, item.isBare = true := by
  induction items with
  | nil => simp
  | cons item items ih =>
      obtain ⟨hitem, hitems⟩ := Bool.and_eq_true_iff.mp h
      exact List.forall_mem_cons.mpr ⟨hitem, ih hitems⟩

/-- The keys and the values of a bare mapping are bare. -/
theorem isBare_of_mem_entries {entries : List (Node × Node)} (h : areBareEntries entries = true) :
    ∀ e ∈ entries, e.1.isBare = true ∧ e.2.isBare = true := by
  induction entries with
  | nil => simp
  | cons e entries ih =>
      obtain ⟨hentry, hentries⟩ := Bool.and_eq_true_iff.mp h
      exact List.forall_mem_cons.mpr ⟨Bool.and_eq_true_iff.mp hentry, ih hentries⟩

/-- Items that are all made in one way are bare if what is made so is. -/
theorem areBareItems_map {α : Type} {node : α → Node} (h : ∀ x, (node x).isBare = true)
    (xs : List α) : areBareItems (xs.map node) = true := by
  induction xs with
  | nil => rfl
  | cons x xs ih => exact Bool.and_eq_true_iff.mpr ⟨h x, ih⟩

namespace Builder

/-! ## Single tokens -/

/-- The builder with the open collections, where this may come next. -/
def atMode (b : Builder) (mode : Mode) (stack : List OpenNode) : Builder :=
  { b with mode, stack }

/-- The builder with the node put into the innermost open collection. -/
def fill (b : Builder) (o : OpenNode) (outer : List OpenNode) (node : Node) : Builder :=
  (b.atMode .slot (o :: outer)).place node

variable {b next : Builder} {o : OpenNode} {outer : List OpenNode} {t : Token}

/-- A node is put into a collection whatever was to come next. -/
theorem place_atMode (ho : o.frame.allowsBlock = true) (mode : Mode) (node : Node) :
    (b.atMode mode (o :: outer)).place node = b.fill o outer node := by
  obtain ⟨frame, registration⟩ := o
  cases frame with
  | document => rfl
  | blockSequence items => rfl
  | alignedSequence items => rfl
  | blockKey entries => rfl
  | blockValue entries key => rfl
  | _ => cases ho

/-- Putting a node into a collection leaves less to be looked at again. -/
theorem patience_fill_lt (ho : o.frame.allowsBlock = true) (node : Node) :
    (b.fill o outer node).patience < (b.atMode .slot (o :: outer)).patience := by
  obtain ⟨frame, registration⟩ := o
  cases frame with
  | document => simp [fill, place, atMode, patience]; omega
  | blockSequence items => simp [fill, place, atMode, patience]
  | alignedSequence items => simp [fill, place, atMode, patience]
  | blockKey entries => simp [fill, place, atMode, patience]
  | blockValue entries key => simp [fill, place, atMode, patience]
  | _ => cases ho

/-- A token that is used at once. -/
theorem feed_taken (h : b.step t = .ok (.taken next)) : b.feed t = .ok next := by
  rw [feed, h]

/-- A token that is looked at again. -/
theorem feed_again (h : b.step t = .ok (.again next)) (hless : next.patience < b.patience) :
    b.feed t = next.feed t := by
  rw [feed, h]
  exact if_pos hless

/-- A node is left empty by the token that shows it. -/
theorem feed_empty (ho : o.frame.allowsBlock = true) (ht : o.frame.endsSlot t = true) :
    feed (b.atMode .slot (o :: outer)) t = feed (b.fill o outer .empty) t := by
  have hstep : step (b.atMode .slot (o :: outer)) t = .ok (.again (b.fill o outer .empty)) := by
    obtain ⟨frame, registration⟩ := o
    cases frame with
    | document => exact if_pos ht
    | blockSequence items => exact if_pos ht
    | alignedSequence items => exact if_pos ht
    | blockKey entries => exact if_pos ht
    | blockValue entries key => exact if_pos ht
    | _ => cases ho
  exact feed_again hstep (patience_fill_lt ho .empty)

/-- Any other token is the first one of the node. -/
theorem feed_content (ht : o.frame.endsSlot t = false) :
    feed (b.atMode .slot (o :: outer)) t = feed (b.atMode (.content {}) (o :: outer)) t := by
  have hends : ¬(o.frame.endsSlot t = true) := ne_true_of_eq_false ht
  refine feed_again (if_neg hends) ?_
  simp [patience, atMode]

/-- A token that nodes begin with, used at once there. -/
theorem feed_first (ht : ∀ frame : Frame, frame.endsSlot t = false)
    (htaken : step (b.atMode (.content {}) (o :: outer)) t = .ok (.taken next)) :
    feed (b.atMode .slot (o :: outer)) t = .ok next := by
  rw [feed_content (ht o.frame)]
  exact feed_taken htaken

/-- A scalar. -/
theorem feed_scalar (ho : o.frame.allowsBlock = true) (text : String) (plain : Bool) :
    feed (b.atMode .slot (o :: outer)) (.scalar text plain) =
      .ok (b.fill o outer (.scalar text plain none)) := by
  rw [← place_atMode ho (.content {})]
  refine feed_first (fun frame => ?_) rfl
  cases frame <;> simp [Frame.endsSlot]

/-- The beginning of a sequence. -/
theorem feed_blockSequenceStart (ho : o.frame.allowsBlock = true) :
    feed (b.atMode .slot (o :: outer)) .blockSequenceStart =
      .ok (b.atMode .between ({ frame := .blockSequence [] } :: o :: outer)) := by
  refine feed_first (fun frame => ?_) ?_
  · cases frame <;> simp [Frame.endsSlot]
  · show stepContent (b.atMode (.content {}) (o :: outer)) o.frame {} .blockSequenceStart = _
    simp only [stepContent, ho]
    rfl

/-- The beginning of a mapping. -/
theorem feed_blockMappingStart (ho : o.frame.allowsBlock = true) :
    feed (b.atMode .slot (o :: outer)) .blockMappingStart =
      .ok (b.atMode .between ({ frame := .blockMapping [] } :: o :: outer)) := by
  refine feed_first (fun frame => ?_) ?_
  · cases frame <;> simp [Frame.endsSlot]
  · show stepContent (b.atMode (.content {}) (o :: outer)) o.frame {} .blockMappingStart = _
    simp only [stepContent, ho]
    rfl

/-- The end of a sequence. -/
theorem feed_sequenceEnd (ho : o.frame.allowsBlock = true) (items : List Node) :
    feed (b.atMode .between ({ frame := .blockSequence items } :: o :: outer)) .blockEnd =
      .ok (b.fill o outer (.sequence items.reverse)) := by
  rw [← place_atMode ho .between]
  exact feed_taken rfl

/-- The end of a mapping. -/
theorem feed_mappingEnd (ho : o.frame.allowsBlock = true) (entries : List (Node × Node)) :
    feed (b.atMode .between ({ frame := .blockMapping entries } :: o :: outer)) .blockEnd =
      .ok (b.fill o outer (.mapping entries.reverse)) := by
  rw [← place_atMode ho .between]
  exact feed_taken rfl

/-- The first token of a document without directives. -/
theorem feed_beforeDocument (ht : Frame.document.endsSlot t = false) :
    feed {} t = feed (({} : Builder).atMode .slot [{ frame := .document }]) t := by
  rw [feed_content (o := { frame := .document }) ht]
  refine feed_again ?_ (by decide)
  cases t with
  | versionDirective major minor => cases ht
  | tagDirective handle meaning => cases ht
  | documentStart => cases ht
  | documentEnd => cases ht
  | streamEnd => cases ht
  | _ => rfl

/-! ## Runs of tokens -/

/-- Items are followed by the next dash or by the end of their sequence. -/
theorem itemsTokens_append (items : List Node) (rest : List Token) :
    ∃ t more, itemsTokens items ++ .blockEnd :: rest = t :: more ∧
      (t = .blockEntry ∨ t = .blockEnd) := by
  cases items with
  | nil => exact ⟨.blockEnd, rest, rfl, .inr rfl⟩
  | cons item items => exact ⟨.blockEntry, _, rfl, .inl rfl⟩

/-- Entries are followed by the next key or by the end of their mapping. -/
theorem entriesTokens_append (entries : List (Node × Node)) (rest : List Token) :
    ∃ t more, entriesTokens entries ++ .blockEnd :: rest = t :: more ∧
      (t = .key ∨ t = .blockEnd) := by
  cases entries with
  | nil => exact ⟨.blockEnd, rest, rfl, .inr rfl⟩
  | cons entry entries =>
      obtain ⟨key, value⟩ := entry
      exact ⟨.key, _, rfl, .inl rfl⟩

mutual

/-- **Where a node is expected, the tokens of a bare tree put that tree there.** -/
theorem foldlM_node (node : Node) (hbare : node.isBare = true) (b : Builder) (o : OpenNode)
    (outer : List OpenNode) (ho : o.frame.allowsBlock = true) (t : Token)
    (ht : o.frame.endsSlot t = true) (rest : List Token) :
    (node.tokens ++ t :: rest).foldlM feed (b.atMode .slot (o :: outer)) =
      (t :: rest).foldlM feed (b.fill o outer node) := by
  match node with
  | .scalar text plain tag =>
      have htag : tag = none := Option.isNone_iff_eq_none.mp hbare
      subst htag
      by_cases hempty : text = "" ∧ plain = true
      · have htokens : (Node.scalar text plain none).tokens = [] := if_pos hempty
        obtain ⟨rfl, rfl⟩ := hempty
        rw [htokens, List.nil_append, List.foldlM_cons, List.foldlM_cons, feed_empty ho ht]
        rfl
      · have htokens : (Node.scalar text plain none).tokens = [.scalar text plain] :=
          if_neg hempty
        rw [htokens, List.singleton_append, List.foldlM_cons, feed_scalar ho]
        rfl
  | .alias slot => cases hbare
  | .sequence items =>
      have htokens : (Node.sequence items).tokens ++ t :: rest =
          .blockSequenceStart :: (itemsTokens items ++ .blockEnd :: t :: rest) := by
        simp [Node.tokens]
      have hitems := foldlM_items items hbare b [] (o :: outer) (t :: rest)
      rw [htokens, List.foldlM_cons, feed_blockSequenceStart ho]
      refine hitems.trans ?_
      rw [List.foldlM_cons, List.append_nil, feed_sequenceEnd ho, List.reverse_reverse]
      rfl
  | .mapping entries =>
      have htokens : (Node.mapping entries).tokens ++ t :: rest =
          .blockMappingStart :: (entriesTokens entries ++ .blockEnd :: t :: rest) := by
        simp [Node.tokens]
      have hentries := foldlM_entries entries hbare b [] (o :: outer) (t :: rest)
      rw [htokens, List.foldlM_cons, feed_blockMappingStart ho]
      refine hentries.trans ?_
      rw [List.foldlM_cons, List.append_nil, feed_mappingEnd ho, List.reverse_reverse]
      rfl

/-- The tokens of items add the items to the sequence around them. -/
theorem foldlM_items (items : List Node) (hbare : areBareItems items = true) (b : Builder)
    (before : List Node) (outer : List OpenNode) (rest : List Token) :
    (itemsTokens items ++ .blockEnd :: rest).foldlM feed
        (b.atMode .between ({ frame := .blockSequence before } :: outer)) =
      (Token.blockEnd :: rest).foldlM feed
        (b.atMode .between ({ frame := .blockSequence (items.reverse ++ before) } :: outer)) := by
  match items with
  | [] => rfl
  | item :: items =>
      obtain ⟨hitem, hitems⟩ := Bool.and_eq_true_iff.mp hbare
      obtain ⟨t, more, hmore, ht⟩ := itemsTokens_append items rest
      have hends : (Frame.blockSequence before).endsSlot t = true := by
        rcases ht with rfl | rfl <;> rfl
      have hnode := foldlM_node item hitem b { frame := .blockSequence before } outer rfl t hends
        more
      have hrest := foldlM_items items hitems b (item :: before) outer rest
      have htokens : itemsTokens (item :: items) ++ .blockEnd :: rest =
          .blockEntry :: (item.tokens ++ t :: more) := by
        rw [← hmore]
        simp [itemsTokens]
      have hdash : feed (b.atMode .between ({ frame := .blockSequence before } :: outer))
          .blockEntry = .ok (b.atMode .slot ({ frame := .blockSequence before } :: outer)) :=
        feed_taken rfl
      rw [htokens, List.foldlM_cons, hdash]
      refine hnode.trans ?_
      rw [← hmore, List.reverse_cons, List.append_assoc]
      exact hrest

/-- The tokens of entries add the entries to the mapping around them. -/
theorem foldlM_entries (entries : List (Node × Node)) (hbare : areBareEntries entries = true)
    (b : Builder) (before : List (Node × Node)) (outer : List OpenNode) (rest : List Token) :
    (entriesTokens entries ++ .blockEnd :: rest).foldlM feed
        (b.atMode .between ({ frame := .blockMapping before } :: outer)) =
      (Token.blockEnd :: rest).foldlM feed
        (b.atMode .between ({ frame := .blockMapping (entries.reverse ++ before) } :: outer)) := by
  match entries with
  | [] => rfl
  | (key, value) :: entries =>
      obtain ⟨hentry, hentries⟩ := Bool.and_eq_true_iff.mp hbare
      obtain ⟨hkey, hvalue⟩ := Bool.and_eq_true_iff.mp hentry
      obtain ⟨t, more, hmore, ht⟩ := entriesTokens_append entries rest
      have hends : (Frame.blockValue before key).endsSlot t = true := by
        rcases ht with rfl | rfl <;> rfl
      have hkeyNode := foldlM_node key hkey b { frame := .blockKey before } outer rfl .value rfl
        (value.tokens ++ t :: more)
      have hvalueNode := foldlM_node value hvalue b { frame := .blockValue before key } outer rfl
        t hends more
      have hrest := foldlM_entries entries hentries b ((key, value) :: before) outer rest
      have htokens : entriesTokens ((key, value) :: entries) ++ .blockEnd :: rest =
          .key :: (key.tokens ++ .value :: (value.tokens ++ t :: more)) := by
        rw [← hmore]
        simp [entriesTokens]
      have hkeyMark : feed (b.atMode .between ({ frame := .blockMapping before } :: outer)) .key =
          .ok (b.atMode .slot ({ frame := .blockKey before } :: outer)) :=
        feed_taken rfl
      have hcolon : feed (b.fill { frame := .blockKey before } outer key) .value =
          .ok (b.atMode .slot ({ frame := .blockValue before key } :: outer)) :=
        feed_taken rfl
      rw [htokens, List.foldlM_cons, hkeyMark]
      refine hkeyNode.trans ?_
      rw [List.foldlM_cons, hcolon]
      refine hvalueNode.trans ?_
      rw [← hmore, List.reverse_cons, List.append_assoc]
      exact hrest

end

end Builder

/-! ## Documents -/

/-- **A text with the tokens of a bare mapping is a document with that mapping**, and with no
anchors. -/
theorem Document.ofText?_mapping {text : String} {entries : List (Node × Node)}
    (hbare : (Node.mapping entries).isBare = true)
    (htokens : Token.ofText? text.toList = .ok ((Node.mapping entries).tokens ++ [Token.streamEnd])) :
    Document.ofText? text = .ok ⟨some (.mapping entries), []⟩ := by
  let document : OpenNode := { frame := .document }
  have hfirst (rest : List Token) :
      ((Node.mapping entries).tokens ++ rest).foldlM Builder.feed {} =
        ((Node.mapping entries).tokens ++ rest).foldlM Builder.feed
          (({} : Builder).atMode .slot [document]) := by
    rw [Node.tokens, List.cons_append, List.foldlM_cons, List.foldlM_cons,
      Builder.feed_beforeDocument rfl]
  have hnode := Builder.foldlM_node (.mapping entries) hbare {} document [] rfl .streamEnd rfl []
  have hlast : ([Token.streamEnd]).foldlM Builder.feed
      (({} : Builder).fill document [] (.mapping entries)) =
        .ok { mode := .ended, root := some (.mapping entries) } := by
    have hafter : Builder.feed (({} : Builder).fill document [] (.mapping entries)) .streamEnd =
        Builder.feed { mode := .afterAll, root := some (.mapping entries) } .streamEnd :=
      Builder.feed_again rfl (by simp [Builder.patience, Builder.fill, Builder.place,
        Builder.atMode, document])
    rw [List.foldlM_cons, hafter, Builder.feed_taken rfl]
    rfl
  rw [Document.ofText?, htokens]
  show (((Node.mapping entries).tokens ++ [Token.streamEnd]).foldlM Builder.feed {} >>= _) = _
  rw [hfirst, hnode, hlast]
  rfl

end Wording.Yaml
