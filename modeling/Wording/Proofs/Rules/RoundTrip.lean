import Wording.Proofs.Rules.Layout

/-!
# Tables that are laid out are read back

* `RulesDocument.followsInTable_eq_zero` — in a tree without aliases none is followed.
* `RulesDocument.ofYaml?_eq_ok` — a document without aliases is read field by field.
* `RulesDocument.ofYaml?_tree` — the tree of a table says what has been laid out.
* **`RulesDocument.read_layout`** — so a table that is laid out is read back as it was.

How often aliases may be followed goes with the size of a document.  Where there are none the limit
does not matter, so nothing has to be said about sizes.
-/

namespace Wording

namespace RulesDocument

open Yaml

/-! ## Aliases -/

section Tree

variable {d : Document} {node : Node}

/-- A sum of nothing. -/
theorem foldl_add_eq {α : Type} {f : α → Nat} {xs : List α} (h : ∀ x ∈ xs, f x = 0) (n : Nat) :
    xs.foldl (fun n x => n + f x) n = n := by
  induction xs with
  | nil => rfl
  | cons x xs ih =>
      rw [List.foldl_cons, h x List.mem_cons_self, Nat.add_zero]
      exact ih fun y hy => h y (List.mem_cons_of_mem _ hy)

/-- What is bare is no alias. -/
theorem follows_eq_zero (h : node.isBare = true) : follows node = 0 := by
  cases node with
  | «alias» slot => cases h
  | _ => rfl

/-- In a bare list no alias is followed. -/
theorem followsInItems_eq_zero (h : node.isBare = true) {read : Node → Nat}
    (hread : ∀ item, item.isBare = true → read item = 0) : followsInItems d read node = 0 := by
  have hitems : ∀ item ∈ d.items node, read item = 0 := by
    cases node with
    | sequence items => exact fun item hitem => hread item (isBare_of_mem_items h item hitem)
    | «alias» slot => cases h
    | _ => exact fun item hitem => absurd hitem List.not_mem_nil
  rw [followsInItems, foldl_add_eq hitems, follows_eq_zero h]

/-- In a bare mapping no alias is followed. -/
theorem followsInEntries_eq_zero (h : node.isBare = true) {read : String → Node → Nat}
    (hread : ∀ key value, value.isBare = true → read key value = 0) :
    followsInEntries d read node = 0 := by
  have hentries : ∀ e ∈ d.entries node, follows e.1 +
      (text? d "key" e.1).toOption.elim 0 (read · e.2) = 0 := by
    cases node with
    | mapping entries =>
        intro e he
        obtain ⟨hkey, hvalue⟩ := isBare_of_mem_entries h e he
        rw [follows_eq_zero hkey, Nat.zero_add]
        cases (text? d "key" e.1).toOption with
        | none => rfl
        | some key => exact hread key e.2 hvalue
    | «alias» slot => cases h
    | _ => exact fun e he => absurd he List.not_mem_nil
  have hsum := foldl_add_eq hentries (follows node)
  simp only [← Nat.add_assoc] at hsum
  exact hsum.trans (follows_eq_zero h)

/-- **In a tree without aliases none is followed.** -/
theorem followsInTable_eq_zero (h : node.isBare = true) : followsInTable d node = 0 := by
  refine followsInEntries_eq_zero h fun key value hvalue => ?_
  have hphrase : ∀ item : Node, item.isBare = true → followsInPhrase d item = 0 := by
    intro item hitem
    refine followsInEntries_eq_zero hitem fun key value hvalue => ?_
    split
    · exact follows_eq_zero hvalue
    · rfl
  split
  · exact follows_eq_zero hvalue
  split
  · exact followsInItems_eq_zero hvalue hphrase
  split
  · exact followsInItems_eq_zero hvalue fun _ => follows_eq_zero
  · rfl

/-! ## Reading a tree -/

/-- A document is read field by field. -/
theorem ofYaml?_eq_ok (entries : List (String × Node)) {table : RulesDocument}
    (hroot : d.root = some node) (hbare : node.isBare = true)
    (hentries : entries? d .notAMapping node = .ok entries)
    (hversion : optionalField? entries "version" none (optionalText? d "version") =
      .ok table.version)
    (hname : optionalField? entries "name" none (optionalText? d "name") = .ok table.name)
    (hphrases : (optionalField? entries "phrases" [] fun node => do
      (← list? d "phrases" node).mapM (phrase? d)) = .ok table.phrases)
    (hcautions : (optionalField? entries "caution" [] fun node => do
      (← list? d "caution" node).mapM (text? d "caution")) = .ok table.cautions) :
    ofYaml? d = .ok table := by
  have hfew : ¬maxFollows node < followsInTable d node := by
    rw [followsInTable_eq_zero hbare]
    exact Nat.not_lt_zero _
  have hbind : ∀ {α β : Type} (x : α) (f : α → Except DocumentFault β),
      (Except.ok x >>= f) = f x := fun _ _ => rfl
  unfold ofYaml?
  rw [hroot]
  simp only [if_neg hfew, hentries, hversion, hname, hphrases, hcautions, hbind]
  rfl

/-- A phrase is read from its entries. -/
theorem phrase?_phraseNode (phrase : String × String) :
    phrase? d (phraseNode phrase) = .ok phrase :=
  rfl

/-- A list is read from its items. -/
theorem list?_listNode (field : String) (items : List Node) :
    list? d field (listNode items) = .ok items := by
  cases items with
  | nil => rfl
  | cons item items => rfl

/-- A list is bare if its items are. -/
theorem isBare_listNode {items : List Node} (h : areBareItems items = true) :
    (listNode items).isBare = true := by
  cases items with
  | nil => rfl
  | cons item items => exact h

/-- Items that are read one by one. -/
theorem mapM_map_eq_ok {α : Type} (node : α → Node) {read : Node → Except DocumentFault α}
    (h : ∀ x, read (node x) = .ok x) (xs : List α) : (xs.map node).mapM read = .ok xs := by
  have hread : read ∘ node = fun x => pure (id x) := funext h
  rw [List.mapM_map, hread, List.mapM_pure, List.map_id]
  rfl

end Tree

/-! ## Reading the layout -/

section Layout

variable {name : String} {phrases : List (String × String)} {cautions : List String}

/-- The tree of a table has neither tags nor aliases. -/
theorem isBare_tree : (Node.mapping (tree name phrases cautions)).isBare = true := by
  have hphrases : (listNode (phrases.map phraseNode)).isBare = true :=
    isBare_listNode (areBareItems_map (fun _ => rfl) phrases)
  have hcautions : (listNode (cautions.map textNode)).isBare = true :=
    isBare_listNode (areBareItems_map (fun _ => rfl) cautions)
  simp [tree, keyNode, textNode, Node.isBare, areBareEntries, hphrases, hcautions]

/-- **The tree says what has been laid out.** -/
theorem ofYaml?_tree :
    ofYaml? ⟨some (.mapping (tree name phrases cautions)), []⟩ =
      .ok ⟨some supportedVersion, some name, phrases, cautions⟩ := by
  let d : Document := ⟨some (.mapping (tree name phrases cautions)), []⟩
  have hphrases : (phrases.map phraseNode).mapM (phrase? d) = .ok phrases :=
    mapM_map_eq_ok phraseNode phrase?_phraseNode phrases
  have hcautions : (cautions.map textNode).mapM (text? d "caution") = .ok cautions :=
    mapM_map_eq_ok textNode (fun _ => rfl) cautions
  refine ofYaml?_eq_ok (d := d) [("version", textNode supportedVersion), ("name", textNode name),
    ("phrases", listNode (phrases.map phraseNode)),
    ("caution", listNode (cautions.map textNode))] rfl isBare_tree rfl rfl rfl ?_ ?_
  · show (list? d "phrases" (listNode (phrases.map phraseNode)) >>= _) = _
    rw [list?_listNode]
    exact hphrases
  · show (list? d "caution" (listNode (cautions.map textNode)) >>= _) = _
    rw [list?_listNode]
    exact hcautions

/-- **A table that is laid out is read back as it was**, whatever its texts are and however many
there are. -/
theorem read_layout (hname : IsOrdinaryText name)
    (hphrases : ∀ p ∈ phrases, IsOrdinaryText p.1 ∧ IsOrdinaryText p.2)
    (hcautions : ∀ w ∈ cautions, IsOrdinaryText w) :
    read (layout name phrases cautions) =
      .ok ⟨some supportedVersion, some name, phrases, cautions⟩ := by
  have hdocument := Document.ofText?_mapping isBare_tree (tokens_layout hname hphrases hcautions)
  rw [read, ofText?, hdocument]
  simp only [ofYaml?_tree]
  rfl

end Layout

/-- Texts full of what means something outside of quotes, and a list with nothing in it. -/
theorem read_layout_marks :
    IsOrdinaryText " a: b # c " ∧
    (∀ p ∈ [("~", "\"\\n\""), ("- null: [é, ß]", "")],
      IsOrdinaryText p.1 ∧ IsOrdinaryText p.2) ∧
    read ("version: \"1\"\nname: \" a: b # c \"\nphrases:\n  - pattern: \"~\"\n" ++
      "    suggestion: \"\\\"\\\\n\\\"\"\n  - pattern: \"- null: [é, ß]\"\n" ++
      "    suggestion: \"\"\ncaution:\n") =
      .ok ⟨some "1", some " a: b # c ", [("~", "\"\\n\""), ("- null: [é, ß]", "")], []⟩ := by
  have hname : IsOrdinaryText " a: b # c " := by decide
  have hphrases : ∀ p ∈ [("~", "\"\\n\""), ("- null: [é, ß]", "")],
      IsOrdinaryText p.1 ∧ IsOrdinaryText p.2 := by decide
  have hcautions : ∀ w ∈ ([] : List String), IsOrdinaryText w := by simp
  have hread := read_layout hname hphrases hcautions
  have htext : layout " a: b # c " [("~", "\"\\n\""), ("- null: [é, ß]", "")] [] =
      "version: \"1\"\nname: \" a: b # c \"\nphrases:\n  - pattern: \"~\"\n" ++
        "    suggestion: \"\\\"\\\\n\\\"\"\n  - pattern: \"- null: [é, ß]\"\n" ++
        "    suggestion: \"\"\ncaution:\n" := by
    decide +kernel
  rw [htext] at hread
  exact ⟨hname, hphrases, hread⟩

end RulesDocument

end Wording
