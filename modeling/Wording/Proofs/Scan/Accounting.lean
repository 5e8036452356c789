import Mathlib.Algebra.GroupWithZero.Nat
import Mathlib.Order.Bounds.Basic
import Wording.Proofs.Scan.Stream

/-!
# What a scan has asked for and counted

* `Stats.ofItems` — the counters that a list of items makes: its files, their findings, its
  failures.
* `Scanner.Loads`, `Scanner.Steps` — all that a request for the next event can do.
* `Scanner.Accounts` — the invariant: of the items of the source a first part has been asked for;
  their events are those handed out and those pending, and the counters are those of this part.
* `Scanner.Frugal` — the last item that was asked for was needed for the last event handed out.
* **`Scanner.run_accounts_for_items`** — after any calls the counters and the pending events are
  those of the items asked for; no more items have been asked for than the events handed out took;
  and at the end all items have been, and the source once more.

Counters move when an item is asked for and events leave one by one.  The invariant therefore speaks
of the items, from which both follow.
-/

namespace Wording

/-! ## What items bring -/

/-- The file that an item is, if it is one. -/
def Item.file? : Item → Option SourceFile
  | .file f => some f
  | .failure _ => none

/-- The failure that an item is, if it is one. -/
def Item.failure? : Item → Option ReadFailure
  | .file _ => none
  | .failure f => some f

/-- The counters after the items: the files, their findings, and the failures. -/
def Stats.ofItems (rules : RuleSet) (limit : Nat) (items : List Item) : Stats where
  filesScanned := (items.filterMap Item.file?).length
  findings := ((items.filterMap Item.file?).map fun f => (f.findings rules limit).length).sum
  readErrors := (items.filterMap Item.failure?).length

section Items

variable (rules : RuleSet) (limit : Nat)

/-- One more item counts as a scan counts it. -/
theorem Stats.ofItems_concat (items : List Item) (item : Item) :
    Stats.ofItems rules limit (items ++ [item]) =
      (Stats.ofItems rules limit items).count rules limit item := by
  cases item with
  | file f => simp [Stats.ofItems, Stats.count, List.filterMap_append, Item.file?, Item.failure?]
  | failure f =>
      simp [Stats.ofItems, Stats.count, List.filterMap_append, List.filterMap_cons, Item.file?,
        Item.failure?]

/-- More items count one after another. -/
theorem Stats.foldl_count (items more : List Item) :
    more.foldl (fun stats item => stats.count rules limit item) (Stats.ofItems rules limit items) =
      Stats.ofItems rules limit (items ++ more) := by
  induction more generalizing items with
  | nil => rw [List.foldl_nil, List.append_nil]
  | cons item more ih =>
      rw [List.foldl_cons, ← Stats.ofItems_concat, ih, List.append_assoc, List.singleton_append]

/-- The findings that items tell of are those of the files. -/
theorem findings_events (items : List Item) :
    (items.flatMap (Item.events rules limit)).filterMap Event.finding? =
      (items.filterMap Item.file?).flatMap fun f => f.findings rules limit := by
  induction items with
  | nil => rfl
  | cons item items ih =>
      cases item with
      | file f =>
          have hevents : (Item.events rules limit (.file f)).filterMap Event.finding? =
              f.findings rules limit := by
            rw [Item.events, List.filterMap_map]
            exact List.filterMap_some
          simp only [List.flatMap_cons, List.filterMap_append, List.filterMap_cons, Item.file?, ih,
            hevents]
      | failure f => exact ih

/-- The failures that items tell of are the failures among them. -/
theorem failures_events (items : List Item) :
    (items.flatMap (Item.events rules limit)).filterMap Event.failure? =
      items.filterMap Item.failure? := by
  induction items with
  | nil => rfl
  | cons item items ih =>
      cases item with
      | file f =>
          have hevents : (Item.events rules limit (.file f)).filterMap Event.failure? = [] := by
            rw [Item.events, List.filterMap_map]
            exact List.filterMap_eq_nil_iff.mpr fun _ _ => rfl
          simp only [List.flatMap_cons, List.filterMap_append, List.filterMap_cons, Item.failure?,
            ih, hevents, List.nil_append]
      | failure f =>
          simp only [List.flatMap_cons, List.filterMap_cons, Item.failure?, ih, Item.events,
            Event.failure?, List.singleton_append]

/-- An event tells of a finding or of a failure. -/
theorem length_finding?_add_failure? (events : List Event) :
    (events.filterMap Event.finding?).length + (events.filterMap Event.failure?).length =
      events.length := by
  induction events with
  | nil => rfl
  | cons event events ih =>
      cases event with
      | finding f =>
          simp only [List.filterMap_cons, Event.finding?, Event.failure?, List.length_cons]
          omega
      | failure f =>
          simp only [List.filterMap_cons, Event.finding?, Event.failure?, List.length_cons]
          omega

/-- As many findings are told of as are counted. -/
theorem length_findings_events (items : List Item) :
    ((items.flatMap (Item.events rules limit)).filterMap Event.finding?).length =
      (Stats.ofItems rules limit items).findings := by
  rw [findings_events, List.length_flatMap]
  rfl

/-- As many failures are told of as are counted. -/
theorem length_failures_events (items : List Item) :
    ((items.flatMap (Item.events rules limit)).filterMap Event.failure?).length =
      (Stats.ofItems rules limit items).readErrors := by
  rw [failures_events]
  rfl

/-- As many events are told of as are counted. -/
theorem length_events (items : List Item) :
    (items.flatMap (Item.events rules limit)).length =
      (Stats.ofItems rules limit items).findings +
        (Stats.ofItems rules limit items).readErrors := by
  rw [← length_finding?_add_failure?, length_findings_events, length_failures_events]

/-- Fewer items bring no more events. -/
theorem length_events_le_of_prefix {items items' : List Item} (h : items <+: items') :
    (items.flatMap (Item.events rules limit)).length ≤
      (items'.flatMap (Item.events rules limit)).length := by
  obtain ⟨rest, rfl⟩ := h
  rw [List.flatMap_append, List.length_append]
  exact Nat.le_add_right _ _

end Items

/-- The items of a source whose answers begin with items. -/
theorem Source.items_append (clean : List Item) (answers : List (Option Item)) (asked : Nat) :
    (Source.mk (clean.map some ++ answers) asked).items =
      clean ++ (Source.mk answers asked).items := by
  induction clean with
  | nil => rfl
  | cons item clean ih =>
      rw [List.map_cons, List.cons_append, Source.items_cons_some _ _ _ asked, ih, List.cons_append]

namespace Scanner

/-! ## What a request can do -/

/-- Loading goes through items without events, up to one that has some or to the end of the
source. -/
inductive Loads (s : Scanner) : List (Option Item) → Option Event × Scanner → Prop where
  | event {clean : List Item} {item : Item} {rest : List (Option Item)} {e : Event}
      {pending : List Event} (hclean : ∀ i ∈ clean, i.events s.rules s.limit = [])
      (hevents : item.events s.rules s.limit = e :: pending) :
      Loads s (clean.map some ++ some item :: rest)
        (some e, { s with
          source := ⟨rest, s.source.asked + (clean ++ [item]).length⟩
          stats := (clean ++ [item]).foldl (fun stats i => stats.count s.rules s.limit i) s.stats
          pending := pending })
  | ended {clean : List Item} {answers rest : List (Option Item)}
      (hclean : ∀ i ∈ clean, i.events s.rules s.limit = [])
      (hend : answers = [] ∧ rest = [] ∨ answers = none :: rest) :
      Loads s (clean.map some ++ answers)
        (none, { s with
          source := ⟨rest, s.source.asked + clean.length + 1⟩
          stats := clean.foldl (fun stats i => stats.count s.rules s.limit i) s.stats
          finished := true })

/-- Loading that goes on behind an item without events has gone through that item too. -/
theorem Loads.behind {s : Scanner} {item : Item} {rest : List (Option Item)}
    {result : Option Event × Scanner} (hitem : item.events s.rules s.limit = [])
    (h : Loads { s with
      source := ⟨rest, s.source.asked + 1⟩
      stats := s.stats.count s.rules s.limit item } rest result) :
    Loads s (some item :: rest) result := by
  have hall : ∀ clean : List Item, (∀ i ∈ clean, i.events s.rules s.limit = []) →
      ∀ i ∈ item :: clean, i.events s.rules s.limit = [] := by
    intro clean hclean
    exact List.forall_mem_cons.mpr ⟨hitem, hclean⟩
  cases h with
  | @event clean _ rest _ _ hclean hevents =>
      have hloads := @Loads.event s (item :: clean) _ rest _ _ (hall clean hclean) hevents
      simpa [Nat.add_assoc, Nat.add_comm 1] using hloads
  | @ended clean answers rest hclean hend =>
      have hloads := Loads.ended (hall clean hclean) hend
      simpa [Nat.add_assoc, Nat.add_comm 1] using hloads

/-- **What loading does.**  The induction is on the answers: an item without events is one more to
begin with. -/
theorem loads_load (s : Scanner) (answers : List (Option Item)) :
    Loads s answers (s.load answers) := by
  induction answers generalizing s with
  | nil => exact @Loads.ended s [] [] [] (List.forall_mem_nil _) (.inl ⟨rfl, rfl⟩)
  | cons answer rest ih =>
      cases answer with
      | none => exact @Loads.ended s [] _ rest (List.forall_mem_nil _) (.inr rfl)
      | some item =>
          cases hevents : item.events s.rules s.limit with
          | cons e pending =>
              simp only [load, hevents]
              exact @Loads.event s [] _ rest _ _ (List.forall_mem_nil _) hevents
          | nil =>
              simp only [load, hevents]
              exact (ih _).behind hevents

/-- All that a request for the next event can do: hand out a pending event, load, or find the scan
at its end. -/
inductive Steps (s : Scanner) : Option Event × Scanner → Prop where
  | handsOut {e : Event} {pending : List Event} (hp : s.pending = e :: pending) :
      Steps s (some e, { s with pending := pending })
  | loads {result : Option Event × Scanner} (hp : s.pending = []) (hf : s.finished = false)
      (h : Loads s s.source.answers result) : Steps s result
  | stays (hend : s.AtEnd) : Steps s (none, s)

/-- **What a request does.** -/
theorem steps_next (s : Scanner) : Steps s s.next := by
  unfold next
  split
  · next hp => exact .handsOut hp
  · next hp =>
    split
    · next hf => exact .stays ⟨hf, hp⟩
    · next hf => exact .loads hp (by simpa using hf) (loads_load s _)

/-! ## Accounting -/

variable {rules : RuleSet} {limit : Nat} {items : List Item}

/-- Of the items of the source the first ones, `taken`, have been asked for and no more, and `told`
are the events handed out: the events of these items are handed out or pending, and the counters are
those of these items. -/
structure Accounts (rules : RuleSet) (limit : Nat) (items taken : List Item) (told : List Event)
    (s : Scanner) : Prop where
  rules_eq : s.rules = rules
  limit_eq : s.limit = limit
  events_eq : told ++ s.pending = taken.flatMap (Item.events rules limit)
  stats_eq : s.stats = Stats.ofItems rules limit taken
  going : s.finished = false → items = taken ++ s.source.items ∧ s.source.asked = taken.length
  ended : s.finished = true → items = taken ∧ s.source.asked = taken.length + 1

/-- A scan that has not begun has asked for nothing. -/
theorem accounts_start (rules : RuleSet) (limit : Nat) (answers : List (Option Item)) :
    Accounts rules limit (Source.mk answers 0).items [] []
      { rules := rules, limit := limit, source := { answers := answers } } where
  rules_eq := rfl
  limit_eq := rfl
  events_eq := rfl
  stats_eq := rfl
  going _ := ⟨rfl, rfl⟩
  ended := nofun

/-- The items that have been asked for are the first ones of the source. -/
theorem Accounts.take_asked {taken : List Item} {told : List Event} {s : Scanner}
    (h : Accounts rules limit items taken told s) : items.take s.source.asked = taken := by
  cases hf : s.finished with
  | false =>
      obtain ⟨hitems, hasked⟩ := h.going hf
      rw [hitems, hasked, List.take_left]
  | true =>
      obtain ⟨rfl, hasked⟩ := h.ended hf
      rw [hasked, List.take_of_length_le (Nat.le_succ _)]

/-- The scan goes on, and the last item that has been asked for was needed: without it there would
have been fewer events than have been handed out. -/
structure Frugal (rules : RuleSet) (limit : Nat) (taken : List Item) (told : List Event)
    (s : Scanner) : Prop where
  going : s.finished = false
  needed : taken = [] ∨
    (taken.dropLast.flatMap (Item.events rules limit)).length < told.length

/-- **Loading keeps the accounts**, when nothing is pending.  All items but the last that it asks
for have no events, so it asks for none that is not needed for the event it hands out. -/
theorem Accounts.loads {taken : List Item} {told : List Event} {s : Scanner}
    {result : Option Event × Scanner} (h : Accounts rules limit items taken told s)
    (hp : s.pending = []) (hf : s.finished = false) (hloads : Loads s s.source.answers result) :
    ∃ more, Accounts rules limit items (taken ++ more) (told ++ result.1.toList) result.2 ∧
      (result.1.isSome = true →
        Frugal rules limit (taken ++ more) (told ++ result.1.toList) result.2) := by
  obtain ⟨rfl, rfl, hevents, hstats, hgoing, -⟩ := h
  obtain ⟨hitems, hasked⟩ := hgoing hf
  replace hitems : items = taken ++ (Source.mk s.source.answers 0).items := hitems
  rw [hp, List.append_nil] at hevents
  generalize s.source.answers = answers at hloads hitems
  have hnone : ∀ clean : List Item, (∀ i ∈ clean, i.events s.rules s.limit = []) →
      clean.flatMap (Item.events s.rules s.limit) = [] := fun _ => List.flatMap_eq_nil_iff.mpr
  cases hloads with
  | @event clean item rest e pending hclean hitem =>
      rw [Source.items_append, Source.items_cons_some _ _ _ 0] at hitems
      refine ⟨clean ++ [item], ⟨rfl, rfl, ?_, ?_, ?_, ?_⟩, ?_⟩
      · simp [List.flatMap_append, hnone clean hclean, hitem, ← hevents]
      · simp only [hstats, Stats.foldl_count]
      · intro _
        refine ⟨?_, ?_⟩
        · rw [hitems, List.append_assoc, List.append_assoc]
          rfl
        · rw [@List.length_append _ taken, ← hasked]
      · intro hfinished
        rw [hf] at hfinished
        cases hfinished
      · refine fun _ => ⟨hf, .inr ?_⟩
        rw [← List.append_assoc, List.dropLast_concat, List.flatMap_append, hnone clean hclean,
          List.append_nil, ← hevents, List.length_append]
        exact Nat.lt_succ_self _
  | @ended clean answers rest hclean hend =>
      have hover : (Source.mk answers 0).items = [] := by
        rcases hend with ⟨rfl, -⟩ | rfl
        · rfl
        · rfl
      rw [Source.items_append, hover, List.append_nil] at hitems
      refine ⟨clean, ⟨rfl, rfl, ?_, ?_, nofun, fun _ => ⟨hitems, ?_⟩⟩, nofun⟩
      · rw [Option.toList_none, List.append_nil, hp, List.append_nil, List.flatMap_append,
          hnone clean hclean, List.append_nil, hevents]
      · simp only [hstats, Stats.foldl_count]
      · rw [List.length_append, ← hasked]

/-- **A request keeps the accounts.**  If it hands out an event, it has asked for no item that was
not needed for it. -/
theorem Accounts.next {taken : List Item} {told : List Event} {s : Scanner}
    (h : Accounts rules limit items taken told s) :
    ∃ more, Accounts rules limit items (taken ++ more) (told ++ s.next.1.toList) s.next.2 ∧
      (s.next.1.isSome = true → Frugal rules limit taken told s →
        Frugal rules limit (taken ++ more) (told ++ s.next.1.toList) s.next.2) := by
  have hsteps := steps_next s
  generalize s.next = result at hsteps
  cases hsteps with
  | @handsOut e pending hp =>
      refine ⟨[], ?_, fun _ hfrugal => ⟨hfrugal.going, hfrugal.needed.imp ?_ ?_⟩⟩
      · rw [List.append_nil]
        exact { h with
          events_eq := by
            rw [← h.events_eq, hp, List.append_assoc]
            rfl }
      · rintro rfl
        rfl
      · intro hneeded
        rw [List.append_nil, List.length_append]
        exact Nat.lt_add_right _ hneeded
  | loads hp hf hloads =>
      obtain ⟨more, haccounts, hfrugal⟩ := h.loads hp hf hloads
      exact ⟨more, haccounts, fun hsome _ => hfrugal hsome⟩
  | stays hend =>
      refine ⟨[], ?_, nofun⟩
      rw [List.append_nil, Option.toList_none, List.append_nil]
      exact h

/-- **Draining keeps the accounts**, since it is one request after another. -/
theorem Accounts.drain {taken : List Item} {told : List Event} {s : Scanner}
    (h : Accounts rules limit items taken told s) :
    ∃ more, Accounts rules limit items (taken ++ more) (told ++ s.drain.1) s.drain.2 := by
  induction s using drain.induct generalizing taken told with
  | case1 s t hnext =>
      obtain ⟨more, haccounts, -⟩ := h.next
      rw [hnext] at haccounts
      rw [drain_eq, hnext]
      exact ⟨more, haccounts⟩
  | case2 s event t hnext _ _ _ ih =>
      obtain ⟨more, haccounts, -⟩ := h.next
      rw [hnext] at haccounts
      obtain ⟨more', hdrained⟩ := ih haccounts
      rw [List.append_assoc, List.append_assoc] at hdrained
      rw [drain_eq, hnext]
      exact ⟨more ++ more', hdrained⟩

/-- **A call keeps the accounts.**  If it does not tell the end, it has asked for no item that was
not needed for what it hands out. -/
theorem Accounts.call {taken : List Item} {told : List Event} {s : Scanner}
    (h : Accounts rules limit items taken told s) (c : Call) :
    ∃ more, Accounts rules limit items (taken ++ more) (told ++ (s.call c).1.events) (s.call c).2 ∧
      ((s.call c).1.tellsEnd = false → Frugal rules limit taken told s →
        Frugal rules limit (taken ++ more) (told ++ (s.call c).1.events) (s.call c).2) := by
  cases c with
  | next =>
      obtain ⟨more, haccounts, hfrugal⟩ := h.next
      refine ⟨more, haccounts, fun hgoes => hfrugal ?_⟩
      rw [← Option.not_isNone, Bool.not_eq_true']
      exact hgoes
  | drain =>
      obtain ⟨more, haccounts⟩ := h.drain
      exact ⟨more, haccounts, nofun⟩
  | stats =>
      refine ⟨[], ?_, fun _ hfrugal => ?_⟩
      · rwa [Scanner.call, Reply.events, List.append_nil, List.append_nil]
      · rwa [Scanner.call, Reply.events, List.append_nil, List.append_nil]

/-- **A run keeps the accounts.**  As long as no reply tells the end, it has asked for no item that
was not needed for what it has handed out. -/
theorem Accounts.run {taken : List Item} {told : List Event} {s : Scanner}
    (h : Accounts rules limit items taken told s) (calls : List Call) :
    ∃ more,
      Accounts rules limit items (taken ++ more) (told ++ delivered (s.run calls).1)
        (s.run calls).2 ∧
      ((∀ r ∈ (s.run calls).1, r.tellsEnd = false) → Frugal rules limit taken told s →
        Frugal rules limit (taken ++ more) (told ++ delivered (s.run calls).1)
          (s.run calls).2) := by
  induction calls generalizing s taken told with
  | nil =>
      refine ⟨[], ?_, fun _ hfrugal => ?_⟩
      · simpa [Scanner.run, delivered] using h
      · simpa [Scanner.run, delivered] using hfrugal
  | cons c calls ih =>
      obtain ⟨more, haccounts, hfrugal⟩ := h.call c
      obtain ⟨more', haccounts', hfrugal'⟩ := ih haccounts
      rw [List.append_assoc, List.append_assoc] at haccounts' hfrugal'
      refine ⟨more ++ more', haccounts', fun hgoes hfirst => ?_⟩
      obtain ⟨hhead, htail⟩ := List.forall_mem_cons.mp hgoes
      exact hfrugal' htail (hfrugal hhead hfirst)

/-- The reply hands out one event. -/
def Reply.isEvent : Reply → Bool
  | .next event => event.isSome
  | .drained _ => false
  | .stats _ => false

/-- Until the end is told, events are handed out one for each reply that is an event. -/
theorem length_delivered {replies : List Reply} (h : ∀ r ∈ replies, r.tellsEnd = false) :
    (delivered replies).length = replies.countP Reply.isEvent := by
  induction replies with
  | nil => rfl
  | cons r replies ih =>
      obtain ⟨hr, hreplies⟩ := List.forall_mem_cons.mp h
      have hlength : r.events.length = if r.isEvent then 1 else 0 := by
        cases r with
        | next event => cases event <;> rfl
        | drained events => cases hr
        | stats stats => rfl
      rw [List.countP_cons, ← ih hreplies, delivered, List.flatMap_cons, List.length_append,
        hlength, Nat.add_comm]
      rfl

/-- **What has been asked for is the least that brings so many events**, if the last item was
needed. -/
theorem Accounts.isLeast {taken : List Item} {told : List Event} {s : Scanner}
    (h : Accounts rules limit items taken told s) (hfrugal : Frugal rules limit taken told s) :
    IsLeast {m | m ≤ items.length ∧
        told.length ≤ ((items.take m).flatMap (Item.events rules limit)).length}
      s.source.asked := by
  obtain ⟨hitems, hasked⟩ := h.going hfrugal.going
  refine ⟨⟨?_, ?_⟩, ?_⟩
  · rw [hasked, hitems, List.length_append]
    exact Nat.le_add_right _ _
  · rw [h.take_asked, ← h.events_eq, List.length_append]
    exact Nat.le_add_right _ _
  · rintro m ⟨-, hm⟩
    rw [hasked]
    by_contra hlt
    rcases hfrugal.needed with rfl | hneeded
    · exact hlt (Nat.zero_le m)
    · -- so few items are a part of all but the last, and those bring too few events
      have hpart : items.take m <+: taken.dropLast := by
        rw [hitems, List.dropLast_eq_take, List.take_append_of_le_length (by omega)]
        exact List.take_prefix_take_left (by omega)
      have hle := length_events_le_of_prefix rules limit hpart
      omega

end Scanner

/-- **The accounts of a scan.**  Of the items of the source before its first answer of nothing, the
first ones have been asked for.  After any calls in any order, the counters are the files among
these, the failures, and the findings in the files, and the events handed out and those pending are
as many as the findings and the failures.  Until a reply tells the end, no fewer items would have
brought the events handed out; at the end nothing is pending, the source has been asked once more
than it has items, and as many findings and failures have been handed out as are counted.  How a
source would go on after the answers that were asked for is of no account, so this covers each run
on a source without end. -/
theorem Scanner.run_accounts_for_items (rules : RuleSet) (limit : Nat)
    (answers : List (Option Item)) (calls : List Scanner.Call) :
    let source : Source := { answers := answers }
    let start : Scanner := { rules := rules, limit := limit, source := source }
    let replies := (start.run calls).1
    let s := (start.run calls).2
    let told := Scanner.delivered replies
    let taken := source.items.take s.source.asked
    (s.stats.filesScanned = (taken.filterMap Item.file?).length ∧
        s.stats.readErrors = (taken.filterMap Item.failure?).length ∧
        s.stats.findings =
          ((taken.filterMap Item.file?).map fun f => (f.findings rules limit).length).sum) ∧
      told.length + s.pending.length = s.stats.findings + s.stats.readErrors ∧
      ((∀ r ∈ replies, r.tellsEnd = false) →
        IsLeast {m | m ≤ source.items.length ∧ replies.countP Scanner.Reply.isEvent ≤
            ((source.items.take m).flatMap (Item.events rules limit)).length}
          s.source.asked) ∧
      ((∃ r ∈ replies, r.tellsEnd = true) →
        s.pending = [] ∧ s.source.asked = source.items.length + 1 ∧
          (told.filterMap Event.finding?).length = s.stats.findings ∧
          (told.filterMap Event.failure?).length = s.stats.readErrors) ∧
      (s.source.asked ≤ answers.length → ∀ later,
        (start.goingOn later).run calls = (replies, s.goingOn later)) := by
  intro source start replies s told taken
  obtain ⟨taken', haccounts, hfrugal⟩ :=
    (Scanner.accounts_start rules limit answers).run calls
  rw [List.nil_append, List.nil_append] at haccounts hfrugal
  have htaken : taken = taken' := haccounts.take_asked
  have hstats : s.stats = Stats.ofItems rules limit taken' := haccounts.stats_eq
  have hevents : told ++ s.pending = taken'.flatMap (Item.events rules limit) :=
    haccounts.events_eq
  have hcovered : start.covered = answers.length := Nat.zero_add _
  refine ⟨?_, ?_, ?_, ?_, hcovered ▸ (Scanner.localAt_run calls start).goingOn_eq⟩
  · rw [htaken, hstats]
    exact ⟨rfl, rfl, rfl⟩
  · rw [← List.length_append, hevents, length_events, hstats]
  · intro hgoes
    rw [← Scanner.length_delivered hgoes]
    exact haccounts.isLeast (hfrugal hgoes ⟨rfl, .inl rfl⟩)
  · rintro ⟨r, hr, hend⟩
    have hatEnd : s.AtEnd := Scanner.atEnd_run_of_tellsEnd hr hend
    obtain ⟨hitems, hasked⟩ := haccounts.ended hatEnd.finished
    rw [hatEnd.pending, List.append_nil] at hevents
    rw [hevents, length_findings_events, length_failures_events, hstats]
    exact ⟨hatEnd.pending, by rw [hasked, ← hitems], rfl, rfl⟩

end Wording
