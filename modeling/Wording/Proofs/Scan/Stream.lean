import Mathlib.Tactic.Common
import Wording.Scan.Scanner

/-!
# The lazy scan tells what the eager one tells

* `Scanner.Call`, `Scanner.run` — a consumer's calls to a scanner, one after another in any order.
* `Scanner.ahead s` — the events that are still to come: those pending, then the events of the
  items that the source has left before it first answers with nothing.
* `Scanner.handsOut_next`, `Scanner.drain_spec`, `Scanner.call_spec` — each call takes its events
  from the front of what is ahead and leaves the rest ahead.
* `Scanner.LocalAt`, `Scanner.localAt_run` — a run depends only on the answers that it asks for.
* **`Scanner.run_refines_eager_scan`** — what a run has handed out is a prefix of the events of all
  items, draining hands out the rest, and after the end nothing more is handed out or asked for.

The one invariant is `delivered ++ ahead = all`: a step moves events across the `++` and never
changes the sum (`delivered_append_ahead_run`).
-/

namespace Wording

/-! ## The items of a source -/

/-- A source at the end of its answers has no items left. -/
@[simp] theorem Source.items_nil (asked : Nat) : (Source.mk [] asked).items = [] := rfl

/-- An answer of nothing ends the items. -/
@[simp] theorem Source.items_cons_none (rest : List (Option Item)) (asked : Nat) :
    (Source.mk (none :: rest) asked).items = [] := rfl

/-- An item that is the next answer is the first of the items. -/
@[simp] theorem Source.items_cons_some (item : Item) (rest : List (Option Item))
    (asked asked' : Nat) :
    (Source.mk (some item :: rest) asked).items = item :: (Source.mk rest asked').items := by
  simp [Source.items]

/-- A source made of items has these items. -/
@[simp] theorem Source.items_ofItems (items : List Item) : (Source.ofItems items).items = items := by
  induction items with
  | nil => rfl
  | cons item items ih =>
      have hcons : Source.ofItems (item :: items) = ⟨some item :: items.map some, 0⟩ := rfl
      rw [hcons, Source.items_cons_some item _ 0 0]
      exact congrArg (item :: ·) ih

namespace Scanner

/-! ## The events ahead -/

/-- The events of the items that the source has left. -/
def sourceEvents (s : Scanner) : List Event :=
  s.source.items.flatMap (Item.events s.rules s.limit)

/-- The events that are still to come. -/
def ahead (s : Scanner) : List Event :=
  s.pending ++ if s.finished then [] else s.sourceEvents

/-- The scan is over: its source has answered with nothing, and nothing is left to hand out. -/
structure AtEnd (s : Scanner) : Prop where
  finished : s.finished = true
  pending : s.pending = []

/-- At the end nothing is ahead. -/
theorem AtEnd.ahead_eq_nil {s : Scanner} (h : s.AtEnd) : s.ahead = [] := by
  simp [ahead, h.finished, h.pending]

/-- At the end a scanner hands out nothing and stays as it is. -/
theorem AtEnd.next_eq {s : Scanner} (h : s.AtEnd) : s.next = (none, s) := by
  simp [next, h.finished, h.pending]

/-- What a request for the next event gives when the list is ahead: its first event, with the
others left ahead, or nothing and a scan at its end. -/
inductive HandsOut : List Event → Option Event × Scanner → Prop where
  | event (e : Event) (t : Scanner) : HandsOut (e :: t.ahead) (some e, t)
  | ended (t : Scanner) (ht : t.AtEnd) : HandsOut [] (none, t)

/-- Loading hands out the events of the items that the answers bring.  The induction is on the
answers: past an item without events the same events are ahead. -/
theorem handsOut_load {s : Scanner} (hp : s.pending = []) (hf : s.finished = false)
    (answers : List (Option Item)) (asked : Nat) :
    HandsOut ((Source.mk answers asked).items.flatMap (Item.events s.rules s.limit))
      (s.load answers) := by
  induction answers generalizing s with
  | nil => exact .ended _ ⟨rfl, hp⟩
  | cons answer rest ih =>
      cases answer with
      | none => exact .ended _ ⟨rfl, hp⟩
      | some item =>
          rw [Source.items_cons_some item rest asked asked, List.flatMap_cons, load]
          split
          · rename_i hevents
            rw [hevents, List.nil_append]
            let passed : Scanner := { s with
              source := ⟨rest, s.source.asked + 1⟩
              stats := s.stats.count s.rules s.limit item }
            have hpassed : passed.pending = [] ∧ passed.finished = false := ⟨hp, hf⟩
            exact ih hpassed.1 hpassed.2
          · rename_i event pending hevents
            rw [hevents, List.cons_append]
            have htail : pending ++ (Source.mk rest asked).items.flatMap
                (Item.events s.rules s.limit) =
              ahead { s with
                source := ⟨rest, s.source.asked + 1⟩
                stats := s.stats.count s.rules s.limit item
                pending := pending } := by
              simp [ahead, sourceEvents, hf, Source.items]
            rw [htail]
            exact .event _ _

/-- **A request hands out what is ahead**, from pending events and from the source alike. -/
theorem handsOut_next (s : Scanner) : HandsOut s.ahead s.next := by
  unfold next
  split
  · rename_i event pending hp
    have htail : s.ahead = event :: ahead { s with pending := pending } := by
      simp [ahead, sourceEvents, hp]
    rw [htail]
    exact .event _ _
  · rename_i hp
    by_cases hf : s.finished = true
    · have hend : s.AtEnd := ⟨hf, hp⟩
      rw [if_pos hf, hend.ahead_eq_nil]
      exact .ended s hend
    · have hf' : s.finished = false := by simpa using hf
      have hahead : s.ahead = s.sourceEvents := by simp [ahead, hp, hf']
      rw [if_neg hf, hahead]
      exact handsOut_load hp hf' s.source.answers s.source.asked

/-- A request that hands out an event takes it from the front of what is ahead. -/
theorem ahead_eq_cons_of_next {s t : Scanner} {e : Event} (h : s.next = (some e, t)) :
    s.ahead = e :: t.ahead := by
  have hs := handsOut_next s
  rw [h] at hs
  generalize s.ahead = events at hs
  cases hs
  rfl

/-- A request that hands out nothing finds nothing ahead and ends the scan. -/
theorem atEnd_of_next {s t : Scanner} (h : s.next = (none, t)) : s.ahead = [] ∧ t.AtEnd := by
  have hs := handsOut_next s
  rw [h] at hs
  generalize s.ahead = events at hs
  cases hs with
  | ended _ ht => exact ⟨rfl, ht⟩

/-- Draining is a request, and draining again if it brings an event. -/
theorem drain_eq (s : Scanner) :
    s.drain = match s.next.1 with
      | none => ([], s.next.2)
      | some event => (event :: s.next.2.drain.1, s.next.2.drain.2) := by
  rw [drain]
  split <;> simp [*]

/-- **Draining hands out all that is ahead** and ends the scan. -/
theorem drain_spec (s : Scanner) : s.drain.1 = s.ahead ∧ s.drain.2.AtEnd := by
  induction s using drain.induct with
  | case1 s t h =>
      obtain ⟨hahead, ht⟩ := atEnd_of_next h
      rw [drain_eq, h]
      exact ⟨hahead.symm, ht⟩
  | case2 s event t h _ _ _ ih =>
      rw [drain_eq, h, ahead_eq_cons_of_next h, ← ih.1]
      exact ⟨rfl, ih.2⟩

/-! ## Runs -/

/-- What a consumer can ask of a scanner. -/
inductive Call where
  | next
  | drain
  | stats
deriving DecidableEq

/-- What a consumer is told. -/
inductive Reply where
  | next (event : Option Event)
  | drained (events : List Event)
  | stats (stats : Stats)
deriving DecidableEq

/-- The events that the reply hands out. -/
def Reply.events : Reply → List Event
  | .next event => event.toList
  | .drained events => events
  | .stats _ => []

/-- The reply tells that nothing is left. -/
def Reply.tellsEnd : Reply → Bool
  | .next event => event.isNone
  | .drained _ => true
  | .stats _ => false

/-- The reply to a call, and the scanner after it. -/
def call (s : Scanner) : Call → Reply × Scanner
  | .next => (.next s.next.1, s.next.2)
  | .drain => (.drained s.drain.1, s.drain.2)
  | .stats => (.stats s.stats, s)

/-- The replies to calls made one after another, and the scanner after the last. -/
def run (s : Scanner) : List Call → List Reply × Scanner
  | [] => ([], s)
  | c :: calls => ((s.call c).1 :: ((s.call c).2.run calls).1, ((s.call c).2.run calls).2)

/-- The events that a run hands out, in order. -/
def delivered (replies : List Reply) : List Event :=
  replies.flatMap Reply.events

/-- **A call moves events from what is ahead to what is handed out**, from the front and in order;
a reply that tells the end leaves the scan at its end. -/
theorem call_spec (s : Scanner) (c : Call) :
    (s.call c).1.events ++ (s.call c).2.ahead = s.ahead ∧
      ((s.call c).1.tellsEnd = true → (s.call c).2.AtEnd) := by
  cases c with
  | next =>
      rcases h : s.next with ⟨_ | e, t⟩
      · obtain ⟨hahead, ht⟩ := atEnd_of_next h
        simp [call, h, Reply.events, hahead, ht, ht.ahead_eq_nil]
      · simp [call, h, Reply.events, Reply.tellsEnd, ahead_eq_cons_of_next h]
  | drain =>
      obtain ⟨hahead, ht⟩ := drain_spec s
      simp [call, Reply.events, hahead, ht, ht.ahead_eq_nil]
  | stats => simp [call, Reply.events, Reply.tellsEnd]

/-- A run neither loses, doubles nor reorders events: what it has handed out and what is still
ahead make up what was ahead before. -/
theorem delivered_append_ahead_run (s : Scanner) (calls : List Call) :
    delivered (s.run calls).1 ++ (s.run calls).2.ahead = s.ahead := by
  induction calls generalizing s with
  | nil => rfl
  | cons c calls ih =>
      simp only [run, delivered, List.flatMap_cons, List.append_assoc]
      have hrest := ih (s.call c).2
      rw [delivered] at hrest
      rw [hrest]
      exact (call_spec s c).1

/-- At the end, a call hands out nothing and changes nothing. -/
theorem AtEnd.call_eq {s : Scanner} (h : s.AtEnd) (c : Call) :
    (s.call c).1.events = [] ∧ (s.call c).2 = s := by
  have hdrain : s.drain = ([], s) := by rw [drain_eq, h.next_eq]
  cases c with
  | next => simp [call, Reply.events, h.next_eq]
  | drain => simp [call, Reply.events, hdrain]
  | stats => simp [call, Reply.events]

/-- At the end, a run hands out nothing and changes nothing. -/
theorem AtEnd.run_eq {s : Scanner} (h : s.AtEnd) (calls : List Call) :
    (∀ r ∈ (s.run calls).1, r.events = []) ∧ (s.run calls).2 = s := by
  induction calls with
  | nil => simp [run]
  | cons c calls ih =>
      obtain ⟨hevents, hsame⟩ := h.call_eq c
      simp only [run, hsame, List.forall_mem_cons]
      exact ⟨⟨hevents, ih.1⟩, ih.2⟩

/-- A run in which the consumer was told the end leaves the scan at its end. -/
theorem atEnd_run_of_tellsEnd {s : Scanner} {calls : List Call} {r : Reply}
    (hr : r ∈ (s.run calls).1) (hend : r.tellsEnd = true) : (s.run calls).2.AtEnd := by
  induction calls generalizing s with
  | nil => simp [run] at hr
  | cons c calls ih =>
      simp only [run, List.mem_cons] at hr
      rcases hr with rfl | hr
      · have hcall := (call_spec s c).2 hend
        simp only [run]
        rw [(hcall.run_eq calls).2]
        exact hcall
      · exact ih hr

/-- A run in which the consumer was told the end has handed out all that was ahead. -/
theorem delivered_eq_ahead {s : Scanner} {calls : List Call} {r : Reply}
    (hr : r ∈ (s.run calls).1) (hend : r.tellsEnd = true) : delivered (s.run calls).1 = s.ahead := by
  have hahead := delivered_append_ahead_run s calls
  rwa [(atEnd_run_of_tellsEnd hr hend).ahead_eq_nil, List.append_nil] at hahead

/-! ## Answers that are not asked for -/

/-- The number of requests, made and to come, that the source has answers for. -/
def covered (s : Scanner) : Nat :=
  s.source.asked + s.source.answers.length

/-- The scanner with a source that goes on after its answers. -/
def goingOn (later : List (Option Item)) (s : Scanner) : Scanner :=
  { s with source := ⟨s.source.answers ++ later, s.source.asked⟩ }

/-- From this scanner on, the operation makes no difference between sources that give the same
answers as far as it asks for them. -/
structure LocalAt {α : Type} (op : Scanner → α × Scanner) (s : Scanner) : Prop where
  asked_le : s.source.asked ≤ (op s).2.source.asked
  covered_eq : (op s).2.source.asked ≤ s.covered → (op s).2.covered = s.covered
  goingOn_eq : (op s).2.source.asked ≤ s.covered →
    ∀ later, op (s.goingOn later) = ((op s).1, (op s).2.goingOn later)

/-- One operation after another asks for what both ask for. -/
theorem LocalAt.comp {α β : Type} {op : Scanner → α × Scanner} {s : Scanner} (h : LocalAt op s)
    (op' : α → Scanner → β × Scanner) (h' : LocalAt (op' (op s).1) (op s).2) :
    LocalAt (fun s => op' (op s).1 (op s).2) s where
  asked_le := Nat.le_trans h.asked_le h'.asked_le
  covered_eq hasked := by
    have hcovered := h.covered_eq (Nat.le_trans h'.asked_le hasked)
    rw [← hcovered] at hasked ⊢
    exact h'.covered_eq hasked
  goingOn_eq hasked later := by
    have hcovered := h.covered_eq (Nat.le_trans h'.asked_le hasked)
    have hfirst := h.goingOn_eq (Nat.le_trans h'.asked_le hasked) later
    rw [← hcovered] at hasked
    simp only [hfirst]
    exact h'.goingOn_eq hasked later

/-- What does not touch the source is local. -/
theorem localAt_of_source_eq {α : Type} {op : Scanner → α × Scanner} {s : Scanner}
    (hsource : (op s).2.source = s.source)
    (hop : ∀ later, op (s.goingOn later) = ((op s).1, (op s).2.goingOn later)) :
    LocalAt op s where
  asked_le := Nat.le_of_eq (by rw [hsource])
  covered_eq _ := by rw [covered, covered, hsource]
  goingOn_eq _ := hop

/-- Asking for one answer and going on is local if going on is. -/
theorem LocalAt.of_ask {α : Type} {op : Scanner → α × Scanner} {s t : Scanner}
    (h : LocalAt op t) (hasked : t.source.asked = s.source.asked + 1)
    (hcovered : t.covered = s.covered) (hop : op s = op t)
    (hgoing : ∀ later, op (s.goingOn later) = op (t.goingOn later)) : LocalAt op s where
  asked_le := by
    rw [hop]
    have hle := h.asked_le
    omega
  covered_eq hle := by
    rw [hop, ← hcovered] at *
    exact h.covered_eq hle
  goingOn_eq hle later := by
    rw [hop, ← hcovered] at *
    rw [hgoing]
    exact h.goingOn_eq hle later

/-- Loading asks for one answer after another. -/
theorem localAt_load {s : Scanner} {answers : List (Option Item)} {asked : Nat}
    (hs : s.source = ⟨answers, asked⟩) : LocalAt (fun s => s.load s.source.answers) s := by
  obtain ⟨rules, limit, source, pending, stats, finished⟩ := s
  obtain rfl : source = ⟨answers, asked⟩ := hs
  induction answers generalizing asked stats with
  | nil =>
      -- the request goes beyond the answers, so nothing is claimed
      constructor
      · exact Nat.le_succ asked
      · intro hle
        exact absurd hle (Nat.not_succ_le_self asked)
      · intro hle
        exact absurd hle (Nat.not_succ_le_self asked)
  | cons answer rest ih =>
      cases answer with
      | none =>
          constructor
          · exact Nat.le_succ asked
          · intro _
            simp only [load, covered, List.length_cons]
            omega
          · intro _ later
            rfl
      | some item =>
          cases hevents : item.events rules limit with
          | nil =>
              have hrest : LocalAt (fun s => s.load s.source.answers)
                  ⟨rules, limit, ⟨rest, asked + 1⟩, pending, stats.count rules limit item,
                    finished⟩ := ih _
              refine hrest.of_ask rfl ?_ ?_ ?_
              · simp only [covered, List.length_cons]
                omega
              · simp only [load, hevents]
              · intro later
                simp only [goingOn, List.cons_append, load, hevents]
          | cons event more =>
              constructor
              · simp only [load, hevents]
                exact Nat.le_succ asked
              · intro _
                simp only [load, hevents, covered, List.length_cons]
                omega
              · intro _ later
                simp only [goingOn, List.cons_append, load, hevents]

/-- A request is local. -/
theorem localAt_next (s : Scanner) : LocalAt next s := by
  cases hp : s.pending with
  | cons event pending =>
      refine localAt_of_source_eq ?_ ?_
      · simp only [next, hp]
      · intro later
        simp only [next, goingOn, hp]
  | nil =>
      cases hf : s.finished with
      | true =>
          refine localAt_of_source_eq ?_ ?_
          · simp only [next, hp, hf, if_true]
          · intro later
            simp only [next, goingOn, hp, hf, if_true]
      | false =>
          have hload : ∀ later, (s.goingOn later).next =
              (s.goingOn later).load (s.goingOn later).source.answers := by
            intro later
            simp [next, goingOn, hp, hf]
          have hnext : s.next = s.load s.source.answers := by simp [next, hp, hf]
          have h : LocalAt (fun s => s.load s.source.answers) s := localAt_load rfl
          exact {
            asked_le := by
              rw [hnext]
              exact h.asked_le
            covered_eq := by
              rw [hnext]
              exact h.covered_eq
            goingOn_eq := by
              rw [hnext]
              intro hle later
              rw [hload]
              exact h.goingOn_eq hle later }

/-- Saying something else of what an operation gives keeps it local. -/
theorem LocalAt.map {α β : Type} {op : Scanner → α × Scanner} {s : Scanner} (h : LocalAt op s)
    (g : α → β) : LocalAt (fun s => (g (op s).1, (op s).2)) s :=
  h.comp (fun a s => (g a, s)) (localAt_of_source_eq rfl fun _ => rfl)

/-- Draining is local. -/
theorem localAt_drain (s : Scanner) : LocalAt drain s := by
  let op' : Option Event → Scanner → List Event × Scanner := fun event s =>
    match event with
    | none => ([], s)
    | some event => (event :: s.drain.1, s.drain.2)
  have hdrain : drain = fun s => op' s.next.1 s.next.2 := funext fun s => drain_eq s
  induction s using drain.induct with
  | case1 s t h =>
      rw [hdrain]
      refine (localAt_next s).comp op' ?_
      rw [h]
      exact localAt_of_source_eq rfl fun _ => rfl
  | case2 s event t h _ _ _ ih =>
      rw [hdrain]
      refine (localAt_next s).comp op' ?_
      rw [h]
      exact ih.map (event :: ·)

/-- A call is local. -/
theorem localAt_call (c : Call) (s : Scanner) : LocalAt (fun s => s.call c) s := by
  cases c with
  | next => exact (localAt_next s).map Reply.next
  | drain => exact (localAt_drain s).map Reply.drained
  | stats => exact localAt_of_source_eq rfl fun _ => rfl

/-- **A run is local**: as far as it asks, it makes no difference what a source would answer
later. -/
theorem localAt_run (calls : List Call) (s : Scanner) : LocalAt (fun s => s.run calls) s := by
  induction calls generalizing s with
  | nil => exact localAt_of_source_eq rfl fun _ => rfl
  | cons c calls ih =>
      exact (localAt_call c s).comp (fun reply s => (reply :: (s.run calls).1, (s.run calls).2))
        ((ih (s.call c).2).map ((s.call c).1 :: ·))

end Scanner

/-- **The lazy scan tells what the eager one tells.**  Let `all` be the events of the source's items
before its first answer of nothing, item by item.  After any calls in any order, what has been
handed out is a prefix of `all`, and draining hands out the rest.  Once a call for the next event
has been answered with nothing, `all` has been handed out, further calls hand out nothing, and the
source is left alone.  How a source would go on after the answers that were asked for is of no
account, so this covers each run on a source without end. -/
theorem Scanner.run_refines_eager_scan (rules : RuleSet) (limit : Nat) (source : Source)
    (calls : List Scanner.Call) :
    let start : Scanner := { rules := rules, limit := limit, source := source }
    let all := source.items.flatMap (Item.events rules limit)
    let replies := (start.run calls).1
    let s := (start.run calls).2
    Scanner.delivered replies <+: all ∧
      Scanner.delivered replies ++ s.drain.1 = all ∧
      (Scanner.Reply.next none ∈ replies → Scanner.delivered replies = all ∧ ∀ more,
        (∀ event, Scanner.Reply.next event ∈ (s.run more).1 → event = none) ∧
          Scanner.delivered (s.run more).1 = [] ∧ (s.run more).2.source = s.source) ∧
      (s.source.asked ≤ start.covered → ∀ later,
        (start.goingOn later).run calls = (replies, s.goingOn later)) := by
  intro start all replies s
  have hall : start.ahead = all := by simp [start, all, Scanner.ahead, Scanner.sourceEvents]
  have hsum : Scanner.delivered replies ++ s.ahead = all :=
    hall ▸ Scanner.delivered_append_ahead_run start calls
  refine ⟨⟨s.ahead, hsum⟩, (Scanner.drain_spec s).1 ▸ hsum, ?_,
    (Scanner.localAt_run calls start).goingOn_eq⟩
  intro hnone
  have hend : s.AtEnd := Scanner.atEnd_run_of_tellsEnd hnone rfl
  refine ⟨by rw [← hsum, hend.ahead_eq_nil, List.append_nil], fun more => ?_⟩
  obtain ⟨hevents, hsame⟩ := hend.run_eq more
  refine ⟨?_, ?_, by rw [hsame]⟩
  · intro event hevent
    simpa [Scanner.Reply.events] using hevents _ hevent
  · simpa [Scanner.delivered] using hevents

end Wording
