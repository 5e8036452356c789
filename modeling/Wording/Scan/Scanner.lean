import Wording.Scan.Failure
import Wording.Scan.Finding

/-!
# The lazy scanner

A scanner draws on a source that answers each request with a file, with a failure to read one,
or with nothing.  It asks for one item at a time and only when nothing it has found is left to
hand out, so whoever stops early never pays for the files beyond.  Once the source has answered
with nothing, the scan is over and the source is not asked again.

What the scanner hands out is, item by item, `Item.events`: the findings of a file, or the one
failure.
-/

namespace Wording

/-- One thing that a scan tells of. -/
inductive Event where
  | finding (value : Finding)
  | failure (value : ReadFailure)
deriving DecidableEq

/-- The finding that an event tells of, if it does. -/
def Event.finding? : Event → Option Finding
  | .finding f => some f
  | .failure _ => none

/-- The failure that an event tells of, if it does. -/
def Event.failure? : Event → Option ReadFailure
  | .finding _ => none
  | .failure f => some f

/-- What a source yields: a file with its text, or a file that could not be read. -/
inductive Item where
  | file (value : SourceFile)
  | failure (value : ReadFailure)
deriving DecidableEq

/-- What a scan counts. -/
structure Stats where
  filesScanned : Nat := 0
  findings : Nat := 0
  readErrors : Nat := 0
deriving DecidableEq

/-- The counters after one more item. -/
def Stats.count (stats : Stats) (rules : RuleSet) (limit : Nat) : Item → Stats
  | .file f =>
    { stats with
      filesScanned := stats.filesScanned + 1
      findings := stats.findings + (f.findings rules limit).length }
  | .failure _ => { stats with readErrors := stats.readErrors + 1 }

/-- What a scan tells of one item. -/
def Item.events (rules : RuleSet) (limit : Nat) : Item → List Event
  | .file f => (f.findings rules limit).map .finding
  | .failure f => [.failure f]

/-- A source, by the answers that it gives to the requests still to come.  After the last of
them it answers with nothing.  It counts the requests. -/
structure Source where
  answers : List (Option Item)
  asked : Nat := 0

namespace Source

/-- The source that yields the items and is then at its end. -/
def ofItems (items : List Item) : Source where
  answers := items.map some

/-- The answer to the next request. -/
def ask (source : Source) : Option Item × Source :=
  match source.answers with
  | [] => (none, { source with asked := source.asked + 1 })
  | answer :: rest => (answer, ⟨rest, source.asked + 1⟩)

/-- The items that the source yields before its first answer of nothing. -/
def items (source : Source) : List Item :=
  (source.answers.takeWhile Option.isSome).filterMap id

end Source

/-- A scan in progress. -/
structure Scanner where
  rules : RuleSet
  limit : Nat := defaultExcerptLimit
  source : Source
  /-- What has been found and not yet handed out. -/
  pending : List Event := []
  stats : Stats := {}
  /-- The source has answered with nothing. -/
  finished : Bool := false

namespace Scanner

/-- Asks the source, whose answers still to come are the list, until an item has something to
tell of or the source is at its end. -/
def load (s : Scanner) : List (Option Item) → Option Event × Scanner
  | [] =>
    (none, { s with source := ⟨[], s.source.asked + 1⟩, finished := true })
  | none :: rest =>
    (none, { s with source := ⟨rest, s.source.asked + 1⟩, finished := true })
  | some item :: rest =>
    let s := { s with
      source := ⟨rest, s.source.asked + 1⟩, stats := s.stats.count s.rules s.limit item }
    match item.events s.rules s.limit with
    | [] => s.load rest
    | event :: pending => (some event, { s with pending := pending })

/-- The next event of the scan, or nothing at its end. -/
def next (s : Scanner) : Option Event × Scanner :=
  match s.pending with
  | event :: pending => (some event, { s with pending := pending })
  | [] => if s.finished then (none, s) else s.load s.source.answers

/-- The number of events that the answers of a source bring. -/
def eventCount (rules : RuleSet) (limit : Nat) : List (Option Item) → Nat
  | [] => 0
  | none :: rest => eventCount rules limit rest
  | some item :: rest => (item.events rules limit).length + eventCount rules limit rest

/-- The number of events that are still to come. -/
def eventsLeft (s : Scanner) : Nat :=
  s.pending.length + eventCount s.rules s.limit s.source.answers

/-- Loading an event leaves fewer to come than the answers held. -/
theorem eventsLeft_load_lt {s t : Scanner} {e : Event} {answers : List (Option Item)}
    (h : s.load answers = (some e, t)) :
    t.eventsLeft < eventCount s.rules s.limit answers := by
  induction answers generalizing s with
  | nil => simp [load] at h
  | cons answer rest ih =>
    cases answer with
    | none => simp [load] at h
    | some item =>
      simp only [load] at h
      split at h
      · have := ih h
        simp only [eventCount]
        exact Nat.lt_of_lt_of_le this (Nat.le_add_left _ _)
      · rename_i event pending hev
        simp only [Prod.mk.injEq, Option.some.injEq] at h
        obtain ⟨_, rfl⟩ := h
        simp [eventsLeft, eventCount, hev]

/-- Handing out an event leaves fewer to come. -/
theorem eventsLeft_next_lt {s t : Scanner} {e : Event} (h : s.next = (some e, t)) :
    t.eventsLeft < s.eventsLeft := by
  unfold next at h
  split at h
  · rename_i event pending hp
    simp only [Prod.mk.injEq, Option.some.injEq] at h
    obtain ⟨_, rfl⟩ := h
    simp [eventsLeft, hp]
  · split at h
    · simp at h
    · exact Nat.lt_of_lt_of_le (eventsLeft_load_lt h) (Nat.le_add_left _ _)

/-- All events that are left, and the scanner at its end. -/
def drain (s : Scanner) : List Event × Scanner :=
  match _h : s.next with
  | (none, s) => ([], s)
  | (some event, s) =>
    let (events, s) := drain s
    (event :: events, s)
termination_by s.eventsLeft
decreasing_by exact eventsLeft_next_lt _h

end Scanner

end Wording
