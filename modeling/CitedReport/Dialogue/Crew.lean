import CitedReport.Dialogue.Basic

/-!
# A crew of dialogues

Several dialogues are held side by side by one speaker: each has a seat, and the one that may speak
goes on until it pauses or is done. Then the seat whose pause ends first speaks next - the one that
began its pause first, if several end together - and when a dialogue is done its seat goes to the
next one in the queue. `crew` makes one dialogue of all this; its value lists the values of the
dialogues in the order in which they are done.

The dialogues of a crew get shorter one at a time, whatever they are answered. `Load.Lighter` is
that order and `Load.lighter_wf` says that it is well-founded, so that every crew comes to an end.
-/

namespace CitedReport.Dialogue

variable {α : Type}

/-- A dialogue that has begun and is not done. -/
structure Seat (α : Type) where
  /-- When its pause ends. -/
  wakeAt : Nat
  /-- Its turn among the seats whose pauses end at the same time. -/
  ticket : Nat
  /-- What is left of it. -/
  rest : Dialogue α

/-- Whether one seat speaks before another. -/
def Seat.before (s t : Seat α) : Bool :=
  s.wakeAt < t.wakeAt || (s.wakeAt == t.wakeAt && s.ticket < t.ticket)

/-- The seat that speaks next, with the seats to its left and to its right. Seats whose dialogues
are done are empty. -/
def nextSeat? :
    List (Option (Seat α)) → Option (List (Option (Seat α)) × Seat α × List (Option (Seat α)))
  | [] => none
  | none :: rest => (nextSeat? rest).map fun r => (none :: r.1, r.2)
  | some s :: rest =>
    match nextSeat? rest with
    | some (left, t, right) =>
      if t.before s then some (some s :: left, t, right) else some ([], s, rest)
    | none => some ([], s, rest)

/-- The next seat and its neighbours are all the seats. -/
theorem eq_of_nextSeat? {seats left right : List (Option (Seat α))} {seat : Seat α}
    (h : nextSeat? seats = some (left, seat, right)) : seats = left ++ some seat :: right := by
  induction seats generalizing left seat right with
  | nil => simp [nextSeat?] at h
  | cons s rest ih =>
    cases s with
    | none =>
      -- an empty place is passed over
      simp only [nextSeat?, Option.map_eq_some_iff] at h
      obtain ⟨⟨l, t, r⟩, hr, he⟩ := h
      simp only [Prod.mk.injEq] at he
      obtain ⟨rfl, rfl, rfl⟩ := he
      simp [ih hr]
    | some s =>
      simp only [nextSeat?] at h
      split at h
      · next l t r hr =>
        -- the next of the seats behind comes before this one, or this one is the next
        split at h
        · simp only [Option.some.injEq, Prod.mk.injEq] at h
          obtain ⟨rfl, rfl, rfl⟩ := h
          simp [ih hr]
        · simp only [Option.some.injEq, Prod.mk.injEq] at h
          obtain ⟨rfl, rfl, rfl⟩ := h
          rfl
      · simp only [Option.some.injEq, Prod.mk.injEq] at h
        obtain ⟨rfl, rfl, rfl⟩ := h
        rfl

/-- What is left to be said by a crew: the dialogues at the seats and then those in the queue,
`none` for one that is done. -/
structure Load (α : Type) where
  /-- The dialogues. -/
  parts : List (Option (Dialogue α))

namespace Load

/-- One dialogue gets shorter: it is over, or one of its questions is answered. -/
inductive Shorter : Option (Dialogue α) → Option (Dialogue α) → Prop where
  /-- A dialogue without further questions is over. -/
  | over (a : α) : Shorter none (some (.done a))
  /-- A question is answered. -/
  | answered (q : Query) (next : q.Answer → Dialogue α) (a : q.Answer) :
    Shorter (some (next a)) (some (.ask q next))

/-- One part of a list gets shorter and the others stay. -/
inductive Step : List (Option (Dialogue α)) → List (Option (Dialogue α)) → Prop where
  /-- The first part gets shorter. -/
  | head {p p' : Option (Dialogue α)} {rest : List (Option (Dialogue α))} (h : Shorter p' p) :
    Step (p' :: rest) (p :: rest)
  /-- A later part gets shorter. -/
  | tail {p : Option (Dialogue α)} {rest rest' : List (Option (Dialogue α))} (h : Step rest' rest) :
    Step (p :: rest') (p :: rest)

/-- One load is lighter than another when one of its dialogues is shorter. -/
def Lighter (a b : Load α) : Prop := Step a.parts b.parts

/-- A dialogue that is over cannot get shorter. -/
theorem acc_none : Acc Shorter (none : Option (Dialogue α)) :=
  ⟨_, fun _ h => by cases h⟩

/-- No dialogue can get shorter forever. -/
theorem acc_shorter : (d : Dialogue α) → Acc Shorter (some d)
  | .done _ => ⟨_, fun _ h => by cases h; exact acc_none⟩
  | .ask _ next => ⟨_, fun _ h => by
      cases h with
      | answered _ _ a => exact acc_shorter (next a)⟩

/-- If neither a part nor the others can get shorter forever, all together cannot. -/
theorem acc_cons {p : Option (Dialogue α)} (hp : Acc Shorter p) :
    ∀ {rest : List (Option (Dialogue α))}, Acc Step rest → Acc Step (p :: rest) := by
  induction hp with
  | intro p _ ihp =>
    intro rest hrest
    induction hrest with
    | intro rest hrest ihrest =>
      refine ⟨_, fun l h => ?_⟩
      cases h with
      | head h => exact ihp _ h ⟨_, hrest⟩
      | tail h => exact ihrest _ h

/-- The parts of a list cannot get shorter one at a time forever. -/
theorem acc_step : (l : List (Option (Dialogue α))) → Acc Step l
  | [] => ⟨_, fun _ h => by cases h⟩
  | none :: rest => acc_cons acc_none (acc_step rest)
  | some d :: rest => acc_cons (acc_shorter d) (acc_step rest)

/-- Loads cannot get lighter forever. -/
theorem lighter_wf : WellFounded (Lighter (α := α)) :=
  InvImage.wf parts ⟨acc_step⟩

instance : WellFoundedRelation (Load α) := ⟨Lighter, lighter_wf⟩

/-- The load of a crew. -/
def of (seats : List (Option (Seat α))) (queue : List (Dialogue α)) : Load α :=
  ⟨seats.map (Option.map Seat.rest) ++ queue.map some⟩

/-- A part gets shorter wherever it stands among the others. -/
theorem step_append {p p' : Option (Dialogue α)} (h : Shorter p' p)
    (right : List (Option (Dialogue α))) :
    (left : List (Option (Dialogue α))) → Step (left ++ p' :: right) (left ++ p :: right)
  | [] => .head h
  | _ :: left => .tail (step_append h right left)

/-- A crew's load gets lighter when the dialogue at one seat gets shorter. -/
theorem lighter_of_seat {left right : List (Option (Seat α))} {seat : Seat α}
    {seat' : Option (Seat α)} {queue : List (Dialogue α)}
    (h : Shorter (seat'.map Seat.rest) (some seat.rest)) :
    Lighter (of (left ++ seat' :: right) queue) (of (left ++ some seat :: right) queue) := by
  simp only [Lighter, of, List.map_append, List.map_cons, List.append_assoc, List.cons_append,
    Option.map_some]
  exact step_append h _ _

/-- Taking a seat does not change the load. -/
theorem of_seated {seats : List (Option (Seat α))} {wakeAt ticket : Nat} {d : Dialogue α}
    {queue : List (Dialogue α)} :
    of (seats ++ [some ⟨wakeAt, ticket, d⟩]) queue = of seats (d :: queue) := by
  simp [of]

end Load

/-- Holds the dialogues at the seats and in the queue side by side. `now` is the time, `ticket` the
next turn, and `finish` says what is done about each value. -/
def crewFrom (finish : α → Dialogue Unit) (now ticket : Nat) (seats : List (Option (Seat α)))
    (queue : List (Dialogue α)) : Dialogue (List α) :=
  match _h : nextSeat? seats with
  | none => .done []
  | some (left, seat, right) =>
    (pause (seat.wakeAt - now)).bind fun _ =>
      let now := max now seat.wakeAt
      match _hr : seat.rest with
      | .done a =>
        (finish a).bind fun _ =>
          Dialogue.bind
            (match queue with
              | [] => crewFrom finish now ticket (left ++ none :: right) []
              | d :: queue =>
                -- the one from the queue waits for its turn behind all others
                crewFrom finish now (ticket + 1)
                  (left ++ none :: right ++ [some ⟨now, ticket, d⟩]) queue)
            fun rest => .done (a :: rest)
      | .ask (.pause ms) next =>
        -- a pause gives up the turn, even if it takes no time
        crewFrom finish now (ticket + 1) (left ++ some ⟨now + ms, ticket, next ()⟩ :: right) queue
      | .ask q next =>
        .ask q fun answer =>
          -- any other question keeps the turn
          crewFrom finish now ticket (left ++ some { seat with rest := next answer } :: right) queue
termination_by Load.of seats queue
decreasing_by
  · rw [eq_of_nextSeat? _h]
    exact Load.lighter_of_seat (by rw [_hr]; exact .over a)
  · rw [Load.of_seated, eq_of_nextSeat? _h]
    exact Load.lighter_of_seat (by rw [_hr]; exact .over a)
  · rw [eq_of_nextSeat? _h]
    exact Load.lighter_of_seat (by rw [_hr]; exact .answered (.pause ms) next ())
  · rw [eq_of_nextSeat? _h]
    exact Load.lighter_of_seat (by rw [_hr]; exact .answered q next answer)

/-- The first dialogues at their seats, in order. -/
def seated (ticket : Nat) : List (Dialogue α) → List (Option (Seat α))
  | [] => []
  | d :: rest => some ⟨0, ticket, d⟩ :: seated (ticket + 1) rest

/-- Holds dialogues side by side, at most `cap` of them at a time; the values come in the order in
which they are done. -/
def crew (cap : Nat) (finish : α → Dialogue Unit) (dialogues : List (Dialogue α)) :
    Dialogue (List α) :=
  let first := dialogues.take cap
  crewFrom finish 0 first.length (seated 0 first) (dialogues.drop cap)

end CitedReport.Dialogue
