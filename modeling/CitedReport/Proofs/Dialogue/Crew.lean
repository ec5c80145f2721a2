import CitedReport.Dialogue.Crew
import CitedReport.Proofs.Dialogue.Schedule

/-!
# What a crew does is a schedule

A crew seats the first dialogues at once and each later one when a seat is given up, and of those
that are due it lets speak the one that has waited longest. So at any time the dialogues that have
spoken come first among the seats, and those that are seated and have not spoken stand behind them
in the order of the queue (`Ready`). For a schedule, a dialogue begins when it first speaks, and the
ones that are only seated are still in its queue.

`held_crew` says that whatever a crew is answered, what it asks is what is heard of the log of a
schedule, and its values are those of the log's endings.
-/

namespace CitedReport.Dialogue

variable {α : Type}

/-! ## What is heard of a log -/

/-- What is asked to let some time pass. -/
def paused (ms : Nat) : List Exchange := if ms = 0 then [] else [⟨.pause ms, ()⟩]

/-- A pause is asked for, unless it takes no time. -/
theorem held_pause_iff {ms : Nat} {t : List Exchange} {u : Unit} :
    Held (pause ms) t u ↔ t = paused ms := by
  unfold pause paused
  split
  · exact held_done_iff.trans (and_iff_left rfl)
  · exact held_ask_done_iff

/-- What is asked outside when a dialogue of a crew asks. Its pauses are the crew's affair. -/
def passedOn (x : Exchange) : List Exchange :=
  match x.query with
  | .pause _ => []
  | _ => [x]

/-- Any question but a pause is passed on as it is. -/
theorem passedOn_of_ne {q : Query} (h : ∀ ms, q ≠ .pause ms) (answer : q.Answer) :
    passedOn ⟨q, answer⟩ = [⟨q, answer⟩] := by
  cases q with
  | pause ms => exact absurd rfl (h ms)
  | _ => rfl

/-- What is asked outside about what happens to a dialogue: `told` is what is told of a value. -/
def Move.heard (told : α → List Exchange) : Move α → List Exchange
  | .begins => []
  | .asks x => passedOn x
  | .ends a => told a

/-- What is asked outside when things happen as in a log. The time between two entries is one
pause. -/
def heard (told : α → List Exchange) : Nat → List (Entry α) → List Exchange
  | _, [] => []
  | now, e :: log => paused (e.time - now) ++ (e.move.heard told ++ heard told e.time log)

/-- If all that is asked of some kind is what is told of the values, it is asked in the order in
which the dialogues end. -/
theorem filterMap_heard {β : Type} {told : α → List Exchange} {kind : Exchange → Option β}
    {f : α → List β} (hpause : ∀ ms, kind ⟨.pause ms, ()⟩ = none)
    (htold : ∀ a, (told a).filterMap kind = f a) {log : List (Entry α)}
    (hasks : ∀ e ∈ log, ∀ x, e.move = .asks x → kind x = none) (now : Nat) :
    (heard told now log).filterMap kind = (endings log).flatMap fun e => f e.2 := by
  have hpaused : ∀ ms, (paused ms).filterMap kind = [] := by
    intro ms
    unfold paused
    split
    · rfl
    · rw [List.filterMap_cons_none (hpause ms), List.filterMap_nil]
  -- the time of an entry is when the rest of the log begins, so it varies in the induction
  induction log generalizing now with
  | nil => rfl
  | cons e log ih =>
    obtain ⟨time, place, move⟩ := e
    have hrest := ih (fun e he => hasks e (List.mem_cons_of_mem _ he)) time
    rw [heard, List.filterMap_append, hpaused, List.nil_append, List.filterMap_append, hrest]
    cases move with
    | begins => rfl
    | asks x =>
      have hx := hasks _ List.mem_cons_self x rfl
      have hpassed : (passedOn x).filterMap kind = [] := by
        unfold passedOn
        split
        · rfl
        · rw [List.filterMap_cons_none hx, List.filterMap_nil]
      rw [Move.heard, hpassed, List.nil_append, endings_asks]
    | ends a => rw [Move.heard, htold, endings_ends, List.flatMap_cons]

/-! ## The next seat -/

/-- A seat's turn does not come after that of another. -/
def Seat.NotAfter (s t : Seat α) : Prop :=
  s.wakeAt < t.wakeAt ∨ s.wakeAt = t.wakeAt ∧ s.ticket ≤ t.ticket

/-- No turn comes after itself. -/
theorem Seat.NotAfter.refl {s : Seat α} : s.NotAfter s := .inr ⟨rfl, Nat.le_refl _⟩

/-- The order of turns is transitive. -/
theorem Seat.NotAfter.trans {s t u : Seat α} (hst : s.NotAfter t) (htu : t.NotAfter u) :
    s.NotAfter u := by
  unfold NotAfter at *
  omega

/-- A seat that speaks before another has its turn no later. -/
theorem Seat.NotAfter.of_before {s t : Seat α} (h : s.before t = true) : s.NotAfter t := by
  simp only [before, Bool.or_eq_true, Bool.and_eq_true, decide_eq_true_eq, beq_iff_eq] at h
  unfold NotAfter
  omega

/-- Nor has a seat before which the other one does not speak. -/
theorem Seat.NotAfter.of_not_before {s t : Seat α} (h : ¬ t.before s = true) : s.NotAfter t := by
  simp only [before, Bool.or_eq_true, Bool.and_eq_true, decide_eq_true_eq, beq_iff_eq] at h
  unfold NotAfter
  omega

/-- If no seat speaks next, no dialogue is left at any seat. -/
theorem nextSeat?_eq_none {seats : List (Option (Seat α))} (h : nextSeat? seats = none) :
    ∀ s ∈ seats, s = none := by
  induction seats with
  | nil => exact fun s hs => absurd hs List.not_mem_nil
  | cons s rest ih =>
    cases s with
    | none =>
      rw [nextSeat?, Option.map_eq_none_iff] at h
      exact List.forall_mem_cons.2 ⟨rfl, ih h⟩
    | some s =>
      rw [nextSeat?] at h
      split at h
      · split at h <;> cases h
      · cases h

/-- The next seat comes after no other. -/
theorem notAfter_of_nextSeat? {seats left right : List (Option (Seat α))} {seat : Seat α}
    (h : nextSeat? seats = some (left, seat, right)) :
    ∀ s, some s ∈ seats → seat.NotAfter s := by
  induction seats generalizing left seat right with
  | nil => cases h
  | cons s rest ih =>
    cases s with
    | none =>
      rw [nextSeat?, Option.map_eq_some_iff] at h
      obtain ⟨⟨l, t, r⟩, hr, he⟩ := h
      obtain ⟨rfl, rfl, rfl⟩ : none :: l = left ∧ t = seat ∧ r = right := by simpa using he
      intro u hu
      exact ih hr u (by simpa using hu)
    | some s =>
      rw [nextSeat?] at h
      split at h
      · next l t r hr =>
        split at h
        · next hbefore =>
          -- the next one of the others comes before this one
          obtain ⟨rfl, rfl, rfl⟩ : some s :: l = left ∧ t = seat ∧ r = right := by simpa using h
          intro u hu
          rcases List.mem_cons.1 hu with hu | hu
          · obtain rfl := Option.some.inj hu
            exact .of_before hbefore
          · exact ih hr u hu
        · next hbefore =>
          -- this one comes before the next one of the others, and so before them all
          obtain ⟨rfl, rfl, rfl⟩ : [] = left ∧ s = seat ∧ rest = right := by simpa using h
          intro u hu
          rcases List.mem_cons.1 hu with hu | hu
          · obtain rfl := Option.some.inj hu
            exact .refl
          · exact (Seat.NotAfter.of_not_before hbefore).trans (ih hr u hu)
      · next hr =>
        obtain ⟨rfl, rfl, rfl⟩ : [] = left ∧ s = seat ∧ rest = right := by simpa using h
        intro u hu
        rcases List.mem_cons.1 hu with hu | hu
        · obtain rfl := Option.some.inj hu
          exact .refl
        · cases nextSeat?_eq_none hr _ hu

/-! ## One turn -/

section

variable {finish : α → Dialogue Unit} {told : α → List Exchange}

/-- What the next seat does when it is due, and what is left for the crew. -/
inductive Speaks (finish : α → Dialogue Unit) (told : α → List Exchange) (ticket : Nat)
    (left : List (Option (Seat α))) (seat : Seat α) (right : List (Option (Seat α))) :
    List (Dialogue α) → List Exchange → List α → Prop where
  /-- It is done, and nobody waits for the seat. -/
  | leaves {a : α} {trace : List Exchange} {values : List α} (hrest : seat.rest = .done a)
    (h : Held (crewFrom finish seat.wakeAt ticket (left ++ none :: right) []) trace values) :
    Speaks finish told ticket left seat right [] (told a ++ trace) (a :: values)
  /-- It is done, and the next one of the queue is seated. -/
  | makesRoom {a : α} {d : Dialogue α} {queue : List (Dialogue α)} {trace : List Exchange}
    {values : List α} (hrest : seat.rest = .done a)
    (h : Held (crewFrom finish seat.wakeAt (ticket + 1)
      (left ++ none :: right ++ [some ⟨seat.wakeAt, ticket, d⟩]) queue) trace values) :
    Speaks finish told ticket left seat right (d :: queue) (told a ++ trace) (a :: values)
  /-- It asks. -/
  | asks {q : Query} {next : q.Answer → Dialogue α} (answer : q.Answer) (turn : Nat) {ticket' : Nat}
    {queue : List (Dialogue α)} {trace : List Exchange} {values : List α}
    (hrest : seat.rest = .ask q next) (hticket : ticket ≤ ticket')
    (h : Held (crewFrom finish seat.wakeAt ticket'
      (left ++ some ⟨seat.wakeAt + q.lasts, turn, next answer⟩ :: right) queue) trace values) :
    Speaks finish told ticket left seat right queue (passedOn ⟨q, answer⟩ ++ trace) values

/-- A crew without seats is done. -/
theorem held_crewFrom_none {now ticket : Nat} {seats : List (Option (Seat α))}
    {queue : List (Dialogue α)} {trace : List Exchange} {values : List α}
    (hnext : nextSeat? seats = none)
    (h : Held (crewFrom finish now ticket seats queue) trace values) :
    trace = [] ∧ values = [] := by
  unfold crewFrom at h
  split at h
  · exact held_done_iff.1 h
  · next hsome => rw [hnext] at hsome; cases hsome

/-- A crew waits until the next seat is due and lets it speak. -/
theorem held_crewFrom_some (htold : ∀ a t u, Held (finish a) t u → t = told a) {now ticket : Nat}
    {seats left right : List (Option (Seat α))} {seat : Seat α} {queue : List (Dialogue α)}
    {trace : List Exchange} {values : List α} (hnext : nextSeat? seats = some (left, seat, right))
    (hdue : now ≤ seat.wakeAt)
    (h : Held (crewFrom finish now ticket seats queue) trace values) :
    ∃ rest, trace = paused (seat.wakeAt - now) ++ rest ∧
      Speaks finish told ticket left seat right queue rest values := by
  unfold crewFrom at h
  split at h
  · next hnone => rw [hnext] at hnone; cases hnone
  · next l s r hsome =>
    rw [hnext] at hsome
    obtain ⟨rfl, rfl, rfl⟩ : left = l ∧ seat = s ∧ right = r := by simpa using hsome
    obtain ⟨t₁, rest, _, rfl, hpause, hturn⟩ := held_bind_iff.1 h
    refine ⟨rest, by rw [held_pause_iff.1 hpause], ?_⟩
    simp only [Nat.max_eq_right hdue] at hturn
    split at hturn
    · next a hrest =>
      obtain ⟨t₂, t₃, _, rfl, hfinish, hvalues⟩ := held_bind_iff.1 hturn
      obtain rfl := htold _ _ _ hfinish
      obtain ⟨t₄, t₅, later, rfl, hlater, hdone⟩ := held_bind_iff.1 hvalues
      obtain ⟨rfl, rfl⟩ := held_done_iff.1 hdone
      rw [List.append_nil]
      cases queue with
      | nil => exact .leaves hrest hlater
      | cons d queue => exact .makesRoom hrest hlater
    · next ms next hrest =>
      -- the crew takes a pause upon itself
      exact .asks (q := .pause ms) () ticket hrest (Nat.le_succ ticket) hturn
    · next q next hother hrest =>
      -- any other question is passed on, and takes no time
      obtain ⟨answer, t, rfl, hlater⟩ := held_ask_iff.1 hturn
      have hq : ∀ ms, q ≠ .pause ms := by
        rintro ms rfl
        exact hother ms next rfl HEq.rfl
      rw [← List.singleton_append, ← passedOn_of_ne hq answer]
      refine .asks answer seat.ticket hrest (Nat.le_refl ticket) ?_
      rw [Query.lasts_of_ne hq]
      exact hlater

/-! ## All turns -/

/-- A seat as a schedule has it. -/
def Seat.turn (s : Seat α) : Turn α := ⟨s.wakeAt, s.rest⟩

/-- The seats whose dialogues have begun, as a schedule has them. -/
def turns (begun : List (Option (Seat α))) : List (Option (Turn α)) :=
  begun.map (Option.map Seat.turn)

/-- The turns of seats are taken one by one, also around one seat. -/
theorem turns_middle (left right : List (Option (Seat α))) (s : Option (Seat α)) :
    turns (left ++ s :: right) = turns left ++ s.map Seat.turn :: turns right := by
  rw [turns, List.map_append, List.map_cons, ← turns, ← turns]

/-- There are as many turns as seats. -/
theorem length_turns (begun : List (Option (Seat α))) : (turns begun).length = begun.length :=
  List.length_map _

/-- The dialogues of seats are due when the seats are. -/
theorem le_due_of_mem_turns {begun : List (Option (Seat α))} {time : Nat}
    (h : ∀ s, some s ∈ begun → time ≤ s.wakeAt) (t : Turn α) (ht : some t ∈ turns begun) :
    time ≤ t.due := by
  obtain ⟨s, hs, hst⟩ := List.mem_map.1 ht
  obtain ⟨s, rfl, rfl⟩ := Option.map_eq_some_iff.1 hst
  exact h s hs

/-- As many turns are in hand as there are seats with a dialogue. -/
theorem inHand_turns (begun : List (Option (Seat α))) :
    inHand (turns begun) = begun.countP Option.isSome := by
  rw [inHand, turns, List.countP_map]
  congr 1
  funext s
  cases s <;> rfl

/-- What is asked and what comes of it are those of a schedule. -/
def Scheduled (cap : Nat) (told : α → List Exchange) (now : Nat) (begun : List (Option (Seat α)))
    (queue : List (Dialogue α)) (trace : List Exchange) (values : List α) : Prop :=
  ∃ log, Schedule cap now (turns begun) queue log ∧ trace = heard told now log ∧
    values = (endings log).map Prod.snd

section Scheduled

variable {cap now : Nat} {begun left right : List (Option (Seat α))} {seat : Seat α}
  {queue : List (Dialogue α)} {trace : List Exchange} {values : List α}

/-- When every dialogue is done and none waits, the empty log is a schedule. -/
theorem Scheduled.finished (h : ∀ s ∈ begun, s = none) : Scheduled cap told now begun [] [] [] := by
  refine ⟨[], .finished fun t ht => ?_, rfl, rfl⟩
  obtain ⟨s, hs, rfl⟩ := List.mem_map.1 ht
  rw [h s hs]
  rfl

/-- The next dialogue in the queue begins at a seat of its own when there is room. -/
theorem Scheduled.begins (hroom : begun.countP Option.isSome < cap) (hdue : seat.wakeAt = now)
    (h : Scheduled cap told now (begun ++ [some seat]) queue trace values) :
    Scheduled cap told now begun (seat.rest :: queue) trace values := by
  obtain ⟨log, hlog, rfl, rfl⟩ := h
  refine ⟨⟨now, (turns begun).length, .begins⟩ :: log, .begins ?_ ?_, ?_, rfl⟩
  · rw [inHand_turns]
    exact hroom
  · rw [turns_middle] at hlog
    subst hdue
    exact hlog
  · simp [heard, Move.heard, paused]

/-- Time can pass up to the end of a pause that ends before the others. -/
theorem Scheduled.ends {a : α} (hrest : seat.rest = .done a) (hlater : now ≤ seat.wakeAt)
    (hdue : ∀ s, some s ∈ left ++ some seat :: right → seat.wakeAt ≤ s.wakeAt)
    (h : Scheduled cap told seat.wakeAt (left ++ none :: right) queue trace values) :
    Scheduled cap told now (left ++ some seat :: right) queue
      (paused (seat.wakeAt - now) ++ (told a ++ trace)) (a :: values) := by
  obtain ⟨log, hlog, rfl, rfl⟩ := h
  refine ⟨⟨seat.wakeAt, left.length, .ends a⟩ :: log,
    .waits hlater (le_due_of_mem_turns hdue) ?_, rfl, rfl⟩
  rw [turns_middle] at hlog ⊢
  rw [← length_turns left, Option.map_some, Seat.turn, hrest]
  exact .ends hlog

/-- The dialogue whose turn it is asks, after the pause up to its turn. -/
theorem Scheduled.asks {q : Query} {next : q.Answer → Dialogue α} {answer : q.Answer} {turn : Nat}
    (hrest : seat.rest = .ask q next) (hlater : now ≤ seat.wakeAt)
    (hdue : ∀ s, some s ∈ left ++ some seat :: right → seat.wakeAt ≤ s.wakeAt)
    (h : Scheduled cap told seat.wakeAt
      (left ++ some ⟨seat.wakeAt + q.lasts, turn, next answer⟩ :: right) queue trace values) :
    Scheduled cap told now (left ++ some seat :: right) queue
      (paused (seat.wakeAt - now) ++ (passedOn ⟨q, answer⟩ ++ trace)) values := by
  obtain ⟨log, hlog, rfl, rfl⟩ := h
  refine ⟨⟨seat.wakeAt, left.length, .asks ⟨q, answer⟩⟩ :: log,
    .waits hlater (le_due_of_mem_turns hdue) ?_, rfl, rfl⟩
  rw [turns_middle] at hlog ⊢
  rw [← length_turns left, Option.map_some, Seat.turn, hrest]
  exact .asks answer hlog

end Scheduled

/-- How the seats of a crew stand: those that have spoken, and behind them those that are seated
and have not. -/
structure Ready (cap now ticket : Nat) (begun : List (Option (Seat α))) (seated : List (Seat α))
    (queue : List (Dialogue α)) : Prop where
  /-- Nobody is late. -/
  due : ∀ s, some s ∈ begun → now ≤ s.wakeAt
  /-- Those that are seated may speak at once. -/
  atOnce : ∀ s ∈ seated, s.wakeAt = now
  /-- They speak in the order in which they were seated. -/
  inTurn : seated.Pairwise fun s t => s.ticket < t.ticket
  /-- No turn is given twice. -/
  given : ∀ s ∈ seated, s.ticket < ticket
  /-- There are seats for all of them. -/
  room : begun.countP Option.isSome + seated.length ≤ cap
  /-- Nobody waits for a seat that is free. -/
  busy : queue = [] ∨ begun.countP Option.isSome + seated.length = cap

namespace Ready

variable {cap now ticket : Nat} {begun left right : List (Option (Seat α))} {seat : Seat α}
  {seated : List (Seat α)} {queue : List (Dialogue α)}

/-- The first of those that are seated can begin. -/
theorem begins (h : Ready cap now ticket begun (seat :: seated) queue) :
    Ready cap now ticket (begun ++ [some seat]) seated queue where
  due s hs := by
    rcases List.mem_append.1 hs with hs | hs
    · exact h.due s hs
    · obtain rfl : s = seat := by simpa using hs
      exact Nat.le_of_eq (h.atOnce s List.mem_cons_self).symm
  atOnce s hs := h.atOnce s (List.mem_cons_of_mem _ hs)
  inTurn := (List.pairwise_cons.1 h.inTurn).2
  given s hs := h.given s (List.mem_cons_of_mem _ hs)
  room := by
    have := h.room
    simp only [List.length_cons] at this
    simp
    omega
  busy := by
    refine h.busy.imp id fun hbusy => ?_
    simp only [List.length_cons] at hbusy
    simp
    omega

/-- Who speaks next has spoken before, or is the first of those that have not. -/
theorem split_of_nextSeat? (h : Ready cap now ticket begun seated queue)
    (hnext : nextSeat? (begun ++ seated.map some) = some (left, seat, right)) :
    (∃ middle, begun = left ++ some seat :: middle ∧ right = middle ++ seated.map some) ∨
      ∃ later, seated = seat :: later ∧ left = begun ∧ right = later.map some := by
  have hfirst := notAfter_of_nextSeat? hnext
  rcases List.append_eq_append_iff.1 (eq_of_nextSeat? hnext) with
    ⟨front, rfl, hseated⟩ | ⟨back, rfl, hback⟩
  · obtain ⟨earlier, others, rfl, rfl, hothers⟩ := List.map_eq_append_iff.1 hseated
    obtain ⟨_, later, rfl, hseat, rfl⟩ := List.map_eq_cons_iff.1 hothers
    obtain rfl := Option.some.inj hseat
    cases earlier with
    | nil => exact .inr ⟨later, rfl, by simp, rfl⟩
    | cons s earlier =>
      -- one that was seated earlier would speak first
      have hnow : s.wakeAt = now := h.atOnce s (by simp)
      have hnow' := h.atOnce _ (List.mem_append_right (s :: earlier) List.mem_cons_self)
      have hturn := (List.pairwise_cons.1 h.inTurn).1 _
        (List.mem_append_right earlier List.mem_cons_self)
      have := hfirst s (by simp)
      unfold Seat.NotAfter at this
      omega
  · cases back with
    | nil =>
      obtain ⟨_, later, rfl, hseat, rfl⟩ := List.map_eq_cons_iff.1 hback.symm
      obtain rfl := Option.some.inj hseat
      exact .inr ⟨later, rfl, by simp, rfl⟩
    | cons s middle =>
      obtain ⟨rfl, rfl⟩ : some seat = s ∧ right = middle ++ seated.map some := by
        simpa using hback
      exact .inl ⟨middle, rfl, rfl⟩

section

variable {middle : List (Option (Seat α))} (h : Ready cap now ticket (left ++ some seat :: middle)
  seated queue) (hfirst : ∀ s, some s ∈ left ++ some seat :: middle ++ seated.map some →
  seat.NotAfter s)

include hfirst in
/-- Nobody else is due before the one who speaks next. -/
theorem wakeAt_le (s : Seat α) (hs : some s ∈ left ++ some seat :: middle) :
    seat.wakeAt ≤ s.wakeAt := by
  have := hfirst s (List.mem_append_left _ hs)
  unfold Seat.NotAfter at this
  omega

include h hfirst

/-- Time does not pass while somebody is seated and has not spoken. -/
theorem wakeAt_of_seated (s : Seat α) (hs : s ∈ seated) : s.wakeAt = seat.wakeAt := by
  have hnow : s.wakeAt = now := h.atOnce s hs
  have hlater : now ≤ seat.wakeAt := h.due seat (by simp)
  have := hfirst s (List.mem_append_right _ (List.mem_map_of_mem hs))
  unfold Seat.NotAfter at this
  omega

/-- The one who has spoken goes on later. -/
theorem asks {seat' : Seat α} {ticket' : Nat} (hlater : seat.wakeAt ≤ seat'.wakeAt)
    (hticket : ticket ≤ ticket') :
    Ready cap seat.wakeAt ticket' (left ++ some seat' :: middle) seated queue where
  due s hs := by
    rcases List.mem_append.1 hs with hs | hs
    · exact wakeAt_le hfirst s (List.mem_append_left _ hs)
    · rcases List.mem_cons.1 hs with hs | hs
      · rwa [Option.some.inj hs]
      · exact wakeAt_le hfirst s (List.mem_append_right _ (List.mem_cons_of_mem _ hs))
  atOnce := wakeAt_of_seated h hfirst
  inTurn := h.inTurn
  given s hs := Nat.lt_of_lt_of_le (h.given s hs) hticket
  room := by simpa using h.room
  busy := by simpa using h.busy

/-- The one who has spoken leaves, and nobody waits for the seat. -/
theorem leaves : Ready cap seat.wakeAt ticket (left ++ none :: middle) seated [] where
  due s hs := by
    rcases List.mem_append.1 hs with hs | hs
    · exact wakeAt_le hfirst s (List.mem_append_left _ hs)
    · have hs : some s ∈ middle := by simpa using hs
      exact wakeAt_le hfirst s (List.mem_append_right _ (List.mem_cons_of_mem _ hs))
  atOnce := wakeAt_of_seated h hfirst
  inTurn := h.inTurn
  given := h.given
  room := by
    have := h.room
    simp at this ⊢
    omega
  busy := .inl rfl

end

/-- The one who has spoken leaves, and the next of the queue is seated. -/
theorem makesRoom {middle : List (Option (Seat α))} {d : Dialogue α}
    (h : Ready cap now ticket (left ++ some seat :: middle) seated (d :: queue))
    (hfirst : ∀ s, some s ∈ left ++ some seat :: middle ++ seated.map some → seat.NotAfter s) :
    Ready cap seat.wakeAt (ticket + 1) (left ++ none :: middle)
      (seated ++ [⟨seat.wakeAt, ticket, d⟩]) queue where
  due := (h.leaves hfirst).due
  atOnce s hs := by
    rcases List.mem_append.1 hs with hs | hs
    · exact wakeAt_of_seated h hfirst s hs
    · rw [List.mem_singleton.1 hs]
  inTurn := by
    refine List.pairwise_append.2 ⟨h.inTurn, List.pairwise_singleton _ _, fun s hs t ht => ?_⟩
    rw [List.mem_singleton.1 ht]
    exact h.given s hs
  given s hs := by
    rcases List.mem_append.1 hs with hs | hs
    · exact Nat.lt_succ_of_lt (h.given s hs)
    · rw [List.mem_singleton.1 hs]
      exact Nat.lt_succ_self ticket
  room := by
    have := h.room
    simp at this ⊢
    omega
  busy := by
    refine .inr ?_
    have := h.busy.resolve_left (by simp)
    simp at this ⊢
    omega

end Ready

/-- Nobody is due in the past. -/
theorem Ready.le_wakeAt {cap now ticket : Nat} {begun : List (Option (Seat α))}
    {seated : List (Seat α)} {queue : List (Dialogue α)}
    (h : Ready cap now ticket begun seated queue) {s : Seat α}
    (hs : some s ∈ begun ++ seated.map some) : now ≤ s.wakeAt := by
  rcases List.mem_append.1 hs with hs | hs
  · exact h.due s hs
  · obtain ⟨t, ht, hst⟩ := List.mem_map.1 hs
    obtain rfl := Option.some.inj hst
    exact Nat.le_of_eq (h.atOnce t ht).symm

/-- When no seat is taken, there is nothing left to do. -/
theorem Ready.idle {cap now ticket : Nat} (hcap : 0 < cap) {begun : List (Option (Seat α))}
    {seated : List (Seat α)} {queue : List (Dialogue α)}
    (h : Ready cap now ticket begun seated queue)
    (hnext : nextSeat? (begun ++ seated.map some) = none) :
    (∀ s ∈ begun, s = none) ∧ seated = [] ∧ queue = [] := by
  have hnone := nextSeat?_eq_none hnext
  have hbegun : ∀ s ∈ begun, s = none := fun s hs => hnone s (List.mem_append_left _ hs)
  obtain rfl : seated = [] := List.eq_nil_iff_forall_not_mem.2 fun s hs => by
    cases hnone (some s) (List.mem_append_right _ (List.mem_map_of_mem hs))
  have hidle : begun.countP Option.isSome = 0 := List.countP_eq_zero.2 fun s hs => by
    rw [hbegun s hs]
    exact Bool.false_ne_true
  exact ⟨hbegun, rfl, h.busy.resolve_right (by simp; omega)⟩

/-- Crews that are left with less to do than this keep to a schedule. -/
def KeepsSchedule (cap : Nat) (finish : α → Dialogue Unit) (told : α → List Exchange)
    (load : Load α) : Prop :=
  ∀ ⦃now ticket : Nat⦄ ⦃begun : List (Option (Seat α))⦄ ⦃seated : List (Seat α)⦄
    ⦃queue : List (Dialogue α)⦄ ⦃trace : List Exchange⦄ ⦃values : List α⦄,
    Load.Lighter (Load.of (begun ++ seated.map some) queue) load →
    Ready cap now ticket begun seated queue →
    Held (crewFrom finish now ticket (begun ++ seated.map some) queue) trace values →
    Scheduled cap told now begun (seated.map Seat.rest ++ queue) trace values

/-- A seat that has begun speaks as it would in a schedule. -/
theorem scheduled_of_speaks {cap now ticket : Nat} {left middle : List (Option (Seat α))}
    {seat : Seat α} {seated : List (Seat α)} {queue : List (Dialogue α)} {trace : List Exchange}
    {values : List α} (hready : Ready cap now ticket (left ++ some seat :: middle) seated queue)
    (hfirst : ∀ s, some s ∈ left ++ some seat :: middle ++ seated.map some → seat.NotAfter s)
    (hkeeps : KeepsSchedule cap finish told
      (Load.of (left ++ some seat :: (middle ++ seated.map some)) queue))
    (hspeaks : Speaks finish told ticket left seat (middle ++ seated.map some) queue trace
      values) :
    Scheduled cap told now (left ++ some seat :: middle) (seated.map Seat.rest ++ queue)
      (paused (seat.wakeAt - now) ++ trace) values := by
  have hlater : now ≤ seat.wakeAt := hready.due seat (by simp)
  have hdue := Ready.wakeAt_le hfirst
  -- what is left to do gets less with each step: a dialogue is over, or a question is answered
  have hover : ∀ {a : α}, seat.rest = .done a →
      Load.Shorter ((none : Option (Seat α)).map Seat.rest) (some seat.rest) := by
    intro a hrest
    rw [hrest]
    exact .over a
  cases hspeaks with
  | leaves hrest hrun =>
    refine .ends hrest hlater hdue (hkeeps ?_ (hready.leaves hfirst) (by simpa using hrun))
    rw [List.append_assoc, List.cons_append]
    exact Load.lighter_of_seat (hover hrest)
  | @makesRoom a d queue _ _ hrest hrun =>
    have hlighter : Load.Lighter (Load.of (left ++ none :: middle ++
        (seated ++ [Seat.mk seat.wakeAt ticket d]).map some) queue)
        (Load.of (left ++ some seat :: (middle ++ seated.map some)) (d :: queue)) := by
      rw [List.map_append, ← List.append_assoc, List.map_singleton, Load.of_seated,
        List.append_assoc, List.cons_append]
      exact Load.lighter_of_seat (hover hrest)
    have hrest' := hkeeps hlighter (hready.makesRoom hfirst) (by simpa using hrun)
    rw [List.map_append, List.append_assoc] at hrest'
    exact .ends hrest hlater hdue hrest'
  | asks answer _ hrest hticket hrun =>
    refine .asks hrest hlater hdue (hkeeps ?_ (hready.asks hfirst (Nat.le_add_right _ _) hticket)
      (by simpa using hrun))
    rw [List.append_assoc, List.cons_append]
    exact Load.lighter_of_seat (by rw [hrest]; exact .answered _ _ _)

/-- What a crew asks, whatever it is answered, is heard of a schedule, and its values are those of
the schedule's endings. -/
theorem scheduled_of_held {cap : Nat} (hcap : 0 < cap)
    (htold : ∀ a t u, Held (finish a) t u → t = told a) {now ticket : Nat}
    {begun : List (Option (Seat α))} {seated : List (Seat α)} {queue : List (Dialogue α)}
    {trace : List Exchange} {values : List α} (hready : Ready cap now ticket begun seated queue)
    (h : Held (crewFrom finish now ticket (begun ++ seated.map some) queue) trace values) :
    Scheduled cap told now begun (seated.map Seat.rest ++ queue) trace values := by
  -- the dialogues of the crew get shorter with every turn
  generalize hload : Load.of (begun ++ seated.map some) queue = load
  induction load using Load.lighter_wf.induction generalizing now ticket begun seated queue trace
    values with
  | h load ih =>
    have hkeeps : KeepsSchedule cap finish told load :=
      fun _ _ _ _ _ _ _ hlighter hready h => ih _ hlighter hready h rfl
    cases hnext : nextSeat? (begun ++ seated.map some) with
    | none =>
      obtain ⟨rfl, rfl⟩ := held_crewFrom_none hnext h
      obtain ⟨hnone, rfl, rfl⟩ := hready.idle hcap hnext
      exact .finished hnone
    | some next =>
      obtain ⟨left, seat, right⟩ := next
      have hfirst := notAfter_of_nextSeat? hnext
      have hseats := eq_of_nextSeat? hnext
      have hdue : now ≤ seat.wakeAt := hready.le_wakeAt (by rw [hseats]; simp)
      obtain ⟨rest, rfl, hspeaks⟩ := held_crewFrom_some htold hnext hdue h
      rw [hseats] at hload hfirst
      subst hload
      rcases hready.split_of_nextSeat? hnext with ⟨middle, rfl, rfl⟩ | ⟨later, rfl, rfl, rfl⟩
      · exact scheduled_of_speaks hready (by simpa using hfirst) hkeeps hspeaks
      · -- the first of those that are seated begins, and speaks at once
        have hroom := hready.room
        rw [List.length_cons] at hroom
        refine .begins (by omega) (hready.atOnce seat List.mem_cons_self) ?_
        exact scheduled_of_speaks hready.begins (by simpa using hfirst) hkeeps hspeaks

/-- The first dialogues are seated at once, in order. -/
theorem exists_seated (dialogues : List (Dialogue α)) (ticket : Nat) :
    ∃ fresh : List (Seat α), seated ticket dialogues = fresh.map some ∧
      fresh.map Seat.rest = dialogues ∧ (∀ s ∈ fresh, s.wakeAt = 0) ∧
      (∀ s ∈ fresh, ticket ≤ s.ticket ∧ s.ticket < ticket + dialogues.length) ∧
      fresh.Pairwise fun s t => s.ticket < t.ticket := by
  induction dialogues generalizing ticket with
  | nil => exact ⟨[], rfl, rfl, by simp, by simp, List.Pairwise.nil⟩
  | cons d rest ih =>
    obtain ⟨fresh, hseated, hrest, hwake, hticket, hinTurn⟩ := ih (ticket + 1)
    refine ⟨⟨0, ticket, d⟩ :: fresh, ?_, ?_, ?_, ?_, ?_⟩
    · rw [seated, hseated, List.map_cons]
    · rw [List.map_cons, hrest]
    · exact List.forall_mem_cons.2 ⟨rfl, hwake⟩
    · refine List.forall_mem_cons.2 ⟨⟨Nat.le_refl _, by simp⟩, fun s hs => ?_⟩
      have := hticket s hs
      rw [List.length_cons]
      omega
    · refine List.pairwise_cons.2 ⟨fun s hs => ?_, hinTurn⟩
      have := hticket s hs
      change ticket < s.ticket
      omega

/-- A crew holds its dialogues in a schedule. -/
theorem held_crew {cap : Nat} (hcap : 0 < cap)
    (htold : ∀ a t u, Held (finish a) t u → t = told a) {dialogues : List (Dialogue α)}
    {trace : List Exchange} {values : List α} (h : Held (crew cap finish dialogues) trace values) :
    ∃ log, Schedule cap 0 [] dialogues log ∧ trace = heard told 0 log ∧
      values = (endings log).map Prod.snd := by
  obtain ⟨fresh, hseated, hrest, hwake, hticket, hinTurn⟩ := exists_seated (dialogues.take cap) 0
  have hlength : fresh.length = min cap dialogues.length := by
    rw [← List.length_take, ← hrest, List.length_map]
  have hready : Ready cap 0 (dialogues.take cap).length [] fresh (dialogues.drop cap) := by
    refine ⟨by simp, hwake, hinTurn, fun s hs => ?_, ?_, ?_⟩
    · have := hticket s hs
      omega
    · simp only [List.countP_nil, hlength]
      omega
    · rw [List.drop_eq_nil_iff]
      simp only [List.countP_nil, hlength]
      omega
  unfold crew at h
  simp only [hseated] at h
  have := scheduled_of_held hcap htold hready (by simpa using h)
  rwa [hrest, List.take_append_drop] at this

end

end CitedReport.Dialogue
