import Mathlib.Data.List.Basic
import CitedReport.Proofs.Dialogue.Held

/-!
# Schedules of dialogues that are held side by side

Several dialogues wait to be held, and at most so many are in hand at a time. `Schedule` says what
can happen then, whoever decides whose turn it is: the next one in the queue begins if there is
room, one that is due asks its next question or comes to its end, and time passes up to the end of a
pause. What happens is entered in a log.

Whatever the schedule, the log tells that nothing is lost and nothing is done twice: the dialogues
begin in the order of the queue (`Schedule.beginnings_eq`), never more than `cap` are in hand
(`Schedule.inHand_le`), and each is held from its beginning to its end, once and in the time that
its pauses take (`Schedule.accounts`, `Schedule.endings_perm`). With room for one only, they end in
the order of the queue too (`Schedule.endings_of_one`).
-/

namespace CitedReport

/-- How long a question keeps the one who asks it: a pause takes its time, and no other question
does. -/
def Query.lasts : Query → Nat
  | .pause ms => ms
  | _ => 0

/-- Only pauses take time. -/
theorem Query.lasts_of_ne {q : Query} (h : ∀ ms, q ≠ .pause ms) : q.lasts = 0 := by
  cases q with
  | pause ms => exact absurd rfl (h ms)
  | _ => rfl

namespace Dialogue

variable {α : Type}

/-- The time that some exchanges take. -/
def duration : List Exchange → Nat
  | [] => 0
  | x :: xs => x.query.lasts + duration xs

/-- No exchanges take no time. -/
@[simp] theorem duration_nil : duration [] = 0 := rfl

/-- Exchanges take time one after the other. -/
@[simp] theorem duration_cons (x : Exchange) (xs : List Exchange) :
    duration (x :: xs) = x.query.lasts + duration xs :=
  rfl

/-! ## Logs -/

/-- What happens to a dialogue. -/
inductive Move (α : Type) where
  /-- It begins. -/
  | begins
  /-- It asks a question and is answered. -/
  | asks (x : Exchange)
  /-- It is done, with this value. -/
  | ends (value : α)

/-- An entry of a log. -/
structure Entry (α : Type) where
  /-- When it happens. -/
  time : Nat
  /-- To which dialogue: its position in the queue, counted from zero. -/
  place : Nat
  /-- What happens. -/
  move : Move α

/-- The dialogue that begins. -/
def Entry.begun? (e : Entry α) : Option Nat :=
  match e.move with
  | .begins => some e.place
  | _ => none

/-- The dialogue that ends, with its value. -/
def Entry.ended? (e : Entry α) : Option (Nat × α) :=
  match e.move with
  | .ends a => some (e.place, a)
  | _ => none

/-- The dialogues that begin, in order. -/
def beginnings (log : List (Entry α)) : List Nat := log.filterMap Entry.begun?

/-- The dialogues that end, in order, with their values. -/
def endings (log : List (Entry α)) : List (Nat × α) := log.filterMap Entry.ended?

section

variable (time place : Nat) (log : List (Entry α))

/-- Nobody begins in an empty log. -/
@[simp] theorem beginnings_nil : beginnings ([] : List (Entry α)) = [] := rfl

/-- An entry for a beginning is the first of the beginnings. -/
@[simp] theorem beginnings_begins :
    beginnings (⟨time, place, .begins⟩ :: log) = place :: beginnings log := rfl

/-- A question is no beginning. -/
@[simp] theorem beginnings_asks (x : Exchange) :
    beginnings (⟨time, place, .asks x⟩ :: log) = beginnings log := rfl

/-- An end is no beginning. -/
@[simp] theorem beginnings_ends (a : α) :
    beginnings (⟨time, place, .ends a⟩ :: log) = beginnings log := rfl

/-- Nobody ends in an empty log. -/
@[simp] theorem endings_nil : endings ([] : List (Entry α)) = [] := rfl

/-- A beginning is no end. -/
@[simp] theorem endings_begins :
    endings (⟨time, place, .begins⟩ :: log) = endings log := rfl

/-- A question is no end. -/
@[simp] theorem endings_asks (x : Exchange) :
    endings (⟨time, place, .asks x⟩ :: log) = endings log := rfl

/-- An entry for an end is the first of the ends. -/
@[simp] theorem endings_ends (a : α) :
    endings (⟨time, place, .ends a⟩ :: log) = (place, a) :: endings log := rfl

end

/-- What happens to one dialogue. -/
def own (i : Nat) (log : List (Entry α)) : List (Entry α) := log.filter fun e => e.place = i

/-- What happens to a dialogue first is the first of its entries. -/
theorem own_cons_self (e : Entry α) (log : List (Entry α)) :
    own e.place (e :: log) = e :: own e.place log :=
  List.filter_cons_of_pos (by simp)

/-- What happens to another dialogue is not among its entries. -/
theorem own_cons_of_ne {i : Nat} {e : Entry α} (h : e.place ≠ i) (log : List (Entry α)) :
    own i (e :: log) = own i log :=
  List.filter_cons_of_neg (by simpa using h)

/-! ## Schedules -/

/-- A dialogue that has begun. -/
structure Turn (α : Type) where
  /-- When it goes on. -/
  due : Nat
  /-- What is left of it. -/
  rest : Dialogue α

/-- How many dialogues are in hand. Those that are done are `none`. -/
def inHand (begun : List (Option (Turn α))) : Nat := begun.countP Option.isSome

/-- Nobody is in hand where nobody has begun. -/
@[simp] theorem inHand_nil : inHand ([] : List (Option (Turn α))) = 0 := rfl

/-- Those in hand on the left and on the right add up. -/
@[simp] theorem inHand_append (xs ys : List (Option (Turn α))) :
    inHand (xs ++ ys) = inHand xs + inHand ys :=
  List.countP_append

/-- A dialogue that goes on is in hand. -/
@[simp] theorem inHand_cons_some (t : Turn α) (xs : List (Option (Turn α))) :
    inHand (some t :: xs) = inHand xs + 1 := by
  simp [inHand]

/-- One that is done is not. -/
@[simp] theorem inHand_cons_none (xs : List (Option (Turn α))) :
    inHand (none :: xs) = inHand xs := by
  simp [inHand]

/-- Nothing is in hand when all are done. -/
theorem inHand_eq_zero {begun : List (Option (Turn α))} (h : ∀ t ∈ begun, t = none) :
    inHand begun = 0 :=
  List.countP_eq_zero.2 fun t ht => by simp [h t ht]

/-- With these dialogues begun at some time and these in the queue, this may be the log from then
on. -/
inductive Schedule (cap : Nat) :
    Nat → List (Option (Turn α)) → List (Dialogue α) → List (Entry α) → Prop where
  /-- All dialogues are done. -/
  | finished {now : Nat} {begun : List (Option (Turn α))} (h : ∀ t ∈ begun, t = none) :
    Schedule cap now begun [] []
  /-- There is room, and the next dialogue begins. -/
  | begins {now : Nat} {begun : List (Option (Turn α))} {d : Dialogue α} {queue : List (Dialogue α)}
    {log : List (Entry α)} (hroom : inHand begun < cap)
    (h : Schedule cap now (begun ++ [some ⟨now, d⟩]) queue log) :
    Schedule cap now begun (d :: queue) (⟨now, begun.length, .begins⟩ :: log)
  /-- A dialogue that is due asks a question. It goes on at once, but after a pause. -/
  | asks {now : Nat} {left right : List (Option (Turn α))} {q : Query}
    {next : q.Answer → Dialogue α} (answer : q.Answer) {queue : List (Dialogue α)}
    {log : List (Entry α)}
    (h : Schedule cap now (left ++ some ⟨now + q.lasts, next answer⟩ :: right) queue log) :
    Schedule cap now (left ++ some ⟨now, .ask q next⟩ :: right) queue
      (⟨now, left.length, .asks ⟨q, answer⟩⟩ :: log)
  /-- A dialogue that is due is done. -/
  | ends {now : Nat} {left right : List (Option (Turn α))} {a : α} {queue : List (Dialogue α)}
    {log : List (Entry α)} (h : Schedule cap now (left ++ none :: right) queue log) :
    Schedule cap now (left ++ some ⟨now, .done a⟩ :: right) queue
      (⟨now, left.length, .ends a⟩ :: log)
  /-- Time passes, but not beyond what is due. -/
  | waits {now later : Nat} {begun : List (Option (Turn α))} {queue : List (Dialogue α)}
    {log : List (Entry α)} (hlater : now ≤ later) (hdue : ∀ t, some t ∈ begun → later ≤ t.due)
    (h : Schedule cap later begun queue log) : Schedule cap now begun queue log

namespace Schedule

variable {cap now : Nat} {begun : List (Option (Turn α))} {queue : List (Dialogue α)}
  {log : List (Entry α)}

/-! ## Order and room -/

/-- The dialogues of the queue begin once each, in order. -/
theorem beginnings_eq (h : Schedule cap now begun queue log) :
    beginnings log = List.range' begun.length queue.length := by
  induction h with
  | finished _ => rfl
  | begins _ _ ih =>
    rw [List.length_append, List.length_singleton] at ih
    rw [beginnings_begins, ih, List.length_cons, List.range'_succ]
  | asks _ _ ih =>
    rw [beginnings_asks, ih]
    simp
  | ends _ ih =>
    rw [beginnings_ends, ih]
    simp
  | waits _ _ _ ih => exact ih

/-- The log is in the order of time. -/
theorem inTime (h : Schedule cap now begun queue log) :
    (∀ e ∈ log, now ≤ e.time) ∧ log.Pairwise fun e e' => e.time ≤ e'.time := by
  induction h with
  | finished _ => exact ⟨by simp, List.Pairwise.nil⟩
  | begins _ _ ih => exact ⟨by simpa using ih.1, List.Pairwise.cons ih.1 ih.2⟩
  | asks _ _ ih => exact ⟨by simpa using ih.1, List.Pairwise.cons ih.1 ih.2⟩
  | ends _ ih => exact ⟨by simpa using ih.1, List.Pairwise.cons ih.1 ih.2⟩
  | waits hlater _ _ ih => exact ⟨fun e he => Nat.le_trans hlater (ih.1 e he), ih.2⟩

/-- What has begun and has not ended is in hand, and there is room for it. -/
theorem inHand_le (h : Schedule cap now begun queue log) (hroom : inHand begun ≤ cap)
    {earlier : List (Entry α)} (hlog : earlier <+: log) :
    inHand begun + (beginnings earlier).length ≤ (endings earlier).length + cap := by
  -- where the log is cut, the room that is left has to do; before that, the next entry is counted
  induction h generalizing earlier with
  | finished _ =>
    rw [List.prefix_nil.1 hlog]
    simpa using hroom
  | begins hlt _ ih =>
    rcases List.prefix_cons_iff.1 hlog with rfl | ⟨rest, rfl, hrest⟩
    · simpa using hroom
    · have := ih (by simpa using Nat.succ_le_of_lt hlt) hrest
      simp only [inHand_append, inHand_cons_some, inHand_nil] at this
      rw [beginnings_begins, endings_begins, List.length_cons]
      omega
  | asks _ _ ih =>
    rcases List.prefix_cons_iff.1 hlog with rfl | ⟨rest, rfl, hrest⟩
    · simpa using hroom
    · simpa using ih (by simpa using hroom) hrest
  | ends _ ih =>
    rcases List.prefix_cons_iff.1 hlog with rfl | ⟨rest, rfl, hrest⟩
    · simpa using hroom
    · simp only [inHand_append, inHand_cons_some] at hroom ⊢
      have := ih (by simp only [inHand_append, inHand_cons_none]; omega) hrest
      simp only [inHand_append, inHand_cons_none] at this
      rw [beginnings_ends, endings_ends, List.length_cons]
      omega
  | waits _ _ _ ih => exact ih hroom hlog

/-- The places of the dialogues in hand, around one of them. -/
theorem findIdxs_middle (left right : List (Option (Turn α))) (t : Option (Turn α)) :
    (left ++ t :: right).findIdxs Option.isSome
      = left.findIdxs Option.isSome ++ (if t.isSome then [left.length] else []) ++
          right.findIdxs Option.isSome (left.length + 1) := by
  rw [List.findIdxs_append, List.findIdxs_cons, Nat.zero_add]
  split
  · simp
  · simp

/-- There is no place in hand when nothing is. -/
theorem findIdxs_of_inHand_eq_zero {begun : List (Option (Turn α))} (h : inHand begun = 0)
    (start : Nat) : begun.findIdxs Option.isSome start = [] :=
  List.eq_nil_of_length_eq_zero (by rw [List.length_findIdxs, ← inHand, h])

/-- Every dialogue ends once: those in hand and those of the queue. -/
theorem endings_perm (h : Schedule cap now begun queue log) :
    ((endings log).map Prod.fst).Perm
      (begun.findIdxs Option.isSome ++ List.range' begun.length queue.length) := by
  induction h with
  | finished hnone =>
    rw [findIdxs_of_inHand_eq_zero (inHand_eq_zero hnone)]
    exact List.Perm.nil
  | begins _ _ ih =>
    rw [findIdxs_middle] at ih
    rw [endings_begins, List.length_cons, List.range'_succ]
    simpa using ih
  | asks _ _ ih =>
    rw [findIdxs_middle] at ih ⊢
    simpa using ih
  | ends _ ih =>
    rw [findIdxs_middle] at ih ⊢
    rw [endings_ends, List.map_cons]
    refine (ih.cons _).trans ?_
    -- the place that ends now is the one in the middle
    simp only [Option.isSome_none, Option.isSome_some, Bool.false_eq_true, if_false, if_true,
      List.append_nil, List.append_assoc, List.length_append, List.length_cons]
    exact List.perm_middle.symm
  | waits _ _ _ ih => exact ih

/-- With room for one, the dialogue in hand ends first, and then those of the queue in order. -/
theorem endings_of_one (h : Schedule 1 now begun queue log) (hone : inHand begun ≤ 1) :
    (endings log).map Prod.fst
      = begun.findIdxs Option.isSome ++ List.range' begun.length queue.length := by
  induction h with
  | finished hnone =>
    rw [findIdxs_of_inHand_eq_zero (inHand_eq_zero hnone)]
    rfl
  | begins hroom _ ih =>
    rw [findIdxs_middle] at ih
    rw [endings_begins, List.length_cons, List.range'_succ, ih (by simp; omega)]
    simp
  | asks _ _ ih =>
    rw [findIdxs_middle] at ih ⊢
    rw [endings_asks, ih (by simpa using hone)]
    simp
  | @ends _ left right _ _ _ _ ih =>
    simp only [inHand_append, inHand_cons_some] at hone
    -- nothing else is in hand
    have hleft : left.findIdxs Option.isSome = [] := findIdxs_of_inHand_eq_zero (by omega) 0
    have hright : right.findIdxs Option.isSome (left.length + 1) = [] :=
      findIdxs_of_inHand_eq_zero (by omega) _
    rw [findIdxs_middle, hleft, hright] at ih ⊢
    rw [endings_ends, List.map_cons, ih (by simp; omega)]
    simp
  | waits _ _ _ ih => exact ih hone

/-! ## Each dialogue by itself -/

/-- What happens to a dialogue from some time on: it asks its questions up to its end, which comes
when its pauses are over. -/
def GoesOn (due : Nat) (d : Dialogue α) (i : Nat) (entries : List (Entry α)) : Prop :=
  ∃ asked xs a, entries = asked ++ [⟨due + duration xs, i, .ends a⟩] ∧
    asked.map Entry.move = xs.map .asks ∧ Held d xs a

/-- What happens to a dialogue from its beginning to its end. -/
def Whole (d : Dialogue α) (i : Nat) (entries : List (Entry α)) : Prop :=
  ∃ start rest, entries = ⟨start, i, .begins⟩ :: rest ∧ GoesOn start d i rest

/-- A dialogue that asks goes on later. -/
theorem GoesOn.asks {now i : Nat} {q : Query} {next : q.Answer → Dialogue α} {answer : q.Answer}
    {entries : List (Entry α)} (h : GoesOn (now + q.lasts) (next answer) i entries) :
    GoesOn now (.ask q next) i (⟨now, i, .asks ⟨q, answer⟩⟩ :: entries) := by
  obtain ⟨asked, xs, a, rfl, hasked, hheld⟩ := h
  refine ⟨⟨now, i, .asks ⟨q, answer⟩⟩ :: asked, ⟨q, answer⟩ :: xs, a, ?_, ?_,
    .ask q next answer hheld⟩
  · rw [duration_cons, List.cons_append, Nat.add_assoc]
  · rw [List.map_cons, List.map_cons, hasked]

/-- A dialogue that is done ends. -/
theorem GoesOn.ends (now i : Nat) (a : α) :
    GoesOn now (.done a) i [⟨now, i, .ends a⟩] :=
  ⟨[], [], a, rfl, rfl, .done a⟩

/-- What a log says of each dialogue. -/
structure Accounts (begun : List (Option (Turn α))) (queue : List (Dialogue α))
    (log : List (Entry α)) : Prop where
  /-- One in hand goes on to its end. -/
  goesOn : ∀ i t, begun[i]? = some (some t) → GoesOn t.due t.rest i (own i log)
  /-- Nothing more happens to one that is done. -/
  silent : ∀ i, begun[i]? = some none → own i log = []
  /-- One of the queue is held from its beginning to its end. -/
  whole : ∀ j d, queue[j]? = some d → Whole d (begun.length + j) (own (begun.length + j) log)
  /-- There are no other dialogues. -/
  places : ∀ e ∈ log, e.place < begun.length + queue.length

section Accounts

variable {left right : List (Option (Turn α))}

/-- A place other than that of a dialogue is not touched by what becomes of it. -/
theorem getElem?_middle_of_ne {i : Nat} (hi : i ≠ left.length) (t u : Option (Turn α)) :
    (left ++ t :: right)[i]? = (left ++ u :: right)[i]? := by
  rcases Nat.lt_or_gt_of_ne hi with hlt | hgt
  · rw [List.getElem?_append_left hlt, List.getElem?_append_left hlt]
  · obtain ⟨k, hk⟩ : ∃ k, i - left.length = k + 1 := ⟨i - left.length - 1, by omega⟩
    rw [List.getElem?_append_right (by omega), List.getElem?_append_right (by omega), hk,
      List.getElem?_cons_succ, List.getElem?_cons_succ]

/-- When all are done and none waits, an empty log accounts for them. -/
theorem accounts_finished (h : ∀ t ∈ begun, t = none) : Accounts begun [] [] where
  goesOn i t hi := absurd (h _ (List.mem_of_getElem? hi)) (by simp)
  silent _ _ := rfl
  whole j d hj := absurd hj (by simp)
  places e he := absurd he List.not_mem_nil

/-- A log that accounts for a dialogue that has just begun does so, with an entry for that, for one
that is to begin. -/
theorem Accounts.begins {d : Dialogue α}
    (h : Accounts (begun ++ [some ⟨now, d⟩]) queue log) :
    Accounts begun (d :: queue) (⟨now, begun.length, .begins⟩ :: log) := by
  have hearlier : ∀ {i t}, begun[i]? = some t → i < begun.length ∧
      (begun ++ [some ⟨now, d⟩])[i]? = some t := by
    intro i t hi
    have hlt : i < begun.length := (List.getElem?_eq_some_iff.1 hi).1
    exact ⟨hlt, by rw [List.getElem?_append_left hlt, hi]⟩
  constructor
  · intro i t hi
    obtain ⟨hlt, hi⟩ := hearlier hi
    rw [own_cons_of_ne (Nat.ne_of_gt hlt)]
    exact h.goesOn i t hi
  · intro i hi
    obtain ⟨hlt, hi⟩ := hearlier hi
    rw [own_cons_of_ne (Nat.ne_of_gt hlt)]
    exact h.silent i hi
  · intro j d' hj
    cases j with
    | zero =>
      -- the first of the queue is the last of those that have begun
      obtain rfl : d = d' := by simpa using hj
      rw [Nat.add_zero]
      exact ⟨now, own begun.length log, own_cons_self ⟨now, begun.length, .begins⟩ log,
        h.goesOn begun.length ⟨now, d⟩ (by simp)⟩
    | succ j =>
      have hwhole := h.whole j d' (by simpa using hj)
      rw [List.length_append, List.length_singleton, Nat.add_assoc, Nat.add_comm 1] at hwhole
      rw [own_cons_of_ne (by simp)]
      exact hwhole
  · intro e he
    rcases List.mem_cons.1 he with rfl | he
    · simp
    · have := h.places e he
      rw [List.length_append, List.length_singleton] at this
      rw [List.length_cons]
      omega

/-- What is said of one dialogue in hand, given what is said of it after its next step. -/
theorem Accounts.step {t t' : Option (Turn α)} {m : Move α}
    (h : Accounts (left ++ t' :: right) queue log)
    (hstep : ∀ u ∈ t, GoesOn u.due u.rest left.length
      (⟨now, left.length, m⟩ :: own left.length log)) (ht : t ≠ none) :
    Accounts (left ++ t :: right) queue (⟨now, left.length, m⟩ :: log) := by
  -- the step changes the state of one place, and the log at that place only
  have hlength : (left ++ t :: right).length = (left ++ t' :: right).length := by simp
  have hlater : ∀ j, left.length ≠ (left ++ t :: right).length + j := by
    intro j
    rw [List.length_append, List.length_cons]
    omega
  constructor
  · intro i u hi
    by_cases heq : i = left.length
    · obtain rfl := heq
      obtain rfl : t = some u := by simpa using hi
      rw [own_cons_self ⟨now, left.length, m⟩ log]
      exact hstep u rfl
    · -- nothing happens to the others in this step
      rw [getElem?_middle_of_ne heq t t'] at hi
      rw [own_cons_of_ne (Ne.symm heq)]
      exact h.goesOn i u hi
  · intro i hi
    have heq : i ≠ left.length := by
      rintro rfl
      exact ht (by simpa using hi)
    rw [getElem?_middle_of_ne heq t t'] at hi
    rw [own_cons_of_ne (Ne.symm heq)]
    exact h.silent i hi
  · intro j d hj
    rw [own_cons_of_ne (hlater j), hlength]
    exact h.whole j d hj
  · intro e he
    rcases List.mem_cons.1 he with rfl | he
    · change left.length < (left ++ t :: right).length + queue.length
      rw [List.length_append, List.length_cons]
      omega
    · rw [hlength]
      exact h.places e he

end Accounts

/-- Every dialogue is held from its beginning to its end, and once. -/
theorem accounts (h : Schedule cap now begun queue log) : Accounts begun queue log := by
  induction h with
  | finished hnone => exact accounts_finished hnone
  | begins _ _ ih => exact ih.begins
  | @asks now left right q next answer _ _ _ ih =>
    refine ih.step (fun u hu => ?_) (by simp)
    obtain rfl := Option.some.inj hu
    exact GoesOn.asks (ih.goesOn left.length ⟨now + q.lasts, next answer⟩ (by simp))
  | @ends now left right a _ _ _ ih =>
    refine ih.step (fun u hu => ?_) (by simp)
    obtain rfl := Option.some.inj hu
    rw [ih.silent left.length (by simp)]
    exact GoesOn.ends now left.length a
  | waits _ _ _ ih => exact ih

/-- Whatever happens to a dialogue is part of holding it. -/
theorem held_of_mem (h : Schedule cap now [] queue log) {e : Entry α} (he : e ∈ log) :
    ∃ d xs a, queue[e.place]? = some d ∧ Held d xs a ∧
      (e.move = .begins ∨ (∃ x ∈ xs, e.move = .asks x) ∨ e.move = .ends a) := by
  have hplace : e.place < queue.length := by simpa using h.accounts.places e he
  have hqueue : queue[e.place]? = some queue[e.place] := List.getElem?_eq_getElem hplace
  have hwhole := h.accounts.whole e.place _ hqueue
  rw [List.length_nil, Nat.zero_add] at hwhole
  obtain ⟨start, rest, hown, asked, xs, a, rfl, hasked, hheld⟩ := hwhole
  refine ⟨queue[e.place], xs, a, hqueue, hheld, ?_⟩
  have hmem : e ∈ own e.place log := List.mem_filter.2 ⟨he, by simp⟩
  rw [hown] at hmem
  -- it is the first thing that happens to the dialogue, the last one, or one between them
  rcases List.mem_cons.1 hmem with hbegins | hmem
  · exact .inl (by rw [hbegins])
  rcases List.mem_append.1 hmem with hmem | hends
  · have hmove : e.move ∈ xs.map .asks := hasked ▸ List.mem_map_of_mem hmem
    obtain ⟨x, hx, hmove⟩ := List.mem_map.1 hmove
    exact .inr (.inl ⟨x, hx, hmove.symm⟩)
  · exact .inr (.inr (by rw [List.mem_singleton.1 hends]))

end Schedule

end Dialogue

end CitedReport
