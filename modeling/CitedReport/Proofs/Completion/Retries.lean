import Mathlib.Algebra.BigOperators.Intervals
import CitedReport.Completion
import CitedReport.Proofs.Dialogue.Held
import CitedReport.Proofs.Message.Usage

/-!
# Asking the model again

A request whose reply is a failure that may pass is sent again after a pause, as long as there are
tries left. So of all the replies that a model would give one counts (`decisive`): `run_think` says
that asking comes to just this reply, and what it takes to get there - how often the request is
sent, how long is waited, and what is charged.

The replies are given in advance here, one for each attempt, and the model keeps an account of what
it is asked (`Provider`). That the attempts always end with a reply, and never run out, is a
property of their loop: `loop_eq_attempt` has them as a loop with something after it, and it makes
no difference what that is.
-/

namespace CitedReport.Retries

open Dialogue ModelSettings

/-- The reply is a failure that may pass: the service asks to wait, took too long or could not be
reached. -/
def isPassing : Except ModelError Completion → Bool
  | .error (.rateLimited _) => true
  | .error (.timeout _) => true
  | .error (.connection _) => true
  | _ => false

/-- How many seconds a reply asks to wait. -/
def retryAfter : Except ModelError Completion → Nat
  | .error (.rateLimited secs) => secs
  | _ => 0

/-- The seconds of the pause after the reply to an attempt, counted from zero. They double with each
attempt up to 32, and begin anew after 64 attempts. -/
def waitSecs (i : Nat) (reply : Except ModelError Completion) : Nat :=
  max (min (2 ^ (i % 64)) 32) (retryAfter reply)

/-- The attempt whose reply counts: the first one with a reply that is not passing, or the last one
that there are tries for. -/
def decisive (replies : Nat → Except ModelError Completion) (tries : Nat) : Nat :=
  ((List.range (tries + 1)).find? fun i => !isPassing (replies i)).getD tries

/-- The services that asking a model takes: its replies are given in advance, and it is noted what
was asked, how long it was waited and what was charged. -/
structure Provider where
  /-- The replies that are still to come. -/
  replies : Nat → Except ModelError Completion
  /-- The requests that have come, in order. -/
  requests : List CompletionRequest
  /-- The milliseconds that have been waited. -/
  waitedMs : Nat
  /-- What is on the bill. -/
  bill : TokenUsage

namespace Provider

variable {σ : Type}

/-- The provider answers what it is asked, and all else is left to others. -/
def services (others : Services σ) : Services (Provider × σ) where
  answer q state :=
    match q, state with
    | .complete request, (p, s) =>
      (p.replies 0,
        { p with replies := fun i => p.replies (i + 1), requests := p.requests ++ [request] }, s)
    | .charge usage, (p, s) => ((), { p with bill := p.bill + usage }, s)
    | .pause ms, (p, s) => ((), { p with waitedMs := p.waitedMs + ms }, s)
    | q, (p, s) =>
      let r := others.answer q s
      (r.1, p, r.2)

/-- The provider after a request that it was sent up to the attempt `k`, when the first attempt at
it was number `i` of all. -/
def served (p : Provider) (request : CompletionRequest) (i k : Nat) : Provider where
  replies j := p.replies (j + (k + 1))
  requests := p.requests ++ List.replicate (k + 1) request
  waitedMs := p.waitedMs + 1000 * ∑ j ∈ Finset.range k, waitSecs (i + j) (p.replies j)
  bill :=
    match p.replies k with
    | .ok c => p.bill + c.usage
    | .error _ => p.bill

/-- The provider after an attempt that came to nothing and the pause after it. -/
def putOff (p : Provider) (request : CompletionRequest) (ms : Nat) : Provider where
  replies j := p.replies (j + 1)
  requests := p.requests ++ [request]
  waitedMs := p.waitedMs + ms
  bill := p.bill

/-- What follows after a pause is counted from the attempt before it. -/
theorem served_putOff (p : Provider) (request : CompletionRequest) (i k : Nat) :
    (p.putOff request (1000 * waitSecs i (p.replies 0))).served request (i + 1) k
      = p.served request i (k + 1) := by
  have hwaited : p.waitedMs + 1000 * waitSecs i (p.replies 0)
        + 1000 * ∑ j ∈ Finset.range k, waitSecs (i + 1 + j) (p.replies (j + 1))
      = p.waitedMs + 1000 * ∑ j ∈ Finset.range (k + 1), waitSecs (i + j) (p.replies j) := by
    rw [Finset.sum_range_succ', Nat.add_assoc, ← Nat.mul_add, Nat.add_comm (waitSecs _ _)]
    simp only [Nat.add_zero, Nat.add_assoc, Nat.add_comm 1]
  have hrequests : p.requests ++ [request] ++ List.replicate (k + 1) request
      = p.requests ++ List.replicate (k + 1 + 1) request := by
    rw [List.append_assoc, List.singleton_append, ← List.replicate_succ]
  simp only [served, putOff, mk.injEq, hrequests, hwaited, true_and]
  exact ⟨rfl, trivial⟩

end Provider

/-! ## The decisive attempt -/

/-- When there is one attempt its reply counts. -/
theorem decisive_zero (replies : Nat → Except ModelError Completion) : decisive replies 0 = 0 := by
  unfold decisive
  rw [Nat.zero_add, List.range_one, List.find?_singleton]
  split <;> rfl

/-- After a failure that may pass the decision is among the later replies. -/
theorem decisive_succ (replies : Nat → Except ModelError Completion) (tries : Nat) :
    decisive replies (tries + 1)
      = if isPassing (replies 0) then decisive (fun i => replies (i + 1)) tries + 1 else 0 := by
  have hsucc : ∀ found : Option Nat,
      (found.map Nat.succ).getD (tries + 1) = found.getD tries + 1 := by
    intro found
    cases found <;> rfl
  unfold decisive
  rw [List.range_succ_eq_map, List.find?_cons]
  cases hfirst : isPassing (replies 0) with
  | true =>
    simp only [Bool.not_true, if_true, List.find?_map]
    exact hsucc _
  | false => rfl

/-- The decision is within the tries. -/
theorem decisive_le (replies : Nat → Except ModelError Completion) (tries : Nat) :
    decisive replies tries ≤ tries := by
  induction tries generalizing replies with
  | zero => exact Nat.le_of_eq (decisive_zero replies)
  | succ tries ih =>
    rw [decisive_succ]
    split
    · exact Nat.succ_le_succ (ih _)
    · exact Nat.zero_le _

/-- The failures that may pass are those after which another attempt is made. -/
theorem isPassing_error (e : ModelError) : isPassing (.error e) = e.isTransient := by
  cases e <;> rfl

/-- A one that is shifted in a word is a power of two, by the amount modulo the bits of a word. -/
theorem toNat_one_shiftLeft (i : Nat) : ((1 : UInt64) <<< (i : UInt64)).toNat = 2 ^ (i % 64) := by
  have hamount : (UInt64.ofNat i).toNat % 64 = i % 64 := by
    rw [UInt64.toNat_ofNat']
    exact Nat.mod_mod_of_dvd i (by decide)
  have hfits : 2 ^ (i % 64) < 2 ^ 64 :=
    Nat.pow_lt_pow_right Nat.one_lt_two (Nat.mod_lt i (by decide))
  rw [UInt64.toNat_shiftLeft, hamount, UInt64.toNat_one, Nat.one_shiftLeft, Nat.mod_eq_of_lt hfits]

/-- The pause is that of the rule for pauses. -/
theorem waitSecs_error (i : Nat) (e : ModelError) : waitSecs i (.error e) = backoffSecs i e := by
  unfold waitSecs backoffSecs
  rw [toNat_one_shiftLeft]
  cases e with
  | rateLimited secs => exact Nat.max_comm _ _
  | _ => exact Nat.max_zero _

/-- In the first 64 attempts the doubling does not begin anew. -/
theorem waitSecs_of_lt {i : Nat} (h : i < 64) (reply : Except ModelError Completion) :
    waitSecs i reply = max (min (2 ^ i) 32) (retryAfter reply) := by
  rw [waitSecs, Nat.mod_eq_of_lt h]

/-! ## A request is tried -/

section

variable {σ : Type} (others : Services σ)

/-- A pause is waited for. -/
theorem run_pause (ms : Nat) (p : Provider) (s : σ) :
    (pause ms).run (Provider.services others) (p, s)
      = ((), { p with waitedMs := p.waitedMs + ms }, s) := by
  unfold pause
  split
  · next hzero =>
    subst hzero
    rfl
  · rfl

/-- A request is noted, and the next reply is the answer. -/
theorem run_complete (request : CompletionRequest) (p : Provider) (s : σ) :
    (complete request).run (Provider.services others) (p, s)
      = (p.replies 0, p.putOff request 0, s) :=
  rfl

variable (request : CompletionRequest) (i : Nat) {tries : Nat} {p : Provider} (s : σ)

/-- A completion ends the attempts, and is charged. -/
theorem run_attempt_of_ok {c : Completion} (h : p.replies 0 = .ok c) :
    (attempt request i tries).run (Provider.services others) (p, s)
      = (.ok c, p.served request i 0, s) := by
  have hserved : p.served request i 0 = { p.putOff request 0 with bill := p.bill + c.usage } := by
    simp only [Provider.served, h]
    rfl
  unfold attempt
  rw [run_bind, run_complete, h, hserved]
  rfl

/-- A failure ends them when it does not pass or no try is left. -/
theorem run_attempt_of_error {e : ModelError} (h : p.replies 0 = .error e)
    (hlast : tries = 0 ∨ e.isTransient = false) :
    (attempt request i tries).run (Provider.services others) (p, s)
      = (.error e, p.served request i 0, s) := by
  have hserved : p.served request i 0 = p.putOff request 0 := by
    simp only [Provider.served, h]
    rfl
  unfold attempt
  rw [run_bind, run_complete, h, hserved]
  cases tries with
  | zero => rfl
  | succ tries =>
    have he : e.isTransient = false := hlast.resolve_left (Nat.succ_ne_zero tries)
    simp only [he]
    rfl

/-- Otherwise the next attempt is made after a pause. -/
theorem run_attempt_of_passing {e : ModelError} (h : p.replies 0 = .error e)
    (he : e.isTransient = true) :
    (attempt request i (tries + 1)).run (Provider.services others) (p, s)
      = (attempt request (i + 1) tries).run (Provider.services others)
          (p.putOff request (1000 * backoffSecs i e), s) := by
  conv_lhs => unfold attempt
  rw [run_bind, run_complete, h]
  simp only [he, if_true]
  rw [run_bind, run_pause]
  simp only [Provider.putOff, Nat.add_zero]

/-- All attempts at a request come to the decisive reply. -/
theorem run_attempt (tries : Nat) (p : Provider) :
    (attempt request i tries).run (Provider.services others) (p, s)
      = (p.replies (decisive p.replies tries),
          p.served request i (decisive p.replies tries), s) := by
  induction tries generalizing i p with
  | zero =>
    rw [decisive_zero]
    cases hreply : p.replies 0 with
    | ok c => exact run_attempt_of_ok others request i s hreply
    | error e => exact run_attempt_of_error others request i s hreply (.inl rfl)
  | succ tries ih =>
    rw [decisive_succ]
    cases hreply : p.replies 0 with
    | ok c =>
      simp only [isPassing, Bool.false_eq_true, if_false, hreply]
      exact run_attempt_of_ok others request i s hreply
    | error e =>
      rw [isPassing_error]
      cases he : e.isTransient with
      | true =>
        -- after a pause the later replies decide
        rw [if_pos rfl, run_attempt_of_passing others request i s hreply he, ih,
          ← waitSecs_error, ← hreply, Provider.served_putOff]
        rfl
      | false =>
        simp only [Bool.false_eq_true, if_false, hreply]
        exact run_attempt_of_error others request i s hreply (.inr he)

end

/-! ## The loop of attempts -/

/-- The attempts as a loop over their numbers, with what comes after the loop. -/
def loop (request : CompletionRequest) (maxRetries : Nat)
    (afterwards : Option ModelError → Dialogue (Except ModelError Completion)) :
    List Nat → Option ModelError → Dialogue (Except ModelError Completion)
  | [], lastError => afterwards lastError
  | i :: rest, _ => do
    match ← complete request with
    | .ok c =>
      charge c.usage
      return .ok c
    | .error e =>
      if e.isTransient ∧ i < maxRetries then
        pause (1000 * backoffSecs i e)
        loop request maxRetries afterwards rest (some e)
      else return .error e

/-- What comes after the loop is never reached: the attempts are the same whatever it is. -/
theorem loop_eq_attempt (request : CompletionRequest)
    (afterwards : Option ModelError → Dialogue (Except ModelError Completion)) (i tries : Nat)
    (lastError : Option ModelError) :
    loop request (i + tries) afterwards (List.range' i (tries + 1)) lastError
      = attempt request i tries := by
  induction tries generalizing i lastError with
  | zero =>
    unfold attempt
    rw [List.range'_succ, loop]
    refine congrArg _ (funext fun reply => ?_)
    cases reply with
    | ok c => rfl
    | error e => simp
  | succ tries ih =>
    unfold attempt
    rw [List.range'_succ, loop]
    refine congrArg _ (funext fun reply => ?_)
    cases reply with
    | ok c => rfl
    | error e =>
      simp only [Nat.lt_add_right_iff_pos, Nat.zero_lt_succ, and_true]
      have hlater := ih (i + 1) (some e)
      rw [Nat.add_right_comm, Nat.add_assoc] at hlater
      rw [hlater]

/-- The bill is added to in a word, and so shows the number of tokens as long as a word can. -/
theorem Provider.totals_bill_served {p : Provider} {k : Nat} {c : Completion}
    (h : p.replies k = .ok c) (request : CompletionRequest) (i : Nat) :
    (p.served request i k).bill.Totals [p.bill, c.usage] := by
  have hbill : (p.served request i k).bill = [p.bill, c.usage].sum := by
    simp only [served, h, List.sum_cons, List.sum_nil, add_zero]
  rw [hbill]
  exact TokenUsage.totals_sum _

/-- A conversation that is too long is not put to the model. Any other is put to it in one request,
which is sent again up to the decisive reply: this is what comes of it, after one pause for each
reply before, and its completion is all that is charged, token by token as long as words can count
them. With at most 64 retries the pauses double up to 32 seconds, unless the reply asks for a longer
one. What comes after the loop of attempts is never reached. -/
theorem run_think {σ : Type} (others : Services σ) (s : ModelSettings) (messages : List Message)
    (offered : Option (List ToolDefinition)) (p : Provider) (state : σ) :
    let request := s.request messages offered
    let used := estimateTokens messages
    let k := decisive p.replies s.maxRetries
    (s.think messages offered).run (Provider.services others) (p, state)
      = (if s.contextWindow < used then (.error (.contextOverflow used s.contextWindow), p, state)
        else (p.replies k, p.served request 0 k, state)) ∧
    (∀ c, p.replies k = .ok c → (p.served request 0 k).bill.Totals [p.bill, c.usage]) ∧
    (s.maxRetries ≤ 64 → ∀ i < k, waitSecs i (p.replies i)
      = max (min (2 ^ i) 32) (retryAfter (p.replies i))) ∧
    ∀ afterwards, s.think messages offered
      = if s.contextWindow < used then return .error (.contextOverflow used s.contextWindow)
        else loop request s.maxRetries afterwards (List.range (s.maxRetries + 1)) none := by
  intro request used k
  refine ⟨?_, fun c hc => Provider.totals_bill_served hc request 0, fun hretries i hi => ?_, ?_⟩
  · unfold think
    simp only
    split
    · rfl
    · exact run_attempt others request 0 state s.maxRetries p
  · have hk : k ≤ 64 := (decisive_le p.replies s.maxRetries).trans hretries
    exact waitSecs_of_lt (Nat.lt_of_lt_of_le hi hk) _
  · -- the loop over the attempts never gets to what stands behind it
    intro afterwards
    have hloop := loop_eq_attempt request afterwards 0 s.maxRetries none
    rw [Nat.zero_add, ← List.range_eq_range'] at hloop
    rw [hloop]
    rfl

end CitedReport.Retries
