import Mathlib
import TransactSql.Worker.Channel

/-!
# Replies find their requests

Two tasks share the table of requests that wait. The caller's task puts a request into the table,
writes it and waits; the reader's task takes requests out of the table when it hears their replies,
and all of them when the worker's output ends or cannot be read on. An `Exchange` is the state of
both, and between any two acts of the caller the reader may have heard any number of lines.

The library makes a request in one go (`Channel.request`). `Underway` compares every moment of an
exchange with the part of such a request that is done by then, and `Underway.finish` says that an
exchange returns what the request in one go returns on the lines that were heard in time.

`replies_routed_by_id` says what that is. Nothing but the first reply with the number of the
request counts, or the end of the reading if that comes first; a reply to another request, a second
reply and a text that is no reply have no influence. Whatever a request returns, no entry of the
table is left. Requests are made one after the other, so their numbers need not even differ.

A line that is no text has an influence: it ends the reading (`unreadable_line_ends_reading`). A
worker that prints one may well reply after it, but is taken for one that has exited.
-/

namespace TransactSql

/-! ## What an event says to a request -/

/-- What a reply says to a request whose result is read in a certain way. -/
def Reply.answer {α : Type} (read : Json → Option α) (r : Reply) : Except WorkerError α :=
  if r.success then
    match read (r.result.getD .null) with
    | some a => .ok a
    | none => .error .unreadable
  else
    match r.failure with
    | some failure => .error (.ofCode failure.code failure.message)
    | none => .error (.ofCode "UNKNOWN" "Unknown error")

theorem Reply.readAs_outcome {α : Type} (read : Json → Option α) (r : Reply) :
    WorkerError.readAs read r.outcome = r.answer read := by
  unfold outcome answer
  cases r.success with
  | true => rfl
  | false => cases r.failure <;> rfl

namespace Channel

/-- What an event says to a request: a reply with its number, or that the worker is gone. All other
lines of text say nothing to it. -/
def Event.answer? {α : Type} (read : Json → Option α) (id : String) :
    Event → Option (Except WorkerError α)
  | .unreadable | .closed => some (.error .exited)
  | .line text =>
    match Reply.parse? text with
    | some reply => if reply.id = id then some (reply.answer read) else none
    | none => none

/-- The reply that an event brings to a request that waits. -/
def Event.replyTo? (id : String) : Event → Option Reply
  | .unreadable | .closed => some (.ofExit id)
  | .line text => (Reply.parse? text).filter (·.id == id)

theorem Event.answer?_eq_map {α : Type} (read : Json → Option α) (id : String) (event : Event) :
    event.answer? read id =
      (event.replyTo? id).map fun reply => WorkerError.readAs read reply.outcome := by
  cases event with
  | unreadable => rfl
  | closed => rfl
  | line text =>
    cases hparse : Reply.parse? text with
    | none => simp only [answer?, replyTo?, hparse, Option.filter_none, Option.map_none]
    | some reply =>
      by_cases h : reply.id = id
      · simp [answer?, replyTo?, hparse, h, Option.filter, Reply.readAs_outcome]
      · simp [answer?, replyTo?, hparse, h, Option.filter]

/-! ## Hearing -/

/-- All that an event can do: nothing, hand a reply to the request with its number, or tell all
requests that the worker is gone. -/
theorem hear_cases (c : Channel) (event : Event) :
    (c.hear event = ([], c) ∧ (c.isOpen → ∀ id ∈ c.pending, event.replyTo? id = none)) ∨
    (∃ reply, c.isOpen ∧ reply.id ∈ c.pending ∧
      c.hear event = ([reply], c.forget reply.id) ∧
      ∀ id, event.replyTo? id = if reply.id = id then some reply else none) ∨
    (c.isOpen ∧ (∀ id, event.replyTo? id = some (.ofExit id)) ∧
      c.hear event = (c.pending.map Reply.ofExit, ⟨[], false⟩)) := by
  by_cases hopen : c.isOpen
  swap
  · exact .inl ⟨by simp [hear, hopen], fun h => absurd h hopen⟩
  cases event with
  | unreadable => exact .inr (.inr ⟨hopen, fun _ => rfl, by simp [hear, hopen]⟩)
  | closed => exact .inr (.inr ⟨hopen, fun _ => rfl, by simp [hear, hopen]⟩)
  | line text =>
    cases hparse : Reply.parse? text with
    | none =>
      exact .inl ⟨by simp [hear, hopen, hparse], fun _ id _ => by simp [Event.replyTo?, hparse]⟩
    | some reply =>
      have hreply : ∀ id, Event.replyTo? id (.line text) =
          if reply.id = id then some reply else none := by
        intro id
        simp [Event.replyTo?, hparse, Option.filter]
      by_cases hmem : reply.id ∈ c.pending
      · exact .inr (.inl ⟨reply, hopen, hmem, by simp [hear, hopen, hparse, hmem], hreply⟩)
      · refine .inl ⟨by simp [hear, hopen, hparse, hmem], ?_⟩
        intro _ id hid
        rw [hreply, if_neg]
        rintro rfl
        exact hmem hid

variable {c : Channel} {id : String}

@[simp]
theorem mem_pending_forget {i : String} : i ∈ (c.forget id).pending ↔ i ∈ c.pending ∧ i ≠ id := by
  simp [forget]

@[simp]
theorem mem_pending_register {i : String} :
    i ∈ (c.register id).pending ↔ i = id ∨ i ∈ c.pending := by
  by_cases h : i = id <;> simp [register, h]

theorem find?_map_ofExit (hid : id ∈ c.pending) :
    (c.pending.map Reply.ofExit).find? (·.id == id) = some (.ofExit id) := by
  rw [List.find?_map]
  cases hfind : c.pending.find? ((·.id == id) ∘ Reply.ofExit) with
  | none =>
    have hne := List.find?_eq_none.1 hfind id hid
    simp [Reply.ofExit] at hne
  | some i =>
    have heq : i = id := by simpa [Reply.ofExit] using List.find?_some hfind
    rw [heq]
    rfl

/-- A reply goes to the request with its number, as long as that waits. -/
theorem find?_hear (hopen : c.isOpen) (hid : id ∈ c.pending) (event : Event) :
    (c.hear event).1.find? (·.id == id) = event.replyTo? id := by
  rcases hear_cases c event with ⟨h, hnone⟩ | ⟨reply, -, -, h, hreply⟩ | ⟨-, hreply, h⟩
  · rw [h, hnone hopen id hid]
    rfl
  · rw [h, hreply]
    by_cases hr : reply.id = id <;> simp [hr]
  · rw [h, hreply]
    exact find?_map_ofExit hid

theorem mem_pending_of_mem_hear {event : Event} (hid : id ∈ (c.hear event).2.pending) :
    id ∈ c.pending := by
  rcases hear_cases c event with ⟨h, -⟩ | ⟨reply, -, -, h, -⟩ | ⟨-, -, h⟩
  · rwa [h] at hid
  · rw [h, mem_pending_forget] at hid
    exact hid.1
  · rw [h] at hid
    exact absurd hid List.not_mem_nil

/-- A request that still waits after an event got nothing from it. -/
theorem find?_hear_of_mem {event : Event} (hid : id ∈ (c.hear event).2.pending) :
    (c.hear event).1.find? (·.id == id) = none := by
  rcases hear_cases c event with ⟨h, -⟩ | ⟨reply, -, -, h, -⟩ | ⟨-, -, h⟩
  · rw [h]
    rfl
  · rw [h, mem_pending_forget] at hid
    have hne : reply.id ≠ id := fun heq => hid.2 heq.symm
    simp [h, hne]
  · rw [h] at hid
    exact absurd hid List.not_mem_nil

/-- A request that gets nothing from an event waits on. -/
theorem waits_hear (hopen : c.isOpen) (hid : id ∈ c.pending) {event : Event}
    (hnone : event.replyTo? id = none) :
    (c.hear event).2.isOpen ∧ id ∈ (c.hear event).2.pending := by
  rcases hear_cases c event with ⟨h, -⟩ | ⟨reply, -, -, h, hreply⟩ | ⟨-, hreply, -⟩
  · rw [h]
    exact ⟨hopen, hid⟩
  · rw [hreply] at hnone
    have hne : reply.id ≠ id := by
      intro heq
      simp [heq] at hnone
    rw [h, mem_pending_forget]
    exact ⟨hopen, hid, hne.symm⟩
  · rw [hreply] at hnone
    cases hnone

theorem isOpen_of_isOpen_hear {event : Event} (h : (c.hear event).2.isOpen) : c.isOpen := by
  rcases hear_cases c event with ⟨hhear, -⟩ | ⟨-, hopen, -⟩ | ⟨hopen, -⟩
  · rwa [hhear] at h
  · exact hopen
  · exact hopen

/-- It is the same to stop waiting before an event or after it. -/
theorem hear_forget (c : Channel) (id : String) (event : Event) :
    ((c.forget id).hear event).2 = (c.hear event).2.forget id := by
  by_cases hopen : c.isOpen
  swap
  · simp [hear, forget, hopen]
  cases event with
  | unreadable => simp [hear, forget, hopen]
  | closed => simp [hear, forget, hopen]
  | line text =>
    cases hparse : Reply.parse? text with
    | none => simp [hear, forget, hopen, hparse]
    | some reply =>
      by_cases hmem : reply.id ∈ c.pending
      · by_cases hid : reply.id = id
        · subst hid
          simp [hear, forget, hopen, hparse, hmem]
        · have hcomm : ∀ i : String, (i != id && i != reply.id) = (i != reply.id && i != id) :=
            fun i => Bool.and_comm _ _
          simp [hear, forget, hopen, hparse, hmem, hid, hcomm]
      · simp [hear, forget, hopen, hparse, hmem]

/-! ## Hearing many events -/

theorem hearAll_append (c : Channel) (events later : List Event) :
    c.hearAll (events ++ later) = (c.hearAll events).hearAll later :=
  List.foldl_append

theorem hearAll_forget (c : Channel) (id : String) (events : List Event) :
    (c.forget id).hearAll events = (c.hearAll events).forget id := by
  induction events generalizing c with
  | nil => rfl
  | cons event rest ih =>
    show ((c.forget id).hear event).2.hearAll rest = ((c.hear event).2.hearAll rest).forget id
    rw [hear_forget, ih]

theorem isOpen_of_isOpen_hearAll {events : List Event} (h : (c.hearAll events).isOpen) :
    c.isOpen := by
  induction events generalizing c with
  | nil => exact h
  | cons event rest ih => exact isOpen_of_isOpen_hear (ih h)

theorem await_cons (c : Channel) (id : String) (event : Event) (rest : List Event) :
    c.await id (event :: rest) =
      match (c.hear event).1.find? (·.id == id) with
      | some reply => (some reply, (c.hear event).2.hearAll rest)
      | none => (c.hear event).2.await id rest :=
  rfl

theorem await_snd (c : Channel) (id : String) (events : List Event) :
    (c.await id events).2 = c.hearAll events := by
  induction events generalizing c with
  | nil => rfl
  | cons event rest ih =>
    rw [await_cons]
    split
    · rfl
    · exact ih _

/-- A request that waits gets the first reply to it. -/
theorem await_fst (hopen : c.isOpen) (hid : id ∈ c.pending) (events : List Event) :
    (c.await id events).1 = events.findSome? (·.replyTo? id) := by
  induction events generalizing c with
  | nil => rfl
  | cons event rest ih =>
    rw [await_cons, find?_hear hopen hid, List.findSome?_cons]
    cases hreply : event.replyTo? id with
    | some reply => rfl
    | none =>
      obtain ⟨hopen', hid'⟩ := waits_hear hopen hid hreply
      exact ih hopen' hid'

/-- The first reply among some events and one more. -/
theorem await_append_singleton (c : Channel) (id : String) (events : List Event) (event : Event) :
    (c.await id (events ++ [event])).1 =
      (c.await id events).1.or (((c.hearAll events).hear event).1.find? (·.id == id)) := by
  induction events generalizing c with
  | nil =>
    rw [List.nil_append, await_cons]
    show _ = (c.hear event).1.find? (·.id == id)
    cases (c.hear event).1.find? (·.id == id) <;> rfl
  | cons first rest ih =>
    rw [List.cons_append, await_cons, await_cons]
    show _ = Option.or _ ((((c.hear first).2.hearAll rest).hear event).1.find? (·.id == id))
    cases (c.hear first).1.find? (·.id == id) with
    | some reply => rfl
    | none => exact ih _

variable {events : List Event} {seconds : UInt64}

theorem request_of_refused :
    c.request id false events seconds =
      (.error .writeFailed, ((c.register id).hearAll events).forget id) :=
  rfl

theorem request_of_reply {reply : Reply} (h : ((c.register id).await id events).1 = some reply) :
    c.request id true events seconds = (reply.outcome, (c.register id).hearAll events) := by
  have hawait : (c.register id).await id events = (some reply, (c.register id).hearAll events) :=
    Prod.ext h (await_snd _ _ _)
  simp [request, hawait]

theorem request_of_no_reply (h : ((c.register id).await id events).1 = none) :
    c.request id true events seconds =
      (.error (.timeout seconds), ((c.register id).hearAll events).forget id) := by
  have hawait : (c.register id).await id events = (none, (c.register id).hearAll events) :=
    Prod.ext h (await_snd _ _ _)
  simp [request, hawait]

/-- The first reply to a request that is made, if the channel is open or nothing is heard. -/
theorem await_register (hopen : events ≠ [] → c.isOpen) :
    ((c.register id).await id events).1 = events.findSome? (·.replyTo? id) := by
  cases events with
  | nil => rfl
  | cons event rest =>
    have hid : id ∈ (c.register id).pending := by simp
    exact await_fst (c := c.register id) (hopen (List.cons_ne_nil _ _)) hid _

theorem findSome?_answer? {α : Type} (read : Json → Option α) (id : String) (events : List Event) :
    events.findSome? (·.answer? read id) =
      (events.findSome? (·.replyTo? id)).map
        fun reply => WorkerError.readAs read reply.outcome := by
  rw [List.map_findSome?]
  congr 1
  funext event
  exact event.answer?_eq_map read id

/-- A written request returns what the first event that says something to it says, and that its
time is over if none does. -/
theorem readAs_request_written {α : Type} (read : Json → Option α)
    (hopen : events ≠ [] → c.isOpen) :
    WorkerError.readAs read (c.request id true events seconds).1 =
      (events.findSome? (·.answer? read id)).getD (.error (.timeout seconds)) := by
  rw [findSome?_answer?, ← await_register hopen]
  cases h : ((c.register id).await id events).1 with
  | some reply =>
    rw [request_of_reply h]
    rfl
  | none =>
    rw [request_of_no_reply h]
    rfl

end Channel

/-! ## The two tasks -/

/-- How far a request has come. -/
inductive Stage where
  /-- It waits for a reply, and is still to be written. -/
  | registered
  /-- It could not be written, and still has its entry. -/
  | refused
  /-- It is written. -/
  | written
  /-- Its time was over before it had a reply, and it still has its entry. -/
  | late
deriving DecidableEq, Repr

/-- A request and the task that makes it. -/
structure Caller where
  id : String
  /-- How long it waits. -/
  seconds : UInt64
  stage : Stage := .registered
  /-- The reply that was handed to it. -/
  mail : Option Reply := none

namespace Caller

/-- Takes its reply from those that are handed out. -/
def take (caller : Caller) (replies : List Reply) : Caller :=
  { caller with mail := caller.mail.or (replies.find? (·.id == caller.id)) }

/-- Writes the request. -/
def write (caller : Caller) (succeeded : Bool) : Option Caller :=
  if caller.stage = .registered then
    some { caller with stage := if succeeded then .written else .refused }
  else none

/-- Gives up waiting, which a request with a reply does not do. -/
def expire (caller : Caller) : Option Caller :=
  if caller.stage = .written ∧ caller.mail.isNone then some { caller with stage := .late }
  else none

/-- What the request returns, once it does. -/
def outcome? (caller : Caller) : Option (Except WorkerError Json) :=
  match caller.stage with
  | .registered => none
  | .refused => some (.error .writeFailed)
  | .written => caller.mail.map Reply.outcome
  | .late => some (.error (.timeout caller.seconds))

/-- The table once the request has returned. Only a request that has its reply is sure to have no
entry any more. -/
def leave (caller : Caller) (channel : Channel) : Channel :=
  match caller.stage with
  | .written => channel
  | _ => channel.forget caller.id

end Caller

/-- The table that both tasks share, the request that is being made, and what the requests before
it returned. -/
structure Exchange where
  channel : Channel := {}
  caller : Option Caller := none
  returned : List (String × Except WorkerError Json) := []

/-- What one of the tasks does next: the reader hears an event, or the caller starts a request,
writes it, gives up waiting or returns. -/
inductive Exchange.Act where
  | hear (event : Channel.Event)
  | start (id : String) (seconds : UInt64)
  | write (succeeded : Bool)
  | expire
  | finish
deriving DecidableEq, Repr

namespace Exchange

/-- The state after an act, if the task can do it. The reader is gone once the worker's output has
ended, and the next request is started when the one before has returned. -/
def step (x : Exchange) : Act → Option Exchange
  | .hear event =>
    if x.channel.isOpen then
      let (replies, channel) := x.channel.hear event
      some { x with channel, caller := x.caller.map (·.take replies) }
    else none
  | .start id seconds =>
    if x.caller.isNone then
      some { x with channel := x.channel.register id, caller := some { id, seconds } }
    else none
  | .write succeeded => do
    let caller ← x.caller
    let caller ← caller.write succeeded
    return { x with caller := some caller }
  | .expire => do
    let caller ← x.caller
    let caller ← caller.expire
    return { x with caller := some caller }
  | .finish => do
    let caller ← x.caller
    let outcome ← caller.outcome?
    return ⟨caller.leave x.channel, none, x.returned ++ [(caller.id, outcome)]⟩

/-- The state after a list of acts. -/
def run (x : Exchange) (acts : List Act) : Option Exchange :=
  acts.foldlM step x

/-- What the reader hears by an act. -/
def Act.event? : Act → Option Channel.Event
  | .hear event => some event
  | _ => none

/-- The events that the reader hears. -/
def heard (acts : List Act) : List Channel.Event :=
  acts.filterMap Act.event?

/-- The acts until a request gives up waiting. -/
def inTime (acts : List Act) : List Act :=
  acts.takeWhile (· ≠ .expire)

/-- The acts since a request has given up waiting. -/
def overtime (acts : List Act) : List Act :=
  acts.dropWhile (· ≠ .expire)

/-! ## What an act does -/

section

variable {x y : Exchange}

theorem step_hear {event : Channel.Event} :
    x.step (.hear event) = some y ↔ x.channel.isOpen ∧
      y = ⟨(x.channel.hear event).2, x.caller.map (·.take (x.channel.hear event).1),
        x.returned⟩ := by
  by_cases hopen : x.channel.isOpen
  · simp [step, hopen, eq_comm]
  · simp [step, hopen]

theorem step_start {id : String} {seconds : UInt64} :
    x.step (.start id seconds) = some y ↔ x.caller = none ∧
      y = ⟨x.channel.register id, some { id, seconds }, x.returned⟩ := by
  cases hcaller : x.caller with
  | none => simp [step, hcaller, eq_comm]
  | some caller => simp [step, hcaller]

theorem step_write {succeeded : Bool} :
    x.step (.write succeeded) = some y ↔ ∃ caller, x.caller = some caller ∧
      caller.stage = .registered ∧
      y = ⟨x.channel, some { caller with stage := if succeeded then .written else .refused },
        x.returned⟩ := by
  cases hcaller : x.caller with
  | none => simp [step, hcaller]
  | some caller =>
    by_cases hstage : caller.stage = .registered
    · simp [step, hcaller, Caller.write, hstage, eq_comm]
    · simp [step, hcaller, Caller.write, hstage]

theorem step_expire :
    x.step .expire = some y ↔ ∃ caller, x.caller = some caller ∧
      caller.stage = .written ∧ caller.mail = none ∧
      y = ⟨x.channel, some { caller with stage := .late }, x.returned⟩ := by
  cases hcaller : x.caller with
  | none => simp [step, hcaller]
  | some caller =>
    by_cases hstage : caller.stage = .written
    · cases hmail : caller.mail with
      | none =>
        have hstep : x.step .expire =
            some ⟨x.channel, some { caller with stage := .late }, x.returned⟩ := by
          simp [step, hcaller, Caller.expire, hstage, hmail]
        simp [hstep, hstage, hmail, eq_comm]
      | some reply => simp [step, hcaller, Caller.expire, hmail]
    · simp [step, hcaller, Caller.expire, hstage]

theorem step_finish :
    x.step .finish = some y ↔ ∃ caller outcome, x.caller = some caller ∧
      caller.outcome? = some outcome ∧
      y = ⟨caller.leave x.channel, none, x.returned ++ [(caller.id, outcome)]⟩ := by
  cases hcaller : x.caller with
  | none => simp [step, hcaller]
  | some caller =>
    cases houtcome : caller.outcome? with
    | none => simp [step, hcaller, houtcome]
    | some outcome => simp [step, hcaller, houtcome, eq_comm]

theorem run_append_singleton {acts : List Act} {act : Act} :
    x.run (acts ++ [act]) = some y ↔ ∃ z, x.run acts = some z ∧ z.step act = some y := by
  simp only [run, List.foldlM_append, List.foldlM_cons, List.foldlM_nil]
  simp [Option.bind_eq_some_iff]

/-! ## The table -/

/-- Only the request that is being made has an entry, and only until it is handed its reply. -/
def OwnEntryOnly (x : Exchange) : Prop :=
  ∀ id ∈ x.channel.pending, ∃ caller, x.caller = some caller ∧ caller.id = id ∧ caller.mail = none

theorem OwnEntryOnly.pending_eq_nil (h : x.OwnEntryOnly) (hcaller : x.caller = none) :
    x.channel.pending = [] := by
  rw [List.eq_nil_iff_forall_not_mem]
  intro id hid
  obtain ⟨caller, hsome, -⟩ := h id hid
  rw [hcaller] at hsome
  cases hsome

theorem OwnEntryOnly.restage (h : x.OwnEntryOnly) {caller : Caller}
    (hcaller : x.caller = some caller) (stage : Stage) :
    OwnEntryOnly ⟨x.channel, some { caller with stage }, x.returned⟩ := by
  intro id hid
  obtain ⟨_, hsome, hid, hmail⟩ := h id hid
  cases hcaller.symm.trans hsome
  exact ⟨_, rfl, hid, hmail⟩

theorem OwnEntryOnly.step (h : x.OwnEntryOnly) {act : Act} (hstep : x.step act = some y) :
    y.OwnEntryOnly := by
  cases act with
  | hear event =>
    obtain ⟨-, rfl⟩ := step_hear.1 hstep
    intro id hid
    obtain ⟨caller, hcaller, rfl, hmail⟩ := h id (Channel.mem_pending_of_mem_hear hid)
    -- an entry that an event leaves in the table belongs to a caller that it says nothing to
    refine ⟨caller.take (x.channel.hear event).1, by simp [hcaller], rfl, ?_⟩
    simp [Caller.take, hmail, Channel.find?_hear_of_mem hid]
  | start id seconds =>
    obtain ⟨hcaller, rfl⟩ := step_start.1 hstep
    intro i hi
    rw [Channel.mem_pending_register, h.pending_eq_nil hcaller] at hi
    obtain rfl | hi := hi
    · exact ⟨_, rfl, rfl, rfl⟩
    · cases hi
  | write succeeded =>
    obtain ⟨caller, hcaller, -, rfl⟩ := step_write.1 hstep
    exact h.restage hcaller _
  | expire =>
    obtain ⟨caller, hcaller, -, -, rfl⟩ := step_expire.1 hstep
    exact h.restage hcaller _
  | finish =>
    obtain ⟨caller, outcome, hcaller, houtcome, rfl⟩ := step_finish.1 hstep
    intro id hid
    exfalso
    -- a request without a reply takes its own entry out, and one with a reply has none
    have hleft : id ∈ x.channel.pending ∧ (caller.stage = .written ∨ id ≠ caller.id) := by
      revert hid
      cases hstage : caller.stage <;> simp [Caller.leave, hstage]
    obtain ⟨_, hsome, hid, hmail⟩ := h id hleft.1
    cases hcaller.symm.trans hsome
    rcases hleft.2 with hstage | hne
    · simp [Caller.outcome?, hstage, hmail] at houtcome
    · exact hne hid.symm

theorem OwnEntryOnly.run (h : x.OwnEntryOnly) {acts : List Act} (hrun : x.run acts = some y) :
    y.OwnEntryOnly := by
  induction acts using List.reverseRecOn generalizing y with
  | nil =>
    cases hrun
    exact h
  | append_singleton acts act ih =>
    obtain ⟨z, hz, hstep⟩ := run_append_singleton.1 hrun
    exact (ih hz).step hstep

end

/-! ## A request under way -/

section

theorem heard_append (acts later : List Act) : heard (acts ++ later) = heard acts ++ heard later :=
  List.filterMap_append

theorem heard_inTime_append_overtime (acts : List Act) :
    heard (inTime acts) ++ heard (overtime acts) = heard acts := by
  rw [← heard_append, inTime, overtime, List.takeWhile_append_dropWhile]

variable {acts : List Act}

theorem ne_expire_of_not_mem (h : .expire ∉ acts) : ∀ act ∈ acts, decide (act ≠ .expire) := by
  intro act hact
  rw [decide_eq_true_iff]
  rintro rfl
  exact h hact

theorem inTime_eq_self (h : .expire ∉ acts) : inTime acts = acts :=
  List.takeWhile_eq_self_iff.2 (ne_expire_of_not_mem h)

theorem overtime_eq_nil (h : .expire ∉ acts) : overtime acts = [] :=
  List.dropWhile_eq_nil_iff.2 (ne_expire_of_not_mem h)

theorem inTime_append_of_mem (h : .expire ∈ acts) (later : List Act) :
    inTime (acts ++ later) = inTime acts := by
  induction acts with
  | nil => cases h
  | cons act rest ih =>
    by_cases hact : act = .expire
    · simp [inTime, hact]
    · have hrest : .expire ∈ rest := by
        obtain heq | hrest := List.mem_cons.1 h
        · exact absurd heq.symm hact
        · exact hrest
      simpa [inTime, hact] using ih hrest

theorem inTime_append_expire (h : .expire ∉ acts) : inTime (acts ++ [.expire]) = acts := by
  rw [inTime, List.takeWhile_append_of_pos (ne_expire_of_not_mem h)]
  simp

/-- How far a request has come by some acts. -/
def stageAfter (acts : List Act) : Stage :=
  if .expire ∈ acts then .late
  else if .write true ∈ acts then .written
  else if .write false ∈ acts then .refused
  else .registered

theorem stageAfter_eq_registered :
    stageAfter acts = .registered ↔
      .expire ∉ acts ∧ .write true ∉ acts ∧ .write false ∉ acts := by
  unfold stageAfter
  split_ifs with hexpire htrue hfalse <;> simp_all

theorem stageAfter_eq_written :
    stageAfter acts = .written ↔ .expire ∉ acts ∧ .write true ∈ acts := by
  unfold stageAfter
  split_ifs with hexpire htrue hfalse <;> simp_all

/-- A request under way, some acts after its start. The channel has heard what was heard since, and
the reply that the caller was handed is the one that a request in one go awaits. -/
structure Underway (prior : Exchange) (id : String) (seconds : UInt64) (acts : List Act)
    (x : Exchange) : Prop where
  channel : x.channel = (prior.channel.register id).hearAll (heard acts)
  returned : x.returned = prior.returned
  isOpen : heard acts ≠ [] → prior.channel.isOpen
  caller : ∃ mail, x.caller = some ⟨id, seconds, stageAfter acts, mail⟩ ∧
    (.expire ∉ acts → mail = ((prior.channel.register id).await id (heard acts)).1)
  writes : .write true ∈ acts → .write false ∉ acts
  expires : .expire ∈ acts → .write true ∈ acts ∧
    ((prior.channel.register id).await id (heard (inTime acts))).1 = none

variable {prior x y : Exchange} {id : String} {seconds : UInt64}

theorem underway_start (h : prior.step (.start id seconds) = some x) :
    Underway prior id seconds [] x := by
  obtain ⟨-, rfl⟩ := step_start.1 h
  exact ⟨rfl, rfl, fun h => absurd rfl h, ⟨none, rfl, fun _ => rfl⟩, by simp, by simp⟩

theorem Underway.hear (h : Underway prior id seconds acts x) {event : Channel.Event}
    (hstep : x.step (.hear event) = some y) :
    Underway prior id seconds (acts ++ [.hear event]) y := by
  obtain ⟨hopen, rfl⟩ := step_hear.1 hstep
  obtain ⟨mail, hcaller, hmail⟩ := h.caller
  have hheard : heard (acts ++ [.hear event]) = heard acts ++ [event] := heard_append acts _
  have hstage : stageAfter (acts ++ [.hear event]) = stageAfter acts := by simp [stageAfter]
  refine ⟨?_, h.returned, fun _ => ?_, ?_, by simpa using h.writes, ?_⟩
  · rw [hheard, Channel.hearAll_append, ← h.channel]
    rfl
  · rw [h.channel] at hopen
    exact Channel.isOpen_of_isOpen_hearAll (c := prior.channel.register id) hopen
  · refine ⟨mail.or ((x.channel.hear event).1.find? (·.id == id)), ?_, ?_⟩
    · rw [hcaller, hstage]
      rfl
    · intro hexpire
      rw [hheard, Channel.await_append_singleton, ← h.channel, hmail (by simpa using hexpire)]
  · intro hexpire
    have hmem : .expire ∈ acts := by simpa using hexpire
    rw [inTime_append_of_mem hmem]
    simpa using h.expires hmem

theorem Underway.write (h : Underway prior id seconds acts x) {succeeded : Bool}
    (hstep : x.step (.write succeeded) = some y) :
    Underway prior id seconds (acts ++ [.write succeeded]) y := by
  obtain ⟨_, hsome, hregistered, rfl⟩ := step_write.1 hstep
  obtain ⟨mail, hcaller, hmail⟩ := h.caller
  cases hcaller.symm.trans hsome
  obtain ⟨hexpire, htrue, hfalse⟩ := stageAfter_eq_registered.1 hregistered
  have hheard : heard (acts ++ [.write succeeded]) = heard acts := by
    rw [heard_append]
    exact List.append_nil _
  refine ⟨by rw [hheard, h.channel], h.returned, hheard ▸ h.isOpen, ⟨mail, ?_, ?_⟩, ?_, ?_⟩
  · cases succeeded <;> simp [stageAfter, hexpire, htrue]
  · intro _
    rw [hheard, hmail hexpire]
  · cases succeeded <;> simp [htrue, hfalse]
  · intro hmem
    exact absurd hmem (by simp [hexpire])

theorem Underway.expire (h : Underway prior id seconds acts x)
    (hstep : x.step .expire = some y) :
    Underway prior id seconds (acts ++ [.expire]) y := by
  obtain ⟨_, hsome, hwritten, hnone, rfl⟩ := step_expire.1 hstep
  obtain ⟨mail, hcaller, hmail⟩ := h.caller
  cases hcaller.symm.trans hsome
  obtain ⟨hexpire, htrue⟩ := stageAfter_eq_written.1 hwritten
  have hheard : heard (acts ++ [.expire]) = heard acts := by
    rw [heard_append]
    exact List.append_nil _
  refine ⟨by rw [hheard, h.channel], h.returned, hheard ▸ h.isOpen, ⟨mail, ?_, ?_⟩, ?_, ?_⟩
  · simp [stageAfter]
  · intro hmem
    exact absurd (List.mem_append_right acts List.mem_cons_self) hmem
  · simpa using h.writes
  · intro _
    rw [inTime_append_expire hexpire, ← hmail hexpire]
    exact ⟨List.mem_append_left _ htrue, hnone⟩

theorem Underway.step (h : Underway prior id seconds acts x) {act : Act}
    (hstep : x.step act = some y) (hact : act ≠ .finish) :
    Underway prior id seconds (acts ++ [act]) y := by
  cases act with
  | hear event => exact h.hear hstep
  | start id seconds =>
    obtain ⟨hnone, -⟩ := step_start.1 hstep
    obtain ⟨mail, hcaller, -⟩ := h.caller
    cases hcaller.symm.trans hnone
  | write succeeded => exact h.write hstep
  | expire => exact h.expire hstep
  | finish => exact absurd rfl hact

theorem underway_of_run (hrun : prior.run (.start id seconds :: acts) = some x)
    (hfinish : .finish ∉ acts) : Underway prior id seconds acts x := by
  induction acts using List.reverseRecOn generalizing x with
  | nil =>
    have hrun' : prior.run ([] ++ [.start id seconds]) = some x := hrun
    obtain ⟨z, hz, hstep⟩ := run_append_singleton.1 hrun'
    cases hz
    exact underway_start hstep
  | append_singleton acts act ih =>
    rw [← List.cons_append] at hrun
    obtain ⟨z, hz, hstep⟩ := run_append_singleton.1 hrun
    rw [List.mem_append, not_or, List.mem_singleton] at hfinish
    exact (ih hz hfinish.1).step hstep (Ne.symm hfinish.2)

/-- An exchange returns what a request in one go returns on the events that were heard in time, and
leaves the channel that has also heard the events after that. -/
theorem Underway.finish (h : Underway prior id seconds acts x) (hstep : x.step .finish = some y) :
    let once := prior.channel.request id (decide (.write true ∈ acts)) (heard (inTime acts)) seconds
    y = ⟨once.2.hearAll (heard (overtime acts)), none, prior.returned ++ [(id, once.1)]⟩ := by
  obtain ⟨_, outcome, hsome, houtcome, rfl⟩ := step_finish.1 hstep
  obtain ⟨mail, hcaller, hmail⟩ := h.caller
  cases hcaller.symm.trans hsome
  dsimp only
  rw [h.returned, h.channel]
  by_cases hexpire : .expire ∈ acts
  -- the entry is taken out after the overtime, by a request in one go before it
  · obtain ⟨htrue, hnone⟩ := h.expires hexpire
    have hstage : stageAfter acts = .late := by simp [stageAfter, hexpire]
    rw [decide_eq_true htrue, Channel.request_of_no_reply hnone, Channel.hearAll_forget,
      ← Channel.hearAll_append, heard_inTime_append_overtime]
    simpa [Caller.outcome?, Caller.leave, hstage] using houtcome.symm
  rw [inTime_eq_self hexpire, overtime_eq_nil hexpire]
  by_cases htrue : .write true ∈ acts
  · have hstage : stageAfter acts = .written := stageAfter_eq_written.2 ⟨hexpire, htrue⟩
    obtain ⟨reply, hreply, rfl⟩ : ∃ reply, mail = some reply ∧ reply.outcome = outcome := by
      simpa [Caller.outcome?, hstage] using houtcome
    rw [hmail hexpire] at hreply
    rw [decide_eq_true htrue, Channel.request_of_reply hreply]
    simp [Caller.leave, hstage, heard, Channel.hearAll]
  · by_cases hfalse : .write false ∈ acts
    · have hstage : stageAfter acts = .refused := by simp [stageAfter, hexpire, htrue, hfalse]
      rw [decide_eq_false htrue, Channel.request_of_refused]
      simpa [Caller.outcome?, Caller.leave, hstage, heard, Channel.hearAll] using houtcome.symm
    · have hstage := stageAfter_eq_registered.2 ⟨hexpire, htrue, hfalse⟩
      simp [Caller.outcome?, hstage] at houtcome

/-- A request can return once it could not be written, or has been written and either has its reply
or has given up waiting. -/
theorem Underway.isSome_step_finish (h : Underway prior id seconds acts x) :
    (x.step .finish).isSome ↔ .write false ∈ acts ∨ .write true ∈ acts ∧
      (.expire ∈ acts ∨ ((prior.channel.register id).await id (heard (inTime acts))).1.isSome) := by
  obtain ⟨mail, hcaller, hmail⟩ := h.caller
  have hfinish : (x.step .finish).isSome ↔
      (Caller.outcome? ⟨id, seconds, stageAfter acts, mail⟩).isSome := by
    simp [Option.isSome_iff_exists, step_finish, hcaller]
  rw [hfinish]
  by_cases hexpire : .expire ∈ acts
  · have htrue := (h.expires hexpire).1
    simp [Caller.outcome?, stageAfter, hexpire, htrue]
  rw [inTime_eq_self hexpire, ← hmail hexpire]
  by_cases htrue : .write true ∈ acts
  · have hfalse := h.writes htrue
    simp [Caller.outcome?, stageAfter, hexpire, htrue, hfalse]
  · by_cases hfalse : .write false ∈ acts
    · simp [Caller.outcome?, stageAfter, hexpire, htrue, hfalse]
    · simp [Caller.outcome?, stageAfter, hexpire, htrue, hfalse]

/-- A request can give up waiting once it has been written, and as long as it has no reply. -/
theorem Underway.isSome_step_expire (h : Underway prior id seconds acts x) :
    (x.step .expire).isSome ↔ .write true ∈ acts ∧ .expire ∉ acts ∧
      ((prior.channel.register id).await id (heard (inTime acts))).1 = none := by
  obtain ⟨mail, hcaller, hmail⟩ := h.caller
  have hexpire : (x.step .expire).isSome ↔ stageAfter acts = .written ∧ mail = none := by
    simp [Option.isSome_iff_exists, step_expire, hcaller]
  rw [hexpire, stageAfter_eq_written]
  by_cases hmem : .expire ∈ acts
  · simp [hmem]
  · rw [inTime_eq_self hmem, ← hmail hmem]
    simp [hmem]

end

end Exchange

open Exchange in
/-- Each request gets its own answer. Take any run up to the start of a request, and any acts after
that until it returns. The request can return when its write fails, when an answer to it is heard,
and when it gives up waiting, which it can do as long as there is none. It returns what it returns
when it is made in one go: the answer that was heard first, before it gave up, and else that its
time is over. The answer is the reply with its number, or that the worker has exited when the
output ended, or could not be read on, before that. While the request is under way the table holds
no entry but its own, and when it has returned the table is empty. -/
theorem replies_routed_by_id {α : Type} (read : Json → Option α) {before during : List Act}
    {id : String} {seconds : UInt64} {prior x : Exchange}
    (hbefore : run {} before = some prior)
    (hduring : prior.run (.start id seconds :: during) = some x)
    (hfinish : .finish ∉ during) :
    let answer := (heard (inTime during)).findSome? (·.answer? read id)
    let once := prior.channel.request id (decide (.write true ∈ during)) (heard (inTime during))
      seconds
    x.channel.pending ⊆ [id] ∧
    ((x.step .finish).isSome ↔
      .write false ∈ during ∨ .write true ∈ during ∧ (.expire ∈ during ∨ answer.isSome)) ∧
    ((x.step .expire).isSome ↔ .write true ∈ during ∧ .expire ∉ during ∧ answer = none) ∧
    (∀ y, x.step .finish = some y →
      y = ⟨once.2.hearAll (heard (overtime during)), none, prior.returned ++ [(id, once.1)]⟩ ∧
      y.channel.pending = []) ∧
    WorkerError.readAs read once.1 =
      if .write true ∈ during then answer.getD (.error (.timeout seconds))
      else .error .writeFailed := by
  intro answer once
  have hunderway := underway_of_run hduring hfinish
  have hown : x.OwnEntryOnly := by
    have hprior : prior.OwnEntryOnly := OwnEntryOnly.run (by simp [OwnEntryOnly]) hbefore
    exact hprior.run hduring
  -- whatever is heard after the start is heard by a reader that was there at the start
  have hopen : heard (inTime during) ≠ [] → prior.channel.isOpen := by
    intro hne
    refine hunderway.isOpen fun hnil => hne ?_
    rw [← heard_inTime_append_overtime, List.append_eq_nil_iff] at hnil
    exact hnil.1
  have hawait : ((prior.channel.register id).await id (heard (inTime during))).1.map
      (fun reply => WorkerError.readAs read reply.outcome) = answer := by
    rw [Channel.await_register hopen, ← Channel.findSome?_answer?]
  refine ⟨?_, ?_, ?_, ?_, ?_⟩
  · intro i hi
    obtain ⟨_, hsome, rfl, -⟩ := hown i hi
    obtain ⟨mail, hcaller, -⟩ := hunderway.caller
    cases hcaller.symm.trans hsome
    exact List.mem_singleton_self id
  · rw [hunderway.isSome_step_finish, ← hawait, Option.isSome_map]
  · rw [hunderway.isSome_step_expire, ← hawait, Option.map_eq_none_iff]
  · intro y hstep
    have hy := hunderway.finish hstep
    refine ⟨hy, (hown.step hstep).pending_eq_nil ?_⟩
    rw [hy]
  · by_cases htrue : .write true ∈ during
    · rw [if_pos htrue]
      show WorkerError.readAs read (prior.channel.request id _ _ seconds).1 = _
      rw [decide_eq_true htrue]
      exact Channel.readAs_request_written read hopen
    · rw [if_neg htrue]
      show WorkerError.readAs read (prior.channel.request id _ _ seconds).1 = _
      rw [decide_eq_false htrue]
      rfl

open Exchange in
/-- A late reply to the request before, a line that is no reply and a second reply are heard while a
request waits. It gets its own first reply. -/
theorem replies_routed_by_id_stale_lines :
    let before : List Act := [.start "a" 5, .write true, .expire, .finish]
    let during : List Act := [
      .hear (.line "\x7b\"id\":\"a\",\"success\":true,\"result\":false\x7d"),
      .write true,
      .hear (.line "ready"),
      .hear (.line "\x7b\"id\":\"b\",\"success\":true,\"result\":true\x7d"),
      .hear (.line "\x7b\"id\":\"b\",\"success\":false\x7d")]
    ∃ prior x y outcome, run {} before = some prior ∧
      prior.run (.start "b" 5 :: during) = some x ∧ .finish ∉ during ∧
      x.step .finish = some y ∧ y.channel.pending = [] ∧
      y.returned = [("a", .error (.timeout 5)), ("b", outcome)] ∧
      WorkerError.readAs Json.bool? outcome = .ok true := by
  intro before during
  have hbefore : run {} before = some { returned := [("a", .error (.timeout 5))] } := by
    cbv
  have hduring : run { returned := [("a", .error (.timeout 5))] } (.start "b" 5 :: during) =
      some ⟨{}, some ⟨"b", 5, .written, some ⟨"b", true, some (.bool true), none⟩⟩,
        [("a", .error (.timeout 5))]⟩ := by
    cbv
  have hanswer :
      (heard (inTime during)).findSome? (·.answer? Json.bool? "b") = some (.ok true) := by
    cbv
  have hwrite : .write true ∈ during := by simp [during]
  have hfinish : .finish ∉ during := by simp [during]
  obtain ⟨-, hcan, -, hreturn, hread⟩ := replies_routed_by_id Json.bool? hbefore hduring hfinish
  have hready := hcan.2 (.inr ⟨hwrite, .inr (by rw [hanswer]; rfl)⟩)
  obtain ⟨y, hy⟩ := Option.isSome_iff_exists.1 hready
  obtain ⟨hstate, hpending⟩ := hreturn y hy
  refine ⟨_, _, y, _, hbefore, hduring, hfinish, hy, hpending, by rw [hstate]; rfl, ?_⟩
  rw [hread, if_pos hwrite, hanswer]
  rfl

open Exchange in
/-- A request loses its reply when a line before it is no text, such as a letter in another
encoding than UTF-8. It is told that the worker has exited, and a request after it hears nothing
until its time is over. Without that line it returns what was replied to it. -/
theorem unreadable_line_ends_reading :
    let start : List Act := [.start "a" 5, .write true]
    let next : List Act := [.finish, .start "b" 5, .write true]
    let noise := Channel.Event.ofLine ⟨#[0xE9]⟩
    let reply := Channel.Event.ofLine
      "\x7b\"id\":\"a\",\"success\":true,\"result\":true\x7d".toUTF8
    (run {} (start ++ [.hear reply, .finish])).map (·.returned) = some [("a", .ok (.bool true))] ∧
    run {} (start ++ [.hear noise, .hear reply]) = none ∧
    (run {} (start ++ .hear noise :: next ++ [.expire, .finish])).map (·.returned) =
      some [("a", .error .exited), ("b", .error (.timeout 5))] ∧
    ∀ event, run {} (start ++ .hear noise :: next ++ [.hear event]) = none := by
  intro start next noise reply
  have hnoise : noise = .unreadable := by cbv
  have hreply : reply = .line "\x7b\"id\":\"a\",\"success\":true,\"result\":true\x7d" :=
    Channel.Event.ofLine_toUTF8 _
  rw [hnoise, hreply]
  exact ⟨by cbv, by cbv, by cbv, fun _ => rfl⟩

end TransactSql
