import TransactSql.Worker.Reply

/-!
# The channel to the worker

Requests and replies are lines, matched by the number of the request. Whoever reads the worker's
output hands a reply to the request that waits for it and drops every other line of text. When the
output ends, all requests that wait learn that the worker is gone. The same happens when the output
cannot be read on: nothing that comes after a line that is no text is heard.
-/

namespace TransactSql

/-- What is heard of the worker. -/
inductive Channel.Event where
  /-- A line of its output. -/
  | line (text : String)
  /-- Its output cannot be read on. -/
  | unreadable
  /-- Its output has ended. -/
  | closed
deriving DecidableEq, Repr

/-- What is heard of a line: it has to be UTF-8. -/
def Channel.Event.ofLine (bytes : ByteArray) : Event :=
  match String.fromUTF8? bytes with
  | some text => .line text
  | none => .unreadable

@[simp]
theorem Channel.Event.ofLine_toUTF8 (text : String) : ofLine text.toUTF8 = .line text := by
  have htext : String.fromUTF8? text.toUTF8 = some text := dif_pos text.isValidUTF8
  simp only [ofLine, htext]

/-- The requests that wait for a reply, and whether the worker's output is still read. -/
structure Channel where
  pending : List String := []
  isOpen : Bool := true
deriving DecidableEq, Repr, Inhabited

namespace Channel

/-- Lets a request wait. -/
def register (c : Channel) (id : String) : Channel :=
  { c with pending := id :: c.pending.filter (· != id) }

/-- Lets a request wait no longer. -/
def forget (c : Channel) (id : String) : Channel :=
  { c with pending := c.pending.filter (· != id) }

/-- Hears an event: the replies that it hands out, and the channel after it. -/
def hear (c : Channel) (event : Event) : List Reply × Channel :=
  if !c.isOpen then ([], c)
  else
    match event with
    | .unreadable | .closed => (c.pending.map Reply.ofExit, ⟨[], false⟩)
    | .line text =>
      match Reply.parse? text with
      | some reply =>
        if c.pending.contains reply.id then ([reply], c.forget reply.id) else ([], c)
      | none => ([], c)

/-- The channel after some events. -/
def hearAll (c : Channel) (events : List Event) : Channel :=
  events.foldl (fun c event => (c.hear event).2) c

/-- The first reply to a request among events, and the channel after all of them. -/
def await (id : String) (c : Channel) : List Event → Option Reply × Channel
  | [] => (none, c)
  | event :: rest =>
    let (replies, next) := c.hear event
    match replies.find? (·.id == id) with
    | some reply => (some reply, next.hearAll rest)
    | none => next.await id rest

/-- A request: it waits, is written, and gets the first reply among the events that are heard
until its time is over. -/
def request (c : Channel) (id : String) (written : Bool) (events : List Event)
    (seconds : UInt64) : Except WorkerError Json × Channel :=
  let c := c.register id
  if !written then (.error .writeFailed, (c.hearAll events).forget id)
  else
    match c.await id events with
    | (some reply, c) => (reply.outcome, c)
    | (none, c) => (.error (.timeout seconds), c.forget id)

end Channel

end TransactSql
