import TaskSync.Run.Notice

/-!
# The notice bus

Notices go to everyone who has subscribed by then. The bus holds as many of the last notices as
its capacity says; a receiver that falls further behind is told how many it missed and goes on
with the oldest one held. A notice that nobody receives is counted and dropped.
-/

namespace TaskSync

/-- A notice under way. Serial numbers tell envelopes apart. -/
structure Envelope where
  serial : Nat
  notice : Notice
  deriving DecidableEq

/-- The notices sent so far, and for each receiver how many of them lie behind it. -/
structure Bus where
  capacity : Nat
  /-- Every notice handed to the bus, received or not. -/
  published : Nat
  sent : Array Envelope
  receivers : List (Nat × Nat)
  nextReceiver : Nat

namespace Bus

/-- The smallest power of two that is not below `n`. -/
def powerOfTwo (n : Nat) : Nat := if n ≤ 1 then 1 else 2 ^ ((n - 1).log2 + 1)

/-- The largest capacity that can be asked for. -/
def maxCapacity : Nat := 2 ^ 63 - 1

/-- A bus of a capacity, which is rounded up to a power of two; zero is refused. -/
def withCapacity? (n : Nat) : Option Bus :=
  if n = 0 ∨ maxCapacity < n then none else some ⟨powerOfTwo n, 0, #[], [], 0⟩

def defaultCapacity : Nat := 256

def default : Bus := ⟨defaultCapacity, 0, #[], [], 0⟩

instance : Inhabited Bus := ⟨default⟩

def subscriberCount (b : Bus) : Nat := b.receivers.length

/-- Adds a receiver of all that is published from now on. -/
def subscribe (b : Bus) : Nat × Bus :=
  (b.nextReceiver,
    { b with
      receivers := b.receivers ++ [(b.nextReceiver, b.sent.size)]
      nextReceiver := b.nextReceiver + 1 })

def unsubscribe (b : Bus) (receiver : Nat) : Bus :=
  { b with receivers := b.receivers.filter fun r => r.1 != receiver }

/-- Publishes a notice; the answer is how many receive it. -/
def publish (b : Bus) (n : Notice) : Nat × Bus :=
  let counted := { b with published := b.published + 1 }
  if b.receivers.isEmpty then (0, counted)
  else (b.subscriberCount, { counted with sent := b.sent.push ⟨b.sent.size, n⟩ })

/-- The first place that is still held. -/
def oldest (b : Bus) : Nat := b.sent.size - b.capacity

/-- What a receiver gets next. -/
inductive Received where
  | envelope (e : Envelope)
  | empty
  | lagged (missed : Nat)
  /-- There is no such receiver. -/
  | unknown
  deriving DecidableEq

def moveTo (b : Bus) (receiver place : Nat) : Bus :=
  { b with
    receivers := b.receivers.map fun r => if r.1 = receiver then (r.1, place) else r }

def receive (b : Bus) (receiver : Nat) : Received × Bus :=
  match b.receivers.lookup receiver with
  | none => (.unknown, b)
  | some place =>
    if place < b.oldest then (.lagged (b.oldest - place), b.moveTo receiver b.oldest)
    else
      match b.sent[place]? with
      | some e => (.envelope e, b.moveTo receiver (place + 1))
      | none => (.empty, b)

/-- The counts in words. -/
def summary (b : Bus) : String :=
  "EventBus \x7b subscriber_count: " ++ toString b.subscriberCount ++ ", published_count: "
    ++ toString b.published ++ " \x7d"

end Bus

end TaskSync
