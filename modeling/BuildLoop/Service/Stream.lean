import BuildLoop.Service.Feed

/-!
# Streams

How the events of a run reach a client while the run goes on. Two parties take turns, in any order. The
forwarder stores an event and then sends it. The client listens, then takes what is stored, and then is
shown one event after the other: first its replay, then what is sent and not in the replay, up to a
final event.

    away → listening → following → … → following → ended

What is sent is kept for a listener only so long: one that is more than `capacity` events behind loses
the oldest of them.
-/

namespace BuildLoop.Service

variable {ε : Type}

/-- How many of the events sent are kept for a listener that has not taken them. -/
def capacity : Nat := 256

/-- A client that has its replay. -/
structure Follower (ε : Type) where
  subscription : Subscription ε
  /-- What of the replay is still to be shown. -/
  unread : List (Nat × ε)
  /-- How many of the events sent it has passed. -/
  next : Nat
  shown : List (Nat × ε)
  /-- Whether a final event is in the replay or was taken after it. -/
  finished : Bool
  deriving DecidableEq, Repr

/-- A client of the stream of a run. -/
inductive Client (ε : Type) where
  | away
  /-- Listens to what is sent from here on; has not looked at what is stored. -/
  | listening (since : Nat)
  | following (f : Follower ε)
  | ended (f : Follower ε)
  deriving DecidableEq, Repr

namespace Follower

/-- A client that has just taken its replay. -/
def start (isFinal : ε → Bool) (s : Subscription ε) : Follower ε :=
  ⟨s, s.replay, s.since, [], s.replay.any fun e => isFinal e.2⟩

/-- Is shown the next event of the replay, with the rest still unread. -/
def read (f : Follower ε) (e : Nat × ε) (rest : List (Nat × ε)) : Follower ε :=
  { f with unread := rest, shown := f.shown ++ [e] }

/-- Takes an event that was sent, and is shown it unless it is in the replay. -/
def receive (isFinal : ε → Bool) (f : Follower ε) (e : Nat × ε) : Follower ε :=
  if (f.subscription.replay.map (·.1)).contains e.1 then { f with next := f.next + 1 }
  else { f with next := f.next + 1, shown := f.shown ++ [e], finished := isFinal e.2 }

/-- Goes on with the oldest event that is kept. -/
def catchUp (f : Follower ε) (sent : List (Nat × ε)) : Follower ε :=
  { f with next := sent.length - capacity }

/-- One step of a client that has its replay; none while it waits for the next event to be sent. -/
def step? (isFinal : ε → Bool) (sent : List (Nat × ε)) (f : Follower ε) : Option (Client ε) :=
  match f.unread with
  | e :: rest => some (.following (f.read e rest))
  | [] =>
    if f.finished then some (.ended f)
    else if capacity < sent.length - f.next then some (.following (f.catchUp sent))
    else sent[f.next]?.map fun e => .following (f.receive isFinal e)

end Follower

namespace Client

/-- One step of a client, if it has one. It joins in two: what it takes of the feed when it looks may be
more than what was there when it began to listen. -/
def step? (isFinal : ε → Bool) (feed : Feed ε) : Client ε → Option (Client ε)
  | .away => some (.listening feed.join.since)
  | .listening since => some (.following (.start isFinal ⟨since, feed.join.replay⟩))
  | .following f => f.step? isFinal feed.sent
  | .ended _ => none

/-- What the client has been shown. -/
def shown : Client ε → List (Nat × ε)
  | .away | .listening _ => []
  | .following f | .ended f => f.shown

/-- Whether its stream has ended. -/
def isEnded : Client ε → Bool
  | .ended _ => true
  | _ => false

/-- How many events were sent that it listens to and has not taken. -/
def behind (sent : List (Nat × ε)) : Client ε → Nat
  | .away | .ended _ => 0
  | .listening since => sent.length - since
  | .following f => sent.length - f.next

end Client

/-- Who takes a turn. -/
inductive Party where
  | forwarder
  | client
  deriving DecidableEq, Repr

/-- A run under way and a client that follows it. -/
structure Session (ε : Type) where
  /-- The events that the forwarder is still to store. -/
  coming : List (Nat × ε)
  /-- The event that it has stored and not sent. -/
  pending : Option (Nat × ε)
  feed : Feed ε
  client : Client ε
  deriving DecidableEq, Repr

namespace Session

/-- Before the first of a run's events, and before the client comes. -/
def new (es : List (Nat × ε)) : Session ε := ⟨es, none, .empty, .away⟩

/-- The forwarder sends what it has stored, or stores what comes next. -/
def forward? (s : Session ε) : Option (Session ε) :=
  match s.pending, s.coming with
  | some e, _ => some { s with pending := none, feed := s.feed.send e }
  | none, e :: rest => some { s with coming := rest, pending := some e, feed := s.feed.store e }
  | none, [] => none

/-- The turn of a party, if it has one. -/
def turn? (isFinal : ε → Bool) (s : Session ε) : Party → Option (Session ε)
  | .forwarder => s.forward?
  | .client => (s.client.step? isFinal s.feed).map fun c => { s with client := c }

/-- Where an interleaving leads, if each of its turns can be taken. -/
def play? (isFinal : ε → Bool) (s : Session ε) : List Party → Option (Session ε)
  | [] => some s
  | p :: ps => (s.turn? isFinal p).bind fun t => t.play? isFinal ps

/-- How far the client is behind. -/
def behind (s : Session ε) : Nat := s.client.behind s.feed.sent

end Session

end BuildLoop.Service
