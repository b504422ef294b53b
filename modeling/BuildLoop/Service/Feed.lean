/-!
# Feeds

The events of a run are stored and then sent to whoever listens, one after the other. A client that
joins starts to listen first and takes what is stored then, so that nothing falls in between; an event
that it has from the store is not shown again when it is sent.

    shown = all events of the run, each once and in order, whenever the client joins
-/

namespace BuildLoop

/-- The events of a run with their ids: those stored and those sent, each in order. -/
structure Feed (ε : Type) where
  stored : List (Nat × ε)
  sent : List (Nat × ε)
  deriving DecidableEq, Repr

/-- What a client took when it joined: how much had been sent, and what was stored. -/
structure Subscription (ε : Type) where
  since : Nat
  replay : List (Nat × ε)
  deriving DecidableEq, Repr

namespace Feed

variable {ε : Type}

/-- The feed of a run that has not begun. -/
def empty : Feed ε := ⟨[], []⟩

/-- Stores an event. -/
def store (f : Feed ε) (e : Nat × ε) : Feed ε := { f with stored := f.stored ++ [e] }

/-- Sends an event to whoever listens. -/
def send (f : Feed ε) (e : Nat × ε) : Feed ε := { f with sent := f.sent ++ [e] }

/-- Stores events and sends each right after. -/
def forward (f : Feed ε) (es : List (Nat × ε)) : Feed ε :=
  es.foldl (fun f e => (f.store e).send e) f

/-- Joins: listens from what is sent next, and takes what is stored. -/
def join (f : Feed ε) : Subscription ε := ⟨f.sent.length, f.stored⟩

/-! ## What a client is shown -/

/-- Events up to the first final one. -/
def untilFinal (isFinal : ε → Bool) : List (Nat × ε) → List (Nat × ε)
  | [] => []
  | e :: r => if isFinal e.2 then [e] else e :: untilFinal isFinal r

/-- What comes live to a client that has a replay. -/
def live (isFinal : ε → Bool) (replay sent : List (Nat × ε)) : List (Nat × ε) :=
  if replay.any fun e => isFinal e.2 then []
  else untilFinal isFinal (sent.filter fun e => !(replay.map (·.1)).contains e.1)

/-- What a client has been shown so far. -/
def shown (isFinal : ε → Bool) (f : Feed ε) (s : Subscription ε) : List (Nat × ε) :=
  s.replay ++ live isFinal s.replay (f.sent.drop s.since)

end Feed

end BuildLoop
