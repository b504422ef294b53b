import BuildLoop.Proofs.Service.Feed
import BuildLoop.Service.Stream

/-!
# What a stream delivers

A client that keeps up has been shown, at each moment, what the feed shows to one that has taken as much
of what was sent (`Follower.Sound.shown`). Every turn of either party keeps that and leaves less to do:

    s.Held es → s.turn? p = some t   →   t.Held es ∧ t.left < s.left                        (Held.turn)
    nobody has a turn left           →   the stream has ended                               (Held.ends)

So every interleaving comes to an end, and the client has then been shown every event of the run, once
and in order, wherever it looked at what was stored between two turns of the forwarder.
-/

namespace BuildLoop.Service

open Feed (Concluded)

variable {ε : Type} {isFinal : ε → Bool} {es : List (Nat × ε)}

/-! ## A client with its replay -/

namespace Follower

variable {feed feed' : Feed ε} {f : Follower ε} {e : Nat × ε} {rest : List (Nat × ε)}

/-- What holds of a client that has kept up. -/
structure Sound (isFinal : ε → Bool) (feed : Feed ε) (f : Follower ε) : Prop where
  replay : f.subscription.replay <+: feed.stored
  /-- What was sent before it listened was stored before it looked. -/
  since : f.subscription.since ≤ f.subscription.replay.length
  onward : f.subscription.since ≤ f.next
  next : f.next ≤ feed.sent.length
  shown : f.shown ++ f.unread = (feed.upTo f.next).shown isFinal f.subscription
  finished : f.finished = (f.shown ++ f.unread).any fun e => isFinal e.2

/-- What a step of a client with its replay can be. -/
theorem step?_eq_some {sent : List (Nat × ε)} {c : Client ε} (h : f.step? isFinal sent = some c) :
    (∃ e rest, f.unread = e :: rest ∧ c = .following (f.read e rest)) ∨
    (f.unread = [] ∧ f.finished = true ∧ c = .ended f) ∨
    (f.unread = [] ∧ f.finished = false ∧ capacity < sent.length - f.next ∧
      c = .following (f.catchUp sent)) ∨
    (f.unread = [] ∧ f.finished = false ∧ sent.length - f.next ≤ capacity ∧
      ∃ e, sent[f.next]? = some e ∧ c = .following (f.receive isFinal e)) := by
  unfold step? at h
  cases hunread : f.unread with
  | cons e rest =>
    rw [hunread] at h
    exact .inl ⟨e, rest, rfl, (Option.some.inj h).symm⟩
  | nil =>
    rw [hunread] at h
    dsimp only at h
    cases hfinished : f.finished with
    | true =>
      rw [hfinished, if_pos rfl] at h
      exact .inr (.inl ⟨rfl, rfl, (Option.some.inj h).symm⟩)
    | false =>
      rw [hfinished, if_neg Bool.false_ne_true] at h
      by_cases hbehind : capacity < sent.length - f.next
      · rw [if_pos hbehind] at h
        exact .inr (.inr (.inl ⟨rfl, rfl, hbehind, (Option.some.inj h).symm⟩))
      · rw [if_neg hbehind] at h
        obtain ⟨e, hget, rfl⟩ := Option.map_eq_some_iff.1 h
        exact .inr (.inr (.inr ⟨rfl, rfl, Nat.le_of_not_lt hbehind, e, hget, rfl⟩))

/-- It has no step only while it waits. -/
theorem step?_eq_none {sent : List (Nat × ε)} (h : f.step? isFinal sent = none) :
    f.unread = [] ∧ f.finished = false ∧ sent.length ≤ f.next := by
  unfold step? at h
  cases hunread : f.unread with
  | cons e rest =>
    rw [hunread] at h
    cases h
  | nil =>
    rw [hunread] at h
    dsimp only at h
    cases hfinished : f.finished with
    | true =>
      rw [hfinished, if_pos rfl] at h
      cases h
    | false =>
      rw [hfinished, if_neg Bool.false_ne_true] at h
      by_cases hbehind : capacity < sent.length - f.next
      · rw [if_pos hbehind] at h
        cases h
      · rw [if_neg hbehind, Option.map_eq_none_iff, List.getElem?_eq_none_iff] at h
        exact ⟨rfl, rfl, h⟩

theorem next_receive (f : Follower ε) (e : Nat × ε) : (f.receive isFinal e).next = f.next + 1 := by
  unfold receive
  split <;> rfl

theorem unread_receive (f : Follower ε) (e : Nat × ε) :
    (f.receive isFinal e).unread = f.unread := by
  unfold receive
  split <;> rfl

namespace Sound

theorem start {since : Nat} (hsince : since ≤ feed.sent.length)
    (hsent : feed.sent.length ≤ feed.stored.length) :
    (start isFinal ⟨since, feed.stored⟩).Sound isFinal feed where
  replay := List.prefix_rfl
  since := Nat.le_trans hsince hsent
  onward := Nat.le_refl since
  next := hsince
  shown := (Feed.shown_upTo_since feed ⟨since, feed.stored⟩).symm
  finished := rfl

theorem mono (h : f.Sound isFinal feed) (hstored : feed.stored <+: feed'.stored)
    (hsent : feed.sent <+: feed'.sent) : f.Sound isFinal feed' where
  replay := h.replay.trans hstored
  since := h.since
  onward := h.onward
  next := Nat.le_trans h.next hsent.length_le
  shown := by
    rw [Feed.shown_upTo_mono hsent h.next]
    exact h.shown
  finished := h.finished

theorem read (h : f.Sound isFinal feed) (hunread : f.unread = e :: rest) :
    (f.read e rest).Sound isFinal feed := by
  have hsame : (f.read e rest).shown ++ (f.read e rest).unread = f.shown ++ f.unread := by
    rw [hunread]
    exact List.append_assoc _ _ _
  constructor
  case replay => exact h.replay
  case since => exact h.since
  case onward => exact h.onward
  case next => exact h.next
  case shown =>
    rw [hsame]
    exact h.shown
  case finished =>
    rw [hsame]
    exact h.finished

theorem receive (h : f.Sound isFinal feed) (hunread : f.unread = []) (hfinished : f.finished = false)
    (hget : feed.sent[f.next]? = some e) : (f.receive isFinal e).Sound isFinal feed := by
  have hshown := h.shown
  have hnot := h.finished
  rw [hunread, List.append_nil] at hshown hnot
  rw [hfinished] at hnot
  have hnext : f.next + 1 ≤ feed.sent.length := (List.getElem?_eq_some_iff.1 hget).1
  have honward : f.subscription.since ≤ f.next + 1 := Nat.le_succ_of_le h.onward
  unfold Follower.receive
  by_cases hmem : (f.subscription.replay.map (·.1)).contains e.1 = true
  · rw [if_pos hmem]
    refine ⟨h.replay, h.since, honward, hnext, ?_, h.finished⟩
    dsimp only
    rw [Feed.shown_upTo_succ_of_mem hget h.onward hmem]
    exact h.shown
  · rw [if_neg hmem]
    rw [Bool.not_eq_true] at hmem
    refine ⟨h.replay, h.since, honward, hnext, ?_, ?_⟩
    · dsimp only
      rw [Feed.shown_upTo_succ_of_notMem hget h.onward hmem (by rw [← hshown, ← hnot]),
        hunread, List.append_nil, hshown]
    · dsimp only
      rw [hunread, List.append_nil, List.any_append, ← hnot]
      simp

/-- Of a run that ends as runs do, it has been shown, or is about to be, how the events begin. -/
theorem shown_eq_take (h : f.Sound isFinal feed) (hes : Concluded isFinal es)
    (hstored : feed.stored <+: es) (hsent : feed.sent <+: es) :
    f.shown ++ f.unread = es.take (max f.subscription.replay.length f.next) := by
  rw [h.shown]
  exact hes.shown_upTo hsent (h.replay.trans hstored) h.since h.next

theorem begun (h : f.Sound isFinal feed) (hes : Concluded isFinal es)
    (hstored : feed.stored <+: es) (hsent : feed.sent <+: es) : f.shown <+: es := by
  have hbegins : f.shown <+: f.shown ++ f.unread := List.prefix_append _ _
  rw [h.shown_eq_take hes hstored hsent] at hbegins
  exact hbegins.trans (List.take_prefix _ _)

/-- While it waits it has been shown what the feed shows. -/
theorem shown_of_waits (h : f.Sound isFinal feed) (hwaits : f.step? isFinal feed.sent = none) :
    f.shown = feed.shown isFinal f.subscription := by
  obtain ⟨hunread, -, hnext⟩ := step?_eq_none hwaits
  have hshown := h.shown
  rw [hunread, List.append_nil, Nat.le_antisymm h.next hnext, Feed.upTo_length] at hshown
  exact hshown

/-- Once it has taken the final event, it has been shown all that the feed will ever show. -/
theorem shown_of_finished (h : f.Sound isFinal feed) (hunread : f.unread = [])
    (hfinished : f.finished = true) : f.shown = feed.shown isFinal f.subscription := by
  have hshown := h.shown
  have hany := h.finished
  rw [hfinished, hshown] at hany
  rw [hunread, List.append_nil] at hshown
  rw [hshown, Feed.shown_of_over h.next h.onward hany.symm]

/-- Once it has taken the final event, it has been shown all of them, or is about to be. -/
theorem eq_of_finished (h : f.Sound isFinal feed) (hes : Concluded isFinal es)
    (hstored : feed.stored <+: es) (hsent : feed.sent <+: es) (hfinished : f.finished = true) :
    f.shown ++ f.unread = es := by
  have htake := h.shown_eq_take hes hstored hsent
  have hany := h.finished
  rw [hfinished, htake] at hany
  rw [htake, List.take_of_length_le (hes.length_le_of_any_take hany.symm)]

end Sound

end Follower

/-! ## A session -/

/-- What holds of a client that has kept up. -/
def Client.Sound (isFinal : ε → Bool) (feed : Feed ε) : Client ε → Prop
  | .away => True
  | .listening since => since ≤ feed.sent.length
  | .following f => f.Sound isFinal feed
  | .ended f => f.Sound isFinal feed ∧ f.unread = [] ∧ f.finished = true

theorem Client.Sound.mono {c : Client ε} {feed feed' : Feed ε} (h : c.Sound isFinal feed)
    (hstored : feed.stored <+: feed'.stored) (hsent : feed.sent <+: feed'.sent) :
    c.Sound isFinal feed' := by
  cases c with
  | away => trivial
  | listening since => exact Nat.le_trans h hsent.length_le
  | following f => exact Follower.Sound.mono h hstored hsent
  | ended f => exact ⟨h.1.mono hstored hsent, h.2⟩

/-- How many steps a client has left at most, of a run with `n` events. -/
def Client.left (n : Nat) : Client ε → Nat
  | .away => 2 * n + 3
  | .listening _ => 2 * n + 2
  | .following f => f.unread.length + (n - f.next) + 1
  | .ended _ => 0

namespace Session

variable {s t : Session ε} {p : Party} {ps : List Party}

/-- What holds of a session with the events `es` whose client has kept up. -/
structure Held (isFinal : ε → Bool) (es : List (Nat × ε)) (s : Session ε) : Prop where
  stored : s.feed.stored ++ s.coming = es
  sent : s.feed.sent ++ s.pending.toList = s.feed.stored
  client : s.client.Sound isFinal s.feed

/-- How many turns are left at most. -/
def left (s : Session ε) : Nat :=
  2 * s.coming.length + s.pending.toList.length +
    s.client.left (s.feed.stored.length + s.coming.length)

/-- The client never falls further behind in an interleaving than what is kept for it. -/
def KeepsUp (isFinal : ε → Bool) (s : Session ε) : List Party → Prop
  | [] => s.behind ≤ capacity
  | p :: ps => s.behind ≤ capacity ∧ ∀ t, s.turn? isFinal p = some t → t.KeepsUp isFinal ps

theorem KeepsUp.behind_le (h : s.KeepsUp isFinal ps) : s.behind ≤ capacity := by
  cases ps with
  | nil => exact h
  | cons p ps => exact h.1

theorem held_new (isFinal : ε → Bool) (es : List (Nat × ε)) : (new es).Held isFinal es :=
  ⟨rfl, rfl, trivial⟩

theorem left_new (es : List (Nat × ε)) : (new es).left = 4 * es.length + 3 := by
  have h : (new es).left = 2 * es.length + 0 + (2 * (0 + es.length) + 3) := rfl
  omega

/-- What the forwarder does in a turn. -/
theorem forward?_eq_some (h : s.forward? = some t) :
    (∃ e, s.pending = some e ∧ t = { s with pending := none, feed := s.feed.send e }) ∨
    (∃ e rest, s.pending = none ∧ s.coming = e :: rest ∧
      t = { s with coming := rest, pending := some e, feed := s.feed.store e }) := by
  unfold forward? at h
  cases hpending : s.pending with
  | some e =>
    rw [hpending] at h
    exact .inl ⟨e, rfl, (Option.some.inj h).symm⟩
  | none =>
    rw [hpending] at h
    cases hcoming : s.coming with
    | nil =>
      rw [hcoming] at h
      cases h
    | cons e rest =>
      rw [hcoming] at h
      exact .inr ⟨e, rest, rfl, rfl, (Option.some.inj h).symm⟩

theorem forward?_eq_none (h : s.forward? = none) : s.pending = none ∧ s.coming = [] := by
  unfold forward? at h
  cases hpending : s.pending with
  | some e =>
    rw [hpending] at h
    cases h
  | none =>
    rw [hpending] at h
    cases hcoming : s.coming with
    | nil => exact ⟨rfl, rfl⟩
    | cons e rest =>
      rw [hcoming] at h
      cases h

/-- What the client does in a turn. -/
theorem turn?_client_eq_some (h : s.turn? isFinal .client = some t) :
    ∃ c, s.client.step? isFinal s.feed = some c ∧ t = { s with client := c } := by
  obtain ⟨c, hc, ht⟩ := Option.map_eq_some_iff.1 h
  exact ⟨c, hc, ht.symm⟩

namespace Held

theorem prefix_sent (h : s.Held isFinal es) : s.feed.sent <+: s.feed.stored :=
  ⟨s.pending.toList, h.sent⟩

theorem prefix_stored (h : s.Held isFinal es) : s.feed.stored <+: es :=
  ⟨s.coming, h.stored⟩

/-- A turn of the forwarder makes it store or send one event more. -/
theorem forward (h : s.Held isFinal es) (ht : s.forward? = some t) :
    t.Held isFinal es ∧ t.left < s.left := by
  obtain ⟨e, hpending, rfl⟩ | ⟨e, rest, hpending, hcoming, rfl⟩ := forward?_eq_some ht
  · have hsent := h.sent
    rw [hpending] at hsent
    constructor
    · constructor
      case stored => exact h.stored
      case sent =>
        dsimp only [Feed.send]
        rw [Option.toList_none, List.append_nil]
        exact hsent
      case client => exact h.client.mono List.prefix_rfl (List.prefix_append _ _)
    · unfold left
      dsimp only [Feed.send]
      rw [hpending, Option.toList_none, Option.toList_some, List.length_nil, List.length_singleton]
      omega
  · have hstored := h.stored
    have hsent := h.sent
    rw [hcoming] at hstored
    rw [hpending, Option.toList_none, List.append_nil] at hsent
    constructor
    · constructor
      case stored =>
        dsimp only [Feed.store]
        rw [List.append_assoc]
        exact hstored
      case sent =>
        dsimp only [Feed.store]
        rw [Option.toList_some, hsent]
      case client => exact h.client.mono (List.prefix_append _ _) List.prefix_rfl
    · have hlength : (s.feed.stored ++ [e]).length + rest.length =
          s.feed.stored.length + (e :: rest).length := by
        rw [List.length_append, List.length_singleton, List.length_cons]
        omega
      unfold left
      dsimp only [Feed.store]
      rw [hlength, hpending, hcoming, Option.toList_none, Option.toList_some, List.length_nil,
        List.length_singleton, List.length_cons]
      omega

/-- A step of a client that keeps up. -/
theorem step {c : Client ε} (h : s.Held isFinal es) (hbehind : s.behind ≤ capacity)
    (hc : s.client.step? isFinal s.feed = some c) : c.Sound isFinal s.feed ∧
      c.left (s.feed.stored.length + s.coming.length) <
        s.client.left (s.feed.stored.length + s.coming.length) := by
  have hsound := h.client
  have hlength : s.feed.sent.length ≤ s.feed.stored.length := h.prefix_sent.length_le
  generalize hn : s.feed.stored.length + s.coming.length = n
  unfold behind at hbehind
  cases hclient : s.client with
  | away =>
    rw [hclient] at hc
    cases hc
    constructor
    · exact Nat.le_refl s.feed.sent.length
    · exact Nat.lt_succ_self (2 * n + 2)
  | listening since =>
    rw [hclient] at hc hsound
    cases hc
    constructor
    · exact Follower.Sound.start hsound hlength
    · have hleft : (Client.following (.start isFinal ⟨since, s.feed.join.replay⟩)).left n =
          s.feed.stored.length + (n - since) + 1 := rfl
      rw [hleft, Client.left]
      omega
  | following f =>
    rw [hclient] at hc hsound hbehind
    have hf : f.Sound isFinal s.feed := hsound
    obtain ⟨e, rest, hunread, rfl⟩ | ⟨hunread, hfinished, rfl⟩ | ⟨-, -, hlag, -⟩ |
      ⟨hunread, hfinished, -, e, hget, rfl⟩ := Follower.step?_eq_some hc
    · constructor
      · exact hf.read hunread
      · have hleft : (Client.following (f.read e rest)).left n =
            rest.length + (n - f.next) + 1 := rfl
        rw [hleft, Client.left, hunread, List.length_cons]
        omega
    · constructor
      · exact ⟨hf, hunread, hfinished⟩
      · exact Nat.succ_pos _
    · -- a client that keeps up has nothing to catch up on
      exact absurd hlag (Nat.not_lt.2 hbehind)
    · have hlt : f.next < s.feed.sent.length := (List.getElem?_eq_some_iff.1 hget).1
      constructor
      · exact hf.receive hunread hfinished hget
      · rw [Client.left, Client.left, Follower.next_receive, Follower.unread_receive]
        omega
  | ended f =>
    rw [hclient] at hc
    cases hc

theorem turn (h : s.Held isFinal es) (hbehind : s.behind ≤ capacity)
    (ht : s.turn? isFinal p = some t) : t.Held isFinal es ∧ t.left < s.left := by
  cases p with
  | forwarder => exact h.forward ht
  | client =>
    obtain ⟨c, hc, rfl⟩ := turn?_client_eq_some ht
    obtain ⟨hsound, hleft⟩ := h.step hbehind hc
    exact ⟨⟨h.stored, h.sent, hsound⟩, Nat.add_lt_add_left hleft _⟩

theorem play (h : s.Held isFinal es) (hkeeps : s.KeepsUp isFinal ps)
    (hplay : s.play? isFinal ps = some t) : t.Held isFinal es ∧ ps.length + t.left ≤ s.left := by
  induction ps generalizing s with
  | nil =>
    cases hplay
    exact ⟨h, Nat.le_of_eq (Nat.zero_add _)⟩
  | cons p ps ih =>
    obtain ⟨q, hq, hrest⟩ := Option.bind_eq_some_iff.1 hplay
    obtain ⟨hheld, hlt⟩ := h.turn hkeeps.1 hq
    obtain ⟨hend, hle⟩ := ih hheld (hkeeps.2 q hq) hrest
    refine ⟨hend, ?_⟩
    rw [List.length_cons]
    omega

/-- A client is not further behind than the run has events. -/
theorem behind_le (h : s.Held isFinal es) : s.behind ≤ es.length := by
  have hsent : s.feed.sent.length ≤ es.length := (h.prefix_sent.trans h.prefix_stored).length_le
  unfold behind
  cases s.client with
  | away | ended f => exact Nat.zero_le _
  | listening since => exact Nat.le_trans (Nat.sub_le _ since) hsent
  | following f => exact Nat.le_trans (Nat.sub_le _ f.next) hsent

/-- A client of a run with few events keeps up in every interleaving. -/
theorem keepsUp (h : s.Held isFinal es) (hes : es.length ≤ capacity) (ps : List Party) :
    s.KeepsUp isFinal ps := by
  have hbehind : s.behind ≤ capacity := Nat.le_trans h.behind_le hes
  induction ps generalizing s with
  | nil => exact hbehind
  | cons p ps ih =>
    refine ⟨hbehind, fun t ht => ?_⟩
    have ht' := (h.turn hbehind ht).1
    exact ih ht' (Nat.le_trans ht'.behind_le hes)

/-! ### What the client has been shown -/

theorem begun (h : s.Held isFinal es) (hes : Concluded isFinal es) :
    s.client.shown <+: es := by
  have hstored := h.prefix_stored
  have hsent := h.prefix_sent.trans hstored
  have hsound := h.client
  cases hclient : s.client with
  | away | listening since => exact List.nil_prefix
  | following f =>
    rw [hclient] at hsound
    exact Follower.Sound.begun hsound hes hstored hsent
  | ended f =>
    rw [hclient] at hsound
    exact hsound.1.begun hes hstored hsent

theorem shown_of_isEnded (h : s.Held isFinal es) (hes : Concluded isFinal es)
    (hended : s.client.isEnded = true) : s.client.shown = es := by
  have hstored := h.prefix_stored
  have hsent := h.prefix_sent.trans hstored
  have hsound := h.client
  cases hclient : s.client with
  | ended f =>
    rw [hclient] at hsound
    have hall := hsound.1.eq_of_finished hes hstored hsent hsound.2.2
    rw [hsound.2.1, List.append_nil] at hall
    exact hall
  | _ =>
    rw [hclient] at hended
    cases hended

/-- Once the final event is shown, nothing is left of the stream but its end. -/
theorem closes (h : s.Held isFinal es) (hes : Concluded isFinal es)
    (hshown : (s.client.shown.any fun e => isFinal e.2) = true) : s.client.isEnded = true ∨
      ∃ t, s.turn? isFinal .client = some t ∧ t.client.isEnded = true := by
  have hbegins := h.begun hes
  have hstored := h.prefix_stored
  have hsent := h.prefix_sent.trans hstored
  have hsound := h.client
  cases hclient : s.client with
  | away | listening since =>
    rw [hclient] at hshown
    cases hshown
  | following f =>
    right
    rw [hclient] at hsound hshown hbegins
    have hf : f.Sound isFinal s.feed := hsound
    have hfinished : f.finished = true := by
      rw [Client.shown] at hshown
      rw [hf.finished, List.any_append, hshown, Bool.true_or]
    have hall := hf.eq_of_finished hes hstored hsent hfinished
    have hunread : f.unread = [] := by
      have hwhole := hes.eq_of_prefix_of_any hbegins hshown
      rw [Client.shown] at hwhole
      rw [hwhole] at hall
      exact List.append_right_eq_self.1 hall
    have hstep : f.step? isFinal s.feed.sent = some (.ended f) := by
      rw [Follower.step?, hunread]
      exact if_pos hfinished
    refine ⟨{ s with client := .ended f }, ?_, rfl⟩
    rw [turn?, hclient, Client.step?, hstep, Option.map_some]
  | ended f => exact .inl rfl

/-- A forwarder that has no turn left has stored and sent every event. -/
theorem feed_eq_forward (h : s.Held isFinal es) (hnone : s.forward? = none) :
    s.feed = Feed.empty.forward es := by
  obtain ⟨hpending, hcoming⟩ := forward?_eq_none hnone
  have hstored : s.feed.stored = es := by
    have hall := h.stored
    rw [hcoming, List.append_nil] at hall
    exact hall
  have hsent : s.feed.sent = es := by
    have hall := h.sent
    rw [hpending, Option.toList_none, List.append_nil, hstored] at hall
    exact hall
  have hfeed : s.feed = ⟨s.feed.stored, s.feed.sent⟩ := rfl
  rw [Feed.forward_eq, hfeed, hstored, hsent]
  rfl

/-- Where nobody has a turn left, every event was sent and the stream has ended. -/
theorem ends (h : s.Held isFinal es) (hes : Concluded isFinal es)
    (hnone : ∀ p, s.turn? isFinal p = none) :
    s.feed = Feed.empty.forward es ∧ s.client.isEnded = true := by
  have hfeed := h.feed_eq_forward (hnone .forwarder)
  refine ⟨hfeed, ?_⟩
  have hstored : s.feed.stored = es := by
    rw [hfeed, Feed.forward_eq]
    rfl
  have hsent : s.feed.sent = es := by
    rw [hfeed, Feed.forward_eq]
    rfl
  have hclient : s.client.step? isFinal s.feed = none := Option.map_eq_none_iff.1 (hnone .client)
  have hsound := h.client
  cases hc : s.client with
  | away | listening since =>
    rw [hc] at hclient
    cases hclient
  | following f =>
    rw [hc] at hclient hsound
    have hf : f.Sound isFinal s.feed := hsound
    obtain ⟨-, hfinished, hnext⟩ := Follower.step?_eq_none hclient
    -- it has taken all that was sent, so the final event was among it
    have hall := hf.shown_eq_take hes (hstored ▸ List.prefix_rfl) (hsent ▸ List.prefix_rfl)
    rw [hsent] at hnext
    rw [List.take_of_length_le (Nat.le_trans hnext (Nat.le_max_right _ _))] at hall
    have hany := hf.finished
    rw [hall, hes.any, hfinished] at hany
    cases hany
  | ended f => rfl

end Held

/-- What a client that keeps up is delivered of a run with the events `es`, after the turns `ps`. -/
structure Delivers (isFinal : ε → Bool) (es : List (Nat × ε)) (ps : List Party)
    (s : Session ε) : Prop where
  /-- What it has been shown is how the events begin: each once, in their order, and none left out. -/
  begun : s.client.shown <+: es
  /-- A stream that has ended has shown all of them. -/
  whole : s.client.isEnded = true → s.client.shown = es
  /-- Once the final event is shown, nothing is left of the stream but its end. -/
  closes : (s.client.shown.any fun e => isFinal e.2) = true → s.client.isEnded = true ∨
    ∃ t, s.turn? isFinal .client = some t ∧ t.client.isEnded = true
  /-- No interleaving goes on for ever, and where nobody has a turn left the stream has ended. -/
  bounded : ps.length ≤ 4 * es.length + 3
  ends : (∀ p, s.turn? isFinal p = none) →
    s.feed = Feed.empty.forward es ∧ s.client.isEnded = true
  /-- One that waits for the next event, or whose stream has ended, has been shown what the feed
  shows. -/
  current : ∀ f, s.client = .following f ∧ f.step? isFinal s.feed.sent = none ∨
    s.client = .ended f → f.shown = s.feed.shown isFinal f.subscription

/-- The stream of a run is the run's events, wherever the client comes in between. -/
theorem delivers_play {ps : List Party} (hes : Concluded isFinal es)
    (hkeeps : (new es).KeepsUp isFinal ps) (hplay : (new es).play? isFinal ps = some s) :
    Delivers isFinal es ps s := by
  obtain ⟨hheld, hleft⟩ := (held_new isFinal es).play hkeeps hplay
  rw [left_new] at hleft
  constructor
  case begun => exact hheld.begun hes
  case whole => exact hheld.shown_of_isEnded hes
  case closes => exact hheld.closes hes
  case bounded => omega
  case ends => exact hheld.ends hes
  case current =>
    have hsound := hheld.client
    rintro f (⟨hclient, hwaits⟩ | hclient)
    · rw [hclient] at hsound
      exact Follower.Sound.shown_of_waits hsound hwaits
    · rw [hclient] at hsound
      exact hsound.1.shown_of_finished hsound.2.1 hsound.2.2

/-- A run of three events. -/
def threeEvents : List (Nat × Bool) := [(0, false), (1, false), (2, true)]

/-- The client begins to listen and looks while the second event is stored and not sent. -/
def overlapping : List Party :=
  [.forwarder, .forwarder, .forwarder, .client, .client, .forwarder, .client, .client, .client,
    .forwarder, .forwarder, .client, .client]

/-- The second event is in the replay and is sent as well, and is shown once. -/
theorem delivers_play_overlapping :
    Concluded id threeEvents ∧ (new threeEvents).KeepsUp id overlapping ∧
    ∃ s, (new threeEvents).play? id overlapping = some s ∧
      s.client = .ended ⟨⟨1, threeEvents.take 2⟩, [], 3, threeEvents, true⟩ ∧
      Delivers id threeEvents overlapping s := by
  have hes : Concluded id threeEvents :=
    ⟨by decide, [(0, false), (1, false)], (2, true), rfl, rfl, by decide⟩
  have hkeeps : (new threeEvents).KeepsUp id overlapping :=
    (held_new id threeEvents).keepsUp (by decide) overlapping
  have hplay : (new threeEvents).play? id overlapping = some ⟨[], none, ⟨threeEvents, threeEvents⟩,
      .ended ⟨⟨1, threeEvents.take 2⟩, [], 3, threeEvents, true⟩⟩ := by
    decide
  exact ⟨hes, hkeeps, _, hplay, rfl, delivers_play hes hkeeps hplay⟩

end Session

end BuildLoop.Service
