import BuildLoop.Service.Feed
import Mathlib.Data.List.Nodup

/-!
# What is shown of a feed

A client that has taken only the first `n` of the events sent has been shown what `f.upTo n` shows. One
more event sent adds itself, unless it is in the replay or a final event came before. For the events of
a run, whose ids differ and of which the last and no other is final, that is how the run begins:

    f.forward es = ⟨f.stored ++ es, f.sent ++ es⟩                                      (forward_eq)
    (f.upTo (n + 1)).shown s = (f.upTo n).shown s, or that and the event         (shown_upTo_succ_*)
    (f.upTo n).shown s = es.take (max s.replay.length n)                      (Concluded.shown_upTo)
-/

namespace BuildLoop.Feed

variable {ε : Type} {isFinal : ε → Bool} {f : Feed ε} {s : Subscription ε} {n : Nat}
  {replay l : List (Nat × ε)} {e : Nat × ε}

/-- Both what is stored and what is sent grow by what is forwarded. -/
theorem forward_eq (f : Feed ε) (es : List (Nat × ε)) :
    f.forward es = ⟨f.stored ++ es, f.sent ++ es⟩ := by
  induction es generalizing f with
  | nil =>
    rw [List.append_nil, List.append_nil]
    rfl
  | cons e rest ih =>
    have hstep : f.forward (e :: rest) = ((f.store e).send e).forward rest := rfl
    rw [hstep, ih]
    simp [store, send]

/-! ## Up to a final event -/

theorem untilFinal_append_of_any (h : (l.any fun e => isFinal e.2) = true) (r : List (Nat × ε)) :
    untilFinal isFinal (l ++ r) = untilFinal isFinal l := by
  induction l with
  | nil => cases h
  | cons e rest ih =>
    rw [List.any_cons, Bool.or_eq_true] at h
    rw [List.cons_append, untilFinal, untilFinal]
    by_cases he : isFinal e.2 = true
    · rw [if_pos he, if_pos he]
    · rw [if_neg he, if_neg he, ih (h.resolve_left he)]

theorem untilFinal_append_of_not_any (h : (l.any fun e => isFinal e.2) = false)
    (r : List (Nat × ε)) : untilFinal isFinal (l ++ r) = l ++ untilFinal isFinal r := by
  induction l with
  | nil => rfl
  | cons e rest ih =>
    rw [List.any_cons, Bool.or_eq_false_iff] at h
    rw [List.cons_append, untilFinal, h.1, if_neg Bool.false_ne_true, ih h.2, List.cons_append]

theorem any_untilFinal (l : List (Nat × ε)) :
    ((untilFinal isFinal l).any fun e => isFinal e.2) = l.any fun e => isFinal e.2 := by
  induction l with
  | nil => rfl
  | cons e rest ih =>
    rw [untilFinal]
    by_cases he : isFinal e.2 = true
    · rw [if_pos he, List.any_cons, List.any_cons, he, Bool.true_or, Bool.true_or]
    · rw [if_neg he, List.any_cons, List.any_cons, ih]

/-- Nothing is cut off where no event follows a final one. -/
theorem untilFinal_of_pairwise (h : l.Pairwise fun e _ => isFinal e.2 = false) :
    untilFinal isFinal l = l := by
  induction l with
  | nil => rfl
  | cons e rest ih =>
    rw [List.pairwise_cons] at h
    rw [untilFinal]
    by_cases he : isFinal e.2 = true
    · have hrest : rest = [] := by
        refine List.eq_nil_iff_forall_not_mem.2 fun x hx => ?_
        rw [h.1 x hx] at he
        cases he
      rw [if_pos he, hrest]
    · rw [if_neg he, ih h.2]

/-! ## What comes live -/

theorem live_append_of_over
    (h : ((replay ++ live isFinal replay l).any fun e => isFinal e.2) = true)
    (r : List (Nat × ε)) : live isFinal replay (l ++ r) = live isFinal replay l := by
  rw [live, live]
  rw [List.any_append, live] at h
  by_cases hreplay : (replay.any fun e => isFinal e.2) = true
  · rw [if_pos hreplay, if_pos hreplay]
  · rw [if_neg hreplay, any_untilFinal] at h
    rw [if_neg hreplay, if_neg hreplay, List.filter_append]
    rw [Bool.or_eq_true] at h
    exact untilFinal_append_of_any (h.resolve_left hreplay) _

theorem live_concat_of_mem (h : (replay.map (·.1)).contains e.1 = true) :
    live isFinal replay (l ++ [e]) = live isFinal replay l := by
  have hfilter : ([e].filter fun e => !(replay.map (·.1)).contains e.1) = [] := by
    rw [List.filter_cons_of_neg (by rw [h]; simp), List.filter_nil]
  rw [live, live, List.filter_append, hfilter, List.append_nil]

theorem live_concat_of_notMem (h : (replay.map (·.1)).contains e.1 = false)
    (hover : ((replay ++ live isFinal replay l).any fun e => isFinal e.2) = false) :
    live isFinal replay (l ++ [e]) = live isFinal replay l ++ [e] := by
  have hfilter : ([e].filter fun e => !(replay.map (·.1)).contains e.1) = [e] := by
    rw [List.filter_cons_of_pos (by rw [h]; rfl), List.filter_nil]
  have hlast : untilFinal isFinal [e] = [e] :=
    untilFinal_of_pairwise (List.pairwise_singleton _ _)
  rw [List.any_append, Bool.or_eq_false_iff] at hover
  obtain ⟨hreplay, hlive⟩ := hover
  rw [live, hreplay, if_neg Bool.false_ne_true] at hlive ⊢
  rw [any_untilFinal] at hlive
  rw [live, hreplay, if_neg Bool.false_ne_true, List.filter_append, hfilter,
    untilFinal_append_of_not_any hlive, hlast]
  have hself := untilFinal_append_of_not_any hlive []
  rw [List.append_nil, untilFinal, List.append_nil] at hself
  rw [hself]

/-! ## A client that has taken the first events sent -/

/-- The feed as it is to a client that has taken `n` of the events sent. -/
def upTo (f : Feed ε) (n : Nat) : Feed ε := { f with sent := f.sent.take n }

theorem shown_upTo (f : Feed ε) (s : Subscription ε) (n : Nat) : (f.upTo n).shown isFinal s =
    s.replay ++ live isFinal s.replay ((f.sent.take n).drop s.since) := rfl

theorem upTo_length (f : Feed ε) : f.upTo f.sent.length = f := by
  rw [upTo, List.take_length]

/-- A feed that stores and sends more looks the same to it. -/
theorem shown_upTo_mono {f' : Feed ε} (h : f.sent <+: f'.sent) (hn : n ≤ f.sent.length) :
    (f'.upTo n).shown isFinal s = (f.upTo n).shown isFinal s := by
  obtain ⟨r, hr⟩ := h
  rw [shown_upTo, shown_upTo, ← hr, List.take_append_of_le_length hn]

/-- A client that has taken nothing has its replay. -/
theorem shown_upTo_since (f : Feed ε) (s : Subscription ε) :
    (f.upTo s.since).shown isFinal s = s.replay := by
  have hnone : (f.sent.take s.since).drop s.since = [] :=
    List.drop_eq_nil_of_le (List.length_take_le _ _)
  rw [shown_upTo, hnone, live, List.filter_nil, untilFinal, ite_self, List.append_nil]

theorem drop_take_succ {sent : List (Nat × ε)} {since : Nat} (hget : sent[n]? = some e)
    (hsince : since ≤ n) :
    (sent.take (n + 1)).drop since = (sent.take n).drop since ++ [e] := by
  have hn : n < sent.length := (List.getElem?_eq_some_iff.1 hget).1
  rw [List.take_add_one, hget, Option.toList_some, List.drop_append_of_le_length]
  rw [List.length_take]
  omega

/-- An event of the replay is not shown again. -/
theorem shown_upTo_succ_of_mem (hget : f.sent[n]? = some e) (hsince : s.since ≤ n)
    (hmem : (s.replay.map (·.1)).contains e.1 = true) :
    (f.upTo (n + 1)).shown isFinal s = (f.upTo n).shown isFinal s := by
  rw [shown_upTo, shown_upTo, drop_take_succ hget hsince, live_concat_of_mem hmem]

/-- Another one is shown, unless the stream is over. -/
theorem shown_upTo_succ_of_notMem (hget : f.sent[n]? = some e) (hsince : s.since ≤ n)
    (hmem : (s.replay.map (·.1)).contains e.1 = false)
    (hover : (((f.upTo n).shown isFinal s).any fun e => isFinal e.2) = false) :
    (f.upTo (n + 1)).shown isFinal s = (f.upTo n).shown isFinal s ++ [e] := by
  rw [shown_upTo] at hover
  rw [shown_upTo, shown_upTo, drop_take_succ hget hsince, live_concat_of_notMem hmem hover,
    List.append_assoc]

/-- After a final event nothing more is shown, however much is sent. -/
theorem shown_of_over (hn : n ≤ f.sent.length) (hsince : s.since ≤ n)
    (hover : (((f.upTo n).shown isFinal s).any fun e => isFinal e.2) = true) :
    f.shown isFinal s = (f.upTo n).shown isFinal s := by
  have hdrop : f.sent.drop s.since = (f.sent.take n).drop s.since ++ f.sent.drop n := by
    conv => lhs; rw [← List.take_append_drop n f.sent]
    rw [List.drop_append_of_le_length]
    rw [List.length_take]
    omega
  rw [shown_upTo] at hover
  rw [shown_upTo, shown, hdrop, live_append_of_over hover]

/-! ## The events of a run -/

/-- The events of a run that has ended: their ids differ, and the last of them, and no other, is
final. -/
structure Concluded (isFinal : ε → Bool) (es : List (Nat × ε)) : Prop where
  distinct : (es.map (·.1)).Nodup
  ends : ∃ init last, es = init ++ [last] ∧ isFinal last.2 = true ∧
    ∀ e ∈ init, isFinal e.2 = false

namespace Concluded

variable {es : List (Nat × ε)} {m since : Nat}

/-- No event follows a final one. -/
theorem pairwise (h : Concluded isFinal es) : es.Pairwise fun e _ => isFinal e.2 = false := by
  obtain ⟨init, last, rfl, -, hinit⟩ := h.ends
  rw [List.pairwise_append]
  refine ⟨?_, List.pairwise_singleton _ _, fun e he _ _ => hinit e he⟩
  exact List.pairwise_of_forall_mem_list fun e he _ _ => hinit e he

theorem any (h : Concluded isFinal es) : (es.any fun e => isFinal e.2) = true := by
  obtain ⟨init, last, rfl, hlast, -⟩ := h.ends
  exact List.any_eq_true.2 ⟨last, List.mem_append_right _ (List.mem_singleton_self _), hlast⟩

/-- Only all of the events have a final one among them. -/
theorem length_le_of_any_take (h : Concluded isFinal es)
    (hany : ((es.take m).any fun e => isFinal e.2) = true) : es.length ≤ m := by
  obtain ⟨init, last, rfl, -, hinit⟩ := h.ends
  obtain ⟨e, he, hfinal⟩ := List.any_eq_true.1 hany
  rw [List.length_append, List.length_singleton]
  by_contra hlt
  rw [List.take_append_of_le_length (by omega)] at he
  rw [hinit e (List.mem_of_mem_take he)] at hfinal
  cases hfinal

theorem eq_of_prefix_of_any (h : Concluded isFinal es) (hbegins : l <+: es)
    (hany : (l.any fun e => isFinal e.2) = true) : l = es := by
  have htake : l = es.take l.length := List.prefix_iff_eq_take.1 hbegins
  rw [htake] at hany
  exact hbegins.eq_of_length_le (h.length_le_of_any_take hany)

/-- Of what is sent from `since` on, what is not among the first `m` events is what comes after
them. -/
theorem filter_drop_take (h : Concluded isFinal es) (hsince : since ≤ m) :
    (((es.take n).drop since).filter fun e => !((es.take m).map (·.1)).contains e.1) =
      (es.take n).drop m := by
  have hsplit : (es.take n).drop since =
      ((es.take m).take n).drop since ++ (es.take n).drop m := by
    conv => lhs; rw [← List.take_append_drop (m - since) ((es.take n).drop since)]
    rw [List.take_drop, List.drop_drop, Nat.add_sub_cancel' hsince, List.take_take, List.take_take,
      Nat.min_comm]
  have hold : ((((es.take m).take n).drop since).filter
      fun e => !((es.take m).map (·.1)).contains e.1) = [] := by
    refine List.filter_eq_nil_iff.2 fun e he => ?_
    have hin : e.1 ∈ (es.take m).map (·.1) :=
      List.mem_map_of_mem (List.mem_of_mem_take (List.mem_of_mem_drop he))
    rw [List.contains_eq_mem, decide_eq_true hin]
    exact Bool.false_ne_true
  have hnew : (((es.take n).drop m).filter
      fun e => !((es.take m).map (·.1)).contains e.1) = (es.take n).drop m := by
    refine List.filter_eq_self.2 fun e he => ?_
    rw [List.drop_take] at he
    have hmem : e.1 ∈ (es.map (·.1)).drop m := by
      rw [← List.map_drop]
      exact List.mem_map_of_mem (List.mem_of_mem_take he)
    have hnot : e.1 ∉ (es.map (·.1)).take m := fun hin =>
      List.disjoint_take_drop h.distinct (Nat.le_refl m) hin hmem
    rw [← List.map_take] at hnot
    rw [Bool.not_eq_true', List.contains_eq_mem, decide_eq_false hnot]
  rw [hsplit, List.filter_append, hold, hnew, List.nil_append]

theorem take_append_drop_take (es : List (Nat × ε)) (m n : Nat) :
    es.take m ++ (es.take n).drop m = es.take (max m n) := by
  rcases Nat.le_total m n with hle | hle
  · have htake : es.take m = (es.take n).take m := by
      rw [List.take_take, Nat.min_eq_left hle]
    rw [htake, List.take_append_drop, Nat.max_eq_right hle]
  · have hnone : (es.take n).drop m = [] :=
      List.drop_eq_nil_of_le (Nat.le_trans (List.length_take_le _ _) hle)
    rw [hnone, List.append_nil, Nat.max_eq_left hle]

/-- Whatever a client took when it joined, what it has been shown is how the run begins. -/
theorem shown_upTo (h : Concluded isFinal es) (hsent : f.sent <+: es) (hreplay : s.replay <+: es)
    (hsince : s.since ≤ s.replay.length) (hn : n ≤ f.sent.length) :
    (f.upTo n).shown isFinal s = es.take (max s.replay.length n) := by
  have htake : f.sent.take n = es.take n := by
    obtain ⟨r, rfl⟩ := hsent
    rw [List.take_append_of_le_length hn]
  generalize hm : s.replay.length = m at hsince ⊢
  have hbegins : s.replay = es.take m := by
    rw [← hm]
    exact List.prefix_iff_eq_take.1 hreplay
  rw [Feed.shown_upTo, htake, hbegins, live]
  by_cases hover : ((es.take m).any fun e => isFinal e.2) = true
  · have hlen : es.length ≤ m := h.length_le_of_any_take hover
    rw [if_pos hover, List.append_nil, List.take_of_length_le hlen,
      List.take_of_length_le (Nat.le_trans hlen (Nat.le_max_left m n))]
  · have hrest : ((es.take n).drop m).Pairwise fun e _ => isFinal e.2 = false :=
      h.pairwise.sublist ((List.drop_sublist _ _).trans (List.take_sublist _ _))
    rw [if_neg hover, h.filter_drop_take hsince, untilFinal_of_pairwise hrest,
      take_append_drop_take]

end Concluded

end BuildLoop.Feed
