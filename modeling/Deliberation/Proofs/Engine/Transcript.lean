import Deliberation.Proofs.Engine.Complete
import Deliberation.Proofs.Engine.Debating
import Deliberation.Proofs.Outcome.Sound
import Deliberation.Proofs.Run.Calm
import Deliberation.Proofs.Run.Instant
import Mathlib.Data.List.Find

namespace Deliberation.Engine.Debating

open Run Debate

variable {e : Surroundings} {l : List Query} {t : Task} {names : List String}

theorem speak_ends (he : ¬ e.cancels) {name soFar : String} {round id : Nat}
    {o : Outcome (Nat × Speech)} (h : (speak t soFar round name id).Ends e l o) :
    l = [.complete (debaterRequest t name soFar round)] := by
  rcases Process.ends_bind h with ⟨x, m, n, rfl, hm, hn⟩ | ⟨text, -, hp⟩
  · cases hn
    rw [complete_ends he hm]
    rfl
  · exact complete_ends he hp

def spoken (a : Except Failure (Except Failure Completion)) : Speech :=
  (a.bind id).map Completion.text

theorem speak_says (he : ¬ e.cancels) {name soFar : String} {round id : Nat} {x : Nat × Speech}
    (h : (speak t soFar round name id).Ends e l (.value x)) :
    ∃ a, e.answers (.complete (debaterRequest t name soFar round)) a ∧ x.2 = spoken a := by
  obtain ⟨y, m, n, rfl, hm, hn⟩ := Process.ends_bind_value h
  obtain ⟨a, ha, rfl⟩ := (call_ends he hm).2 y rfl
  cases hn
  exact ⟨a, ha, rfl⟩

theorem speak_panics (he : ¬ e.cancels) {name soFar : String} {round id : Nat} {text : String}
    (h : (speak t soFar round name id).Ends e l (.panic text)) :
    e.panics (.complete (debaterRequest t name soFar round)) text := by
  have hu : (speak t soFar round name id).Unbroken := .bind (.guarded fun _ => .done _) fun _ =>
    .done _
  obtain ⟨q, hq, hpanics⟩ := hu.panics h
  rw [speak_ends he h, List.mem_singleton] at hq
  exact hq ▸ hpanics

theorem spoken_uncancelled (he : Steadfast e) {r : Request}
    {a : Except Failure (Except Failure Completion)} (ha : e.answers (.complete r) a) :
    spoken a ≠ .error .cancelled := by
  cases a with
  | error f =>
    rintro ⟨⟩
    exact he.guarded _ ha
  | ok y =>
    cases y with
    | ok c => exact fun hx => nomatch hx
    | error f =>
      rintro ⟨⟩
      exact he.backend r ha

def debaterCalls (t : Task) (names : List String) (arguments : List Argument) (round : Nat) :
    List Query :=
  names.map fun name => .complete (debaterRequest t name (debateSoFar arguments) round)

section Speakers

variable {soFar : String} {round : Nat} {rs : List (Option (Nat × Speech))}
  {joined : List (Nat × Speech)}

theorem speakers_calls (he : ¬ e.cancels) {arguments : List Argument}
    (h : Joined e t names (debateSoFar arguments) round l rs joined) :
    l.Perm (debaterCalls t names arguments round) := by
  obtain ⟨others, hp, hothers⟩ := h.together.of_map.perm_heads (P := fun _ => False)
    fun _ _ _ _ hs => ⟨[], speak_ends he hs, fun _ hq => nomatch hq⟩
  have hcalls : names.zipIdx.map (fun x =>
      Query.complete (debaterRequest t x.1 (debateSoFar arguments) round)) =
        debaterCalls t names arguments round := by
    conv_rhs => rw [debaterCalls, ← List.zipIdx_map_fst 0 names, List.map_map]
    rfl
  rw [List.eq_nil_iff_forall_not_mem.2 hothers, List.append_nil, hcalls] at hp
  exact hp

theorem Joined.returned (h : Joined e t names soFar round l rs joined) :
    Returned (List.range names.length) joined :=
  h.together.returned (speakers_numbered t names soFar round) h.perm

theorem mem_heard {y : Nat × String × Speech} :
    y ∈ heard names joined ↔ names[y.1]? = some y.2.1 ∧ (y.1, y.2.2) ∈ joined := by
  rw [heard, List.mem_filterMap]
  constructor
  · rintro ⟨⟨id, speech⟩, hm, hy⟩
    obtain ⟨name, hname, rfl⟩ := Option.map_eq_some_iff.1 hy
    exact ⟨hname, mem_inOrder.1 hm⟩
  · rintro ⟨hname, hm⟩
    refine ⟨_, mem_inOrder.2 hm, ?_⟩
    dsimp only
    rw [hname]
    rfl

theorem ascending_heard (names : List String) (h : (joined.map Prod.fst).Nodup) :
    (heard names joined).Pairwise fun x y => x.1 < y.1 := by
  refine (ascending_inOrder h).filterMap _ fun x y hxy a ha b hb => ?_
  obtain ⟨_, -, rfl⟩ := Option.map_eq_some_iff.1 ha
  obtain ⟨_, -, rfl⟩ := Option.map_eq_some_iff.1 hb
  exact hxy

theorem speakers_uncancelled (he : Steadfast e)
    (h : Joined e t names soFar round l rs joined) :
    ∀ y ∈ heard names joined, y.2.2 ≠ .error .cancelled := by
  intro y hy
  obtain ⟨r, hr, hx⟩ := List.mem_filterMap.1 (h.perm.mem_iff.1 (mem_heard.1 hy).2)
  obtain rfl : r = some (y.1, y.2.2) := hx
  obtain ⟨_, _, _, hsaid⟩ := h.together.of_map.exists_of_mem hr
  obtain ⟨a, ha, hspeech⟩ := speak_says he.uncancelled hsaid
  rw [show y.2.2 = spoken a from hspeech]
  exact spoken_uncancelled he ha

end Speakers

theorem argument?_eq_some {round : Nat} {y : Nat × String × Speech} {a : Argument}
    (h : argument? round y = some a) : a.round = round ∧ a.debaterId = y.1 ∧
      a.perspective = y.2.1 ∧ Text.blankString a.argument = false := by
  obtain ⟨id, name, speech⟩ := y
  cases speech with
  | error f => cases h
  | ok text =>
    rw [argument?] at h
    split at h
    · cases h
    · next hb =>
      cases h
      exact ⟨rfl, rfl, rfl, Bool.eq_false_iff.2 hb⟩

/-- How a debater comes by its argument in a round: by what a reply says, unless it is blank or the
call fails. -/
inductive Speaks (e : Surroundings) (t : Task) (soFar : String) (round id : Nat) (name : String) :
    Option Argument → Prop
  | replied {a : Except Failure (Except Failure Completion)}
      (ha : e.answers (.complete (debaterRequest t name soFar round)) a) :
      Speaks e t soFar round id name (argument? round (id, name, spoken a))
  | lost {text : String} (ht : e.panics (.complete (debaterRequest t name soFar round)) text) :
      Speaks e t soFar round id name none

def argumentOf? (arguments : List Argument) (round id : Nat) : Option Argument :=
  arguments.find? fun a => a.round == round && a.debaterId == id

structure Transcript (e : Surroundings) (t : Task) (names : List String) (held : List (List Query))
    (arguments : List Argument) : Prop where
  barred : ∀ (r : Nat) (calls : List Query), held[r]? = some calls →
    calls.Perm (debaterCalls t names (arguments.filter fun a => a.round < r) r)
  ordered : arguments.Pairwise fun a b =>
    a.round < b.round ∨ a.round = b.round ∧ a.debaterId < b.debaterId
  entered : ∀ a ∈ arguments, a.round < held.length ∧ names[a.debaterId]? = some a.perspective ∧
    Text.trimString a.argument ≠ ""
  said : ∀ r < held.length, ∀ id name, names[id]? = some name →
    Speaks e t (debateSoFar (arguments.filter fun a => a.round < r)) r id name
      (argumentOf? arguments r id)

theorem transcript_nil (e : Surroundings) (t : Task) (names : List String) :
    Transcript e t names [] [] :=
  ⟨fun _ _ h => (nomatch h), .nil, fun _ h => (nomatch h), fun _ h => nomatch h⟩

structure Entries (e : Surroundings) (t : Task) (names : List String) (soFar : String)
    (round : Nat) (as : List Argument) : Prop where
  ascending : as.Pairwise fun a b => a.debaterId < b.debaterId
  entered : ∀ a ∈ as, a.round = round ∧ names[a.debaterId]? = some a.perspective ∧
    Text.trimString a.argument ≠ ""
  said : ∀ id name, names[id]? = some name →
    Speaks e t soFar round id name (as.find? fun a => a.debaterId == id)

section Entries

variable {round : Nat}

theorem find?_arguments_eq_none {hs : List (Nat × String × Speech)} {id : Nat}
    (h : ∀ y ∈ hs, y.1 ≠ id) :
    (hs.filterMap (argument? round)).find? (fun a => a.debaterId == id) = none := by
  refine List.find?_eq_none.2 fun a ha he => ?_
  obtain ⟨y, hy, ha⟩ := List.mem_filterMap.1 ha
  exact h y hy ((argument?_eq_some ha).2.1.symm.trans (eq_of_beq he))

theorem find?_arguments {hs : List (Nat × String × Speech)}
    (h : hs.Pairwise fun x y => x.1 < y.1) {y : Nat × String × Speech} (hy : y ∈ hs) :
    (hs.filterMap (argument? round)).find? (fun a => a.debaterId == y.1) = argument? round y := by
  induction hs with
  | nil => cases hy
  | cons x hs ih =>
    obtain ⟨hx, h⟩ := List.pairwise_cons.1 h
    rw [List.filterMap_cons]
    rcases List.mem_cons.1 hy with rfl | hy
    · cases ha : argument? round y with
      | none => exact find?_arguments_eq_none fun z hz => Nat.ne_of_gt (hx z hz)
      | some a => exact List.find?_cons_of_pos (beq_iff_eq.2 (argument?_eq_some ha).2.1)
    · cases ha : argument? round x with
      | none => exact ih h hy
      | some a =>
        have hne : a.debaterId ≠ y.1 := by
          rw [(argument?_eq_some ha).2.1]
          exact Nat.ne_of_lt (hx y hy)
        exact (List.find?_cons_of_neg (by simpa using hne)).trans (ih h hy)

theorem entries_heard (he : Steadfast e) {soFar : String} {rs : List (Option (Nat × Speech))}
    {joined : List (Nat × Speech)} (h : Joined e t names soFar round l rs joined) :
    Entries e t names soFar round ((heard names joined).filterMap (argument? round)) := by
  have hasc := ascending_heard names (h.returned.nodup List.nodup_range)
  refine ⟨?_, fun a ha => ?_, fun id name hname => ?_⟩
  · refine hasc.filterMap _ fun x y hxy a ha b hb => ?_
    obtain ⟨-, hx, -⟩ := argument?_eq_some ha
    obtain ⟨-, hy, -⟩ := argument?_eq_some hb
    rw [hx, hy]
    exact hxy
  · obtain ⟨y, hy, ha⟩ := List.mem_filterMap.1 ha
    obtain ⟨hr, hi, hp, hb⟩ := argument?_eq_some ha
    refine ⟨hr, ?_, fun ht => Bool.eq_false_iff.1 hb (Text.trimString_eq_empty_iff.1 ht)⟩
    rw [hi, hp]
    exact (mem_heard.1 hy).1
  · obtain ⟨hid, -⟩ := List.getElem?_eq_some_iff.1 hname
    have hspeaker : (id, speak t soFar round name id) ∈
        (List.range names.length).zip (speakers t names soFar round) := by
      refine List.mem_of_getElem? (i := id) (List.getElem?_zip_eq_some.2 ⟨?_, ?_⟩)
      · rw [List.getElem?_range hid]
      · rw [speakers, List.getElem?_map, List.getElem?_zipIdx, hname, Nat.zero_add]
        rfl
    obtain ⟨x, _, hx, hm⟩ | ⟨⟨text, _, hpanic⟩, hm⟩ := h.together.returned_or_lost
      List.nodup_range (speakers_numbered t names soFar round) h.perm hspeaker
    · obtain ⟨a, ha, rfl⟩ := speak_says he.uncancelled hx
      have hy : (id, name, spoken a) ∈ heard names joined := mem_heard.2 ⟨hname, hm⟩
      rw [show id = (id, name, spoken a).1 from rfl, find?_arguments hasc hy]
      exact .replied ha
    · rw [find?_arguments_eq_none fun y hy hi => ?_]
      · exact .lost (speak_panics he.uncancelled hpanic)
      · exact hm (hi ▸ List.mem_map_of_mem (mem_heard.1 hy).2)

end Entries

section Extend

variable {held : List (List Query)} {arguments as : List Argument} {soFar : String}
  {round r id : Nat}

theorem Entries.filter_before (ha : Entries e t names soFar round as) (hr : r ≤ round) :
    (arguments ++ as).filter (fun a => a.round < r) = arguments.filter fun a => a.round < r := by
  have hnone : (as.filter fun a => a.round < r) = [] := by
    refine List.filter_eq_nil_iff.2 fun a hm => ?_
    rw [(ha.entered a hm).1]
    simpa using hr
  rw [List.filter_append, hnone, List.append_nil]

theorem Entries.argumentOf?_before (ha : Entries e t names soFar round as) (hr : r < round) :
    argumentOf? (arguments ++ as) r id = argumentOf? arguments r id := by
  have hnone : as.find? (fun a => a.round == r && a.debaterId == id) = none := by
    refine List.find?_eq_none.2 fun a hm he => ?_
    rw [← (ha.entered a hm).1, eq_of_beq (Bool.and_eq_true_iff.1 he).1] at hr
    exact Nat.lt_irrefl r hr
  rw [argumentOf?, List.find?_append, hnone, Option.or_none, argumentOf?]

theorem Transcript.filter_held (h : Transcript e t names held arguments) :
    (arguments.filter fun a => a.round < held.length) = arguments :=
  List.filter_eq_self.2 fun a hm => decide_eq_true (h.entered a hm).1

theorem Transcript.argumentOf?_held (h : Transcript e t names held arguments)
    (ha : Entries e t names soFar held.length as) :
    argumentOf? (arguments ++ as) held.length id = as.find? fun a => a.debaterId == id := by
  have hnone : arguments.find? (fun a => a.round == held.length && a.debaterId == id) = none := by
    refine List.find?_eq_none.2 fun a hm he => ?_
    have hlt := (h.entered a hm).1
    rw [eq_of_beq (Bool.and_eq_true_iff.1 he).1] at hlt
    exact Nat.lt_irrefl _ hlt
  have hround : as.find? (fun a => a.round == held.length && a.debaterId == id) =
      as.find? fun a => a.debaterId == id := by
    refine List.find?_congr fun a hm => ?_
    rw [(ha.entered a hm).1, beq_self_eq_true, Bool.true_and]
  rw [argumentOf?, List.find?_append, hnone, Option.none_or, hround]

theorem Transcript.ordered_extend (h : Transcript e t names held arguments)
    (ha : Entries e t names soFar held.length as) :
    (arguments ++ as).Pairwise fun a b =>
      a.round < b.round ∨ a.round = b.round ∧ a.debaterId < b.debaterId := by
  refine List.pairwise_append.2 ⟨h.ordered, ?_, fun a hm b hb => ?_⟩
  · refine ha.ascending.imp_of_mem fun hx hy hxy => .inr ⟨?_, hxy⟩
    rw [(ha.entered _ hx).1, (ha.entered _ hy).1]
  · rw [(ha.entered b hb).1]
    exact .inl (h.entered a hm).1

theorem Transcript.extend (h : Transcript e t names held arguments)
    (ha : Entries e t names (debateSoFar arguments) held.length as)
    (hl : l.Perm (debaterCalls t names arguments held.length)) :
    Transcript e t names (held ++ [l]) (arguments ++ as) := by
  have hlength : (held ++ [l]).length = held.length + 1 := List.length_append
  refine ⟨fun r calls hr => ?_, h.ordered_extend ha, fun a hm => ?_, fun r hr id name hname => ?_⟩
  · rcases Nat.lt_or_ge r held.length with hlt | hge
    · rw [List.getElem?_append_left hlt] at hr
      rw [ha.filter_before (Nat.le_of_lt hlt)]
      exact h.barred r calls hr
    · obtain ⟨rfl, rfl⟩ : r = held.length ∧ calls = l := by
        rw [List.getElem?_append_right hge, List.getElem?_singleton] at hr
        split at hr
        · next h0 => exact ⟨by omega, (Option.some.inj hr).symm⟩
        · cases hr
      rw [ha.filter_before (Nat.le_refl _), h.filter_held]
      exact hl
  · rw [hlength]
    rcases List.mem_append.1 hm with hm | hm
    · obtain ⟨hr, hn⟩ := h.entered a hm
      exact ⟨Nat.lt_succ_of_lt hr, hn⟩
    · obtain ⟨hr, hn⟩ := ha.entered a hm
      exact ⟨hr ▸ Nat.lt_succ_self _, hn⟩
  · rw [hlength, Nat.lt_succ_iff] at hr
    rw [ha.filter_before hr]
    rcases Nat.lt_or_eq_of_le hr with hlt | rfl
    · rw [ha.argumentOf?_before hlt]
      exact h.said r hlt id name hname
    · rw [h.argumentOf?_held ha, h.filter_held]
      exact ha.said id name hname

end Extend

structure Kept (e : Surroundings) (t : Task) (names : List String) (held : List (List Query))
    (s : State) : Prop where
  transcript : Transcript e t names held s.arguments
  traced : s.trace = Trace.empty.recordAll .argue (s.arguments.map Argument.line)
  fruitful : ∀ r < held.length, ∃ a ∈ s.arguments, a.round = r

theorem kept_start (e : Surroundings) (t : Task) (names : List String) :
    Kept e t names [] .start where
  transcript := transcript_nil e t names
  traced := rfl
  fruitful := fun _ h => nomatch h

theorem kept_addAll {held : List (List Query)} {s : State} {as : List Argument}
    (h : Kept e t names held s)
    (ha : Entries e t names (debateSoFar s.arguments) held.length as) (hn : as ≠ [])
    (hl : l.Perm (debaterCalls t names s.arguments held.length)) :
    Kept e t names (held ++ [l]) (s.addAll as) where
  transcript := h.transcript.extend ha hl
  traced := by
    simp [State.addAll, h.traced, Trace.recordAll]
  fruitful := by
    intro r hr
    rw [List.length_append, List.length_singleton] at hr
    rcases Nat.lt_succ_iff_lt_or_eq.1 hr with hr | rfl
    · obtain ⟨a, hm, hr⟩ := h.fruitful r hr
      exact ⟨a, List.mem_append_left _ hm, hr⟩
    · obtain ⟨a, hm⟩ := List.exists_mem_of_ne_nil as hn
      exact ⟨a, List.mem_append_right _ hm, (ha.entered a hm).1⟩

theorem rounds_uncancelled (he : Steadfast e) {left round : Nat} {s : State}
    {o : Outcome (State × Option Failure)}
    (h : (rounds t names (left + 1) round s).Ends e l o) :
    ∃ m n as, l = m ++ n ∧ m.Perm (debaterCalls t names s.arguments round) ∧
      Entries e t names (debateSoFar s.arguments) round as ∧
        ((as = [] ∧ n = [] ∧ ∃ x, o = .value (s, some x)) ∨
          (as ≠ [] ∧ (rounds t names left (round + 1) (s.addAll as)).Ends e n o)) := by
  rcases rounds_ends h with ⟨-, hc⟩ | ⟨rs, joined, m, n, rfl, hw, s₁, x, gaveUp, ht, h⟩
  · exact absurd hc he.uncancelled
  · have ha := entries_heard he hw
    obtain ⟨x', hx⟩ : ∃ x', takeIn round (heard names joined) s none =
        (s.addAll ((heard names joined).filterMap (argument? round)), x', false) :=
      takeIn_uncancelled (speakers_uncancelled he hw)
    generalize (heard names joined).filterMap (argument? round) = as at ha hx
    cases ht.symm.trans hx
    refine ⟨m, n, as, rfl, speakers_calls he.uncancelled hw, ha, ?_⟩
    rcases h with ⟨hg, -⟩ | ⟨-, hlen, rfl, rfl⟩ | ⟨-, hlen, h⟩
    · cases hg
    · obtain rfl : as = [] := by simpa [State.addAll] using hlen
      rw [State.addAll_nil]
      exact .inl ⟨rfl, rfl, _, rfl⟩
    · refine .inr ⟨?_, h⟩
      rintro rfl
      exact hlen (by rw [State.addAll_nil])

-- By induction on the rounds left: each is held and enters something, or it is the last one.
theorem rounds_kept (he : Steadfast e) {left : Nat} {held : List (List Query)} {s : State}
    {o : Outcome (State × Option Failure)} (hs : Kept e t names held s)
    (h : (rounds t names left held.length s).Ends e l o) :
    ∃ s' more, Kept e t names (held ++ more) s' ∧
      ((o = .value (s', none) ∧ l = more.flatten ∧ more.length = left) ∨
        ∃ x last, o = .value (s', some x) ∧ l = more.flatten ++ last ∧ more.length < left ∧
          last.Perm (debaterCalls t names s'.arguments (held ++ more).length) ∧
            Entries e t names (debateSoFar s'.arguments) (held ++ more).length []) := by
  induction left generalizing l held s with
  | zero =>
    cases h
    exact ⟨s, [], by rwa [List.append_nil], .inl ⟨rfl, rfl, rfl⟩⟩
  | succ left ih =>
    obtain ⟨m, n, as, rfl, hm, ha, ⟨rfl, rfl, x, rfl⟩ | ⟨hn, h⟩⟩ := rounds_uncancelled he h
    · refine ⟨s, [], by rwa [List.append_nil], .inr ⟨x, m, rfl, ?_, Nat.succ_pos _, ?_⟩⟩
      · rw [List.append_nil, List.flatten_nil, List.nil_append]
      · rw [List.append_nil]
        exact ⟨hm, ha⟩
    · have hlen : (held ++ [m]).length = held.length + 1 := by
        rw [List.length_append, List.length_singleton]
      obtain ⟨s', more, hmore, hend⟩ := ih (kept_addAll hs ha hn hm) (hlen ▸ h)
      rw [List.append_assoc] at hmore
      refine ⟨s', m :: more, hmore, ?_⟩
      rcases hend with ⟨rfl, rfl, rfl⟩ | ⟨x, last, rfl, rfl, hlt, hlast, hsilent⟩
      · exact .inl ⟨rfl, rfl, rfl⟩
      · refine .inr ⟨x, last, rfl, ?_, Nat.succ_lt_succ hlt, ?_⟩
        · rw [List.flatten_cons, List.append_assoc]
        · rw [List.append_assoc] at hlast hsilent
          exact ⟨hlast, hsilent⟩

theorem judge_ends (he : ¬ e.cancels) {arguments : List Argument}
    {o : Outcome (Option Verdict)} (h : (judge t arguments).Ends e l o) :
    l = [.complete (judgeRequest t arguments)] := by
  rcases Process.ends_bind h with ⟨x, m, n, rfl, hm, hn⟩ | ⟨text, -, hp⟩
  · have hd : n = [] := by
      split at hn <;> cases hn <;> rfl
    rw [complete_ends he hm, hd]
    rfl
  · exact complete_ends he hp

theorem contents_argue {t : Trace} {lines : List String}
    (h : t = Trace.empty.recordAll .argue lines) :
    (t.stepsIn .argue).map Step.content = lines := by
  subst h
  have hf : (lines.map (Step.mk .argue)).filter (fun s => s.stage == .argue) =
      lines.map (Step.mk .argue) := List.filter_eq_self.2 fun s hs => by
    obtain ⟨line, -, rfl⟩ := List.mem_map.1 hs
    rfl
  rw [Trace.stepsIn, Trace.recordAll, Trace.empty, List.nil_append, hf, List.map_map]
  exact List.map_id _

theorem stepsIn_record {t : Trace} {stage stage' : Stage} (h : stage' ≠ stage) (content : String) :
    (t.record stage' content).stepsIn stage = t.stepsIn stage := by
  simp [Trace.stepsIn, List.filter_append, h]

def Shown (r : Report) (arguments : List Argument) : Prop :=
  r.arguments = arguments ∧
    separator.intercalate ((r.result.trace.stepsIn .argue).map Step.content) = history arguments

theorem shown_of_record {r : Report} {s : State} {stage : Stage} {text : String}
    (hs : s.trace = Trace.empty.recordAll .argue (s.arguments.map Argument.line))
    (ha : r.arguments = s.arguments) (hr : r.result.trace = s.trace.record stage text)
    (hn : stage ≠ .argue) : Shown r s.arguments := by
  refine ⟨ha, ?_⟩
  rw [hr, stepsIn_record hn, contents_argue hs, history]

theorem trace_abort (s : State) (f : Failure) :
    ∃ text, (abort s f).trace = s.trace.record .halt text := by
  cases f <;> exact ⟨_, Result.trace_build (Trace.record_ne_nil _ _ _)⟩

theorem trace_conclude (s : State) (v : Option Verdict) :
    ∃ stage text, stage ≠ .argue ∧ (conclude s v).result.trace = s.trace.record stage text := by
  cases v with
  | none => exact ⟨.halt, _, by decide, Result.trace_build (Trace.record_ne_nil _ _ _)⟩
  | some v => exact ⟨.judge, _, by decide, Result.trace_build (Trace.record_ne_nil _ _ _)⟩

theorem arguments_conclude (s : State) (v : Option Verdict) :
    (conclude s v).arguments = s.arguments := by
  cases v <;> rfl

structure Course (e : Surroundings) (t : Task) (names : List String) (limit : Nat) (l : List Query)
    (out : Outcome Report) (arguments : List Argument) (held : List (List Query))
    (judging : List Query) : Prop where
  calls : l = held.flatten ++ judging
  transcript : Transcript e t names held arguments
  fruitful : ∀ r, r + 1 < held.length → ∃ a ∈ arguments, a.round = r
  ending :
    (held.length = limit ∧ (∃ a ∈ arguments, a.round + 1 = held.length) ∧
        judging = [.complete (judgeRequest t arguments)]) ∨
      (held ≠ [] ∧ held.length ≤ limit ∧ (∀ a ∈ arguments, a.round + 1 < held.length) ∧
        judging = [] ∧ ∃ r, out = .value r ∧ r.verdict = none)
  reported : ∀ r, out = .value r → Shown r arguments

theorem course_silent {held : List (List Query)} {last : List Query} {s : State} {limit : Nat}
    (hk : Kept e t names held s) (x : Failure) (hlt : held.length < limit)
    (hlast : last.Perm (debaterCalls t names s.arguments held.length))
    (hsilent : Entries e t names (debateSoFar s.arguments) held.length []) :
    Course e t names limit (held.flatten ++ last)
      (.value ⟨abort s x, s.arguments, none⟩) s.arguments (held ++ [last]) [] where
  calls := by
    rw [List.flatten_append, List.flatten_singleton, List.append_nil]
  transcript := by
    have ht : Transcript e t names (held ++ [last]) (s.arguments ++ []) :=
      hk.transcript.extend hsilent hlast
    rwa [List.append_nil] at ht
  fruitful := by
    intro r hr
    rw [List.length_append, List.length_singleton] at hr
    exact hk.fruitful r (Nat.lt_of_succ_lt_succ hr)
  ending := by
    have hne : held ++ [last] ≠ [] := List.append_ne_nil_of_right_ne_nil _ (List.cons_ne_nil _ _)
    refine .inr ⟨hne, ?_, ?_, rfl, _, rfl, rfl⟩
    · rw [List.length_append, List.length_singleton]
      exact hlt
    · intro a ha
      rw [List.length_append, List.length_singleton]
      exact Nat.succ_lt_succ (hk.transcript.entered a ha).1
  reported := by
    rintro r ⟨⟩
    obtain ⟨text, hx⟩ := trace_abort s x
    exact shown_of_record hk.traced rfl hx (by decide)

theorem course_judged (he : Steadfast e) {held : List (List Query)} {s : State}
    {out : Outcome Report} (hk : Kept e t names held s) (hpos : 0 < held.length)
    (h : (Program.bind (Program.ofProcess (judge t s.arguments) : Program (Nat × Speech) _) fun v =>
      .done (conclude s v)).Ends e l out) :
    Course e t names held.length (held.flatten ++ l) out s.arguments held l where
  calls := rfl
  transcript := hk.transcript
  fruitful := fun r hr => hk.fruitful r (Nat.lt_of_succ_lt hr)
  ending := by
    refine .inl ⟨rfl, ?_, ?_⟩
    · obtain ⟨a, ha, hr⟩ := hk.fruitful (held.length - 1) (Nat.sub_one_lt_of_lt hpos)
      exact ⟨a, ha, by omega⟩
    · rcases Program.ends_bind h with ⟨v, n, k, rfl, hv, hd⟩ | ⟨text, -, hp⟩
      · cases hd
        rw [judge_ends he.uncancelled (Program.ends_ofProcess hv), List.append_nil]
      · exact judge_ends he.uncancelled (Program.ends_ofProcess hp)
  reported := by
    rintro r rfl
    obtain ⟨v, _, _, -, -, hv⟩ := Program.ends_bind_value h
    cases hv
    obtain ⟨stage, text, hstage, hx⟩ := trace_conclude s v
    exact shown_of_record hk.traced (arguments_conclude s v) hx hstage

theorem course_hold (he : Steadfast e) {o : Options} {out : Outcome Report}
    (h : (hold t names o).Ends e l out) :
    ∃ arguments held judging,
      Course e t names (max o.maxRounds 1) l out arguments held judging := by
  rcases Program.ends_bind h with ⟨⟨s, f⟩, m, n, rfl, hr, hn⟩ | ⟨text, -, hp⟩
  · obtain ⟨s', held, hk, hend⟩ := rounds_kept he (kept_start e t names) hr
    rw [List.nil_append] at hk hend
    rcases hend with ⟨ho, rfl, hlen⟩ | ⟨x, last, ho, rfl, hlt, hlast, hsilent⟩
    · cases ho
      rw [← hlen]
      exact ⟨s.arguments, held, n, course_judged he hk (by omega) hn⟩
    · cases ho
      cases hn
      rw [List.append_nil]
      exact ⟨s.arguments, held ++ [last], [], course_silent hk x hlt hlast hsilent⟩
  · obtain ⟨_, _, -, ⟨ho, -⟩ | ⟨_, _, ho, -⟩⟩ := rounds_kept he (kept_start e t names) hp
    · cases ho
    · cases ho

variable {σ : Type}

theorem hold_takes_course (w : World σ) (t : Task) (names : List String) (o : Options)
    (s : Session σ)
    (hw : ∀ r s, (w.respond (.complete r) s).1.outcome ≠ .value (.error .cancelled))
    (hc : ((hold t names o).run w o.callTimeoutMs s).2.cancelled = false) :
    ∃ l arguments held judging,
      ((hold t names o).run w o.callTimeoutMs s).2.queries = s.queries ++ l ∧
        Course (.ofLog o.callTimeoutMs (w.exchanges s.world l) False) t names (max o.maxRounds 1) l
          ((hold t names o).run w o.callTimeoutMs s).1 arguments held judging := by
  obtain ⟨l, hl, he⟩ := (hold t names o).run_ends_logged s fun h =>
    Bool.false_ne_true (hc.symm.trans h)
  obtain ⟨arguments, held, judging, hcourse⟩ :=
    course_hold (steadfast_ofLog hw o.callTimeoutMs s.world l) he
  exact ⟨l, arguments, held, judging, hl, hcourse⟩

def colours : World Nat :=
  .recital (fun n => 9 - n) fun n => if n % 2 = 0 then "Blue" else "Red"

theorem colours_uncancelled (r : Request) (n : Nat) :
    (colours.respond (.complete r) n).1.outcome ≠ .value (.error .cancelled) :=
  fun h => nomatch h

theorem colours_take_course :
    let o := { Options.default with maxRounds := 2 }
    let t := Task.ofDescription "Name a colour"
    let names := ["Pragmatist", "Skeptic"]
    let ended := (hold t names o).run colours o.callTimeoutMs (.start 0 none)
    (∀ r s, (colours.respond (.complete r) s).1.outcome ≠ .value (.error .cancelled)) ∧
      ended.2.cancelled = false ∧ ∃ l held judging, ended.2.queries = l ∧
        Course (.ofLog o.callTimeoutMs (colours.exchanges 0 l) False) t names 2 l ended.1
          [⟨0, 0, "Pragmatist", "Blue"⟩, ⟨0, 1, "Skeptic", "Red"⟩,
            ⟨1, 0, "Pragmatist", "Blue"⟩, ⟨1, 1, "Skeptic", "Red"⟩] held judging := by
  intro o t names ended
  have hc : ended.2.cancelled = false := Program.run_uncancelled (calm_recital _ _) _ rfl
  obtain ⟨l, arguments, held, judging, hl, hcourse⟩ :=
    hold_takes_course colours t names o (.start 0 none) colours_uncancelled hc
  have harguments : ((hold t names o).runIn? colours o.callTimeoutMs 2 (.start 0 none)).bind
      (fun out => out.1.value?.map Report.arguments) =
        some [⟨0, 0, "Pragmatist", "Blue"⟩, ⟨0, 1, "Skeptic", "Red"⟩,
          ⟨1, 0, "Pragmatist", "Blue"⟩, ⟨1, 1, "Skeptic", "Red"⟩] := by
    rw [hold, show max o.maxRounds 1 = 2 from rfl]
    simp only [rounds, heard, inOrder_eq_insertionSort]
    decide +kernel
  obtain ⟨r, hr, hshown⟩ := Program.value_of_runIn? harguments
  rw [← hshown, (hcourse.reported r hr).1]
  exact ⟨colours_uncancelled, hc, l, held, judging, hl, hcourse⟩

end Deliberation.Engine.Debating
