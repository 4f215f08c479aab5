import Deliberation.Proofs.Engine.Complete
import Deliberation.Proofs.Engine.Debating
import Deliberation.Proofs.Run.Lockstep

namespace Deliberation.Engine.Debating

open Run Debate

variable {t : Task} {names : List String}

def Wordless (t : Task) : (q : Query) → q.Answer → Prop
  | .complete r, a => (∃ name soFar round, r = debaterRequest t name soFar round) ∧
    ∃ c : Completion, a = .ok c ∧ Text.blankString c.text = true
  | _, _ => False

open Classical in
noncomputable def quieted {σ : Type} (t : Task) (w : World σ) : World σ where
  respond
    | .complete r => fun x =>
      match w.respond (.complete r) x with
      | (⟨cancels, delay, .panic text⟩, y) =>
        if ∃ name soFar round, r = debaterRequest t name soFar round then
          (⟨cancels, delay, .value (.ok (.ofText ""))⟩, y)
        else (⟨cancels, delay, .panic text⟩, y)
      | answered => answered
    | q => w.respond q

theorem soothes_quieted {σ : Type} (t : Task) (w : World σ) :
    Soothes (Wordless t) w (quieted t w) := by
  intro q x
  cases q with
  | complete r =>
    rw [quieted]
    dsimp only
    split
    · next cancels delay text y hpanic =>
      split
      · next hdebater => exact .inr ⟨_, _, text, _, y, hpanic, rfl, hdebater, _, rfl, rfl⟩
      · exact .inl hpanic.symm
    · exact .inl rfl
  | execute | score | check | attempt => exact .inl rfl

def loud : Speech → Bool
  | .ok text => !Text.blankString text
  | .error _ => true

theorem speak_tolerates (t : Task) (soFar : String) (round : Nat) (name : String) (id : Nat) :
    (speak t soFar round name id).Tolerates (Wordless t) fun x => loud x.2 = false := by
  rw [speak, complete_map]
  refine .guarded (fun a => .done _) ?_
  rintro _ ⟨-, c, rfl, hc⟩
  refine ⟨(id, .ok c.text), rfl, ?_⟩
  rw [loud, hc]
  rfl

theorem takeIn_filter (round : Nat) (hs : List (Nat × String × Speech)) (s : State)
    (e : Option Failure) :
    takeIn round (hs.filter fun y => loud y.2.2) s e = takeIn round hs s e := by
  induction hs generalizing s e with
  | nil => rfl
  | cons y hs ih =>
    obtain ⟨id, name, speech⟩ := y
    cases speech with
    | ok text =>
      rw [takeIn]
      cases hb : Text.blankString text with
      | true =>
        rw [List.filter_cons_of_neg (by simp [loud, hb])]
        exact ih s e
      | false =>
        rw [List.filter_cons_of_pos (by simp [loud, hb]), takeIn, hb]
        exact ih _ e
    | error f =>
      rw [List.filter_cons_of_pos rfl]
      cases f with
      | cancelled => rfl
      | _ => exact ih s _

theorem filter_heard (names : List String) (joined : List (Nat × Speech)) :
    (heard names joined).filter (fun y => loud y.2.2) =
      heard names (joined.filter fun x => loud x.2) := by
  rw [heard, heard, ← filter_inOrder, List.filter_filterMap, List.filterMap_filter]
  refine List.filterMap_congr fun x _ => ?_
  obtain ⟨id, speech⟩ := x
  dsimp only
  cases names[id]? with
  | none => cases loud speech <;> rfl
  | some name => cases h : loud speech <;> simp [h]

theorem filter_abreast {l l' : List (Nat × Speech)}
    (h : Abreast (Idler fun x => loud x.2 = false) l l') :
    (l'.filter fun x => loud x.2) = l.filter fun x => loud x.2 := by
  induction h with
  | nil => rfl
  | cons hr _ ih =>
    rw [List.filter_append, List.filter_append, ih]
    obtain rfl | ⟨rfl, b, rfl, hb⟩ := hr
    · rfl
    · simp [hb]

theorem takeIn_idle (round : Nat) {l l' : List (Nat × Speech)}
    (h : Abreast (Idler fun x => loud x.2 = false) l l') (names : List String) (s : State)
    (e : Option Failure) : takeIn round (heard names l') s e = takeIn round (heard names l) s e := by
  rw [← takeIn_filter round (heard names l'), ← takeIn_filter round (heard names l), filter_heard,
    filter_heard, filter_abreast h]

theorem rounds_tolerates (t : Task) (names : List String) (left round : Nat) (s : State) :
    (rounds t names left round s).Tolerates (Wordless t) fun x => loud x.2 = false := by
  induction left generalizing round s with
  | zero => exact .done _
  | succ left ih =>
    have hspeakers : ∀ p ∈ speakers t names (debateSoFar s.arguments) round,
        p.Tolerates (Wordless t) fun x => loud x.2 = false := by
      intro p hp
      obtain ⟨⟨name, id⟩, -, rfl⟩ := List.mem_map.1 hp
      exact speak_tolerates t _ round name id
    rw [rounds]
    refine .poll fun c => ?_
    cases c with
    | true => exact .done _
    | false =>
      refine .fork hspeakers (fun l l' h => ?_) fun joined => .poll fun c => ?_
      · simp only [Program.bind, takeIn_idle round h]
      · cases c with
        | true => exact .done _
        | false =>
          dsimp only
          split
          · exact .done _
          · split
            · exact .done _
            · exact ih _ _

theorem judge_tolerates (t : Task) (arguments : List Argument) :
    (Program.ofProcess (judge t arguments) : Program (Nat × Speech) _).Tolerates (Wordless t)
      fun x => loud x.2 = false := by
  have hjudge : judge t arguments = (complete (judgeRequest t arguments)).bind _ := rfl
  rw [hjudge, complete_bind, Program.ofProcess_guarded]
  refine .guarded (fun a => ?_) fun a => ?_
  · rintro ⟨⟨name, soFar, round, h⟩, -⟩
    exact debaterRequest_ne_judgeRequest t t name soFar round arguments h.symm
  · split <;> exact .done _

theorem hold_tolerates (t : Task) (names : List String) (o : Options) :
    (hold t names o).Tolerates (Wordless t) fun x => loud x.2 = false := by
  refine (rounds_tolerates t names _ 0 .start).bind fun r => ?_
  obtain ⟨s, e⟩ := r
  cases e with
  | some e => exact .done _
  | none => exact (judge_tolerates t s.arguments).bind fun _ => .done _

end Deliberation.Engine.Debating
