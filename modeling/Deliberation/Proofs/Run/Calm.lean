import Deliberation.Proofs.Run.Exchange
import Deliberation.Proofs.Run.Schedule

namespace Deliberation.Run

open Session

variable {σ α β : Type} {w : World σ} {limit : Nat} {s : Session σ}

def World.Calm (w : World σ) : Prop :=
  ∀ q world, (w.respond q world).1.cancels = none

theorem unsignalled_steady (hw : w.Calm) : Steady w fun s => s.cancelAt = none where
  begin := fun h _ => h
  cancel := by
    intro s q x c hc
    cases (hw q x).symm.trans hc
  sleepTo := fun h _ _ => h
  ticket := fun h => h

theorem Program.run_uncancelled (hw : w.Calm) (p : Program β α) (hs : s.cancelAt = none) :
    (p.run w limit s).2.cancelled = false := by
  have h : (p.run w limit s).2.cancelAt = none := Program.run_steady (unsignalled_steady hw) p hs
  rw [cancelled, h, due]

theorem ending_atOnce (a : α) : ending limit (.atOnce a) = .value (.ok a) :=
  if_pos (Nat.zero_le limit)

def World.Immediate (w : World σ) : Prop :=
  ∀ q world, ∃ a, (w.respond q world).1 = .atOnce a

namespace World.Immediate

theorem calm (hw : w.Immediate) : w.Calm := by
  intro q world
  obtain ⟨a, ha⟩ := hw q world
  rw [ha]
  rfl

theorem not_panic (hw : w.Immediate) {world : σ} {qs : List Query} {e : Exchange}
    (he : e ∈ w.exchanges world qs) (text : String) : ending limit e.reply ≠ .panic text := by
  obtain ⟨world', hreply⟩ := reply_of_mem_exchanges he
  obtain ⟨a, ha⟩ := hw e.query world'
  rw [hreply, ha, ending_atOnce]
  simp

end World.Immediate

def World.echo (text : String) : World Unit where
  respond
    | .complete _ => pure (.ok (.ofText text))
    | .execute _ _ => pure ⟨true, text, none⟩
    | .score _ _ => pure 1.0
    | .check _ _ => pure default
    | .attempt _ _ => pure (.ok text)

theorem immediate_echo (text : String) : (World.echo text).Immediate := by
  rintro (_ | _ | _ | _ | _) _ <;> exact ⟨_, rfl⟩

def World.recital (delay : Nat → Nat) (text : Nat → String) : World Nat where
  respond
    | .complete _ => fun n => (⟨none, delay n, .value (.ok (.ofText (text n)))⟩, n + 1)
    | .execute _ _ => pure ⟨true, "", none⟩
    | .score _ _ => pure 1.0
    | .check _ _ => pure default
    | .attempt _ _ => pure (.ok "")

theorem calm_recital (delay : Nat → Nat) (text : Nat → String) :
    (World.recital delay text).Calm := by
  rintro (_ | _ | _ | _ | _) _ <;> rfl

theorem calm_echo (text : String) : (World.echo text).Calm :=
  (immediate_echo text).calm

end Deliberation.Run
