import Deliberation.Pipe.Response
import Deliberation.Proofs.Json.Firm
import Deliberation.Proofs.Json.Roundtrip
import Mathlib.Data.List.Forall2

namespace Deliberation

namespace Pipe

open Json

variable {c : ToolCall}

def half : Json :=
  .object [("at", .array [.null, .number (.real 0.5)])]

theorem holds_half {m : Number} (h : half.Holds m) : m = .real 0.5 := by
  rcases h with _ | _ | ⟨hf, h⟩
  obtain rfl := List.mem_singleton.1 hf
  rcases h with _ | ⟨hv, h⟩
  rcases List.mem_cons.1 hv with rfl | hv
  · cases h
  · obtain rfl := List.mem_singleton.1 hv
    cases h
    rfl

theorem wellFormed_half : half.WellFormed := by
  refine ⟨.object (List.pairwise_singleton _ _) (List.forall_mem_singleton.2 (.array ?_)),
    fun m hm => ?_⟩
  · exact List.forall_mem_cons.2 ⟨.null, List.forall_mem_singleton.2 (.number _)⟩
  · rw [holds_half hm]
    trivial

theorem exact_half : half.Exact := by
  intro x hx
  have hread : Literal.read? (Number.render (.real 0.5)) =
      some ⟨false, ['0'], some ['5'], none⟩ := by decide +kernel
  have hreal : Literal.real? ⟨false, ['0'], some ['5'], none⟩ = some 0.5 := by decide +kernel
  rw [holds_half hx, Number.Legible, hread, Option.bind_some, Literal.number?, hreal]
  rfl

end Pipe

end Deliberation
