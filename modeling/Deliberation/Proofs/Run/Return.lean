import Deliberation.Proofs.Run.Ends
import Deliberation.Proofs.Run.Order
import Mathlib.Data.List.Forall2
import Mathlib.Data.List.Perm.Subperm

namespace Deliberation.Run

variable {α β γ : Type} {e : Surroundings} {V : α → Prop}

inductive Process.Returns (V : α → Prop) : Process α → Prop
  | done {a : α} (ha : V a) : Returns V (.done a)
  | crash (t : String) : Returns V (.crash t)
  | poll {next : Bool → Process α} (h : ∀ b, Returns V (next b)) : Returns V (.poll next)
  | call {q : Query} {next : Except Failure q.Answer → Process α} (h : ∀ a, Returns V (next a)) :
      Returns V (.call q next)

namespace Process.Returns

theorem bind {V : β → Prop} {f : α → Process β} (hf : ∀ a, (f a).Returns V) (p : Process α) :
    (p.bind f).Returns V := by
  induction p with
  | done a => exact hf a
  | crash t => exact .crash t
  | poll next ih => exact .poll ih
  | call q next ih => exact .call ih

theorem ends {p : Process α} (hp : p.Returns V) {l : List Query} {a : α}
    (h : p.Ends e l (.value a)) : V a := by
  induction hp generalizing l with
  | done ha =>
    cases h
    exact ha
  | crash t => cases h
  | poll _ ih =>
    cases h with
    | poll _ h => exact ih _ h
  | call _ ih =>
    cases h with
    | lost _ h | answered _ h => exact ih _ h

end Process.Returns

abbrev Numbered (ids : List Nat) (ps : List (Process (Nat × β))) : Prop :=
  List.Forall₂ (fun id p => p.Returns fun x => x.1 = id) ids ps

def Returned (ids : List Nat) (joined : List (Nat × β)) : Prop :=
  (joined.map Prod.fst).Subperm ids

namespace Returned

variable {ids : List Nat} {joined joined' : List (Nat × β)}

theorem nodup (h : Returned ids joined) (hids : ids.Nodup) : (joined.map Prod.fst).Nodup := by
  obtain ⟨sub, hperm, hsub⟩ := h
  exact hperm.nodup_iff.1 (hids.sublist hsub)

theorem mem (h : Returned ids joined) {x : Nat × β} (hx : x ∈ joined) : x.1 ∈ ids :=
  h.subset (List.mem_map_of_mem hx)

theorem length_le (h : Returned ids joined) : joined.length ≤ ids.length := by
  have hlength : (joined.map Prod.fst).length ≤ ids.length := List.Subperm.length_le h
  rwa [List.length_map] at hlength

theorem perm (h : Returned ids joined) (hp : joined'.Perm joined) : Returned ids joined' :=
  (hp.map Prod.fst).subperm.trans h

end Returned

theorem Together.returned {ids : List Nat} {ps : List (Process (Nat × β))} {l : List Query}
    {rs : List (Option (Nat × β))} {joined : List (Nat × β)}
    (h : Together (Process.Ends e) ps l rs) (hps : Numbered ids ps)
    (hj : joined.Perm (rs.filterMap id)) : Returned ids joined := by
  refine Returned.perm (List.Sublist.subperm ?_) hj
  clear hj
  induction h generalizing ids with
  | nil =>
    cases hps
    exact .slnil
  | @cons p ps l l' m o rs hp _ _ ih =>
    cases hps with
    | @cons id _ ids _ hid hps =>
      cases o with
      | value x =>
        obtain rfl : x.1 = id := hid.ends hp
        exact (ih hps).cons_cons _
      | panic t => exact (ih hps).cons _

theorem Together.numbered {ids : List Nat} {ps : List (Process (Nat × β))} {l : List Query}
    {rs : List (Option (Nat × β))} (h : Together (Process.Ends e) ps l rs)
    (hps : Numbered ids ps) :
    List.Forall₂ (fun id r => ∀ x, r = some x → x.1 = id) ids rs := by
  induction h generalizing ids with
  | nil =>
    cases hps
    exact .nil
  | @cons p ps l l' m o rs hp _ _ ih =>
    cases hps with
    | cons hid hps =>
      refine .cons (fun x hx => ?_) (ih hps)
      cases o with
      | value y =>
        cases hx
        exact hid.ends hp
      | panic t => cases hx

theorem Together.returned_or_lost {ids : List Nat} {ps : List (Process (Nat × β))} {l : List Query}
    {rs : List (Option (Nat × β))} {joined : List (Nat × β)}
    (h : Together (Process.Ends e) ps l rs) (hids : ids.Nodup) (hps : Numbered ids ps)
    (hj : joined.Perm (rs.filterMap id)) {i : Nat} {p : Process (Nat × β)}
    (hi : (i, p) ∈ ids.zip ps) :
    (∃ b l, p.Ends e l (.value (i, b)) ∧ (i, b) ∈ joined) ∨
      (∃ text l, p.Ends e l (.panic text)) ∧ i ∉ joined.map Prod.fst := by
  simp only [hj.mem_iff, (hj.map Prod.fst).mem_iff]
  clear hj
  induction h generalizing ids with
  | nil => simp at hi
  | @cons p' ps l l' m o rs hp h _ ih =>
    cases hps with
    | @cons i' _ ids _ hi' hps =>
      obtain ⟨hfresh, hids⟩ := List.nodup_cons.1 hids
      have hrest := h.returned hps (.refl _)
      rw [List.zip_cons_cons, List.mem_cons] at hi
      rcases hi with hi | hi
      · cases hi
        cases o with
        | value x =>
          obtain rfl : x.1 = i := hi'.ends hp
          exact .inl ⟨x.2, l, hp, List.mem_cons_self⟩
        | panic text => exact .inr ⟨⟨text, l, hp⟩, fun hm => hfresh (hrest.subset hm)⟩
      · have hne : i ≠ i' := by
          rintro rfl
          exact hfresh (List.of_mem_zip hi).1
        obtain ⟨b, l, hb, hm⟩ | ⟨hpanic, hm⟩ := ih hids hps hi
        · refine .inl ⟨b, l, hb, ?_⟩
          cases o with
          | value x => exact List.mem_cons_of_mem _ hm
          | panic text => exact hm
        · refine .inr ⟨hpanic, ?_⟩
          cases o with
          | value x =>
            obtain rfl : x.1 = i' := hi'.ends hp
            exact List.not_mem_cons_of_ne_of_not_mem hne hm
          | panic text => exact hm

/-- A program whose workers have ids of their own, and that goes on alike whatever the order in
which they have ended. -/
inductive Program.Orderly : Program (Nat × β) α → Prop
  | done (a : α) : Orderly (.done a)
  | crash (t : String) : Orderly (.crash t)
  | poll {next : Bool → Program (Nat × β) α} (h : ∀ b, Orderly (next b)) : Orderly (.poll next)
  | call {q : Query} {next : Except Failure q.Answer → Program (Nat × β) α}
      (h : ∀ a, Orderly (next a)) : Orderly (.call q next)
  | fork {ids : List Nat} {ps : List (Process (Nat × β))}
      {next : List (Nat × β) → Program (Nat × β) α} (hids : ids.Nodup) (hps : Numbered ids ps)
      (hnext : ∀ l m, l.Perm m → Returned ids l → next l = next m)
      (h : ∀ l, Returned ids l → Orderly (next l)) : Orderly (.fork ps next)

theorem Program.Orderly.bind {p : Program (Nat × β) α} {f : α → Program (Nat × β) γ}
    (hp : p.Orderly) (hf : ∀ a, (f a).Orderly) : (p.bind f).Orderly := by
  induction hp with
  | done a => exact hf a
  | crash t => exact .crash t
  | poll _ ih => exact .poll ih
  | call _ ih => exact .call ih
  | fork hids hps hnext _ ih =>
    exact .fork hids hps (fun l m h hl => congrArg (Program.bind · f) (hnext l m h hl)) ih

theorem Program.orderly_together_bind {ids : List Nat} {ps : List (Process (Nat × β))}
    {f : List (Nat × β) → Program (Nat × β) α} (hids : ids.Nodup) (hps : Numbered ids ps)
    (hf : ∀ l m, l.Perm m → Returned ids l → f l = f m)
    (h : ∀ l, Returned ids l → (f l).Orderly) : ((together ps).bind f).Orderly :=
  .fork hids hps hf h

theorem Process.orderly_lift (p : Process α) :
    (Program.ofProcess p : Program (Nat × β) α).Orderly := by
  induction p with
  | done a => exact .done a
  | crash t => exact .crash t
  | poll next ih => exact .poll ih
  | call q next ih => exact .call ih

end Deliberation.Run
