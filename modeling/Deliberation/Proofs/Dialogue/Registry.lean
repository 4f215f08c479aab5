import Deliberation.Dialogue.Registry
import Deliberation.Proofs.Text.Bytes

namespace Deliberation.Registry

variable {β σ : Type} {l m ts us : List (Tool β)} {t u : Tool β} {name : String}

def ofTools (ts : List (Tool β)) : Registry β :=
  ts.foldl register .empty

def Latest (ts : List (Tool β)) (name : String) (t : Tool β) : Prop :=
  ∃ earlier later, ts = earlier ++ t :: later ∧ t.declaration.name = name ∧
    ∀ u ∈ later, u.declaration.name ≠ name

theorem ofTools_snoc (ts : List (Tool β)) (t : Tool β) :
    ofTools (ts ++ [t]) = (ofTools ts).register t := by
  rw [ofTools, List.foldl_append]
  rfl

theorem get?_ofTools (ts : List (Tool β)) (name : String) :
    (ofTools ts).get? name = ts.reverse.find? fun t => t.declaration.name == name := by
  induction ts using List.reverseRecOn with
  | nil => rfl
  | append_singleton ts t ih =>
    rw [ofTools_snoc, get?_register, List.reverse_append, List.reverse_singleton,
      List.singleton_append, List.find?_cons, ih]
    by_cases h : t.declaration.name = name
    · rw [if_pos h, beq_iff_eq.2 h]
    · rw [if_neg h, beq_eq_false_iff_ne.2 h]

theorem get?_ofTools_eq_some_iff : (ofTools ts).get? name = some t ↔ Latest ts name t := by
  rw [get?_ofTools, List.find?_eq_some_iff_append]
  constructor
  · rintro ⟨hname, later, earlier, hts, hlater⟩
    refine ⟨earlier.reverse, later.reverse, ?_, by simpa using hname, fun u hu => ?_⟩
    · rw [← List.reverse_inj, hts]
      simp
    · simpa using hlater u (List.mem_reverse.1 hu)
  · rintro ⟨earlier, later, rfl, hname, hlater⟩
    refine ⟨by simpa using hname, later.reverse, earlier.reverse, by simp, fun u hu => ?_⟩
    simpa using hlater u (List.mem_reverse.1 hu)

theorem get?_ofTools_eq_none_iff :
    (ofTools ts).get? name = none ↔ ∀ t ∈ ts, t.declaration.name ≠ name := by
  rw [get?_ofTools, List.find?_eq_none]
  simp

/-! ### The order of the tools -/

abbrev InOrder (l : List (Tool β)) : Prop :=
  l.Pairwise fun t u => t.declaration.name < u.declaration.name

theorem mem_insert (h : u ∈ insert t l) : u = t ∨ u ∈ l := by
  induction l with
  | nil => exact .inl (List.mem_singleton.1 h)
  | cons v l ih =>
    rw [insert] at h
    split at h
    · exact List.mem_cons.1 h
    · split at h
      · exact (List.mem_cons.1 h).imp_right (List.mem_cons_of_mem _)
      · rcases List.mem_cons.1 h with rfl | h
        · exact .inr List.mem_cons_self
        · exact (ih h).imp_right (List.mem_cons_of_mem _)

theorem inOrder_insert (h : InOrder l) : InOrder (insert t l) := by
  induction l with
  | nil => exact List.pairwise_singleton _ _
  | cons v l ih =>
    obtain ⟨hv, hl⟩ := List.pairwise_cons.1 h
    rw [insert]
    split
    · next hlt =>
      refine List.pairwise_cons.2 ⟨fun u hu => ?_, h⟩
      rcases List.mem_cons.1 hu with rfl | hu
      · exact hlt
      · exact hlt.trans (hv u hu)
    · next hlt =>
      split
      · next heq => exact List.pairwise_cons.2 ⟨heq ▸ hv, hl⟩
      · next hne =>
        refine List.pairwise_cons.2 ⟨fun u hu => ?_, ih hl⟩
        rcases mem_insert hu with rfl | hu
        · exact lt_of_le_of_ne (not_lt.1 hlt) (Ne.symm hne)
        · exact hv u hu

theorem inOrder_ofTools (ts : List (Tool β)) : InOrder (ofTools ts).tools := by
  induction ts using List.reverseRecOn with
  | nil => exact .nil
  | append_singleton ts t ih =>
    rw [ofTools_snoc]
    exact inOrder_insert ih

theorem InOrder.nodup (h : InOrder l) : (l.map fun t => t.declaration.name).Nodup :=
  List.pairwise_map.2 (h.imp fun htu => ne_of_lt htu)

theorem mem_tools_iff : t ∈ (ofTools ts).tools ↔ Latest ts t.declaration.name t := by
  rw [← get?_ofTools_eq_some_iff, get?]
  refine ⟨fun h => ?_, List.mem_of_find?_eq_some⟩
  have hsome : ((ofTools ts).tools.find? fun u => u.declaration.name == t.declaration.name).isSome :=
    List.find?_isSome.2 ⟨t, h, beq_iff_eq.2 rfl⟩
  obtain ⟨u, hu⟩ := Option.isSome_iff_exists.1 hsome
  have hname : u.declaration.name = t.declaration.name := by simpa using List.find?_some hu
  obtain rfl : u = t := List.inj_on_of_nodup_map (inOrder_ofTools ts).nodup
    (List.mem_of_find?_eq_some hu) h hname
  exact hu

theorem InOrder.eq_of_perm (hl : InOrder l) (hm : InOrder m) (h : l.Perm m) : l = m :=
  h.eq_of_pairwise (fun _ _ _ _ htu hut => absurd htu (not_lt_of_gt hut)) hl hm

theorem ofTools_eq (h : ∀ name t, Latest us name t ↔ Latest ts name t) : ofTools us = ofTools ts := by
  have hperm : (ofTools us).tools.Perm (ofTools ts).tools := by
    refine (List.perm_ext_iff_of_nodup (inOrder_ofTools us).nodup.of_map
      (inOrder_ofTools ts).nodup.of_map).2 fun t => ?_
    rw [mem_tools_iff, mem_tools_iff, h]
  exact congrArg Registry.mk ((inOrder_ofTools us).eq_of_perm (inOrder_ofTools ts) hperm)

theorem latest_filter : Latest ts name t ↔
    Latest (ts.filter fun u => u.declaration.name == name) name t := by
  rw [← get?_ofTools_eq_some_iff, ← get?_ofTools_eq_some_iff, get?_ofTools, get?_ofTools,
    ← List.filter_reverse, List.find?_filter]
  simp only [and_self, Bool.decide_eq_true]

/-! ### Tables in any order -/

structure Tabulates (ts : List (Tool β)) (entries : List (String × Tool β)) : Prop where
  distinct : (entries.map Prod.fst).Nodup
  mem_iff : ∀ name t, (name, t) ∈ entries ↔ Latest ts name t

variable {entries : List (String × Tool β)}

theorem Latest.name_eq (h : Latest ts name t) : t.declaration.name = name := by
  obtain ⟨_, _, _, hname, _⟩ := h
  exact hname

theorem Tabulates.keys (h : Tabulates ts entries) :
    entries.map Prod.fst = (entries.map Prod.snd).map fun t => t.declaration.name := by
  rw [List.map_map]
  refine List.map_congr_left fun e he => ?_
  exact ((h.mem_iff e.1 e.2).1 he).name_eq.symm

theorem Tabulates.perm (h : Tabulates ts entries) :
    (entries.map Prod.snd).Perm (ofTools ts).tools := by
  have hdistinct := h.distinct
  rw [h.keys] at hdistinct
  refine (List.perm_ext_iff_of_nodup hdistinct.of_map (inOrder_ofTools ts).nodup.of_map).2
    fun t => ?_
  rw [mem_tools_iff, List.mem_map]
  constructor
  · rintro ⟨⟨name, t⟩, he, rfl⟩
    have hlatest := (h.mem_iff name t).1 he
    rwa [← hlatest.name_eq] at hlatest
  · exact fun ht => ⟨(_, t), (h.mem_iff _ t).2 ht, rfl⟩

theorem Tabulates.perm_declarations (h : Tabulates ts entries) :
    (entries.map fun e => e.2.declaration).Perm (ofTools ts).declarations := by
  have hmap := h.perm.map Tool.declaration
  rwa [List.map_map] at hmap

theorem mergeSort_eq {γ : Type} (key : γ → String) {l m : List γ}
    (hl : l.Pairwise fun a b => key a < key b) (h : m.Perm l) :
    m.mergeSort (fun a b => key a ≤ key b) = l := by
  have htrans : ∀ a b c, decide (key a ≤ key b) = true → decide (key b ≤ key c) = true →
      decide (key a ≤ key c) = true :=
    fun a b c hab hbc => decide_eq_true ((of_decide_eq_true hab).trans (of_decide_eq_true hbc))
  have htotal : ∀ a b, (decide (key a ≤ key b) || decide (key b ≤ key a)) = true :=
    fun a b => by simpa using le_total (key a) (key b)
  have hsorted := (List.pairwise_mergeSort htrans htotal m).imp of_decide_eq_true
  have hnodup : (l.map key).Nodup := List.pairwise_map.2 (hl.imp fun hab => ne_of_lt hab)
  have hperm := (List.mergeSort_perm m fun a b => decide (key a ≤ key b)).trans h
  refine hperm.eq_of_pairwise (fun a b ha hb hab hba => ?_) hsorted (hl.imp le_of_lt)
  exact List.inj_on_of_nodup_map hnodup (hperm.mem_iff.1 ha) hb (le_antisymm hab hba)

theorem names_eq_map (r : Registry β) : r.names = r.tools.map fun t => t.declaration.name :=
  List.map_map

theorem pairwise_names (ts : List (Tool β)) : (ofTools ts).names.Pairwise (· < ·) := by
  rw [names_eq_map]
  exact List.pairwise_map.2 (inOrder_ofTools ts)

theorem Tabulates.perm_names (h : Tabulates ts entries) :
    (entries.map Prod.fst).Perm (ofTools ts).names := by
  rw [h.keys, names_eq_map]
  exact h.perm.map _

theorem tabulates_tools (ts : List (Tool β)) :
    Tabulates ts ((ofTools ts).tools.map fun t => (t.declaration.name, t)) where
  distinct := by
    rw [List.map_map]
    exact (inOrder_ofTools ts).nodup
  mem_iff := fun name t => by
    rw [List.mem_map]
    constructor
    · rintro ⟨u, hu, heq⟩
      cases heq
      exact mem_tools_iff.1 hu
    · intro h
      obtain rfl := h.name_eq
      exact ⟨t, mem_tools_iff.2 h, rfl⟩

structure LastWins (ts : List (Tool β)) (r : Registry β) : Prop where
  found : ∀ name t, r.get? name = some t ↔ Latest ts name t
  missing : ∀ name, r.get? name = none ↔ ∀ t ∈ ts, t.declaration.name ≠ name
  listed : ∀ name, name ∈ r.names ↔ ∃ t ∈ ts, t.declaration.name = name
  declared : r.declarations.map ToolDeclaration.name = r.names
  ordered : r.names.Pairwise fun a b => Text.bytes a < Text.bytes b
  distinct : r.names.Nodup
  size : r.size = r.names.length
  tabulated : ∀ entries, Tabulates ts entries →
    r.names = (entries.map Prod.fst).mergeSort ∧
    r.declarations = (entries.map fun e => e.2.declaration).mergeSort (fun a b => a.name ≤ b.name) ∧
    r.size = entries.length

theorem mem_names_iff : name ∈ (ofTools ts).names ↔ ∃ t ∈ ts, t.declaration.name = name := by
  have hsome : name ∈ (ofTools ts).names ↔ ((ofTools ts).get? name).isSome = true := by
    rw [names_eq_map, List.mem_map, get?, List.find?_isSome]
    simp only [beq_iff_eq]
  rw [hsome, ← not_iff_not, Bool.not_eq_true, Option.isSome_eq_false_iff, Option.isNone_iff_eq_none,
    get?_ofTools_eq_none_iff]
  push Not
  rfl

theorem lastWins_ofTools (ts : List (Tool β)) : LastWins ts (ofTools ts) where
  found := fun _ _ => get?_ofTools_eq_some_iff
  missing := fun _ => get?_ofTools_eq_none_iff
  listed := fun _ => mem_names_iff
  declared := rfl
  ordered := (pairwise_names ts).imp Text.bytes_lt_bytes
  distinct := (pairwise_names ts).imp ne_of_lt
  size := by rw [names_eq_map, List.length_map, size]
  tabulated := fun entries h => by
    refine ⟨(mergeSort_eq id (pairwise_names ts) h.perm_names).symm, ?_, ?_⟩
    · have hsorted : (ofTools ts).declarations.Pairwise fun a b => a.name < b.name :=
        List.pairwise_map.2 (inOrder_ofTools ts)
      exact (mergeSort_eq ToolDeclaration.name hsorted h.perm_declarations).symm
    · rw [size, ← h.perm.length_eq, List.length_map]

def logged (invoke : Tool β → Json → σ → Except Failure String × σ) (t : Tool β)
    (arguments : Json) : StateM (σ × List (Tool β × Json)) (Except Failure String) :=
  fun s => ((invoke t arguments s.1).1, (invoke t arguments s.1).2, s.2 ++ [(t, arguments)])

section

variable (invoke : Tool β → Json → σ → Except Failure String × σ) (arguments : Json) (s : σ)
  (log : List (Tool β × Json))

theorem execute_latest (h : Latest ts name t) :
    (ofTools ts).execute (logged invoke) name arguments (s, log) =
      (outcome (invoke t arguments s).1, (invoke t arguments s).2, log ++ [(t, arguments)]) := by
  rw [execute, get?_ofTools_eq_some_iff.2 h]
  rfl

theorem message_unknown (name : String) :
    (unknown name).message = "Tool " ++ name ++ " failed: no such tool" := by
  have htext : (" failed: no such tool" : String) = " failed: " ++ "no such tool" := rfl
  rw [htext, ← String.append_assoc]
  rfl

theorem execute_unregistered (h : ∀ t ∈ ts, t.declaration.name ≠ name) :
    (ofTools ts).execute (logged invoke) name arguments (s, log) =
      (.failed ("Tool " ++ name ++ " failed: no such tool"), s, log) := by
  rw [execute, get?_ofTools_eq_none_iff.2 h, message_unknown]
  rfl

end

theorem ofTools_refines (ts : List (Tool β)) :
    LastWins ts (ofTools ts) ∧ (∃ entries, Tabulates ts entries) ∧
    (∀ us, (∀ name, us.filter (fun t => t.declaration.name == name) =
      ts.filter fun t => t.declaration.name == name) → ofTools us = ofTools ts) ∧
    ∀ {σ : Type} (invoke : Tool β → Json → σ → Except Failure String × σ) (name : String)
      (arguments : Json) (s : σ) (log : List (Tool β × Json)),
      let ended := (ofTools ts).execute (logged invoke) name arguments (s, log)
      (∀ t, Latest ts name t → ended.2 = ((invoke t arguments s).2, log ++ [(t, arguments)]) ∧
        (∀ output, (invoke t arguments s).1 = .ok output → ended.1 = .ok output) ∧
        ∀ e, (invoke t arguments s).1 = .error e → ended.1 = .failed e.message) ∧
      ((∀ t ∈ ts, t.declaration.name ≠ name) →
        ended = (.failed ("Tool " ++ name ++ " failed: no such tool"), s, log)) := by
  refine ⟨lastWins_ofTools ts, ⟨_, tabulates_tools ts⟩, fun us h => ?_,
    fun invoke name arguments s log => ⟨fun t ht => ?_, execute_unregistered invoke arguments s log⟩⟩
  · refine ofTools_eq fun name t => ?_
    rw [latest_filter, h, ← latest_filter]
  · rw [execute_latest invoke arguments s log ht]
    refine ⟨rfl, fun output h => ?_, fun e h => ?_⟩
    · rw [h]
      rfl
    · rw [h]
      rfl

def zeta : Tool Nat :=
  ⟨⟨"zeta", "", .null⟩, 1⟩

def newer : Tool Nat :=
  ⟨⟨"zeta", "", .null⟩, 2⟩

def alpha : Tool Nat :=
  ⟨⟨"alpha", "", .null⟩, 3⟩

theorem ofTools_refines_replaced :
    let ts := [zeta, alpha, newer]
    let down : Tool Nat → Json → Nat → Except Failure String × Nat := fun _ _ n =>
      (.error (.backend "no connection"), n + 1)
    let run (name : String) := (ofTools ts).execute (logged down) name .null (0, [])
    Latest ts "zeta" newer ∧ (ofTools ts).get? "zeta" = some newer ∧
    (∃ entries, Tabulates ts entries ∧ (ofTools ts).names = (entries.map Prod.fst).mergeSort) ∧
    ofTools [zeta, newer, alpha] = ofTools ts ∧
    run "zeta" = (.failed "Backend error: no connection", 1, [(newer, .null)]) ∧
    (∀ t ∈ ts, t.declaration.name ≠ "remove") ∧
    run "remove" = (.failed "Tool remove failed: no such tool", 0, []) := by
  intro ts down run
  obtain ⟨hwins, ⟨entries, hentries⟩, horder, hrun⟩ := ofTools_refines ts
  have hlatest : Latest ts "zeta" newer := ⟨[zeta, alpha], [], rfl, rfl, List.forall_mem_nil _⟩
  have hmissing : ∀ t ∈ ts, t.declaration.name ≠ "remove" := by decide
  obtain ⟨hlog, -, hfailed⟩ := (hrun down "zeta" .null 0 []).1 newer hlatest
  refine ⟨hlatest, (hwins.found _ _).2 hlatest, ⟨entries, hentries, (hwins.tabulated _ hentries).1⟩,
    horder _ fun name => ?_, Prod.ext (hfailed _ rfl) hlog, hmissing,
    (hrun down "remove" .null 0 []).2 hmissing⟩
  by_cases hz : "zeta" = name
  · subst hz
    rfl
  · simp [ts, List.filter_cons, zeta, newer, hz]

end Deliberation.Registry
