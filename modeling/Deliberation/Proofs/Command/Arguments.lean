import Deliberation.Command.Arguments
import Deliberation.Proofs.Json.Printing
import Mathlib.Data.List.Nodup

namespace Deliberation

namespace Number

theorem readCount?_toDigits {bound n : Nat} (h : n < bound) :
    readCount? bound (Nat.toDigits 10 n) = some n := by
  obtain ⟨hne, hd⟩ := Json.digits_toDigits n
  have hplus : ∀ r, Nat.toDigits 10 n ≠ '+' :: r := fun r hr => by
    have hdigit : isDigit '+' = true := hd _ (hr ▸ List.mem_cons_self)
    cases hdigit
  have hall : (Nat.toDigits 10 n).all isDigit = true := List.all_eq_true.2 hd
  rw [readCount?]
  · simp [hne, hall, Json.valueOf_toDigits, h]
  · exact hplus

theorem lt_of_readCount? {bound n : Nat} {s : List Char} (h : readCount? bound s = some n) :
    n < bound := by
  simp only [readCount?, Option.ite_none_left_eq_some, Option.ite_none_right_eq_some,
    Option.some.injEq] at h
  obtain ⟨-, hlt, rfl⟩ := h
  exact hlt

end Number

namespace Strategy

theorem parse?_name (s : Strategy) : parse? s.name = some s := by
  cases s <;> decide

end Strategy

namespace Command

namespace Key

def name : Key → String
  | strategy => "strategy"
  | constraint => "constraint"
  | tool => "tool"
  | bound b => b.name

def word (k : Key) (value : String) : String :=
  "--" ++ k.name ++ "=" ++ value

theorem ofWord?_name (k : Key) : Flag.ofWord? k.name.toList = some (.key k) := by
  cases k with
  | bound b => exact Flag.ofWord?_name b
  | _ => decide

theorem all_name_ne_equals (k : Key) : (k.name.toList.all fun c => c ≠ '=') = true := by
  cases k with
  | bound b => cases b <;> decide
  | _ => decide

theorem toList_word (k : Key) (value : String) :
    (k.word value).toList = '-' :: '-' :: (k.name.toList ++ '=' :: value.toList) := by
  simp only [word, String.toList_append, List.append_assoc]
  rfl

theorem ofChars_word (k : Key) (value : String) :
    Word.ofChars (k.word value).toList = .long k.name.toList (some value.toList) := by
  have hname : ∀ c ∈ k.name.toList, decide (c ≠ '=') = true :=
    List.all_eq_true.1 k.all_name_ne_equals
  have hlong : Word.ofChars (k.word value).toList =
      Word.ofLong (k.name.toList ++ '=' :: value.toList) := by
    rw [toList_word]
    cases k with
    | bound b => cases b <;> rfl
    | _ => rfl
  rw [hlong, Word.ofLong, List.dropWhile_append_of_pos hname, List.takeWhile_append_of_pos hname]
  simp

end Key

namespace Arguments

structure Proper (a : Arguments) : Prop where
  once : (a.bounds.map Prod.fst).Nodup
  bounded : ∀ p ∈ a.bounds, p.2 < Number.wordBound

variable {a b : Arguments}

theorem proper_empty : empty.Proper :=
  ⟨List.nodup_nil, List.forall_mem_nil _⟩

theorem Proper.congr (h : a.Proper) (hb : b.bounds = a.bounds) : b.Proper :=
  ⟨hb ▸ h.once, hb ▸ h.bounded⟩

theorem Proper.setTask {s : String} (h : a.Proper) (hb : a.setTask s = some b) : b.Proper := by
  rw [Arguments.setTask] at hb
  split at hb
  · cases hb
  · cases hb
    exact h.congr rfl

theorem Proper.setSkip (h : a.Proper) (hb : a.setSkip = some b) : b.Proper := by
  rw [Arguments.setSkip] at hb
  split at hb
  · cases hb
  · cases hb
    exact h.congr rfl

theorem lookup_bounds_eq_none_iff {c : Bound} :
    a.bounds.lookup c = none ↔ c ∉ a.bounds.map Prod.fst := by
  simp only [List.lookup_eq_none_iff, List.mem_map, not_exists, not_and, bne_iff_ne, ne_eq,
    @eq_comm _ c]

theorem Proper.set {k : Key} {value : List Char} (h : a.Proper) (hb : a.set k value = some b) :
    b.Proper := by
  cases k with
  | strategy =>
    rw [Arguments.set] at hb
    split at hb
    · cases hb
      exact h.congr rfl
    · cases hb
  | constraint =>
    cases hb
    exact h.congr rfl
  | tool =>
    cases hb
    exact h.congr rfl
  | bound c =>
    rw [Arguments.set] at hb
    split at hb
    · next n hnew hn =>
      cases hb
      refine ⟨?_, List.forall_mem_append.2
        ⟨h.bounded, List.forall_mem_singleton.2 (Number.lt_of_readCount? hn)⟩⟩
      rw [List.map_append, List.map_singleton]
      exact h.once.append (List.nodup_singleton c)
        (List.disjoint_singleton.2 (lookup_bounds_eq_none_iff.1 hnew))
    · cases hb

def settings (a : Arguments) : List (Key × String) :=
  a.strategy.toList.map (fun s => (.strategy, s.name)) ++
    (a.constraints.map (Prod.mk .constraint) ++ (a.toolNames.map (Prod.mk .tool) ++
      a.bounds.map fun p => (.bound p.1, Nat.repr p.2)))

def words (a : Arguments) : List String :=
  a.settings.map (fun p => p.1.word p.2) ++
    ((if a.skipSetup then ["--skip-pipe-setup"] else []) ++ "--" :: a.task.toList)

def setAll (a : Arguments) (settings : List (Key × String)) : Option Arguments :=
  settings.foldlM (fun a p => a.set p.1 p.2.toList) a

theorem setAll_append (l m : List (Key × String)) :
    a.setAll (l ++ m) = (a.setAll l).bind fun b => b.setAll m := by
  rw [setAll, List.foldlM_append]
  rfl

theorem setAll_strategy (h : a.strategy = none) (strategy : Option Strategy) :
    a.setAll (strategy.toList.map fun s => (.strategy, s.name)) =
      some { a with strategy := strategy } := by
  cases strategy with
  | none =>
    cases a
    cases h
    rfl
  | some s =>
    have hset : a.set .strategy s.name.toList = some { a with strategy := some s } := by
      rw [Arguments.set, h, String.ofList_toList, Strategy.parse?_name]
    rw [setAll, Option.toList_some, List.map_singleton, List.foldlM_cons, hset]
    rfl

theorem setAll_again {k : Key} (add : Arguments → List String → Arguments)
    (hnil : ∀ a, add a [] = a) (hcons : ∀ a v vs, add a (v :: vs) = add (add a [v]) vs)
    (hset : ∀ a v, a.set k v.toList = some (add a [v])) (vs : List String) :
    a.setAll (vs.map (Prod.mk k)) = some (add a vs) := by
  induction vs generalizing a with
  | nil =>
    rw [hnil]
    rfl
  | cons v vs ih =>
    rw [setAll, List.map_cons, List.foldlM_cons, hset]
    exact ih.trans (congrArg some (hcons a v vs).symm)

theorem setAll_constraints (cs : List String) :
    a.setAll (cs.map (Prod.mk .constraint)) =
      some { a with constraints := a.constraints ++ cs } :=
  setAll_again (fun a cs => { a with constraints := a.constraints ++ cs })
    (by simp) (by simp) (by simp [Arguments.set]) cs

theorem setAll_toolNames (names : List String) :
    a.setAll (names.map (Prod.mk .tool)) = some { a with toolNames := a.toolNames ++ names } :=
  setAll_again (fun a names => { a with toolNames := a.toolNames ++ names })
    (by simp) (by simp) (by simp [Arguments.set]) names

theorem setAll_bounds {bs : List (Bound × Nat)}
    (h : Proper { a with bounds := a.bounds ++ bs }) :
    a.setAll (bs.map fun p => (.bound p.1, Nat.repr p.2)) =
      some { a with bounds := a.bounds ++ bs } := by
  induction bs generalizing a with
  | nil => simp [setAll]
  | cons p bs ih =>
    obtain ⟨b, n⟩ := p
    -- What is set so far and what is to come are proper together, so the next bound is new.
    have hnew : a.bounds.lookup b = none := by
      have honce := h.once
      simp only [List.map_append, List.map_cons] at honce
      rw [lookup_bounds_eq_none_iff]
      exact fun hb => (List.disjoint_of_nodup_append honce) hb List.mem_cons_self
    have hn : n < Number.wordBound :=
      h.bounded (b, n) (List.mem_append_right _ List.mem_cons_self)
    have hset : a.set (.bound b) (Nat.repr n).toList =
        some { a with bounds := a.bounds ++ [(b, n)] } := by
      rw [Arguments.set, hnew, Nat.toList_repr, Number.readCount?_toDigits hn]
    rw [setAll, List.map_cons, List.foldlM_cons, hset]
    rw [← List.singleton_append, ← List.append_assoc] at h
    refine (ih h).trans ?_
    rw [List.append_assoc, List.singleton_append]

theorem setAll_settings (h : a.Proper) :
    empty.setAll a.settings = some { a with task := none, skipSetup := false } := by
  rw [settings, setAll_append, setAll_strategy rfl, Option.bind_some, setAll_append,
    setAll_constraints, Option.bind_some, setAll_append, setAll_toolNames, Option.bind_some]
  exact setAll_bounds (h.congr rfl)

end Arguments

namespace Demand

variable {a b : Arguments} {d : String}

def Sound : Demand → Prop
  | work a d => a.Proper ∧ a.task = some d
  | _ => True

theorem sound_andThen {o : Option Arguments} {next : Arguments → Demand}
    (h : ∀ b, o = some b → (next b).Sound) : (andThen o next).Sound := by
  cases o with
  | none => trivial
  | some b => exact h b rfl

theorem sound_ofArguments (h : a.Proper) : (ofArguments a).Sound := by
  rw [ofArguments]
  cases htask : a.task with
  | none => trivial
  | some d => exact ⟨h, htask⟩

theorem sound_plainOnly (h : a.Proper) (words : List String) : (plainOnly a words).Sound := by
  induction words generalizing a with
  | nil => exact sound_ofArguments h
  | cons s r ih => exact sound_andThen fun b hb => ih (h.setTask hb)

theorem sound_read (h : a.Proper) (words : List String) : (read a words).Sound := by
  fun_induction read a words with
  | case1 => exact sound_ofArguments h
  | case2 a s r p hs ih => exact sound_andThen fun b hb => ih b (h.setTask hb)
  | case3 a s r hs => exact sound_plainOnly h r
  | case5 a s r k value w hplain hdashes hflag ih =>
    exact sound_andThen fun b hb => ih b (h.set hb)
  | case6 a s k w v r hv hplain hdashes hflag ih =>
    exact sound_andThen fun b hb => ih b (h.set hb)
  | case10 a s r v w hvalue hplain hdashes hflag ih =>
    exact sound_andThen fun b hb => ih b (h.setSkip hb)
  | _ => trivial

theorem sound_ofWords (words : List String) : (ofWords words).Sound :=
  sound_read Arguments.proper_empty words

theorem read_word (a : Arguments) (k : Key) (value : String) (r : List String) :
    read a (k.word value :: r) = andThen (a.set k value.toList) fun b => read b r := by
  rw [read, k.ofChars_word]
  simp [flag?, k.ofWord?_name]

theorem read_settings (a : Arguments) (l : List (Key × String)) (r : List String) :
    read a (l.map (fun p => p.1.word p.2) ++ r) = andThen (a.setAll l) fun b => read b r := by
  induction l generalizing a with
  | nil => rfl
  | cons p l ih =>
    rw [List.map_cons, List.cons_append, read_word, Arguments.setAll, List.foldlM_cons]
    cases a.set p.1 p.2.toList with
    | none => rfl
    | some b => exact ih b

theorem read_skip (a : Arguments) (r : List String) :
    read a ("--skip-pipe-setup" :: r) = andThen a.setSkip fun b => read b r := by
  have hword : Word.ofChars "--skip-pipe-setup".toList =
      .long "skip-pipe-setup".toList none := by decide
  have hflag : flag? (.long "skip-pipe-setup".toList none) = some (.skip, none, true) := by decide
  rw [read, hword]
  simp only [hflag]

theorem read_dashes (a : Arguments) (r : List String) :
    read a ("--" :: r) = plainOnly a r := by
  have hword : Word.ofChars "--".toList = .dashes := by decide
  rw [read, hword]

theorem read_task (htask : a.task = none) (d : String) :
    read a ["--", d] = .work { a with task := some d } d := by
  rw [read_dashes, plainOnly, Arguments.setTask, htask]
  rfl

theorem read_rest (htask : a.task = none) (hskip : a.skipSetup = false) (skip : Bool)
    (d : String) : read a ((if skip then ["--skip-pipe-setup"] else []) ++ ["--", d]) =
      .work { a with task := some d, skipSetup := skip } d := by
  cases skip with
  | false =>
    refine (read_task htask d).trans ?_
    rw [← hskip]
  | true =>
    have hset : a.setSkip = some { a with skipSetup := true } := by
      rw [Arguments.setSkip, hskip]
      rfl
    refine (read_skip a _).trans ?_
    rw [hset]
    exact read_task (a := { a with skipSetup := true }) htask d

theorem ofWords_words (h : a.Proper) (htask : a.task = some d) :
    ofWords a.words = .work a d := by
  rw [ofWords, Arguments.words, read_settings, Arguments.setAll_settings h, htask]
  refine (read_rest rfl rfl a.skipSetup d).trans ?_
  rw [← htask]

end Demand

end Command

end Deliberation
