namespace Deliberation.Text

def afterPrefix? : List Char → List Char → Option (List Char)
  | [], s => some s
  | _ :: _, [] => none
  | c :: p, d :: s => if c = d then afterPrefix? p s else none

theorem afterPrefix?_eq_some_iff {p s r : List Char} :
    afterPrefix? p s = some r ↔ s = p ++ r := by
  fun_induction afterPrefix? p s with
  | case1 s => simp
  | case2 => simp
  | case3 c p s ih => simp [ih]
  | case4 c p d s h => simp [Ne.symm h]

def breakOn? (p : List Char) (s : List Char) : Option (List Char × List Char) :=
  match afterPrefix? p s with
  | some rest => some ([], rest)
  | none =>
    match s with
    | [] => none
    | c :: r => (breakOn? p r).map fun (before, after) => (c :: before, after)

theorem breakOn?_eq_append {p s a b : List Char} (h : breakOn? p s = some (a, b)) :
    s = a ++ p ++ b := by
  induction s generalizing a b with
  | nil =>
    rw [breakOn?] at h
    split at h
    · next hr => cases h; simpa using afterPrefix?_eq_some_iff.1 hr
    · simp at h
  | cons c r ih =>
    rw [breakOn?] at h
    split at h
    · next hr => cases h; simpa using afterPrefix?_eq_some_iff.1 hr
    · simp only [Option.map_eq_some_iff, Prod.exists, Prod.mk.injEq] at h
      obtain ⟨a', b', h', rfl, rfl⟩ := h
      simp [ih h']

theorem breakOn?_append (p a b : List Char) :
    ∃ a' b', breakOn? p (a ++ (p ++ b)) = some (a', b') ∧ a' <+: a := by
  induction a with
  | nil =>
    refine ⟨[], b, ?_, List.prefix_rfl⟩
    rw [List.nil_append, breakOn?.eq_def, afterPrefix?_eq_some_iff.2 rfl]
  | cons c a ih =>
    cases h : afterPrefix? p (c :: (a ++ (p ++ b))) with
    | some r => exact ⟨[], r, by rw [List.cons_append, breakOn?, h], List.nil_prefix⟩
    | none =>
      obtain ⟨a', b', h', ha⟩ := ih
      exact ⟨c :: a', b', by rw [List.cons_append, breakOn?, h, h']; rfl,
        (List.prefix_cons_inj c).2 ha⟩

def occursIn (p s : List Char) : Bool :=
  (breakOn? p s).isSome

theorem occursIn_append (p a b : List Char) : occursIn p (a ++ p ++ b) = true := by
  obtain ⟨a', b', h, -⟩ := breakOn?_append p a b
  rw [occursIn, List.append_assoc, h]
  rfl

def before (p s : List Char) : List Char :=
  match breakOn? p s with
  | some (a, _) => a
  | none => s

theorem before_prefix (p s : List Char) : before p s <+: s := by
  rw [before]
  split
  · next a b h => exact ⟨p ++ b, by rw [breakOn?_eq_append h, List.append_assoc]⟩
  · exact List.prefix_rfl

def pieces (c : Char) : List Char → List (List Char)
  | [] => [[]]
  | d :: r =>
    if d = c then [] :: pieces c r
    else match pieces c r with
      | p :: ps => (d :: p) :: ps
      | [] => [[d]]

end Deliberation.Text
