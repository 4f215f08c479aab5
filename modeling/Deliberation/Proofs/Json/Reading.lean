import Deliberation.Json.Syntax

namespace Deliberation.Json

def joined : List (List Token) → List Token
  | [] => []
  | [x] => x
  | x :: y :: r => x ++ .comma :: joined (y :: r)

def commaEnded (xs : List (List Token)) : List Token :=
  xs.flatMap (· ++ [.comma])

theorem commaEnded_append (xs ys : List (List Token)) :
    commaEnded (xs ++ ys) = commaEnded xs ++ commaEnded ys :=
  List.flatMap_append

theorem commaEnded_singleton (x : List Token) : commaEnded [x] = x ++ [.comma] :=
  List.append_nil _

theorem joined_cons_eq_append (x : List Token) (xs : List (List Token)) :
    ∃ r, joined (x :: xs) = x ++ r := by
  cases xs with
  | nil => exact ⟨[], (List.append_nil _).symm⟩
  | cons y xs => exact ⟨_, rfl⟩

theorem joined_snoc (xs : List (List Token)) (x : List Token) :
    joined (xs ++ [x]) = commaEnded xs ++ x := by
  induction xs with
  | nil => rfl
  | cons y xs ih =>
    obtain ⟨z, zs, hz⟩ : ∃ z zs, xs ++ [x] = z :: zs := by
      cases xs with
      | nil => exact ⟨_, _, rfl⟩
      | cons z zs => exact ⟨_, _, rfl⟩
    rw [List.cons_append, hz, joined, ← hz, ih]
    simp [commaEnded]

mutual

def Syntax.tokens : Syntax → List Token
  | .null => [.null]
  | .bool b => [.bool b]
  | .number n => [.number n]
  | .string s => [.string s]
  | .array items => .openBracket :: (joined (itemTokens items) ++ [.closeBracket])
  | .object fields => .openBrace :: (joined (fieldTokens fields) ++ [.closeBrace])

def itemTokens : List Syntax → List (List Token)
  | [] => []
  | v :: r => v.tokens :: itemTokens r

def fieldTokens : List (Option String × Syntax) → List (List Token)
  | [] => []
  | (k, v) :: r => (.string k :: .colon :: v.tokens) :: fieldTokens r

end

theorem itemTokens_eq_map (vs : List Syntax) : itemTokens vs = vs.map Syntax.tokens := by
  induction vs with
  | nil => rfl
  | cons v vs ih => rw [itemTokens, ih, List.map_cons]

def fieldTokensOf (f : Option String × Syntax) : List Token :=
  .string f.1 :: .colon :: f.2.tokens

theorem fieldTokens_eq_map (fs : List (Option String × Syntax)) :
    fieldTokens fs = fs.map fieldTokensOf := by
  induction fs with
  | nil => rfl
  | cons f fs ih => rw [fieldTokens, ih, List.map_cons, fieldTokensOf]

def opening : List Frame → List Token
  | [] => []
  | .items done :: frames =>
    opening frames ++ .openBracket :: commaEnded (itemTokens done.reverse)
  | .fields done :: frames =>
    opening frames ++ .openBrace :: commaEnded (fieldTokens done.reverse)
  | .member done k :: frames =>
    opening frames ++ .openBrace :: (commaEnded (fieldTokens done.reverse) ++ [.string k, .colon])

theorem opening_items_cons (v : Syntax) (done : List Syntax) (frames : List Frame) :
    opening (.items (v :: done) :: frames) = opening (.items done :: frames) ++ v.tokens ++ [.comma] := by
  simp [opening, itemTokens_eq_map, commaEnded_append, commaEnded_singleton]

theorem opening_fields_cons (k : Option String) (v : Syntax)
    (done : List (Option String × Syntax)) (frames : List Frame) :
    opening (.fields ((k, v) :: done) :: frames) =
      opening (.member done k :: frames) ++ v.tokens ++ [.comma] := by
  simp [opening, fieldTokens_eq_map, fieldTokensOf, commaEnded_append, commaEnded_singleton]

namespace Reading

def Consumes (ts : List Token) : Reading → Prop
  | .finished v => ts = v.tokens
  | .inside .value frames => ts = opening frames
  | .inside .key frames => ts = opening frames
  | .inside .itemOrEnd frames => ts = opening frames ∧ ∃ r, frames = .items [] :: r
  | .inside .keyOrEnd frames => ts = opening frames ∧ ∃ r, frames = .fields [] :: r
  | .inside .colon frames => ts ++ [.colon] = opening frames
  | .inside .next frames => ts ++ [.comma] = opening frames

variable {ts : List Token} {t : Token} {frames : List Frame} {r r' : Reading}

theorem consumes_deliver {v : Syntax} (hr : deliver v frames = some r) :
    Consumes (opening frames ++ v.tokens) r := by
  cases frames with
  | nil =>
    cases hr
    rfl
  | cons f frames =>
    cases f with
    | items done =>
      cases hr
      exact (opening_items_cons _ _ _).symm
    | fields done => cases hr
    | member done k =>
      cases hr
      exact (opening_fields_cons _ _ _ _).symm

theorem consumes_value (hr : Reading.value t frames = some r) :
    Consumes (opening frames ++ [t]) r := by
  cases t with
  | null | bool | number | string => exact consumes_deliver hr
  | openBracket | openBrace =>
    cases hr
    exact ⟨rfl, _, rfl⟩
  | _ => cases hr

theorem consumes_key (hr : Reading.key t frames = some r) :
    Consumes (opening frames ++ [t]) r := by
  cases t with
  | string k =>
    cases frames with
    | nil => cases hr
    | cons f frames =>
      cases f with
      | fields done =>
        cases hr
        simp [Consumes, opening]
      | _ => cases hr
  | _ => cases hr

theorem consumes_close_items {done : List Syntax} (h : ts ++ [.comma] = opening (.items done :: frames))
    (hr : deliver (.array done.reverse) frames = some r) : Consumes (ts ++ [.closeBracket]) r := by
  suffices ts ++ [.closeBracket] = opening frames ++ (Syntax.array done.reverse).tokens by
    rw [this]
    exact consumes_deliver hr
  cases done with
  | nil => cases (List.append_inj' h rfl).2
  | cons v done =>
    rw [opening_items_cons] at h
    rw [(List.append_inj' h rfl).1]
    simp [opening, Syntax.tokens, itemTokens_eq_map, joined_snoc]

theorem consumes_close_fields {done : List (Option String × Syntax)}
    (h : ts ++ [.comma] = opening (.fields done :: frames))
    (hr : deliver (.object done.reverse) frames = some r) : Consumes (ts ++ [.closeBrace]) r := by
  suffices ts ++ [.closeBrace] = opening frames ++ (Syntax.object done.reverse).tokens by
    rw [this]
    exact consumes_deliver hr
  cases done with
  | nil => cases (List.append_inj' h rfl).2
  | cons f done =>
    rw [opening_fields_cons] at h
    rw [(List.append_inj' h rfl).1]
    simp [opening, Syntax.tokens, fieldTokens_eq_map, fieldTokensOf, joined_snoc]

theorem consumes_close (h : ts ++ [.comma] = opening frames)
    (hr : Reading.close t frames = some r) : Consumes (ts ++ [t]) r := by
  unfold Reading.close at hr
  split at hr
  · exact consumes_close_items h hr
  · exact consumes_close_fields h hr
  · cases hr

theorem consumes_close_empty_items (hr : Reading.close .closeBracket (.items [] :: frames) = some r) :
    Consumes (opening (.items [] :: frames) ++ [.closeBracket]) r := by
  have hd : Consumes (opening frames ++ (Syntax.array []).tokens) r := consumes_deliver hr
  simpa [opening, Syntax.tokens, itemTokens, joined, commaEnded] using hd

theorem consumes_close_empty_fields (hr : Reading.close .closeBrace (.fields [] :: frames) = some r) :
    Consumes (opening (.fields [] :: frames) ++ [.closeBrace]) r := by
  have hd : Consumes (opening frames ++ (Syntax.object []).tokens) r := consumes_deliver hr
  simpa [opening, Syntax.tokens, fieldTokens, joined, commaEnded] using hd

theorem consumes_step (h : Consumes ts r) (hr : r.step t = some r') : Consumes (ts ++ [t]) r' := by
  cases r with
  | finished v => cases hr
  | inside await frames =>
    cases await with
    | value =>
      obtain rfl : ts = opening frames := h
      exact consumes_value hr
    | itemOrEnd =>
      obtain ⟨rfl, frames, rfl⟩ := h
      simp only [step] at hr
      split at hr
      · exact consumes_close_empty_items hr
      · exact consumes_value hr
    | key =>
      obtain rfl : ts = opening frames := h
      exact consumes_key hr
    | keyOrEnd =>
      obtain ⟨rfl, frames, rfl⟩ := h
      simp only [step] at hr
      split at hr
      · exact consumes_close_empty_fields hr
      · exact consumes_key hr
    | colon =>
      simp only [step] at hr
      split at hr
      · cases hr
        exact h
      · cases hr
    | next =>
      simp only [step] at hr
      split at hr
      · cases hr
        exact h
      · cases hr
        exact h
      · exact consumes_close h hr

theorem consumes_foldlM {us : List Token} (h : Consumes ts r)
    (hr : us.foldlM step r = some r') : Consumes (ts ++ us) r' := by
  induction us generalizing ts r with
  | nil =>
    cases hr
    rwa [List.append_nil]
  | cons u us ih =>
    obtain ⟨r₁, h₁, hr⟩ := Option.bind_eq_some_iff.1 hr
    have := ih (consumes_step h h₁) hr
    rwa [List.append_assoc] at this

end Reading

theorem Syntax.eq_tokens_of_ofTokens? {ts : List Token} {v : Syntax}
    (h : Syntax.ofTokens? ts = some v) : ts = v.tokens := by
  obtain ⟨r, hr, hv⟩ := Option.bind_eq_some_iff.1 h
  cases r with
  | finished v' =>
    cases hv
    exact Reading.consumes_foldlM (show Reading.start.Consumes [] from rfl) hr
  | inside => cases hv

/-! ### Every tree is read off its tokens -/

section

variable {α β : Type} {f : β → α → Option β} {b b' : β}

theorem foldlM_cons_of_eq {x : α} (h : f b x = some b') (xs : List α) :
    (x :: xs).foldlM f b = xs.foldlM f b' := by
  rw [List.foldlM_cons, h]
  rfl

theorem foldlM_append_of_eq {xs : List α} (h : xs.foldlM f b = some b') (ys : List α) :
    (xs ++ ys).foldlM f b = ys.foldlM f b' := by
  rw [List.foldlM_append, h]
  rfl

theorem foldlM_singleton (f : β → α → Option β) (b : β) (x : α) : [x].foldlM f b = f b x :=
  bind_pure _

end

theorem foldlM_itemOrEnd {vs : List Syntax} (hv : vs ≠ []) (ts : List Token) (frames : List Frame) :
    (joined (itemTokens vs) ++ ts).foldlM Reading.step (.inside .itemOrEnd frames) =
      (joined (itemTokens vs) ++ ts).foldlM Reading.step (.inside .value frames) := by
  obtain ⟨v, vs, rfl⟩ := List.exists_cons_of_ne_nil hv
  obtain ⟨r, hr⟩ := joined_cons_eq_append v.tokens (itemTokens vs)
  rw [itemTokens, hr]
  cases v <;> rfl

theorem foldlM_keyOrEnd {fs : List (Option String × Syntax)} (hf : fs ≠ []) (ts : List Token)
    (frames : List Frame) :
    (joined (fieldTokens fs) ++ ts).foldlM Reading.step (.inside .keyOrEnd frames) =
      (joined (fieldTokens fs) ++ ts).foldlM Reading.step (.inside .key frames) := by
  obtain ⟨⟨k, v⟩, fs, rfl⟩ := List.exists_cons_of_ne_nil hf
  obtain ⟨r, hr⟩ := joined_cons_eq_append (.string k :: .colon :: v.tokens) (fieldTokens fs)
  rw [fieldTokens, hr]
  rfl

mutual

theorem foldlM_tokens (v : Syntax) (frames : List Frame) :
    v.tokens.foldlM Reading.step (.inside .value frames) = deliver v frames := by
  match v with
  | .null | .bool b | .number n | .string s => exact foldlM_singleton _ _ _
  | .array vs =>
    by_cases hv : vs = []
    · subst hv
      exact foldlM_singleton _ _ _
    · rw [Syntax.tokens, foldlM_cons_of_eq rfl, foldlM_itemOrEnd hv, List.foldlM_append,
        foldlM_items vs hv [] frames, List.append_nil]
      exact (foldlM_singleton _ _ _).trans
        (congrArg (fun vs => deliver (.array vs) frames) (List.reverse_reverse vs))
  | .object fs =>
    by_cases hf : fs = []
    · subst hf
      exact foldlM_singleton _ _ _
    · rw [Syntax.tokens, foldlM_cons_of_eq rfl, foldlM_keyOrEnd hf, List.foldlM_append,
        foldlM_fields fs hf [] frames, List.append_nil]
      exact (foldlM_singleton _ _ _).trans
        (congrArg (fun fs => deliver (.object fs) frames) (List.reverse_reverse fs))

theorem foldlM_items (vs : List Syntax) (hv : vs ≠ []) (done : List Syntax) (frames : List Frame) :
    (joined (itemTokens vs)).foldlM Reading.step (.inside .value (.items done :: frames)) =
      some (.inside .next (.items (vs.reverse ++ done) :: frames)) := by
  match vs with
  | [] => exact absurd rfl hv
  | [v] => exact foldlM_tokens v _
  | v :: w :: vs =>
    have ih := foldlM_items (w :: vs) (List.cons_ne_nil _ _) (v :: done) frames
    rw [itemTokens, itemTokens, joined, ← itemTokens, List.foldlM_append, foldlM_tokens v _]
    exact ih.trans (by simp)

theorem foldlM_fields (fs : List (Option String × Syntax)) (hf : fs ≠ [])
    (done : List (Option String × Syntax)) (frames : List Frame) :
    (joined (fieldTokens fs)).foldlM Reading.step (.inside .key (.fields done :: frames)) =
      some (.inside .next (.fields (fs.reverse ++ done) :: frames)) := by
  match fs with
  | [] => exact absurd rfl hf
  | [(k, v)] => exact foldlM_tokens v (.member done k :: frames)
  | (k, v) :: (k', v') :: fs =>
    have hv : (.string k :: .colon :: v.tokens : List Token).foldlM Reading.step
        (.inside .key (.fields done :: frames)) = some (.inside .next (.fields ((k, v) :: done) :: frames)) :=
      foldlM_tokens v (.member done k :: frames)
    have ih := foldlM_fields ((k', v') :: fs) (List.cons_ne_nil _ _) ((k, v) :: done) frames
    rw [fieldTokens, fieldTokens, joined, ← fieldTokens, List.foldlM_append, hv]
    exact ih.trans (by simp)

end

theorem Syntax.ofTokens?_tokens (v : Syntax) : Syntax.ofTokens? v.tokens = some v := by
  rw [Syntax.ofTokens?, Reading.start, foldlM_tokens v []]
  rfl

theorem Syntax.ofTokens?_eq_some_iff {ts : List Token} {v : Syntax} :
    Syntax.ofTokens? ts = some v ↔ ts = v.tokens :=
  ⟨eq_tokens_of_ofTokens?, fun h => h ▸ ofTokens?_tokens v⟩

end Deliberation.Json
