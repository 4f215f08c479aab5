import Deliberation.Json.Syntax

namespace Deliberation.Json

mutual

def Syntax.depth : Syntax → Nat
  | .array items => itemsDepth items + 1
  | .object fields => fieldsDepth fields + 1
  | _ => 0

def itemsDepth : List Syntax → Nat
  | [] => 0
  | v :: r => max v.depth (itemsDepth r)

def fieldsDepth : List (Option String × Syntax) → Nat
  | [] => 0
  | (_, v) :: r => max v.depth (fieldsDepth r)

end

mutual

def Syntax.Definite : Syntax → Prop
  | .number n => n.isSome = true
  | .string s => s.isSome = true
  | .array items => ItemsDefinite items
  | .object fields => FieldsDefinite fields
  | _ => True

def ItemsDefinite : List Syntax → Prop
  | [] => True
  | v :: r => v.Definite ∧ ItemsDefinite r

def FieldsDefinite : List (Option String × Syntax) → Prop
  | [] => True
  | (k, v) :: r => k.isSome = true ∧ v.Definite ∧ FieldsDefinite r

end

mutual

theorem isSome_toJson?_iff (v : Syntax) (n : Nat) :
    (v.toJson? n).isSome = true ↔ v.depth ≤ n ∧ v.Definite := by
  match v, n with
  | .null, n | .bool b, n => simp [Syntax.toJson?, Syntax.depth, Syntax.Definite]
  | .number x, n | .string x, n => simp [Syntax.toJson?, Syntax.depth, Syntax.Definite]
  | .array items, 0 | .object fields, 0 => simp [Syntax.toJson?, Syntax.depth]
  | .array items, n + 1 =>
    rw [Syntax.toJson?, Option.isSome_map, isSome_itemsToJson?_iff items n, Syntax.depth,
      Nat.add_le_add_iff_right, Syntax.Definite]
  | .object fields, n + 1 =>
    rw [Syntax.toJson?, Option.isSome_map, isSome_fieldsToJson?_iff fields n, Syntax.depth,
      Nat.add_le_add_iff_right, Syntax.Definite]

theorem isSome_itemsToJson?_iff (items : List Syntax) (n : Nat) :
    (Syntax.itemsToJson? n items).isSome = true ↔ itemsDepth items ≤ n ∧ ItemsDefinite items := by
  match items with
  | [] => simp [Syntax.itemsToJson?, itemsDepth, ItemsDefinite]
  | v :: r =>
    have hc : (Syntax.itemsToJson? n (v :: r)).isSome =
        ((v.toJson? n).isSome && (Syntax.itemsToJson? n r).isSome) := by
      rw [Syntax.itemsToJson?]
      cases v.toJson? n <;> cases Syntax.itemsToJson? n r <;> rfl
    rw [hc, Bool.and_eq_true, isSome_toJson?_iff v n, isSome_itemsToJson?_iff r n, itemsDepth,
      ItemsDefinite, Nat.max_le]
    exact and_and_and_comm

theorem isSome_fieldsToJson?_iff (fields : List (Option String × Syntax)) (n : Nat) :
    (Syntax.fieldsToJson? n fields).isSome = true ↔
      fieldsDepth fields ≤ n ∧ FieldsDefinite fields := by
  match fields with
  | [] => simp [Syntax.fieldsToJson?, fieldsDepth, FieldsDefinite]
  | (k, v) :: r =>
    have hc : (Syntax.fieldsToJson? n ((k, v) :: r)).isSome =
        (k.isSome && ((v.toJson? n).isSome && (Syntax.fieldsToJson? n r).isSome)) := by
      rw [Syntax.fieldsToJson?]
      cases k <;> cases v.toJson? n <;> cases Syntax.fieldsToJson? n r <;> rfl
    rw [hc, Bool.and_eq_true, Bool.and_eq_true, isSome_toJson?_iff v n,
      isSome_fieldsToJson?_iff r n, fieldsDepth, FieldsDefinite, Nat.max_le, and_and_and_comm]
    exact and_left_comm

end

end Deliberation.Json
