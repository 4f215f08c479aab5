import Deliberation.Json.Syntax

namespace Deliberation.Json

def Spaces (s : List Char) : Prop :=
  ∀ c ∈ s, isSpace c = true

def Digits (ds : List Char) : Prop :=
  ds ≠ [] ∧ ∀ c ∈ ds, Number.isDigit c = true

inductive WholeText : List Char → Prop
  | zero : WholeText ['0']
  | digits {c : Char} {ds : List Char} (hc : c ≠ '0') (h : Digits (c :: ds)) : WholeText (c :: ds)

inductive PartText : Option (List Char) → List Char → Prop
  | none : PartText none []
  | point {ds : List Char} (h : Digits ds) : PartText (some ds) ('.' :: ds)

inductive PowerText : Option (Bool × List Char) → List Char → Prop
  | none : PowerText none []
  | unsigned {e : Char} {ds : List Char} (he : e = 'e' ∨ e = 'E') (h : Digits ds) :
      PowerText (some (false, ds)) (e :: ds)
  | plus {e : Char} {ds : List Char} (he : e = 'e' ∨ e = 'E') (h : Digits ds) :
      PowerText (some (false, ds)) (e :: '+' :: ds)
  | minus {e : Char} {ds : List Char} (he : e = 'e' ∨ e = 'E') (h : Digits ds) :
      PowerText (some (true, ds)) (e :: '-' :: ds)

inductive Literal.Written : Literal → List Char → Prop
  | positive {w p e : List Char} {part : Option (List Char)} {power : Option (Bool × List Char)}
      (hw : WholeText w) (hp : PartText part p) (he : PowerText power e) :
      Written ⟨false, w, part, power⟩ (w ++ (p ++ e))
  | negative {w p e : List Char} {part : Option (List Char)} {power : Option (Bool × List Char)}
      (hw : WholeText w) (hp : PartText part p) (he : PowerText power e) :
      Written ⟨true, w, part, power⟩ ('-' :: (w ++ (p ++ e)))

def hexOf? (ds : List Char) : Option Nat :=
  ds.foldlM (fun n c => (hexValue? c).map (16 * n + ·)) 0

inductive UnitText : Nat → List Char → Prop
  | plain {c : Char} (hq : c ≠ '"') (hb : c ≠ '\\') (hc : 0x20 ≤ c.toNat) : UnitText c.toNat [c]
  | short {c d : Char} (h : unescape? c = some d) : UnitText d.toNat ['\\', c]
  | hex {ds : List Char} {n : Nat} (hl : ds.length = 4) (h : hexOf? ds = some n) :
      UnitText n ('\\' :: 'u' :: ds)

inductive UnitsText : List Nat → List Char → Prop
  | nil : UnitsText [] []
  | cons {n : Nat} {us : List Nat} {x s : List Char} (h : UnitText n x) (hs : UnitsText us s) :
      UnitsText (n :: us) (x ++ s)

def content (us : List Nat) : Option String :=
  (joinUnits us).map String.ofList

inductive Token.Spelled : Token → List Char → Prop
  | mark {c : Char} {t : Token} (h : mark? c = some t) : Spelled t [c]
  | word {w : List Char} {t : Token} (h : word? w = some t) : Spelled t w
  | number {l : Literal} {s : List Char} (h : l.Written s) : Spelled (.number l.number?) s
  | string {us : List Nat} {s : List Char} (h : UnitsText us s) :
      Spelled (.string (content us)) ('"' :: (s ++ ['"']))

def Token.scalar? : Token → Option Syntax
  | .null => some .null
  | .bool b => some (.bool b)
  | .number n => some (.number n)
  | .string s => some (.string s)
  | _ => none

inductive Element where
  | item (v : Syntax)
  | field (k : Option String) (v : Syntax)

inductive Phrase where
  | one (e : Element)
  | series (es : List Element)

/-- The grammar of the format. Spaces stand around the elements of a series and around the colon
of a field. -/
inductive Phrase.Written : Phrase → List Char → Prop
  | scalar {t : Token} {v : Syntax} {s : List Char} (hv : t.scalar? = some v) (h : t.Spelled s) :
      Written (.one (.item v)) s
  | array {vs : List Syntax} {s : List Char} (h : Written (.series (vs.map .item)) s) :
      Written (.one (.item (.array vs))) ('[' :: (s ++ [']']))
  | object {fs : List (Option String × Syntax)} {s : List Char}
      (h : Written (.series (fs.map fun f => .field f.1 f.2)) s) :
      Written (.one (.item (.object fs))) ('\x7b' :: (s ++ ['\x7d']))
  | field {k : Option String} {v : Syntax} {n a b s : List Char}
      (hk : (Token.string k).Spelled n) (ha : Spaces a) (hb : Spaces b)
      (h : Written (.one (.item v)) s) : Written (.one (.field k v)) (n ++ (a ++ ':' :: (b ++ s)))
  | blank {a : List Char} (ha : Spaces a) : Written (.series []) a
  | last {e : Element} {a b s : List Char} (ha : Spaces a) (h : Written (.one e) s)
      (hb : Spaces b) : Written (.series [e]) (a ++ (s ++ b))
  | more {e f : Element} {es : List Element} {a b s r : List Char} (ha : Spaces a)
      (h : Written (.one e) s) (hb : Spaces b) (hr : Written (.series (f :: es)) r) :
      Written (.series (e :: f :: es)) (a ++ (s ++ (b ++ ',' :: r)))

def Syntax.Written (v : Syntax) (s : List Char) : Prop :=
  Phrase.Written (.one (.item v)) s

def ObjectText (fs : List (Option String × Syntax)) (s : List Char) : Prop :=
  (Syntax.object fs).Written s

theorem scalar?_ne_object (t : Token) (fs : List (Option String × Syntax)) :
    t.scalar? ≠ some (.object fs) := by
  cases t <;> exact fun h => nomatch h

theorem objectText_iff {fs : List (Option String × Syntax)} {s : List Char} :
    ObjectText fs s ↔ ∃ body, s = '\x7b' :: (body ++ ['\x7d']) ∧
      Phrase.Written (.series (fs.map fun f => .field f.1 f.2)) body := by
  constructor
  · intro h
    cases h with
    | scalar hv _ => exact absurd hv (scalar?_ne_object _ _)
    | object h => exact ⟨_, rfl, h⟩
  · rintro ⟨body, rfl, h⟩
    exact .object h

theorem spaces_nil : Spaces [] :=
  fun _ h => nomatch h

theorem spaces_append {a b : List Char} : Spaces (a ++ b) ↔ Spaces a ∧ Spaces b :=
  List.forall_mem_append

theorem spaces_cons {c : Char} {s : List Char} : Spaces (c :: s) ↔ isSpace c = true ∧ Spaces s :=
  List.forall_mem_cons

end Deliberation.Json
