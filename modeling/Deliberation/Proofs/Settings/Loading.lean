import Deliberation.Proofs.Settings.Clamping
import Mathlib.Logic.Function.Basic

namespace Deliberation

open Number

namespace Strategy

def spellings : List String :=
  ["iterative", "react", "reflexive", "reflexion", "tree_search", "tree", "tot", "debate"]

def Recognised (s : String) : Prop :=
  fold s ∈ spellings

theorem parse?_eq_none_iff {s : String} : parse? s = none ↔ ¬Recognised s := by
  rw [parse?, Recognised, ofAlias?, ofName?, spellings]
  simp only [List.mem_cons, List.not_mem_nil, or_false]
  grind

end Strategy

namespace Settings

inductive Count where
  | timeoutMs
  | maxRetries
  | retryDelayMs
  | maxIterations
  | maxRounds
  | maxDepth
  | branchFactor
  | beamWidth
  | debaterCount
  | callTimeoutMs
  deriving DecidableEq, Repr

namespace Count

def name : Count → String
  | timeoutMs => "REQUEST_TIMEOUT_MS"
  | maxRetries => "MAX_RETRIES"
  | retryDelayMs => "RETRY_DELAY_MS"
  | maxIterations => "REASONING_MAX_ITERATIONS"
  | maxRounds => "REASONING_MAX_ROUNDS"
  | maxDepth => "REASONING_MAX_DEPTH"
  | branchFactor => "REASONING_BRANCH_FACTOR"
  | beamWidth => "REASONING_BEAM_WIDTH"
  | debaterCount => "REASONING_DEBATER_COUNT"
  | callTimeoutMs => "REASONING_CALL_TIMEOUT_MS"

def bound : Count → Nat
  | maxRetries => halfWordBound
  | _ => wordBound

def fallback : Count → Nat
  | timeoutMs => 30000
  | maxRetries => 3
  | retryDelayMs => 1000
  | maxIterations => 5
  | maxRounds => 3
  | maxDepth => 3
  | branchFactor => 3
  | beamWidth => 2
  | debaterCount => 3
  | callTimeoutMs => 60000

def raise (n : Nat) : Count → Nat
  | timeoutMs => n
  | maxRetries => n
  | retryDelayMs => n
  | _ => max n 1

def field (s : Settings) : Count → Nat
  | timeoutMs => s.timeoutMs
  | maxRetries => s.maxRetries
  | retryDelayMs => s.retryDelayMs
  | maxIterations => s.options.maxIterations
  | maxRounds => s.options.maxRounds
  | maxDepth => s.options.maxDepth
  | branchFactor => s.options.branchFactor
  | beamWidth => s.options.beamWidth
  | debaterCount => s.options.debaterCount
  | callTimeoutMs => s.options.callTimeoutMs

end Count

def numeral? {α : Type} (read : List Char → Option α) (t : Option String) : Option α :=
  t.bind fun s => read (Text.trim s.toList)

inductive Variable where
  | apiKey
  | baseUrl
  | pipeName
  | logLevel
  | logFormat
  | strategy
  | confidenceFloor
  | count (c : Count)
  deriving DecidableEq, Repr

namespace Variable

def name : Variable → String
  | apiKey => "LANGBASE_API_KEY"
  | baseUrl => "LANGBASE_BASE_URL"
  | pipeName => "LANGBASE_PIPE"
  | logLevel => "LOG_LEVEL"
  | logFormat => "LOG_FORMAT"
  | strategy => "REASONING_STRATEGY"
  | confidenceFloor => "REASONING_CONFIDENCE_FLOOR"
  | count c => c.name

def all : List Variable :=
  [apiKey, baseUrl, pipeName, logLevel, logFormat, strategy, confidenceFloor] ++
    [.timeoutMs, .maxRetries, .retryDelayMs, .maxIterations, .maxRounds, .maxDepth, .branchFactor,
      .beamWidth, .debaterCount, .callTimeoutMs].map count

def ofName? (name : String) : Option Variable :=
  all.find? fun v => v.name == name

def Field : Variable → Type
  | logFormat => LogFormat
  | strategy => Option Strategy
  | confidenceFloor => Float
  | count _ => Nat
  | _ => String

def field : (v : Variable) → Settings → v.Field
  | apiKey, s => s.apiKey
  | baseUrl, s => s.baseUrl
  | pipeName, s => s.pipeName
  | logLevel, s => s.logLevel
  | logFormat, s => s.logFormat
  | strategy, s => s.options.strategy
  | confidenceFloor, s => s.options.confidenceFloor
  | count c, s => c.field s

/-- What the field holds for the text of the variable. Only where there are no settings would a
key be missing or a strategy go by an unknown name. -/
def read : (v : Variable) → Option String → v.Field
  | apiKey, t => t.getD ""
  | baseUrl, t => t.getD "https://api.langbase.com"
  | pipeName, t => t.getD "reasoning-orchestrator-v1"
  | logLevel, t => t.getD "info"
  | logFormat, t => .ofText (t.getD "pretty")
  | strategy, t => t.bind fun s => if Text.blankString s then none else Strategy.parse? s
  | confidenceFloor, t => clamp ((numeral? readFloat? t).getD 0.9)
  | count c, t => c.raise ((numeral? (readCount? c.bound) t).getD c.fallback)

def Illegible : Variable → List Char → Prop
  | confidenceFloor, s => readFloat? s = none
  | count c, s => readCount? c.bound s = none
  | _, _ => False

theorem ofName?_name (v : Variable) : ofName? v.name = some v := by
  cases v with
  | count c => cases c <;> decide
  | _ => decide

theorem name_injective : Function.Injective name := by
  intro v w h
  rw [← Option.some_inj, ← ofName?_name v, h, ofName?_name]

theorem read_of_illegible {v : Variable} {s : String} (h : v.Illegible (Text.trim s.toList)) :
    v.read (some s) = v.read none := by
  cases v with
  | confidenceFloor =>
    have hread : numeral? readFloat? (some s) = none := h
    rw [read, hread]
    rfl
  | count c =>
    have hread : numeral? (readCount? c.bound) (some s) = none := h
    rw [read, hread]
    rfl
  | _ => exact h.elim

end Variable

variable {e f : Environment} {s t : Settings} {x : ProgramFailure}

theorem eq_of_fields (h : ∀ v : Variable, v.field s = v.field t) : s = t := by
  obtain ⟨_, _, _, _, _, _, _, _, o⟩ := s
  obtain ⟨_, _, _, _, _, _, _, _, p⟩ := t
  have hoptions : o = p := by
    cases o
    cases p
    exact (Options.mk.injEq ..).mpr ⟨h .strategy, h (.count .maxIterations),
      h (.count .maxRounds), h (.count .maxDepth), h (.count .branchFactor), h (.count .beamWidth),
      h (.count .debaterCount), h .confidenceFloor, h (.count .callTimeoutMs)⟩
  exact (Settings.mk.injEq ..).mpr ⟨h .apiKey, h .baseUrl, h .pipeName, h .logLevel, h .logFormat,
    h (.count .timeoutMs), h (.count .maxRetries), h (.count .retryDelayMs), hoptions⟩

def assembled (e : Environment) (key : String) (strategy : Option Strategy) : Settings where
  apiKey := key
  baseUrl := e.textOr "LANGBASE_BASE_URL" "https://api.langbase.com"
  pipeName := e.textOr "LANGBASE_PIPE" "reasoning-orchestrator-v1"
  logLevel := e.textOr "LOG_LEVEL" "info"
  logFormat := .ofText (e.textOr "LOG_FORMAT" "pretty")
  timeoutMs := word e "REQUEST_TIMEOUT_MS" 30000
  maxRetries := e.countOr halfWordBound "MAX_RETRIES" 3
  retryDelayMs := word e "RETRY_DELAY_MS" 1000
  options := { baseOptions e with strategy := strategy }

theorem strategyOf_eq_error_iff : strategyOf e = .error x ↔ ∃ name,
    e "REASONING_STRATEGY" = some name ∧ Text.blankString name = false ∧
      ¬Strategy.Recognised name ∧ x = .configuration (Strategy.unknown name) := by
  rw [strategyOf]
  cases e "REASONING_STRATEGY" with
  | none => simp
  | some name =>
    simp only [Option.some.injEq, exists_eq_left', ← Strategy.parse?_eq_none_iff]
    cases Text.blankString name with
    | true => simp
    | false =>
      cases Strategy.parse? name with
      | none => simp [eq_comm]
      | some strategy => simp

theorem strategyOf_eq_ok {strategy : Option Strategy} (h : strategyOf e = .ok strategy) :
    strategy = Variable.strategy.read (e "REASONING_STRATEGY") := by
  rw [strategyOf] at h
  cases htext : e "REASONING_STRATEGY" with
  | none =>
    rw [htext] at h
    cases h
    rfl
  | some name =>
    rw [htext] at h
    simp only [Variable.read, Option.bind_some] at h ⊢
    split at h
    · next hblank =>
      cases h
      rw [if_pos hblank]
    · next hblank =>
      rw [if_neg hblank]
      split at h
      · next hparse =>
        cases h
        exact hparse.symm
      · cases h

theorem load_of_key {key : String} (h : e "LANGBASE_API_KEY" = some key) :
    load e = (strategyOf e).map (assembled e key) := by
  rw [load, h, optionsOf]
  cases strategyOf e with
  | error x => rfl
  | ok strategy => cases strategy <;> rfl

theorem load_eq_error_iff : load e = .error x ↔
    (e "LANGBASE_API_KEY" = none ∧ x = apiKeyMissing) ∨
      e "LANGBASE_API_KEY" ≠ none ∧ strategyOf e = .error x := by
  cases hkey : e "LANGBASE_API_KEY" with
  | none => simp [load, hkey, eq_comm]
  | some key =>
    rw [load_of_key hkey]
    cases strategyOf e <;> simp [Except.map]

theorem field_assembled {key : String} {strategy : Option Strategy}
    (hkey : e "LANGBASE_API_KEY" = some key) (hstrategy : strategyOf e = .ok strategy)
    (v : Variable) : v.field (assembled e key strategy) = v.read (e v.name) := by
  cases v with
  | apiKey =>
    rw [Variable.name, hkey]
    rfl
  | strategy => exact strategyOf_eq_ok hstrategy
  | count c => cases c <;> rfl
  | _ => rfl

theorem field_load (h : load e = .ok s) (v : Variable) : v.field s = v.read (e v.name) := by
  cases hkey : e "LANGBASE_API_KEY" with
  | none =>
    have hmissing : load e = .error apiKeyMissing := load_eq_error_iff.2 (.inl ⟨hkey, rfl⟩)
    cases hmissing.symm.trans h
  | some key =>
    rw [load_of_key hkey] at h
    obtain ⟨strategy, hstrategy, rfl⟩ := exists_of_map_eq_ok h
    exact field_assembled hkey hstrategy v

theorem exists_error_iff : (∃ x, load e = .error x) ↔ e "LANGBASE_API_KEY" = none ∨
    ∃ name, e "REASONING_STRATEGY" = some name ∧ Text.blankString name = false ∧
      ¬Strategy.Recognised name := by
  simp only [load_eq_error_iff, strategyOf_eq_error_iff]
  constructor
  · rintro ⟨x, ⟨hkey, -⟩ | ⟨-, name, hname, hblank, hunknown, -⟩⟩
    · exact .inl hkey
    · exact .inr ⟨name, hname, hblank, hunknown⟩
  · rintro (hkey | ⟨name, hname, hblank, hunknown⟩)
    · exact ⟨_, .inl ⟨hkey, rfl⟩⟩
    · by_cases hkey : e "LANGBASE_API_KEY" = none
      · exact ⟨_, .inl ⟨hkey, rfl⟩⟩
      · exact ⟨_, .inr ⟨hkey, name, hname, hblank, hunknown, rfl⟩⟩

theorem load_congr (hkey : f "LANGBASE_API_KEY" = e "LANGBASE_API_KEY")
    (hstrategy : f "REASONING_STRATEGY" = e "REASONING_STRATEGY")
    (h : ∀ v : Variable, v.read (f v.name) = v.read (e v.name)) : load f = load e := by
  -- What fails depends on the key and the strategy alone, and what is loaded on its fields.
  have herror : ∀ x, load f = .error x ↔ load e = .error x := by
    simp only [load_eq_error_iff, strategyOf_eq_error_iff, hkey, hstrategy, implies_true]
  cases he : load e with
  | error x => exact (herror x).2 he
  | ok s =>
    cases hf : load f with
    | error x => cases he.symm.trans ((herror x).1 hf)
    | ok t =>
      rw [eq_of_fields fun v => (field_load hf v).trans ((h v).trans (field_load he v).symm)]

theorem eq_or_field_of_agree {name : String} (h : ∀ n, n ≠ name → f n = e n) (hs : load e = .ok s)
    (ht : load f = .ok t) :
    t = s ∨ ∃ v : Variable, v.name = name ∧ ∀ w : Variable, w ≠ v → w.field t = w.field s := by
  have hfield : ∀ w : Variable, w.name ≠ name → w.field t = w.field s := fun w hw => by
    rw [field_load ht, field_load hs, h _ hw]
  by_cases hv : ∃ v : Variable, v.name = name
  · obtain ⟨v, rfl⟩ := hv
    exact .inr ⟨v, rfl, fun w hw => hfield w (Variable.name_injective.ne hw)⟩
  · exact .inl (eq_of_fields fun w => hfield w fun hw => hv ⟨w, hw⟩)

theorem load_update_of_illegible {v : Variable} {text : String} (htext : e v.name = some text)
    (h : v.Illegible (Text.trim text.toList)) : load (Function.update e v.name none) = load e := by
  have hother : ∀ w : Variable, w ≠ v → Function.update e v.name none w.name = e w.name :=
    fun w hw => Function.update_of_ne (Variable.name_injective.ne hw) _ _
  refine load_congr (hother .apiKey ?_) (hother .strategy ?_) fun w => ?_
  · rintro rfl
    exact h
  · rintro rfl
    exact h
  · by_cases hw : w = v
    · rw [hw, Function.update_self, htext, Variable.read_of_illegible h]
    · rw [hother w hw]

end Settings

end Deliberation
