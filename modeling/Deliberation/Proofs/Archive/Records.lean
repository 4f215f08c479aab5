import Deliberation.Archive.Stamped
import Deliberation.Debate.Verdict
import Deliberation.Dialogue.Completion
import Deliberation.Dialogue.Validation
import Deliberation.Pipe.Wire
import Deliberation.Proofs.Archive.Timestamp
import Deliberation.Proofs.Json.Document
import Deliberation.Proofs.Number.Linear
import Deliberation.Proofs.Pipe.Mapping
import Deliberation.Reflection.Memory
import Deliberation.Task.Selection

namespace Deliberation

open Json Number

theorem Task.carries (t : Task) (n : Nat) : Carries Task.decode (n + 2) t.encode t := by
  have hd := carries_string (n + 1) t.description
  have hc := carries_strings n t.constraints
  have ht := carries_strings n t.toolNames
  refine carries_record (by decide) (.all (by simp [hc.legible, ht.legible])) ?_
  rw [required_ofFields rfl hd, orElse_ofFields _ rfl hc, orElse_ofFields _ rfl ht]
  rfl

structure Options.Storable (o : Options) : Prop where
  counts : ∀ c ∈ [o.maxIterations, o.maxRounds, o.maxDepth, o.branchFactor, o.beamWidth,
    o.debaterCount, o.callTimeoutMs], c < wordBound
  confidenceFloor : Kept o.confidenceFloor

theorem Options.carries {o : Options} (h : o.Storable) (n : Nat) :
    Carries Options.decode (n + 1) o.encode o := by
  have hstrategy : CarriesAny Strategy.decode n Strategy.encode o.strategy := fun s _ =>
    ⟨carries_name n s.ofName?_name, by simp [Strategy.encode]⟩
  have hcounts : ∀ c ∈ _, Carries (.count wordBound) n (.count c) c := fun c hc =>
    carries_count n (h.counts c hc) le_rfl
  simp only [List.forall_mem_cons] at hcounts
  obtain ⟨hiterations, hrounds, hdepth, hfactor, hwidth, hdebaters, htimeout, -⟩ := hcounts
  have hfloor := carries_float n h.confidenceFloor
  refine carries_record (by decide) ((FieldsOf.present hstrategy).append (.all ?_)) ?_
  · simp [hiterations.legible, hrounds.legible, hdepth.legible, hfactor.legible, hwidth.legible,
      hdebaters.legible, htimeout.legible, hfloor.legible]
  · dsimp only
    rw [show default.strategy = none from rfl, orElse_present ?_ hstrategy,
      orElse_ofFields _ ?_ hiterations, orElse_ofFields _ ?_ hrounds, orElse_ofFields _ ?_ hdepth,
      orElse_ofFields _ ?_ hfactor, orElse_ofFields _ ?_ hwidth, orElse_ofFields _ ?_ hdebaters,
      orElse_ofFields _ ?_ hfloor, orElse_ofFields _ ?_ htimeout]
    · rfl
    all_goals simp [List.lookup_cons]

theorem Reflection.Entry.carries {e : Reflection.Entry} (h : e.attemptNumber < wordBound)
    (n : Nat) : Carries Entry.decode (n + 1) e.encode e := by
  have hk := carries_count n h le_rfl
  have ho := carries_string n e.outcome
  have hf := carriesAny_string n e.feedback
  have hc := carriesAny_string n e.critique
  refine carries_record (by decide)
    (((FieldsOf.all (by simp [hk.legible])).append (.present hf)).append (.present hc)) ?_
  rw [required_ofFields rfl hk, required_ofFields rfl ho, optional_present ?_ hf,
    optional_present ?_ hc]
  · rfl
  all_goals simp [List.lookup_cons]

theorem Debate.Argument.carries {a : Debate.Argument} (hr : a.round < wordBound)
    (hd : a.debaterId < wordBound) (n : Nat) : Carries Argument.decode (n + 1) a.encode a := by
  have hround := carries_count n hr le_rfl
  have hdebater := carries_count n hd le_rfl
  have hperspective := carries_string n a.perspective
  have hargument := carries_string n a.argument
  refine carries_record (by decide) (.all (by simp [hround.legible, hdebater.legible])) ?_
  dsimp only
  rw [required_ofFields rfl hround, required_ofFields rfl hdebater,
    required_ofFields rfl hperspective, required_ofFields rfl hargument]
  rfl

theorem Debate.Verdict.carries {v : Debate.Verdict} (h : Kept v.confidence) (n : Nat) :
    Carries Verdict.decode (n + 1) v.encode v := by
  have happroach := carries_string n v.selectedApproach
  have hinsights := carries_string n v.synthesizedInsights
  have hconfidence := carries_float n h
  refine carries_record (by decide) (.all (by simp [hconfidence.legible])) ?_
  rw [required_ofFields rfl happroach, required_ofFields rfl hinsights,
    required_ofFields rfl hconfidence]
  rfl

theorem Selection.Recommendation.carries {r : Selection.Recommendation} (h : Kept r.complexity)
    (n : Nat) : Carries Recommendation.decode (n + 1) r.encode r := by
  have hstrategy := carries_name n r.strategy.ofName?_name
  have hrationale := carries_string n r.rationale
  have hcomplexity := carries_float n h
  refine carries_record (by decide) (.all (by simp [Strategy.encode, hcomplexity.legible])) ?_
  rw [Strategy.decode, required_ofFields rfl hstrategy, required_ofFields rfl hrationale,
    required_ofFields rfl hcomplexity]
  rfl

section Dialogue

variable {n : Nat}

theorem ToolCall.carries {c : ToolCall} (h : c.arguments.Storable) (hn : c.encode.Nests n) :
    Carries ToolCall.decode n c.encode c := by
  obtain ⟨n, rfl, hfields⟩ := hn.of_object
  have hid := carries_string n c.id
  have hname := carries_string n c.name
  have harguments := carries_value h (hfields ("arguments", c.arguments) (by simp))
  refine carries_record (by decide) (.all (by simp [harguments.legible])) ?_
  rw [required_ofFields rfl hid, required_ofFields rfl hname, orElse_ofFields _ rfl harguments]
  rfl

theorem ToolCall.carries_calls {calls : List ToolCall} (h : ∀ c ∈ calls, c.arguments.Storable)
    (hn : (Json.array (calls.map ToolCall.encode)).Nests n) :
    Carries (.list ToolCall.decode) n (.array (calls.map ToolCall.encode)) calls := by
  obtain ⟨n, rfl, hitems⟩ := hn.of_array
  exact carries_list fun c hc => ToolCall.carries (h c hc) (hitems _ (List.mem_map_of_mem hc))

theorem ToolDeclaration.carries {d : ToolDeclaration} (h : d.parameters.Storable)
    (hn : d.encode.Nests n) : Carries ToolDeclaration.decode n d.encode d := by
  obtain ⟨n, rfl, hfields⟩ := hn.of_object
  have hname := carries_string n d.name
  have hdescription := carries_string n d.description
  have hparameters := carries_value h (hfields ("parameters", d.parameters) (by simp))
  refine carries_record (by decide) (.all (by simp [hparameters.legible])) ?_
  rw [required_ofFields rfl hname, required_ofFields rfl hdescription,
    required_ofFields rfl hparameters]
  rfl

theorem Message.carries {m : Message}
    (h : ∀ calls ∈ m.toolCalls, ∀ c ∈ calls, c.arguments.Storable) (hn : m.encode.Nests n) :
    Carries Message.decode n m.encode m := by
  obtain ⟨n, rfl, hfields⟩ := hn.of_object
  have hrole := carries_name n m.role.ofName?_name
  have hcontent := carries_string n m.content
  have hcalls : CarriesAny (.list ToolCall.decode) n
      (fun calls => .array (calls.map ToolCall.encode)) m.toolCalls := by
    intro calls hc
    have hfield := hfields ("tool_calls", .array (calls.map ToolCall.encode))
      (by simp [present, Option.mem_def.1 hc])
    exact ⟨ToolCall.carries_calls (h calls hc) hfield, by simp⟩
  have hanswers := carriesAny_string n m.answers
  refine carries_record (by decide)
    (((FieldsOf.all (by simp)).append (.present hcalls)).append (.present hanswers)) ?_
  rw [required_ofFields rfl hrole, required_ofFields rfl hcontent, optional_present ?_ hcalls,
    optional_present ?_ hanswers]
  · rfl
  all_goals simp [List.lookup_cons]

def Usage.Storable (u : Usage) : Prop :=
  ∀ c ∈ [u.promptTokens, u.completionTokens, u.totalTokens], c < halfWordBound

theorem Usage.carries {u : Usage} (h : u.Storable) (n : Nat) :
    Carries Usage.decode (n + 1) u.encode u := by
  have hcounts : ∀ c ∈ _, Carries (.count halfWordBound) n (.count c) c := fun c hc =>
    carries_count n (h c hc) (by decide)
  simp only [List.forall_mem_cons] at hcounts
  obtain ⟨hprompt, hcompletion, htotal, -⟩ := hcounts
  refine carries_record (by decide)
    (.all (by simp [hprompt.legible, hcompletion.legible, htotal.legible])) ?_
  dsimp only
  rw [orElse_ofFields _ rfl hprompt, orElse_ofFields _ rfl hcompletion,
    orElse_ofFields _ rfl htotal]
  rfl

theorem Completion.carries {c : Completion} (h : ∀ call ∈ c.toolCalls, call.arguments.Storable)
    (hu : c.usage.Storable) (hn : c.encode.Nests n) :
    Carries Completion.decode n c.encode c := by
  obtain ⟨n, rfl, hfields⟩ := hn.of_object
  have htext := carries_string n c.text
  have hcalls := ToolCall.carries_calls h (hfields ("tool_calls", _) (by simp))
  obtain ⟨k, hk, -⟩ := (hfields ("usage", c.usage.encode) (by simp)).of_object
  have husage := Usage.carries hu k
  rw [← hk] at husage
  refine carries_record (by decide) (.all (by simp [hcalls.legible, husage.legible])) ?_
  rw [required_ofFields rfl htext, orElse_ofFields _ rfl hcalls, orElse_ofFields _ rfl husage]
  rfl

theorem ToolOutcome.carries (o : ToolOutcome) (n : Nat) :
    Carries ToolOutcome.decode (n + 1) o.encode o := by
  have hsuccess := carries_bool n o.success
  have houtput := carries_string n o.output
  have herror := carriesAny_string n o.error
  refine carries_record (by decide) ((FieldsOf.all (by simp)).append (.present herror)) ?_
  rw [required_ofFields rfl hsuccess, required_ofFields rfl houtput, optional_present ?_ herror]
  · rfl
  · simp [List.lookup_cons]

theorem Validation.carries {v : Validation} (h : ∀ x ∈ v.score, Kept x) (n : Nat) :
    Carries Validation.decode (n + 1) v.encode v := by
  have hpassed := carries_bool n v.passed
  have hscore : CarriesAny .float n .real v.score := fun x hx =>
    ⟨carries_float n (h x hx), real_ne_null (h x hx)⟩
  have hfeedback := carriesAny_string n v.feedback
  refine carries_record (by decide)
    (((FieldsOf.all (by simp)).append (.present hscore)).append (.present hfeedback)) ?_
  rw [required_ofFields rfl hpassed, optional_present ?_ hscore, optional_present ?_ hfeedback]
  · rfl
  all_goals simp [List.lookup_cons]

end Dialogue

namespace Pipe

theorem WireCall.carries (c : WireCall) (n : Nat) : Carries WireCall.decode (n + 2) c.encode c := by
  have hid := carries_string (n + 1) c.id
  have hkind := carries_string (n + 1) c.kind
  have hname := carries_string n c.name
  have harguments := carries_string n c.arguments
  have hfunction : Carries decodeFunction (n + 1)
      (.object [("name", .string c.name), ("arguments", .string c.arguments)])
      (c.name, c.arguments) := by
    refine carries_record (by decide) (.all (by simp)) ?_
    rw [required_ofFields rfl hname, orElse_ofFields _ rfl harguments]
    rfl
  refine carries_record (by decide) (.all (by simp [hfunction.legible])) ?_
  rw [required_ofFields rfl hid, orElse_ofFields _ rfl hkind, required_ofFields rfl hfunction]
  rfl

theorem WireMessage.carries (m : WireMessage) (n : Nat) :
    Carries WireMessage.decode (n + 4) m.encode m := by
  have hrole := carries_name (n + 3) m.role.ofName?_name
  have hcontent := carries_string (n + 3) m.content
  have hcalls : CarriesAny (.list WireCall.decode) (n + 3)
      (fun calls => .array (calls.map WireCall.encode)) m.toolCalls := fun calls _ =>
    ⟨carries_list fun c _ => c.carries n, by simp⟩
  have hanswers := carriesAny_string (n + 3) m.answers
  refine carries_record (by decide)
    (((FieldsOf.all (by simp)).append (.present hcalls)).append (.present hanswers)) ?_
  rw [required_ofFields rfl hrole, required_ofFields rfl hcontent,
    orElse_present ?_ hcalls, orElse_present ?_ hanswers]
  · rfl
  all_goals simp [List.lookup_cons]

theorem WireTool.carries {t : WireTool} {n : Nat} (h : t.parameters.Storable)
    (hn : t.encode.Nests n) : Carries WireTool.decode n t.encode t := by
  obtain ⟨n, rfl, hfields⟩ := hn.of_object
  have hkind := carries_string n t.kind
  have hfunction : Carries ToolDeclaration.decode n (.object [("name", .string t.name),
      ("description", .string t.description), ("parameters", t.parameters)])
      ⟨t.name, t.description, t.parameters⟩ :=
    ToolDeclaration.carries (d := ⟨t.name, t.description, t.parameters⟩) h
      (hfields ("function", _) (by simp))
  refine carries_record (by decide) (.all (by simp [hfunction.legible])) ?_
  rw [required_ofFields rfl hkind, required_ofFields rfl hfunction]
  rfl

end Pipe

namespace Archive

theorem Timestamp.carries {t : Timestamp} (h : t.Valid) (n : Nat) :
    Carries Timestamp.decode n t.encode t where
  legible := legible_string _
  decodes := by
    rw [decode, encode, Syntax.ofJson, Decoder.string, Option.bind_some, read?_render h]

theorem StampedStep.carries {s : StampedStep} (h : s.timestamp.Valid) (n : Nat) :
    Carries StampedStep.decode (n + 1) s.encode s := by
  have hstage := carries_name n s.stage.ofName?_name
  have hcontent := carries_string n s.content
  have htimestamp := Timestamp.carries h n
  refine carries_record (by decide) (.all (by simp [htimestamp.legible])) ?_
  rw [required_ofFields rfl hstage, required_ofFields rfl hcontent,
    required_ofFields rfl htimestamp]
  rfl

theorem StampedTrace.carries {t : StampedTrace} (h : ∀ s ∈ t.steps, s.timestamp.Valid) (n : Nat) :
    Carries StampedTrace.decode (n + 3) t.encode t := by
  have hid := carries_string (n + 2) t.id
  have hsteps := carries_list fun s hs => StampedStep.carries (h s hs) n
  refine carries_record (by decide) (.all (by simp [hsteps.legible])) ?_
  rw [required_ofFields rfl hid, required_ofFields rfl hsteps]
  rfl

theorem StampedResult.carries {r : StampedResult} (hc : Kept r.confidence)
    (ht : ∀ s ∈ r.trace.steps, s.timestamp.Valid) (n : Nat) :
    Carries StampedResult.decode (n + 4) r.encode r := by
  have hstrategy := carries_name (n + 3) r.strategy.ofName?_name
  have hanswer := carries_string (n + 3) r.finalAnswer
  have hconfidence := carries_float (n + 3) hc
  have htrace := StampedTrace.carries ht n
  have hsucceeded := carries_bool (n + 3) r.succeeded
  refine carries_record (by decide)
    (.all (by simp [Strategy.encode, hconfidence.legible, htrace.legible])) ?_
  rw [Strategy.decode, required_ofFields rfl hstrategy, required_ofFields rfl hanswer,
    required_ofFields rfl hconfidence, required_ofFields rfl htrace,
    required_ofFields rfl hsucceeded]
  rfl

structure StampedNode.Storable (m : StampedNode) : Prop where
  id : m.node.id < wordBound
  parent : ∀ p ∈ m.node.parent, p < wordBound
  depth : m.node.depth < wordBound
  score : ∀ s ∈ m.node.score, Kept s.value
  createdAt : m.createdAt.Valid

theorem ofFloat_value {s : Search.Score} (h : s.value.isFinite = true) :
    Search.Score.ofFloat s.value = s :=
  congrArg Search.Score.mk (toBits_ofBits h)

theorem StampedNode.carries {m : StampedNode} (h : m.Storable) (n : Nat) :
    Carries StampedNode.decode (n + 1) m.encode m := by
  have hid := carries_count n h.id le_rfl
  have hparent : CarriesAny (.count wordBound) n .count m.node.parent := fun p hp =>
    ⟨carries_count n (h.parent p hp) le_rfl, by simp [Json.count]⟩
  have hdepth := carries_count n h.depth le_rfl
  have hcontent := carries_string n m.node.content
  have hscore : CarriesAny .float n .real (m.node.score.map Search.Score.value) := by
    intro x hx
    obtain ⟨s, hs, rfl⟩ := Option.mem_map.1 hx
    exact ⟨carries_float n (h.score s hs), real_ne_null (h.score s hs)⟩
  have hvalue : (m.node.score.map Search.Score.value).map Search.Score.ofFloat = m.node.score := by
    cases hs : m.node.score with
    | none => rfl
    | some s => exact congrArg some (ofFloat_value (h.score s hs).isFinite)
  have hwritten := hscore.getD
  rw [Option.map_map] at hwritten
  have hcreated := Timestamp.carries h.createdAt n
  refine carries_record (by decide) (.all ?_) ?_
  · simp only [List.forall_mem_cons]
    exact ⟨hid.legible, hparent.getD.legible, hdepth.legible, hcontent.legible, hwritten.legible,
      hcreated.legible, List.forall_mem_nil _⟩
  · dsimp only
    rw [required_ofFields rfl hid, required_ofFields rfl hdepth, required_ofFields rfl hcontent,
      required_ofFields rfl hcreated, optional_ofFields rfl hparent.getD,
      optional_ofFields rfl hwritten]
    simp only [Option.bind_eq_bind, Option.bind_some, hvalue]
    rfl

theorem StampedTree.carries {t : StampedTree} (h : ∀ m ∈ t.nodes, m.Storable) (n : Nat) :
    Carries StampedTree.decode (n + 3) t.encode t := by
  have hnodes := carries_list fun m hm => StampedNode.carries (h m hm) n
  refine carries_record (by decide) (.all (by simp [hnodes.legible])) ?_
  rw [required_ofFields rfl hnodes]
  rfl

end Archive

theorem decodeText_encode_text :
    (∀ t : Task, decodeText Task.decode t.encode.text = some t) ∧
    (∀ o : Options, o.Storable → decodeText Options.decode o.encode.text = some o) ∧
    (∀ e : Reflection.Entry, e.attemptNumber < wordBound →
      decodeText Reflection.Entry.decode e.encode.text = some e) ∧
    (∀ a : Debate.Argument, a.round < wordBound → a.debaterId < wordBound →
      decodeText Debate.Argument.decode a.encode.text = some a) ∧
    (∀ v : Debate.Verdict, Kept v.confidence →
      decodeText Debate.Verdict.decode v.encode.text = some v) ∧
    (∀ r : Selection.Recommendation, Kept r.complexity →
      decodeText Selection.Recommendation.decode r.encode.text = some r) ∧
    (∀ r : Archive.StampedResult, Kept r.confidence →
      (∀ s ∈ r.trace.steps, s.timestamp.Valid) →
      decodeText Archive.StampedResult.decode r.encode.text = some r) ∧
    (∀ t : Archive.StampedTrace, (∀ s ∈ t.steps, s.timestamp.Valid) →
      decodeText Archive.StampedTrace.decode t.encode.text = some t) ∧
    (∀ m : Archive.StampedNode, m.Storable →
      decodeText Archive.StampedNode.decode m.encode.text = some m) ∧
    (∀ t : Archive.StampedTree, (∀ m ∈ t.nodes, m.Storable) →
      decodeText Archive.StampedTree.decode t.encode.text = some t) ∧
    (∀ m : Message, (∀ calls ∈ m.toolCalls, ∀ c ∈ calls, c.arguments.Storable) →
      m.encode.Nests nesting → decodeText Message.decode m.encode.text = some m) ∧
    (∀ c : ToolCall, c.arguments.Storable → c.encode.Nests nesting →
      decodeText ToolCall.decode c.encode.text = some c) ∧
    (∀ d : ToolDeclaration, d.parameters.Storable → d.encode.Nests nesting →
      decodeText ToolDeclaration.decode d.encode.text = some d) ∧
    (∀ u : Usage, u.Storable → decodeText Usage.decode u.encode.text = some u) ∧
    (∀ c : Completion, (∀ call ∈ c.toolCalls, call.arguments.Storable) → c.usage.Storable →
      c.encode.Nests nesting → decodeText Completion.decode c.encode.text = some c) ∧
    (∀ o : ToolOutcome, decodeText ToolOutcome.decode o.encode.text = some o) ∧
    (∀ v : Validation, (∀ x ∈ v.score, Kept x) →
      decodeText Validation.decode v.encode.text = some v) ∧
    (∀ m : Pipe.WireMessage, decodeText Pipe.WireMessage.decode m.encode.text = some m) ∧
    (∀ c : Pipe.WireCall, decodeText Pipe.WireCall.decode c.encode.text = some c) ∧
    (∀ t : Pipe.WireTool, t.parameters.Storable → t.encode.Nests nesting →
      decodeText Pipe.WireTool.decode t.encode.text = some t) := by
  refine ⟨?task, ?options, ?entry, ?argument, ?verdict, ?recommendation, ?result, ?trace, ?node,
    ?tree, ?message, ?call, ?declaration, ?usage, ?completion, ?outcome, ?validation, ?wireMessage,
    ?wireCall, ?wireTool⟩
  case task => exact fun t => (t.carries 125).decodeText
  case options => exact fun o h => (Options.carries h 126).decodeText
  case entry => exact fun e h => (Reflection.Entry.carries h 126).decodeText
  case argument => exact fun a hr hd => (Debate.Argument.carries hr hd 126).decodeText
  case verdict => exact fun v h => (Debate.Verdict.carries h 126).decodeText
  case recommendation => exact fun r h => (Selection.Recommendation.carries h 126).decodeText
  case result => exact fun r hc ht => (Archive.StampedResult.carries hc ht 123).decodeText
  case trace => exact fun t h => (Archive.StampedTrace.carries h 124).decodeText
  case node => exact fun m h => (Archive.StampedNode.carries h 126).decodeText
  case tree => exact fun t h => (Archive.StampedTree.carries h 124).decodeText
  case message => exact fun m h hn => (Message.carries h hn).decodeText
  case call => exact fun c h hn => (ToolCall.carries h hn).decodeText
  case declaration => exact fun d h hn => (ToolDeclaration.carries h hn).decodeText
  case usage => exact fun u h => (Usage.carries h 126).decodeText
  case completion => exact fun c h hu hn => (Completion.carries h hu hn).decodeText
  case outcome => exact fun o => (o.carries 126).decodeText
  case validation => exact fun v h => (Validation.carries h 126).decodeText
  case wireMessage => exact fun m => (m.carries 123).decodeText
  case wireCall => exact fun c => (c.carries 125).decodeText
  case wireTool => exact fun t h hn => (Pipe.WireTool.carries h hn).decodeText

/-! ### One record of each kind that asks for something -/

namespace Sample

def leapDay : Archive.Timestamp :=
  ⟨⟨2024, 2, 29⟩, 1439, 60, 120000000⟩

theorem valid_leapDay : leapDay.Valid := by
  constructor <;> decide

theorem kept_half : Kept 0.5 where
  isFinite := by decide
  legible := Pipe.exact_half 0.5 (.field (List.mem_singleton_self _) (.item (by simp) .number))

theorem storable_half : Pipe.half.Storable :=
  ⟨Pipe.wellFormed_half, Pipe.exact_half⟩

def options : Options :=
  { confidenceFloor := 0.5 }

theorem storable_options : options.Storable where
  counts := by decide
  confidenceFloor := kept_half

def trace : Archive.StampedTrace :=
  ⟨"t1", [⟨.think, "Look", leapDay⟩]⟩

theorem valid_trace : ∀ s ∈ trace.steps, s.timestamp.Valid :=
  List.forall_mem_singleton.2 valid_leapDay

def node : Archive.StampedNode :=
  ⟨⟨1, some 0, 1, "Try", some (.ofFloat 0.5)⟩, leapDay⟩

theorem storable_node : node.Storable where
  id := by decide
  parent := by
    rintro p ⟨⟩
    decide
  depth := by decide
  score := by
    rintro s ⟨⟩
    exact kept_half
  createdAt := valid_leapDay

def call : ToolCall :=
  ⟨"c1", "lookup", Pipe.half⟩

theorem storable_calls : ∀ c ∈ [call], c.arguments.Storable :=
  List.forall_mem_singleton.2 storable_half

def completion : Completion :=
  ⟨"", [call], ⟨3, 4, 7⟩⟩

end Sample

open Sample

theorem decodeText_encode_text_sample :
    decodeText Options.decode options.encode.text = some options ∧
    decodeText Reflection.Entry.decode (Reflection.Entry.mk 1 "no" none (some "why")).encode.text =
      some ⟨1, "no", none, some "why"⟩ ∧
    decodeText Debate.Argument.decode (Debate.Argument.mk 0 2 "Skeptic" "No").encode.text =
      some ⟨0, 2, "Skeptic", "No"⟩ ∧
    decodeText Debate.Verdict.decode (Debate.Verdict.mk "A" "B" 0.5).encode.text =
      some ⟨"A", "B", 0.5⟩ ∧
    decodeText Selection.Recommendation.decode
      (Selection.Recommendation.mk .debate "versus" 0.5).encode.text =
      some ⟨.debate, "versus", 0.5⟩ ∧
    decodeText Archive.StampedResult.decode
      (Archive.StampedResult.mk .treeSearch "42" 0.5 trace true).encode.text =
      some ⟨.treeSearch, "42", 0.5, trace, true⟩ ∧
    decodeText Archive.StampedTrace.decode trace.encode.text = some trace ∧
    decodeText Archive.StampedNode.decode node.encode.text = some node ∧
    decodeText Archive.StampedTree.decode (Archive.StampedTree.mk [node]).encode.text =
      some ⟨[node]⟩ ∧
    decodeText Message.decode (Message.requesting "" [call]).encode.text =
      some (.requesting "" [call]) ∧
    decodeText ToolCall.decode call.encode.text = some call ∧
    decodeText ToolDeclaration.decode (ToolDeclaration.mk "lookup" "Finds" Pipe.half).encode.text =
      some ⟨"lookup", "Finds", Pipe.half⟩ ∧
    decodeText Usage.decode completion.usage.encode.text = some completion.usage ∧
    decodeText Completion.decode completion.encode.text = some completion ∧
    decodeText Validation.decode (Validation.pass.withScore 0.5).encode.text =
      some (Validation.pass.withScore 0.5) ∧
    decodeText Pipe.WireTool.decode
      (Pipe.WireTool.mk "function" "lookup" "Finds" Pipe.half).encode.text =
      some ⟨"function", "lookup", "Finds", Pipe.half⟩ := by
  obtain ⟨-, hoptions, hentry, hargument, hverdict, hrecommendation, hresult, htrace, hnode, htree,
    hmessage, hcall, hdeclaration, husage, hcompletion, -, hvalidation, -, -, htool⟩ :=
    decodeText_encode_text
  have hcounts : completion.usage.Storable := by
    rw [Usage.Storable]
    decide
  have hcalls : ∀ calls ∈ (Message.requesting "" [call]).toolCalls,
      ∀ c ∈ calls, c.arguments.Storable := by
    rintro calls ⟨⟩
    exact storable_calls
  have hscored : ∀ x ∈ (Validation.pass.withScore 0.5).score, Kept x := by
    have hclamp : Number.clamp 0.5 = 0.5 := by decide
    rintro x ⟨⟩
    rw [hclamp]
    exact kept_half
  refine ⟨hoptions _ storable_options, hentry _ (by decide), hargument _ (by decide) (by decide),
    hverdict _ kept_half, hrecommendation _ kept_half, hresult _ kept_half valid_trace,
    htrace _ valid_trace, hnode _ storable_node,
    htree _ (List.forall_mem_singleton.2 storable_node), hmessage _ hcalls ?_,
    hcall _ storable_half ?_, hdeclaration _ storable_half ?_, husage _ hcounts,
    hcompletion _ storable_calls hcounts ?_, hvalidation _ hscored, htool _ storable_half ?_⟩
  all_goals
    simp [Message.requesting, Message.encode, ToolCall.encode, ToolDeclaration.encode,
      Completion.encode, Usage.encode, Pipe.WireTool.encode, completion, call, Pipe.half, present,
      Json.count, nesting]

end Deliberation
