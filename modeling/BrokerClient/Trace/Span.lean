import BrokerClient.Error
import BrokerClient.Json.Basic

/-!
# Spans and tracers

A tracer opens a span around a block. The silent tracer does nothing, the recording one notes each
span when it is opened, and the exporting one reports a span when its block ends, with the error
that ended it. `Block.run` runs a tree of blocks under one of them. A span that is opened without a
kind is an internal one.
-/

namespace BrokerClient.Trace

/-- What a span is to the messages around it. -/
inductive SpanKind
  | «internal»
  | producer
  | consumer
  deriving DecidableEq, Inhabited, Repr

/-- The word for a kind of span. -/
def SpanKind.name : SpanKind → String
  | .internal => "internal"
  | .producer => "producer"
  | .consumer => "consumer"

/-- A named stretch of work with attributes; attributes that were not given differ from none. -/
structure Span where
  name : String
  kind : SpanKind := .internal
  attributes : Option (List (String × Json))
  deriving Inhabited, Repr

/-- What a recording tracer holds: the spans that were opened, with their attributes, and beside
them their kinds. -/
structure Recorder where
  spans : List (String × Option (List (String × Json))) := []
  kinds : List SpanKind := []
  deriving Inhabited

/-- Notes that a span is opened. -/
def Recorder.note (s : Span) (r : Recorder) : Recorder :=
  { spans := r.spans ++ [(s.name, s.attributes)], kinds := r.kinds ++ [s.kind] }

/-- The spans with their kinds. -/
def Recorder.recorded (r : Recorder) : List Span :=
  List.zipWith (fun (name, attributes) kind => { name, kind, attributes }) r.spans r.kinds

/-- How spans are followed. A recording tracer is known by a name. -/
inductive Tracer
  | silent
  | recording (name : String)
  | exporting
  deriving DecidableEq, Repr

/-- The tracer of a component: exporting if tracing is wanted and an exporter is there. -/
def Tracer.create (wanted available : Bool) : Tracer :=
  if wanted && available then .exporting else .silent

/-- Whether a tracer follows spans. -/
def Tracer.isEnabled : Tracer → Bool
  | .silent => false
  | _ => true

/-- A span whose block has ended. -/
structure FinishedSpan where
  span : Span
  parent : Option String
  /-- The error that ended the block. -/
  error : Option Error
  deriving Repr

/-- Blocks to run, each in a span, with the blocks inside them. A block may end with an error, a
`failure` raises one between two blocks, and `forget` makes a recording tracer drop what it has
noted. -/
inductive Block
  | span (span : Span) (inner : List Block) (error : Option Error)
  | failure (error : Error)
  | forget
  deriving Repr

/-- What a run of blocks leaves behind: the names of the spans in opening order, what a recording
tracer holds, and the spans an exporter got, the first one first. -/
structure Trail where
  opened : List String := []
  recorder : Recorder := {}
  finished : List FinishedSpan := []
  deriving Inhabited

/-- The spans that a recording tracer holds. -/
def Trail.recorded (t : Trail) : List Span :=
  t.recorder.recorded

/-- Notes that a span is opened. -/
def Trail.enter (t : Trail) (tracer : Tracer) (s : Span) : Trail :=
  let opened := t.opened ++ [s.name]
  match tracer with
  | .recording _ => { t with opened := opened, recorder := t.recorder.note s }
  | _ => { t with opened := opened }

/-- Notes that the block of a span has ended. -/
def Trail.leave (t : Trail) (tracer : Tracer) (parent : Option String) (s : Span)
    (error : Option Error) : Trail :=
  match tracer with
  | .exporting => { t with finished := t.finished ++ [⟨s, parent, error⟩] }
  | _ => t

mutual

/-- Runs a block; gives the error that leaves it, if any. -/
def Block.run (tracer : Tracer) (parent : Option String) (t : Trail) :
    Block → Trail × Option Error
  | .failure error => (t, some error)
  | .forget => ({ t with recorder := {} }, none)
  | .span s inner error =>
    let (t, escaped) := Block.runAll tracer (some s.name) (t.enter tracer s) inner
    let error := escaped.orElse fun _ => error
    (t.leave tracer parent s error, error)

/-- Runs blocks one after another up to the first that ends with an error. -/
def Block.runAll (tracer : Tracer) (parent : Option String) (t : Trail) :
    List Block → Trail × Option Error
  | [] => (t, none)
  | b :: rest =>
    match Block.run tracer parent t b with
    | (t, some e) => (t, some e)
    | (t, none) => Block.runAll tracer parent t rest

end

end BrokerClient.Trace
