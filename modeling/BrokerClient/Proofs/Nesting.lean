import BrokerClient.Trace.Span
import Mathlib.Data.List.Perm.Basic

/-!
# Blocks in order of entry and in order of exit

A tree of blocks is run from the outside to the inside and from the first to the last. An error
leaves one block after another, and no block is entered after it: what is entered is the tree cut
short. Which blocks these are and which error leaves them depends on the blocks alone, whatever the
tracer is. A recording tracer notes the spans of the tree that is left in order of entry, and an
exporting one gets the same spans in order of exit.

## Main definitions

* `Block.escaping`, `Block.escapingAll` — the error that leaves a block, or a sequence of them.
* `Block.entered`, `Block.enteredAll` — what is entered of them.
* `Block.preorder`, `Block.postorder` — the spans of a block in order of entry and of exit.
* `Block.Nested` — blocks that are spans or failures, and all those inside them too.
* `Trail.follow` — a trail after spans were opened and others have ended.

## Main results

* `Block.runAll_eq` — the run of nested spans under any tracer.
* `Block.runAll_traverses` — what each tracer sees of one tree.
-/

namespace BrokerClient.Trace

namespace Block

/-! ### What is entered, and what escapes -/

mutual

/-- The error that leaves a block: the one that leaves what is inside it, else its own. -/
def escaping : Block → Option Error
  | .forget => none
  | .failure error => some error
  | .span _ inner error => (escapingAll inner).or error

/-- The error that leaves blocks one after another: the first that leaves any of them. -/
def escapingAll : List Block → Option Error
  | [] => none
  | b :: rest => b.escaping.or (escapingAll rest)

end

mutual

/-- What is entered of a block. -/
def entered : Block → Block
  | .forget => .forget
  | .failure error => .failure error
  | .span s inner error => .span s (enteredAll inner) error

/-- What is entered of blocks one after another: none after the first that an error leaves. -/
def enteredAll : List Block → List Block
  | [] => []
  | b :: rest => b.entered :: if b.escaping.isSome then [] else enteredAll rest

end

/-- Blocks that are spans or failures, and all those inside them too. -/
inductive Nested : List Block → Prop
  | nil : Nested []
  | failure {error rest} (after : Nested rest) : Nested (.failure error :: rest)
  | span {s inner error rest} (inside : Nested inner) (after : Nested rest) :
    Nested (.span s inner error :: rest)

/-! ### Orders of spans -/

mutual

/-- The spans of a block in order of entry. -/
def preorder : Block → List Span
  | .forget | .failure _ => []
  | .span s inner _ => s :: preorderAll inner

/-- The spans of blocks one after another in order of entry. -/
def preorderAll : List Block → List Span
  | [] => []
  | b :: rest => b.preorder ++ preorderAll rest

end

mutual

/-- The spans of a block in order of exit. -/
def postorder : Block → List Span
  | .forget | .failure _ => []
  | .span s inner _ => postorderAll inner ++ [s]

/-- The spans of blocks one after another in order of exit. -/
def postorderAll : List Block → List Span
  | [] => []
  | b :: rest => b.postorder ++ postorderAll rest

end

mutual

/-- What an exporter gets of a block, if all of it is entered. -/
def reports (parent : Option String) : Block → List FinishedSpan
  | .forget | .failure _ => []
  | .span s inner error =>
    reportsAll (some s.name) inner ++ [⟨s, parent, (escapingAll inner).or error⟩]

/-- What an exporter gets of blocks one after another, if all of them are entered. -/
def reportsAll (parent : Option String) : List Block → List FinishedSpan
  | [] => []
  | b :: rest => b.reports parent ++ reportsAll parent rest

end

mutual

theorem map_span_reports (parent : Option String) :
    ∀ b : Block, (b.reports parent).map (·.span) = b.postorder
  | .forget | .failure _ => rfl
  | .span s inner error => by
    rw [reports, postorder, List.map_append, map_span_reportsAll _ inner]
    rfl

/-- The reports are about the spans in order of exit. -/
theorem map_span_reportsAll (parent : Option String) :
    ∀ bs : List Block, (reportsAll parent bs).map (·.span) = postorderAll bs
  | [] => rfl
  | b :: rest => by
    rw [reportsAll, postorderAll, List.map_append, map_span_reports parent b,
      map_span_reportsAll parent rest]

end

mutual

theorem postorder_perm : ∀ b : Block, b.postorder.Perm b.preorder
  | .forget | .failure _ => .nil
  | .span s inner _ => by
    rw [postorder, preorder]
    exact List.perm_append_comm.trans ((postorderAll_perm inner).cons s)

/-- The same spans are left as are entered. -/
theorem postorderAll_perm : ∀ bs : List Block, (postorderAll bs).Perm (preorderAll bs)
  | [] => .nil
  | b :: rest => (postorder_perm b).append (postorderAll_perm rest)

end

mutual

theorem entered_eq_self : ∀ b : Block, b.escaping = none → b.entered = b
  | .forget, _ | .failure _, _ => rfl
  | .span s inner error, h => by
    rw [entered, enteredAll_eq_self inner (Option.or_eq_none_iff.mp h).1]

/-- If no error leaves them, all blocks are entered. -/
theorem enteredAll_eq_self : ∀ bs : List Block, escapingAll bs = none → enteredAll bs = bs
  | [], _ => rfl
  | b :: rest, h => by
    obtain ⟨none, h⟩ := Option.or_eq_none_iff.mp h
    rw [enteredAll, none, entered_eq_self b none, enteredAll_eq_self rest h]
    rfl

end

mutual

theorem escaping_entered : ∀ b : Block, b.entered.escaping = b.escaping
  | .forget | .failure _ => rfl
  | .span s inner error => by rw [entered, escaping, escaping, escapingAll_enteredAll inner]

/-- What is entered is left by the same error. -/
theorem escapingAll_enteredAll :
    ∀ bs : List Block, escapingAll (enteredAll bs) = escapingAll bs
  | [] => rfl
  | b :: rest => by
    rw [enteredAll, escapingAll, escapingAll, escaping_entered b]
    cases h : b.escaping with
    | none => exact congrArg _ (escapingAll_enteredAll rest)
    | some e => rfl

end

mutual

theorem isPrefix_preorder_entered : ∀ b : Block, b.entered.preorder <+: b.preorder
  | .forget | .failure _ => List.prefix_rfl
  | .span s inner _ => (List.prefix_cons_inj s).mpr (isPrefix_preorderAll_enteredAll inner)

/-- The blocks that are entered come first in order of entry. -/
theorem isPrefix_preorderAll_enteredAll :
    ∀ bs : List Block, preorderAll (enteredAll bs) <+: preorderAll bs
  | [] => List.prefix_rfl
  | b :: rest => by
    rw [enteredAll, preorderAll, preorderAll]
    cases h : b.escaping with
    | none =>
      rw [entered_eq_self b h]
      exact (List.prefix_append_right_inj _).mpr (isPrefix_preorderAll_enteredAll rest)
    | some e =>
      simp only [Option.isSome_some, if_true, preorderAll, List.append_nil]
      exact (isPrefix_preorder_entered b).trans (List.prefix_append _ _)

end

end Block

/-! ### Trails -/

/-- Notes spans one after another. -/
def Recorder.noteAll (ss : List Span) (r : Recorder) : Recorder :=
  { spans := r.spans ++ ss.map fun s => (s.name, s.attributes), kinds := r.kinds ++ ss.map (·.kind) }

namespace Trail

variable (tracer : Tracer) (t : Trail)

/-- The trail after spans were opened and others have ended. -/
def follow (opened : List Span) (finished : List FinishedSpan) : Trail where
  opened := t.opened ++ opened.map (·.name)
  recorder := match tracer with
    | .recording _ => t.recorder.noteAll opened
    | _ => t.recorder
  finished := match tracer with
    | .exporting => t.finished ++ finished
    | _ => t.finished

@[simp]
theorem follow_nil : t.follow tracer [] [] = t := by
  cases tracer <;> simp [follow, Recorder.noteAll]

@[simp]
theorem follow_follow (opened opened' : List Span) (finished finished' : List FinishedSpan) :
    (t.follow tracer opened finished).follow tracer opened' finished' =
      t.follow tracer (opened ++ opened') (finished ++ finished') := by
  cases tracer <;> simp [follow, Recorder.noteAll]

theorem enter_eq (s : Span) : t.enter tracer s = t.follow tracer [s] [] := by
  cases tracer <;> simp [enter, follow, Recorder.noteAll, Recorder.note]

theorem leave_eq (parent : Option String) (s : Span) (error : Option Error) :
    t.leave tracer parent s error = t.follow tracer [] [⟨s, parent, error⟩] := by
  cases tracer <;> simp [leave, follow, Recorder.noteAll]

end Trail

/-! ### Runs -/

namespace Block

variable {tracer : Tracer} {inner bs : List Block}

/-- A span is opened first, then what is inside it is run, and it ends with the error that leaves
it. -/
theorem run_span {s : Span} {error : Option Error}
    (h : ∀ parent t, runAll tracer parent t inner =
      (t.follow tracer (preorderAll (enteredAll inner)) (reportsAll parent (enteredAll inner)),
        escapingAll inner)) (parent : Option String) (t : Trail) :
    let b := span s inner error
    b.run tracer parent t =
      (t.follow tracer b.entered.preorder (b.entered.reports parent), b.escaping) := by
  simp only [run, h, Trail.enter_eq, Trail.leave_eq, Trail.follow_follow, entered, preorder, reports,
    escaping, escapingAll_enteredAll, Option.orElse_eq_or, List.cons_append, List.nil_append,
    List.append_nil]

/-- Nested spans are run as far as they are entered, whatever the tracer is, and left by the same
error; the tracer sees the spans in order of entry and the ends of them in order of exit. -/
theorem runAll_eq (nested : Nested bs) (tracer : Tracer) (parent : Option String) (t : Trail) :
    runAll tracer parent t bs =
      (t.follow tracer (preorderAll (enteredAll bs)) (reportsAll parent (enteredAll bs)),
        escapingAll bs) := by
  induction nested generalizing parent t with
  | nil => rw [runAll, enteredAll, preorderAll, reportsAll, Trail.follow_nil, escapingAll]
  | failure => simp [runAll, run, enteredAll, entered, preorderAll, preorder, reportsAll, reports,
      escapingAll, escaping]
  | @span s inner error rest inside after ih ih' =>
    rw [runAll, run_span ih, enteredAll, escapingAll]
    -- the rest is run only if no error leaves the span
    cases escapes : (span s inner error).escaping with
    | some e => simp [preorderAll, reportsAll]
    | none => simp [preorderAll, reportsAll, ih']

/-- Under any tracer the same spans are opened and the same error, if any, leaves them. What is
entered are the first spans in order of entry, and all of them unless an error leaves them. A
recording tracer notes these in order of entry, with as many kinds as names, and an exporting one
gets them in order of exit. -/
theorem runAll_traverses (nested : Nested bs) (parent : Option String) (t : Trail) :
    let seen := enteredAll bs
    (preorderAll seen <+: preorderAll bs ∧ (escapingAll bs = none → seen = bs)) ∧
      (∀ tracer, (runAll tracer parent t bs).2 = escapingAll bs ∧
        (runAll tracer parent t bs).1.opened = t.opened ++ (preorderAll seen).map (·.name)) ∧
      (∀ name, let r := (runAll (.recording name) parent t bs).1.recorder
        r.spans = t.recorder.spans ++ (preorderAll seen).map (fun s => (s.name, s.attributes)) ∧
        r.kinds = t.recorder.kinds ++ (preorderAll seen).map (·.kind) ∧
        (r.spans.length = r.kinds.length ↔
          t.recorder.spans.length = t.recorder.kinds.length)) ∧
      (runAll .exporting parent t bs).1.finished.map (·.span) =
        t.finished.map (·.span) ++ postorderAll seen ∧
      (postorderAll seen).Perm (preorderAll seen) := by
  intro seen
  refine ⟨⟨isPrefix_preorderAll_enteredAll bs, enteredAll_eq_self bs⟩, fun tracer => ?_,
    fun name => ?_, ?_, postorderAll_perm seen⟩
  · rw [runAll_eq nested]
    exact ⟨rfl, rfl⟩
  · rw [runAll_eq nested]
    refine ⟨rfl, rfl, ?_⟩
    simp [Trail.follow, Recorder.noteAll]
  · rw [runAll_eq nested, Trail.follow, List.map_append, map_span_reportsAll]

/-- A message that is sent in two attempts, of which the first is cut off before its end. -/
def cutOff : List Block :=
  [span { name := "publish", kind := .producer, attributes := none }
      [span { name := "attempt", attributes := none }
          [span { name := "confirm", kind := .consumer, attributes := none } [] none,
            failure (.fault .timeout "no confirm"),
            span { name := "settle", attributes := none } [] none]
          none,
        span { name := "attempt again", attributes := none } [] none]
      none,
    span { name := "next message", kind := .producer, attributes := none } [] none]

/-- Three of six spans are entered; they are noted from the outside to the inside and exported from
the inside to the outside. -/
theorem runAll_traverses_cutOff :
    Nested cutOff ∧
      (∀ tracer, (runAll tracer none {} cutOff).2 = some (.fault .timeout "no confirm")) ∧
      (runAll (.recording "spans") none {} cutOff).1.recorder.kinds =
        [.producer, .internal, .consumer] ∧
      (runAll .exporting none {} cutOff).1.finished.map (·.span.name) =
        ["confirm", "attempt", "publish"] := by
  have nested : Nested cutOff :=
    .span (.span (.span .nil (.failure (.span .nil .nil))) (.span .nil .nil)) (.span .nil .nil)
  obtain ⟨-, everywhere, recorded, exported, -⟩ := runAll_traverses nested none {}
  refine ⟨nested, fun tracer => (everywhere tracer).1, (recorded "spans").2.1, ?_⟩
  have names := congrArg (List.map (·.name)) exported
  rwa [List.map_map] at names

end Block

end BrokerClient.Trace
