import GradeRelay.Json.Printer
import GradeRelay.Sync.Report
import GradeRelay.Text.Column
/-!
# Listings

What the console shows: the assessor queue and the pending deliveries, one line each, and the
report on an event, a line for each thing that happened followed by the report as JSON. Marks and
states are coloured where colours are wanted.
-/

namespace GradeRelay

/-- How a piece of text is set off. -/
inductive Emphasis where
  | good
  | bad
  | caution
  | faint
  deriving DecidableEq, Repr, Inhabited

namespace Emphasis

/-- The control sequences in front of the text. -/
def opening : Emphasis → String
  | .good => "\x1b[32m\x1b[1m"
  | .bad => "\x1b[31m\x1b[1m"
  | .caution => "\x1b[33m"
  | .faint => "\x1b[2m"

/-- The text set off, if colours are wanted. -/
def apply (e : Emphasis) (colored : Bool) (text : String) : String :=
  if colored then e.opening ++ text ++ "\x1b[0m" else text

end Emphasis

/-- A number, or a dash for none. -/
def orDash (n : Option Int) : String :=
  match n with
  | none => "-"
  | some n => toString n

/-- The state of a review, in a column of eight. -/
def Review.State.column (colored : Bool) (s : Review.State) : String :=
  let e : Emphasis := match s with
    | .pending => .caution
    | .finished => .good
  e.apply colored (Text.alignLeft 8 s.label)

/-- The line of a review: four columns, and the number of the attempt. -/
def Review.line (colored : Bool) (r : Review) : String :=
  "attempt " ++ Text.alignRight 6 (toString r.attemptId) ++ "  " ++ r.state.column colored
    ++ "  assignee " ++ Text.alignLeft 8 (orDash r.assignee)
    ++ "  prior " ++ Text.alignLeft 8 (orDash r.priorAttemptId)
    ++ "  #" ++ toString r.attemptNumber.toNat

/-- The queue, or a remark that it is empty. -/
def listQueue (colored : Bool) (reviews : List Review) : String :=
  if reviews.isEmpty then Emphasis.faint.apply colored "Assessor queue is empty"
  else "\n".intercalate (reviews.map (Review.line colored))

/-- The line of a retry: its key, and when it was added. -/
def Retry.line (colored : Bool) (r : Retry) : String :=
  Emphasis.bad.apply colored "↻" ++ " " ++ r.key.label ++ "  added " ++ toString r.timeAdded

/-- The pending deliveries, or a remark that there are none. -/
def listOutbox (colored : Bool) (retries : List Retry) : String :=
  if retries.isEmpty then Emphasis.faint.apply colored "No pending deliveries"
  else "\n".intercalate (retries.map (Retry.line colored))

/-! ## Reports -/

/-- A number that may be absent. -/
def maybe (n : Option Int) : String :=
  match n with
  | none => "None"
  | some n => "Some(" ++ toString n ++ ")"

/-- A name with its fields in braces. -/
def withFields (name : String) (fields : List (String × String)) : String :=
  name ++ " \x7b " ++ ", ".intercalate (fields.map fun f => f.1 ++ ": " ++ f.2) ++ " \x7d"

/-- A transition in words. -/
def Transition.text : Transition → String
  | .start assignee prior =>
    withFields "Open" [("assignee", maybe assignee), ("prior_attempt_id", maybe prior)]
  | .finish assignee => withFields "Finish" [("assignee", toString assignee)]
  | .relink prior => withFields "ReconcilePrior" [("prior_attempt_id", toString prior)]
  | .unchanged => "Unchanged"

/-- The change of an allowance in words. -/
def Allowance.Change.text : Allowance.Change → String
  | .created permitted => withFields "Created" [("permitted", toString permitted.toNat)]
  | .raised was now =>
    withFields "Raised" [("from", toString was.toNat), ("to", toString now.toNat)]
  | .unchanged permitted => withFields "Unchanged" [("permitted", toString permitted.toNat)]

/-- The line of one delivery, with the reason and the recording where it failed. -/
def Handover.line (colored : Bool) (h : Handover) : String :=
  match h.arrival with
  | .delivered => "  " ++ Emphasis.good.apply colored "✓" ++ " Delivered " ++ h.resource.tag
  | .failed error recording =>
    "  " ++ Emphasis.bad.apply colored "✗" ++ " " ++ h.resource.tag ++ " failed (" ++ error
      ++ "), outbox: " ++ recording.label

/-- The lines of a report: one for each thing that was done, and one for each delivery. -/
def Report.lines (colored : Bool) (r : Report) : List String :=
  let dot := "  " ++ Emphasis.faint.apply colored "•"
  (r.skipped.map fun reason =>
      "  " ++ Emphasis.caution.apply colored "-" ++ " Skipped: " ++ reason.message).toList
    ++ (r.queue.map fun t => dot ++ " Queue: " ++ t.text).toList
    ++ (r.allowance.map fun c => dot ++ " Override: " ++ c.text).toList
    ++ (if 0 < r.carried then [dot ++ " Carried " ++ toString r.carried ++ " grade(s) onto resit"]
        else [])
    ++ r.handovers.map (Handover.line colored)

/-- A report: its lines, then the whole of it as JSON. -/
def Report.text (colored : Bool) (r : Report) : String :=
  "\n".intercalate (r.lines colored ++ [r.toJson.pretty])

end GradeRelay
