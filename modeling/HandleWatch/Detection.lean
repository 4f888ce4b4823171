import HandleWatch.OpenTable
import HandleWatch.Outcome
import HandleWatch.Quarantine
import HandleWatch.Sink
import HandleWatch.Tally

/-!
# Detection of invalid uses

An id is valid if it is open; if not, it is a use after close if a handle of
this id is in quarantine, and unknown else. A use that is not valid is counted
and reported.
-/

namespace HandleWatch

variable {α : Type}

/-- What an id stands for, and the handle, open or closed, that it does. -/
def classify (table : OpenTable α) (quarantine : Quarantine α) (id : HandleId) :
    Classification × Option (Handle α) :=
  match table.find? id with
  | some h => (.valid, some h)
  | none =>
    match quarantine.find? id with
    | some h => (.useAfterClose, some h)
    | none => (.unknown, none)

namespace Tally

/-- Counts an invalid use. -/
def countUse (t : Tally) : Classification → Tally
  | .valid => t
  | .useAfterClose => { t with useAfterClose := t.useAfterClose + 1 }
  | .unknown => { t with unknownHandles := t.unknownHandles + 1 }

/-- Counts the answer to a report. -/
def countDelivery (t : Tally) : Delivery → Tally
  | .unheard | .crashed _ => t
  | .accepted => { t with reportsDelivered := t.reportsDelivered + 1 }
  | .refused _ => { t with callbackFailures := t.callbackFailures + 1 }

end Tally

/-- What a use comes to after the delivery of its report. -/
def Delivery.outcome (id : HandleId) (classification : Classification) :
    Delivery → Outcome Classification
  | .unheard | .accepted => .done classification
  | .refused reason => .failed (.hookRefused id classification reason)
  | .crashed message => .crashed message

/-- Checks the use of an id: it is classified, and counted and reported if it
    is not valid. The use counts before the report is delivered, and stays
    counted if the hook crashes. -/
def detect (table : OpenTable α) (quarantine : Quarantine α) (sink : Sink InvalidUse)
    (tally : Tally) (id : HandleId) (operation : Operation) :
    Outcome Classification × Sink InvalidUse × Tally :=
  match classify table quarantine id with
  | (.valid, _) => (.done .valid, sink, tally)
  | (classification, known) =>
    let report : InvalidUse :=
      { id
        classification
        generation := known.map (·.record.generation)
        sequence := known.map (·.record.sequence)
        operation }
    let (delivery, sink) := sink.deliver report
    (delivery.outcome id classification, sink,
      (tally.countUse classification).countDelivery delivery)

end HandleWatch
