import LoadChart.Application.Step
import LoadChart.Proofs.Collection
import LoadChart.Proofs.Query.Operations
import Mathlib.Logic.Relation

/-!
# Histories of the application

The application moves by commands whose effects are performed, by answers of the service in any
order, by refreshing its grid, and by what the surroundings do with its messages and its outbox.
The reachable states are those after any number of such steps.

A history may be followed together with a ledger of what has passed between the application and the
service: the tasks that were taken from its outbox, and the answers that have arrived.  So it can be
said of what the application shows from which answer it came.
-/

namespace LoadChart

namespace Application

/-- One step of the application. -/
inductive Step : Application → Application → Prop where
  | command {before after : Application} {command : Command} :
      before.run? command = some after → Step before after
  | event (app : Application) (event : Event) : Step app (app.receive event)
  | refresh {before after : Application} : before.refresh? = some after → Step before after
  | surroundings (app : Application) (status : String) (notices : Notices Float)
      (showAbout : Bool) (outbox : List Task) :
      Step app { app with status, notices, showAbout, outbox }

/-- The states that steps lead to from the start. -/
def Reachable (app : Application) : Prop :=
  ∃ (program : Option Identifier) (range : DayRange) (scale : Scale),
    Relation.ReflTransGen Step (.initial program range scale) app

/-- What holds at the start and is kept by every step holds in every reachable state. -/
theorem Reachable.induction {invariant : Application → Prop}
    (start : ∀ program range scale, invariant (.initial program range scale))
    (kept : ∀ {before after}, Step before after → invariant before → invariant after)
    {app : Application} (reachable : Reachable app) : invariant app := by
  obtain ⟨program, range, scale, steps⟩ := reachable
  induction steps with
  | refl => exact start program range scale
  | tail _ step held => exact kept step held

def recordsOf? (app : Application) (resource : Identifier) : Option (List AssignmentRecord) :=
  (app.assignments.find? resource).bind Query.value?

@[simp] theorem find?_records (app : Application) (resource : Identifier) :
    app.records.find? resource = app.recordsOf? resource := by
  ext records
  rw [← OrderedMap.mem_entries]
  simp only [Application.records, recordsOf?, List.mem_filterMap, Option.bind_eq_some_iff]
  constructor
  · rintro ⟨⟨other, query⟩, member, found⟩
    obtain ⟨value, valued, same⟩ := Option.map_eq_some_iff.1 found
    obtain ⟨rfl, rfl⟩ := Prod.mk.inj same
    exact ⟨query, OrderedMap.mem_entries.1 member, valued⟩
  · rintro ⟨query, member, valued⟩
    exact ⟨(resource, query), OrderedMap.mem_entries.2 member, by simp [valued]⟩

theorem records_congr {left right : Application}
    (same : ∀ resource, left.recordsOf? resource = right.recordsOf? resource) :
    left.records = right.records := by
  apply OrderedMap.ext_find?
  intro resource
  rw [find?_records, find?_records, same]

end Application

/-- What has passed between the application and the service. -/
structure Ledger where
  sent : List Task
  received : List Event

namespace Ledger

def empty : Ledger := ⟨[], []⟩

def send (ledger : Ledger) (tasks : List Task) : Ledger :=
  { ledger with sent := ledger.sent ++ tasks }

def receive (ledger : Ledger) (event : Event) : Ledger :=
  { ledger with received := ledger.received ++ [event] }

theorem received_subset_receive (ledger : Ledger) (event : Event) :
    ledger.received ⊆ (ledger.receive event).received := List.subset_append_left _ _

theorem mem_received_receive (ledger : Ledger) (event : Event) :
    event ∈ (ledger.receive event).received :=
  List.mem_append_right _ (List.mem_singleton.2 rfl)

end Ledger

namespace Application

/-- The histories of the application with their ledgers.  Answers arrive in any order and need not
have been asked for; the tasks in the outbox are handed to the service at any time. -/
inductive Recorded : Application → Ledger → Prop where
  | initial (program : Option Identifier) (range : DayRange) (scale : Scale) :
      Recorded (.initial program range scale) .empty
  | command {before after : Application} {ledger : Ledger} {command : Command} :
      Recorded before ledger → before.run? command = some after → Recorded after ledger
  | event {app : Application} {ledger : Ledger} (event : Event) :
      Recorded app ledger → Recorded (app.receive event) (ledger.receive event)
  | refresh {before after : Application} {ledger : Ledger} :
      Recorded before ledger → before.refresh? = some after → Recorded after ledger
  | send {app : Application} {ledger : Ledger} :
      Recorded app ledger → Recorded { app with outbox := [] } (ledger.send app.outbox)
  | surroundings {app : Application} {ledger : Ledger} (status : String)
      (notices : Notices Float) (showAbout : Bool) :
      Recorded app ledger → Recorded { app with status, notices, showAbout } ledger

theorem Reachable.step {before after : Application} (reachable : Reachable before)
    (step : Step before after) : Reachable after := by
  obtain ⟨program, range, scale, steps⟩ := reachable
  exact ⟨program, range, scale, steps.tail step⟩

theorem Recorded.reachable {app : Application} {ledger : Ledger} (recorded : Recorded app ledger) :
    Reachable app := by
  induction recorded with
  | initial program range scale => exact ⟨program, range, scale, .refl⟩
  | command _ done reachable => exact reachable.step (.command done)
  | event event _ reachable => exact reachable.step (.event _ event)
  | refresh _ done reachable => exact reachable.step (.refresh done)
  | @send app _ _ reachable =>
      exact reachable.step (.surroundings app app.status app.notices app.showAbout [])
  | @surroundings app _ status notices showAbout _ reachable =>
      exact reachable.step (.surroundings app status notices showAbout app.outbox)

/-- The tasks of the application, handed to the service or not yet. -/
def tasks (app : Application) (ledger : Ledger) : List Task := ledger.sent ++ app.outbox

theorem mem_tasks_of_subset {app after : Application} {ledger : Ledger} {task : Task}
    (outbox : app.outbox ⊆ after.outbox) (member : task ∈ app.tasks ledger) :
    task ∈ after.tasks ledger := by
  rcases List.mem_append.1 member with sent | waiting
  · exact List.mem_append_left _ sent
  · exact List.mem_append_right _ (outbox waiting)

theorem performAll_of_kept {invariant : Application → Prop}
    (kept : ∀ app effect, invariant app → invariant (app.perform effect))
    (effects : List Effect) {app : Application} (held : invariant app) :
    invariant (effects.foldl perform app) :=
  List.foldlRecOn effects perform held fun app held effect _ => kept app effect held

/-- What every effect keeps, and one of the effects brings about, holds when all were performed. -/
theorem performAll_of_established {invariant : Application → Prop} {trigger : Effect}
    (kept : ∀ app effect, invariant app → invariant (app.perform effect))
    (established : ∀ app : Application, invariant (app.perform trigger))
    (effects : List Effect) {app : Application} (held : invariant app ∨ trigger ∈ effects) :
    invariant (effects.foldl perform app) := by
  induction effects generalizing app with
  | nil => exact held.resolve_right List.not_mem_nil
  | cons effect effects induction =>
      apply induction
      rcases held with before | member
      · exact Or.inl (kept app effect before)
      · rcases List.mem_cons.1 member with same | later
        · exact Or.inl (same ▸ established app)
        · exact Or.inr later

end Application

end LoadChart
