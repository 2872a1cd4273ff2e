import LoadChart.Application.Step
import LoadChart.Panel.Desktop
import LoadChart.Screen.Reaction
import LoadChart.Service.Answer

/-!
# Sessions

The whole program frame by frame.  Before each frame all requests that are under way are answered;
then the panels are drawn, the user's signal is answered, and its commands are run.
-/

namespace LoadChart

/-- The running program, with the service that it talks to. -/
structure Session where
  app : Application
  memory : Memory
  /-- The address at which the service is found. -/
  service : ServiceAddress
  routes : Routes
  /-- The requests sent since the last report. -/
  sent : List HttpRequest
  /-- The frames drawn so far. -/
  frames : Nat

namespace Task

/-- The place of a task in the order of answers: by kind, and then by resource or assignment. -/
def rank : Task → Nat × Int
  | .resources _ => (0, 0)
  | .assignments key => (1, Ranked.rank key.resource)
  | .histogram _ => (2, 0)
  | .delete _ assignment => (3, Ranked.rank assignment)
  | .leveling _ _ _ _ => (4, 0)

/-- Whether a task is answered no later than another. -/
def answeredBefore (left right : Task) : Bool :=
  left.rank.1 < right.rank.1 || (left.rank.1 = right.rank.1 && left.rank.2 ≤ right.rank.2)

end Task

namespace Session

def send (session : Session) : Session :=
  { session with
    sent := session.sent ++
      session.app.outbox.filterMap fun task => task.call.request? session.service }

/-- The session that settings start, unless the first range leaves the calendar. -/
def start? (settings : Settings) (today : Day) (routes : Routes) : Option Session :=
  (Application.ofSettings? settings today).map fun app =>
    send ⟨app, .initial, .ofText settings.serviceAddress, routes, [], 0⟩

def answerTask (session : Session) (task : Task) : Session :=
  let (response?, routes) := session.routes.respondTo? (task.call.request? session.service)
  let app := (task.event? (task.call.answer response?)).elim session.app session.app.receive
  { session with app, routes }

def answerAll (session : Session) : Session :=
  let tasks := session.app.outbox.mergeSort Task.answeredBefore
  tasks.foldl answerTask { session with app := { session.app with outbox := [] } }

def drawAgain? (desktop : Desktop) (session : Session) : Option Session := do
  let app ← session.app.refresh?
  let scene := desktop.withNotices app (desktop.scene app session.memory)
  return { session with app, memory := session.memory.look scene }

/-- Draws one frame.  There is no answer where the columns or the range leave the calendar. -/
def frame? (desktop : Desktop) (session : Session) (signal : Signal) : Option Session := do
  let session := session.answerAll
  let drawn ← session.app.refresh?
  let draw := fun memory =>
    desktop.withNotices drawn (desktop.scene drawn memory)
  let (memory, reaction) := session.memory.react draw signal
  let closed := { drawn with showAbout := drawn.showAbout && !reaction.closesAbout }
  let app ← closed.runAll? desktop.dialogs reaction.commands
  let now := Float.ofNat session.frames * desktop.frameSeconds
  let app := { app with notices := app.notices.expire now }
  let scene := desktop.withNotices app (desktop.scene drawn memory)
  let session := { session with app, memory := memory.look scene, frames := session.frames + 1 }
  return send (← if memory.isUnsettled scene then session.drawAgain? desktop else some session)

def frames? (desktop : Desktop) (session : Session) (signals : List Signal) : Option Session :=
  signals.foldlM (frame? desktop) session

end Session

end LoadChart
