import FormSnippet.Session.Display

/-!
# Run — sessions over time

What may happen to a session is a `Step`; a run is a list of them.
-/

namespace FormSnippet

inductive Step
  | key (key : Key) (modifiers : Modifiers)
  | mouse (mouse : Mouse)
  | render (width height : Nat)
  | wait (milliseconds : Nat)
  | setEditor (editor : Option String)
  /-- Somebody else writes or removes files. -/
  | changeFiles (changes : List (Path × Option Disk.Entry))
  /-- From now on the terminal and the programs do something else. -/
  | changeSystem (system : Editor.System)

/-- A session in its world. -/
structure Running where
  session : Session
  world : World

namespace Running

def start (source : Source) (defaults : Options) (world : World) : Running :=
  let (session, disk) := Session.load source defaults world.disk
  ⟨session, { world with disk }⟩

def changeFile (disk : Disk) (change : Path × Option Disk.Entry) : Disk :=
  match change.2 with
  | some entry => disk.install change.1 entry
  | none => disk.remove change.1.steps

def step (r : Running) : Step → Running
  | .key key modifiers =>
      let (session, world) := r.session.onKey key modifiers r.world
      ⟨session, world⟩
  | .mouse mouse => { r with session := r.session.onMouse mouse r.world.now }
  | .render width height => { r with session := r.session.arrange width height }
  | .wait milliseconds => { r with world := { r.world with now := r.world.now + milliseconds } }
  | .setEditor editor => { r with world := { r.world with editor } }
  | .changeFiles changes =>
      { r with world := { r.world with disk := changes.foldl changeFile r.world.disk } }
  | .changeSystem system => { r with world := { r.world with system } }

def run (r : Running) (steps : List Step) : Running :=
  steps.foldl step r

end Running
end FormSnippet
