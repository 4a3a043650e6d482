import FormSnippet.Network.Link

/-!
# Trace — what a run does to the cells of a network

Every step of a machine is told as a list of events, each at one cell.  A trace is the list of all
of them, in the order in which they happen; `Trace.of` picks those of one cell.

- `Machine.events`  : what the next step of a machine does
- `Machine.trace`   : what a number of steps do
- `registered`      : the registrations that are alive after some events, oldest first
- `held`            : the value that is stored after some events
- `deliveries`      : the values with which one registration has been called
-/

namespace FormSnippet
namespace Network

/-! ## Events of one cell -/

inductive Event (α : Type)
  | created (value : α)
  | dropped
  /-- A value was stored, to be delivered now or in a later round. -/
  | stored (value : α)
  /-- A subscription was registered, and its number was handed out. -/
  | enrolled (id : Nat)
  /-- A link registered a callback; nobody else knows its number. -/
  | linked (id : Nat)
  | withdrawn (id : Nat)
  /-- A round began that delivers the value. -/
  | began (value : α)
  /-- The turn of a subscriber came, and its callback was called. -/
  | called (id : Nat) (value : α)
  /-- The turn of a subscriber came, and it was passed over. -/
  | passed (id : Nat)
  | ended
  deriving DecidableEq, Repr

namespace Event

variable {α : Type}

/-- The number under which the event registers a callback. -/
def issue? : Event α → Option Nat
  | .enrolled id | .linked id => some id
  | _ => none

/-- The subscriber whose turn the event is. -/
def turn? : Event α → Option Nat
  | .called id _ | .passed id => some id
  | _ => none

def delivery? (id : Nat) : Event α → Option α
  | .called id' value => if id' = id then some value else none
  | _ => none

def round? : Event α → Option α
  | .began value => some value
  | _ => none

def register (ids : List Nat) : Event α → List Nat
  | .enrolled id | .linked id => ids ++ [id]
  | .withdrawn id => ids.filter (· ≠ id)
  | .dropped => []
  | _ => ids

def hold (old : Option α) : Event α → Option α
  | .created value | .stored value => some value
  | .dropped => none
  | _ => old

/-- Whether the event begins or ends a round. -/
def isBound : Event α → Bool
  | .began _ | .ended => true
  | _ => false

end Event

/-! ## Reading the events of one cell -/

section Reading

variable {α : Type}

/-- The numbers under which callbacks were registered. -/
def issued (es : List (Event α)) : List Nat :=
  es.filterMap Event.issue?

/-- The numbers of the registrations that are alive, in the order in which they were made. -/
def registered (es : List (Event α)) : List Nat :=
  es.foldl Event.register []

def held (es : List (Event α)) : Option α :=
  es.foldl Event.hold none

/-- The subscribers whose turn came. -/
def turns (es : List (Event α)) : List Nat :=
  es.filterMap Event.turn?

/-- The values with which a subscriber was called in rounds. -/
def deliveries (id : Nat) (es : List (Event α)) : List α :=
  es.filterMap (Event.delivery? id)

/-- The values that rounds delivered. -/
def rounds (es : List (Event α)) : List α :=
  es.filterMap Event.round?

/-- Only numbers that a subscription handed out are withdrawn. -/
def HandedOut (es : List (Event α)) : Prop :=
  ∀ before id after, es = before ++ .withdrawn id :: after → .enrolled id ∈ before

@[simp] theorem issued_append (es fs : List (Event α)) :
    issued (es ++ fs) = issued es ++ issued fs := by
  simp [issued]

@[simp] theorem turns_append (es fs : List (Event α)) :
    turns (es ++ fs) = turns es ++ turns fs := by
  simp [turns]

@[simp] theorem deliveries_append (id : Nat) (es fs : List (Event α)) :
    deliveries id (es ++ fs) = deliveries id es ++ deliveries id fs := by
  simp [deliveries]

@[simp] theorem rounds_append (es fs : List (Event α)) :
    rounds (es ++ fs) = rounds es ++ rounds fs := by
  simp [rounds]

@[simp] theorem issued_one (e : Event α) : issued [e] = e.issue?.toList := by
  cases h : e.issue? <;> simp [issued, h]

@[simp] theorem turns_one (e : Event α) : turns [e] = e.turn?.toList := by
  cases h : e.turn? <;> simp [turns, h]

@[simp] theorem deliveries_one (id : Nat) (e : Event α) :
    deliveries id [e] = (e.delivery? id).toList := by
  cases h : e.delivery? id <;> simp [deliveries, h]

@[simp] theorem rounds_one (e : Event α) : rounds [e] = e.round?.toList := by
  cases h : e.round? <;> simp [rounds, h]

theorem registered_append (es fs : List (Event α)) :
    registered (es ++ fs) = fs.foldl Event.register (registered es) := by
  simp [registered]

theorem HandedOut.of_append {es fs : List (Event α)} (h : HandedOut (es ++ fs)) :
    HandedOut es := by
  intro before id after split
  have whole : es ++ fs = before ++ .withdrawn id :: (after ++ fs) := by
    simp [split]
  exact h before id (after ++ fs) whole

theorem HandedOut.append {es fs : List (Event α)} (none : ∀ id, .withdrawn id ∉ es)
    (known : ∀ id, .withdrawn id ∈ fs → .enrolled id ∈ es) : HandedOut (es ++ fs) := by
  intro before id after split
  rcases List.append_eq_append_iff.1 split with ⟨rest, rfl, rfl⟩ | ⟨rest, rfl, tail⟩
  · exact List.mem_append_left _ (known id (by simp))
  · cases rest with
    | nil =>
        have mem : .withdrawn id ∈ fs := by
          simp [← show .withdrawn id :: after = fs from tail]
        simpa using known id mem
    | cons e rest =>
        rcases List.cons.inj tail with ⟨rfl, -⟩
        exact absurd (by simp) (none id)

end Reading

/-! ## Traces -/

abbrev Trace (ι : Type) (V : ι → Type) : Type :=
  List ((i : ι) × Event (V i))

namespace Trace

variable {ι : Type} [DecidableEq ι] {V : ι → Type}

/-- The events of one cell. -/
def of (tr : Trace ι V) (i : ι) : List (Event (V i)) :=
  tr.filterMap fun e => if h : e.1 = i then some (h ▸ e.2) else none

@[simp] theorem of_nil (i : ι) : of ([] : Trace ι V) i = [] := rfl

@[simp] theorem of_append (tr tr' : Trace ι V) (i : ι) :
    of (tr ++ tr') i = tr.of i ++ tr'.of i := by
  simp [of]

@[simp] theorem of_cons_same (i : ι) (e : Event (V i)) (tr : Trace ι V) :
    of (⟨i, e⟩ :: tr) i = e :: tr.of i := by
  simp [of]

theorem of_cons_other {i j : ι} (h : j ≠ i) (e : Event (V j)) (tr : Trace ι V) :
    of (⟨j, e⟩ :: tr) i = tr.of i := by
  simp [of, h]

theorem mem_of {tr : Trace ι V} {i : ι} {e : Event (V i)} : e ∈ tr.of i ↔ ⟨i, e⟩ ∈ tr := by
  induction tr with
  | nil => simp
  | cons f tr ih =>
      rcases f with ⟨j, f⟩
      by_cases same : j = i
      · subst same
        simp [ih]
      · simp [of_cons_other same, ih, Ne.symm same]

end Trace

theorem HandedOut.front {ι : Type} [DecidableEq ι] {V : ι → Type} {tr es : Trace ι V} {i : ι}
    (h : HandedOut ((tr ++ es).of i)) : HandedOut (tr.of i) := by
  rw [Trace.of_append] at h
  exact h.of_append

/-! ## The events of a machine -/

variable {ι : Type} [DecidableEq ι] {V : ι → Type} {σ : Type}

namespace Machine

/-- The events of storing a value. -/
def storeEvents (m : Machine ι V σ) (i : ι) (value : V i) : Trace ι V :=
  match m.cells i with
  | none => []
  | some cell =>
      if cell.notifying then [⟨i, .stored value⟩]
      else [⟨i, .stored value⟩, ⟨i, .began value⟩]

/-- The events of a step of a round. -/
def roundEvents (m : Machine ι V σ) (i : ι) (value : V i)
    (pending : List (Subscriber ι V σ i)) : Trace ι V :=
  match m.cells i, pending with
  | none, _ => []
  | some cell, s :: _ =>
      if s.id ∈ cell.removed then [⟨i, .passed s.id⟩] else [⟨i, .called s.id value⟩]
  | some cell, [] =>
      if cell.dirty then [⟨i, .ended⟩, ⟨i, .began cell.value⟩] else [⟨i, .ended⟩]

/-- What the next step does. -/
def events (m : Machine ι V σ) : Trace ι V :=
  match m.stack with
  | .act (.set i value _) :: _ => m.storeEvents i value
  | .act (.unsubscribe i id _) :: _ => if (m.cells i).isSome then [⟨i, .withdrawn id⟩] else []
  | .enrol i _ _ :: _ =>
      match m.cells i with
      | none => []
      | some cell => [⟨i, .enrolled cell.nextId⟩]
  | .round i value _ pending :: _ => m.roundEvents i value pending
  | _ => []

/-- What a number of steps do. -/
def trace : Nat → Machine ι V σ → Trace ι V
  | 0, _ => []
  | n + 1, m => m.events ++ trace n m.step

end Machine
end Network
end FormSnippet
