import Mathlib.Data.List.Nodup
import FormSnippet.Proofs.Network.Trace

/-!
# Phase — the life of one cell

Seen from one cell, a run is a sequence of turns between a few phases: the cell rests, or exactly
one round of it is under way, or it does not exist yet or no longer.  A `Turn` is what one event
does to the phase, and `Turns` is a sequence of them.  The phase `due` lies inside one step of the
machine: a value is stored and the round that delivers it has not begun yet.

- `Phase.Ordered`  : the numbers of the subscribers increase and stay below the next one
- `Phase.kept`     : the subscribers that are still registered
- `Phase.Owes`     : a subscriber that has yet to be told the present value
-/

namespace FormSnippet
namespace Network

/-! ## Phases -/

/-- A round under way: the value it delivers, the subscribers it is through with, and those that
still wait for their turn. -/
structure Round (ι : Type) (V : ι → Type) (σ : Type) (i : ι) where
  value : V i
  called : List (Subscriber ι V σ i)
  pending : List (Subscriber ι V σ i)

inductive Phase (ι : Type) (V : ι → Type) (σ : Type) (i : ι)
  | unborn
  | gone (nextId : Nat)
  | resting (value : V i) (subscribers : List (Subscriber ι V σ i)) (nextId : Nat)
  | due (value : V i) (subscribers : List (Subscriber ι V σ i)) (nextId : Nat)
  | delivering (round : Round ι V σ i) (value : V i) (newcomers : List (Subscriber ι V σ i))
      (nextId : Nat) (dirty : Bool) (removed : List Nat)

variable {ι : Type} {V : ι → Type} {σ : Type} {i : ι}

/-- What one event does to a cell. -/
inductive Turn : Phase ι V σ i → Event (V i) → Phase ι V σ i → Prop
  | create (value : V i) :
      Turn .unborn (.created value) (.resting value [] 0)
  | drop (value : V i) (subs : List (Subscriber ι V σ i)) (n : Nat) :
      Turn (.resting value subs n) .dropped (.gone n)
  | store (old value : V i) (subs : List (Subscriber ι V σ i)) (n : Nat) :
      Turn (.resting old subs n) (.stored value) (.due value subs n)
  | storeLater (r : Round ι V σ i) (old value : V i) (new : List (Subscriber ι V σ i)) (n : Nat)
      (dirty : Bool) (removed : List Nat) :
      Turn (.delivering r old new n dirty removed) (.stored value)
        (.delivering r value new n true removed)
  | enrol (value : V i) (subs : List (Subscriber ι V σ i)) (n : Nat)
      (callback : V i → Action ι V σ) :
      Turn (.resting value subs n) (.enrolled n)
        (.resting value (subs ++ [⟨n, callback⟩]) (n + 1))
  | enrolLater (r : Round ι V σ i) (value : V i) (new : List (Subscriber ι V σ i)) (n : Nat)
      (dirty : Bool) (removed : List Nat) (callback : V i → Action ι V σ) :
      Turn (.delivering r value new n dirty removed) (.enrolled n)
        (.delivering r value (new ++ [⟨n, callback⟩]) (n + 1) dirty removed)
  | link (value : V i) (subs : List (Subscriber ι V σ i)) (n : Nat)
      (callback : V i → Action ι V σ) :
      Turn (.resting value subs n) (.linked n)
        (.resting value (subs ++ [⟨n, callback⟩]) (n + 1))
  | withdraw (value : V i) (subs : List (Subscriber ι V σ i)) (n id : Nat) :
      Turn (.resting value subs n) (.withdrawn id)
        (.resting value (subs.filter (·.id ≠ id)) n)
  | withdrawLater (r : Round ι V σ i) (value : V i) (new : List (Subscriber ι V σ i)) (n : Nat)
      (dirty : Bool) (removed : List Nat) (id : Nat) :
      Turn (.delivering r value new n dirty removed) (.withdrawn id)
        (.delivering r value (new.filter (·.id ≠ id)) n dirty (removed ++ [id]))
  | begin (value : V i) (subs : List (Subscriber ι V σ i)) (n : Nat) :
      Turn (.due value subs n) (.began value)
        (.delivering ⟨value, [], subs⟩ value [] n false [])
  | call {x value : V i} {called pending new : List (Subscriber ι V σ i)} {n : Nat} {dirty : Bool}
      {removed : List Nat} {s : Subscriber ι V σ i} (present : s.id ∉ removed) :
      Turn (.delivering ⟨x, called, s :: pending⟩ value new n dirty removed) (.called s.id x)
        (.delivering ⟨x, called ++ [s], pending⟩ value new n dirty removed)
  | pass {x value : V i} {called pending new : List (Subscriber ι V σ i)} {n : Nat} {dirty : Bool}
      {removed : List Nat} {s : Subscriber ι V σ i} (absent : s.id ∈ removed) :
      Turn (.delivering ⟨x, called, s :: pending⟩ value new n dirty removed) (.passed s.id)
        (.delivering ⟨x, called ++ [s], pending⟩ value new n dirty removed)
  | finish (x value : V i) (called new : List (Subscriber ι V σ i)) (n : Nat) (removed : List Nat) :
      Turn (.delivering ⟨x, called, []⟩ value new n false removed) .ended
        (.resting value (called.filter (·.id ∉ removed) ++ new) n)
  | again (x value : V i) (called new : List (Subscriber ι V σ i)) (n : Nat) (removed : List Nat) :
      Turn (.delivering ⟨x, called, []⟩ value new n true removed) .ended
        (.due value (called.filter (·.id ∉ removed) ++ new) n)

inductive Turns : Phase ι V σ i → List (Event (V i)) → Phase ι V σ i → Prop
  | refl (p : Phase ι V σ i) : Turns p [] p
  | cons {p q r : Phase ι V σ i} {e : Event (V i)} {es : List (Event (V i))} :
      Turn p e q → Turns q es r → Turns p (e :: es) r

namespace Turns

variable {p q r : Phase ι V σ i} {e f : Event (V i)} {es fs : List (Event (V i))}

theorem one (h : Turn p e q) : Turns p [e] q :=
  .cons h (.refl q)

theorem two (h : Turn p e q) (h' : Turn q f r) : Turns p [e, f] r :=
  .cons h (.one h')

theorem trans (h : Turns p es q) (h' : Turns q fs r) : Turns p (es ++ fs) r := by
  induction h with
  | refl =>
      exact h'
  | cons turn _ ih =>
      exact .cons turn (ih h')

theorem head (h : Turns p (e :: es) r) : ∃ q, Turn p e q ∧ Turns q es r := by
  cases h with
  | cons turn rest => exact ⟨_, turn, rest⟩

theorem split (h : Turns p (es ++ fs) r) : ∃ q, Turns p es q ∧ Turns q fs r := by
  induction es generalizing p with
  | nil =>
      exact ⟨p, .refl p, h⟩
  | cons e es ih =>
      rcases head h with ⟨q, turn, rest⟩
      rcases ih rest with ⟨q', front, back⟩
      exact ⟨q', .cons turn front, back⟩

end Turns

namespace Phase

/-! ## What a phase holds -/

def value? : Phase ι V σ i → Option (V i)
  | .unborn | .gone _ => none
  | .resting value _ _ | .due value _ _ | .delivering _ value _ _ _ _ => some value

/-- All subscribers, those of a running round first. -/
def subscribers : Phase ι V σ i → List (Subscriber ι V σ i)
  | .unborn | .gone _ => []
  | .resting _ subs _ | .due _ subs _ => subs
  | .delivering r _ new _ _ _ => r.called ++ r.pending ++ new

/-- The subscribers that will be there when no round is running. -/
def kept : Phase ι V σ i → List (Subscriber ι V σ i)
  | .delivering r _ new _ _ removed => (r.called ++ r.pending).filter (·.id ∉ removed) ++ new
  | p => p.subscribers

def nextId : Phase ι V σ i → Nat
  | .unborn => 0
  | .gone n | .resting _ _ n | .due _ _ n | .delivering _ _ _ n _ _ => n

/-- Numbers increase along the list, and the next one is larger still. -/
def Ordered (p : Phase ι V σ i) : Prop :=
  (p.subscribers.map (·.id) ++ [p.nextId]).Pairwise (· < ·)

/-- A round that nothing was stored during delivers the present value. -/
def Fresh : Phase ι V σ i → Prop
  | .delivering r value _ _ dirty _ => dirty = false → r.value = value
  | _ => True

/-- Whether a registered subscriber has yet to be told the present value: its turn in the running
round is still to come, or another round will follow. -/
def Owes (s : Subscriber ι V σ i) : Phase ι V σ i → Prop
  | .due _ _ _ => True
  | .delivering r _ _ _ dirty _ => dirty = true ∨ s ∈ r.pending
  | _ => False

theorem Ordered.shrink {p q : Phase ι V σ i} (h : p.Ordered)
    (fewer : q.subscribers.Sublist p.subscribers) (same : q.nextId = p.nextId) : q.Ordered := by
  have shorter : (q.subscribers.map (·.id) ++ [q.nextId]).Sublist
      (p.subscribers.map (·.id) ++ [p.nextId]) := by
    rw [same]
    exact (fewer.map _).append (List.Sublist.refl _)
  exact List.Pairwise.sublist shorter h

theorem Ordered.grow {p q : Phase ι V σ i} (h : p.Ordered) {s : Subscriber ι V σ i}
    (more : q.subscribers = p.subscribers ++ [s]) (number : s.id = p.nextId)
    (next : q.nextId = p.nextId + 1) : q.Ordered := by
  unfold Ordered at *
  rw [more, next, List.map_append]
  refine List.pairwise_append.2 ⟨by simpa [number] using h, by simp, ?_⟩
  intro a ha b hb
  have hb' : b = p.nextId + 1 := by simpa using hb
  have bound : a ≤ p.nextId := by
    rcases List.mem_append.1 ha with old | new
    · exact Nat.le_of_lt ((List.pairwise_append.1 h).2.2 a old p.nextId (by simp))
    · simp [number] at new
      omega
  omega

theorem Ordered.ids {p : Phase ι V σ i} (h : p.Ordered) :
    (p.subscribers.map (·.id)).Pairwise (· < ·) :=
  (List.pairwise_append.1 h).1

theorem Ordered.eq_of_id_eq {p : Phase ι V σ i} (h : p.Ordered) {s t : Subscriber ι V σ i}
    (hs : s ∈ p.subscribers) (ht : t ∈ p.subscribers) (same : s.id = t.id) : s = t := by
  have distinct : (p.subscribers.map (·.id)).Nodup :=
    h.ids.imp Nat.ne_of_lt
  exact List.inj_on_of_nodup_map distinct hs ht same

@[simp] theorem mem_kept_delivering {r : Round ι V σ i} {value : V i}
    {new : List (Subscriber ι V σ i)} {n : Nat} {dirty : Bool} {removed : List Nat}
    {s : Subscriber ι V σ i} :
    s ∈ (Phase.delivering r value new n dirty removed).kept ↔
      (s ∈ r.called ∨ s ∈ r.pending) ∧ s.id ∉ removed ∨ s ∈ new := by
  simp [kept, or_and_right, or_assoc]

@[simp] theorem kept_resting {value : V i} {subs : List (Subscriber ι V σ i)} {n : Nat} :
    (Phase.resting value subs n).kept = subs := rfl

@[simp] theorem kept_due {value : V i} {subs : List (Subscriber ι V σ i)} {n : Nat} :
    (Phase.due value subs n).kept = subs := rfl

/-- A registered subscriber of a running round has not been withdrawn. -/
theorem Ordered.present {r : Round ι V σ i} {value : V i} {new : List (Subscriber ι V σ i)}
    {n : Nat} {dirty : Bool} {removed : List Nat} {s : Subscriber ι V σ i}
    (h : (Phase.delivering r value new n dirty removed).Ordered)
    (hs : s ∈ (Phase.delivering r value new n dirty removed).kept)
    (waits : s ∈ r.called ∨ s ∈ r.pending) : s.id ∉ removed := by
  rcases mem_kept_delivering.1 hs with ⟨_, present⟩ | newcomer
  · exact present
  · have apart := (List.pairwise_append.1
      (by simpa [subscribers] using h.ids : ((r.called ++ r.pending).map (·.id) ++
        new.map (·.id)).Pairwise (· < ·))).2.2
    have less : s.id < s.id :=
      apart s.id (List.mem_map_of_mem (List.mem_append.2 waits)) s.id
        (List.mem_map_of_mem newcomer)
    exact absurd less (Nat.lt_irrefl _)

theorem kept_sublist (p : Phase ι V σ i) : p.kept.Sublist p.subscribers := by
  cases p with
  | delivering r value new n dirty removed =>
      exact List.filter_sublist.append (List.Sublist.refl _)
  | _ =>
      exact List.Sublist.refl _

end Phase

/-! ## What a turn keeps -/

namespace Turn

variable {p q : Phase ι V σ i} {e : Event (V i)}

theorem ordered (h : Turn p e q) (hp : p.Ordered) : q.Ordered := by
  cases h with
  | create | drop =>
      simp [Phase.Ordered, Phase.subscribers]
  | store | begin | storeLater =>
      simpa [Phase.Ordered, Phase.subscribers, Phase.nextId] using hp
  | enrol value subs n callback | link value subs n callback =>
      exact hp.grow (s := ⟨n, callback⟩) rfl rfl rfl
  | enrolLater r value new n dirty removed callback =>
      exact hp.grow (s := ⟨n, callback⟩) (by simp [Phase.subscribers]) rfl rfl
  | withdraw =>
      exact hp.shrink List.filter_sublist rfl
  | withdrawLater =>
      exact hp.shrink ((List.Sublist.refl _).append List.filter_sublist) rfl
  | call | pass =>
      simpa [Phase.Ordered, Phase.subscribers, Phase.nextId] using hp
  | finish | again =>
      refine hp.shrink ?_ rfl
      simp [Phase.subscribers]

theorem fresh (h : Turn p e q) (hp : p.Fresh) : q.Fresh := by
  cases h <;> simp_all [Phase.Fresh]

/-- A turn changes the value as the event says. -/
theorem value_eq (h : Turn p e q) : q.value? = e.hold p.value? := by
  cases h <;> rfl

/-- A turn changes the registrations as the event says. -/
theorem registered_eq (h : Turn p e q) :
    q.kept.map (·.id) = e.register (p.kept.map (·.id)) := by
  cases h with
  | withdraw | withdrawLater =>
      simp [Phase.kept, Phase.subscribers, Event.register, List.filter_map, Function.comp_def,
        List.filter_filter, Bool.and_comm]
  | enrol | enrolLater | link =>
      simp [Phase.kept, Phase.subscribers, Event.register]
  | _ =>
      simp [Phase.kept, Phase.subscribers, Event.register]

/-- A registration gets the next number. -/
theorem issue_eq (h : Turn p e q) {id : Nat} (issue : e.issue? = some id) :
    id = p.nextId ∧ q.nextId = id + 1 := by
  cases h <;> simp_all [Event.issue?, Phase.nextId]

theorem nextId_eq (h : Turn p e q) (issue : e.issue? = none) : q.nextId = p.nextId := by
  cases h <;> simp_all [Event.issue?, Phase.nextId]

/-- Whoever comes gets the next number. -/
theorem comes (h : Turn p e q) {s : Subscriber ι V σ i} (hs : s ∈ q.subscribers) :
    s ∈ p.subscribers ∨ s.id = p.nextId := by
  have joins : ∀ {subs : List (Subscriber ι V σ i)} {n : Nat} {callback : V i → Action ι V σ},
      s ∈ subs ++ [⟨n, callback⟩] → s ∈ subs ∨ s.id = n := by
    intro subs n callback mem
    rcases List.mem_append.1 mem with old | new
    · exact .inl old
    · exact .inr (by rw [List.mem_singleton.1 new])
  cases h with
  | create | drop => cases hs
  | enrol | link => exact joins hs
  | enrolLater =>
      rw [Phase.subscribers, ← List.append_assoc] at hs
      exact joins hs
  | withdraw => exact .inl (List.mem_filter.1 hs).1
  | withdrawLater | finish | again =>
      simp only [Phase.subscribers, List.mem_append, List.mem_filter] at hs ⊢
      tauto
  | store | storeLater | begin | call | pass =>
      exact .inl (by simpa [Phase.subscribers] using hs)

theorem kept (h : Turn p e q) {s : Subscriber ι V σ i} (hs : s ∈ p.kept)
    (stays : e ≠ .withdrawn s.id) (alive : e ≠ .dropped) : s ∈ q.kept := by
  -- Only a withdrawal of its number takes a subscriber out; a round that ends puts it back.
  cases h with
  | create =>
      cases hs
  | drop =>
      exact absurd rfl alive
  | store | begin | finish | again | storeLater | call | pass =>
      simpa [or_assoc] using hs
  | enrol | link | enrolLater =>
      simp_all [← or_assoc]
  | withdraw value subs n id =>
      have other : s.id ≠ id := fun same => stays (by rw [same])
      simpa [other] using hs
  | withdrawLater r value new n dirty removed id =>
      have other : s.id ≠ id := fun same => stays (by rw [same])
      simpa [other] using hs

/-- A subscriber that has yet to be told the present value stays so until it is told. -/
theorem owes (h : Turn p e q) {s : Subscriber ι V σ i} (ordered : p.Ordered) (fresh : p.Fresh)
    (hs : s ∈ p.kept) (owed : p.Owes s) :
    q.Owes s ∨ ∃ x, e = .called s.id x ∧ p.value? = some x := by
  cases h with
  | create | drop | store | enrol | link | withdraw =>
      cases owed
  | storeLater | again =>
      simp [Phase.Owes]
  | enrolLater | withdrawLater =>
      exact .inl owed
  | begin =>
      exact .inl (.inr hs)
  | finish =>
      simp [Phase.Owes] at owed
  | @call x value called pending new n dirty removed t present =>
      rcases owed with again | waits
      · exact .inl (.inl again)
      · rcases List.mem_cons.1 waits with rfl | later
        · -- Either the round is up to date, or another one follows.
          cases dirty with
          | true => exact .inl (.inl rfl)
          | false =>
              have present : x = value := fresh rfl
              exact .inr ⟨x, rfl, by rw [present]; rfl⟩
        · exact .inl (.inr later)
  | @pass x value called pending new n dirty removed t absent =>
      rcases owed with again | waits
      · exact .inl (.inl again)
      · rcases List.mem_cons.1 waits with rfl | later
        · exact absurd absent (ordered.present hs (.inr waits))
        · exact .inl (.inr later)

theorem owes_of_stored (h : Turn p e q) {value : V i} (stored : e = .stored value)
    (s : Subscriber ι V σ i) : q.Owes s := by
  cases h <;> simp_all [Phase.Owes]

/-- Whoever is called has been yet to be told. -/
theorem owes_of_called (h : Turn p e q) {s : Subscriber ι V σ i} {x : V i}
    (called : e = .called s.id x) (ordered : p.Ordered) (hs : s ∈ p.kept) : p.Owes s := by
  cases h with
  | @call x value front pending new n dirty removed t present =>
      have same : t.id = s.id := by simp_all
      have head : t = s :=
        ordered.eq_of_id_eq (by simp [Phase.subscribers]) ((Phase.kept_sublist _).subset hs) same
      exact .inr (by simp [head])
  | _ => cases called

end Turn

/-! ## What a sequence of turns keeps -/

namespace Turns

variable {p q : Phase ι V σ i} {es : List (Event (V i))}

theorem ordered (h : Turns p es q) (hp : p.Ordered) : q.Ordered := by
  induction h with
  | refl => exact hp
  | cons turn _ ih => exact ih (turn.ordered hp)

theorem fresh (h : Turns p es q) (hp : p.Fresh) : q.Fresh := by
  induction h with
  | refl => exact hp
  | cons turn _ ih => exact ih (turn.fresh hp)

theorem value_eq (h : Turns p es q) : q.value? = es.foldl Event.hold p.value? := by
  induction h with
  | refl => rfl
  | cons turn _ ih => rw [ih, turn.value_eq, List.foldl_cons]

theorem registered_eq (h : Turns p es q) :
    q.kept.map (·.id) = es.foldl Event.register (p.kept.map (·.id)) := by
  induction h with
  | refl => rfl
  | cons turn _ ih => rw [ih, turn.registered_eq, List.foldl_cons]

/-- The numbers that are issued follow one another without a gap. -/
theorem issued_eq (h : Turns p es q) :
    ∃ k, q.nextId = p.nextId + k ∧ issued es = List.range' p.nextId k := by
  induction h with
  | refl => exact ⟨0, rfl, rfl⟩
  | @cons p q r e es turn _ ih =>
      rcases ih with ⟨k, last, numbers⟩
      cases issue : e.issue? with
      | none =>
          have same := turn.nextId_eq issue
          refine ⟨k, by omega, ?_⟩
          rw [← same, ← numbers]
          simp [issued, issue]
      | some id =>
          rcases turn.issue_eq issue with ⟨number, next⟩
          refine ⟨k + 1, by omega, ?_⟩
          rw [List.range'_succ, ← number, ← next, ← numbers]
          simp [issued, issue]

/-- The numbers that are issued increase, and lie between the next one before and after. -/
theorem issued_increase (h : Turns p es q) :
    p.nextId ≤ q.nextId ∧ (issued es ++ [q.nextId]).Pairwise (· < ·) ∧
      ∀ id ∈ issued es, p.nextId ≤ id := by
  rcases h.issued_eq with ⟨k, last, numbers⟩
  refine ⟨by omega, ?_, ?_⟩
  · have onward : issued es ++ [q.nextId] = List.range' p.nextId (k + 1) := by
      rw [List.range'_concat, numbers, last, Nat.one_mul]
    rw [onward]
    exact List.pairwise_lt_range'
  · intro id mem
    rw [numbers] at mem
    exact (List.mem_range'_1.1 mem).1

/-- Whoever comes gets a number that had not been issued. -/
theorem comes (h : Turns p es q) {s : Subscriber ι V σ i} (hs : s ∈ q.subscribers) :
    s ∈ p.subscribers ∨ p.nextId ≤ s.id := by
  induction h with
  | refl => exact .inl hs
  | cons turn rest ih =>
      have grows := (Turns.one turn).issued_increase.1
      rcases ih hs with earlier | later
      · rcases turn.comes earlier with old | new
        · exact .inl old
        · exact .inr (Nat.le_of_eq new.symm)
      · exact .inr (Nat.le_trans grows later)

/-- Numbers are issued in increasing order. -/
theorem issued_lt (h : Turns .unborn es q) : (issued es).Pairwise (· < ·) :=
  (List.pairwise_append.1 h.issued_increase.2.1).1

/-- A number is issued once only. -/
theorem issued_once {id : Nat} {fs : List (Event (V i))} (h : Turns .unborn (es ++ fs) q)
    (before : id ∈ issued es) : id ∉ issued fs := by
  intro after
  have increase := h.issued_lt
  rw [issued_append] at increase
  exact Nat.lt_irrefl id ((List.pairwise_append.1 increase).2.2 id before id after)

/-- A callback that a link registered stays, if others withdraw only what was handed out to
them. -/
theorem linked_stays {id : Nat} (h : Turns .unborn es q) (handed : HandedOut es)
    (linked : .linked id ∈ es) : .withdrawn id ∉ es := by
  intro withdrawn
  rcases List.append_of_mem withdrawn with ⟨before, after, split⟩
  have enrolled : .enrolled id ∈ es := by
    rw [split]
    exact List.mem_append_left _ (handed before id after split)
  rcases List.append_of_mem linked with ⟨front, back, rfl⟩
  -- One of the two events would be the second one with that number.
  rcases List.mem_append.1 enrolled with early | late
  · have mem : id ∈ issued front := List.mem_filterMap.2 ⟨_, early, rfl⟩
    exact h.issued_once mem (by simp [issued, Event.issue?])
  · have later : .enrolled id ∈ back := by simpa using late
    have again : Turns .unborn ((front ++ [.linked id]) ++ back) q := by simpa using h
    exact again.issued_once (by simp [Event.issue?])
      (List.mem_filterMap.2 ⟨_, later, rfl⟩)

theorem kept (h : Turns p es q) {s : Subscriber ι V σ i} (hs : s ∈ p.kept)
    (stays : .withdrawn s.id ∉ es) (alive : .dropped ∉ es) : s ∈ q.kept := by
  induction h with
  | refl => exact hs
  | cons turn _ ih =>
      simp only [List.mem_cons, not_or] at stays alive
      exact ih (turn.kept hs (Ne.symm stays.1) (Ne.symm alive.1)) stays.2 alive.2

theorem owes (h : Turns p es q) {s : Subscriber ι V σ i} (ordered : p.Ordered) (fresh : p.Fresh)
    (hs : s ∈ p.kept) (owed : p.Owes s) (stays : .withdrawn s.id ∉ es) (alive : .dropped ∉ es)
    (uncalled : ∀ x, .called s.id x ∉ es) : q.Owes s := by
  induction h with
  | refl => exact owed
  | @cons p q r e es turn _ ih =>
      simp only [List.mem_cons, not_or] at stays alive uncalled
      have hs' := turn.kept hs (Ne.symm stays.1) (Ne.symm alive.1)
      rcases turn.owes ordered fresh hs owed with owed' | ⟨x, called, -⟩
      · exact ih (turn.ordered ordered) (turn.fresh fresh) hs' owed' stays.2 alive.2
          (fun x => (uncalled x).2)
      · exact absurd called.symm (uncalled x).1

theorem owes_of_stored (h : Turns p es q) {s : Subscriber ι V σ i} (ordered : p.Ordered)
    (fresh : p.Fresh) (hs : s ∈ p.kept) {value : V i} (stored : .stored value ∈ es)
    (stays : .withdrawn s.id ∉ es) (alive : .dropped ∉ es)
    (uncalled : ∀ x, .called s.id x ∉ es) : q.Owes s := by
  induction h with
  | refl => cases stored
  | @cons p q r e es turn rest ih =>
      simp only [List.mem_cons, not_or] at stays alive uncalled
      have hs' := turn.kept hs (Ne.symm stays.1) (Ne.symm alive.1)
      rcases List.mem_cons.1 stored with now | later
      · exact rest.owes (turn.ordered ordered) (turn.fresh fresh) hs'
          (turn.owes_of_stored now.symm s) stays.2 alive.2 (fun x => (uncalled x).2)
      · exact ih (turn.ordered ordered) (turn.fresh fresh) hs' later stays.2 alive.2
          (fun x => (uncalled x).2)

/-- Nothing happens to a cell that is gone. -/
theorem of_gone {n : Nat} (h : Turns (.gone n) es q) : es = [] ∧ q = .gone n := by
  cases h with
  | refl => exact ⟨rfl, rfl⟩
  | cons turn _ => cases turn

theorem gone_of_dropped (h : Turns p es q) (dropped : .dropped ∈ es) : ∃ n, q = .gone n := by
  induction h with
  | refl => cases dropped
  | cons turn rest ih =>
      rcases List.mem_cons.1 dropped with rfl | later
      · cases turn with
        | drop => exact ⟨_, rest.of_gone.2⟩
      · exact ih later

/-- A cell that something has happened to is there, unless it was dropped. -/
theorem alive (h : Turns p es q) (born : es ≠ []) (kept : .dropped ∉ es) :
    q.value?.isSome = true := by
  induction h with
  | refl => exact absurd rfl born
  | cons turn rest ih =>
      simp only [List.mem_cons, not_or] at kept
      cases rest with
      | refl =>
          cases turn with
          | drop => exact absurd rfl kept.1
          | _ => rfl
      | cons => exact ih (by simp) kept.2

end Turns
end Network
end FormSnippet
