import FormSnippet.Proofs.Network.Run

/-!
# Delivery — what the subscribers of a cell are told during an operation

While an operation runs, its callbacks may store values in any cell, and subscribe and unsubscribe
anywhere.  Values stored during a round are merged into the next one, so a subscriber need not be
told every value; but all subscribers that are there from beginning to end are told the same ones,
and the last of them is the value that the cell is left with.

The proof follows one cell through its turns.  `Phase.Served` compares what a subscriber has been
told with the rounds so far, and `Phase.Told` compares the rounds with the stored values.
-/

namespace FormSnippet
namespace Network

variable {ι : Type} {V : ι → Type} {σ : Type} {i : ι}

namespace Phase

/-- A registered subscriber has been told what the rounds deliver, but for the round in which its
turn is still to come. -/
def Served (id : Nat) (es : List (Event (V i))) : Phase ι V σ i → Prop
  | .unborn => False
  | .gone _ => True
  | .resting _ subs _ | .due _ subs _ => id ∈ subs.map (·.id) ∧ deliveries id es = rounds es
  | .delivering r _ _ _ _ removed =>
      id ∉ removed ∧
        (id ∈ r.called.map (·.id) ∧ deliveries id es = rounds es ∨
          id ∈ r.pending.map (·.id) ∧ deliveries id es ++ [r.value] = rounds es)

/-- There is a round as soon as a value is stored, and the last round delivers the last value. -/
def Told (es : List (Event (V i))) : Phase ι V σ i → Prop
  | .unborn => es = []
  | .gone _ => True
  | .resting value _ _ =>
      (rounds es ≠ [] ↔ ∃ v, .stored v ∈ es) ∧ ∀ v, (rounds es).getLast? = some v → v = value
  | .due _ _ _ => ∃ v, .stored v ∈ es
  | .delivering r _ _ _ _ _ => (∃ v, .stored v ∈ es) ∧ (rounds es).getLast? = some r.value

end Phase

/-! ## Turns -/

namespace Turn

variable {p q : Phase ι V σ i} {e : Event (V i)} {es : List (Event (V i))}

theorem served {id : Nat} (turn : Turn p e q) (ordered : p.Ordered) (h : p.Served id es)
    (stays : e ≠ .withdrawn id) : q.Served id (es ++ [e]) := by
  -- Two kinds of events count: a round that begins, and a call of the subscriber itself.
  cases turn with
  | create => cases h
  | drop => trivial
  | store | storeLater | enrolLater =>
      simpa [Phase.Served, Event.delivery?, Event.round?] using h
  | enrol | link =>
      rcases h with ⟨there, told⟩
      exact ⟨by simpa using .inl (by simpa using there), by
        simpa [Event.delivery?, Event.round?] using told⟩
  | withdraw value subs n gone =>
      rcases h with ⟨there, told⟩
      have other : id ≠ gone := fun same => stays (by rw [same])
      refine ⟨?_, by simpa [Event.delivery?, Event.round?] using told⟩
      rcases List.mem_map.1 there with ⟨s, hs, rfl⟩
      exact List.mem_map_of_mem (List.mem_filter.2 ⟨hs, by simpa using other⟩)
  | withdrawLater r value new n dirty removed gone =>
      rcases h with ⟨present, told⟩
      have other : id ≠ gone := fun same => stays (by rw [same])
      exact ⟨by simp [present, other], by
        simpa [Event.delivery?, Event.round?] using told⟩
  | begin value subs n =>
      rcases h with ⟨there, told⟩
      exact ⟨by simp, .inr ⟨there, by simp [Event.delivery?, Event.round?, told]⟩⟩
  | @pass x value called pending new n dirty removed s absent =>
      rcases h with ⟨present, told⟩
      have other : id ≠ s.id := fun same => present (by rwa [same])
      refine ⟨present, ?_⟩
      simpa [Event.delivery?, Event.round?, other] using told
  | @call x value called pending new n dirty removed s here =>
      rcases h with ⟨present, told⟩
      refine ⟨present, ?_⟩
      by_cases same : s.id = id
      · -- The subscriber cannot have had its turn before, since its number occurs once.
        rcases told with ⟨before, -⟩ | ⟨-, told⟩
        · rcases List.mem_map.1 before with ⟨t, ht, hid⟩
          have apart := List.pairwise_append.1 (by
            simpa [Phase.subscribers] using ordered.ids :
              (called.map (·.id) ++ s.id :: (pending.map (·.id) ++ new.map (·.id))).Pairwise
                (· < ·))
          have less := apart.2.2 t.id (List.mem_map_of_mem ht) s.id (by simp)
          omega
        · exact .inl ⟨by simp [same], by simpa [Event.delivery?, Event.round?, same] using told⟩
      · have other : id ≠ s.id := Ne.symm same
        simpa [Event.delivery?, Event.round?, same, other] using told
  | again x value called new n removed | finish x value called new n removed =>
      -- Nobody waits at the end of a round, so the subscriber has been called.
      rcases h with ⟨present, ⟨there, told⟩ | ⟨impossible, -⟩⟩
      · rcases List.mem_map.1 there with ⟨s, hs, rfl⟩
        refine ⟨List.mem_map_of_mem (List.mem_append_left _ (List.mem_filter.2 ⟨hs, ?_⟩)), ?_⟩
        · simpa using present
        · simpa [Event.delivery?, Event.round?] using told
      · cases impossible

theorem told (turn : Turn p e q) (fresh : p.Fresh) (h : p.Told es) : q.Told (es ++ [e]) := by
  cases turn with
  | create value =>
      obtain rfl : es = [] := h
      simp [Phase.Told, Event.round?]
  | drop => trivial
  | store old value subs n =>
      exact ⟨value, by simp⟩
  | storeLater r old value new n dirty removed =>
      exact ⟨⟨value, by simp⟩, by simpa [Event.round?] using h.2⟩
  | enrol | link | withdraw | enrolLater | withdrawLater | call | pass =>
      simpa [Phase.Told, Event.round?] using h
  | begin value subs n =>
      rcases h with ⟨v, stored⟩
      exact ⟨⟨v, by simp [stored]⟩, by simp [Event.round?]⟩
  | finish x value called new n removed =>
      -- The round is the last one because nothing was stored during it.
      rcases h with ⟨stored, last⟩
      have present : x = value := fresh rfl
      have some : rounds es ≠ [] := by
        intro none
        simp [none] at last
      simp [Phase.Told, Event.round?, last, present, some, stored]
  | again x value called new n removed =>
      rcases h with ⟨⟨v, stored⟩, -⟩
      exact ⟨v, by simp [stored]⟩

end Turn

namespace Turns

variable {p q : Phase ι V σ i} {es fs : List (Event (V i))}

theorem served {id : Nat} (turns : Turns p fs q) (ordered : p.Ordered) (h : p.Served id es)
    (stays : .withdrawn id ∉ fs) : q.Served id (es ++ fs) := by
  induction turns generalizing es with
  | refl =>
      simpa using h
  | @cons p q r e fs turn _ ih =>
      simp only [List.mem_cons, not_or] at stays
      have next := turn.served ordered h (Ne.symm stays.1)
      simpa using ih (turn.ordered ordered) next stays.2

theorem told (turns : Turns p fs q) (fresh : p.Fresh) (h : p.Told es) : q.Told (es ++ fs) := by
  induction turns generalizing es with
  | refl =>
      simpa using h
  | cons turn _ ih =>
      simpa using ih (turn.fresh fresh) (turn.told fresh h)

end Turns

/-! ## Operations -/

section Operations

variable [DecidableEq ι] {allowed : Action ι V σ → Prop} {tr : Trace ι V}
  {links : List (Link ι V σ)} {net net' : Network ι V σ}

/-- All subscribers of a cell that are registered before an operation and not withdrawn during it
are told the same values.  They are told something exactly if a value is stored in the cell, and the
last value that they are told is the one that the cell holds in the end. -/
theorem deliveries_agree (run : Run allowed tr links net.idle) {cell : Cell ι V σ i}
    (here : net.cells i = some cell) {action : Action ι V σ} {limit : Nat}
    (ends : net.perform? limit action = some net') :
    let es := ((net.start action).trace limit).of i
    ∃ told : List (V i),
      (∀ s ∈ cell.subscribers, .withdrawn s.id ∉ es → deliveries s.id es = told) ∧
        (told ≠ [] ↔ ∃ value, .stored value ∈ es) ∧
        ∀ value, told.getLast? = some value → net'.value? i = some value := by
  intro es
  rcases run.turns i with ⟨p, before, now⟩
  obtain ⟨q, during, after⟩ := Machine.turns_run (m := net.start action)
    (now.congr rfl rfl) limit
  rw [run_of_perform ends] at after
  have alive : (net'.cells i).isSome := by
    have kept := Machine.isSome_run (net.start action) limit i
    rw [run_of_perform ends] at kept
    simpa [idle, start, here] using kept
  have ordered : p.Ordered := before.ordered (by simp [Phase.Ordered, Phase.subscribers])
  have fresh : p.Fresh := before.fresh trivial
  -- Nothing runs before the operation, and nothing after it.
  rcases Option.isSome_iff_exists.1 alive with ⟨final, here'⟩
  rcases now.rests rfl here with rfl
  rcases after.rests rfl here' with rfl
  have nothing : (Phase.resting cell.value cell.subscribers cell.nextId).Told [] :=
    ⟨by simp [rounds], by simp [rounds]⟩
  have told := during.told fresh nothing
  refine ⟨rounds es, ?_, told.1, ?_⟩
  · intro s hs stays
    have unserved : (Phase.resting cell.value cell.subscribers cell.nextId).Served s.id [] :=
      ⟨List.mem_map_of_mem hs, rfl⟩
    exact (during.served ordered unserved stays).2
  · intro v last
    have holds : net'.value? i = some final.value := by
      simp [value?, here']
    rw [told.2 v last, holds]

end Operations

/-- Two of the crowd stay, and both are told of both rounds. -/
theorem deliveries_agree_crowd :
    let es := ((crowd.start poke).trace 20).of ()
    ∃ net', crowd.perform? 20 poke = some net' ∧ deliveries 0 es = [1, 2] ∧
      deliveries 2 es = deliveries 0 es ∧ net'.value? () = some 2 := by
  intro es
  obtain ⟨net', ends⟩ :=
    Option.isSome_iff_exists.1 (rfl : (crowd.perform? 20 poke).isSome = true)
  have here : crowd.cells () = some crowdCell := rfl
  rcases deliveries_agree crowd_run here ends with ⟨told, same, -, last⟩
  have first : deliveries 0 es = [1, 2] := by decide
  have zero : deliveries 0 es = told :=
    same ⟨0, meddle⟩ (by simp [crowdCell]) (by decide)
  have two : deliveries 2 es = told :=
    same ⟨2, fun _ => .done⟩ (by simp [crowdCell]) (by decide)
  exact ⟨net', ends, first, two.trans zero.symm, last 2 (by rw [← zero, first]; rfl)⟩

end Network
end FormSnippet
