import FormSnippet.Proofs.Network.Run

/-!
# Reserved — cells that only their link stores to

The target of a link is handed to nobody as a cell to store in: it can be read, and subscribed to.
So as long as the program spares the target, everything on the stack and everything that is
registered spares it, apart from the two callbacks of the link itself; and when one of those is
running, it is on top of the stack.

- `Action.Spares`    : never stores in the cell
- `Action.Refreshes` : reads, stores in the cell once, and is done
- `Machine.Reserved` : all subscribers and all frames spare the cell, but for those of the link
-/

namespace FormSnippet
namespace Network

variable {ι : Type} {V : ι → Type} {σ : Type}

/-! ## Actions -/

/-- The action does not store anything in the cell, whatever it is handed. -/
def Action.Spares (t : ι) : Action ι V σ → Prop
  | .done => True
  | .get _ next => ∀ value, (next value).Spares t
  | .set i _ next => i ≠ t ∧ ∀ stored, (next stored).Spares t
  | .subscribe _ callback next =>
      (∀ value, (callback value).Spares t) ∧ ∀ id, (next id).Spares t
  | .unsubscribe _ _ next => ∀ found, (next found).Spares t
  | .recall next => ∀ memory, (next memory).Spares t
  | .note _ next => next.Spares t

/-- The action reads, and then stores one value in the cell or none at all. -/
def Action.Refreshes (t : ι) : Action ι V σ → Prop
  | .done => True
  | .get _ next => ∀ value, (next value).Refreshes t
  | .set i _ next => i = t ∧ ∀ stored, next stored = .done
  | .note _ next => next.Refreshes t
  | _ => False

namespace Link

variable {link : Link ι V σ} {t : ι}

theorem onLeft_refreshes (x : V link.left) : (link.onLeft x).Refreshes link.target := by
  intro target
  cases target with
  | none => trivial
  | some _ =>
      intro y
      cases y with
      | none => trivial
      | some y => exact ⟨rfl, fun _ => rfl⟩

theorem onRight_refreshes (y : V link.right) : (link.onRight y).Refreshes link.target := by
  intro target
  cases target with
  | none => trivial
  | some _ =>
      intro x
      cases x with
      | none => trivial
      | some x => exact ⟨rfl, fun _ => rfl⟩

theorem onLeft_spares (other : link.target ≠ t) (x : V link.left) : (link.onLeft x).Spares t := by
  intro target
  cases target with
  | none => trivial
  | some _ =>
      intro y
      cases y with
      | none => trivial
      | some y => exact ⟨other, fun _ => trivial⟩

theorem onRight_spares (other : link.target ≠ t) (y : V link.right) :
    (link.onRight y).Spares t := by
  intro target
  cases target with
  | none => trivial
  | some _ =>
      intro x
      cases x with
      | none => trivial
      | some x => exact ⟨other, fun _ => trivial⟩

end Link

/-! ## Subscribers and frames -/

/-- The subscriber spares the cell unless it is one of `own`. -/
def Tame (t : ι) (own : (i : ι) → Subscriber ι V σ i → Prop) {i : ι} (s : Subscriber ι V σ i) :
    Prop :=
  own i s ∨ ∀ value, (s.callback value).Spares t

def Frame.Spares (t : ι) (own : (i : ι) → Subscriber ι V σ i → Prop) : Frame ι V σ → Prop
  | .act action => action.Spares t
  | .round _ _ called pending => (∀ s ∈ called, Tame t own s) ∧ ∀ s ∈ pending, Tame t own s
  | .enrol _ callback next => (∀ value, (callback value).Spares t) ∧ ∀ id, (next id).Spares t

/-- Everybody who is registered with a cell is tame. -/
def Cells.Tame (cells : Cells ι V σ) (t : ι) (own : (i : ι) → Subscriber ι V σ i → Prop) : Prop :=
  ∀ i cell, cells i = some cell → ∀ s ∈ cell.subscribers, Network.Tame t own s

/-- All frames spare the cell, or all but the top one, which refreshes it. -/
inductive Orderly (t : ι) (own : (i : ι) → Subscriber ι V σ i → Prop) : List (Frame ι V σ) → Prop
  | calm {stack : List (Frame ι V σ)} (spares : ∀ frame ∈ stack, frame.Spares t own) :
      Orderly t own stack
  | refreshing {action : Action ι V σ} {rest : List (Frame ι V σ)} (refreshes : action.Refreshes t)
      (spares : ∀ frame ∈ rest, frame.Spares t own) : Orderly t own (.act action :: rest)

structure Machine.Reserved (m : Machine ι V σ) (t : ι)
    (own : (i : ι) → Subscriber ι V σ i → Prop) : Prop where
  cells : m.cells.Tame t own
  stack : Orderly t own m.stack

section Cells

variable {t : ι} {own own' : (i : ι) → Subscriber ι V σ i → Prop}

theorem Cells.Tame.mono {cells : Cells ι V σ} (h : cells.Tame t own)
    (more : ∀ i s, own i s → own' i s) : cells.Tame t own' := by
  intro i c here s hs
  rcases h i c here s hs with mine | spares
  · exact .inl (more i s mine)
  · exact .inr spares

theorem Cells.Tame.put [DecidableEq ι] {cells : Cells ι V σ} (h : cells.Tame t own) {j : ι}
    {cell : Option (Cell ι V σ j)}
    (tame : ∀ c, cell = some c → ∀ s ∈ c.subscribers, Network.Tame t own s) :
    (cells.put j cell).Tame t own := by
  intro i c here
  by_cases same : i = j
  · subst same
    exact tame c (by simpa using here)
  · rw [Cells.put_other _ _ same] at here
    exact h i c here

end Cells

/-! ## Steps -/

namespace Move

variable [DecidableEq ι] {t : ι} {own : (i : ι) → Subscriber ι V σ i → Prop}
  {m m' : Machine ι V σ} {es : Trace ι V}

/-- While no callback of the link is running, a step leaves it so, or calls one of them. -/
theorem calm (move : Move m es m') (cells : m.cells.Tame t own)
    (spares : ∀ frame ∈ m.stack, frame.Spares t own) :
    m'.cells.Tame t own ∧
      ((∀ frame ∈ m'.stack, frame.Spares t own) ∨
        ∃ i s value rest, own i s ∧ ⟨i, .called s.id value⟩ ∈ es ∧
          m'.stack = .act (s.callback value) :: rest ∧
          ∀ frame ∈ rest, frame.Spares t own) := by
  -- Whatever a frame holds is tame, so what it becomes is; only the call of a subscriber may bring
  -- up a callback of the link.
  cases move with
  | idle => exact ⟨cells, .inl spares⟩
  | done | roundNowhere =>
      simp only [List.forall_mem_cons] at spares
      exact ⟨cells, .inl spares.2⟩
  | get | remember | withdrawNowhere =>
      simp only [List.forall_mem_cons] at spares ⊢
      exact ⟨cells, .inl ⟨spares.1 _, spares.2⟩⟩
  | note =>
      simp only [List.forall_mem_cons] at spares ⊢
      exact ⟨cells, .inl spares⟩
  | storeNowhere | subscribeNowhere | enrolNowhere =>
      simp only [List.forall_mem_cons] at spares ⊢
      exact ⟨cells, .inl ⟨spares.1.2 _, spares.2⟩⟩
  | @storeLater all memory rest i value next cell here =>
      simp only [List.forall_mem_cons] at spares ⊢
      refine ⟨cells.put ?_, .inl ⟨spares.1.2 _, spares.2⟩⟩
      rintro c ⟨⟩
      exact cells i cell here
  | @store all memory rest i value next cell here =>
      simp only [List.forall_mem_cons] at spares ⊢
      refine ⟨cells.put ?_, .inl ⟨⟨?_, cells i cell here⟩, spares.1.2 _, spares.2⟩⟩
      · rintro c ⟨⟩ s ⟨⟩
      · rintro s ⟨⟩
  | subscribe here =>
      simp only [List.forall_mem_cons] at spares ⊢
      exact ⟨cells, .inl ⟨spares.1.1 _, spares.1, spares.2⟩⟩
  | @withdraw all memory rest i id next cell here =>
      simp only [List.forall_mem_cons] at spares ⊢
      refine ⟨cells.put ?_, .inl ⟨spares.1 _, spares.2⟩⟩
      rintro c ⟨⟩ s hs
      exact cells i cell here s (List.mem_filter.1 hs).1
  | @enrol all memory rest i callback next cell here =>
      simp only [List.forall_mem_cons] at spares ⊢
      refine ⟨cells.put ?_, .inl ⟨spares.1.2 _, spares.2⟩⟩
      rintro c ⟨⟩ s hs
      rcases List.mem_append.1 hs with old | new
      · exact cells i cell here s old
      · rcases List.mem_singleton.1 new with rfl
        exact .inr spares.1.1
  | pass =>
      simp only [List.forall_mem_cons] at spares ⊢
      rcases spares with ⟨⟨before, waiting⟩, below⟩
      rcases List.forall_mem_cons.1 waiting with ⟨head, after⟩
      refine ⟨cells, .inl ⟨⟨?_, after⟩, below⟩⟩
      exact List.forall_mem_append.2 ⟨before, by simpa using head⟩
  | @call all memory rest i value called pending s cell here present =>
      simp only [List.forall_mem_cons] at spares
      rcases spares with ⟨⟨before, waiting⟩, below⟩
      rcases List.forall_mem_cons.1 waiting with ⟨head, after⟩
      have round : (Frame.round i value (called ++ [s]) pending).Spares t own :=
        ⟨List.forall_mem_append.2 ⟨before, by simpa using head⟩, after⟩
      have others := List.forall_mem_cons.2 ⟨round, below⟩
      -- This is the one step that may leave the stack with a callback of the link on top.
      rcases head with mine | quiet
      · exact ⟨cells, .inr ⟨i, s, value, _, mine, by simp, rfl, others⟩⟩
      · exact ⟨cells, .inl (List.forall_mem_cons.2 ⟨quiet value, others⟩)⟩
  | @again all memory rest i value called cell here dirty =>
      simp only [List.forall_mem_cons] at spares ⊢
      rcases spares with ⟨⟨before, -⟩, below⟩
      -- The list that goes back into the cell is the round's own and that of the newcomers.
      have merged : ∀ s ∈ (cell.endRound called).subscribers, Network.Tame t own s :=
        List.forall_mem_append.2 ⟨fun s hs => before s (List.mem_filter.1 hs).1, cells i cell here⟩
      refine ⟨cells.put ?_, .inl ⟨⟨?_, merged⟩, below⟩⟩
      · rintro c ⟨⟩ s ⟨⟩
      · rintro s ⟨⟩
  | @finish all memory rest i value called cell here clean =>
      simp only [List.forall_mem_cons] at spares
      rcases spares with ⟨⟨before, -⟩, below⟩
      refine ⟨cells.put ?_, .inl below⟩
      rintro c ⟨⟩
      exact List.forall_mem_append.2
        ⟨fun s hs => before s (List.mem_filter.1 hs).1, cells i cell here⟩

/-- A callback of the link is through once it has stored its value. -/
theorem refreshed {value : V t} {next : Bool → Action ι V σ} {rest : List (Frame ι V σ)}
    (move : Move m es m') (top : m.stack = .act (.set t value next) :: rest)
    (cells : m.cells.Tame t own) (last : ∀ stored, next stored = .done)
    (spares : ∀ frame ∈ rest, frame.Spares t own) :
    m'.cells.Tame t own ∧ ∀ frame ∈ m'.stack, frame.Spares t own := by
  have through : ∀ stored, (Frame.act (next stored)).Spares t own := by
    intro stored
    simp [Frame.Spares, last stored, Action.Spares]
  cases move with
  | storeNowhere =>
      cases top
      exact ⟨cells, List.forall_mem_cons.2 ⟨through false, spares⟩⟩
  | @storeLater all memory rest i value next cell here =>
      cases top
      refine ⟨cells.put ?_, List.forall_mem_cons.2 ⟨through true, spares⟩⟩
      rintro c ⟨⟩
      exact cells t cell here
  | @store all memory rest i value next cell here =>
      cases top
      have round : (Frame.round t value [] cell.subscribers).Spares t own :=
        ⟨by simp, cells t cell here⟩
      have others := List.forall_mem_cons.2 ⟨through true, spares⟩
      refine ⟨cells.put ?_, List.forall_mem_cons.2 ⟨round, others⟩⟩
      rintro c ⟨⟩ s ⟨⟩
  | _ => cases top

/-- A callback of the link goes on reading, or it is through. -/
theorem refreshing {action : Action ι V σ} {rest : List (Frame ι V σ)} (move : Move m es m')
    (top : m.stack = .act action :: rest) (cells : m.cells.Tame t own)
    (refreshes : action.Refreshes t) (spares : ∀ frame ∈ rest, frame.Spares t own) :
    m'.cells.Tame t own ∧ Orderly t own m'.stack := by
  cases action with
  | done =>
      cases move <;> cases top
      exact ⟨cells, .calm spares⟩
  | get =>
      cases move <;> cases top
      exact ⟨cells, .refreshing (refreshes _) spares⟩
  | note =>
      cases move <;> cases top
      exact ⟨cells, .refreshing refreshes spares⟩
  | set i value next =>
      rcases refreshes with ⟨rfl, last⟩
      rcases move.refreshed top cells last spares with ⟨tame, calm⟩
      exact ⟨tame, .calm calm⟩
  | _ => cases refreshes

theorem reserved (move : Move m es m') (refreshes : ∀ i s, own i s → ∀ value,
    (s.callback value).Refreshes t) (h : m.Reserved t own) : m'.Reserved t own := by
  rcases h with ⟨cells, orderly⟩
  generalize same : m.stack = stack at orderly
  cases orderly with
  | calm spares =>
      subst same
      rcases move.calm cells spares with ⟨tame, calm | ⟨i, s, value, rest, mine, -, top, below⟩⟩
      · exact ⟨tame, .calm calm⟩
      · exact ⟨tame, by rw [top]; exact .refreshing (refreshes i s mine value) below⟩
  | refreshing top below =>
      rcases move.refreshing same cells top below with ⟨tame, orderly⟩
      exact ⟨tame, orderly⟩

end Move

/-! ## Runs -/

section Runs

variable [DecidableEq ι] {t : ι} {own : (i : ι) → Subscriber ι V σ i → Prop} {net : Network ι V σ}

theorem observe_tame {j : ι} {callback : V j → Action ι V σ} (h : net.cells.Tame t own)
    (tame : ∀ cell, net.cells j = some cell → Tame t own (⟨cell.nextId, callback⟩ :
      Subscriber ι V σ j)) : (net.observe j callback).cells.Tame t own := by
  refine h.put ?_
  intro c observed s hs
  rcases Option.map_eq_some_iff.1 observed with ⟨cell, here, rfl⟩
  rcases List.mem_append.1 hs with old | new
  · exact h j cell here s old
  · rcases List.mem_singleton.1 new with rfl
    exact tame cell here

theorem create_tame {j : ι} (value : V j) (h : net.cells.Tame t own) :
    (net.create j value).cells.Tame t own := by
  refine h.put ?_
  rintro c ⟨⟩ s ⟨⟩

theorem derive_tame {link : Link ι V σ} {x : V link.left} {y : V link.right}
    (h : net.cells.Tame t own) (left : net.value? link.left = some x)
    (right : net.value? link.right = some y)
    (onLeft : ∀ cell, (net.create link.target (link.compute x y)).cells link.left = some cell →
      Tame t own (⟨cell.nextId, link.onLeft⟩ : Subscriber ι V σ link.left))
    (onRight : ∀ cell, ((net.create link.target (link.compute x y)).observe link.left
      link.onLeft).cells link.right = some cell →
        Tame t own (⟨cell.nextId, link.onRight⟩ : Subscriber ι V σ link.right)) :
    (net.derive link).cells.Tame t own := by
  rw [derive_eq left right]
  exact observe_tame (observe_tame (create_tame _ h) onLeft) onRight

theorem drop_tame (j : ι) (h : net.cells.Tame t own) : (net.drop j).cells.Tame t own := by
  refine h.put ?_
  rintro c ⟨⟩

/-- While no link has the target, everything spares it. -/
theorem Run.reserved {tr : Trace ι V} {links : List (Link ι V σ)} {m : Machine ι V σ}
    (run : Run (·.Spares t) tr links m) (apart : ∀ link ∈ links, link.target ≠ t) :
    m.Reserved t (fun _ _ => False) := by
  induction run with
  | empty =>
      exact ⟨by rintro i c ⟨⟩, .calm (by simp [idle])⟩
  | create run fresh value ih =>
      exact ⟨create_tame value (ih apart).cells, .calm (by simp [idle])⟩
  | derive run fresh left right ih =>
      -- The new callbacks store in a target of their own.
      simp only [List.forall_mem_cons] at apart
      have tame := derive_tame (ih apart.2).cells left right
        (fun _ _ => .inr (Link.onLeft_spares apart.1))
        (fun _ _ => .inr (Link.onRight_spares apart.1))
      exact ⟨tame, .calm (by simp [idle])⟩
  | drop run here ih =>
      exact ⟨drop_tame _ (ih apart).cells, .calm (by simp [idle])⟩
  | start run ok ih =>
      exact ⟨(ih apart).cells, .calm (by simpa [Network.start, Frame.Spares] using ok)⟩
  | step run ih =>
      exact (Machine.move _).reserved (by simp) (ih apart)

end Runs
end Network
end FormSnippet
