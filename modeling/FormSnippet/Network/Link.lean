import FormSnippet.Network.Machine

/-!
# Link — cells derived from two others

A link keeps a target cell equal to a function of two source cells.  It registers a callback with
each source; a callback takes the delivered value of its own source together with the present value
of the other, and stores the result in the target.  The callbacks name the cells without keeping
them alive: once the target or the other source is gone, they do nothing.
-/

namespace FormSnippet
namespace Network

structure Link (ι : Type) (V : ι → Type) (σ : Type) where
  left : ι
  right : ι
  target : ι
  compute : V left → V right → V target
  /-- What each run of `compute` leaves in the memory. -/
  trace : V left → V right → V target → σ → σ

namespace Link

variable {ι : Type} {V : ι → Type} {σ : Type}

/-- Computes the target anew and stores the result. -/
def refresh (link : Link ι V σ) (x : V link.left) (y : V link.right) : Action ι V σ :=
  let value := link.compute x y
  .note (link.trace x y value) (.set link.target value fun _ => .done)

def onLeft (link : Link ι V σ) (x : V link.left) : Action ι V σ :=
  .get link.target fun
    | none => .done
    | some _ =>
        .get link.right fun
          | none => .done
          | some y => link.refresh x y

def onRight (link : Link ι V σ) (y : V link.right) : Action ι V σ :=
  .get link.target fun
    | none => .done
    | some _ =>
        .get link.left fun
          | none => .done
          | some x => link.refresh x y

end Link

variable {ι : Type} [DecidableEq ι] {V : ι → Type} {σ : Type}

/-- Registers a callback for later changes of cell `i`. -/
def observe (net : Network ι V σ) (i : ι) (callback : V i → Action ι V σ) : Network ι V σ :=
  { net with cells := net.cells.put i ((net.cells i).map (·.observe callback)) }

/-- Adds the target of a link to a network that holds its sources. -/
def derive (net : Network ι V σ) (link : Link ι V σ) : Network ι V σ :=
  match net.value? link.left, net.value? link.right with
  | some x, some y =>
      let value := link.compute x y
      let net : Network ι V σ :=
        { cells := net.cells.put link.target (some (.new value))
          memory := link.trace x y value net.memory }
      (net.observe link.left link.onLeft).observe link.right link.onRight
  | _, _ => net

end Network
end FormSnippet
