/-!
# Terminal — taking over the terminal

Setting up the terminal may fail half way.  Before the failure is handed on, the terminal is put
back into the state in which it was found.
-/

namespace FormSnippet

/-- Hands on the result of a set-up, after `restore` if it is a failure. -/
def orRestore {m : Type → Type} [Monad m] {ε α : Type} (result : Except ε α) (restore : m Unit) :
    m (Except ε α) := do
  match result with
  | .ok value => return .ok value
  | .error error => do
      restore
      return .error error

end FormSnippet
