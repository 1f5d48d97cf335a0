import WorkflowManifest.Log.Event

/-!
Extract, transform, load. Items are transformed one by one, the first failure ends the run, and
nothing is loaded unless all of them succeed.
-/

namespace WorkflowManifest

structure Pipeline (m : Type → Type) (ι ο : Type) where
  extract : m (List ι)
  transform : ι → m ο
  load : List ο → m Nat

namespace Pipeline

variable {m : Type → Type} [Monad m] {ι ο : Type}

def transformAll (transform : ι → m ο) : List ι → m (List ο)
  | [] => pure []
  | x :: xs => do
    let y ← transform x
    let ys ← transformAll transform xs
    pure (y :: ys)

def run (p : Pipeline m ι ο) (note : Event → m Unit) : m Nat := do
  note .extracting
  let items ← p.extract
  note (.extracted items.length)
  if items.isEmpty then
    note .nothingExtracted
    pure 0
  else
    note .transforming
    let results ← transformAll p.transform items
    note .loading
    let count ← p.load results
    note (.loaded count)
    pure count

end Pipeline

end WorkflowManifest
