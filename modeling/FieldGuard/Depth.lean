/-!
Depth of nesting. Work on nested data is done by nested calls, and the host stops it with an error
where too many are open. How many more it allows depends on the calls that are open when a task
begins, so every task has a limit of its own.
-/

namespace FieldGuard

inductive Task where
  | tagText
  | keyText
  | contextText
  | hints
  | reading
  | writing
  deriving DecidableEq, Repr

class DepthLimit where
  limit : Task → Nat
  le_limit (task : Task) : 8 ≤ limit task

end FieldGuard
